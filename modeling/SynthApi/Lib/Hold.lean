import SynthApi.Lib.Run

/-!
# Holds

A hold is an amount taken from an account ahead of its use. It can be extended while it is open; it ends when an amount
is captured, or when it is released. The first of the two ends it for good (`run_captured`, `run_released`).
-/

namespace Lib

inductive Hold where
  | held (amount : Int)
  | captured (amount : Int)
  | released
  deriving DecidableEq, Repr

namespace Hold

inductive Op where
  | extend (amount : Int)
  | capture (amount : Int)
  | release
  deriving DecidableEq, Repr

/-- An operation acts on an open hold only. -/
def step : Hold → Op → Hold
  | .held _, .extend amount => .held amount
  | .held _, .capture amount => .captured amount
  | .held _, .release => .released
  | .captured amount, _ => .captured amount
  | .released, _ => .released

/-- What the account is short of. -/
def debit : Hold → Int
  | .held amount => amount
  | .captured amount => amount
  | .released => 0

theorem run_captured (amount : Int) (ops : List Op) : run step (.captured amount) ops = .captured amount :=
  run_inv (I := fun h : Hold => h = .captured amount) (fun _ _ h => by rw [h]; rfl) ops rfl

theorem run_released (ops : List Op) : run step .released ops = .released :=
  run_inv (I := fun h : Hold => h = .released) (fun _ _ h => by rw [h]; rfl) ops rfl

end Hold

end Lib
