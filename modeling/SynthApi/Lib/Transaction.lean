import Mathlib.Data.List.Basic

/-!
# Transactions

The body of a transaction is a function `σ → Except ε (α × σ)`: a failing body has no state to return, which is the
rollback. `transaction fault body` runs it on the stored state: it commits the body's state on success and keeps the
old one on an error. `fault` is the error of a statement or of the commit that failed for a reason outside the body.

`require` is a check and `attempt` a statement of the body, `bind_ok` takes a body apart.

`Halt ε` separates the two ways in which code may fail to produce a value: it returned an error, or a loop of it has
not come to an end within the step bound it was given.
-/

namespace Lib

/-- Why code produced no value: it returned the error `e`, or it has not ended within its step bound. -/
inductive Halt (ε : Type*) where
  | error (e : ε)
  | diverge
  deriving DecidableEq, Repr

def Halt.map {ε δ : Type*} (f : ε → δ) : Halt ε → Halt δ
  | .error e => .error (f e)
  | .diverge => .diverge

section Checks

universe u

variable {ε : Type*} {α β : Type u}

/-- Go on if `p` holds, else return the error `e`. -/
def require (p : Prop) [Decidable p] (e : ε) : Except ε Unit := if p then .ok () else .error e

theorem require_ok {p : Prop} [Decidable p] {e : ε} {u : Unit} (h : require p e = .ok u) : p := by
  unfold require at h
  split at h
  · assumption
  · cases h

/-- A statement that may fail. -/
def attempt (fault : Option ε) : Except ε Unit :=
  match fault with
  | some e => .error e
  | none => .ok ()

/-- What returns has passed each of its parts. -/
theorem bind_ok {x : Except ε α} {f : α → Except ε β} {b : β} (h : (x >>= f) = .ok b) :
    ∃ a, x = .ok a ∧ f a = .ok b := by
  cases x with
  | error e => cases h
  | ok a => exact ⟨a, rfl, h⟩

end Checks

section Transaction

variable {σ ε α : Type*}

/-- Run `body` on the stored state: commit its state on success, keep the old one on an error. -/
def transaction (fault : Option ε) (body : σ → Except (Halt ε) (α × σ)) (s : σ) : Except (Halt ε) α × σ :=
  match fault with
  | some e => (.error (.error e), s)
  | none =>
    match body s with
    | .ok (a, s') => (.ok a, s')
    | .error e => (.error e, s)

variable {fault : Option ε} {body : σ → Except (Halt ε) (α × σ)} {s s' : σ} {e : Halt ε}

/-- **All or nothing**: a transaction commits what its body did, or changes nothing. -/
theorem transaction_cases (fault : Option ε) (body : σ → Except (Halt ε) (α × σ)) (s : σ) :
    (∃ a s', fault = none ∧ body s = .ok (a, s') ∧ transaction fault body s = (.ok a, s')) ∨
      ∃ e, transaction fault body s = (.error e, s) := by
  cases fault with
  | some e => exact .inr ⟨_, rfl⟩
  | none =>
    cases h : body s with
    | ok r => exact .inl ⟨r.1, r.2, rfl, rfl, by simp [transaction, h]⟩
    | error e => exact .inr ⟨e, by simp [transaction, h]⟩

theorem transaction_ok {a : α} (h : transaction fault body s = (.ok a, s')) : fault = none ∧ body s = .ok (a, s') := by
  obtain ⟨b, t, hf, hb, ht⟩ | ⟨e, he⟩ := transaction_cases fault body s
  · rw [ht] at h; cases h; exact ⟨hf, hb⟩
  · rw [he] at h; cases h

theorem transaction_error (h : transaction fault body s = (.error e, s')) : s' = s := by
  obtain ⟨b, t, -, -, ht⟩ | ⟨e', he⟩ := transaction_cases fault body s
  · rw [ht] at h; cases h
  · rw [he] at h; cases h; rfl

@[simp] theorem transaction_of_ok {a : α} (h : body s = .ok (a, s')) : transaction none body s = (.ok a, s') := by
  simp [transaction, h]

@[simp] theorem transaction_of_error (h : body s = .error e) :
    transaction none body s = (.error e, s) := by
  simp [transaction, h]

theorem transaction_inv {I : σ → Prop} (hbody : ∀ a s', body s = .ok (a, s') → I s') (hs : I s) :
    I (transaction fault body s).2 := by
  obtain ⟨b, t, -, hb, ht⟩ | ⟨e, he⟩ := transaction_cases fault body s
  · rw [ht]; exact hbody _ _ hb
  · rw [he]; exact hs

end Transaction

end Lib
