import Mathlib.Data.List.Basic

/-!
# Code that may panic

Go code that returns `(T, error)` is a function into `Except (Stop ε) T`: it gives a value, returns an error, or panics.
-/

namespace Lib

/-- Why code gave no value: it returned the error `e`, or it panicked. -/
inductive Stop (ε : Type*) where
  | error (e : ε)
  | panic
  deriving DecidableEq, Repr

/-- What a pointer points to; the code panics at one that is nil. -/
def deref {ε : Type*} {α : Type*} : Option α → Except (Stop ε) α
  | some a => .ok a
  | none => .error .panic

end Lib
