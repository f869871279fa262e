import Mathlib.Data.List.Basic
import Mathlib.Data.Option.Basic

/-!
# Machines that may reject

`watch step s events` is a run of a machine whose step may reject an event. A second machine tells when the first one
rejects if both agree on every step: they reject together, and else go to related states (`Option.Rel`). The rules are
`rel_bind`, for one step after another, and `any_of_rel`, for the verdict.
-/

namespace Lib

section Watch

variable {σ ε : Type*} (step : σ → ε → Option σ)

/-- The state after the events, if none of them is rejected. -/
def watch (s : σ) (events : List ε) : Option σ := events.foldlM step s

@[simp] theorem watch_nil (s : σ) : watch step s [] = some s := rfl

@[simp] theorem watch_cons (s : σ) (e : ε) (events : List ε) :
    watch step s (e :: events) = (step s e).bind (watch step · events) := rfl

theorem watch_append (s : σ) (events rest : List ε) :
    watch step s (events ++ rest) = (watch step s events).bind (watch step · rest) :=
  List.foldlM_append

end Watch

section Rel

variable {α β γ δ : Type*} {R : α → β → Prop} {Q : γ → δ → Prop} {a : Option α} {b : Option β}

theorem rel_bind {f : α → Option γ} {g : β → Option δ} (h : Option.Rel R a b)
    (hnext : ∀ x y, R x y → Option.Rel Q (f x) (g y)) : Option.Rel Q (a.bind f) (b.bind g) := by
  cases h with
  | none => exact .none
  | some hxy => exact hnext _ _ hxy

theorem rel_imp {S : α → β → Prop} (h : Option.Rel R a b) (himp : ∀ x y, a = some x → b = some y → R x y → S x y) :
    Option.Rel S a b := by
  cases h with
  | none => exact .none
  | some hxy => exact .some (himp _ _ rfl rfl hxy)

theorem rel_map_right {S : α → δ → Prop} {g : β → δ} (h : Option.Rel R a b) (hmap : ∀ x y, R x y → S x (g y)) :
    Option.Rel S a (b.map g) := by
  cases h with
  | none => exact .none
  | some hxy => exact .some (hmap _ _ hxy)

theorem exists_of_rel_some {y : β} (h : Option.Rel R a (some y)) : ∃ x, a = some x ∧ R x y := by
  cases h with
  | some hxy => exact ⟨_, rfl, hxy⟩

theorem any_of_rel {p : α → Bool} {q : β → Bool} (h : Option.Rel R a b) (heq : ∀ x y, R x y → p x = q y) :
    a.any p = b.any q := by
  cases h with
  | none => rfl
  | some hxy => exact heq _ _ hxy

end Rel

end Lib
