import Mathlib.Algebra.BigOperators.Group.List.Basic
import Mathlib.Algebra.Order.Group.Int
import Mathlib.Data.List.Nodup
import Mathlib.Tactic.Abel

/-!
# Tables of rows

A table is a list of rows. `lookup` is a query for the first row that meets a condition, `updateWhere` an UPDATE: it
rewrites the rows that meet a condition and keeps their order. The lemmas say what a query by key answers after an
UPDATE by key, for an UPDATE that keeps the keys. `Option.Rel R` relates what the same query finds in two states of a table.
-/

namespace Lib.Table

open List

section Rows

variable {α κ : Type*} [DecidableEq κ]

def lookup (key : α → κ) (k : κ) (rows : List α) : Option α := rows.find? fun r => decide (key r = k)

def updateWhere (p : α → Bool) (f : α → α) (rows : List α) : List α := rows.map fun r => if p r then f r else r

def updateKey (key : α → κ) (k : κ) (f : α → α) (rows : List α) : List α :=
  updateWhere (fun r => decide (key r = k)) f rows

variable {key : α → κ} {k l : κ} {f : α → α} {rows : List α}

@[simp] theorem lookup_nil : lookup key k ([] : List α) = none := rfl

theorem lookup_cons (r : α) : lookup key k (r :: rows) = if key r = k then some r else lookup key k rows := by
  by_cases h : key r = k <;> simp [lookup, h]

variable {r : α}

theorem mem_of_lookup (h : lookup key k rows = some r) : r ∈ rows := mem_of_find?_eq_some h

theorem key_of_lookup (h : lookup key k rows = some r) : key r = k := by
  simpa using find?_some h

theorem lookup_isSome (h : r ∈ rows) (hk : key r = k) : (lookup key k rows).isSome := by
  simp only [lookup, find?_isSome]
  exact ⟨r, h, by simp [hk]⟩

theorem lookup_of_nodup (hd : (rows.map key).Nodup) (h : r ∈ rows) : lookup key (key r) rows = some r := by
  induction rows with
  | nil => cases h
  | cons q rows ih =>
    rw [map_cons, nodup_cons] at hd
    rw [lookup_cons]
    rcases mem_cons.1 h with rfl | hr
    · rw [if_pos rfl]
    · have hne : key q ≠ key r := fun heq => hd.1 (heq ▸ mem_map_of_mem hr)
      rw [if_neg hne]
      exact ih hd.2 hr

omit [DecidableEq κ] in
theorem eq_of_key {q r : α} (hd : (rows.map key).Nodup) (hq : q ∈ rows) (hr : r ∈ rows) (hk : key q = key r) :
    q = r := inj_on_of_nodup_map hd hq hr hk

theorem lookup_eq_none : lookup key k rows = none ↔ ∀ r ∈ rows, key r ≠ k := by simp [lookup]

theorem lookup_append {rows' : List α} :
    lookup key k (rows ++ rows') = (lookup key k rows).or (lookup key k rows') := by simp [lookup]

variable {p : α → Bool} {β : Type*} {g : α → α}

theorem mem_updateWhere :
    r ∈ updateWhere p f rows ↔ (r ∈ rows ∧ p r = false) ∨ ∃ q ∈ rows, p q ∧ r = f q := by
  simp only [updateWhere, mem_map]
  constructor
  · rintro ⟨q, hq, rfl⟩
    cases hp : p q with
    | true => exact .inr ⟨q, hq, hp, by simp⟩
    | false => exact .inl ⟨by simpa using hq, by simpa using hp⟩
  · rintro (⟨hr, hp⟩ | ⟨q, hq, hp, rfl⟩)
    · exact ⟨r, hr, by simp [hp]⟩
    · exact ⟨q, hq, by simp [hp]⟩

theorem mem_updateKey : r ∈ updateKey key k f rows ↔ (r ∈ rows ∧ key r ≠ k) ∨ ∃ q ∈ rows, key q = k ∧ r = f q := by
  simp [updateKey, mem_updateWhere]

theorem lookup_updateWhere (hf : ∀ r, p r → key (f r) = key r) :
    lookup key k (updateWhere p f rows) = (lookup key k rows).map fun r => if p r then f r else r := by
  induction rows with
  | nil => rfl
  | cons r rows ih =>
    simp only [updateWhere, map_cons] at ih ⊢
    have hkey : key (if p r then f r else r) = key r := by
      split
      · exact hf r ‹_›
      · rfl
    rw [lookup_cons, lookup_cons, hkey]
    split
    · rfl
    · exact ih

variable (hf : ∀ r, key r = k → key (f r) = k)

include hf

theorem lookup_updateKey_map :
    lookup key l (updateKey key k f rows) = (lookup key l rows).map fun r => if l = k then f r else r := by
  have hkeep : ∀ r, decide (key r = k) → key (f r) = key r := fun r hr =>
    (hf r (of_decide_eq_true hr)).trans (of_decide_eq_true hr).symm
  rw [updateKey, lookup_updateWhere hkeep]
  refine Option.map_congr fun r hr => ?_
  simp [key_of_lookup hr]

theorem lookup_updateKey :
    lookup key k (updateKey key k f rows) = (lookup key k rows).map f := by
  simp [lookup_updateKey_map hf]

theorem lookup_updateKey_ne (hl : l ≠ k) :
    lookup key l (updateKey key k f rows) = lookup key l rows := by
  simp [lookup_updateKey_map hf, hl]

omit hf

theorem map_lookup_updateKey {g : α → β} (hf : ∀ r, key (f r) = key r) (hg : ∀ r, g (f r) = g r) :
    (lookup key l (updateKey key k f rows)).map g = (lookup key l rows).map g := by
  rw [updateKey, lookup_updateWhere fun r _ => hf r, Option.map_map]
  congr 1
  funext r
  simp only [Function.comp]
  split
  · exact hg r
  · rfl

theorem updateKey_updateKey (hf : ∀ r, key r = k → key (f r) = k) :
    updateKey key k g (updateKey key k f rows) = updateKey key k (g ∘ f) rows := by
  simp only [updateKey, updateWhere, map_map]
  apply map_congr_left
  intro r _
  by_cases h : key r = k <;> simp [h, hf]

theorem updateKey_id (hf : ∀ r ∈ rows, key r = k → f r = r) : updateKey key k f rows = rows := by
  conv_rhs => rw [← map_id rows]
  apply map_congr_left
  intro r hr
  by_cases h : key r = k <;> simp [h, hf r hr]

theorem updateKey_cancel (hf : ∀ r, key r = k → key (f r) = k) (hg : ∀ r, g (f r) = r) :
    updateKey key k g (updateKey key k f rows) = rows := by
  rw [updateKey_updateKey hf]
  exact updateKey_id fun r _ _ => hg r

theorem updateKey_concat (hr : key r = k) (hnew : k ∉ rows.map key) :
    updateKey key k f (rows ++ [r]) = rows ++ [f r] := by
  have hrows : updateKey key k f rows = rows :=
    updateKey_id fun q hq hk => absurd (hk ▸ mem_map_of_mem hq) hnew
  have happend : updateKey key k f (rows ++ [r]) = updateKey key k f rows ++ [f r] := by simp [updateKey, updateWhere, hr]
  rw [happend, hrows]

theorem map_updateKey {g : α → β} (hf : ∀ r, key r = k → g (f r) = g r) :
    (updateKey key k f rows).map g = rows.map g := by
  simp only [updateKey, updateWhere, map_map]
  apply map_congr_left
  intro r _
  by_cases h : key r = k <;> simp [h, hf]

end Rows

section Rel

variable {α β : Type*} {R : α → β → Prop} {x : Option α} {y : Option β}

theorem rel_left {a : α} (h : Option.Rel R x y) (hx : x = some a) : ∃ b, y = some b ∧ R a b := by
  subst hx
  cases h with
  | some hab => exact ⟨_, rfl, hab⟩

theorem rel_right {b : β} (h : Option.Rel R x y) (hy : y = some b) : ∃ a, x = some a ∧ R a b := by
  subst hy
  cases h with
  | some hab => exact ⟨_, rfl, hab⟩

theorem rel_none (h : Option.Rel R x y) (hx : x = none) : y = none := by
  subst hx
  cases h with
  | none => rfl

theorem rel_refl {R : α → α → Prop} (hrefl : ∀ a, R a a) (x : Option α) : Option.Rel R x x := by
  cases x with
  | none => exact .none
  | some a => exact .some (hrefl a)

theorem rel_trans {R : α → α → Prop} (htrans : ∀ a b c, R a b → R b c → R a c) {x y z : Option α}
    (h : Option.Rel R x y) (h' : Option.Rel R y z) : Option.Rel R x z := by
  cases h with
  | none => exact h'
  | some hab =>
    cases h' with
    | some hbc => exact .some (htrans _ _ _ hab hbc)

end Rel

section Columns

variable {β : Type*} [DecidableEq β]

/-- A column after an UPDATE by a record whose zero fields are not written. -/
def setNonzero (zero new old : β) : β := if new = zero then old else new

@[simp] theorem setNonzero_self (zero x : β) : setNonzero zero x x = x := ite_self _

theorem setNonzero_eq_iff {zero new old : β} : setNonzero zero new old = old ↔ new = zero ∨ old = new := by
  by_cases h : new = zero
  · simp [setNonzero, h]
  · rw [setNonzero, if_neg h, or_iff_right h]
    exact eq_comm

end Columns

section Ids

/-- The id that a table with an integer primary key gives to its next row. -/
def nextId (ids : List Int) : Int := ids.foldl max 0 + 1

theorem le_foldl_max {l : List Int} {a x : Int} (h : x ∈ l ∨ x ≤ a) : x ≤ l.foldl max a := by
  induction l generalizing a with
  | nil => simpa using h
  | cons y l ih =>
    refine ih ?_
    rcases h with h | h
    · rcases mem_cons.1 h with rfl | h
      · exact .inr (le_max_right _ _)
      · exact .inl h
    · exact .inr (h.trans (le_max_left _ _))

theorem nextId_not_mem (ids : List Int) : nextId ids ∉ ids := by
  intro h
  have hle := le_foldl_max (a := 0) (.inl h)
  unfold nextId at hle
  omega

end Ids

section Sums

variable {α M : Type*} [DecidableEq κ] [AddCommGroup M] {key : α → κ} {f : α → α} {rows : List α}

theorem sum_updateKey (g : α → M) {r : α} (hd : (rows.map key).Nodup) (hr : r ∈ rows) :
    ((updateKey key (key r) f rows).map g).sum = (rows.map g).sum + (g (f r) - g r) := by
  induction rows with
  | nil => cases hr
  | cons q rows ih =>
    rw [map_cons, nodup_cons] at hd
    simp only [updateKey, updateWhere, map_cons, sum_cons] at ih ⊢
    rcases mem_cons.1 hr with rfl | hr
    · have hrest : updateKey key (key r) f rows = rows :=
        updateKey_id fun q hq hk => absurd (hk ▸ mem_map_of_mem hq) hd.1
      simp only [updateKey, updateWhere] at hrest
      rw [hrest]
      simp only [decide_true, if_true]
      abel
    · have hne : key q ≠ key r := fun heq => hd.1 (heq ▸ mem_map_of_mem hr)
      rw [ih hd.2 hr]
      simp only [hne, decide_false, Bool.false_eq_true, if_false]
      abel

end Sums

end Lib.Table
