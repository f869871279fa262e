import SynthApi.Lib.Table
import Mathlib.Data.List.AList

/-!
# Counters that are written behind

Amounts are added to the rows of a table: `act d r` is the row `r` with `d` added to its counters (`IsAction`). Instead of
writing an amount at once, it can wait in a map (`Pending`); a flush writes the sums. `addAll` is the table with everything
that waits. A write before or after it is one more amount that waits (`addAll_write`, `write_addAll`), and a flush in any
order of the keys makes it true (`writeAll_eq`).
-/

namespace Lib.Counter

open Lib.Table

/-- Amounts that wait, by key. -/
abbrev Pending (κ M : Type*) := AList fun _ : κ => M

section Pending

variable {κ M : Type*} [DecidableEq κ] [AddMonoid M]

/-- What waits under a key; nothing waits under a key that is not there. -/
def get (p : Pending κ M) (k : κ) : M := (p.lookup k).getD 0

def add (p : Pending κ M) (k : κ) (d : M) : Pending κ M :=
  match p.lookup k with
  | none => p.insert k d
  | some v => p.insert k (v + d)

@[simp] theorem get_empty (k : κ) : get (∅ : Pending κ M) k = 0 := rfl

theorem get_of_not_mem {p : Pending κ M} {k : κ} (h : k ∉ p.keys) : get p k = 0 := by
  rw [get, AList.lookup_eq_none.2 (mt AList.mem_keys.1 h)]
  rfl

theorem get_add (p : Pending κ M) (k : κ) (d : M) : get (add p k d) = Function.update (get p) k (get p k + d) := by
  funext l
  unfold add
  by_cases h : l = k
  · subst h
    cases hl : p.lookup l with
    | none => simp [get, hl]
    | some v => simp [get, hl]
  · rw [Function.update_of_ne h]
    cases p.lookup k <;> simp [get, AList.lookup_insert_ne h]

end Pending

section Rows

variable {κ α M : Type*} [DecidableEq κ] [AddCommMonoid M]

/-- `act` adds amounts to the counters of a row. -/
structure IsAction (key : α → κ) (act : M → α → α) : Prop where
  zero : ∀ r, act 0 r = r
  add : ∀ a b r, act (a + b) r = act b (act a r)
  key_act : ∀ a r, key (act a r) = key r

def addAll (key : α → κ) (act : M → α → α) (val : κ → M) (rows : List α) : List α :=
  rows.map fun r => act (val (key r)) r

def writeAll (key : α → κ) (act : M → α → α) (val : κ → M) (ks : List κ) (rows : List α) : List α :=
  ks.foldl (fun rows k => updateKey key k (act (val k)) rows) rows

/-- The amounts without those that are skipped. -/
def but (skip : κ → Bool) (val : κ → M) (k : κ) : M := if skip k then 0 else val k

omit [DecidableEq κ] in
theorem but_zero {skip : κ → Bool} {val : κ → M} {k : κ} (h : val k = 0) : but skip val k = 0 := by
  rw [but, h, ite_self]

omit [DecidableEq κ] in
/-- Only amounts of 0 can be skipped without a trace. -/
theorem addAll_but_iff {key : α → κ} {act : M → α → α} (hact : ∀ r, Function.Injective (act · r)) (skip : κ → Bool)
    (val : κ → M) (rows : List α) : addAll key act (but skip val) rows = addAll key act val rows ↔
      ∀ r ∈ rows, skip (key r) → val (key r) = 0 := by
  refine List.map_inj_left.trans (forall₂_congr fun r _ => ?_)
  cases hskip : skip (key r) with
  | true => simpa [but, hskip, eq_comm] using (hact r).eq_iff
  | false => simp [but, hskip]

variable {key : α → κ} {act : M → α → α} {val : κ → M} {k : κ} {d : M} {rows : List α} (h : IsAction key act)
  {ks : List κ}

include h

omit [DecidableEq κ] in
theorem addAll_zero : addAll key act (fun _ => 0) rows = rows := by simp [addAll, h.zero]

theorem lookup_addAll :
    lookup key k (addAll key act val rows) = (lookup key k rows).map (act (val k)) := by
  induction rows with
  | nil => rfl
  | cons r rows ih =>
    simp only [addAll, List.map_cons] at ih ⊢
    rw [lookup_cons, lookup_cons, h.key_act]
    by_cases hk : key r = k
    · rw [if_pos hk, if_pos hk, hk]
      rfl
    · rw [if_neg hk, if_neg hk]
      exact ih

theorem updateKey_zero : updateKey key k (act 0) rows = rows :=
  updateKey_id fun r _ _ => h.zero r

theorem updateKey_add (a b : M) :
    updateKey key k (act b) (updateKey key k (act a) rows) = updateKey key k (act (a + b)) rows := by
  rw [updateKey_updateKey fun r hr => (h.key_act a r).trans hr]
  congr 1
  funext r
  exact (h.add a b r).symm

theorem addAll_write :
    addAll key act val (updateKey key k (act d) rows) =
      addAll key act (Function.update val k (val k + d)) rows := by
  simp only [addAll, updateKey, updateWhere, List.map_map]
  refine List.map_congr_left fun r _ => ?_
  by_cases hk : key r = k
  · simp [hk, h.key_act, ← h.add, add_comm d]
  · simp [hk]

theorem write_addAll :
    updateKey key k (act d) (addAll key act val rows) =
      addAll key act (Function.update val k (val k + d)) rows := by
  simp only [addAll, updateKey, updateWhere, List.map_map]
  refine List.map_congr_left fun r _ => ?_
  by_cases hk : key r = k
  · simp [hk, h.key_act, ← h.add]
  · simp [hk, h.key_act]

theorem writeAll_eq_map (hd : ks.Nodup) :
    writeAll key act val ks rows = rows.map fun r => if key r ∈ ks then act (val (key r)) r else r := by
  induction ks generalizing rows with
  | nil => simp [writeAll]
  | cons k ks ih =>
    rw [List.nodup_cons] at hd
    have hcons : writeAll key act val (k :: ks) rows =
        writeAll key act val ks (updateKey key k (act (val k)) rows) := rfl
    rw [hcons, ih hd.2]
    simp only [updateKey, updateWhere, List.map_map]
    refine List.map_congr_left fun r _ => ?_
    by_cases hk : key r = k
    · simp [hk, h.key_act, hd.1]
    · simp [hk]

/-- **A flush in any order writes everything that waits.** -/
theorem writeAll_eq (hd : ks.Nodup) (hz : ∀ k, k ∉ ks → val k = 0) :
    writeAll key act val ks rows = addAll key act val rows := by
  rw [writeAll_eq_map h hd]
  refine List.map_congr_left fun r _ => ?_
  split
  · rfl
  · rename_i hk
    rw [hz _ hk, h.zero]

end Rows

end Lib.Counter
