import Mathlib.Algebra.BigOperators.Group.List.Basic
import Mathlib.Algebra.GroupWithZero.Nat
import Mathlib.Data.List.AList

/-!
# Tallies

A `Tally` counts by key. A key is in the map only while its count is positive, so that a tally whose counts are all 0 is
empty (`isEmpty_of_get`). `incr` and `decr` change one count (`get_incr`, `get_decr`) and with it the sum of all counts
(`total_incr`, `total_decr`).
-/

namespace Lib

open List Function AList

/-- Positive counts by key. -/
structure Tally (κ : Type*) where
  counts : AList fun _ : κ => Nat
  pos : ∀ e ∈ counts.entries, 0 < e.2

namespace Tally

variable {κ : Type*} [DecidableEq κ]

/-- A sum over an association list, with the value under one key apart. -/
theorem sum_kerase (k : κ) (l : List (Sigma fun _ : κ => Nat)) :
    (l.map Sigma.snd).sum = (l.dlookup k).getD 0 + ((l.kerase k).map Sigma.snd).sum := by
  induction l with
  | nil => rfl
  | cons e l ih =>
    by_cases h : k = e.1
    · subst h
      rw [dlookup_cons_eq]
      simp
    · rw [kerase_cons_ne h, dlookup_cons_ne _ _ h]
      simp only [map_cons, sum_cons]
      omega

def empty : Tally κ := ⟨∅, by simp [AList.empty_entries]⟩

def get (t : Tally κ) (k : κ) : Nat := (t.counts.lookup k).getD 0

def total (t : Tally κ) : Nat := (t.counts.entries.map Sigma.snd).sum

def isEmpty (t : Tally κ) : Bool := t.counts.entries.isEmpty

def incr (t : Tally κ) (k : κ) : Tally κ where
  counts := t.counts.insert k (t.get k + 1)
  pos := by
    intro e he
    rw [AList.entries_insert, List.mem_cons] at he
    rcases he with rfl | he
    · exact Nat.succ_pos _
    · exact t.pos e ((List.kerase_sublist k _).subset he)

/-- Count one less; the last one deletes the key. -/
def decr (t : Tally κ) (k : κ) : Tally κ where
  counts := if t.get k ≤ 1 then t.counts.erase k else t.counts.insert k (t.get k - 1)
  pos := by
    intro e he
    split at he
    · exact t.pos e ((List.kerase_sublist k _).subset he)
    · rename_i h
      rw [AList.entries_insert, List.mem_cons] at he
      rcases he with rfl | he
      · exact Nat.sub_pos_of_lt (not_le.1 h)
      · exact t.pos e ((List.kerase_sublist k _).subset he)

variable (t : Tally κ) (k : κ)

@[simp] theorem get_empty : (empty : Tally κ).get k = 0 := rfl

omit [DecidableEq κ] in
theorem eq_empty {t : Tally κ} (h : t.isEmpty) : t = empty := by
  obtain ⟨counts, pos⟩ := t
  have hcounts : counts = ∅ := AList.ext (isEmpty_iff.1 h)
  subst hcounts
  rfl

theorem get_incr : (t.incr k).get = update t.get k (t.get k + 1) := by
  funext l
  by_cases h : l = k
  · subst h
    simp [get, incr]
  · rw [update_of_ne h]
    simp [get, incr, lookup_insert_ne h]

theorem get_decr : (t.decr k).get = update t.get k (t.get k - 1) := by
  funext l
  unfold decr
  by_cases h : l = k
  · subst h
    rw [update_self, get]
    split
    · rw [lookup_erase]
      simp only [Option.getD_none]
      omega
    · rw [lookup_insert]
      rfl
  · rw [update_of_ne h, get]
    split
    · rw [lookup_erase_ne h]
      rfl
    · rw [lookup_insert_ne h]
      rfl

theorem total_incr : (t.incr k).total = t.total + 1 := by
  have h := sum_kerase k t.counts.entries
  have hget : (t.counts.entries.dlookup k).getD 0 = t.get k := rfl
  simp only [total, incr, entries_insert, map_cons, sum_cons]
  omega

theorem total_decr (hk : 0 < t.get k) : (t.decr k).total + 1 = t.total := by
  have h := sum_kerase k t.counts.entries
  have hget : (t.counts.entries.dlookup k).getD 0 = t.get k := rfl
  unfold total decr
  split
  · have herase : (t.counts.erase k).entries = t.counts.entries.kerase k := rfl
    rw [herase]
    omega
  · simp only [entries_insert, map_cons, sum_cons]
    omega

theorem exists_pos {t : Tally κ} (h : t.isEmpty = false) : ∃ k, 0 < t.get k := by
  cases he : t.counts.entries with
  | nil => simp [isEmpty, he] at h
  | cons e l =>
    have hmem : e ∈ t.counts.entries := by simp [he]
    have hlookup : t.counts.lookup e.1 = some e.2 := mem_lookup_iff.2 hmem
    refine ⟨e.1, ?_⟩
    rw [get, hlookup]
    exact t.pos e hmem

/-- **A tally whose counts are all 0 is empty.** -/
theorem isEmpty_of_get {t : Tally κ} (h : ∀ k, t.get k = 0) : t.isEmpty := by
  by_contra hne
  obtain ⟨k, hk⟩ := exists_pos (Bool.eq_false_iff.2 hne)
  exact absurd (h k) (Nat.pos_iff_ne_zero.1 hk)

end Tally

end Lib
