import Mathlib.Algebra.BigOperators.Group.List.Basic
import Mathlib.Algebra.GroupWithZero.Nat
import Mathlib.Data.List.Count

/-!
# Indexes by two keys

An `Index` lists entries under two keys. `addAll as bs x` lists `x` under every pair of a key of `as` and a key of `bs`, as
often as the pair occurs (`count_addAll`); `build` does so for all items (`count_build`). `erase` takes the first occurrence
of an entry out of every list, which removes it for good only if it was listed once (`not_mem_erase`).
-/

namespace Lib

open List

/-- Lists by two keys. -/
abbrev Index (α β ι : Type*) := α → β → List ι

namespace Index

variable {α β ι κ : Type*} [DecidableEq α] [DecidableEq β] [DecidableEq ι]

/-- List `x` under `a` and `b`, behind the others. -/
def add (idx : Index α β ι) (a : α) (b : β) (x : ι) : Index α β ι :=
  Function.update idx a (Function.update (idx a) b (idx a b ++ [x]))

def addAll (as : List α) (bs : List β) (x : ι) (idx : Index α β ι) : Index α β ι :=
  as.foldl (fun idx a => bs.foldl (fun idx b => idx.add a b x) idx) idx

def build (keys : κ → List α × List β) (entry : κ → ι) (items : List κ) : Index α β ι :=
  items.foldl (fun idx k => addAll (keys k).1 (keys k).2 (entry k) idx) fun _ _ => []

/-- Take the first `x` out of every list. -/
def erase (idx : Index α β ι) (x : ι) : Index α β ι := fun a b => (idx a b).erase x

theorem count_add (idx : Index α β ι) (a : α) (b : β) (x y : ι) (c : α) (d : β) :
    (idx.add a b x c d).count y = (idx c d).count y + if x = y ∧ a = c ∧ b = d then 1 else 0 := by
  unfold add
  by_cases hc : c = a
  · subst hc
    by_cases hd : d = b
    · subst hd
      by_cases hx : x = y
      · simp [hx]
      · simp [hx]
    · simp [Function.update_of_ne hd, Ne.symm hd]
  · simp [Function.update_of_ne hc, Ne.symm hc]

theorem count_addInner (idx : Index α β ι) (a : α) (bs : List β) (x y : ι) (c : α) (d : β) :
    (bs.foldl (fun idx b => idx.add a b x) idx c d).count y =
      (idx c d).count y + if x = y ∧ a = c then bs.count d else 0 := by
  induction bs generalizing idx with
  | nil => simp
  | cons b bs ih =>
    rw [foldl_cons, ih, count_add]
    by_cases h : x = y ∧ a = c
    · by_cases hb : b = d
      · simp [h, hb]
        omega
      · simp [hb]
    · have hne : ¬ (x = y ∧ a = c ∧ b = d) := fun h' => h ⟨h'.1, h'.2.1⟩
      simp [h, hne]

theorem count_addAll (as : List α) (bs : List β) (x y : ι) (idx : Index α β ι) (c : α) (d : β) :
    (addAll as bs x idx c d).count y = (idx c d).count y + if x = y then as.count c * bs.count d else 0 := by
  unfold addAll
  induction as generalizing idx with
  | nil => simp
  | cons a as ih =>
    rw [foldl_cons, ih, count_addInner]
    by_cases hx : x = y
    · by_cases ha : a = c
      · simp [hx, ha, Nat.add_mul]
        omega
      · simp [ha]
    · simp [hx]

variable {keys : κ → List α × List β} {entry : κ → ι} {items : List κ} {y : ι} {c : α} {d : β}

/-- **How often an entry is listed**: once for every occurrence of the pair of keys in an item with that entry. -/
theorem count_build :
    (build keys entry items c d).count y =
      (items.map fun k => if entry k = y then (keys k).1.count c * (keys k).2.count d else 0).sum := by
  have hfold : ∀ idx : Index α β ι,
      (items.foldl (fun idx k => addAll (keys k).1 (keys k).2 (entry k) idx) idx c d).count y =
        (idx c d).count y + (items.map fun k => if entry k = y then (keys k).1.count c * (keys k).2.count d else 0).sum := by
    induction items with
    | nil => simp
    | cons k items ih =>
      intro idx
      rw [foldl_cons, ih, count_addAll, map_cons, sum_cons, Nat.add_assoc]
  rw [build, hfold]
  simp

theorem count_build_of_ne (h : ∀ k ∈ items, entry k ≠ y) : (build keys entry items c d).count y = 0 := by
  rw [count_build]
  refine sum_eq_zero fun n hn => ?_
  obtain ⟨k, hk, rfl⟩ := mem_map.1 hn
  exact if_neg (h k hk)

theorem count_build_of_nodup (hnodup : (items.map entry).Nodup) {k : κ} (hk : k ∈ items) :
    (build keys entry items c d).count (entry k) = (keys k).1.count c * (keys k).2.count d := by
  rw [count_build]
  induction items with
  | nil => cases hk
  | cons l items ih =>
    rw [map_cons, nodup_cons] at hnodup
    rw [map_cons, sum_cons]
    rcases mem_cons.1 hk with rfl | hk
    · have hrest : (items.map fun l => if entry l = entry k then (keys l).1.count c * (keys l).2.count d else 0).sum = 0 := by
        rw [← count_build]
        refine count_build_of_ne fun l hl heq => ?_
        exact hnodup.1 (heq ▸ mem_map_of_mem hl)
      rw [hrest, if_pos rfl, Nat.add_zero]
    · have hne : entry l ≠ entry k := fun heq => hnodup.1 (heq ▸ mem_map_of_mem hk)
      rw [if_neg hne, Nat.zero_add, ih hnodup.2 hk]

section Erase

omit [DecidableEq α] [DecidableEq β]

variable {idx : Index α β ι} {x y : ι} {a : α} {b : β}

theorem not_mem_erase (h : (idx a b).count x ≤ 1) : x ∉ idx.erase x a b := by
  rw [← count_eq_zero, erase, count_erase_self]
  omega

theorem mem_of_mem_erase (h : y ∈ idx.erase x a b) : y ∈ idx a b := List.mem_of_mem_erase h

end Erase

end Index

end Lib
