import Mathlib.Data.List.AList
import Mathlib.Data.List.Sort
import Mathlib.Tactic.Linarith

/-!
# The order of routes

`sortGroupsByRoutePerformance` (`service/channel_select.go`) sorts groups by their scores and takes scores that differ by at
most 1 for equal. That is no order: a group may be close to two that are far apart. `route_order_iff` says that only then
the result can be wrong. Scores are rational numbers, without the rounding of `float64`.
-/

namespace SynthApi

open List

/-! ## Stable sorting -/

section StableSort

variable {α : Type}

/-- The insertion sort of package `sort`: an element moves left past all that it is less than. The part that is sorted
already is kept backwards. -/
def insertionSortFunc (less : α → α → Bool) (l : List α) : List α :=
  (l.reverse.insertionSort fun x y => less x y = false).reverse

/-- `sort.SliceStable`: blocks of 20 elements are sorted by insertion, and then merged, which keeps the order inside a block.
The result is sorted if `less` is a strict weak order of the elements. -/
structure StableSort (α : Type) where
  sort : (α → α → Bool) → List α → List α
  perm : ∀ less l, (sort less l).Perm l
  block : ∀ less block rest, block.length ≤ 20 → insertionSortFunc less block <+ sort less (block ++ rest)
  sorted : ∀ less l, (∀ a ∈ l, ∀ b ∈ l, less a b = true → less b a = false) →
    (∀ a ∈ l, ∀ b ∈ l, ∀ c ∈ l, less a b = false → less b c = false → less a c = false) →
    (sort less l).Pairwise fun a b => less b a = false

/-- Insertion keeps the order of what is sorted, so that a single block is one way to do it. -/
def StableSort.insertion : StableSort α where
  sort := insertionSortFunc
  perm less l := (reverse_perm _).trans ((perm_insertionSort _ _).trans (reverse_perm l))
  block less block rest _ := by
    unfold insertionSortFunc
    rw [reverse_append, reverse_sublist]
    induction rest.reverse with
    | nil => exact Sublist.refl _
    | cons x xs ih => exact ih.trans (sublist_orderedInsert x _)
  sorted less l hasymm htrans := by
    -- the relation is total and transitive on the elements of the list
    let r (x y : { x // x ∈ l.reverse }) : Prop := less x y = false
    have htotal : Std.Total r := ⟨fun x y => by
      cases h : less x y with
      | false => exact .inl h
      | true => exact .inr (hasymm x (mem_reverse.1 x.2) y (mem_reverse.1 y.2) h)⟩
    have htrans : IsTrans _ r :=
      ⟨fun x y z => htrans x (mem_reverse.1 x.2) y (mem_reverse.1 y.2) z (mem_reverse.1 z.2)⟩
    have hmap := map_insertionSort r (fun x y => less x y = false) Subtype.val l.reverse.attach fun _ _ _ _ => Iff.rfl
    rw [attach_map_subtype_val] at hmap
    rw [insertionSortFunc, pairwise_reverse, ← hmap, pairwise_map]
    exact pairwise_insertionSort r _

end StableSort

/-! ## Scores -/

structure GroupRouteHint where
  avgTtftMs : Int
  avgLatencyMs : Int
  successRate : ℚ
  requestCount : Int

def routeGroupSelectionScore (hint : GroupRouteHint) : ℚ :=
  if hint.requestCount < 5 then 50
  else
    let score := hint.successRate
    let score := if 0 < hint.avgTtftMs then score - min ((hint.avgTtftMs : ℚ) / 1000 * 2) 30 else score
    let score := if 0 < hint.avgLatencyMs then score - min ((hint.avgLatencyMs : ℚ) / 1000 * (1 / 2)) 25 else score
    if hint.requestCount < 5 * 4 then score - 5 else score

abbrev RouteHints := AList fun _ : String => GroupRouteHint

def RouteHints.score (hints : RouteHints) (group : String) : ℚ :=
  routeGroupSelectionScore ((hints.lookup group).getD ⟨0, 0, 0, 0⟩)

def RouteHints.less (hints : RouteHints) (i j : String) : Bool :=
  if |hints.score i - hints.score j| ≤ 1 then false else hints.score i > hints.score j

def sortGroupsByRoutePerformance (s : StableSort String) (hints : RouteHints) (groups : List String) : List String :=
  if groups.length < 2 then groups
  else if hints.keys = [] then groups
  else s.sort hints.less groups

section Order

variable {hints : RouteHints}

theorem less_eq_false {i j : String} : hints.less i j = false ↔ hints.score i ≤ hints.score j + 1 := by
  unfold RouteHints.less
  split
  · rename_i h
    exact iff_of_true rfl (by linarith [(abs_le.1 h).2])
  · rename_i h
    rw [decide_eq_false_iff_not]
    refine ⟨fun hle => by linarith, fun hle => ?_⟩
    by_contra hlt
    exact h (abs_le.2 ⟨by linarith, by linarith⟩)

theorem score_of_empty (h : hints.keys = []) (group : String) : hints.score group = 50 := by
  have hnone : hints.lookup group = none := AList.lookup_eq_none.2 (by rw [AList.mem_keys, h]; exact not_mem_nil)
  rw [RouteHints.score, hnone]
  rfl

/-- **Route order respects scores**, however the groups are listed, exactly if not to exceed a score by more than the
tolerance is transitive on the groups. -/
theorem route_order_iff (s : StableSort String) (hints : RouteHints) (groups : List String) :
    (∀ gs, gs.Perm groups → (sortGroupsByRoutePerformance s hints gs).Perm gs ∧
      (sortGroupsByRoutePerformance s hints gs).Pairwise fun g g' => ¬ hints.score g + 1 < hints.score g') ↔
    ∀ a ∈ groups, ∀ b ∈ groups, ∀ c ∈ groups, hints.score a ≤ hints.score b + 1 → hints.score b ≤ hints.score c + 1 →
      hints.score a ≤ hints.score c + 1 := by
  constructor
  · intro h a ha b hb c hc hab hbc
    by_contra hac
    have hkeys : hints.keys ≠ [] := fun hempty => by
      simp only [score_of_empty hempty] at hac
      linarith
    have hnodup : [c, b, a].Nodup := by
      have hcb : c ≠ b := by rintro rfl; exact hac hab
      have hca : c ≠ a := by rintro rfl; exact hac (by linarith)
      have hba : b ≠ a := by rintro rfl; exact hac hbc
      simp [hcb, hca, hba]
    have hsub : [c, b, a] <+~ groups := subperm_of_subset hnodup (by simp [ha, hb, hc])
    have hperm := subperm_append_diff_self_of_count_le fun x _ => hsub.count_le x
    -- the lowest of the three groups stays before the highest
    have hfirst : insertionSortFunc hints.less [c, b, a] = [c, b, a] := by
      simp [insertionSortFunc, less_eq_false, hab, hbc]
    have hsorted := (h _ hperm).2
    rw [sortGroupsByRoutePerformance, if_neg hkeys] at hsorted
    have hpair := hsorted.sublist (hfirst ▸ s.block hints.less [c, b, a] _ (by simp))
    exact (pairwise_cons.1 hpair).1 a (by simp) (not_le.1 hac)
  · intro h gs hgs
    unfold sortGroupsByRoutePerformance
    split
    · rename_i hlen
      refine ⟨Perm.refl gs, ?_⟩
      match gs, hlen with
      | [], _ => exact .nil
      | [g], _ => exact pairwise_singleton _ g
    split
    · rename_i hempty
      exact ⟨Perm.refl gs, pairwise_of_forall fun g g' => by simp [score_of_empty hempty]⟩
    · refine ⟨s.perm _ gs, (s.sorted hints.less gs (fun a _ b _ hless => ?_) fun a ha b hb c hc => ?_).imp fun hle => ?_⟩
      · have hlt : ¬ hints.score a ≤ hints.score b + 1 := fun hle => by rw [less_eq_false.2 hle] at hless; cases hless
        exact less_eq_false.2 (by linarith)
      · simp only [less_eq_false]
        exact h a (hgs.mem_iff.1 ha) b (hgs.mem_iff.1 hb) c (hgs.mem_iff.1 hc)
      · exact not_lt.2 (less_eq_false.1 hle)

/-- Three groups with the scores 50, 51 and 52. -/
theorem route_order_broken :
    let hint (rate : ℚ) : GroupRouteHint := ⟨0, 0, rate, 100⟩
    let hints : RouteHints := (((∅ : RouteHints).insert "a" (hint 50)).insert "b" (hint 51)).insert "c" (hint 52)
    sortGroupsByRoutePerformance .insertion hints ["a", "b", "c"] = ["a", "b", "c"] ∧
      hints.score "a" + 1 < hints.score "c" := by
  decide +kernel

end Order

end SynthApi
