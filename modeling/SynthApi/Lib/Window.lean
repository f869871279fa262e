import Mathlib.Data.List.Basic

/-!
# Events in windows of time

A limiter that lets at most `n` events happen in any window of length `w` has to look at each event at the times that are
less than `w` ago only: that is `Limited.cons`.

A limiter does not keep all times. `Covers w now kept all` says that what it has forgotten of the times `all` is at least
`w` ago, so that whatever is recent is among the times `kept`. The times `all` have the newest first, the times `kept` the
oldest.
-/

namespace Lib

open List

variable {n w t now : Nat} {ts kept all : List Nat}

/-- How many of the times lie in the window of length `w` that begins at `a`. -/
def inWindow (w a : Nat) (ts : List Nat) : Nat := ts.countP fun t => a ≤ t ∧ t < a + w

/-- No window of length `w` has more than `n` of the times. -/
def Limited (n w : Nat) (ts : List Nat) : Prop := ∀ a, inWindow w a ts ≤ n

/-- How many of the times are less than `w` ago at `t`. -/
def recent (w t : Nat) (ts : List Nat) : Nat := ts.countP fun x => t < x + w

theorem limited_nil : Limited n w [] := fun _ => Nat.zero_le n

/-- **The rule for limits**: an event may happen if fewer than `n` of the earlier ones are recent. -/
theorem Limited.cons (h : Limited n w ts) (hrecent : recent w t ts < n) : Limited n w (t :: ts) := by
  intro a
  have hold := h a
  unfold inWindow at hold ⊢
  by_cases hin : a ≤ t ∧ t < a + w
  · -- all that lies in a window with `t` is recent at `t`
    have hle : ts.countP (fun x => a ≤ x ∧ x < a + w) ≤ recent w t ts := by
      apply countP_mono_left
      intro x _ hx
      simp only [decide_eq_true_eq] at hx ⊢
      omega
    rw [countP_cons_of_pos (by simpa using hin)]
    omega
  · rw [countP_cons_of_neg (by simpa using hin)]
    exact hold

theorem not_limited {a : Nat} (hlen : n < ts.length) (h : ∀ t ∈ ts, a ≤ t ∧ t < a + w) : ¬ Limited n w ts := by
  intro hlim
  have hall : inWindow w a ts = ts.length := by
    unfold inWindow
    rw [countP_eq_length]
    intro t ht
    simpa using h t ht
  have := hlim a
  omega

theorem recent_eq_zero (h : ∀ x ∈ ts, x + w ≤ t) : recent w t ts = 0 := by
  unfold recent
  rw [countP_eq_zero]
  intro x hx
  have := h x hx
  simp only [decide_eq_true_eq]
  omega

/-! ## What a limiter keeps -/

/-- What is not kept of the times is at least `w` ago. -/
def Covers (w now : Nat) (kept all : List Nat) : Prop :=
  ∃ old, all = kept.reverse ++ old ∧ ∀ x ∈ old, x + w ≤ now

theorem covers_nil : Covers w now [] [] := ⟨[], rfl, by simp⟩

variable (h : Covers w now kept all)

include h

theorem Covers.later (hle : now ≤ t) : Covers w t kept all := by
  obtain ⟨old, rfl, hold⟩ := h
  exact ⟨old, rfl, fun x hx => Nat.le_trans (hold x hx) hle⟩

theorem Covers.recent_le : recent w now all ≤ kept.length := by
  obtain ⟨old, rfl, hold⟩ := h
  have hkept : recent w now kept.reverse ≤ kept.length := by
    rw [← length_reverse]
    exact countP_le_length
  have hzero := recent_eq_zero hold
  unfold recent at *
  rw [countP_append]
  omega

theorem Covers.le_recent (hkept : ∀ x ∈ kept, now < x + w) : kept.length ≤ recent w now all := by
  obtain ⟨old, rfl, -⟩ := h
  have hall : recent w now kept.reverse = kept.length := by
    rw [recent, ← length_reverse, countP_eq_length]
    intro x hx
    simpa using hkept x (mem_reverse.1 hx)
  unfold recent at *
  rw [countP_append]
  omega

theorem Covers.push : Covers w now (kept ++ [t]) (t :: all) := by
  obtain ⟨old, rfl, hold⟩ := h
  exact ⟨old, by simp, hold⟩

omit h

/-- The oldest of the times is forgotten when it is long ago. -/
theorem Covers.drop {x : Nat} (h : Covers w now (x :: kept) all) (hx : x + w ≤ now) : Covers w now kept all := by
  obtain ⟨old, rfl, hold⟩ := h
  refine ⟨x :: old, by simp, ?_⟩
  intro y hy
  rcases mem_cons.1 hy with rfl | hy
  · exact hx
  · exact hold y hy

theorem Covers.length_le (h : Covers w now kept all) : kept.length ≤ all.length := by
  obtain ⟨old, rfl, -⟩ := h
  rw [length_append, length_reverse]
  omega

theorem Covers.trim {x : Nat} (h : Covers w now kept (all ++ [x])) (hlen : kept.length ≤ all.length) :
    x + w ≤ now ∧ Covers w now kept all := by
  obtain ⟨old, heq, hold⟩ := h
  rcases eq_nil_or_concat' old with rfl | ⟨init, y, rfl⟩
  · have hlength := congrArg List.length heq
    simp only [length_append, length_reverse, length_singleton, length_nil] at hlength
    omega
  · rw [← append_assoc] at heq
    obtain ⟨rfl, hxy⟩ := append_inj' heq rfl
    obtain rfl : x = y := singleton_inj.1 hxy
    exact ⟨hold x (by simp), init, rfl, fun z hz => hold z (mem_append_left _ hz)⟩

theorem Covers.clear (h : Covers w now kept all) (hkept : ∀ x ∈ kept, x + w ≤ now) : Covers w now [] all := by
  induction kept with
  | nil => exact h
  | cons x kept ih =>
    have hx := hkept x mem_cons_self
    exact ih (h.drop hx) fun y hy => hkept y (mem_cons_of_mem x hy)

end Lib
