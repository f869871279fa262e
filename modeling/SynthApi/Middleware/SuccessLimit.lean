import SynthApi.Middleware.TotalLimit

/-!
# The success limit of model requests without redis

`memoryRateLimitHandler` checks the success limit by a request to the limiter under a key of its own, and that request
counts: whatever passes the total limit uses up the success limit, whether it succeeds or not. The handler rejects no
request wrongly only where the success limit cannot be reached at all, because the total limit is as strict (`Shadowed`)
or because the window is empty.
-/

namespace SynthApi

open Lib List Queue Option

namespace RateLimitSite

variable {r : RateLimitSite} {m n w now expiry tick : Nat} {d : Int} {u : Int} {s : RateLimitState}
  {e : Nat × RateLimitEvent} {total check total' check' : Option Queue} {answer : Option Answer} {qt : Queue}

/-! ## A total limit that is as strict -/

/-- The check queue has the times of the total queue, and before them times that are out of the window. -/
structure Shadowed (w now : Nat) (total check : Option Queue) : Prop where
  covers : Covers w now (Queue.kept total) (Queue.kept check).reverse
  empty : total = none → check = none

theorem Shadowed.later {now' : Nat} (h : Shadowed w now total check) (hle : now ≤ now') : Shadowed w now' total check :=
  ⟨h.covers.later hle, h.empty⟩

/-- What is left of the total queue when it lets a request through: a full check queue has more. -/
theorem Shadowed.total_request (hnm : n ≤ max m 1) (hd : d = w) (h : Shadowed w now total check)
    (ht : request total n d now = some qt) :
    ∃ left, qt.times = left ++ [now] ∧ Covers w now left (kept check).reverse ∧
      (kept check ≠ [] → m ≤ (kept check).length → left.length < (kept check).length) := by
  have hle := h.covers.length_le
  rw [length_reverse] at hle
  rcases request_cases total n d now with ⟨q, hr, htimes, hroom⟩ | ⟨q, old, rest, hr, hk, htimes, -, hold⟩ | ⟨_, _, hr, -⟩
  · obtain rfl : q = qt := some_injective _ (hr.symm.trans ht)
    refine ⟨_, htimes, h.covers, ?_⟩
    intro hne hfull
    have hpos := length_pos_of_ne_nil hne
    rcases hroom with hempty | hlt
    · rw [hempty]
      exact hpos
    · omega
  · obtain rfl : q = qt := some_injective _ (hr.symm.trans ht)
    have hcovers := h.covers
    rw [hk] at hcovers
    refine ⟨_, htimes, hcovers.drop (by omega), ?_⟩
    rw [hk, length_cons] at hle
    omega
  · rw [hr] at ht
    cases ht

/-- **Whatever the total limit lets through, the success limit lets through.** -/
theorem Shadowed.request (hnm : n ≤ max m 1) (hd : d = w) (h : Shadowed w now total check)
    (ht : request total n d now = some qt) :
    ∃ qc, request check m d now = some qc ∧ Shadowed w now (some qt) (some qc) := by
  obtain ⟨left, htimes, hcovers, hfull⟩ := h.total_request hnm hd ht
  have hnone : ∀ {q : Queue}, some qt = none → some q = (none : Option Queue) := nofun
  -- the oldest time of a full check queue is not in the total queue, and out of the window
  have hold : ∀ {old rest}, kept check = old :: rest → m ≤ (kept check).length →
      old + w ≤ now ∧ Covers w now left rest.reverse := by
    intro old rest hk hm
    have hlen := hfull (by rw [hk]; simp) hm
    rw [hk, length_cons] at hlen
    rw [hk, reverse_cons] at hcovers
    exact hcovers.trim (by rw [length_reverse]; omega)
  rcases request_cases check m d now with ⟨qc, hr, hctimes, -⟩ | ⟨qc, old, rest, hr, hk, hctimes, hm, -⟩ |
    ⟨old, rest, hr, hk, hm, hnow⟩
  · refine ⟨qc, hr, ?_, hnone⟩
    rw [kept_some, kept_some, htimes, hctimes, reverse_append]
    exact hcovers.push
  · refine ⟨qc, hr, ?_, hnone⟩
    rw [kept_some, kept_some, htimes, hctimes, reverse_append]
    exact (hold hk hm).2.push
  · have := (hold hk hm).1
    omega

theorem Shadowed.newest {qc : Queue} (h : Shadowed w now (some qt) (some qc)) : qc.newest = qt.newest := by
  obtain ⟨old, heq, -⟩ := h.covers
  have htimes : qc.times = old.reverse ++ qt.times := by
    have := congrArg reverse heq
    simpa using this
  unfold Queue.newest
  simp only [htimes]
  exact getLast_append_of_ne_nil _ qt.nonempty

theorem Shadowed.filter {keep : Nat → Bool} (h : Shadowed w now total check) :
    Shadowed w now (total.filter fun q => keep q.newest) (check.filter fun q => keep q.newest) := by
  cases total with
  | none =>
    rw [h.empty rfl]
    exact ⟨covers_nil, fun _ => rfl⟩
  | some qt =>
    cases check with
    | none =>
      -- an empty check queue has not the times of the total queue
      have hle := h.covers.length_le
      have := qt.length_pos
      simp only [kept_some, kept_none, reverse_nil, length_nil] at hle
      omega
    | some qc =>
      have hnewest := h.newest
      rw [filter_some, filter_some, hnewest]
      split
      · exact h
      · exact ⟨covers_nil, fun _ => rfl⟩

theorem shadowed_step (hn : 0 < r.totalMaxCount) (hnm : r.totalMaxCount ≤ max m 1) (hd : 0 ≤ r.duration)
    (hle : now ≤ r.unix tick) (hstep : MemoryStep r m expiry tick total check total' check' answer)
    (h : Shadowed r.seconds now total check) :
    answer ≠ some .successLimit ∧ Shadowed r.seconds (r.unix tick) total' check' := by
  have hw : r.duration = r.seconds := (Int.toNat_of_nonneg hd).symm
  have hnow := h.later hle
  cases hstep with
  | totalLimit _ _ => exact ⟨by decide, hnow⟩
  | successLimit ht hc =>
    rw [TotalAllows, if_pos hn] at ht
    obtain ⟨qt, hqt, rfl⟩ := ht
    obtain ⟨qc, hqc, -⟩ := hnow.request hnm hw hqt
    rw [hc] at hqc
    cases hqc
  | passed ht hc =>
    rw [TotalAllows, if_pos hn] at ht
    obtain ⟨qt, hqt, rfl⟩ := ht
    obtain ⟨qc, hqc, hshadowed⟩ := hnow.request hnm hw hqt
    rw [hc] at hqc
    obtain rfl := some_injective _ hqc
    exact ⟨by decide, hshadowed⟩
  | elsewhere keep _ => exact ⟨by decide, hnow.filter⟩

/-! ## An empty window -/

theorem sorted_filter {queue : Option Queue} {p : Queue → Bool} (h : Sorted now (kept queue)) :
    Sorted now (kept (queue.filter p)) := by
  cases queue with
  | none => exact h
  | some q =>
    rw [filter_some]
    split
    · exact h
    · exact sorted_nil

theorem sorted_step (hd : r.duration ≤ 0) (hle : now ≤ r.unix tick)
    (hstep : MemoryStep r m expiry tick total check total' check' answer) (h : Sorted now (kept check)) :
    answer ≠ some .successLimit ∧ Sorted (r.unix tick) (kept check') := by
  have hnow := h.later hle
  cases hstep with
  | totalLimit _ _ => exact ⟨by decide, hnow⟩
  | successLimit _ hc =>
    have hold : ∀ x ∈ kept check, (x : Int) + r.duration ≤ r.unix tick := by
      intro x hx
      have := hnow.past x hx
      omega
    have hsome := request_of_old m hold
    rw [hc] at hsome
    cases hsome
  | passed _ hc => exact ⟨by decide, request_sorted hnow hc⟩
  | elsewhere keep _ => exact ⟨by decide, sorted_filter hnow⟩

/-! ## Failed requests -/

/-- After `k` requests at the start of the clock, none of which has succeeded. -/
structure CheckBurst (r : RateLimitSite) (u : Int) (k : Nat) (s : RateLimitState) : Prop where
  total : 0 < r.totalMaxCount → Queue.kept (s.limiter.store (UserCount.total.key u)) = replicate k 0
  check : Queue.kept (s.limiter.store (UserCount.check.key u)) = replicate k 0
  successes : successTimes u s.history = []

/-- A request that the total limit lets through is counted, or rejected by the success limit. -/
theorem MemoryStep.check_cases {a : Answer} (hstep : MemoryStep r m expiry tick total check total' check' (some a))
    (ht : 0 < r.totalMaxCount → ∃ q, request total r.totalMaxCount r.duration (r.unix tick) = some q ∧
      q.times = kept total ++ [r.unix tick]) :
    (0 < r.totalMaxCount → kept total' = kept total ++ [r.unix tick]) ∧
      ((a = .successLimit ∧ request check m r.duration (r.unix tick) = none) ∨
        ∃ q, request check m r.duration (r.unix tick) = some q ∧ check' = some q) := by
  have htotal : r.TotalAllows total total' tick → 0 < r.totalMaxCount →
      kept total' = kept total ++ [r.unix tick] := by
    intro hallows hn
    obtain ⟨q, hq, htimes⟩ := ht hn
    rw [TotalAllows, if_pos hn, hq] at hallows
    obtain ⟨q', hq', rfl⟩ := hallows
    rw [← some_injective _ hq']
    exact htimes
  cases hstep with
  | totalLimit hn h =>
    obtain ⟨q, hq, -⟩ := ht hn
    rw [h] at hq
    cases hq
  | successLimit hallows h => exact ⟨htotal hallows, .inl ⟨rfl, h⟩⟩
  | passed hallows h => exact ⟨htotal hallows, .inr ⟨_, h, rfl⟩⟩

variable {k : Nat}

theorem CheckBurst.total_room (h : CheckBurst r u k s) (hk : 0 < r.totalMaxCount → k < r.totalMaxCount) :
    0 < r.totalMaxCount →
      ∃ q, request (s.limiter.store (UserCount.total.key u)) r.totalMaxCount r.duration (r.unix 0) = some q ∧
        q.times = kept (s.limiter.store (UserCount.total.key u)) ++ [r.unix 0] := by
  intro hn
  refine request_of_room _ _ (.inr ?_)
  rw [h.total hn, length_replicate]
  exact hk hn

theorem unix_zero : r.unix 0 = 0 := Nat.zero_div _

theorem checkBurst_step (hr : r.redisEnabled = false) (hk : 0 < r.totalMaxCount → k < r.totalMaxCount)
    (hkm : k < max m 1) (h : CheckBurst r u k s) : CheckBurst r u (k + 1) (r.step m s (0, .arrive u)) := by
  have hstep := step_memory hr m s (0, .arrive u) u
  rw [answerTo, if_pos rfl] at hstep
  obtain ⟨htotal, hcheck⟩ := hstep.check_cases (h.total_room hk)
  have hroom : kept (s.limiter.store (UserCount.check.key u)) = [] ∨
      (kept (s.limiter.store (UserCount.check.key u))).length < m := by
    rw [h.check, length_replicate]
    rcases Nat.eq_zero_or_pos k with rfl | hpos
    · exact .inl rfl
    · exact .inr (by omega)
  obtain ⟨qc, hqc, htimes⟩ := request_of_room r.duration (r.unix 0) hroom
  have hcheck' : (r.step m s (0, .arrive u)).limiter.store (UserCount.check.key u) = some qc := by
    rcases hcheck with ⟨-, hnone⟩ | ⟨q, hq, hstore⟩
    · rw [hnone] at hqc
      cases hqc
    · rw [hstore, ← hq, hqc]
  refine ⟨?_, ?_, h.successes⟩
  · intro hn
    rw [htotal hn, h.total hn, unix_zero, replicate_succ']
  · rw [hcheck', kept_some, htimes, h.check, unix_zero, replicate_succ']

theorem checkBurst_run (expiry : Nat) (u : Int) (hr : r.redisEnabled = false)
    (hk : 0 < r.totalMaxCount → k ≤ r.totalMaxCount) (hkm : k ≤ max m 1) :
    CheckBurst r u k (run (r.step m) (start expiry) (replicate k (0, .arrive u))) := by
  induction k with
  | zero => exact ⟨fun _ => rfl, rfl, rfl⟩
  | succ k ih =>
    rw [replicate_succ', run_append]
    exact checkBurst_step hr (fun hn => hk hn) hkm (ih (fun hn => (Nat.le_succ k).trans (hk hn)) ((Nat.le_succ k).trans hkm))

theorem along_burst (k : Nat) :
    Along (r.step m) Timely (start expiry) (replicate k (0, .arrive u)) ∧
      (run (r.step m) (start expiry) (replicate k (0, .arrive u))).clock = 0 := by
  induction k with
  | zero => exact ⟨trivial, rfl⟩
  | succ k ih =>
    rw [replicate_succ', run_append]
    exact ⟨along_append.2 ⟨ih.1, ih.2.le, trivial⟩, rfl⟩

/-- The success limit rejects a request after `max m 1` requests that have not succeeded. -/
theorem CheckBurst.rejects (hr : r.redisEnabled = false) (hd : 0 < r.duration)
    (hk : 0 < r.totalMaxCount → max m 1 < r.totalMaxCount) (h : CheckBurst r u (max m 1) s) :
    r.answerTo m u s (0, .arrive u) = some .successLimit := by
  have hstep := step_memory hr m s (0, .arrive u) u
  rw [answerTo, if_pos rfl] at hstep ⊢
  obtain ⟨-, hcheck⟩ := hstep.check_cases (h.total_room hk)
  rcases hcheck with ⟨ha, -⟩ | ⟨q, hq, -⟩
  · exact congrArg some ha
  · -- the check queue is full of times that are in the window
    have hlen : (kept (s.limiter.store (UserCount.check.key u))).length = max m 1 := by
      rw [h.check, length_replicate]
    rcases request_cases (s.limiter.store (UserCount.check.key u)) m r.duration (r.unix 0) with
      ⟨_, -, -, hempty | hlt⟩ | ⟨_, old, rest, -, hkept, -, -, hold⟩ | ⟨_, _, hnone, -⟩
    · rw [hempty, length_nil] at hlen
      omega
    · omega
    · rw [unix_zero] at hold
      omega
    · rw [hnone] at hq
      cases hq

/-! ## When the success limit counts successes only -/

/-- Every rejection by the success limit has `m ≥ 1` and at least `m` successes of the user in the last window. -/
def SuccessesOnly (r : RateLimitSite) (m : Nat) (u : Int) (s : RateLimitState) (e : Nat × RateLimitEvent) : Prop :=
  r.answerTo m u s e = some .successLimit → 1 ≤ m ∧ m ≤ recent r.window e.1 (successTimes u s.history)

instance (r : RateLimitSite) (m : Nat) (u : Int) (s : RateLimitState) (e : Nat × RateLimitEvent) :
    Decidable (r.SuccessesOnly m u s e) := inferInstanceAs (Decidable (_ → _))

/-- **The success limit counts successes only, in every run, exactly if** the window is empty or the total limit is so strict
that the success limit is never reached. -/
theorem success_limit_iff (r : RateLimitSite) (m expiry : Nat) (hr : r.redisEnabled = false) :
    (∀ (u : Int) (events : List (Nat × RateLimitEvent)), Along (r.step m) Timely (start expiry) events →
      Along (r.step m) (r.SuccessesOnly m u) (start expiry) events) ↔
    r.durationMinutes ≤ 0 ∨ 1 ≤ r.totalMaxCount ∧ r.totalMaxCount ≤ max m 1 := by
  have hdur : r.duration = r.durationMinutes * 60 := rfl
  constructor
  · intro h
    by_contra hcond
    have hd : 0 < r.duration := by omega
    have hk : 0 < r.totalMaxCount → max m 1 < r.totalMaxCount := by omega
    have hburst := checkBurst_run expiry 1 hr (fun hn => (hk hn).le) le_rfl
    have htimely : Along (r.step m) Timely (start expiry) (replicate (max m 1 + 1) (0, .arrive 1)) :=
      (along_burst _).1
    have hlast := h 1 _ htimely
    rw [replicate_succ', along_append] at hlast
    obtain ⟨hm, hle⟩ := hlast.2.1 (hburst.rejects hr hd hk)
    rw [hburst.successes] at hle
    exact absurd hle (by simp [recent]; omega)
  · rintro hcond u events ht
    -- no request is rejected by the success limit at all
    by_cases hd : r.duration ≤ 0
    · refine along_of_inv (I := fun s =>
        Sorted (r.unix s.clock) (kept (s.limiter.store (UserCount.check.key u)))) ?_ ?_ ht sorted_nil
      · intro s e hle h
        rw [step_clock]
        exact (sorted_step hd (r.unix_mono hle) (step_memory hr m s e u) h).2
      · intro s e hle h hans
        exact absurd hans (sorted_step hd (r.unix_mono hle) (step_memory hr m s e u) h).1
    · obtain ⟨hn, hnm⟩ : 1 ≤ r.totalMaxCount ∧ r.totalMaxCount ≤ max m 1 := hcond.resolve_left (by omega)
      refine along_of_inv (I := fun s => Shadowed r.seconds (r.unix s.clock)
        (s.limiter.store (UserCount.total.key u)) (s.limiter.store (UserCount.check.key u))) ?_ ?_ ht
        ⟨covers_nil, fun _ => rfl⟩
      · intro s e hle h
        rw [step_clock]
        exact (shadowed_step hn hnm (by omega) (r.unix_mono hle) (step_memory hr m s e u) h).2
      · intro s e hle h hans
        exact absurd hans (shadowed_step hn hnm (by omega) (r.unix_mono hle) (step_memory hr m s e u) h).1

/-- Three requests in a minute, of which five may succeed, without redis. -/
def threeAMinute : RateLimitSite := ⟨1, 3, false, 1, Nat.one_pos⟩

theorem success_limit_iff_threeAMinute :
    threeAMinute.redisEnabled = false ∧
    ∀ (u : Int) (events : List (Nat × RateLimitEvent)), Along (threeAMinute.step 5) Timely (start 1200) events →
      Along (threeAMinute.step 5) (threeAMinute.SuccessesOnly 5 u) (start 1200) events :=
  ⟨rfl, (success_limit_iff threeAMinute 5 1200 rfl).2 (by decide)⟩

/-- A request that fails, and another one. -/
def failingRun : List (Nat × RateLimitEvent) := [(0, .arrive 1), (1, .finish 1 500), (2, .arrive 1)]

/-- After a failed request the next one is rejected by a success limit of one, and by a success limit of zero as well. -/
theorem success_limit_counts_failures :
    (Along (threeAMinute.step 1) Timely (start 1200) failingRun ∧
      ¬ Along (threeAMinute.step 1) (threeAMinute.SuccessesOnly 1 1) (start 1200) failingRun) ∧
    (Along (threeAMinute.step 0) Timely (start 1200) failingRun ∧
      ¬ Along (threeAMinute.step 0) (threeAMinute.SuccessesOnly 0 1) (start 1200) failingRun) := by
  decide

end RateLimitSite

end SynthApi
