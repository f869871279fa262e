import SynthApi.Middleware.ModelRateLimit

/-!
# The total limit of model requests

How many requests of one user go through in a window of the configured length. Without redis the limiter counts whole
seconds, and its background task may forget times that are still in the window when the expiry is shorter than the window;
otherwise what it has forgotten is out of the window (`MemoryKept`). With redis a user who has used up the bucket gets a
new token after a part of the window already, except for a limit of one request (`RedisKept`).
-/

namespace SynthApi

open Lib List Queue InMemoryRateLimiter Bucket Option Nat

namespace RateLimitSite

variable {r : RateLimitSite} {m : Nat} {u : Int} {s : RateLimitState} {e : Nat × RateLimitEvent}

/-- The window in seconds, as a natural number. -/
def seconds (r : RateLimitSite) : Nat := r.duration.toNat

/-- The window in clock ticks. -/
def window (r : RateLimitSite) : Nat := r.seconds * r.perSecond

theorem unix_eq (hq : r.perSecond = 1) (t : Nat) : r.unix t = t := by rw [unix, hq, Nat.div_one]

theorem duration_eq (hd : 0 ≤ r.duration) : r.duration = r.seconds := (Int.toNat_of_nonneg hd).symm

/-- The answers to requests that the total limit has counted without redis. -/
def counted (a : Answer) : Bool := a = .passed ∨ a = .successLimit

theorem answerTimes_sublist {p q : Answer → Bool} (h : ∀ a, p a → q a) (u : Int) (history : List RateLimitRecord) :
    (answerTimes p u history).Sublist (answerTimes q u history) := by
  induction history with
  | nil => exact Sublist.refl _
  | cons record history ih =>
    cases record with
    | answered v tick a =>
      rw [answerTimes_answered, answerTimes_answered]
      by_cases hp : v = u ∧ p a
      · have hq : v = u ∧ q a := ⟨hp.1, h a hp.2⟩
        rw [if_pos hp, if_pos hq]
        exact ih.cons_cons tick
      · rw [if_neg hp]
        split
        · exact ih.cons tick
        · exact ih
    | finished v tick status => exact ih

/-! ## Without redis -/

/-- The queue of the total limit has all that is in the window, and the limit has been kept so far. Times are whole
seconds. -/
structure MemoryKept (n w now : Nat) (total : Option Queue) (all : List Nat) : Prop where
  covers : Covers w now (kept total) all
  sorted : Queue.Sorted now (kept total)
  length_le : (kept total).length ≤ n
  limited : Limited n w all

variable {all : List Nat}

variable {n w now now' expiry tick t t' k second : Nat} {total : Option Queue} {q qt qc : Queue} {answer : Option Answer} {events : List (Nat × RateLimitEvent)}

theorem MemoryKept.later (h : MemoryKept n w now total all)
    (hle : now ≤ now') : MemoryKept n w now' total all :=
  ⟨h.covers.later hle, h.sorted.later hle, h.length_le, h.limited⟩

section Requests

variable {d : Int} (hn : 0 < n) (hw : w = d.toNat) (h : MemoryKept n w now total all)

include hn hw h

/-- A request that is let through has room in the window. -/
theorem MemoryKept.room (hq : request total n d now = some q) : ∃ rest, Covers w now rest all ∧ rest.length < n ∧ q.times = rest ++ [now] := by
  rcases request_cases total n d now with ⟨q', hr, ht, hroom⟩ | ⟨q', old, rest, hr, hk, ht, -, hold⟩ | ⟨_, _, hr, -⟩
  · obtain rfl : q' = q := some_injective _ (hr.symm.trans hq)
    refine ⟨_, h.covers, ?_, ht⟩
    rcases hroom with hempty | hlt
    · simpa [hempty] using hn
    · exact hlt
  · obtain rfl : q' = q := some_injective _ (hr.symm.trans hq)
    have hcovers := h.covers
    have hlen := h.length_le
    have hpast := h.sorted.past
    rw [hk] at hcovers hlen hpast
    rw [length_cons] at hlen
    -- the oldest time has left the window
    have := hpast old mem_cons_self
    exact ⟨rest, hcovers.drop (by omega), by omega, ht⟩
  · rw [hr] at hq
    cases hq

theorem MemoryKept.request (hq : request total n d now = some q) : MemoryKept n w now (some q) (now :: all) := by
  obtain ⟨rest, hcovers, hlt, ht⟩ := h.room hn hw hq
  refine ⟨?_, request_sorted h.sorted hq, ?_, h.limited.cons (hcovers.recent_le.trans_lt hlt)⟩
  · rw [kept_some, ht]
    exact hcovers.push
  · rw [kept_some, ht, length_append, length_singleton]
    omega

/-- **A request is let through exactly if there is room in the window.** -/
theorem MemoryKept.isSome_request :
    (Queue.request total n d now).isSome ↔ recent w now all < n := by
  constructor
  · intro hsome
    obtain ⟨q, hq⟩ := isSome_iff_exists.1 hsome
    obtain ⟨rest, hcovers, hlt, -⟩ := h.room hn hw hq
    exact hcovers.recent_le.trans_lt hlt
  · intro hlt
    rcases request_cases total n d now with ⟨q, hr, -⟩ | ⟨q, _, _, hr, -⟩ | ⟨old, rest, -, hk, hlen, hold⟩
    · rw [hr]; rfl
    · rw [hr]; rfl
    · -- all times of the full queue are as recent as the oldest one
      have hrecent : (kept total).length ≤ recent w now all := by
        refine h.covers.le_recent fun x hx => ?_
        have hsorted := h.sorted.pairwise
        rw [hk] at hsorted hx
        rcases mem_cons.1 hx with rfl | hx
        · omega
        · have := rel_of_pairwise_cons hsorted hx
          omega
      omega

end Requests

theorem MemoryKept.filter {keep : Nat → Bool}
    (hexp : expiry = 0 ∨ w ≤ expiry + 1) (hkeep : ∀ t, keep t = false → 0 < expiry ∧ t + expiry < now)
    (h : MemoryKept n w now total all) : MemoryKept n w now (total.filter fun q => keep q.newest) all := by
  cases total with
  | none => exact h
  | some q =>
    cases hq : keep q.newest with
    | true =>
      rw [filter_some, if_pos hq]
      exact h
    | false =>
      rw [filter_some, if_neg (by simp [hq])]
      obtain ⟨hpos, hnewest⟩ := hkeep _ hq
      refine ⟨h.covers.clear ?_, sorted_nil, zero_le _, h.limited⟩
      intro x hx
      have := h.sorted.le_newest hx
      omega

variable {check total' check' : Option Queue}

/-- **Every event keeps the total limit**, if the background task does not forget what is in the window. -/
theorem memoryKept_step
    (hq : r.perSecond = 1) (hn : 0 < r.totalMaxCount)
    (hexp : expiry = 0 ∨ r.seconds ≤ expiry + 1) (hle : now ≤ tick)
    (hstep : MemoryStep r m expiry tick total check total' check' answer)
    (h : MemoryKept r.totalMaxCount r.seconds now total all) :
    MemoryKept r.totalMaxCount r.seconds tick total' (if answer.any counted then tick :: all else all) := by
  have hnow := h.later hle
  -- a request that the total limit counts, whatever the success limit says then
  have hcount : r.TotalAllows total total' tick →
      MemoryKept r.totalMaxCount r.seconds tick total' (tick :: all) := by
    intro hallows
    rw [TotalAllows, if_pos hn, unix_eq hq] at hallows
    obtain ⟨q, hreq, rfl⟩ := hallows
    exact hnow.request hn rfl hreq
  cases hstep with
  | totalLimit _ _ => exact hnow
  | successLimit ht _ => exact hcount ht
  | passed ht _ => exact hcount ht
  | elsewhere keep hkeep =>
    rw [unix_eq hq] at hkeep
    exact hnow.filter hexp hkeep

/-- **Without redis the total limit holds in every run**, if requests come at whole seconds and the expiry is not shorter
than the window. -/
theorem memory_limited (hr : r.redisEnabled = false)
    (hq : r.perSecond = 1) (hn : 0 < r.totalMaxCount)
    (hexp : expiry = 0 ∨ r.seconds ≤ expiry + 1) (ht : Along (r.step m) Timely (start expiry) events) :
    Limited r.totalMaxCount r.seconds (passedTimes u (run (r.step m) (start expiry) events).history) := by
  have hinv := run_inv_along (I := fun s => s.limiter.expirationDuration = expiry ∧
      MemoryKept r.totalMaxCount r.seconds s.clock (s.limiter.store (UserCount.total.key u))
        (answerTimes counted u s.history)) ?_ ht ?_
  · exact fun a => le_trans (answerTimes_sublist (by simp [counted]) u _).countP_le (hinv.2.limited a)
  · rintro s e hle ⟨hE, hkept⟩
    have hstep := step_memory hr m s e u
    rw [hE] at hstep
    refine ⟨by rw [step_expirationDuration, hE], ?_⟩
    rw [step_clock, answerTimes_step]
    exact memoryKept_step hq hn hexp hle hstep hkept
  · exact ⟨rfl, covers_nil, sorted_nil, zero_le _, limited_nil⟩

/-! ## With redis -/

/-- What the bucket has is at most the seconds since any request that went through, for a limit of one request. -/
structure RedisKept (w now : Nat) (bucket : Option Bucket) (all : List Nat) : Prop where
  fresh : bucket = none → all = []
  tokens_le : ∀ b, bucket = some b → b.lastTime ≤ now ∧ ∀ x ∈ all, (x : Int) + b.tokens ≤ b.lastTime
  limited : Limited 1 w all

variable {bucket : Option Bucket}

theorem RedisKept.later (h : RedisKept w now bucket all)
    (hle : now ≤ now') : RedisKept w now' bucket all :=
  ⟨h.fresh, fun b hb => ⟨(h.tokens_le b hb).1.trans (by omega), (h.tokens_le b hb).2⟩, h.limited⟩

/-- The tokens after the refill are at most the seconds since any request that went through. -/
theorem RedisKept.refill_le (h : RedisKept w now bucket all) {x : Nat}
    (hx : x ∈ all) : (x : Int) + refill bucket 1 w now ≤ now := by
  cases bucket with
  | none =>
    rw [h.fresh rfl] at hx
    cases hx
  | some b =>
    have hb := (h.tokens_le b rfl).2 x hx
    dsimp only [refill]
    omega

theorem refill_le_capacity (bucket : Option Bucket) (rate capacity now : Int) :
    refill bucket rate capacity now ≤ capacity := by
  cases bucket with
  | none => exact le_rfl
  | some b => exact min_le_left _ _

theorem RedisKept.script {b : Bucket} {allowed : Bool}
    (h : RedisKept w now bucket all) (hs : rateLimitScript w 1 w now bucket = (allowed, b)) :
    RedisKept w now (some b) (if allowed then now :: all else all) := by
  have hcap := refill_le_capacity bucket 1 w now
  unfold rateLimitScript at hs
  by_cases hge : refill bucket 1 w now ≥ w
  · rw [if_pos hge] at hs
    obtain ⟨rfl, rfl⟩ := Prod.mk.injEq .. ▸ hs
    -- the bucket is full, so the last request is at least a window ago
    have hold : ∀ x ∈ all, x + w ≤ now := by
      intro x hx
      have := h.refill_le hx
      omega
    refine ⟨by simp, ?_, h.limited.cons (by rw [recent_eq_zero hold]; exact one_pos)⟩
    rintro b ⟨⟩
    refine ⟨le_rfl, ?_⟩
    intro x hx
    rcases mem_cons.1 hx with rfl | hx
    · dsimp only; omega
    · have := hold x hx
      dsimp only
      omega
  · rw [if_neg hge] at hs
    obtain ⟨rfl, rfl⟩ := Prod.mk.injEq .. ▸ hs
    refine ⟨by simp, ?_, h.limited⟩
    rintro b ⟨⟩
    exact ⟨le_rfl, fun x hx => h.refill_le hx⟩

theorem redisKept_step {bucket' : Option Bucket}
    (hq : r.perSecond = 1) (hn : r.totalMaxCount = 1) (hd : 0 ≤ r.duration) (hle : now ≤ tick)
    (hstep : RedisStep r tick bucket bucket' answer) (h : RedisKept r.seconds now bucket all) :
    RedisKept r.seconds tick bucket' (if answer.any (· = .passed) then tick :: all else all) := by
  have hnow := h.later hle
  cases hstep with
  | refused a ha =>
    rw [if_neg (by simpa using ha)]
    exact hnow
  | script _ b allowed hs =>
    rw [hn, unix_eq hq, duration_eq hd, cast_one, one_mul] at hs
    have hkept := hnow.script hs
    cases allowed
    · exact hkept
    · exact hkept
  | unlimited h0 => omega
  | elsewhere => exact hnow

/-- **With redis a total limit of one request holds in every run** in which requests come at whole seconds. -/
theorem redis_limited (hr : r.redisEnabled)
    (hq : r.perSecond = 1) (hn : r.totalMaxCount = 1) (hd : 0 ≤ r.duration)
    (ht : Along (r.step m) Timely (start expiry) events) :
    Limited 1 r.seconds (passedTimes u (run (r.step m) (start expiry) events).history) := by
  have hinv := run_inv_along (I := fun s => RedisKept r.seconds s.clock (s.rdb.buckets (redisTotalKey u)) (passedTimes u s.history)) ?_ ht ?_
  · exact hinv.limited
  · intro s e hle hkept
    have hstep := step_redis hr m s e u
    rw [step_clock, passedTimes, answerTimes_step]
    exact redisKept_step hq hn hd hle hstep hkept
  · exact ⟨fun _ => rfl, by simp [start], limited_nil⟩

/-! ## Runs that break the limit -/

/-- A run of requests of the user, the success limit never reached, leads to the state `s`; the requests that went through
came at the times `passed`. -/
def Reached (r : RateLimitSite) (m expiry : Nat) (u : Int) (s : RateLimitState) (passed : List Nat) : Prop :=
  ∃ events, Along (r.step m) Timely (start expiry) events ∧ run (r.step m) (start expiry) events = s ∧
    passedTimes u s.history = passed ∧ answerTimes (· = .successLimit) u s.history = []

variable {passed : List Nat}

theorem reached_start : Reached r m expiry u (start expiry) [] := ⟨[], trivial, rfl, rfl, rfl⟩

theorem Reached.snoc (h : Reached r m expiry u s passed) (ht : s.clock ≤ e.1)
    (hans : ∀ a, r.answerTo m u s e = some a → a = .passed) :
    Reached r m expiry u (r.step m s e) (if (r.answerTo m u s e).isSome then e.1 :: passed else passed) := by
  obtain ⟨events, halong, rfl, rfl, hnone⟩ := h
  refine ⟨events ++ [e], along_append.2 ⟨halong, ht, trivial⟩, by simp, ?_⟩
  rw [passedTimes, answerTimes_step, answerTimes_step, hnone]
  cases h : r.answerTo m u (run (r.step m) (start expiry) events) e with
  | none => exact ⟨rfl, rfl⟩
  | some a =>
    rw [hans a h]
    exact ⟨rfl, rfl⟩

theorem Reached.arrive (h : Reached r m expiry u s passed) (ht : s.clock ≤ t)
    (hans : r.answerTo m u s (t, .arrive u) = some .passed) :
    Reached r m expiry u (r.step m s (t, .arrive u)) (t :: passed) := by
  have hnext := h.snoc ht fun a ha => by rw [hans] at ha; exact (some_injective _ ha).symm
  rwa [hans] at hnext

/-- Requests at one time, all of which go through. -/
theorem Reached.burst {I : Nat → RateLimitState → Prop} (h0 : I 0 (start expiry))
    (hstep : ∀ k s, k < n → I k s →
      r.answerTo m u s (t, .arrive u) = some .passed ∧ I (k + 1) (r.step m s (t, .arrive u))) (hk : k ≤ n) :
    ∃ s, I k s ∧ s.clock ≤ t ∧ Reached r m expiry u s (replicate k t) := by
  induction k with
  | zero => exact ⟨start expiry, h0, zero_le _, reached_start⟩
  | succ k ih =>
    obtain ⟨s, hI, hclock, hs⟩ := ih (by omega)
    obtain ⟨hans, hI'⟩ := hstep k s hk hI
    exact ⟨_, hI', (step_clock (s := s)).le, hs.arrive hclock hans⟩

/-- A run with as many requests as the limit allows at `t`, and one more at `t'`. -/
def Breaks (r : RateLimitSite) (expiry : Nat) (u : Int) (t t' : Nat) : Prop :=
  ∃ s, Reached r (r.totalMaxCount + 1) expiry u s (t' :: replicate r.totalMaxCount t)

theorem Breaks.not_limited (h : r.Breaks expiry u t t') (hle : t ≤ t') (hlt : t' < t + w)
    (hlim : ∀ (m : Nat) (events : List (Nat × RateLimitEvent)), Along (r.step m) Timely (start expiry) events →
      answerTimes (· = .successLimit) u (run (r.step m) (start expiry) events).history = [] →
      Limited r.totalMaxCount w (passedTimes u (run (r.step m) (start expiry) events).history)) : False := by
  obtain ⟨_, events, halong, rfl, hpassed, hnone⟩ := h
  have hl := hlim _ events halong hnone
  rw [hpassed] at hl
  refine Lib.not_limited (a := t) (by simp) ?_ hl
  intro x hx
  rcases mem_cons.1 hx with rfl | hx
  · exact ⟨hle, hlt⟩
  · rw [eq_of_mem_replicate hx]
    omega

theorem MemoryStep.passes {a : Answer}
    (hn : 0 < r.totalMaxCount) (hstep : MemoryStep r m expiry t total check total' check' (some a))
    (ht : request total r.totalMaxCount r.duration (r.unix t) = some qt)
    (hc : request check m r.duration (r.unix t) = some qc) : a = .passed ∧ total' = some qt ∧ check' = some qc := by
  cases hstep with
  | totalLimit _ h =>
    rw [h] at ht
    cases ht
  | successLimit _ h =>
    rw [h] at hc
    cases hc
  | passed hallows h =>
    rw [TotalAllows, if_pos hn, ht] at hallows
    obtain ⟨q, hq, rfl⟩ := hallows
    exact ⟨rfl, hq.symm, h.symm.trans hc⟩

variable (hr : r.redisEnabled = false)

include hr

/-- A request that both limits let through, without redis. -/
theorem memory_passes (hn : 0 < r.totalMaxCount)
    (ht : request (s.limiter.store (UserCount.total.key u)) r.totalMaxCount r.duration (r.unix t) = some qt)
    (hc : request (s.limiter.store (UserCount.check.key u)) m r.duration (r.unix t) = some qc) :
    r.answerTo m u s (t, .arrive u) = some .passed ∧
      (r.step m s (t, .arrive u)).limiter.store (UserCount.total.key u) = some qt ∧
      (r.step m s (t, .arrive u)).limiter.store (UserCount.check.key u) = some qc := by
  have hstep := step_memory hr m s (t, .arrive u) u
  rw [answerTo, if_pos rfl] at hstep ⊢
  obtain ⟨ha, hstore⟩ := hstep.passes hn ht hc
  exact ⟨congrArg some ha, hstore⟩

structure MemoryBurst (r : RateLimitSite) (expiry : Nat) (u : Int) (second k : Nat) (s : RateLimitState) : Prop where
  total : kept (s.limiter.store (UserCount.total.key u)) = replicate k second
  check : kept (s.limiter.store (UserCount.check.key u)) = replicate k second
  expiry : s.limiter.expirationDuration = expiry
  asleep : s.limiter.asleepSince = 0

theorem memoryBurst_step (hk : k < r.totalMaxCount)
    (h : MemoryBurst r expiry u (r.unix t) k s) :
    r.answerTo (r.totalMaxCount + 1) u s (t, .arrive u) = some .passed ∧
      MemoryBurst r expiry u (r.unix t) (k + 1) (r.step (r.totalMaxCount + 1) s (t, .arrive u)) := by
  have hlen : ∀ queue, kept queue = replicate k (r.unix t) → (kept queue).length = k := by
    intro queue hq
    rw [hq, length_replicate]
  obtain ⟨qt, hqt, htimes⟩ := request_of_room r.duration (r.unix t)
    (.inr ((hlen _ h.total).trans_lt hk))
  obtain ⟨qc, hqc, hctimes⟩ := request_of_room (n := r.totalMaxCount + 1) r.duration (r.unix t)
    (.inr ((hlen _ h.check).trans_lt (by omega)))
  obtain ⟨hans, hstore, hcheck⟩ := memory_passes hr (by omega) hqt hqc
  obtain ⟨store', hlim, -⟩ := memoryRateLimitHandler_store r (r.totalMaxCount + 1) u t s.limiter
  refine ⟨hans, ?_, ?_, ?_, ?_⟩
  · rw [hstore, kept_some, htimes, h.total, replicate_succ']
  · rw [hcheck, kept_some, hctimes, h.check, replicate_succ']
  · rw [step_expirationDuration, h.expiry]
  · simpa [step, RateLimitSite.arrive, hr, hlim] using h.asleep

theorem memory_burst (expiry : Nat) (u : Int) (t : Nat) :
    ∃ s, MemoryBurst r expiry u (r.unix t) r.totalMaxCount s ∧ s.clock ≤ t ∧
      Reached r (r.totalMaxCount + 1) expiry u s (replicate r.totalMaxCount t) := by
  refine Reached.burst ?_ (fun k s hk h => memoryBurst_step hr hk h) le_rfl
  exact ⟨rfl, rfl, rfl, rfl⟩

theorem memory_breaks_at_seconds (hn : 0 < r.totalMaxCount) (hd : 0 ≤ r.duration)
    (hle : t ≤ t') (hsec : r.unix t + r.seconds ≤ r.unix t') : r.Breaks expiry u t t' := by
  obtain ⟨s, hburst, hclock, hs⟩ := memory_burst hr expiry u t
  have hw := duration_eq hd
  have hold : ∀ x ∈ kept (s.limiter.store (UserCount.total.key u)), (x : Int) + r.duration ≤ r.unix t' := by
    rw [hburst.total]
    intro x hx
    rw [eq_of_mem_replicate hx]
    omega
  obtain ⟨qt, hqt⟩ := isSome_iff_exists.1 (request_of_old r.totalMaxCount hold)
  have hlen : (kept (s.limiter.store (UserCount.check.key u))).length < r.totalMaxCount + 1 := by
    simp [hburst.check]
  obtain ⟨qc, hqc, -⟩ := request_of_room r.duration (r.unix t') (.inr hlen)
  exact ⟨_, hs.arrive (hclock.trans hle) (memory_passes hr hn hqt hqc).1⟩

omit hr

theorem Reached.clear (h : Reached r m expiry u s passed) (ht : s.clock ≤ t) (hawake : r.awake s.limiter t) :
    ∃ s', Reached r m expiry u s' passed ∧ s'.clock = t ∧ s'.limiter = s.limiter.clearExpiredItems (r.unix t) t := by
  have hnext := h.snoc (e := (t, .clear)) ht (by simp [answerTo])
  exact ⟨_, hnext, step_clock, by simp [step, hawake]⟩

theorem clear_clear_eq_none {l : InMemoryRateLimiter} {key : String} {tick' : Nat}
    (h : ∀ q, l.store key = some q → q.newest + l.expirationDuration < now') :
    ((l.clearExpiredItems now tick).clearExpiredItems now' tick').store key = none := by
  cases hq : l.store key with
  | none => simp [clearExpiredItems, hq]
  | some q =>
    have hold := h q hq
    simp [clearExpiredItems, hq, expired, hold]

theorem newest_of_replicate (h : q.times = replicate k second) : q.newest = second := by
  have hmem : q.newest ∈ q.times := getLast_mem q.nonempty
  rw [h] at hmem
  exact eq_of_mem_replicate hmem

theorem memory_breaks_at_expiry (hr : r.redisEnabled = false) (hn : 0 < r.totalMaxCount) (hq : r.perSecond = 1)
    (expiry : Nat) (hE : 0 < expiry) (u : Int) : r.Breaks expiry u (expiry - 1) (2 * expiry) := by
  obtain ⟨s, hburst, hclock, hs⟩ := memory_burst hr expiry u (expiry - 1)
  rw [unix_eq hq] at hburst
  -- the task wakes up when it has slept for the expiry, twice
  have hawake : r.awake s.limiter expiry := by
    refine ⟨by rw [hburst.expiry]; exact hE, ?_⟩
    rw [hburst.expiry, hburst.asleep, hq]
    omega
  obtain ⟨s₁, hs₁, hclock₁, hlim₁⟩ := hs.clear (by omega) hawake
  have hawake₁ : r.awake s₁.limiter (2 * expiry) := by
    rw [hlim₁]
    refine ⟨by simpa [clearExpiredItems, hburst.expiry] using hE, ?_⟩
    simp only [clearExpiredItems, hburst.expiry, hq]
    omega
  obtain ⟨s₂, hs₂, hclock₂, hlim₂⟩ := hs₁.clear (by omega) hawake₁
  have hgone : ∀ key, kept (s.limiter.store key) = replicate r.totalMaxCount (expiry - 1) →
      s₂.limiter.store key = none := by
    intro key hkey
    rw [hlim₂, hlim₁, unix_eq hq, unix_eq hq]
    refine clear_clear_eq_none fun q hstore => ?_
    rw [hstore] at hkey
    rw [newest_of_replicate hkey, hburst.expiry]
    omega
  obtain ⟨qt, hqt, -⟩ := request_of_room r.duration (r.unix (2 * expiry))
    (.inl (congrArg kept (hgone _ hburst.total)))
  obtain ⟨qc, hqc, -⟩ := request_of_room r.duration (r.unix (2 * expiry))
    (.inl (congrArg kept (hgone _ hburst.check)))
  exact ⟨_, hs₂.arrive hclock₂.le (memory_passes hr hn hqt hqc).1⟩

/-! With redis, the bucket fills up again before the window is over. -/

structure RedisBurst (r : RateLimitSite) (u : Int) (second k : Nat) (s : RateLimitState) : Prop where
  list : s.rdb.lists (redisSuccessKey u) = RedisList.none
  bucket : s.rdb.buckets (redisTotalKey u) =
    if k = 0 then none else some ⟨(r.totalMaxCount - k : Int) * r.duration, second⟩

/-- The tokens of the user after the refill. -/
abbrev tokens (r : RateLimitSite) (u : Int) (t : Nat) (s : RateLimitState) : Int :=
  refill (s.rdb.buckets (redisTotalKey u)) r.totalMaxCount (r.totalMaxCount * r.duration) (r.unix t)

/-- A request that finds enough tokens goes through. -/
theorem redis_passes (hr : r.redisEnabled) (hn : 0 < r.totalMaxCount) (hm : 0 < m)
    (hlist : s.rdb.lists (redisSuccessKey u) = RedisList.none) (htokens : r.duration ≤ r.tokens u t s) :
    r.answerTo m u s (t, .arrive u) = some .passed ∧
      (r.step m s (t, .arrive u)).rdb.lists (redisSuccessKey u) = RedisList.none ∧
      (r.step m s (t, .arrive u)).rdb.buckets (redisTotalKey u) = some ⟨r.tokens u t s - r.duration, r.unix t⟩ := by
  have hcheck : r.checkRedisRateLimit (s.rdb.lists (redisSuccessKey u)) m t = (some true, RedisList.none) := by
    rw [hlist, checkRedisRateLimit, if_neg (by omega), RedisList.llen_none, if_pos hm]
  have hhandler : r.redisRateLimitHandler m u t s.rdb =
      (.passed, { s.rdb.setList (redisSuccessKey u) RedisList.none with
        buckets := Function.update s.rdb.buckets (redisTotalKey u) (some ⟨r.tokens u t s - r.duration, r.unix t⟩) }) := by
    rw [redisRateLimitHandler, hcheck]
    dsimp only
    rw [redisTotal, if_pos hn]
    simp [RateLimitRedis.setList, rateLimitScript, htokens]
  simp [answerTo, step, RateLimitSite.arrive, hr, hhandler, RateLimitRedis.setList]

theorem tokens_burst (hd : 0 ≤ r.duration) (h : RedisBurst r u (r.unix t) k s) :
    r.tokens u t s = (r.totalMaxCount - k : Int) * r.duration := by
  rw [tokens, h.bucket]
  by_cases hk : k = 0
  · rw [hk]
    simp [refill]
  · have hle : (r.totalMaxCount - k : Int) * r.duration ≤ r.totalMaxCount * r.duration :=
      mul_le_mul_of_nonneg_right (by omega) hd
    rw [if_neg hk]
    simpa [refill] using hle

theorem redisBurst_step (hr : r.redisEnabled) (hd : 0 ≤ r.duration) (hk : k < r.totalMaxCount)
    (h : RedisBurst r u (r.unix t) k s) :
    r.answerTo (r.totalMaxCount + 1) u s (t, .arrive u) = some .passed ∧
      RedisBurst r u (r.unix t) (k + 1) (r.step (r.totalMaxCount + 1) s (t, .arrive u)) := by
  have htokens := tokens_burst hd h
  have hone : 1 * r.duration ≤ (r.totalMaxCount - k : Int) * r.duration := mul_le_mul_of_nonneg_right (by omega) hd
  obtain ⟨hans, hlist, hbucket⟩ := redis_passes (t := t) hr (by omega) (succ_pos _) h.list (by omega)
  refine ⟨hans, hlist, ?_⟩
  rw [hbucket, htokens]
  push_cast
  ring_nf

theorem redis_breaks (hr : r.redisEnabled) (hn : 0 < r.totalMaxCount) (hd : 0 ≤ r.duration) (expiry : Nat) (u : Int) (hle : t ≤ t')
    (htokens : r.duration ≤ ((r.unix t' : Int) - r.unix t) * r.totalMaxCount) : r.Breaks expiry u t t' := by
  have h0 : RedisBurst r u (r.unix t) 0 (start expiry) := ⟨rfl, rfl⟩
  obtain ⟨s, hburst, hclock, hs⟩ := Reached.burst h0
    (fun k s hk h => redisBurst_step hr hd hk h) le_rfl
  have hbucket := hburst.bucket
  rw [if_neg (by omega), sub_self, zero_mul] at hbucket
  have hcap : 1 * r.duration ≤ r.totalMaxCount * r.duration := mul_le_mul_of_nonneg_right (by omega) hd
  have hrefill : r.duration ≤ r.tokens u t' s := by
    rw [tokens, hbucket, refill, zero_add]
    exact le_min (by omega) htokens
  exact ⟨_, hs.arrive (hclock.trans hle) (redis_passes hr hn (succ_pos _) hburst.list hrefill).1⟩

/-! ## When the total limit holds -/

/-- **The total limit holds in every run exactly if** requests come at whole seconds and, with redis, the limit is one
request, or, without redis, the background task never runs or keeps a queue for the window. -/
theorem total_limit_iff (r : RateLimitSite) (expiry : Nat) (hD : 1 ≤ r.durationMinutes) (hn : 1 ≤ r.totalMaxCount) :
    (∀ (u : Int) (m : Nat) (events : List (Nat × RateLimitEvent)),
      Along (r.step m) Timely (start expiry) events →
      answerTimes (· = .successLimit) u (run (r.step m) (start expiry) events).history = [] →
      Limited r.totalMaxCount r.window (passedTimes u (run (r.step m) (start expiry) events).history)) ↔
    r.perSecond = 1 ∧ if r.redisEnabled then r.totalMaxCount = 1 else expiry = 0 ∨ r.seconds ≤ expiry + 1 := by
  have hsec : r.duration = r.seconds := duration_eq (by unfold duration; omega)
  have hlong : 60 ≤ r.seconds := by unfold seconds duration; omega
  have hd : 0 ≤ r.duration := by omega
  have hqpos := r.perSecond_pos
  constructor
  · intro hlim
    have hq : r.perSecond = 1 := by
      by_contra hq
      -- `n` requests in the last tick of a second, and one in the first tick of the second that is a window later
      have hlast : r.unix (r.perSecond - 1) = 0 := div_eq_of_lt (by omega)
      have hle : r.perSecond - 1 ≤ r.window := (sub_le _ _).trans (Nat.le_mul_of_pos_left _ (by omega))
      have hwindow : r.unix r.window = r.seconds := r.unix_mul _
      have hs : r.Breaks expiry 0 (r.perSecond - 1) r.window := by
        cases hr : r.redisEnabled with
        | false => exact memory_breaks_at_seconds hr hn hd hle (by omega)
        | true =>
          refine redis_breaks hr hn hd expiry 0 hle ?_
          rw [hlast, hwindow, ← hsec, cast_zero, sub_zero]
          exact le_mul_of_one_le_right hd (by omega)
      exact hs.not_limited hle (by omega) (hlim 0)
    have hwindow : r.window = r.seconds := by rw [window, hq, mul_one]
    cases hr : r.redisEnabled with
    | true =>
      rw [if_pos rfl]
      by_contra hne
      have htokens : r.duration ≤ ((r.unix (r.seconds - 1) : Int) - r.unix 0) * r.totalMaxCount := by
        have htwo : ((r.seconds : Int) - 1) * 2 ≤ (r.seconds - 1) * r.totalMaxCount :=
          mul_le_mul_of_nonneg_left (by omega) (by omega)
        rw [unix_eq hq, unix_eq hq, cast_zero, sub_zero, cast_sub (by omega), cast_one]
        omega
      have hs := redis_breaks hr hn hd expiry 0 (zero_le _) htokens
      exact hs.not_limited (zero_le _) (by omega) (hlim 0)
    | false =>
      rw [if_neg (by simp)]
      by_contra hne
      have hs := memory_breaks_at_expiry hr hn hq expiry (by omega) 0
      exact hs.not_limited (by omega) (by omega) (hlim 0)
  · rintro ⟨hq, hcond⟩ u m events ht -
    have hwindow : r.window = r.seconds := by rw [window, hq, mul_one]
    rw [hwindow]
    cases hr : r.redisEnabled with
    | true =>
      rw [hr] at hcond
      rw [hcond]
      exact redis_limited hr hq hcond hd ht
    | false =>
      rw [hr] at hcond
      exact memory_limited hr hq hn hcond ht

/-- A limit of one request in a minute, with redis and a clock of whole seconds. -/
def oneAMinute : RateLimitSite := ⟨1, 1, true, 1, by decide⟩

theorem total_limit_iff_oneAMinute :
    (1 ≤ oneAMinute.durationMinutes ∧ 1 ≤ oneAMinute.totalMaxCount) ∧
    ∀ (u : Int) (m : Nat) (events : List (Nat × RateLimitEvent)),
      Along (oneAMinute.step m) Timely (start 1200) events →
      answerTimes (· = .successLimit) u (run (oneAMinute.step m) (start 1200) events).history = [] →
      Limited 1 oneAMinute.window (passedTimes u (run (oneAMinute.step m) (start 1200) events).history) :=
  ⟨by decide, (total_limit_iff oneAMinute 1200 (by decide) (by decide)).2 (by decide)⟩

/-- Two requests in a minute, with redis. -/
def twoAMinute : RateLimitSite := ⟨1, 2, true, 1, by decide⟩

/-- Two requests at once, and one after half of the window. -/
def refillRun : List (Nat × RateLimitEvent) := [(0, .arrive 1), (0, .arrive 1), (30, .arrive 1)]

/-- One request in half an hour, without redis. -/
def oneInHalfAnHour : RateLimitSite := ⟨30, 1, false, 1, by decide⟩

/-- A request before each round of the background task, which runs every twenty minutes. -/
def forgottenRun : List (Nat × RateLimitEvent) := [(1199, .arrive 1), (1200, .clear), (2400, .clear), (2400, .arrive 1)]

/-- With redis three of two requests go through in a minute; without redis two of one request go through in half an hour. -/
theorem total_limit_exceeded :
    (Along (twoAMinute.step 0) Timely (start 1200) refillRun ∧
      answerTimes (· = .successLimit) 1 (run (twoAMinute.step 0) (start 1200) refillRun).history = [] ∧
      ¬ Limited 2 twoAMinute.window (passedTimes 1 (run (twoAMinute.step 0) (start 1200) refillRun).history)) ∧
    (Along (oneInHalfAnHour.step 100) Timely (start 1200) forgottenRun ∧
      answerTimes (· = .successLimit) 1 (run (oneInHalfAnHour.step 100) (start 1200) forgottenRun).history = [] ∧
      ¬ Limited 1 oneInHalfAnHour.window
        (passedTimes 1 (run (oneInHalfAnHour.step 100) (start 1200) forgottenRun).history)) := by
  refine ⟨⟨by decide, by decide, ?_⟩, by decide, by decide, ?_⟩
  · exact Lib.not_limited (a := 0) (by decide) (by decide)
  · exact Lib.not_limited (a := 1199) (by decide) (by decide)

end RateLimitSite

/-! ## The limiter on its own -/

/-- A call of `Request`, or a round of the background task. -/
inductive LimiterEvent where
  | request (key : String) (maxRequestNum : Nat) (duration : Int)
  | clear
  deriving DecidableEq, Repr

structure LimiterState where
  clock : Nat
  limiter : InMemoryRateLimiter
  /-- When requests of a key were let through, newest first. -/
  accepted : String → List Nat

namespace LimiterState

def start (expirationDuration : Int) : LimiterState :=
  ⟨0, InMemoryRateLimiter.init none expirationDuration 0, fun _ => []⟩

/-- The mutex makes a call and a round one step each. -/
def step (s : LimiterState) (e : Nat × LimiterEvent) : LimiterState :=
  match e.2 with
  | .request key maxRequestNum duration =>
    let r := s.limiter.request key maxRequestNum duration e.1
    ⟨e.1, r.2, if r.1 then Function.update s.accepted key (e.1 :: s.accepted key) else s.accepted⟩
  | .clear =>
    { s with clock := e.1, limiter := if 0 < s.limiter.expirationDuration then s.limiter.clearExpiredItems e.1 e.1 else s.limiter }

/-- The clock does not go back, and the requests of the key have one limit and one duration. -/
def Constant (key : String) (n : Nat) (d : Int) (s : LimiterState) (e : Nat × LimiterEvent) : Prop :=
  s.clock ≤ e.1 ∧ ∀ m d', e.2 = .request key m d' → m = n ∧ d' = d

variable {key : String} {n now : Nat} {d expiry : Int} {s : LimiterState} {e : Nat × LimiterEvent}
  {events : List (Nat × LimiterEvent)}

/-- The queue of the key has all that is in the window. -/
structure Exact (key : String) (n : Nat) (d : Int) (s : LimiterState) : Prop where
  expiry : d ≤ s.limiter.expirationDuration
  kept : RateLimitSite.MemoryKept n d.toNat s.clock (s.limiter.store key) (s.accepted key)

theorem Exact.step (hn : 0 < n) (h : Exact key n d s) (he : Constant key n d s e) : Exact key n d (s.step e) := by
  obtain ⟨now, event⟩ := e
  have hnow := h.kept.later he.1
  cases event with
  | request other m d' =>
    refine ⟨by simpa [LimiterState.step] using h.expiry, ?_⟩
    by_cases hkey : other = key
    · subst hkey
      obtain ⟨rfl, rfl⟩ := he.2 m d' rfl
      cases hq : Queue.request (s.limiter.store other) m d' now with
      | none => simpa [LimiterState.step, InMemoryRateLimiter.request, hq] using hnow
      | some q => simpa [LimiterState.step, InMemoryRateLimiter.request, hq] using hnow.request hn rfl hq
    · have hstore : (s.limiter.request other m d' now).2.store key = s.limiter.store key :=
        request_store_of_ne (Ne.symm hkey)
      have haccepted : (s.step (now, .request other m d')).accepted key = s.accepted key := by
        simp only [LimiterState.step]
        split
        · exact Function.update_of_ne (Ne.symm hkey) _ _
        · rfl
      rw [haccepted]
      simpa [LimiterState.step, hstore] using hnow
  | clear =>
    by_cases hpos : 0 < s.limiter.expirationDuration
    · have hstep : s.step (now, .clear) = { s with clock := now, limiter := s.limiter.clearExpiredItems now now } := by
        simp [LimiterState.step, hpos]
      rw [hstep]
      have hwindow : d.toNat ≤ s.limiter.expirationDuration := by
        have := h.expiry
        omega
      have hold : ∀ t, (!decide (t + s.limiter.expirationDuration < now)) = false →
          0 < s.limiter.expirationDuration ∧ t + s.limiter.expirationDuration < now :=
        fun t ht => ⟨hpos, by simpa using ht⟩
      exact ⟨h.expiry, hnow.filter (.inr (le_succ_of_le hwindow)) hold⟩
    · exact ⟨by simpa [LimiterState.step, hpos] using h.expiry, by simpa [LimiterState.step, hpos] using hnow⟩

/-- **The window of the in-memory limiter is exact.** -/
theorem request_exact (hn : 0 < n) (hd : d ≤ expiry) (h : Along step (Constant key n d) (start expiry) events)
    (hnow : (run step (start expiry) events).clock ≤ now) :
    ((run step (start expiry) events).limiter.request key n d now).1 = true ↔
      recent d.toNat now ((run step (start expiry) events).accepted key) < n := by
  have hstart : Exact key n d (start expiry) :=
    ⟨hd.trans (Int.self_le_toNat _), covers_nil, sorted_nil, zero_le _, limited_nil⟩
  have hrun : Exact key n d (run step (start expiry) events) := run_inv_along (fun _ _ hC hI => hI.step hn hC) h hstart
  rw [request_fst]
  exact (hrun.kept.later hnow).isSome_request hn rfl

/-- One request in two seconds; the background task runs between them. -/
theorem request_exact_twoSeconds :
    let s := run step (start 3) [(0, .request "k" 1 2), (1, .clear)]
    (s.limiter.request "k" 1 2 1).1 = true ↔ recent 2 1 (s.accepted "k") < 1 :=
  request_exact (by decide) (by decide) ⟨⟨by decide, by simp⟩, ⟨by decide, by simp⟩, trivial⟩ (by decide)

end LimiterState

end SynthApi
