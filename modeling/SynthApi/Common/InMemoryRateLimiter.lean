import SynthApi.Lib.Window
import Mathlib.Data.Option.Basic
import Mathlib.Order.Nat

/-!
# The in-memory rate limiter

`InMemoryRateLimiter` (`common/rate-limit.go`) keeps a queue of times by key. A request is let through while the queue of
its key is not full, or when the oldest time of a full queue has left the window. A background task forgets the keys
whose newest time is older than the expiry, which is the one of whoever initialised the limiter first.

The clock of the limiter is `time.Now().Unix()`, so all times here are whole seconds.
-/

namespace SynthApi

open Lib List

/-- The slice of times under a key, `[old <-- new]`. It is never empty. -/
structure Queue where
  times : List Nat
  nonempty : times ≠ []

namespace Queue

/-- `(*queue)[0]`. -/
def oldest (s : Queue) : Nat := s.times.head s.nonempty

/-- `(*queue)[size-1]`. -/
def newest (s : Queue) : Nat := s.times.getLast s.nonempty

/-- The queue of a new key. -/
def single (now : Nat) : Queue := ⟨[now], by simp⟩

/-- `append(*queue, now)`. -/
def push (s : Queue) (now : Nat) : Queue := ⟨s.times ++ [now], by simp⟩

/-- `append((*queue)[1:], now)`. -/
def shift (s : Queue) (now : Nat) : Queue := ⟨s.times.tail ++ [now], by simp⟩

/-- The queue of a key after a request at `now`, if the request is let through. -/
def request (queue : Option Queue) (maxRequestNum : Nat) (duration : Int) (now : Nat) : Option Queue :=
  match queue with
  | some q =>
    if q.times.length < maxRequestNum then some (q.push now)
    else if (now : Int) - q.oldest ≥ duration then some (q.shift now)
    else none
  | none => some (single now)

def kept (queue : Option Queue) : List Nat := (queue.map times).getD []

@[simp] theorem kept_none : kept none = [] := rfl

@[simp] theorem kept_some (q : Queue) : kept (some q) = q.times := rfl

theorem times_eq_cons (q : Queue) : q.times = q.oldest :: q.times.tail := (cons_head_tail q.nonempty).symm

theorem length_pos (q : Queue) : 0 < q.times.length := length_pos_of_ne_nil q.nonempty

/-- **What a request does to the queue of its key**: the time is added, either to a queue that is not full, or to a queue
whose oldest time is long ago and is forgotten. A request that is rejected meets a full queue of recent times. -/
theorem request_cases (queue : Option Queue) (n : Nat) (d : Int) (now : Nat) :
    (∃ q, request queue n d now = some q ∧ q.times = kept queue ++ [now] ∧
      (kept queue = [] ∨ (kept queue).length < n)) ∨
    (∃ q old rest, request queue n d now = some q ∧ kept queue = old :: rest ∧ q.times = rest ++ [now] ∧
      n ≤ (kept queue).length ∧ (old : Int) + d ≤ now) ∨
    (∃ old rest, request queue n d now = none ∧ kept queue = old :: rest ∧ n ≤ (kept queue).length ∧
      (now : Int) < old + d) := by
  cases queue with
  | none => exact .inl ⟨single now, rfl, rfl, .inl rfl⟩
  | some q =>
    by_cases hfull : q.times.length < n
    · exact .inl ⟨q.push now, by simp [request, hfull], rfl, .inr hfull⟩
    · by_cases hold : (now : Int) - q.oldest ≥ d
      · refine .inr (.inl ⟨q.shift now, q.oldest, q.times.tail, ?_, q.times_eq_cons, rfl, ?_, ?_⟩)
        · simp only [request, if_neg hfull, if_pos hold]
        · rw [kept_some]; omega
        · omega
      · refine .inr (.inr ⟨q.oldest, q.times.tail, ?_, q.times_eq_cons, ?_, ?_⟩)
        · simp only [request, if_neg hfull, if_neg hold]
        · rw [kept_some]; omega
        · omega

variable {queue : Option Queue} {n now x : Nat} {d : Int} {ts : List Nat} {q : Queue}

theorem request_of_room (d : Int) (now : Nat) (h : kept queue = [] ∨ (kept queue).length < n) :
    ∃ q, request queue n d now = some q ∧ q.times = kept queue ++ [now] := by
  cases queue with
  | none => exact ⟨single now, rfl, rfl⟩
  | some q =>
    have hlen : q.times.length < n := h.resolve_left q.nonempty
    exact ⟨q.push now, by simp [request, hlen], rfl⟩

theorem request_of_old (n : Nat) (h : ∀ x ∈ kept queue, (x : Int) + d ≤ now) :
    (request queue n d now).isSome := by
  rcases request_cases queue n d now with ⟨q, hr, -⟩ | ⟨q, _, _, hr, -⟩ | ⟨old, rest, -, hk, -, hold⟩
  · rw [hr]; rfl
  · rw [hr]; rfl
  · have := h old (by rw [hk]; exact mem_cons_self)
    omega

/-- The times of a queue are in order and not in the future. -/
structure Sorted (now : Nat) (ts : List Nat) : Prop where
  pairwise : ts.Pairwise (· ≤ ·)
  past : ∀ x ∈ ts, x ≤ now

theorem sorted_nil : Sorted now [] := ⟨List.Pairwise.nil, by simp⟩

theorem Sorted.later {t : Nat} (h : Sorted now ts) (hle : now ≤ t) : Sorted t ts :=
  ⟨h.pairwise, fun x hx => (h.past x hx).trans hle⟩

theorem Sorted.push (h : Sorted now ts) : Sorted now (ts ++ [now]) := by
  constructor
  · rw [pairwise_append]
    refine ⟨h.pairwise, pairwise_singleton _ _, ?_⟩
    intro x hx y hy
    rw [mem_singleton.1 hy]
    exact h.past x hx
  · intro x hx
    rcases mem_append.1 hx with hx | hx
    · exact h.past x hx
    · exact (mem_singleton.1 hx).le

theorem Sorted.drop (h : Sorted now (x :: ts)) : Sorted now ts :=
  ⟨h.pairwise.of_cons, fun y hy => h.past y (mem_cons_of_mem x hy)⟩

/-- The newest time of a queue in order is the latest. -/
theorem Sorted.le_newest (h : Sorted now q.times) (hx : x ∈ q.times) :
    x ≤ q.newest := by
  unfold newest
  obtain ⟨init, hq⟩ : ∃ init, q.times = init ++ [q.times.getLast q.nonempty] :=
    ⟨q.times.dropLast, (dropLast_append_getLast q.nonempty).symm⟩
  have hp := h.pairwise
  rw [hq, pairwise_append] at hp
  rw [hq] at hx
  rcases mem_append.1 hx with hx | hx
  · exact hp.2.2 x hx _ (by simp)
  · exact (mem_singleton.1 hx).le

theorem request_sorted
    (h : Sorted now (kept queue)) (hq : request queue n d now = some q) : Sorted now q.times := by
  rcases request_cases queue n d now with ⟨q', hr, ht, -⟩ | ⟨q', old, rest, hr, hk, ht, -⟩ | ⟨_, _, hr, -⟩
  · obtain rfl : q' = q := Option.some_injective _ (hr.symm.trans hq)
    rw [ht]
    exact h.push
  · obtain rfl : q' = q := Option.some_injective _ (hr.symm.trans hq)
    rw [hk] at h
    rw [ht]
    exact h.drop.push
  · rw [hr] at hq
    cases hq

end Queue

/-! ## The limiter -/

structure InMemoryRateLimiter where
  store : String → Option Queue
  /-- `int64(l.expirationDuration.Seconds())`; no background task runs if it is not positive. -/
  expirationDuration : Nat
  /-- When the background task began to sleep, in clock ticks. -/
  asleepSince : Nat

namespace InMemoryRateLimiter

/-- `Init`: only the first call counts. -/
def init (l : Option InMemoryRateLimiter) (expirationDuration : Int) (tick : Nat) : InMemoryRateLimiter :=
  l.getD ⟨fun _ => none, expirationDuration.toNat, tick⟩

/-- `Request`: whether the request is let through, and the limiter after it. -/
def request (l : InMemoryRateLimiter) (key : String) (maxRequestNum : Nat) (duration : Int) (now : Nat) :
    Bool × InMemoryRateLimiter :=
  match Queue.request (l.store key) maxRequestNum duration now with
  | some q => (true, { l with store := Function.update l.store key (some q) })
  | none => (false, l)

def expired (l : InMemoryRateLimiter) (now : Nat) (q : Queue) : Bool := decide (q.newest + l.expirationDuration < now)

def clearExpiredItems (l : InMemoryRateLimiter) (now tick : Nat) : InMemoryRateLimiter :=
  { l with store := fun key => (l.store key).filter fun q => !l.expired now q, asleepSince := tick }

variable {l : InMemoryRateLimiter} {key other : String} {n now : Nat} {d : Int}

@[simp] theorem request_expirationDuration : (l.request key n d now).2.expirationDuration = l.expirationDuration := by
  unfold request
  split <;> rfl

@[simp] theorem request_fst : (l.request key n d now).1 = (Queue.request (l.store key) n d now).isSome := by
  unfold request
  split <;> simp_all

/-- A request concerns the queue of its own key. -/
theorem request_store_of_ne (h : other ≠ key) : (l.request key n d now).2.store other = l.store other := by
  unfold request
  split
  · exact Function.update_of_ne h _ _
  · rfl

end InMemoryRateLimiter

end SynthApi
