import SynthApi.Common.InMemoryRateLimiter
import SynthApi.Lib.Go
import SynthApi.Lib.RedisList
import SynthApi.Lib.Run

/-!
# The rate limit of model requests

`ModelRequestRateLimit` (`middleware/model-rate-limit.go`) limits the requests of a user in two ways: how many requests may
come in a time window (the total limit), and how many may succeed in it (the success limit). With redis it uses a token
bucket for the total limit (`common/limiter/lua/rate_limit.lua`) and a list of times for the success limit; without redis
both use the in-memory limiter, which the other rate limiters of the site use under keys of their own.

Time is counted in ticks, `perSecond` of them in a second. The code reads its clocks in whole seconds (`unix`) or, for the
times it stores in redis, in milliseconds (`millis`).

A run of the site is a sequence of events with their times (`RateLimitSite.step`): requests that come and requests that are
answered, of any users, rounds of the limiter's background task, and uses of the limiter by others.
-/

namespace SynthApi

open Lib Function InMemoryRateLimiter

/-! ## Settings and keys -/

structure RateLimitSite where
  /-- `setting.ModelRequestRateLimitDurationMinutes`. -/
  durationMinutes : Int
  totalMaxCount : Nat
  redisEnabled : Bool
  /-- Clock ticks in a second. -/
  perSecond : Nat
  perSecond_pos : 0 < perSecond

namespace RateLimitSite

variable (r : RateLimitSite)

/-- The window, in seconds. -/
def duration : Int := r.durationMinutes * 60

/-- `time.Now().Unix()`. -/
def unix (tick : Nat) : Nat := tick / r.perSecond

/-- What `timeFormat` keeps of a time. -/
def millis (tick : Nat) : Nat := tick * 1000 / r.perSecond

theorem unix_mono {a b : Nat} (h : a ≤ b) : r.unix a ≤ r.unix b := Nat.div_le_div_right h

theorem unix_mul (a : Nat) : r.unix (a * r.perSecond) = a := Nat.mul_div_cancel a r.perSecond_pos

end RateLimitSite

/-- What the in-memory limiter counts of a user. -/
inductive UserCount where
  | total
  | success
  | check
  deriving DecidableEq, Repr

open UserCount

/-- The keys of a user in the in-memory limiter: `totalKey`, `successKey`, `checkKey`. -/
def UserCount.key (userId : Int) : UserCount → String
  | .total => "MRRL" ++ toString userId
  | .success => "MRRLS" ++ toString userId
  | .check => "MRRLS" ++ toString userId ++ "_check"

/-- The marks of the other rate limiters; their keys begin with the mark. -/
inductive OtherMark where
  | globalWeb
  | globalAPI
  | critical
  | credential
  | registration
  | global
  | download
  | upload
  | search
  | emailVerification
  deriving DecidableEq, Repr

def OtherMark.text : OtherMark → String
  | .globalWeb => "GW"
  | .globalAPI => "GA"
  | .critical => "CT"
  | .credential => "CREDENTIAL"
  | .registration => "REG"
  | .global => "global:"
  | .download => "DW"
  | .upload => "UP"
  | .search => "SR"
  | .emailVerification => "EV"

variable {u v : Int} {k k' : UserCount}

theorem itoa_inj_of_toList (h : (toString u).toList = (toString v).toList) : u = v :=
  Go.itoa_injective (String.toList_injective h)

theorem UserCount.key_inj (h : k.key u = k'.key v) : k = k' ∧ u = v := by
  have hS : ∀ (z : Int) (cs : List Char), (toString z).toList ≠ 'S' :: cs := by
    intro z cs hz
    have hmem : 'S' ∈ (toString z).toList := by rw [hz]; exact List.mem_cons_self
    exact absurd (Go.mem_itoa hmem) (by decide)
  have hcheck : ∀ z z' : Int, (toString z).toList ≠ (toString z').toList ++ "_check".toList := by
    intro z z' hz
    have hmem : '_' ∈ (toString z).toList := by rw [hz]; simp
    exact absurd (Go.mem_itoa hmem) (by decide)
  have hlist := congrArg String.toList h
  cases k <;> cases k' <;>
    simp only [key, String.toList_append, String.reduceToList, List.cons_append, List.nil_append,
      List.cons.injEq, true_and] at hlist
  · exact ⟨rfl, itoa_inj_of_toList hlist⟩
  · exact absurd hlist (hS _ _)
  · exact absurd hlist (hS _ _)
  · exact absurd hlist.symm (hS _ _)
  · exact ⟨rfl, itoa_inj_of_toList hlist⟩
  · exact absurd hlist (hcheck _ _)
  · exact absurd hlist.symm (hS _ _)
  · exact absurd hlist.symm (hcheck _ _)
  · exact ⟨rfl, itoa_inj_of_toList (List.append_cancel_right hlist)⟩

theorem UserCount.key_ne (h : k ≠ k' ∨ u ≠ v) : k.key u ≠ k'.key v := by
  intro heq
  obtain ⟨hk, hu⟩ := key_inj heq
  exact h.elim (absurd hk) (absurd hu)

/-- No other limiter uses a key of a user. -/
theorem OtherMark.text_ne_key (mark : OtherMark) (rest : String) (k : UserCount) (u : Int) :
    mark.text ++ rest ≠ k.key u := by
  intro h
  have hhead := congrArg (fun s => s.toList.head?) h
  cases mark <;> cases k <;> simp [OtherMark.text, key] at hhead

/-! ## The handler with redis -/

structure Bucket where
  tokens : Int
  lastTime : Int
  deriving DecidableEq, Repr

/-- The tokens of a bucket at a time, before a request takes some: a new bucket is full. -/
def Bucket.refill (bucket : Option Bucket) (rate capacity now : Int) : Int :=
  match bucket with
  | some b => min capacity (b.tokens + (now - b.lastTime) * rate)
  | none => capacity

/-- `rate_limit.lua`. -/
def rateLimitScript (requested rate capacity now : Int) (bucket : Option Bucket) : Bool × Bucket :=
  let tokens := Bucket.refill bucket rate capacity now
  if tokens ≥ requested then (true, ⟨tokens - requested, now⟩) else (false, ⟨tokens, now⟩)

/-- What the handler finds in redis. -/
structure RateLimitRedis where
  buckets : String → Option Bucket
  /-- Lists of times in milliseconds. -/
  lists : String → RedisList Nat

def RateLimitRedis.setList (rdb : RateLimitRedis) (key : String) (list : RedisList Nat) : RateLimitRedis :=
  { rdb with lists := update rdb.lists key list }

/-- How a handler answers a request that comes. -/
inductive Answer where
  | passed
  | totalLimit
  | successLimit
  | checkFailed
  deriving DecidableEq, Repr

def redisSuccessKey (userId : Int) : String := "rateLimit:" ++ "MRRLS" ++ ":" ++ toString userId

def redisTotalKey (userId : Int) : String := "rateLimit:" ++ toString userId

namespace RateLimitSite

variable (r : RateLimitSite)

def listExpiry : Int := r.duration * r.perSecond

/-- `checkRedisRateLimit`: the answer of the check, none if it fails, and the list after it. -/
def checkRedisRateLimit (list : RedisList Nat) (maxCount : Nat) (tick : Nat) : Option Bool × RedisList Nat :=
  if maxCount = 0 then (some true, list)
  else if list.llen tick < maxCount then (some true, list)
  else
    match list.lindexLast tick with
    -- the empty string is no time
    | none => (none, list)
    | some oldTime =>
      if ((r.millis tick : Int) - oldTime).tdiv 1000 < r.duration then (some false, list.expire tick r.listExpiry)
      else (some true, list)

def recordRedisRequest (list : RedisList Nat) (maxCount : Nat) (tick : Nat) : RedisList Nat :=
  if maxCount = 0 then list
  else (((list.lpush tick (r.millis tick)).ltrim tick maxCount).expire tick r.listExpiry)

/-- The second check of `redisRateLimitHandler`, by the token bucket. -/
def redisTotal (userId : Int) (tick : Nat) (rdb : RateLimitRedis) : Answer × RateLimitRedis :=
  if r.totalMaxCount > 0 then
    let total := rateLimitScript r.duration r.totalMaxCount (r.totalMaxCount * r.duration) (r.unix tick)
      (rdb.buckets (redisTotalKey userId))
    (if total.1 then .passed else .totalLimit,
      { rdb with buckets := update rdb.buckets (redisTotalKey userId) (some total.2) })
  else (.passed, rdb)

variable (successMaxCount : Nat) (userId : Int)

/-- `redisRateLimitHandler` up to `c.Next()`. A request over the total limit is aborted: the next handlers do not run and
its status is 429, so that it is not recorded afterwards either. -/
def redisRateLimitHandler (tick : Nat) (rdb : RateLimitRedis) :
    Answer × RateLimitRedis :=
  match r.checkRedisRateLimit (rdb.lists (redisSuccessKey userId)) successMaxCount tick with
  | (none, list) => (.checkFailed, rdb.setList (redisSuccessKey userId) list)
  | (some false, list) => (.successLimit, rdb.setList (redisSuccessKey userId) list)
  | (some true, list) => r.redisTotal userId tick (rdb.setList (redisSuccessKey userId) list)

/-- `redisRateLimitHandler` after `c.Next()`. -/
def redisFinish (status : Nat) (tick : Nat) (rdb : RateLimitRedis) :
    RateLimitRedis :=
  if status < 400 then
    rdb.setList (redisSuccessKey userId) (r.recordRedisRequest (rdb.lists (redisSuccessKey userId)) successMaxCount tick)
  else rdb

/-! ## The handler without redis -/

def memoryCheck (tick : Nat) (l : InMemoryRateLimiter) :
    Answer × InMemoryRateLimiter :=
  let check := l.request (check.key userId) successMaxCount r.duration (r.unix tick)
  (if check.1 then .passed else .successLimit, check.2)

/-- `memoryRateLimitHandler` up to `c.Next()`. -/
def memoryRateLimitHandler (tick : Nat) (limiter : InMemoryRateLimiter) :
    Answer × InMemoryRateLimiter :=
  let l := init (some limiter) r.duration tick
  if r.totalMaxCount > 0 then
    let total := l.request (total.key userId) r.totalMaxCount r.duration (r.unix tick)
    if total.1 then r.memoryCheck successMaxCount userId tick total.2 else (.totalLimit, total.2)
  else r.memoryCheck successMaxCount userId tick l

/-- `memoryRateLimitHandler` after `c.Next()`. -/
def memoryFinish (status : Nat) (tick : Nat) (l : InMemoryRateLimiter) :
    InMemoryRateLimiter :=
  if status < 400 then (l.request (success.key userId) successMaxCount r.duration (r.unix tick)).2 else l

end RateLimitSite

/-! ## Runs of the site -/

/-- What happens at the site. -/
inductive RateLimitEvent where
  /-- A request of the user comes. -/
  | arrive (userId : Int)
  /-- A request of the user that went through is answered. -/
  | finish (userId : Int) (status : Nat)
  /-- The background task of the in-memory limiter wakes up. -/
  | clear
  /-- Another rate limiter asks the in-memory limiter. -/
  | other (mark : OtherMark) (rest : String) (maxRequestNum : Nat) (duration : Int)
  deriving DecidableEq, Repr

/-- What is seen of it. -/
inductive RateLimitRecord where
  | answered (userId : Int) (tick : Nat) (answer : Answer)
  | finished (userId : Int) (tick : Nat) (status : Nat)
  deriving DecidableEq, Repr

structure RateLimitState where
  clock : Nat
  limiter : InMemoryRateLimiter
  rdb : RateLimitRedis
  /-- How many requests of a user went through and are not answered yet. -/
  running : Int → Nat
  /-- Newest first. -/
  history : List RateLimitRecord

/-- The times of the user's requests that were answered in one of the ways `p`. -/
def answerTimes (p : Answer → Bool) (userId : Int) (history : List RateLimitRecord) : List Nat :=
  history.filterMap fun
    | .answered u tick a => if u = userId ∧ p a then some tick else none
    | .finished .. => none

theorem answerTimes_answered (p : Answer → Bool) (u v : Int) (tick : Nat) (a : Answer) (history : List RateLimitRecord) :
    answerTimes p u (.answered v tick a :: history) =
      if v = u ∧ p a then tick :: answerTimes p u history else answerTimes p u history := by
  unfold answerTimes
  by_cases h : v = u ∧ p a
  · rw [List.filterMap_cons_some (b := tick) (by simp [h]), if_pos h]
  · rw [List.filterMap_cons_none (by simpa using h), if_neg h]

/-- The times at which requests of the user went through. -/
def passedTimes (userId : Int) (history : List RateLimitRecord) : List Nat := answerTimes (· = .passed) userId history

def successTimes (userId : Int) (history : List RateLimitRecord) : List Nat :=
  history.filterMap fun
    | .answered .. => none
    | .finished u tick status => if u = userId ∧ status < 400 then some tick else none

namespace RateLimitSite

variable (r : RateLimitSite) (successMaxCount : Nat)

/-- `ModelRequestRateLimit` when a request comes. -/
def arrive (userId : Int) (tick : Nat) (s : RateLimitState) : Answer × RateLimitState :=
  if r.redisEnabled then
    let h := r.redisRateLimitHandler successMaxCount userId tick s.rdb
    (h.1, { s with rdb := h.2 })
  else
    let h := r.memoryRateLimitHandler successMaxCount userId tick s.limiter
    (h.1, { s with limiter := h.2 })

/-- The sleep of the background task is over. -/
def awake (l : InMemoryRateLimiter) (tick : Nat) : Prop :=
  0 < l.expirationDuration ∧ l.asleepSince + l.expirationDuration * r.perSecond ≤ tick

instance (l : InMemoryRateLimiter) (tick : Nat) : Decidable (r.awake l tick) :=
  inferInstanceAs (Decidable (_ ∧ _))

def step (s : RateLimitState) (e : Nat × RateLimitEvent) : RateLimitState :=
  match e.2 with
  | .arrive userId =>
    let a := r.arrive successMaxCount userId e.1 s
    { a.2 with
      clock := e.1
      running := if a.1 = .passed then update s.running userId (s.running userId + 1) else s.running
      history := .answered userId e.1 a.1 :: s.history }
  | .finish userId status =>
    if s.running userId = 0 then { s with clock := e.1 }
    else
      { clock := e.1
        limiter := if r.redisEnabled then s.limiter else r.memoryFinish successMaxCount userId status e.1 s.limiter
        rdb := if r.redisEnabled then r.redisFinish successMaxCount userId status e.1 s.rdb else s.rdb
        running := update s.running userId (s.running userId - 1)
        history := .finished userId e.1 status :: s.history }
  | .clear =>
    if r.awake s.limiter e.1 then
      { s with clock := e.1, limiter := s.limiter.clearExpiredItems (r.unix e.1) e.1 }
    else { s with clock := e.1 }
  | .other mark rest maxRequestNum duration =>
    { s with clock := e.1, limiter := (s.limiter.request (mark.text ++ rest) maxRequestNum duration (r.unix e.1)).2 }

/-- The limiter has just been initialised, with the expiry of whoever did it first. -/
def start (expirationDuration : Nat) : RateLimitState where
  clock := 0
  limiter := init none expirationDuration 0
  rdb := ⟨fun _ => none, fun _ => RedisList.none⟩
  running := fun _ => 0
  history := []

/-- The clock does not go back. -/
def Timely (s : RateLimitState) (e : Nat × RateLimitEvent) : Prop := s.clock ≤ e.1

instance (s : RateLimitState) (e : Nat × RateLimitEvent) : Decidable (Timely s e) := inferInstanceAs (Decidable (_ ≤ _))

variable {r successMaxCount} {s : RateLimitState} {e : Nat × RateLimitEvent} {l : InMemoryRateLimiter} {tick : Nat}

@[simp] theorem step_clock : (r.step successMaxCount s e).clock = e.1 := by
  unfold step
  split <;> try split
  all_goals rfl

/-! ## What an event does to the counts of one user -/

/-- The total limit lets a request at `tick` through, and its queue `queue` becomes `queue'`. -/
def TotalAllows (r : RateLimitSite) (queue queue' : Option Queue) (tick : Nat) : Prop :=
  if 0 < r.totalMaxCount then
    ∃ q, Queue.request queue r.totalMaxCount r.duration (r.unix tick) = some q ∧ queue' = some q
  else queue' = queue

theorem memoryCheck_cases :
    (Queue.request (l.store (check.key u)) successMaxCount r.duration (r.unix tick) = none ∧
      r.memoryCheck successMaxCount u tick l = (.successLimit, l)) ∨
    ∃ q, Queue.request (l.store (check.key u)) successMaxCount r.duration (r.unix tick) = some q ∧
      r.memoryCheck successMaxCount u tick l =
        (.passed, { l with store := update l.store (check.key u) (some q) }) := by
  unfold memoryCheck request
  cases h : Queue.request (l.store (check.key u)) successMaxCount r.duration (r.unix tick) with
  | none => exact .inl ⟨rfl, rfl⟩
  | some q => exact .inr ⟨q, rfl, rfl⟩

/-- **How `memoryRateLimitHandler` answers, and what it leaves in the two queues of the user.** -/
theorem memoryRateLimitHandler_cases :
    (0 < r.totalMaxCount ∧
      Queue.request (l.store (total.key u)) r.totalMaxCount r.duration (r.unix tick) = none ∧
      r.memoryRateLimitHandler successMaxCount u tick l = (.totalLimit, l)) ∨
    ∃ store', r.TotalAllows (l.store (total.key u)) (store' (total.key u)) tick ∧
      (∀ key, key ≠ total.key u → store' key = l.store key) ∧
      r.memoryRateLimitHandler successMaxCount u tick l =
        r.memoryCheck successMaxCount u tick { l with store := store' } := by
  unfold memoryRateLimitHandler TotalAllows
  by_cases hn : 0 < r.totalMaxCount
  · simp only [hn, init]
    cases h : Queue.request (l.store (total.key u)) r.totalMaxCount r.duration (r.unix tick) with
    | none => exact .inl (by simp [request, h])
    | some q =>
      refine .inr ⟨update l.store (total.key u) (some q), ⟨q, rfl, ?_⟩, ?_, ?_⟩
      · exact update_self ..
      · exact fun key hkey => update_of_ne hkey _ _
      · simp [request, h]
  · simp only [if_neg hn]
    exact .inr ⟨l.store, rfl, fun _ _ => rfl, rfl⟩

/-- How the handler answers the user, if the event is a request of the user. -/
def answerTo (r : RateLimitSite) (successMaxCount : Nat) (u : Int) (s : RateLimitState) (e : Nat × RateLimitEvent) :
    Option Answer :=
  if e.2 = .arrive u then some (r.arrive successMaxCount u e.1 s).1 else none

/-- The answers of the user's requests are what the history has of them. -/
theorem answerTimes_step (p : Answer → Bool) :
    answerTimes p u (r.step successMaxCount s e).history =
      if (r.answerTo successMaxCount u s e).any p then e.1 :: answerTimes p u s.history else answerTimes p u s.history := by
  obtain ⟨tick, ev⟩ := e
  cases ev with
  | arrive v =>
    by_cases hv : v = u
    · subst hv
      by_cases hp : p (r.arrive successMaxCount v tick s).1 <;> simp [step, answerTo, answerTimes_answered]
    · simp [step, answerTo, answerTimes_answered, hv]
  | finish v status => by_cases h : s.running v = 0 <;> simp [step, answerTo, answerTimes, h]
  | clear => by_cases h : r.awake s.limiter tick <;> simp [step, answerTo, h]
  | other mark rest n d => simp [step, answerTo]

inductive MemoryStep (r : RateLimitSite) (successMaxCount expiry tick : Nat) :
    (total check total' check' : Option Queue) → Option Answer → Prop
  | totalLimit {total check} (hn : 0 < r.totalMaxCount)
      (h : Queue.request total r.totalMaxCount r.duration (r.unix tick) = none) :
      MemoryStep r successMaxCount expiry tick total check total check (some .totalLimit)
  | successLimit {total check total'} (ht : r.TotalAllows total total' tick)
      (h : Queue.request check successMaxCount r.duration (r.unix tick) = none) :
      MemoryStep r successMaxCount expiry tick total check total' check (some .successLimit)
  | passed {total check total' q} (ht : r.TotalAllows total total' tick)
      (h : Queue.request check successMaxCount r.duration (r.unix tick) = some q) :
      MemoryStep r successMaxCount expiry tick total check total' (some q) (some .passed)
  /-- The background task forgets queues by their newest times; other events keep them all. -/
  | elsewhere {total check} (keep : Nat → Bool) (hkeep : ∀ t, keep t = false → 0 < expiry ∧ t + expiry < r.unix tick) :
      MemoryStep r successMaxCount expiry tick total check (total.filter fun q => keep q.newest)
        (check.filter fun q => keep q.newest) none

variable {expiry : Nat} {rdb : RateLimitRedis}

theorem MemoryStep.same {total check total' check' : Option Queue} (ht : total' = total)
    (hc : check' = check) : MemoryStep r successMaxCount expiry tick total check total' check' none := by
  have hkeep : ∀ queue : Option Queue, queue.filter (fun _ => true) = queue := by
    intro queue
    cases queue <;> rfl
  have h : MemoryStep r successMaxCount expiry tick total check _ _ none := .elsewhere (fun _ => true) nofun
  rw [hkeep, hkeep] at h
  rw [ht, hc]
  exact h

theorem memoryRateLimitHandler_store (r : RateLimitSite) (successMaxCount : Nat) (v : Int) (tick : Nat)
    (l : InMemoryRateLimiter) :
    ∃ store', (r.memoryRateLimitHandler successMaxCount v tick l).2 = { l with store := store' } ∧
      ∀ (k : UserCount) u, u ≠ v → store' (k.key u) = l.store (k.key u) := by
  rcases memoryRateLimitHandler_cases (l := l) with ⟨-, -, h⟩ | ⟨store', -, hother, h⟩
  · exact ⟨l.store, by rw [h], fun _ _ _ => rfl⟩
  · rw [h]
    have hstore : ∀ (k : UserCount) u, u ≠ v → store' (k.key u) = l.store (k.key u) :=
      fun k u huv => hother _ (key_ne (.inr huv))
    rcases memoryCheck_cases (l := { l with store := store' }) with ⟨-, h'⟩ | ⟨q, -, h'⟩
    · exact ⟨_, by rw [h'], hstore⟩
    · refine ⟨_, by rw [h'], fun k u huv => ?_⟩
      exact (update_of_ne (key_ne (.inr huv)) _ _).trans (hstore k u huv)

theorem memoryRateLimitHandler_step :
    let (answer, l') := r.memoryRateLimitHandler successMaxCount u tick l
    MemoryStep r successMaxCount expiry tick (l.store (total.key u)) (l.store (check.key u)) (l'.store (total.key u))
      (l'.store (check.key u)) (some answer) := by
  have hne : total.key u ≠ check.key u := key_ne (.inl (by decide))
  rcases memoryRateLimitHandler_cases (l := l) with ⟨hn, hreq, h⟩ | ⟨store', ht, hother, h⟩
  · rw [h]
    exact .totalLimit hn hreq
  · have hcheck := hother _ hne.symm
    rcases memoryCheck_cases (l := { l with store := store' }) with ⟨hreq, h'⟩ | ⟨q, hreq, h'⟩
    · dsimp only at hreq
      rw [hcheck] at hreq
      rw [h, h']
      dsimp only
      rw [hcheck]
      exact .successLimit ht hreq
    · dsimp only at hreq
      rw [hcheck] at hreq
      rw [h, h']
      dsimp only
      rw [update_self, update_of_ne hne]
      exact .passed ht hreq

@[simp] theorem step_expirationDuration :
    (r.step successMaxCount s e).limiter.expirationDuration = s.limiter.expirationDuration := by
  obtain ⟨tick, ev⟩ := e
  cases ev with
  | arrive v =>
    cases hr : r.redisEnabled
    · obtain ⟨store', h, -⟩ := memoryRateLimitHandler_store r successMaxCount v tick s.limiter
      simp [step, arrive, hr, h]
    · simp [step, arrive, hr]
  | finish v status =>
    by_cases h : s.running v = 0
    · simp [step, h]
    · simp only [step, if_neg h, memoryFinish]
      split
      · rfl
      · split
        · exact request_expirationDuration
        · rfl
  | clear =>
    by_cases h : r.awake s.limiter tick
    · simp [step, h, clearExpiredItems]
    · simp [step, h]
  | other mark rest n d => exact request_expirationDuration

theorem memoryFinish_store {status : Nat} (hk : k ≠ .success) :
    (r.memoryFinish successMaxCount v status tick l).store (k.key u) = l.store (k.key u) := by
  unfold memoryFinish
  split
  · exact request_store_of_ne (key_ne (.inl hk))
  · rfl

/-- **The events of a run, seen by one user, without redis.** -/
theorem step_memory (hr : r.redisEnabled = false) (successMaxCount : Nat) (s : RateLimitState)
    (e : Nat × RateLimitEvent) (u : Int) :
    MemoryStep r successMaxCount s.limiter.expirationDuration e.1
      (s.limiter.store (total.key u)) (s.limiter.store (check.key u))
      ((r.step successMaxCount s e).limiter.store (total.key u))
      ((r.step successMaxCount s e).limiter.store (check.key u)) (r.answerTo successMaxCount u s e) := by
  obtain ⟨tick, ev⟩ := e
  by_cases hev : ev = .arrive u
  · subst hev
    simp only [step, answerTo, arrive, hr]
    exact memoryRateLimitHandler_step
  rw [answerTo, if_neg hev]
  cases ev with
  | arrive v =>
    have hne : u ≠ v := fun h => hev (by rw [h])
    obtain ⟨store', h, hkept⟩ := memoryRateLimitHandler_store r successMaxCount v tick s.limiter
    have hlim : (r.step successMaxCount s (tick, .arrive v)).limiter = { s.limiter with store := store' } := by
      simp [step, arrive, hr, h]
    rw [hlim]
    exact .same (hkept _ u hne) (hkept _ u hne)
  | finish v status =>
    by_cases h : s.running v = 0
    · exact .same (by simp [step, h]) (by simp [step, h])
    · have hlim : (r.step successMaxCount s (tick, .finish v status)).limiter =
          r.memoryFinish successMaxCount v status tick s.limiter := by
        simp [step, h, hr]
      rw [hlim]
      exact .same (memoryFinish_store (by decide)) (memoryFinish_store (by decide))
  | clear =>
    by_cases h : r.awake s.limiter tick
    · have hlim : (r.step successMaxCount s (tick, .clear)).limiter =
          s.limiter.clearExpiredItems (r.unix tick) tick := by
        simp [step, h]
      rw [hlim]
      refine .elsewhere (fun t => !decide (t + s.limiter.expirationDuration < r.unix tick)) ?_
      intro t ht
      exact ⟨h.1, by simpa using ht⟩
    · exact .same (by simp [step, h]) (by simp [step, h])
  | other mark rest n d =>
    exact .same (request_store_of_ne (OtherMark.text_ne_key mark rest _ u).symm)
      (request_store_of_ne (OtherMark.text_ne_key mark rest _ u).symm)

/-! ## What an event does to the bucket of one user -/

inductive RedisStep (r : RateLimitSite) (tick : Nat) : (bucket bucket' : Option Bucket) → Option Answer → Prop
  /-- The success limit was reached, or its check has failed. -/
  | refused {bucket} (a : Answer) (ha : a ≠ .passed) : RedisStep r tick bucket bucket (some a)
  | script {bucket} (hn : 0 < r.totalMaxCount) (b : Bucket) (allowed : Bool)
      (h : rateLimitScript r.duration r.totalMaxCount (r.totalMaxCount * r.duration) (r.unix tick) bucket = (allowed, b)) :
      RedisStep r tick bucket (some b) (some (if allowed then .passed else .totalLimit))
  | unlimited {bucket} (hn : r.totalMaxCount = 0) : RedisStep r tick bucket bucket (some .passed)
  | elsewhere {bucket} : RedisStep r tick bucket bucket none

theorem redisTotalKey_inj (h : redisTotalKey u = redisTotalKey v) : u = v := by
  have hlist := congrArg String.toList h
  simp only [redisTotalKey, String.toList_append] at hlist
  exact itoa_inj_of_toList (List.append_cancel_left hlist)

theorem redisRateLimitHandler_buckets_of_ne (huv : u ≠ v) :
    (r.redisRateLimitHandler successMaxCount v tick rdb).2.buckets (redisTotalKey u) = rdb.buckets (redisTotalKey u) := by
  unfold redisRateLimitHandler
  split
  · rfl
  · rfl
  · unfold redisTotal
    split
    · exact update_of_ne (fun h => huv (redisTotalKey_inj h)) _ _
    · rfl

theorem redisRateLimitHandler_step :
    RedisStep r tick (rdb.buckets (redisTotalKey u))
      ((r.redisRateLimitHandler successMaxCount u tick rdb).2.buckets (redisTotalKey u))
      (some (r.redisRateLimitHandler successMaxCount u tick rdb).1) := by
  unfold redisRateLimitHandler
  split
  · exact .refused .checkFailed (by decide)
  · exact .refused .successLimit (by decide)
  · unfold redisTotal
    split
    · next hn =>
      dsimp only
      rw [update_self]
      exact .script hn _ _ rfl
    · next hn => exact .unlimited (by omega)

/-- **The events of a run, seen by one user, with redis.** -/
theorem step_redis (hr : r.redisEnabled) (successMaxCount : Nat) (s : RateLimitState)
    (e : Nat × RateLimitEvent) (u : Int) :
    RedisStep r e.1 (s.rdb.buckets (redisTotalKey u)) ((r.step successMaxCount s e).rdb.buckets (redisTotalKey u))
      (r.answerTo successMaxCount u s e) := by
  obtain ⟨tick, ev⟩ := e
  by_cases hev : ev = .arrive u
  · subst hev
    simp only [step, answerTo, arrive, hr]
    exact redisRateLimitHandler_step
  rw [answerTo, if_neg hev]
  have hbucket : (r.step successMaxCount s (tick, ev)).rdb.buckets (redisTotalKey u) =
      s.rdb.buckets (redisTotalKey u) := by
    cases ev with
    | arrive v =>
      have hne : u ≠ v := fun h => hev (by rw [h])
      simpa [step, arrive, hr] using redisRateLimitHandler_buckets_of_ne hne
    | finish v status =>
      by_cases h : s.running v = 0
      · simp [step, h]
      · by_cases hs : status < 400 <;> simp [step, h, hr, redisFinish, RateLimitRedis.setList, hs]
    | clear => by_cases h : r.awake s.limiter tick <;> simp [step, h]
    | other mark rest n d => rfl
  rw [hbucket]
  exact .elsewhere

end RateLimitSite

end SynthApi
