import SynthApi.Lib.Go
import SynthApi.Lib.Lease
import SynthApi.Lib.Tally

/-!
# Concurrent model requests of a user and of a token

`ModelRequestConcurrencyLimit` (`middleware/model-request-isolation.go`) limits how many requests of a user, of a token and
how many large requests of a user are in progress. With redis the counts are values under three keys, changed by two
scripts (`acquireDistributedModelRequest`); without redis they are the three maps of `activeModelRequestLimiter`.

Both are components that hand out leases. `SameCounts` relates the values in redis to the maps; it is kept by every call
whose request has a token, or no limit for it.
-/

namespace SynthApi

open Lib List Function

/-- The arguments of `acquireRequest`. -/
structure ConcurrencyRequest where
  userID : Int
  tokenID : Int
  userLimit : Int
  tokenLimit : Int
  largeRequest : Bool
  largeUserLimit : Int
  deriving DecidableEq, Repr

/-- What is counted, and `limitedBy` of a request that is rejected. -/
inductive ConcurrencyLimit where
  | user
  | token
  | largeUser
  deriving DecidableEq, Repr

open ConcurrencyLimit

/-! ## The scripts -/

def distributedConcurrencyKeyPrefix : String := "synthapi:concurrency:v1"

def ConcurrencyLimit.mark : ConcurrencyLimit → String
  | .user => ":user:"
  | .token => ":token:"
  | .largeUser => ":large-user:"

/-- `distributedConcurrencyKeys`. -/
def ConcurrencyLimit.key (id : Int) (k : ConcurrencyLimit) : String :=
  distributedConcurrencyKeyPrefix ++ k.mark ++ toString id

structure ConcurrencyRedis where
  values : String → Option Int

namespace ConcurrencyRedis

variable (rdb : ConcurrencyRedis)

/-- `tonumber(redis.call('GET', key) or '0')`. -/
def count (key : String) : Int := (rdb.values key).getD 0

def set (key : String) (value : Option Int) : ConcurrencyRedis :=
  ⟨Function.update rdb.values key value⟩

theorem count_set_self (key : String) (value : Option Int) : (rdb.set key value).count key = value.getD 0 :=
  congrArg (Option.getD · 0) (update_self ..)

theorem count_set_of_ne {key key' : String} (value : Option Int) (h : key' ≠ key) :
    (rdb.set key value).count key' = rdb.count key' :=
  congrArg (Option.getD · 0) (update_of_ne h _ _)

/-- `increment`, with `INCR`. -/
def increment (key : String) (limit : Int) : ConcurrencyRedis :=
  if limit > 0 then rdb.set key (some (rdb.count key + 1)) else rdb

/-- `decrement`, with `DECR` and `DEL`. -/
def decrement (key : String) (enabled : Int) : ConcurrencyRedis :=
  if enabled > 0 then
    match rdb.values key with
    | some value => rdb.set key (if value - 1 ≤ 0 then none else some (value - 1))
    | none => rdb
  else rdb

/-- `distributedConcurrencyAcquireScript`. -/
def acquireScript (userKey tokenKey largeKey : String) (userLimit tokenLimit largeLimit : Int) :
    Option ConcurrencyLimit × ConcurrencyRedis :=
  if userLimit > 0 ∧ rdb.count userKey ≥ userLimit then (some .user, rdb)
  else if tokenLimit > 0 ∧ rdb.count tokenKey ≥ tokenLimit then (some .token, rdb)
  else if largeLimit > 0 ∧ rdb.count largeKey ≥ largeLimit then (some .largeUser, rdb)
  else (none, ((rdb.increment userKey userLimit).increment tokenKey tokenLimit).increment largeKey largeLimit)

/-- `distributedConcurrencyReleaseScript`. -/
def releaseScript (userKey tokenKey largeKey : String) (userLimit tokenLimit largeLimit : Int) :
    ConcurrencyRedis :=
  ((rdb.decrement userKey userLimit).decrement tokenKey tokenLimit).decrement largeKey largeLimit

end ConcurrencyRedis

/-- The limit of large requests that `acquireDistributedModelRequest` gives to the scripts. -/
def ConcurrencyRequest.largeLimit (a : ConcurrencyRequest) : Int := if a.largeRequest then a.largeUserLimit else 0

/-- `acquireDistributedModelRequest` and its release function, with redis available and no lease expired. -/
def distributedLeasing : Leasing ConcurrencyRedis ConcurrencyRequest ConcurrencyLimit where
  acquire rdb a := rdb.acquireScript (user.key a.userID) (token.key a.tokenID)
    (largeUser.key a.userID) a.userLimit a.tokenLimit a.largeLimit
  release rdb a := rdb.releaseScript (user.key a.userID) (token.key a.tokenID)
    (largeUser.key a.userID) a.userLimit a.tokenLimit a.largeLimit

/-! ## The maps -/

structure ActiveModelRequestLimiter where
  users : Tally Int
  tokens : Tally Int
  largeUsers : Tally Int

namespace ActiveModelRequestLimiter

variable (l : ActiveModelRequestLimiter)

def counts : ConcurrencyLimit → Tally Int
  | .user => l.users
  | .token => l.tokens
  | .largeUser => l.largeUsers

def setCounts (k : ConcurrencyLimit) (t : Tally Int) : ActiveModelRequestLimiter :=
  match k with
  | .user => { l with users := t }
  | .token => { l with tokens := t }
  | .largeUser => { l with largeUsers := t }

/-- `l.users[userID]++` under a condition, and likewise for the other maps. -/
def increment (k : ConcurrencyLimit) (id : Int) (enabled : Prop) [Decidable enabled] :
    ActiveModelRequestLimiter :=
  if enabled then l.setCounts k ((l.counts k).incr id) else l

/-- `l.users[userID]--` under a condition, the last one deletes the key; likewise for the other maps. -/
def decrement (k : ConcurrencyLimit) (id : Int) (enabled : Prop) [Decidable enabled] :
    ActiveModelRequestLimiter :=
  if enabled then l.setCounts k ((l.counts k).decr id) else l

def acquireRequest (a : ConcurrencyRequest) :
    Option ConcurrencyLimit × ActiveModelRequestLimiter :=
  if a.userLimit > 0 ∧ l.users.get a.userID ≥ a.userLimit then (some .user, l)
  else if a.tokenLimit > 0 ∧ a.tokenID > 0 ∧ l.tokens.get a.tokenID ≥ a.tokenLimit then (some .token, l)
  else if a.largeRequest ∧ a.largeUserLimit > 0 ∧ l.largeUsers.get a.userID ≥ a.largeUserLimit then (some .largeUser, l)
  else
    (none, ((l.increment .user a.userID (a.userLimit > 0)).increment .token a.tokenID (a.tokenLimit > 0 ∧ a.tokenID > 0)
      ).increment .largeUser a.userID (a.largeRequest ∧ a.largeUserLimit > 0))

def release (a : ConcurrencyRequest) : ActiveModelRequestLimiter :=
  ((l.decrement .user a.userID (a.userLimit > 0)).decrement .token a.tokenID (a.tokenLimit > 0 ∧ a.tokenID > 0)
    ).decrement .largeUser a.userID (a.largeRequest ∧ a.largeUserLimit > 0)

end ActiveModelRequestLimiter

def localLeasing : Leasing ActiveModelRequestLimiter ConcurrencyRequest ConcurrencyLimit :=
  ⟨ActiveModelRequestLimiter.acquireRequest, ActiveModelRequestLimiter.release⟩

/-! ## Equal counts -/

/-- Different counts have different keys. -/
theorem ConcurrencyLimit.key_inj {i j : Int} {k k' : ConcurrencyLimit} (h : k.key i = k'.key j) : k = k' ∧ i = j := by
  have hlist := congrArg String.toList h
  simp only [key, String.toList_append, append_assoc] at hlist
  have hmark := append_cancel_left hlist
  -- the marks differ in their second character
  have hsecond := congrArg (fun cs => cs[1]?) hmark
  obtain rfl : k = k' := by
    cases k <;> cases k' <;> first | rfl | simp [mark] at hsecond
  exact ⟨rfl, Go.itoa_injective (String.toList_injective (append_cancel_left hmark))⟩

def SameCounts (rdb : ConcurrencyRedis) (l : ActiveModelRequestLimiter) : Prop :=
  ∀ k id, rdb.count (key id k) = (l.counts k).get id

variable {rdb : ConcurrencyRedis} {l : ActiveModelRequestLimiter} {a : ConcurrencyRequest} {limit : Int}
  {enabled : Prop}

@[simp] theorem counts_setCounts (k k' : ConcurrencyLimit) (t : Tally Int) :
    (l.setCounts k t).counts k' = if k' = k then t else l.counts k' := by
  cases k <;> cases k' <;> rfl

theorem SameCounts.update {k : ConcurrencyLimit} {id : Int} {value : Option Int} {t : Tally Int} {n : Nat}
    (h : SameCounts rdb l) (hvalue : value.getD 0 = n) (ht : t.get = update (l.counts k).get id n) :
    SameCounts (rdb.set (k.key id) value) (l.setCounts k t) := by
  intro k' id'
  rw [counts_setCounts]
  by_cases hkey : k'.key id' = k.key id
  · obtain ⟨rfl, rfl⟩ := key_inj hkey
    rw [ConcurrencyRedis.count_set_self, hvalue, if_pos rfl, ht, update_self]
  · rw [ConcurrencyRedis.count_set_of_ne _ _ hkey, h k' id']
    split
    · next hk =>
      subst hk
      have hid : id' ≠ id := fun hid => hkey (by rw [hid])
      rw [ht, update_of_ne hid]
    · rfl

theorem SameCounts.increment (h : SameCounts rdb l) (k : ConcurrencyLimit) (id : Int)
    [Decidable enabled] (henabled : limit > 0 ↔ enabled) :
    SameCounts (rdb.increment (k.key id) limit) (l.increment k id enabled) := by
  unfold ConcurrencyRedis.increment ActiveModelRequestLimiter.increment
  by_cases hpos : limit > 0
  · rw [if_pos hpos, if_pos (henabled.1 hpos)]
    exact h.update (by rw [h k id]; rfl) (Tally.get_incr _ _)
  · rw [if_neg hpos, if_neg (mt henabled.2 hpos)]
    exact h

theorem SameCounts.decrement (h : SameCounts rdb l) (k : ConcurrencyLimit) (id : Int)
    [Decidable enabled] (henabled : limit > 0 ↔ enabled) :
    SameCounts (rdb.decrement (k.key id) limit) (l.decrement k id enabled) := by
  have hcount := h k id
  unfold ConcurrencyRedis.count at hcount
  unfold ConcurrencyRedis.decrement ActiveModelRequestLimiter.decrement
  by_cases hpos : limit > 0
  · rw [if_pos hpos, if_pos (henabled.1 hpos)]
    have hdecr := Tally.get_decr (l.counts k) id
    cases hvalue : rdb.values (k.key id) with
    | some value =>
      rw [hvalue, Option.getD_some] at hcount
      refine h.update ?_ hdecr
      split
      · rw [Option.getD_none]; omega
      · rw [Option.getD_some]; omega
    | none =>
      -- the map has no such key either
      rw [hvalue, Option.getD_none] at hcount
      have hnone : rdb.set (k.key id) none = rdb := by
        rw [ConcurrencyRedis.set, ← hvalue, update_eq_self]
      rw [← hnone]
      exact h.update (by rw [Option.getD_none]; omega) hdecr
  · rw [if_neg hpos, if_neg (mt henabled.2 hpos)]
    exact h

/-! ## Equal answers -/

/-- A request whose token is counted alike: it has a token, or no limit for it. -/
def ConcurrencyRequest.TokenCounted (a : ConcurrencyRequest) : Prop := 0 < a.tokenID ∨ a.tokenLimit ≤ 0

theorem largeLimit_pos : a.largeLimit > 0 ↔ a.largeRequest ∧ a.largeUserLimit > 0 := by
  unfold ConcurrencyRequest.largeLimit
  cases a.largeRequest <;> simp

theorem tokenLimit_pos (ha : a.TokenCounted) : a.tokenLimit > 0 ↔ a.tokenLimit > 0 ∧ a.tokenID > 0 := by
  unfold ConcurrencyRequest.TokenCounted at ha
  omega

/-- **A request is answered alike.** -/
theorem sameCounts_acquire (ha : a.TokenCounted) (h : SameCounts rdb l) :
    (distributedLeasing.acquire rdb a).1 = (localLeasing.acquire l a).1 ∧
      SameCounts (distributedLeasing.acquire rdb a).2 (localLeasing.acquire l a).2 := by
  have huser : rdb.count (user.key a.userID) = l.users.get a.userID := h .user a.userID
  have htoken : rdb.count (token.key a.tokenID) = l.tokens.get a.tokenID := h .token a.tokenID
  have hlarge : rdb.count (largeUser.key a.userID) = l.largeUsers.get a.userID := h .largeUser a.userID
  have htokenCheck : a.tokenLimit > 0 ∧ (l.tokens.get a.tokenID : Int) ≥ a.tokenLimit ↔
      a.tokenLimit > 0 ∧ a.tokenID > 0 ∧ (l.tokens.get a.tokenID : Int) ≥ a.tokenLimit := by
    rw [← and_assoc, ← tokenLimit_pos ha]
  have hlargeCheck : a.largeLimit > 0 ∧ (l.largeUsers.get a.userID : Int) ≥ a.largeLimit ↔
      a.largeRequest ∧ a.largeUserLimit > 0 ∧ (l.largeUsers.get a.userID : Int) ≥ a.largeUserLimit := by
    rw [largeLimit_pos, and_assoc]
    refine and_congr_right fun hbig => ?_
    rw [ConcurrencyRequest.largeLimit, if_pos hbig]
  simp only [distributedLeasing, localLeasing, ConcurrencyRedis.acquireScript, ActiveModelRequestLimiter.acquireRequest, huser,
    htoken, hlarge, htokenCheck, hlargeCheck]
  split
  · exact ⟨rfl, h⟩
  · split
    · exact ⟨rfl, h⟩
    · split
      · exact ⟨rfl, h⟩
      · exact ⟨rfl, ((h.increment .user _ Iff.rfl).increment .token _ (tokenLimit_pos ha)).increment .largeUser _ largeLimit_pos⟩

/-- Nothing is in progress. -/
def emptyRedis : ConcurrencyRedis := ⟨fun _ => none⟩

def emptyLimiter : ActiveModelRequestLimiter := ⟨Tally.empty, Tally.empty, Tally.empty⟩

theorem sameCounts_empty : SameCounts emptyRedis emptyLimiter := by
  intro k id
  cases k <;> rfl

def distributedAnswers (calls : List (LeaseCall ConcurrencyRequest)) : List (Option ConcurrencyLimit) :=
  (run distributedLeasing.step (Leasing.start emptyRedis) calls).answers

def localAnswers (calls : List (LeaseCall ConcurrencyRequest)) : List (Option ConcurrencyLimit) :=
  (run localLeasing.step (Leasing.start emptyLimiter) calls).answers

/-! ## Requests without a token -/

def tokenRequest (tokenID tokenLimit : Int) : ConcurrencyRequest := ⟨1, tokenID, 0, tokenLimit, false, 0⟩

variable {tokenID tokenLimit : Int}

/-- The scripts count the requests up to the limit. -/
theorem distributed_burst (tokenID : Int) (n : Nat) (hn : (n : Int) ≤ tokenLimit) :
    let s := run distributedLeasing.step (Leasing.start emptyRedis) (replicate n (.acquire (tokenRequest tokenID tokenLimit)))
    s.answers = replicate n none ∧ s.state.count (token.key tokenID) = n := by
  induction n with
  | zero => exact ⟨rfl, rfl⟩
  | succ n ih =>
    obtain ⟨hanswers, hcount⟩ := ih (by omega)
    rw [replicate_succ', run_append, run_cons, run_nil]
    generalize run distributedLeasing.step (Leasing.start emptyRedis)
      (replicate n (.acquire (tokenRequest tokenID tokenLimit))) = s at *
    have hstep : distributedLeasing.acquire s.state (tokenRequest tokenID tokenLimit) =
        (none, s.state.set (token.key tokenID) (some (n + 1))) := by
      have hpos : 0 < tokenLimit := by omega
      have hfree : ¬ tokenLimit ≤ n := by omega
      simp [distributedLeasing, tokenRequest, ConcurrencyRequest.largeLimit, ConcurrencyRedis.acquireScript,
        ConcurrencyRedis.increment, hcount, hpos, hfree]
    simp only [Leasing.step, hstep, hanswers]
    exact ⟨replicate_succ'.symm, by rw [ConcurrencyRedis.count_set_self]; rfl⟩

/-- The process-local limiter does not count a request without a token. -/
theorem local_burst (htoken : tokenID ≤ 0) (n : Nat) :
    localAnswers (replicate n (.acquire (tokenRequest tokenID tokenLimit))) = replicate n none := by
  unfold localAnswers
  induction n with
  | zero => rfl
  | succ n ih =>
    rw [replicate_succ', run_append, run_cons]
    generalize run localLeasing.step (Leasing.start emptyLimiter)
      (replicate n (.acquire (tokenRequest tokenID tokenLimit))) = s at *
    have hstep : (localLeasing.acquire s.state (tokenRequest tokenID tokenLimit)).1 = none := by
      have hnone : ¬ 0 < tokenID := by omega
      simp [localLeasing, tokenRequest, ActiveModelRequestLimiter.acquireRequest, hnone]
    simp only [Leasing.step, hstep, ih]
    exact replicate_succ'.symm

theorem distributed_rejects (n : Nat) (hn : (n : Int) = tokenLimit) (hpos : 0 < tokenLimit) :
    distributedAnswers (replicate (n + 1) (.acquire (tokenRequest tokenID tokenLimit))) =
      replicate n none ++ [some .token] := by
  obtain ⟨hanswers, hcount⟩ := distributed_burst tokenID n hn.le
  unfold distributedAnswers
  rw [replicate_succ', run_append, run_cons, run_nil]
  have hstep : ∀ s : ConcurrencyRedis, s.count (token.key tokenID) = n →
      (distributedLeasing.acquire s (tokenRequest tokenID tokenLimit)).1 = some .token := by
    intro s hs
    simp [distributedLeasing, tokenRequest, ConcurrencyRedis.acquireScript, hs, hpos, hn]
  simp only [Leasing.step, hanswers, hstep _ hcount]

/-- **The scripts and the process-local limiter agree on all sequences of calls exactly if** every request with a limit for
its token has a token. -/
theorem concurrency_limits_agree_iff (S : Set (Int × Int)) :
    (∀ calls : List (LeaseCall ConcurrencyRequest), (∀ a, .acquire a ∈ calls → (a.tokenID, a.tokenLimit) ∈ S) →
      distributedAnswers calls = localAnswers calls) ↔
    ∀ p ∈ S, 0 < p.1 ∨ p.2 ≤ 0 := by
  constructor
  · rintro h ⟨tokenID, tokenLimit⟩ hmem
    by_contra hcond
    obtain ⟨htoken, hpos⟩ : tokenID ≤ 0 ∧ 0 < tokenLimit := by
      omega
    -- one request more than the limit
    have hcalls := h (replicate (tokenLimit.toNat + 1) (.acquire (tokenRequest tokenID tokenLimit))) fun a ha => by
      obtain rfl : a = tokenRequest tokenID tokenLimit := by simpa using eq_of_mem_replicate ha
      exact hmem
    rw [distributed_rejects _ (by omega) hpos, local_burst htoken, replicate_succ'] at hcalls
    exact absurd (append_cancel_left hcalls) (by simp)
  · intro h calls hcalls
    refine Leasing.agree (fun a ha hs => sameCounts_acquire ha hs)
      (fun a ha hs => ((hs.decrement .user _ Iff.rfl).decrement .token _ (tokenLimit_pos ha)).decrement .largeUser _
        largeLimit_pos) sameCounts_empty ?_
    rintro c hc a rfl
    exact h _ (hcalls a hc)

/-- Two requests without a token, with a limit of one request for a token: the second is rejected with redis, and admitted
without. -/
theorem concurrency_limits_disagree :
    distributedAnswers [.acquire (tokenRequest 0 1), .acquire (tokenRequest 0 1)] = [none, some .token] ∧
      localAnswers [.acquire (tokenRequest 0 1), .acquire (tokenRequest 0 1)] = [none, none] :=
  ⟨distributed_rejects 1 rfl (by decide), local_burst (by decide) 2⟩

end SynthApi
