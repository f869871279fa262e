import SynthApi.Middleware.RequestIsolation

/-!
# Slots of requests that are never released

`acquireDistributedModelRequest` (`middleware/model-request-isolation.go`) gives the counts in redis a time to live, so that
the slots of a process that died are freed. The time to live is that of the whole count of a user, and every admitted
request starts it anew. A lost slot counts as long as the key of its user is there without interruption (`Counted`).
-/

namespace SynthApi

open Lib ConcurrencyLimit ConcurrencyRedis Option

/-- `common.ModelRequestConcurrencyLeaseSeconds`, from the environment. -/
def initLeaseSeconds (env : Int) : Int := if env < 60 then 60 else env

/-- `leaseSeconds` of `acquireDistributedModelRequest`. -/
def leaseSeconds (configured : Int) : Nat := if configured ≤ 0 then 7200 else configured.toNat

/-- The keys in redis, and when they expire. -/
structure ExpiringRedis where
  rdb : ConcurrencyRedis
  expireAt : String → Nat

/-- A run of one of the scripts. -/
inductive ScriptCall where
  | acquire (a : ConcurrencyRequest)
  | release (a : ConcurrencyRequest)
  deriving DecidableEq, Repr

def ScriptCall.request : ScriptCall → ConcurrencyRequest
  | .acquire a | .release a => a

/-- The keys for which `increment` calls `EXPIRE`. -/
def ConcurrencyRequest.leases (a : ConcurrencyRequest) (key : String) : Bool :=
  a.userLimit > 0 ∧ key = user.key a.userID ∨ a.tokenLimit > 0 ∧ key = token.key a.tokenID ∨
    a.largeLimit > 0 ∧ key = largeUser.key a.userID

namespace ExpiringRedis

variable (s : ExpiringRedis) (t : Nat)

def hasKey (key : String) : Prop := (s.rdb.values key).isSome ∧ t < s.expireAt key

/-- What has not expired. -/
def live : ConcurrencyRedis := ⟨fun key => if t < s.expireAt key then s.rdb.values key else none⟩

/-- `distributedConcurrencyAcquireScript`, with `EXPIRE`. -/
def acquire (lease : Nat) (a : ConcurrencyRequest) : Option ConcurrencyLimit × ExpiringRedis :=
  let r := distributedLeasing.acquire (s.live t) a
  (r.1, ⟨r.2, fun key => if r.1 = none ∧ a.leases key then t + lease else s.expireAt key⟩)

def call (lease : Nat) (s : ExpiringRedis) (c : Nat × ScriptCall) : ExpiringRedis :=
  match c.2 with
  | .acquire a => (s.acquire c.1 lease a).2
  | .release a => { s with rdb := distributedLeasing.release (s.live c.1) a }

/-- The key is there at every call and at `T`. -/
def Counted (lease : Nat) (key : String) (calls : List (Nat × ScriptCall)) (T : Nat) : Prop :=
  Along (call lease) (fun s c => s.hasKey c.1 key) s calls ∧ (run (call lease) s calls).hasKey T key

end ExpiringRedis

/-! ## The key of a user -/

section Key

variable {rdb : ConcurrencyRedis} {u n : Int} {a : ConcurrencyRequest} {s : ExpiringRedis} {lease t : Nat} {key : String}
  {expiry : Nat}

theorem key_eq_iff {k k' : ConcurrencyLimit} {i j : Int} : k.key i = k'.key j ↔ k = k' ∧ i = j :=
  ⟨ConcurrencyLimit.key_inj, by rintro ⟨rfl, rfl⟩; rfl⟩

theorem values_increment (key' : String) (limit : Int) : (rdb.increment key' limit).values key =
    if limit > 0 ∧ key = key' then some (rdb.count key + 1) else rdb.values key := by
  by_cases hlimit : limit > 0 <;> by_cases hkey : key = key' <;>
    simp [increment, ConcurrencyRedis.set, hlimit, hkey]

theorem values_decrement (key' : String) (enabled : Int) : (rdb.decrement key' enabled).values key =
    if enabled > 0 ∧ key = key' then (rdb.values key).bind fun v => if v - 1 ≤ 0 then none else some (v - 1)
    else rdb.values key := by
  unfold decrement
  by_cases henabled : enabled > 0
  · by_cases hkey : key = key'
    · subst hkey
      cases hv : rdb.values key <;> simp [henabled, hv, ConcurrencyRedis.set]
    · cases rdb.values key' <;> simp [henabled, hkey, ConcurrencyRedis.set]
  · simp [henabled]

/-- A request is rejected, or adds one to the count of its user and starts the time to live anew. -/
theorem acquire_user (s : ExpiringRedis) (t lease : Nat) (hlimit : 0 < a.userLimit) :
    let r := s.acquire t lease a
    let key := user.key a.userID
    (r.1 ≠ none ∧ r.2 = ⟨s.live t, s.expireAt⟩) ∨ r.1 = none ∧ (s.live t).count key < a.userLimit ∧
      r.2.rdb.values key = some ((s.live t).count key + 1) ∧ r.2.expireAt key = t + lease := by
  have hleases : a.leases (user.key a.userID) := by simp [ConcurrencyRequest.leases, hlimit]
  unfold ExpiringRedis.acquire distributedLeasing acquireScript
  dsimp only
  split
  · exact .inl ⟨nofun, by simp⟩
  · next hfree =>
    split
    · exact .inl ⟨nofun, by simp⟩
    · split
      · exact .inl ⟨nofun, by simp⟩
      · exact .inr ⟨rfl, by omega, by simp [values_increment, key_eq_iff, hlimit], by simp [hleases]⟩

theorem values_of_live {v : Int} (h : (s.live t).values key = some v) : s.rdb.values key = some v := by
  simp only [ExpiringRedis.live, ite_none_right_eq_some] at h
  exact h.2

/-- The counts are positive: the scripts remove a key with its last request. -/
def Positive (u : Int) (s : ExpiringRedis) : Prop := ∀ v, s.rdb.values (user.key u) = some v → 0 < v

/-- The only slot is the lost one, and the time to live is still its own. -/
def OnlyLost (u : Int) (expiry : Nat) (s : ExpiringRedis) : Prop :=
  ∀ v, s.rdb.values (user.key u) = some v → v = 1 ∧ s.expireAt (user.key u) = expiry

theorem onlyLost_acquire (hpos : Positive a.userID s) (hlimit : a.userLimit = 1) (hadmitted : (s.acquire t lease a).1 = none) :
    OnlyLost a.userID (t + lease) (s.acquire t lease a).2 := by
  obtain ⟨hsome, -⟩ | ⟨-, hfree, hvalue, hexpiry⟩ := acquire_user s t lease (hlimit ▸ one_pos)
  · exact absurd hadmitted hsome
  · intro v hv
    refine ⟨?_, hexpiry⟩
    have hnone : (s.live t).values (user.key a.userID) = none := by
      by_contra hne
      obtain ⟨w, hw⟩ := ne_none_iff_exists'.1 hne
      rw [count, hw, hlimit, getD_some] at hfree
      have := hpos w (values_of_live hw)
      omega
    rw [count, hnone] at hvalue
    exact some_injective _ (hv.symm.trans hvalue)

/-- With a limit of one request nothing starts the time to live anew. -/
theorem OnlyLost.call {c : ScriptCall} (huser : c.request.userID = u) (hlimit : c.request.userLimit = 1)
    (hkey : s.hasKey t (user.key u)) (h : OnlyLost u expiry s) : OnlyLost u expiry (s.call lease (t, c)) := by
  obtain ⟨w, hw⟩ := isSome_iff_exists.1 hkey.1
  obtain ⟨rfl, hexpiry⟩ := h w hw
  have hlive : (s.live t).values (user.key u) = some 1 := by simp [ExpiringRedis.live, hkey.2, hw]
  subst huser
  intro v hv
  cases c with
  | acquire a =>
    dsimp only [ScriptCall.request] at *
    have hcount : (s.live t).count (user.key a.userID) = 1 := by rw [count, hlive]; rfl
    obtain ⟨-, hsame⟩ | ⟨-, hfree, -⟩ := acquire_user s t lease (hlimit ▸ one_pos)
    · simp only [ExpiringRedis.call, hsame] at hv ⊢
      exact ⟨some_injective _ (hv.symm.trans hlive), hexpiry⟩
    · omega
  | release a =>
    dsimp only [ScriptCall.request] at *
    simp [ExpiringRedis.call, distributedLeasing, releaseScript, values_decrement, key_eq_iff, hlive, hlimit] at hv

theorem OnlyLost.not_counted {T : Nat} {calls : List (Nat × ScriptCall)} (h : OnlyLost u expiry s)
    (hcalls : ∀ c ∈ calls, c.2.request.userID = u ∧ c.2.request.userLimit = 1) (hT : expiry ≤ T) :
    ¬ s.Counted lease (user.key u) calls T := by
  rintro ⟨halong, hend⟩
  have hlost : OnlyLost u expiry (run (ExpiringRedis.call lease) s calls) :=
    run_inv_along (fun s c hc h => h.call hc.2.1 hc.2.2 hc.1) (along_and halong (along_of_forall hcalls)) h
  obtain ⟨v, hv⟩ := isSome_iff_exists.1 hend.1
  have := (hlost v hv).2
  have := hend.2
  omega

/-- A request that only its user's limit concerns. -/
def userRequest (u n : Int) : ConcurrencyRequest := ⟨u, 0, n, 0, false, 0⟩

def emptyExpiring : ExpiringRedis := ⟨emptyRedis, fun _ => 0⟩

theorem acquire_userRequest (s : ExpiringRedis) (t lease : Nat) (hn : 0 < n) (hfree : (s.live t).count (user.key u) < n) :
    let r := s.acquire t lease (userRequest u n)
    r.1 = none ∧ r.2.rdb.values (user.key u) = some ((s.live t).count (user.key u) + 1) ∧
      r.2.expireAt (user.key u) = t + lease := by
  have hnone : (s.acquire t lease (userRequest u n)).1 = none := by
    simp [ExpiringRedis.acquire, distributedLeasing, acquireScript, userRequest, ConcurrencyRequest.largeLimit,
      hfree.not_ge]
  obtain ⟨hsome, -⟩ | ⟨-, -, hvalue, hexpiry⟩ := acquire_user (a := userRequest u n) s t lease hn
  · exact absurd hnone hsome
  · exact ⟨hnone, hvalue, hexpiry⟩

/-- With a larger limit another request in the last second keeps the lost slot. -/
theorem counted_refreshed (hn : 1 < n) (hlease : 1 < lease) (u : Int) :
    let first := emptyExpiring.acquire 0 lease (userRequest u n)
    first.1 = none ∧ first.2.Counted lease (user.key u) [(lease - 1, .acquire (userRequest u n))] lease := by
  have hpos : 0 < n := one_pos.trans hn
  obtain ⟨hnone, hvalue, hexpiry⟩ := acquire_userRequest (u := u) emptyExpiring 0 lease hpos hpos
  generalize emptyExpiring.acquire 0 lease (userRequest u n) = first at *
  have hcount : (first.2.live (lease - 1)).count (user.key u) = 1 := by
    have hlt : lease - 1 < 0 + lease := by omega
    simp only [count, ExpiringRedis.live, hexpiry, if_pos hlt, hvalue]
    rfl
  obtain ⟨-, hvalue', hexpiry'⟩ := acquire_userRequest first.2 (lease - 1) lease hpos (hcount ▸ hn)
  refine ⟨hnone, ⟨⟨by rw [hvalue]; rfl, ?_⟩, trivial⟩, isSome_of_eq_some hvalue', ?_⟩
  · dsimp only
    omega
  · exact lt_of_lt_of_eq (by omega) hexpiry'.symm

end Key

/-- **A lost slot is freed when its time is over exactly if** the user may have only one request. -/
theorem lost_slot_expires_iff (env u n : Int) (hn : 0 < n) :
    (∀ (s : ExpiringRedis) (a : ConcurrencyRequest) (t T : Nat) (calls : List (Nat × ScriptCall)),
      let lease := leaseSeconds (initLeaseSeconds env)
      Positive u s → a.userID = u → a.userLimit = n → (s.acquire t lease a).1 = none →
      (∀ c ∈ calls, c.2.request.userID = u ∧ c.2.request.userLimit = n) →
      ((t :: calls.map Prod.fst) ++ [T]).Pairwise (· ≤ ·) → t + lease ≤ T →
      ¬ (s.acquire t lease a).2.Counted lease (user.key u) calls T) ↔ n = 1 := by
  have hlease : 60 ≤ leaseSeconds (initLeaseSeconds env) := by
    unfold leaseSeconds initLeaseSeconds
    split <;> split at * <;> omega
  constructor
  · intro h
    by_contra hne
    have hlarge : 1 < n := by omega
    obtain ⟨hadmitted, hcounted⟩ := counted_refreshed hlarge (lt_of_lt_of_le (by decide) hlease) u
    exact h emptyExpiring (userRequest u n) 0 _ _ nofun rfl rfl hadmitted (by simp [ScriptCall.request, userRequest])
      (by simp) (by omega) hcounted
  · rintro rfl s a t T calls lease hpos rfl hlimit hadmitted hcalls - hT
    exact (onlyLost_acquire hpos hlimit hadmitted).not_counted hcalls hT

/-- A user with a limit of two requests, and the lease of two hours: a slot that was lost at 0 is still counted then,
because another request came a second before. -/
theorem lost_slot_kept :
    Positive 1 emptyExpiring ∧ (emptyExpiring.acquire 0 (leaseSeconds (initLeaseSeconds 7200)) (userRequest 1 2)).1 = none ∧
      (emptyExpiring.acquire 0 (leaseSeconds (initLeaseSeconds 7200)) (userRequest 1 2)).2.Counted
        (leaseSeconds (initLeaseSeconds 7200)) (user.key 1) [(7199, .acquire (userRequest 1 2))] 7200 :=
  ⟨nofun, counted_refreshed (by decide) (by decide) 1⟩

/-- A limit of one request. -/
theorem lost_slot_expires_one :
    ¬ (emptyExpiring.acquire 0 60 (userRequest 1 1)).2.Counted 60 (user.key 1) [(59, .acquire (userRequest 1 1))] 60 :=
  (lost_slot_expires_iff 60 1 1 one_pos).2 rfl emptyExpiring (userRequest 1 1) 0 60 _ nofun rfl rfl
    (acquire_userRequest emptyExpiring 0 60 one_pos one_pos).1 (by simp [ScriptCall.request, userRequest]) (by simp) le_rfl

end SynthApi
