import SynthApi.Lib.Transaction
import SynthApi.Model.RewardProgram.Basic
import SynthApi.Model.TopUp.Statements

/-!
# Recharge benefits

For every 1000 CNY of net recharge a user may claim a benefit, which an administrator grants or rejects
(`RequestRechargeBenefit`, `ReviewRechargeBenefitClaim` in `model/reward_program.go`). A rejected claim may be requested
again. `benefitStep` executes one call; between the calls the orders, refunds and manual recharges change in any way, and
users are deleted.

`benefit_effect` says what a step can do. From it: no milestone is credited twice, a granted claim stays as it is, and every
milestone was unlocked when it was requested. The wallets gain the granted quotas if no claim of a deleted user is granted
(`benefits_granted_once`): the UPDATE of such a user hits no row, and the review does not look (`benefit_of_deleted_user`).
-/

namespace SynthApi

open Lib Lib.Go List Lib.Table

/-! ## Tables -/

inductive BenefitStatus where
  | pending
  | granted
  | rejected
  deriving DecidableEq, Repr

structure RechargeBenefitClaim where
  id : Int
  userId : Int
  milestoneIndex : Int
  thresholdCNY : Int
  rewardCNY : Int
  rewardQuota : Int
  status : BenefitStatus
  requestedAt : Int
  grantedAt : Int
  grantedBy : Int
  adminRemark : String
  createdAt : Int
  updatedAt : Int
  deriving DecidableEq, Repr

structure AdminQuotaRechargeRecord where
  userId : Int
  amountCNY : ℚ
  deriving DecidableEq, Repr

/-- What users have paid. -/
structure Recharges where
  topUps : List TopUpRow
  refunds : List PaymentRefundReview
  adminRecharges : List AdminQuotaRechargeRecord

/-- The user and the milestone of a claim, the unique index of its table. -/
def RechargeBenefitClaim.key (c : RechargeBenefitClaim) : Int × Int := (c.userId, c.milestoneIndex)

/-- The tables; claims have distinct ids and distinct keys. -/
structure BenefitDb where
  claims : List RechargeBenefitClaim
  recharges : Recharges
  store : Store
  nodup_id : (claims.map RechargeBenefitClaim.id).Nodup
  nodup_key : (claims.map RechargeBenefitClaim.key).Nodup

namespace BenefitDb

def updateClaim (db : BenefitDb) (id : Int) (f : RechargeBenefitClaim → RechargeBenefitClaim) (hid : ∀ c, (f c).id = c.id)
    (hkey : ∀ c, (f c).key = c.key) : BenefitDb where
  claims := updateKey RechargeBenefitClaim.id id f db.claims
  recharges := db.recharges
  store := db.store
  nodup_id := by rw [map_updateKey fun c _ => hid c]; exact db.nodup_id
  nodup_key := by rw [map_updateKey fun c _ => hkey c]; exact db.nodup_key

def createClaim (db : BenefitDb) (c : RechargeBenefitClaim) (hid : c.id ∉ db.claims.map RechargeBenefitClaim.id)
    (hkey : c.key ∉ db.claims.map RechargeBenefitClaim.key) : BenefitDb where
  claims := db.claims ++ [c]
  recharges := db.recharges
  store := db.store
  nodup_id := by
    rw [map_append, map_singleton, ← concat_eq_append]
    exact (nodup_concat _ _).2 ⟨hid, db.nodup_id⟩
  nodup_key := by
    rw [map_append, map_singleton, ← concat_eq_append]
    exact (nodup_concat _ _).2 ⟨hkey, db.nodup_key⟩

def addQuota (db : BenefitDb) (userId delta : Int) : BenefitDb :=
  { db with store := db.store.updateQuota userId delta }

end BenefitDb

/-! ## Net recharge -/

def userNetRechargeCNY (r : Recharges) (userId : Int) : ℚ :=
  let paid := ((r.topUps.filter fun t => decide (t.userId = userId) && isEligibleCNYTopUp t).map (·.money)).sum
  let refunded := ((r.refunds.filter fun f =>
    decide (f.userId = userId) && decide (0 < f.refundAmount) && decide (toUpper f.currency = "CNY")).map
      (·.refundAmount)).sum
  let added := ((r.adminRecharges.filter fun a => decide (a.userId = userId)).map (·.amountCNY)).sum
  round2 (max 0 (paid - refunded + added))

/-- The number of milestones that are unlocked. -/
def unlockedCount (r : Recharges) (userId : Int) : Int := ⌊userNetRechargeCNY r userId / 1000⌋

/-! ## Calls -/

inductive BenefitStmt where
  | netRecharge
  | findClaims
  | writeClaim
  | findClaim
  | updateQuota
  | commit
  deriving DecidableEq, Repr

structure BenefitRequest where
  userId : Int
  enabled : Bool
  setting : GeneralSetting
  now : Int
  fails : BenefitStmt → Option String

structure BenefitReview where
  claimId : Int
  adminId : Int
  grant : Bool
  remark : String
  now : Int
  fails : BenefitStmt → Option String

/-- The first milestone up to `unlocked` for which the user has no pending or granted claim. -/
def nextMilestone (claims : List RechargeBenefitClaim) (userId unlocked : Int) : Option Int :=
  ((range unlocked.toNat).map fun i : Nat => (i : Int) + 1).find? fun m =>
    claims.all fun c => !(decide (c.key = (userId, m)) && decide (c.status ≠ .rejected))

namespace BenefitRequest

def newClaim (c : BenefitRequest) (id milestone : Int) : RechargeBenefitClaim where
  id := id
  userId := c.userId
  milestoneIndex := milestone
  thresholdCNY := milestone * 1000
  rewardCNY := 50
  rewardQuota := cnyToQuota c.setting 50
  status := .pending
  requestedAt := c.now
  grantedAt := 0
  grantedBy := 0
  adminRemark := ""
  createdAt := c.now
  updatedAt := c.now

/-- The columns that are set in a claim that was rejected. -/
def reopen (c : BenefitRequest) (claim : RechargeBenefitClaim) : RechargeBenefitClaim :=
  { claim with
    status := .pending
    requestedAt := c.now
    grantedAt := 0
    grantedBy := 0
    adminRemark := ""
    rewardQuota := cnyToQuota c.setting 50
    updatedAt := c.now }

def write (c : BenefitRequest) (milestone : Int) (db : BenefitDb) : Except String (RechargeBenefitClaim × BenefitDb) :=
  match db.claims.find? fun claim => decide (claim.key = (c.userId, milestone)) && decide (claim.status = .rejected) with
  | some previous =>
    .ok ({ c.newClaim previous.id milestone with createdAt := previous.createdAt },
      db.updateClaim previous.id (fun claim => if claim.status = .rejected then c.reopen claim else claim)
        (fun claim => by split <;> rfl) fun claim => by split <;> rfl)
  | none =>
    let claim := c.newClaim (nextId (db.claims.map RechargeBenefitClaim.id)) milestone
    if hkey : claim.key ∈ db.claims.map RechargeBenefitClaim.key then .error "UNIQUE constraint failed"
    else .ok (claim, db.createClaim claim (nextId_not_mem _) hkey)

/-- `RequestRechargeBenefit` up to its answer; the last statement is the only one that writes. -/
def body (c : BenefitRequest) (db : BenefitDb) : Except String (RechargeBenefitClaim × BenefitDb) := do
  require (c.enabled = true) "千元充能活动当前未开放"
  attempt (c.fails .netRecharge)
  require (0 < unlockedCount db.recharges c.userId) "累计净充值尚未达到 1000 CNY"
  attempt (c.fails .findClaims)
  match nextMilestone db.claims c.userId (unlockedCount db.recharges c.userId) with
  | none => .error "当前没有可申请的千元充能福利"
  | some milestone =>
    require (0 < cnyToQuota c.setting 50) "系统额度换算配置无效"
    attempt (c.fails .writeClaim)
    c.write milestone db

end BenefitRequest

def requestRechargeBenefit (c : BenefitRequest) (db : BenefitDb) : Except String RechargeBenefitClaim × BenefitDb :=
  match c.body db with
  | .ok (claim, db') => (.ok claim, db')
  | .error err => (.error err, db)

namespace BenefitReview

/-- The columns that a review sets. -/
def apply (c : BenefitReview) (claim : RechargeBenefitClaim) : RechargeBenefitClaim :=
  { claim with
    status := if c.grant then .granted else .rejected
    grantedAt := if c.grant then c.now else claim.grantedAt
    grantedBy := c.adminId
    adminRemark := trimSpace c.remark
    updatedAt := c.now }

def body (c : BenefitReview) (db : BenefitDb) : Except (Halt String) (RechargeBenefitClaim × BenefitDb) := do
  attempt ((c.fails .findClaim).map .error)
  match lookup RechargeBenefitClaim.id c.claimId db.claims with
  | none => .error (.error "record not found")
  | some claim =>
    require (claim.status = .pending) (.error "该福利申请已处理")
    attempt (if c.grant then (c.fails .updateQuota).map .error else none)
    attempt ((c.fails .writeClaim).map .error)
    let db := if c.grant then db.addQuota claim.userId claim.rewardQuota else db
    return (c.apply claim, db.updateClaim claim.id c.apply (fun _ => rfl) fun _ => rfl)

end BenefitReview

def reviewRechargeBenefitClaim (c : BenefitReview) (db : BenefitDb) :
    Except (Halt String) RechargeBenefitClaim × BenefitDb :=
  if c.claimId ≤ 0 ∨ c.adminId ≤ 0 then (.error (.error "invalid claim or admin id"), db)
  else transaction (c.fails .commit) c.body db

/-! ## Histories -/

/-- What happens: a call, a change of what users have paid, or the deletion of a user (`DeleteUserById`, which hides the row
from every later statement). -/
inductive BenefitAction where
  | request (c : BenefitRequest)
  | review (c : BenefitReview)
  | recharge (r : Recharges)
  | deleteUser (id : Int)

def benefitStep (db : BenefitDb) : BenefitAction → BenefitDb
  | .request c => (requestRechargeBenefit c db).2
  | .review c => (reviewRechargeBenefitClaim c db).2
  | .recharge r => { db with recharges := r }
  | .deleteUser id => { db with store := { db.store with users := db.store.users.filter (·.id ≠ id) } }

def benefitGrantedAt (db : BenefitDb) : BenefitAction → List RechargeBenefitClaim
  | .review c =>
    match (reviewRechargeBenefitClaim c db).1 with
    | .ok claim => if c.grant then [claim] else []
    | .error _ => []
  | _ => []

/-- What a review adds to the wallet of a user. -/
def creditedAt (userId : Int) (db : BenefitDb) (a : BenefitAction) : List Int :=
  match a with
  | .review _ => [(benefitStep db a).store.wallet userId - db.store.wallet userId]
  | _ => []

/-- No pending claim of a user without a row is granted. -/
def UserPresent (db : BenefitDb) : BenefitAction → Prop
  | .review c => c.grant = true → ∀ claim ∈ db.claims, claim.id = c.claimId → claim.status = .pending →
      db.store.HasUser claim.userId
  | _ => True

instance : ∀ db a, Decidable (UserPresent db a)
  | db, .review c => inferInstanceAs (Decidable (c.grant = true → ∀ claim ∈ db.claims, claim.id = c.claimId →
      claim.status = .pending → db.store.HasUser claim.userId))
  | _, .request _ => inferInstanceAs (Decidable True)
  | _, .recharge _ => inferInstanceAs (Decidable True)
  | _, .deleteUser _ => inferInstanceAs (Decidable True)

structure AcceptedRequest where
  userId : Int
  milestoneIndex : Int
  netRechargeCNY : ℚ

namespace AcceptedRequest

def key (e : AcceptedRequest) : Int × Int := (e.userId, e.milestoneIndex)

def Unlocked (e : AcceptedRequest) : Prop := 1 ≤ e.milestoneIndex ∧ (e.milestoneIndex : ℚ) * 1000 ≤ e.netRechargeCNY

end AcceptedRequest

def acceptedAt (db : BenefitDb) : BenefitAction → List AcceptedRequest
  | .request c =>
    match (requestRechargeBenefit c db).1 with
    | .ok claim => [⟨c.userId, claim.milestoneIndex, userNetRechargeCNY db.recharges c.userId⟩]
    | .error _ => []
  | _ => []

def RechargeBenefitClaim.quotaFor (userId : Int) (c : RechargeBenefitClaim) : Int :=
  if c.userId = userId then c.rewardQuota else 0

def BenefitDb.grantedQuota (db : BenefitDb) (userId : Int) : Int :=
  (db.claims.map fun c => if c.status = .granted then c.quotaFor userId else 0).sum

def BenefitDb.Granted (db : BenefitDb) (k : Int × Int) : Prop := ∃ c ∈ db.claims, c.key = k ∧ c.status = .granted

/-! ## What the calls can do -/

section Calls

variable {db : BenefitDb} {c : BenefitRequest}

theorem nextMilestone_spec {claims : List RechargeBenefitClaim} {userId unlocked m : Int}
    (h : nextMilestone claims userId unlocked = some m) :
    1 ≤ m ∧ m ≤ unlocked ∧ ∀ c ∈ claims, c.key = (userId, m) → c.status = .rejected := by
  have hmem := mem_of_find?_eq_some h
  have hfree := find?_some h
  simp only [mem_map, mem_range] at hmem
  refine ⟨by omega, by omega, fun c hc hkey => ?_⟩
  have := all_eq_true.1 hfree c hc
  simpa [hkey] using this

inductive RequestWrites (c : BenefitRequest) (m : Int) (db db' : BenefitDb) : Prop
  | reopen (previous : RechargeBenefitClaim) (hmem : previous ∈ db.claims) (hkey : previous.key = (c.userId, m))
      (hstatus : previous.status = .rejected)
      (hclaims : db'.claims = updateKey RechargeBenefitClaim.id previous.id
        (fun claim => if claim.status = .rejected then c.reopen claim else claim) db.claims)
  | create (claim : RechargeBenefitClaim) (hkey : claim.key = (c.userId, m)) (hstatus : claim.status = .pending)
      (hclaims : db'.claims = db.claims ++ [claim])

theorem BenefitRequest.write_ok {m : Int} {claim : RechargeBenefitClaim} {db' : BenefitDb}
    (h : c.write m db = .ok (claim, db')) :
    claim.milestoneIndex = m ∧ RequestWrites c m db db' := by
  unfold write at h
  split at h
  · rename_i previous hprevious
    cases h
    have hfound := find?_some hprevious
    simp only [Bool.and_eq_true, decide_eq_true_eq] at hfound
    exact ⟨rfl, .reopen previous (mem_of_find?_eq_some hprevious) hfound.1 hfound.2 rfl⟩
  · dsimp only at h
    split at h
    · cases h
    · cases h
      exact ⟨rfl, .create _ rfl rfl rfl⟩

/-- **What a step can do**: which claims it writes, which it grants, and which requests it accepts. -/
inductive BenefitEffect (db db' : BenefitDb) : List RechargeBenefitClaim → List AcceptedRequest → Prop
  | idle (hclaims : db'.claims = db.claims) : BenefitEffect db db' [] []
  | request (c : BenefitRequest) (m : Int) (hone : 1 ≤ m) (hle : m ≤ unlockedCount db.recharges c.userId)
      (hwrites : RequestWrites c m db db') :
      BenefitEffect db db' [] [⟨c.userId, m, userNetRechargeCNY db.recharges c.userId⟩]
  | review (c : BenefitReview) (q : RechargeBenefitClaim) (hq : q ∈ db.claims) (hpending : q.status = .pending)
      (hclaims : db'.claims = updateKey RechargeBenefitClaim.id q.id c.apply db.claims) :
      BenefitEffect db db' (if c.grant then [c.apply q] else []) []

theorem request_effect :
    BenefitEffect db (benefitStep db (.request c)) [] (acceptedAt db (.request c)) := by
  simp only [acceptedAt, benefitStep, requestRechargeBenefit]
  cases h : c.body db with
  | error err => exact .idle rfl
  | ok r =>
    obtain ⟨_, -, h⟩ := bind_ok h
    obtain ⟨_, -, h⟩ := bind_ok h
    obtain ⟨_, -, h⟩ := bind_ok h
    obtain ⟨_, -, h⟩ := bind_ok h
    cases hm : nextMilestone db.claims c.userId (unlockedCount db.recharges c.userId) with
    | none => rw [hm] at h; cases h
    | some m =>
      rw [hm] at h
      obtain ⟨_, -, h⟩ := bind_ok h
      obtain ⟨_, -, h⟩ := bind_ok h
      obtain ⟨hone, hle, -⟩ := nextMilestone_spec hm
      obtain ⟨rfl, hwrites⟩ := BenefitRequest.write_ok h
      exact .request c _ hone hle hwrites

/-- A review does nothing, or it writes a pending claim and adds its quota to the user's row. -/
theorem review_cases (db : BenefitDb) (c : BenefitReview) :
    benefitStep db (.review c) = db ∧ benefitGrantedAt db (.review c) = [] ∨
    ∃ q ∈ db.claims, q.id = c.claimId ∧ q.status = .pending ∧
      (benefitStep db (.review c)).claims = updateKey RechargeBenefitClaim.id q.id c.apply db.claims ∧
      (benefitStep db (.review c)).store = (if c.grant then db.store.updateQuota q.userId q.rewardQuota else db.store) ∧
      benefitGrantedAt db (.review c) = if c.grant then [c.apply q] else [] := by
  simp only [benefitGrantedAt, benefitStep, reviewRechargeBenefitClaim]
  by_cases hid : c.claimId ≤ 0 ∨ c.adminId ≤ 0
  · rw [if_pos hid]
    exact .inl ⟨rfl, rfl⟩
  · rw [if_neg hid]
    obtain ⟨r, db', -, hbody, htx⟩ | ⟨err, htx⟩ := transaction_cases (c.fails .commit) c.body db
    · rw [htx]
      obtain ⟨_, -, hbody⟩ := bind_ok hbody
      cases hclaim : lookup (·.id) c.claimId db.claims with
      | none => rw [hclaim] at hbody; cases hbody
      | some claim =>
        rw [hclaim] at hbody
        obtain ⟨_, hpending, hbody⟩ := bind_ok hbody
        obtain ⟨_, -, hbody⟩ := bind_ok hbody
        obtain ⟨_, -, hbody⟩ := bind_ok hbody
        cases hbody
        refine .inr ⟨claim, mem_of_lookup hclaim, key_of_lookup hclaim, require_ok hpending, ?_, ?_, rfl⟩
        · cases c.grant <;> rfl
        · cases c.grant <;> rfl
    · rw [htx]
      exact .inl ⟨rfl, rfl⟩

theorem review_effect {c : BenefitReview} :
    BenefitEffect db (benefitStep db (.review c)) (benefitGrantedAt db (.review c)) [] := by
  rcases review_cases db c with ⟨hdb, hgranted⟩ | ⟨q, hq, -, hpending, hclaims, -, hgranted⟩
  · rw [hgranted]
    exact .idle (congrArg BenefitDb.claims hdb)
  · rw [hgranted]
    exact .review c q hq hpending hclaims

theorem benefit_effect (db : BenefitDb) (a : BenefitAction) :
    BenefitEffect db (benefitStep db a) (benefitGrantedAt db a) (acceptedAt db a) := by
  cases a with
  | request c => exact request_effect
  | review c => exact review_effect
  | recharge r => exact .idle rfl
  | deleteUser id => exact .idle rfl

/-- **What is granted is credited**, to a user who has a row. -/
theorem credited {a : BenefitAction} (h : UserPresent db a) (userId : Int) :
    (creditedAt userId db a).sum = ((benefitGrantedAt db a).map (·.quotaFor userId)).sum := by
  cases a with
  | request c | recharge r | deleteUser id => rfl
  | review c =>
    simp only [creditedAt]
    rcases review_cases db c with ⟨hdb, hgranted⟩ | ⟨q, hq, hid, hpending, -, hstore, hgranted⟩
    · simp [hdb, hgranted]
    · rw [hstore, hgranted]
      cases hgrant : c.grant with
      | false => simp
      | true =>
        by_cases huser : q.userId = userId
        · subst huser
          simp [Store.updateQuota_wallet _ (h hgrant q hq hid hpending), RechargeBenefitClaim.quotaFor, BenefitReview.apply]
        · simp [Store.updateQuota_wallet_ne _ (Ne.symm huser), RechargeBenefitClaim.quotaFor, BenefitReview.apply, huser]

end Calls

namespace BenefitEffect

variable {db db' : BenefitDb} {grants : List RechargeBenefitClaim} {accepted : List AcceptedRequest}
  {claim : RechargeBenefitClaim} {userId : Int} {k : Int × Int}

/-! ## Granted claims -/

theorem mem_updateClaim_ne {q : RechargeBenefitClaim} {f : RechargeBenefitClaim → RechargeBenefitClaim}
    (h : claim ∈ db.claims) (hq : q ∈ db.claims) (hne : claim.status ≠ q.status) :
    claim ∈ updateKey (·.id) q.id f db.claims :=
  mem_updateKey.2 (.inl ⟨h, fun hid => hne (eq_of_key db.nodup_id h hq hid ▸ rfl)⟩)

variable (he : BenefitEffect db db' grants accepted)

include he

/-- **A granted claim stays as it is.** -/
theorem granted (h : claim ∈ db.claims) (hgranted : claim.status = .granted) : claim ∈ db'.claims := by
  cases he with
  | idle hclaims => rw [hclaims]; exact h
  | request c m hone hle hwrites =>
    cases hwrites with
    | reopen previous hmem hkey hstatus hclaims =>
      rw [hclaims]
      exact mem_updateClaim_ne h hmem (by rw [hgranted, hstatus]; decide)
    | create new hkey hstatus hclaims => rw [hclaims]; exact mem_append_left _ h
  | review c q hq hpending hclaims =>
    rw [hclaims]
    exact mem_updateClaim_ne h hq (by rw [hgranted, hpending]; decide)

theorem grantedKey (h : db.Granted k) : db'.Granted k := by
  obtain ⟨c, hc, hkey, hstatus⟩ := h
  exact ⟨c, he.granted hc hstatus, hkey, hstatus⟩

theorem granted_of_mem (h : k ∈ grants.map (·.key)) : ¬ db.Granted k ∧ db'.Granted k := by
  cases he with
  | idle => cases h
  | request => cases h
  | review c q hq hpending hclaims =>
    cases hgrant : c.grant with
    | false => simp [hgrant] at h
    | true =>
      simp only [hgrant, if_true, map_singleton, mem_singleton] at h
      subst h
      constructor
      · rintro ⟨p, hp, hkey, hstatus⟩
        have heq : p = q := eq_of_key db.nodup_key hp hq hkey
        rw [heq, hpending] at hstatus
        cases hstatus
      · refine ⟨c.apply q, ?_, rfl, by simp [BenefitReview.apply, hgrant]⟩
        rw [hclaims]
        exact mem_updateKey.2 (.inr ⟨q, hq, rfl, rfl⟩)

theorem nodup : (grants.map (·.key)).Nodup := by
  cases he with
  | idle | request => exact nodup_nil
  | review c => cases c.grant <;> simp

/-! ## Accounting -/

theorem grantedQuota : db'.grantedQuota userId = db.grantedQuota userId + (grants.map (·.quotaFor userId)).sum := by
  unfold BenefitDb.grantedQuota
  cases he with
  | idle hclaims => simp [hclaims]
  | request c m hone hle hwrites =>
    cases hwrites with
    | reopen previous hmem hkey hstatus hclaims =>
      rw [hclaims, sum_updateKey _ db.nodup_id hmem]
      simp [hstatus, BenefitRequest.reopen]
    | create new hkey hstatus hclaims => rw [hclaims]; simp [hstatus]
  | review c q hq hpending hclaims =>
    rw [hclaims, sum_updateKey _ db.nodup_id hq]
    cases hgrant : c.grant <;> simp [hgrant, hpending, BenefitReview.apply]

/-! ## Unlocked milestones -/

theorem unlocked : ∀ e ∈ accepted, e.Unlocked := by
  cases he with
  | idle => simp
  | review => simp
  | request c m hone hle =>
    simp only [mem_singleton, forall_eq]
    refine ⟨hone, ?_⟩
    have hfloor : (m : ℚ) ≤ userNetRechargeCNY db.recharges c.userId / 1000 := Int.le_floor.1 hle
    linarith

theorem key (h : k ∈ db'.claims.map (·.key)) :
    k ∈ db.claims.map (·.key) ∨ k ∈ accepted.map (·.key) := by
  cases he with
  | idle hclaims => rw [hclaims] at h; exact .inl h
  | request c m hone hle hwrites =>
    cases hwrites with
    | reopen previous hmem hkey hstatus hclaims =>
      rw [hclaims, map_updateKey] at h
      · exact .inl h
      · intro q _
        split <;> rfl
    | create new hkey hstatus hclaims =>
      rw [hclaims, map_append, mem_append] at h
      exact h.imp_right fun hnew => by simpa [hkey, AcceptedRequest.key] using hnew
  | review c q hq hpending hclaims =>
    rw [hclaims, map_updateKey] at h
    · exact .inl h
    · intro q _; rfl

end BenefitEffect

theorem key_run (db : BenefitDb) (actions : List BenefitAction) {k : Int × Int}
    (h : k ∈ (run benefitStep db actions).claims.map (·.key)) :
    k ∈ db.claims.map (·.key) ∨
      k ∈ (trace benefitStep acceptedAt db actions).map (·.key) := by
  induction actions generalizing db with
  | nil => exact .inl h
  | cons a actions ih =>
    rw [trace, map_append, mem_append]
    rcases ih (benefitStep db a) h with hold | hlater
    · exact ((benefit_effect db a).key hold).imp_right .inl
    · exact .inr (.inr hlater)

/-- **Benefits are granted at most once.** In every history of requests, reviews, recharges and deletions: no pair of user and
milestone is credited twice, nor one that was granted before; a granted claim is never changed; if no claim of a deleted user
is granted, what the reviews have added to the wallet of a user is the sum of the claims that were granted since; and every
request that was accepted, so every new claim, was for a milestone that the net recharge of the user had unlocked. -/
theorem benefits_granted_once (db : BenefitDb) (actions : List BenefitAction) :
    ((trace benefitStep benefitGrantedAt db actions).map RechargeBenefitClaim.key).Nodup ∧
    (∀ k, db.Granted k → k ∉ (trace benefitStep benefitGrantedAt db actions).map RechargeBenefitClaim.key) ∧
    (∀ before after, actions = before ++ after → ∀ claim ∈ (run benefitStep db before).claims,
      claim.status = .granted → claim ∈ (run benefitStep db actions).claims) ∧
    (Along benefitStep UserPresent db actions → ∀ userId,
      (trace benefitStep (creditedAt userId) db actions).sum =
        (run benefitStep db actions).grantedQuota userId - db.grantedQuota userId) ∧
    (∀ e ∈ trace benefitStep acceptedAt db actions, e.Unlocked) ∧
    ∀ claim ∈ (run benefitStep db actions).claims, claim.key ∈ db.claims.map RechargeBenefitClaim.key ∨
      claim.key ∈ (trace benefitStep acceptedAt db actions).map AcceptedRequest.key := by
  obtain ⟨hnodup, hnot⟩ := trace_once BenefitDb.Granted (fun _ a _ => (benefit_effect _ a).grantedKey)
    (fun _ a => (benefit_effect _ a).nodup) (fun _ a _ => (benefit_effect _ a).granted_of_mem) db actions
  rw [← trace_map] at hnodup hnot
  refine ⟨hnodup, hnot, ?_, fun hpresent userId => ?_, forall_mem_trace fun _ a => (benefit_effect _ a).unlocked, ?_⟩
  · rintro before after rfl claim hclaim hgranted
    rw [run_append]
    exact run_inv (I := fun db : BenefitDb => claim ∈ db.claims) (fun _ a h => (benefit_effect _ a).granted h hgranted) after hclaim
  · have hcredited := run_eq_add_sum (I := fun _ => True) (p := fun db : BenefitDb => db.grantedQuota userId)
      (d := fun delta : Int => delta) (fun _ _ _ _ => trivial)
      (fun db a h _ => by rw [(benefit_effect db a).grantedQuota, ← credited h, map_id']) hpresent trivial
    rw [map_id'] at hcredited
    omega
  · intro claim hclaim
    exact key_run db actions (mem_map_of_mem hclaim)

namespace Sample

/-- A user who has paid 2500 CNY. -/
def benefitDb : BenefitDb where
  claims := []
  recharges := ⟨[{ topUpRow "epay" with money := 2500, status := .success }], [], []⟩
  store := ⟨[⟨1, 100, "default"⟩], [], [], [], false, fun _ => 0, fun _ => 0⟩
  nodup_id := nodup_nil
  nodup_key := nodup_nil

def benefitRequest (now : Int) : BenefitAction := .request ⟨1, true, ⟨.tokens, 1, 5, 100⟩, now, fun _ => none⟩

def benefitReview (claimId : Int) (grant : Bool) (now : Int) : BenefitAction :=
  .review ⟨claimId, 9, grant, " ok ", now, fun _ => none⟩

/-- The first claim is rejected, requested again and granted, the second is requested, and there is no third. -/
def benefitActions : List BenefitAction :=
  [benefitRequest 1, benefitReview 1 false 2, benefitRequest 3, benefitReview 1 true 4, benefitReview 1 true 5,
    benefitRequest 6, benefitRequest 7]

end Sample

open Sample

/-- The first milestone is credited once. -/
theorem benefits_granted_once_sample :
    (run benefitStep benefitDb benefitActions).claims.map (fun c => (c.id, c.key, c.status)) =
      [(1, (1, 1), .granted), (2, (1, 2), .pending)] ∧
    (run benefitStep benefitDb benefitActions).store.wallet 1 = 1100 ∧
    (trace benefitStep (creditedAt 1) benefitDb benefitActions).sum =
      (run benefitStep benefitDb benefitActions).grantedQuota 1 - benefitDb.grantedQuota 1 := by
  refine ⟨by decide +kernel, by decide +kernel, ?_⟩
  exact (benefits_granted_once benefitDb benefitActions).2.2.2.1 (by decide +kernel) 1

/-- The user is deleted between the request and the review: the claim is granted, and nothing is credited. -/
theorem benefit_of_deleted_user :
    let actions := [benefitRequest 1, .deleteUser 1, benefitReview 1 true 2]
    (run benefitStep benefitDb actions).claims.map (·.status) = [.granted] ∧
      (trace benefitStep (creditedAt 1) benefitDb actions).sum = 0 ∧
      (run benefitStep benefitDb actions).grantedQuota 1 - benefitDb.grantedQuota 1 = 1000 := by
  decide +kernel

end SynthApi
