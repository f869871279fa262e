import SynthApi.Lib.Transaction
import SynthApi.Model.Affiliate
import SynthApi.Model.RewardProgram.Basic
import SynthApi.Model.TopUp.Statements

/-!
# Affiliate rebates

A user who was invited by another earns the inviter a rebate with every order paid in CNY. The rate depends on how many
invitees have paid so far. `SettleAffiliateMilestoneRebate` books the rebate of one order when it is paid;
`BackfillAffiliateMilestoneRebates` replays all paid orders and books what the ledger lacks or has otherwise
(`model/reward_program.go`).

The replay takes the orders by their time of payment, which some completions do not store (`TopUpRow.paidAt`).
-/

namespace SynthApi

open Lib Lib.Go Lib.Table

/-! ## Stages -/

structure AffiliateRewardStage where
  code : String
  name : String
  minInvites : Nat
  /-- 0 for no bound. -/
  maxInvites : Nat
  rateBPS : Int
  deriving DecidableEq, Repr

def affiliateRewardStages : List AffiliateRewardStage :=
  [⟨"launch_star", "启航新星", 1, 4, 800⟩, ⟨"blazing_explorer", "炽焰探索者", 5, 9, 1000⟩,
    ⟨"stellar_navigator", "星环领航员", 10, 24, 1250⟩, ⟨"lightspeed_commander", "光速指挥官", 25, 49, 1500⟩,
    ⟨"throne_conqueror", "王座征服者", 50, 99, 1750⟩, ⟨"galaxy_captain", "银河舰长", 100, 0, 2000⟩]

def affiliateStageForCount (count : Nat) : AffiliateRewardStage :=
  if count = 0 then ⟨"ready", "待启航", 0, 0, 0⟩
  else
    (affiliateRewardStages.find? fun s =>
      decide (s.minInvites ≤ count) && (decide (s.maxInvites = 0) || decide (count ≤ s.maxInvites))).getD
      ⟨"galaxy_captain", "银河舰长", 100, 0, 2000⟩

theorem affiliateStageForCount_rate_pos {count : Nat} (h : 0 < count) : 0 < (affiliateStageForCount count).rateBPS := by
  rw [affiliateStageForCount, if_neg (by omega)]
  cases hs : affiliateRewardStages.find? fun s =>
      decide (s.minInvites ≤ count) && (decide (s.maxInvites = 0) || decide (count ≤ s.maxInvites)) with
  | none => decide
  | some stage =>
    have hall : ∀ stage ∈ affiliateRewardStages, 0 < stage.rateBPS := by decide
    exact hall stage (List.mem_of_find?_eq_some hs)

def rebateQuota (s : GeneralSetting) (money : ℚ) (stage : AffiliateRewardStage) : Int :=
  cnyToQuota s (round2 (decimalDiv (money * stage.rateBPS) 10000))

/-! ## Tables -/

structure AffiliateRebateRecord where
  id : Int
  tradeNo : String
  inviteeUserId : Int
  inviterUserId : Int
  paidCNY : ℚ
  effectiveInviteCount : Nat
  stageCode : String
  stageName : String
  rateBPS : Int
  rewardQuota : Int
  createdAt : Int
  deriving DecidableEq, Repr

structure InvitedUser extends UserRow where
  inviterId : Int
  deriving DecidableEq, Repr

structure RebateDb where
  topUps : List TopUpRow
  users : List InvitedUser
  refunds : List PaymentRefundReview
  records : List AffiliateRebateRecord
  deriving DecidableEq

namespace RebateDb

variable (db : RebateDb)

def topUp (tradeNo : String) : Option TopUpRow := lookup (fun t => t.tradeNo) tradeNo db.topUps

def user (id : Int) : Option InvitedUser := lookup (fun u => u.id) id db.users

def record (tradeNo : String) : Option AffiliateRebateRecord :=
  lookup AffiliateRebateRecord.tradeNo tradeNo db.records

def addAff (id delta : Int) : RebateDb :=
  { db with
    users := updateKey (fun u => u.id) id
      (fun u => { u with affQuota := u.affQuota + delta, affHistoryQuota := u.affHistoryQuota + delta }) db.users }

def nextRecordId : Int := nextId (db.records.map AffiliateRebateRecord.id)

def createRecord (r : AffiliateRebateRecord) : RebateDb := { db with records := db.records ++ [r] }

def updateRecord (id : Int) (f : AffiliateRebateRecord → AffiliateRebateRecord) : RebateDb :=
  { db with records := updateKey AffiliateRebateRecord.id id f db.records }

end RebateDb

def ledgerInvitees (records : List AffiliateRebateRecord) (inviterId : Int) : Finset Int :=
  ((records.filter fun r => r.inviterUserId = inviterId).map (·.inviteeUserId)).toFinset

def effectiveInviteCount (records : List AffiliateRebateRecord) (inviterId : Int) : Nat :=
  (ledgerInvitees records inviterId).card

structure RebateSite where
  setting : GeneralSetting
  /-- `setting.IsAffiliateMilestoneRewardEnabled` -/
  enabled : Bool

/-! ## Settlement of one order -/

def rebateCandidate (now : Int) (t : TopUpRow) (inviterId id : Int) : AffiliateRebateRecord where
  id := id
  tradeNo := t.tradeNo
  inviteeUserId := t.userId
  inviterUserId := inviterId
  paidCNY := round2 t.money
  effectiveInviteCount := 0
  stageCode := "pending"
  stageName := "待结算"
  rateBPS := 0
  rewardQuota := 0
  createdAt := now

/-- The columns that the settlement sets. -/
def AffiliateRebateRecord.settle (count : Nat) (stage : AffiliateRewardStage) (rewardQuota : Int)
    (r : AffiliateRebateRecord) : AffiliateRebateRecord :=
  { r with
    effectiveInviteCount := count
    stageCode := stage.code
    stageName := stage.name
    rateBPS := stage.rateBPS
    rewardQuota := rewardQuota }

def settleOrder (s : RebateSite) (now : Int) (t : TopUpRow) (inviterId : Int) (db : RebateDb) : Except String RebateDb :=
  -- ON CONFLICT DO NOTHING
  if (db.record t.tradeNo).isSome then .ok db
  else
    let candidate := rebateCandidate now t inviterId db.nextRecordId
    let created := db.createRecord candidate
    let count := effectiveInviteCount created.records inviterId
    let stage := affiliateStageForCount count
    if stage.rateBPS ≤ 0 then .error "affiliate stage configuration is invalid"
    else if rebateQuota s.setting t.money stage ≤ 0 then .error "affiliate reward quota conversion is invalid"
    else
      let rewardQuota := rebateQuota s.setting t.money stage
      .ok ((created.addAff inviterId rewardQuota).updateRecord candidate.id
        (AffiliateRebateRecord.settle count stage rewardQuota))

def settleBody (s : RebateSite) (now : Int) (tradeNo : String) (db : RebateDb) : Except String RebateDb :=
  match db.topUp tradeNo with
  | none => .ok db
  | some t =>
    if ¬ isEligibleCNYTopUp t then .ok db
    else
      match db.user t.userId with
      | none => .error "record not found"
      | some invitee =>
        if invitee.inviterId ≤ 0 ∨ invitee.inviterId = invitee.id then .ok db
        else
          match db.user invitee.inviterId with
          | none => .ok db
          | some inviter => settleOrder s now t inviter.id db

/-- `SettleAffiliateMilestoneRebate`, without failing statements. -/
def settleAffiliateMilestoneRebate (s : RebateSite) (now : Int) (tradeNo : String) (db : RebateDb) :
    Except String Unit × RebateDb :=
  if ¬ s.enabled then (.ok (), db)
  else if trimSpace tradeNo = "" then (.ok (), db)
  else
    match settleBody s now (trimSpace tradeNo) db with
    | .ok db' => (.ok (), db')
    | .error err => (.error err, db)

/-! ## Replay -/

/-- When the order was paid; some completions leave `complete_time` at 0. -/
def TopUpRow.paidAt (t : TopUpRow) : Int := if t.completeTime = 0 then t.createTime else t.completeTime

/-- The comparison of the sort. -/
def TopUpRow.paidBefore (t u : TopUpRow) : Bool :=
  if t.paidAt ≠ u.paidAt then decide (t.paidAt < u.paidAt)
  else if t.createTime ≠ u.createTime then decide (t.createTime < u.createTime)
  else decide (t.id < u.id)

/-- The paid orders, in the order of payment. -/
def RebateDb.paidTopUps (db : RebateDb) : List TopUpRow :=
  (db.topUps.filter fun t => t.status = .success).insertionSort fun t u => u.paidBefore t = false

def inviterByUser (users : List InvitedUser) (userId : Int) : Int :=
  ((lookup (fun u => u.id) userId users).map (·.inviterId)).getD 0

def isRefunded (refunds : List PaymentRefundReview) (t : TopUpRow) : Bool :=
  refunds.any fun r => decide (0 < r.refundAmount) && decide (trimSpace r.localTradeNo = trimSpace t.tradeNo)

/-- The order earns a rebate. -/
def isInvitedTopUp (users : List InvitedUser) (refunds : List PaymentRefundReview) (t : TopUpRow) : Bool :=
  isEligibleCNYTopUp t && !isRefunded refunds t && decide (0 < inviterByUser users t.userId) &&
    decide (inviterByUser users t.userId ≠ t.userId)

structure AffiliateBackfillEntry where
  topUp : TopUpRow
  inviterId : Int
  inviteCount : Nat
  stage : AffiliateRewardStage
  rewardQuota : Int

/-- The rebates of the orders, with the invitees of each user who have paid so far. -/
def backfillEntries (s : RebateSite) (users : List InvitedUser) (refunds : List PaymentRefundReview) :
    (Int → Finset Int) → List TopUpRow → Except String (List AffiliateBackfillEntry)
  | _, [] => .ok []
  | effective, t :: ts =>
    if ¬ isInvitedTopUp users refunds t then backfillEntries s users refunds effective ts
    else
      let inviterId := inviterByUser users t.userId
      let invitees := insert t.userId (effective inviterId)
      let stage := affiliateStageForCount invitees.card
      if rebateQuota s.setting t.money stage ≤ 0 then .error ("invalid reward quota for trade " ++ t.tradeNo)
      else do
        let entries ← backfillEntries s users refunds (Function.update effective inviterId invitees) ts
        return ⟨t, inviterId, invitees.card, stage, rebateQuota s.setting t.money stage⟩ :: entries

namespace AffiliateBackfillEntry

def record (e : AffiliateBackfillEntry) (id : Int) : AffiliateRebateRecord where
  id := id
  tradeNo := e.topUp.tradeNo
  inviteeUserId := e.topUp.userId
  inviterUserId := e.inviterId
  paidCNY := round2 e.topUp.money
  effectiveInviteCount := e.inviteCount
  stageCode := e.stage.code
  stageName := e.stage.name
  rateBPS := e.stage.rateBPS
  rewardQuota := e.rewardQuota
  createdAt := e.topUp.paidAt

/-- `Updates` with a struct sets the columns that are not zero. -/
def overwrite (e : AffiliateBackfillEntry) (r : AffiliateRebateRecord) : AffiliateRebateRecord :=
  let v := e.record r.id
  { r with
    tradeNo := setNonzero "" v.tradeNo r.tradeNo
    inviteeUserId := setNonzero 0 v.inviteeUserId r.inviteeUserId
    inviterUserId := setNonzero 0 v.inviterUserId r.inviterUserId
    paidCNY := setNonzero 0 v.paidCNY r.paidCNY
    effectiveInviteCount := setNonzero 0 v.effectiveInviteCount r.effectiveInviteCount
    stageCode := setNonzero "" v.stageCode r.stageCode
    stageName := setNonzero "" v.stageName r.stageName
    rateBPS := setNonzero 0 v.rateBPS r.rateBPS
    rewardQuota := setNonzero 0 v.rewardQuota r.rewardQuota
    createdAt := setNonzero 0 v.createdAt r.createdAt }

/-- Pay the inviter what the ledger lacks. -/
def adjust (e : AffiliateBackfillEntry) (delta : Int) (db : RebateDb) : RebateDb :=
  if delta ≠ 0 then db.addAff e.inviterId delta else db

/-- One entry in the transaction; `existing` is the ledger before it. -/
def book (existing : List AffiliateRebateRecord) (e : AffiliateBackfillEntry) (db : RebateDb) : Except String RebateDb :=
  match db.user e.inviterId with
  | none => .error "record not found"
  | some inviter =>
    let old := lookup AffiliateRebateRecord.tradeNo e.topUp.tradeNo existing
    let delta := e.rewardQuota - (old.map (·.rewardQuota)).getD 0
    if delta < 0 ∧ inviter.affQuota + delta < 0 then
      .error ("trade " ++ e.topUp.tradeNo ++ " adjustment would make inviter " ++ toString e.inviterId ++
        " affiliate quota negative")
    else
      let db := e.adjust delta db
      match old with
      | some r => .ok (db.updateRecord r.id e.overwrite)
      | none =>
        if (db.record e.topUp.tradeNo).isSome then .error "UNIQUE constraint failed"
        else .ok (db.createRecord (e.record db.nextRecordId))

end AffiliateBackfillEntry

def bookEntries (existing : List AffiliateRebateRecord) : List AffiliateBackfillEntry → RebateDb → Except String RebateDb
  | [], db => .ok db
  | e :: entries, db => do bookEntries existing entries (← e.book existing db)

/-- `BackfillAffiliateMilestoneRebates(true)`, without failing statements. -/
def backfillAffiliateMilestoneRebates (s : RebateSite) (db : RebateDb) : Except String Unit × RebateDb :=
  match backfillEntries s db.users db.refunds (fun _ => ∅) db.paidTopUps with
  | .error err => (.error err, db)
  | .ok entries =>
    match bookEntries db.records entries db with
    | .error err => (.error err, db)
    | .ok db' => (.ok (), db')

/-! ## Settlement of all orders -/

/-- Settle an order at the time that `settledAt` gives for its trade number. -/
def settleAt (s : RebateSite) (settledAt : String → Int) (db : RebateDb) (t : TopUpRow) : RebateDb :=
  (settleAffiliateMilestoneRebate s (settledAt t.tradeNo) t.tradeNo db).2

def settleAll (s : RebateSite) (settledAt : String → Int) (ts : List TopUpRow) (db : RebateDb) : RebateDb :=
  run (settleAt s settledAt) db ts

/-! ## What a settlement does -/

section Settlement

variable {s : RebateSite} {settledAt : String → Int} {db db' : RebateDb} {now : Int} {t : TopUpRow} {tradeNo : String}

/-- A settlement does nothing, or it books a rebate that is not in the ledger yet and pays it. -/
theorem settleOrder_cases {inviterId : Int} (h : settleOrder s now t inviterId db = .ok db') :
    db' = db ∨ db.record t.tradeNo = none ∧ ∃ r : AffiliateRebateRecord, r.tradeNo = t.tradeNo ∧ 0 < r.rewardQuota ∧
      db' = { db.addAff inviterId r.rewardQuota with records := db.records ++ [r] } := by
  unfold settleOrder at h
  split at h
  · cases h; exact .inl rfl
  · rename_i hnew
    dsimp only at h
    generalize effectiveInviteCount _ inviterId = count at h
    generalize affiliateStageForCount count = stage at h
    generalize rebateQuota s.setting t.money stage = rewardQuota at h
    split_ifs at h with hrate hpos
    cases h
    have hid : (rebateCandidate now t inviterId db.nextRecordId).id ∉ db.records.map AffiliateRebateRecord.id :=
      nextId_not_mem _
    refine .inr ⟨by simpa using hnew,
      (rebateCandidate now t inviterId db.nextRecordId).settle count stage rewardQuota, rfl, not_le.1 hpos, ?_⟩
    simp only [RebateDb.updateRecord, RebateDb.addAff, RebateDb.createRecord]
    rw [updateKey_concat rfl hid]
    rfl

theorem settleBody_cases (h : settleBody s now tradeNo db = .ok db') :
    db' = db ∨ ∃ t, db.topUp tradeNo = some t ∧
      settleOrder s now t (((db.user t.userId).map (·.inviterId)).getD 0) db = .ok db' := by
  unfold settleBody at h
  split at h
  · cases h; exact .inl rfl
  · rename_i t ht
    split at h
    · cases h; exact .inl rfl
    · split at h
      · cases h
      · rename_i invitee hinvitee
        split at h
        · cases h; exact .inl rfl
        · split at h
          · cases h; exact .inl rfl
          · rename_i inviter hinviter
            refine .inr ⟨t, ht, ?_⟩
            rw [hinvitee, Option.map_some, Option.getD_some, ← key_of_lookup hinviter]
            exact h

theorem settleAt_cases (s : RebateSite) (settledAt : String → Int) (db : RebateDb) (t : TopUpRow) :
    settleAt s settledAt db t = db ∨ ∃ u, db.topUp (trimSpace t.tradeNo) = some u ∧
      db.record u.tradeNo = none ∧ ∃ r : AffiliateRebateRecord, r.tradeNo = u.tradeNo ∧ 0 < r.rewardQuota ∧
        settleAt s settledAt db t =
          { db.addAff (inviterByUser db.users u.userId) r.rewardQuota with records := db.records ++ [r] } := by
  unfold settleAt settleAffiliateMilestoneRebate
  split
  · exact .inl rfl
  · split
    · exact .inl rfl
    · split
      · rename_i db' h
        rcases settleBody_cases h with h | ⟨u, hu, h⟩
        · exact .inl h
        · exact (settleOrder_cases h).imp_right fun hbooked => ⟨u, hu, hbooked⟩
      · exact .inl rfl

structure RebateDb.SameOrders (db db' : RebateDb) : Prop where
  topUps : db'.topUps = db.topUps
  refunds : db'.refunds = db.refunds
  inviters : ∀ id, (db'.user id).map (·.inviterId) = (db.user id).map (·.inviterId)

namespace RebateDb.SameOrders

variable {db'' : RebateDb}

theorem refl (db : RebateDb) : SameOrders db db := ⟨rfl, rfl, fun _ => rfl⟩

theorem trans (h : SameOrders db db') (h' : SameOrders db' db'') : SameOrders db db'' :=
  ⟨h'.topUps.trans h.topUps, h'.refunds.trans h.refunds, fun id => (h'.inviters id).trans (h.inviters id)⟩

theorem addAff (db : RebateDb) (id delta : Int) : SameOrders db (db.addAff id delta) :=
  ⟨rfl, rfl, fun _ => map_lookup_updateKey (fun _ => rfl) fun _ => rfl⟩

variable (h : SameOrders db db')

include h

theorem user_isSome (id : Int) : (db'.user id).isSome = (db.user id).isSome := by
  rw [← Option.isSome_map (f := fun u : InvitedUser => u.inviterId), h.inviters, Option.isSome_map]

theorem inviterByUser : SynthApi.inviterByUser db'.users = SynthApi.inviterByUser db.users :=
  funext fun id => congrArg (Option.getD · 0) (h.inviters id)

theorem paidTopUps : db'.paidTopUps = db.paidTopUps := by
  rw [RebateDb.paidTopUps, RebateDb.paidTopUps, h.topUps]

theorem isInvitedTopUp :
    SynthApi.isInvitedTopUp db'.users db'.refunds = SynthApi.isInvitedTopUp db.users db.refunds := by
  unfold SynthApi.isInvitedTopUp
  rw [h.inviterByUser, h.refunds]

end RebateDb.SameOrders

theorem settleAt_same : db.SameOrders (settleAt s settledAt db t) := by
  rcases settleAt_cases s settledAt db t with h | ⟨u, -, -, r, -, -, h⟩
  · rw [h]; exact .refl _
  · rw [h]
    exact (RebateDb.SameOrders.addAff db _ r.rewardQuota).trans ⟨rfl, rfl, fun _ => rfl⟩

theorem settleAt_trades (htrim : trimSpace t.tradeNo = t.tradeNo)
    (hne : tradeNo ≠ t.tradeNo) (hnot : tradeNo ∉ db.records.map (·.tradeNo)) :
    tradeNo ∉ (settleAt s settledAt db t).records.map (·.tradeNo) := by
  rcases settleAt_cases s settledAt db t with h | ⟨u, hu, -, r, hr, -, h⟩
  · rwa [h]
  · rw [htrim] at hu
    have hkey := key_of_lookup hu
    rw [h]
    simp [hr, hkey, hne, hnot]

theorem settleAll_same (ts : List TopUpRow) : db.SameOrders (settleAll s settledAt ts db) :=
  run_inv (fun _ _ h => h.trans settleAt_same) ts (.refl db)

end Settlement

end SynthApi
