import SynthApi.Lib.Run
import SynthApi.Lib.Transaction
import SynthApi.Model.Quota

/-!
# Redemption codes

`Redeem` (`model/redemption.go`) marks a code as used and adds its quota to the wallet of the user, in one transaction.
A code with a batch id also leaves a row in `redemption_usage`, and a user who has such a row gets no other code of the
batch. Transactions are serializable, so a history is a list of calls, `redeemStep` executes one, and `redeemedAt` is
what it credits.

`redeem_effect` says what a call can do. From it: no code and no pair of user and batch is credited twice, and the
wallets gain just what is stored as used (`redemption_accounting`).
-/

namespace SynthApi

open Lib

/-! ## Tables -/

inductive RedemptionStatus where
  | enabled
  | disabled
  | used
  deriving DecidableEq, Repr

structure Redemption where
  id : Int
  key : String
  status : RedemptionStatus
  quota : Int
  redeemedTime : Int
  usedUserId : Int
  /-- `deleted_at` is set. -/
  deleted : Bool
  expiredTime : Int
  batchId : String
  deriving DecidableEq, Repr

structure RedemptionUsage where
  userId : Int
  redemptionKey : String
  batchId : String
  createdAt : Int
  deriving DecidableEq, Repr

/-- The tables; the codes have distinct ids. -/
structure RedemptionDb where
  redemptions : List Redemption
  usages : List RedemptionUsage
  store : Store
  nodup_id : (redemptions.map Redemption.id).Nodup

namespace RedemptionDb

variable (db : RedemptionDb)

/-- The code with a key, among those that are not deleted. -/
def redemption (key : String) : Option Redemption :=
  db.redemptions.find? fun r => decide (r.key = key) && !r.deleted

def hasUsage (userId : Int) (batchId : String) : Bool :=
  db.usages.any fun u => decide (u.userId = userId) && decide (u.batchId = batchId)

def saveRedemption (r : Redemption) : RedemptionDb where
  redemptions := Table.updateKey Redemption.id r.id (fun _ => r) db.redemptions
  usages := db.usages
  store := db.store
  nodup_id := by rw [Table.map_updateKey fun _ h => h.symm]; exact db.nodup_id

def createUsage (u : RedemptionUsage) : RedemptionDb := { db with usages := db.usages ++ [u] }

def addQuota (userId quota : Int) : RedemptionDb :=
  { db with store := db.store.updateQuota userId quota }

end RedemptionDb

def Redemption.markUsed (now userId : Int) (r : Redemption) : Redemption :=
  { r with redeemedTime := now, status := .used, usedUserId := userId }

def Redemption.usedBy (userId : Int) (r : Redemption) : Bool :=
  decide (r.status = .used) && decide (r.usedUserId = userId)

/-- The sum of the quotas of the codes that are stored as used by the user. -/
def RedemptionDb.usedQuota (db : RedemptionDb) (userId : Int) : Int :=
  (db.redemptions.map fun r => if r.usedBy userId then r.quota else 0).sum

/-! ## Redeem -/

inductive RedeemStmt where
  | findRedemption
  | countUsages
  | createUsage
  | updateQuota
  | clearNotifyState
  | saveRedemption
  | commit
  deriving DecidableEq, Repr

/-- A call of `Redeem`: its arguments, its time, and the errors of its statements. -/
structure RedeemCall where
  key : String
  userId : Int
  now : Int
  fails : RedeemStmt → Option String

variable (c : RedeemCall)

/-- A statement that may fail, with the text that the code makes of the error. -/
def RedeemCall.exec (stmt : RedeemStmt) (text : String → String) : Except (Halt String) Unit :=
  attempt ((c.fails stmt).map fun err => .error (text err))

def RedeemCall.recordUsage (batchId : String) (db : RedemptionDb) :
    Except (Halt String) RedemptionDb :=
  if batchId = "" then .ok db
  else do
    c.exec .countUsages fun _ => "系统错误"
    require (db.hasUsage c.userId batchId = false) (.error "您已兑换过该批次兑换码，每个用户在有效期内仅限兑换1次")
    c.exec .createUsage fun _ => "记录兑换信息失败"
    return db.createUsage ⟨c.userId, c.key, batchId, c.now⟩

/-- `ClearWalletLowQuotaNotifyStateIfRecoveredTx` reads the row of the user. -/
def RedeemCall.clearNotifyState (db : RedemptionDb) : Except (Halt String) Unit :=
  if c.userId ≤ 0 then .ok ()
  else do
    require (db.store.HasUser c.userId) (.error "record not found")
    c.exec .clearNotifyState id

def RedeemCall.body (db : RedemptionDb) : Except (Halt String) (Redemption × RedemptionDb) := do
  c.exec .findRedemption fun _ => "无效的兑换码"
  match db.redemption c.key with
  | none => .error (.error "无效的兑换码")
  | some r =>
    require (r.status = .enabled) (.error "该兑换码已被使用")
    require (¬ (r.expiredTime ≠ 0 ∧ r.expiredTime < c.now)) (.error "该兑换码已过期")
    let db ← c.recordUsage r.batchId db
    c.exec .updateQuota id
    let db := db.addQuota c.userId r.quota
    c.clearNotifyState db
    c.exec .saveRedemption id
    return (r, db.saveRedemption (r.markUsed c.now c.userId))

/-- `Redeem`: the quota of the code, and the tables after the call. -/
def redeem (db : RedemptionDb) : Except String Int × RedemptionDb :=
  if c.key = "" then (.error "未提供兑换码", db)
  else if c.userId = 0 then (.error "无效的 user id", db)
  else
    match transaction (c.fails .commit) c.body db with
    | (.ok r, db') => (.ok r.quota, db')
    | (.error _, db') => (.error "redeem.failed", db')

def redeemStep (db : RedemptionDb) (c : RedeemCall) : RedemptionDb := (redeem c db).2

/-- A credit: the code, and the user whose wallet gets its quota. -/
structure RedemptionCredit where
  redemptionId : Int
  batchId : String
  userId : Int
  quota : Int
  deriving DecidableEq, Repr

def redeemedAt (db : RedemptionDb) (c : RedeemCall) : List RedemptionCredit :=
  match (redeem c db).1, db.redemption c.key with
  | .ok quota, some r => [⟨r.id, r.batchId, c.userId, quota⟩]
  | _, _ => []

/-! ## What a call can do -/

/-- The tables after the code `r` went to the user, with the usage of its batch. -/
def RedeemCall.redeemed (c : RedeemCall) (r : Redemption) (db : RedemptionDb) : RedemptionDb :=
  let db := if r.batchId = "" then db else db.createUsage ⟨c.userId, c.key, r.batchId, c.now⟩
  (db.addQuota c.userId r.quota).saveRedemption (r.markUsed c.now c.userId)

section Redeem

variable {c : RedeemCall} {db db' : RedemptionDb} {r : Redemption}

theorem RedeemCall.recordUsage_ok {batchId : String} (h : c.recordUsage batchId db = .ok db') :
    (batchId ≠ "" → db.hasUsage c.userId batchId = false) ∧
      db' = if batchId = "" then db else db.createUsage ⟨c.userId, c.key, batchId, c.now⟩ := by
  unfold recordUsage at h
  split at h
  · rename_i hempty
    cases h
    exact ⟨fun hne => absurd hempty hne, by simp [hempty]⟩
  · rename_i hne
    obtain ⟨_, -, h⟩ := bind_ok h
    obtain ⟨_, husage, h⟩ := bind_ok h
    obtain ⟨_, -, h⟩ := bind_ok h
    cases h
    exact ⟨fun _ => require_ok husage, by simp [hne]⟩

theorem RedeemCall.body_ok (h : c.body db = .ok (r, db')) :
    db.redemption c.key = some r ∧ r.status = .enabled ∧
      (r.batchId ≠ "" → db.hasUsage c.userId r.batchId = false) ∧ db' = c.redeemed r db := by
  obtain ⟨_, -, h⟩ := bind_ok h
  cases hr : db.redemption c.key with
  | none => rw [hr] at h; cases h
  | some q =>
    rw [hr] at h
    obtain ⟨_, hstatus, h⟩ := bind_ok h
    obtain ⟨_, -, h⟩ := bind_ok h
    obtain ⟨db₁, husage, h⟩ := bind_ok h
    obtain ⟨_, -, h⟩ := bind_ok h
    obtain ⟨_, -, h⟩ := bind_ok h
    obtain ⟨_, -, h⟩ := bind_ok h
    cases h
    obtain ⟨hnone, rfl⟩ := recordUsage_ok husage
    exact ⟨rfl, require_ok hstatus, hnone, rfl⟩

/-- **What a call of `Redeem` can do**: it credits an enabled code, of a batch of which the user has none, or it changes
nothing. -/
inductive RedeemEffect (db : RedemptionDb) (c : RedeemCall) : RedemptionDb → List RedemptionCredit → Prop
  | refused : RedeemEffect db c db []
  | credited (r : Redemption) (hr : db.redemption c.key = some r) (hstatus : r.status = .enabled)
      (husage : r.batchId ≠ "" → db.hasUsage c.userId r.batchId = false) :
      RedeemEffect db c (c.redeemed r db) [⟨r.id, r.batchId, c.userId, r.quota⟩]

theorem redeem_effect (db : RedemptionDb) (c : RedeemCall) : RedeemEffect db c (redeemStep db c) (redeemedAt db c) := by
  unfold redeemStep redeemedAt redeem
  by_cases hkey : c.key = ""
  · rw [if_pos hkey]
    exact .refused
  · rw [if_neg hkey]
    by_cases huser : c.userId = 0
    · rw [if_pos huser]
      exact .refused
    · rw [if_neg huser]
      obtain ⟨r, db', -, hbody, htx⟩ | ⟨err, htx⟩ := transaction_cases (c.fails .commit) c.body db
      · obtain ⟨hr, hstatus, husage, rfl⟩ := RedeemCall.body_ok hbody
        rw [htx, hr]
        exact .credited r hr hstatus husage
      · rw [htx]
        exact .refused

/-- The tables after a credit, one by one. -/
theorem RedeemCall.redeemed_redemptions : (c.redeemed r db).redemptions =
    Table.updateKey Redemption.id r.id (fun _ => r.markUsed c.now c.userId) db.redemptions := by
  unfold redeemed; split <;> rfl

theorem RedeemCall.redeemed_store : (c.redeemed r db).store = db.store.updateQuota c.userId r.quota := by
  unfold redeemed; split <;> rfl

theorem RedeemCall.redeemed_usages : (c.redeemed r db).usages =
    db.usages ++ if r.batchId = "" then [] else [⟨c.userId, c.key, r.batchId, c.now⟩] := by
  unfold redeemed; split <;> simp [RedemptionDb.saveRedemption, RedemptionDb.addQuota, RedemptionDb.createUsage]

end Redeem

/-! ## At most once -/

/-- A code with this id can not be redeemed any more. -/
def RedemptionDb.CodeSpent (db : RedemptionDb) (id : Int) : Prop := ∃ r ∈ db.redemptions, r.id = id ∧ r.status ≠ .enabled

def RedemptionCredit.quotaFor (userId : Int) (credit : RedemptionCredit) : Int :=
  if credit.userId = userId then credit.quota else 0

namespace RedeemEffect

variable {db db' : RedemptionDb} {c : RedeemCall} {credits : List RedemptionCredit} {id userId : Int}
  {k : Int × String}

variable (he : RedeemEffect db c db' credits)

include he

theorem codeSpent (h : db.CodeSpent id) : db'.CodeSpent id := by
  cases he with
  | refused => exact h
  | credited r hr =>
    obtain ⟨q, hq, hid, hstatus⟩ := h
    rw [RedemptionDb.CodeSpent, RedeemCall.redeemed_redemptions]
    by_cases hqr : q.id = r.id
    · exact ⟨_, Table.mem_updateKey.2 (.inr ⟨q, hq, hqr, rfl⟩), hqr.symm.trans hid, by simp [Redemption.markUsed]⟩
    · exact ⟨q, Table.mem_updateKey.2 (.inl ⟨hq, hqr⟩), hid, hstatus⟩

theorem codeSpent_of_mem
    (h : id ∈ credits.map (·.redemptionId)) : ¬ db.CodeSpent id ∧ db'.CodeSpent id := by
  cases he with
  | refused => cases h
  | credited r hr hstatus =>
    rw [List.map_singleton, List.mem_singleton] at h
    subst h
    have hmem := List.mem_of_find?_eq_some hr
    constructor
    · rintro ⟨q, hq, hid, hne⟩
      exact hne (Table.eq_of_key db.nodup_id hq hmem hid ▸ hstatus)
    · rw [RedemptionDb.CodeSpent, RedeemCall.redeemed_redemptions]
      exact ⟨_, Table.mem_updateKey.2 (.inr ⟨r, hmem, rfl, rfl⟩), rfl, by simp [Redemption.markUsed]⟩

theorem nodup : (credits.map (·.redemptionId)).Nodup := by
  cases he <;> simp

theorem hasUsage (h : db.hasUsage k.1 k.2) : db'.hasUsage k.1 k.2 := by
  cases he with
  | refused => exact h
  | credited r =>
    unfold RedemptionDb.hasUsage at h ⊢
    rw [RedeemCall.redeemed_usages, List.any_append, h, Bool.true_or]

/-! ## Accounting -/

theorem usedQuota : db'.usedQuota userId = db.usedQuota userId + (credits.map (·.quotaFor userId)).sum := by
  cases he with
  | refused => simp
  | credited r hr hstatus =>
    have hbefore : (r.usedBy userId) = false := by simp [Redemption.usedBy, hstatus]
    rw [RedemptionDb.usedQuota, RedeemCall.redeemed_redemptions,
      Table.sum_updateKey _ db.nodup_id (List.mem_of_find?_eq_some hr), hbefore,
      show (r.markUsed c.now c.userId).usedBy userId = decide (c.userId = userId) from rfl]
    simp [RedemptionDb.usedQuota, RedemptionCredit.quotaFor, Redemption.markUsed]

theorem hasUser (h : db.store.HasUser userId) : db'.store.HasUser userId := by
  cases he with
  | refused => exact h
  | credited r => rw [RedeemCall.redeemed_store]; simpa using h

theorem wallet (h : db.store.HasUser userId) :
    db'.store.wallet userId = db.store.wallet userId + (credits.map (·.quotaFor userId)).sum := by
  cases he with
  | refused => simp
  | credited r =>
    rw [RedeemCall.redeemed_store]
    by_cases huser : c.userId = userId
    · subst huser
      simp [Store.updateQuota_wallet _ h, RedemptionCredit.quotaFor]
    · simp [Store.updateQuota_wallet_ne _ (Ne.symm huser), RedemptionCredit.quotaFor, huser]

end RedeemEffect

def batchesAt (db : RedemptionDb) (c : RedeemCall) : List (Int × String) :=
  ((redeemedAt db c).filter fun credit => credit.batchId ≠ "").map fun credit => (credit.userId, credit.batchId)

theorem hasUsage_of_batches {db : RedemptionDb} {c : RedeemCall} {k : Int × String} (h : k ∈ batchesAt db c) :
    ¬ db.hasUsage k.1 k.2 ∧ (redeemStep db c).hasUsage k.1 k.2 := by
  have he := redeem_effect db c
  unfold batchesAt at h
  generalize redeemStep db c = db', redeemedAt db c = credits at h he ⊢
  cases he with
  | refused => cases h
  | credited r hr hstatus husage =>
    by_cases hbatch : r.batchId = ""
    · simp [hbatch] at h
    · obtain rfl : k = (c.userId, r.batchId) := by simpa [hbatch] using h
      refine ⟨by simp [husage hbatch], ?_⟩
      rw [RedemptionDb.hasUsage, RedeemCall.redeemed_usages]
      simp [hbatch]

theorem batchesAt_nodup (db : RedemptionDb) (c : RedeemCall) : (batchesAt db c).Nodup := by
  have he := redeem_effect db c
  unfold batchesAt
  generalize redeemStep db c = db', redeemedAt db c = credits at he ⊢
  cases he with
  | refused => simp
  | credited r => by_cases hbatch : r.batchId = "" <;> simp [hbatch]

/-- **Redemption codes are accounted for.** In every history of calls no code is credited twice, nor one that was used
before; no user gets two codes of one batch, nor one of a batch of which there is a usage already; and the wallet of a
user has gained the quotas of the codes that are stored as used by the user since. -/
theorem redemption_accounting (db : RedemptionDb) (calls : List RedeemCall) :
    ((trace redeemStep redeemedAt db calls).map (·.redemptionId)).Nodup ∧
    (∀ r ∈ db.redemptions, r.status = .used → r.id ∉ (trace redeemStep redeemedAt db calls).map (·.redemptionId)) ∧
    (((trace redeemStep redeemedAt db calls).filter fun credit => credit.batchId ≠ "").map
      fun credit => (credit.userId, credit.batchId)).Nodup ∧
    (∀ u ∈ db.usages, (u.userId, u.batchId) ∉
      ((trace redeemStep redeemedAt db calls).filter fun credit => credit.batchId ≠ "").map
        fun credit => (credit.userId, credit.batchId)) ∧
    ∀ userId, db.store.HasUser userId →
      (run redeemStep db calls).store.wallet userId =
          db.store.wallet userId + ((trace redeemStep redeemedAt db calls).map (·.quotaFor userId)).sum ∧
        ((trace redeemStep redeemedAt db calls).map (·.quotaFor userId)).sum =
          (run redeemStep db calls).usedQuota userId - db.usedQuota userId := by
  have hany : Along redeemStep (fun _ _ => True) db calls := along_of_forall fun _ _ => trivial
  obtain ⟨hcodes, hspent⟩ := trace_once RedemptionDb.CodeSpent (fun _ c _ => (redeem_effect _ c).codeSpent)
    (fun _ c => (redeem_effect _ c).nodup) (fun _ c _ => (redeem_effect _ c).codeSpent_of_mem) db calls
  obtain ⟨hbatches, husages⟩ := trace_once (fun db (k : Int × String) => db.hasUsage k.1 k.2)
    (fun _ c _ => (redeem_effect _ c).hasUsage) batchesAt_nodup (fun _ _ _ => hasUsage_of_batches) db calls
  rw [← trace_map] at hcodes hspent
  unfold batchesAt at hbatches husages
  rw [← trace_map, ← trace_filter] at hbatches husages
  refine ⟨hcodes, fun r hr hused => hspent _ ⟨r, hr, rfl, by rw [hused]; decide⟩, hbatches,
    fun u hu => husages _ (List.any_eq_true.2 ⟨u, hu, by simp⟩), fun userId huser => ⟨?_, ?_⟩⟩
  · exact run_eq_add_sum (p := fun db : RedemptionDb => db.store.wallet userId) (fun _ c _ h => (redeem_effect _ c).hasUser h)
      (fun _ c _ h => (redeem_effect _ c).wallet h) hany huser
  · have hused := run_eq_add_sum (I := fun _ => True) (p := fun db : RedemptionDb => db.usedQuota userId)
      (fun _ _ _ _ => trivial) (fun db c _ _ => (redeem_effect db c).usedQuota) hany trivial
    omega

namespace Sample

def redemption (id : Int) (key batchId : String) (quota : Int) : Redemption where
  id := id
  key := key
  status := .enabled
  quota := quota
  redeemedTime := 0
  usedUserId := 0
  deleted := false
  expiredTime := 0
  batchId := batchId

/-- Two codes of one batch and one without, for two users. -/
def redemptionDb : RedemptionDb where
  redemptions := [redemption 1 "K1" "B" 500, redemption 2 "K2" "B" 700, redemption 3 "K3" "" 40]
  usages := []
  store := ⟨[⟨1, 100, "default"⟩, ⟨2, 100, "default"⟩], [], [], [], false, fun _ => 0, fun _ => 0⟩
  nodup_id := by decide

def redeemCalls : List RedeemCall :=
  [("K1", 1), ("K1", 2), ("K2", 1), ("K2", 2), ("K3", 1)].map fun c => ⟨c.1, c.2, 1000, fun _ => none⟩

end Sample

open Sample

/-- The first user gets one code of the batch and the code without a batch. -/
theorem redemption_accounting_sample :
    trace redeemStep redeemedAt redemptionDb redeemCalls =
      [⟨1, "B", 1, 500⟩, ⟨2, "B", 2, 700⟩, ⟨3, "", 1, 40⟩] ∧
    (run redeemStep redemptionDb redeemCalls).store.wallet 1 = 640 ∧
    (run redeemStep redemptionDb redeemCalls).usedQuota 1 = 540 ∧
    ((trace redeemStep redeemedAt redemptionDb redeemCalls).map (·.quotaFor 1)).sum =
      (run redeemStep redemptionDb redeemCalls).usedQuota 1 - redemptionDb.usedQuota 1 := by
  refine ⟨by decide +kernel, by decide +kernel, by decide +kernel, ?_⟩
  exact ((redemption_accounting redemptionDb redeemCalls).2.2.2.2 1 (by decide +kernel)).2

end SynthApi
