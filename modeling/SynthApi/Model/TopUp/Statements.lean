import SynthApi.Model.TopUp.Basic

/-!
# Completions of top-ups, statement by statement

`topUpStep` executes the next SQL statement of a completion or of `UpdatePendingTopUpStatus`. `TopUpDb` is what is
committed. The writes of a transaction become visible at its COMMIT; from its write of the order on it has the lock of
the order's row, and other writes of the order wait. The reads take no lock: GORM v2 has no setting `gorm:query_option`.
-/

namespace SynthApi

open Lib

/-- The committed tables, and the orders (by `trade_no`, which is unique) whose row is locked. -/
structure TopUpDb where
  topUps : String → Option TopUpRow
  locked : String → Bool
  store : Store

def Store.creditUser (s : TopUpSite) (st : Store) (userId : Int) (x : ℚ) : Store :=
  { st with users := Table.updateKey User.id userId (fun u => { u with quota := s.storeQuota u.quota x }) st.users }

namespace TopUpDb

def save (db : TopUpDb) (t : TopUpRow) : TopUpDb := { db with topUps := Function.update db.topUps t.tradeNo (some t) }

def lock (db : TopUpDb) (tradeNo : String) : TopUpDb := { db with locked := Function.update db.locked tradeNo true }

def unlock (db : TopUpDb) (tradeNo : String) : TopUpDb := { db with locked := Function.update db.locked tradeNo false }

/-- The lock that a completion gives back when it ends. -/
def release (db : TopUpDb) (c : Completion) (t : TopUpRow) : TopUpDb :=
  if c.atomic then db.unlock t.tradeNo else db

/-- The write of the paid order `t`: a guarded UPDATE sets its columns in the row, a Save writes the whole copy. -/
def writePaid (db : TopUpDb) (c : Completion) (t : TopUpRow) : TopUpDb :=
  if c.guarded then
    { db with topUps := Function.update db.topUps t.tradeNo ((db.topUps t.tradeNo).map (c.mark t.completeTime)) }
  else db.save t

def credit (s : TopUpSite) (db : TopUpDb) (userId : Int) (x : ℚ) : TopUpDb :=
  { db with store := db.store.creditUser s userId x }

end TopUpDb

section Credit

variable (s : TopUpSite) {st : Store} {uid : Int}

theorem Store.lookup_creditUser (x : ℚ) : Table.lookup User.id uid (st.creditUser s uid x).users =
    (Table.lookup User.id uid st.users).map fun u => { u with quota := s.storeQuota u.quota x } :=
  Table.lookup_updateKey fun _ h => h

theorem Store.creditUser_wallet_none (h : ¬ st.HasUser uid) (x : ℚ) :
    (st.creditUser s uid x).wallet uid = st.wallet uid := by
  have hnone : Table.lookup User.id uid st.users = none := by simpa [Store.HasUser] using h
  unfold Store.wallet
  rw [Store.lookup_creditUser, hnone]
  rfl

/-- **The wallet gains what the column does.** -/
theorem Store.creditUser_wallet_some {u : User} (hu : Table.lookup User.id uid st.users = some u) (x : ℚ) :
    (st.creditUser s uid x).wallet uid = st.wallet uid + (s.storeQuota u.quota x - u.quota) := by
  have hstore : (st.creditUser s uid x).userQuotaStore = st.userQuotaStore := rfl
  unfold Store.wallet
  rw [Store.lookup_creditUser, hu, hstore]
  simp only [Option.map_some, Option.getD_some]
  omega

theorem Store.creditUser_wallet (h : st.HasUser uid) (n : Int) :
    (st.creditUser s uid n).wallet uid = st.wallet uid + n := by
  obtain ⟨u, hu⟩ := Option.isSome_iff_exists.1 h
  rw [Store.creditUser_wallet_some s hu, s.storeQuota_int]
  omega

end Credit

namespace TopUpDb

variable (db : TopUpDb) (t : TopUpRow) (c : Completion) {tradeNo : String}

@[simp] theorem save_topUps_self : (db.save t).topUps t.tradeNo = some t := by simp [save]

@[simp] theorem lock_self : (db.lock tradeNo).locked tradeNo := by simp [lock]

@[simp] theorem release_topUps : (db.release c t).topUps = db.topUps := by unfold release; split <;> rfl

@[simp] theorem release_store : (db.release c t).store = db.store := by unfold release; split <;> rfl

end TopUpDb

/-- The arguments of `UpdatePendingTopUpStatus`. -/
structure PendingUpdate where
  tradeNo : String
  expectedPaymentProvider : String
  targetStatus : OrderStatus

namespace PendingUpdate

def providerMatches (u : PendingUpdate) (t : TopUpRow) : Bool :=
  decide (u.expectedPaymentProvider = "") || decide (t.paymentProvider = u.expectedPaymentProvider)

/-- The columns that the UPDATE sets. -/
def apply (u : PendingUpdate) (now : Int) (t : TopUpRow) : TopUpRow :=
  { t with
    status := u.targetStatus
    completeTime := if u.targetStatus = .expired ∨ u.targetStatus = .failed then now else t.completeTime }

def answer (u : PendingUpdate) : Option TopUpRow → Except String Unit
  | none => .error "topup not found"
  | some t =>
    if ¬ u.providerMatches t then .error "payment method mismatch"
    else if t.status = u.targetStatus then .ok ()
    else .error "topup status invalid"

end PendingUpdate

/-- Where a call stands. -/
inductive TopUpPlace where
  /-- Next the order is read. -/
  | start (c : Completion)
  /-- The order was read and accepted; next it is written. -/
  | toSave (c : Completion) (t : TopUpRow)
  /-- The order is written as `t`; next the quota is added. -/
  | toCredit (c : Completion) (t : TopUpRow)
  /-- Next the user's low-quota notice is cleared. -/
  | toClear (c : Completion) (t : TopUpRow) (x : ℚ)
  | toCommit (c : Completion) (t : TopUpRow) (x : ℚ)
  /-- The order was not pending any more and the transaction is rolled back; next the order is read again. -/
  | conflict (c : Completion)
  /-- Next a pending order gets another status. -/
  | update (u : PendingUpdate)
  | notUpdated (u : PendingUpdate)
  | done (result : Except String Unit)

/-- What lets a call go on: its next statement is executed, or fails with the error. -/
structure TopUpInput where
  now : Int
  fault : Option String

/-- The local code after the read of the order. -/
def afterTopUpRead (c : Completion) (fault : Option String) : Option TopUpRow → TopUpPlace
  | none => .done (c.notFound fault)
  | some t =>
    match c.verdict t with
    | some answer => .done answer
    | none => .toSave c t

/-- The guarded UPDATE matches the stored order. -/
def TopUpRow.claimable (t : TopUpRow) (row : TopUpRow) : Bool :=
  decide (row.id = t.id) && decide (row.status = .pending) && decide (row.paymentProvider = "alipay_direct")

def saveStep (now : Int) (c : Completion) (t : TopUpRow) (db : TopUpDb) : TopUpPlace × TopUpDb :=
  if db.locked t.tradeNo then (.toSave c t, db)
  else if c.guarded && !(db.topUps t.tradeNo).any t.claimable then (.conflict c, db)
  else if c.atomic then (.toCredit c (c.mark now t), db.lock t.tradeNo)
  else (.toCredit c (c.mark now t), db.save (c.mark now t))

def creditStep (s : TopUpSite) (fault : Option String) (c : Completion) (t : TopUpRow) (db : TopUpDb) :
    TopUpPlace × TopUpDb :=
  match c.credit t with
  | .error err => (.done (c.fails .quota err), db.release c t)
  | .ok x =>
    match fault with
    | some err => (.done (c.fails .credit err), db.release c t)
    | none =>
      match c.userMissing, decide (db.store.HasUser t.userId) with
      | some err, false => (.done (c.fails .credit err), db.release c t)
      | _, _ => if c.atomic then (.toClear c t x, db) else (.done (.ok ()), db.credit s t.userId x)

def updateStep (now : Int) (u : PendingUpdate) (db : TopUpDb) : TopUpPlace × TopUpDb :=
  if db.locked u.tradeNo then (.update u, db)
  else
    match db.topUps u.tradeNo with
    | none => (.notUpdated u, db)
    | some t =>
      if t.status = .pending ∧ u.providerMatches t then (.done (.ok ()), db.save (u.apply now t)) else (.notUpdated u, db)

/-- **The next statement of a call.** -/
def topUpStep (s : TopUpSite) : TopUpPlace → TopUpInput → TopUpDb → TopUpPlace × TopUpDb
  | .start c, i, db =>
    match c.refused with
    | some err => (.done (.error err), db)
    | none => (afterTopUpRead c i.fault (if i.fault.isSome then none else db.topUps c.tradeNo), db)
  | .toSave c t, i, db =>
    match i.fault with
    | some err => (.done (c.fails .save err), db)
    | none => saveStep i.now c t db
  | .toCredit c t, i, db => creditStep s i.fault c t db
  | .toClear c t x, i, db =>
    match i.fault with
    | some err => (.done (c.fails .clear err), db.release c t)
    | none =>
      if 0 < t.userId ∧ ¬ db.store.HasUser t.userId then (.done (c.fails .clear "record not found"), db.release c t)
      else (.toCommit c t x, db)
  | .toCommit c t x, i, db =>
    match i.fault with
    | some err => (.done (c.fails .commit err), db.release c t)
    | none => (.done (.ok ()), ((db.writePaid c t).credit s t.userId x).release c t)
  | .conflict c, i, db => (.done (c.conflict (if i.fault.isSome then none else db.topUps c.tradeNo)), db)
  | .update u, i, db =>
    if u.tradeNo = "" then (.done (.error "未提供支付单号"), db)
    else
      match i.fault with
      | some err => (.done (.error err), db)
      | none => updateStep i.now u db
  | .notUpdated u, i, db => (.done (u.answer (if i.fault.isSome then none else db.topUps u.tradeNo)), db)
  | .done result, _, db => (.done result, db)

/-! ## What a statement can do -/

/-- What a statement adds to the wallets: users and quotas. -/
def topUpCredits : TopUpPlace → TopUpInput → TopUpDb → List (Int × ℚ)
  | .toCredit c t, i, db =>
    match c.credit t, i.fault with
    | .ok x, none =>
      if c.atomic = true ∨ c.userMissing.isSome ∧ ¬ db.store.HasUser t.userId then [] else [(t.userId, x)]
    | _, _ => []
  | .toCommit _ t x, i, _ => if i.fault.isSome then [] else [(t.userId, x)]
  | _, _, _ => []

/-- The call has claimed the order. -/
def TopUpPlace.claims : TopUpPlace → Bool
  | .toCredit _ _ | .toClear _ _ _ | .toCommit _ _ _ => true
  | _ => false

/-- **What a statement can do**: where the call stands then, the tables, and what it adds to the wallets. -/
inductive TopUpEffect (s : TopUpSite) (db : TopUpDb) : TopUpPlace → TopUpPlace → TopUpDb → List (Int × ℚ) → Prop
  | ends (place : TopUpPlace) (result : Except String Unit) : TopUpEffect s db place (.done result) db []
  | waits (place : TopUpPlace) (hout : place.claims = false) : TopUpEffect s db place place db []
  | reads (c : Completion) (t : TopUpRow) (hfound : db.topUps c.tradeNo = some t) (hverdict : c.verdict t = none) :
      TopUpEffect s db (.start c) (.toSave c t) db []
  | conflicts (c : Completion) (t : TopUpRow) (hguarded : c.guarded = true) :
      TopUpEffect s db (.toSave c t) (.conflict c) db []
  | saves (c : Completion) (t : TopUpRow) (now : Int) (hfree : db.locked t.tradeNo = false)
      (hclaim : c.guarded = true → (db.topUps t.tradeNo).any t.claimable = true) :
      TopUpEffect s db (.toSave c t) (.toCredit c (c.mark now t))
        (if c.atomic then db.lock t.tradeNo else db.save (c.mark now t)) []
  | rollsBack (place : TopUpPlace) (hin : place.claims = true) (c : Completion) (t : TopUpRow)
      (result : Except String Unit) : TopUpEffect s db place (.done result) (db.release c t) []
  | computes (c : Completion) (t : TopUpRow) (x : ℚ) (hcredit : c.credit t = .ok x) (hatomic : c.atomic = true)
      (huser : c.userMissing.isSome = true → db.store.HasUser t.userId) :
      TopUpEffect s db (.toCredit c t) (.toClear c t x) db []
  | credits (c : Completion) (t : TopUpRow) (x : ℚ) (hatomic : c.atomic = false) :
      TopUpEffect s db (.toCredit c t) (.done (.ok ())) (db.credit s t.userId x) [(t.userId, x)]
  | clears (c : Completion) (t : TopUpRow) (x : ℚ) : TopUpEffect s db (.toClear c t x) (.toCommit c t x) db []
  | commits (c : Completion) (t : TopUpRow) (x : ℚ) :
      TopUpEffect s db (.toCommit c t x) (.done (.ok ())) (((db.writePaid c t).credit s t.userId x).release c t)
        [(t.userId, x)]
  | updates (u : PendingUpdate) (t : TopUpRow) (now : Int) (hfree : db.locked u.tradeNo = false)
      (hfound : db.topUps u.tradeNo = some t) (hpending : t.status = .pending) :
      TopUpEffect s db (.update u) (.done (.ok ())) (db.save (u.apply now t)) []
  | skips (u : PendingUpdate) : TopUpEffect s db (.update u) (.notUpdated u) db []

section Effect

variable (s : TopUpSite) (i : TopUpInput) (db : TopUpDb)

theorem saveStep_effect (c : Completion) (t : TopUpRow) :
    TopUpEffect s db (.toSave c t) (saveStep i.now c t db).1 (saveStep i.now c t db).2 [] := by
  unfold saveStep
  by_cases hlocked : db.locked t.tradeNo
  · rw [if_pos hlocked]
    exact .waits _ rfl
  · rw [if_neg hlocked]
    by_cases hclaim : (c.guarded && !(db.topUps t.tradeNo).any t.claimable)
    · rw [if_pos hclaim]
      exact .conflicts c t (Bool.and_eq_true_iff.1 hclaim).1
    · rw [if_neg hclaim]
      have hsaves := TopUpEffect.saves (s := s) c t i.now (by simpa using hlocked) (by simpa using hclaim)
      cases hatomic : c.atomic with
      | true | false => simpa [hatomic] using hsaves

theorem creditStep_effect (c : Completion) (t : TopUpRow) :
    TopUpEffect s db (.toCredit c t) (creditStep s i.fault c t db).1 (creditStep s i.fault c t db).2
      (topUpCredits (.toCredit c t) i db) := by
  simp only [creditStep, topUpCredits]
  cases hcredit : c.credit t with
  | error => exact .rollsBack _ rfl c t _
  | ok x =>
    cases i.fault with
    | some => exact .rollsBack _ rfl c t _
    | none =>
      have hgoes : (c.userMissing.isSome → db.store.HasUser t.userId) →
          TopUpEffect s db (.toCredit c t) (if c.atomic then .toClear c t x else .done (.ok ()))
            (if c.atomic then db else db.credit s t.userId x) (if c.atomic then [] else [(t.userId, x)]) := by
        intro huser
        cases hatomic : c.atomic with
        | true => exact .computes c t x hcredit hatomic huser
        | false => exact .credits c t x hatomic
      cases hmissing : c.userMissing with
      | none => cases hatomic : c.atomic <;> simpa [hmissing, hatomic] using hgoes
      | some err =>
        by_cases huser : db.store.HasUser t.userId
        · cases hatomic : c.atomic <;> simpa [huser, hatomic] using hgoes
        · simpa [huser] using TopUpEffect.rollsBack _ rfl c t _

theorem updateStep_effect (u : PendingUpdate) :
    TopUpEffect s db (.update u) (updateStep i.now u db).1 (updateStep i.now u db).2 [] := by
  unfold updateStep
  split
  · exact .waits _ rfl
  · next hfree =>
    split
    · exact .skips u
    · next t ht =>
      split
      · next hcond => exact .updates u t i.now (by simpa using hfree) ht hcond.1
      · exact .skips u

theorem topUpStep_effect (place : TopUpPlace) :
    TopUpEffect s db place (topUpStep s place i db).1 (topUpStep s place i db).2 (topUpCredits place i db) := by
  cases place with
  | start c =>
    simp only [topUpStep]
    split
    · exact .ends _ _
    · unfold afterTopUpRead
      split
      · exact .ends _ _
      · next t ht =>
        split
        · exact .ends _ _
        · next hverdict =>
          refine .reads c t ?_ hverdict
          split at ht
          · cases ht
          · exact ht
  | toSave c t =>
    simp only [topUpStep]
    split
    · exact .ends _ _
    · exact saveStep_effect s i db c t
  | toCredit c t => exact creditStep_effect s i db c t
  | toClear c t x =>
    simp only [topUpStep]
    split
    · exact .rollsBack _ rfl c t _
    · split
      · exact .rollsBack _ rfl c t _
      · exact .clears c t x
  | toCommit c t x =>
    simp only [topUpStep, topUpCredits]
    cases i.fault with
    | some err => exact .rollsBack _ rfl c t _
    | none => exact .commits c t x
  | update u =>
    simp only [topUpStep]
    split
    · exact .ends _ _
    · split
      · exact .ends _ _
      · exact updateStep_effect s i db u
  | conflict | notUpdated | done => exact .ends _ _

end Effect

namespace Sample

/-- A deployment that shows raw quota. -/
def topUpSite : TopUpSite where
  setting := ⟨.tokens, 1, 7, 500000⟩
  codec := ⟨fun _ => none, fun text => if text = "10.00" then some 10 else none⟩
  amountMismatch _ _ := "amount mismatch"
  storeQuota quota x := quota + ⌊x⌋
  storeQuota_int quota n := by rw [Int.floor_intCast]

/-- A pending order of the sample user over 500 quota. -/
def topUpRow (provider : String) : TopUpRow where
  userId := 1
  amount := 500
  money := 10
  tradeNo := "A"
  providerTradeNo := ""
  currency := "CNY"
  paymentMethod := ""
  paymentProvider := provider
  paymentProfile := ""
  createTime := 900
  completeTime := 0
  status := .pending
  id := 3
  promotionQuota := 0

def topUpDb (t : TopUpRow) : TopUpDb where
  topUps tradeNo := if tradeNo = t.tradeNo then some t else none
  locked _ := false
  store := ⟨[⟨1, 100, "default"⟩], [], [], [], false, fun _ => 0, fun _ => 0⟩

end Sample

end SynthApi
