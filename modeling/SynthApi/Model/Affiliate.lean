import SynthApi.Lib.Interleave
import SynthApi.Model.Store
import Mathlib.Data.Fintype.Basic

/-!
# Balances of users under concurrent calls

`userStep` executes the next SQL statement of `TransferAffQuotaToQuota`, `inviteUser`, `IncreaseUserQuota` or
`DecreaseUserQuota` (`model/user.go`). The last two change the column `quota` relatively, in one statement. The first
two read the row, change the copy, and save the whole copy; the read takes no lock, since GORM v2 has no setting
`gorm:query_option`. What another call has written in between is lost (`increase_lost_in_transfer`). While no row is
written under a call that holds a copy of it, the balances are the first ones plus the deltas of all calls that succeed
(`balances_kept`).
-/

namespace SynthApi

open Lib

/-! ## Tables -/

/-- A row of `users` with the columns of the affiliate program. -/
structure UserRow extends User where
  affCount : Int
  affQuota : Int
  affHistoryQuota : Int
  deriving DecidableEq, Repr

structure AffiliateTransferRecord where
  userId : Int
  quota : Int
  affQuotaBefore : Int
  affQuotaAfter : Int
  quotaBefore : Int
  quotaAfter : Int
  createdAt : Int
  deriving DecidableEq, Repr

/-- The committed tables, the users whose row is locked, and the batch-update map of quotas. -/
structure UserDb where
  users : List UserRow
  affiliateTransferRecords : List AffiliateTransferRecord
  locked : Int → Bool
  batchUpdateEnabled : Bool
  userQuotaStore : Int → Int

namespace UserDb

variable (db : UserDb)

def user (id : Int) : Option UserRow := Table.lookup (fun u => u.id) id db.users

def updateUser (id : Int) (f : UserRow → UserRow) : UserDb :=
  { db with users := Table.updateKey (fun u => u.id) id f db.users }

/-- `Save` of a copy of a row: all columns. -/
def save (u : UserRow) : UserDb := db.updateUser u.id fun _ => u

def addQuota (id delta : Int) : UserDb := db.updateUser id fun u => { u with quota := u.quota + delta }

def addNewRecord (id value : Int) : UserDb :=
  { db with userQuotaStore := Function.update db.userQuotaStore id (db.userQuotaStore id + value) }

def setLock (id : Int) (value : Bool) : UserDb := { db with locked := Function.update db.locked id value }

/-- The balance of the user, with what the batch-update map holds for it. -/
def quota (id : Int) : Int := ((db.user id).map (·.quota)).getD 0 + db.userQuotaStore id

def affQuota (id : Int) : Int := ((db.user id).map (·.affQuota)).getD 0

end UserDb

/-! ## Calls -/

/-- A call; `inviteUser` reads `QuotaForInviter` from the settings. -/
inductive UserCall where
  | transferAffQuotaToQuota (userId quota : Int)
  | inviteUser (inviterId quotaForInviter : Int)
  | increaseUserQuota (id quota : Int) (db : Bool)
  | decreaseUserQuota (id quota : Int) (db : Bool)
  deriving DecidableEq, Repr

/-- Where a call stands. `u` is the copy of the row that was read. -/
inductive UserPlace where
  | start (call : UserCall)
  | transferSave (u : UserRow) (quota : Int) (record : AffiliateTransferRecord)
  /-- The copy is saved in the transaction, which has the lock of the row. -/
  | transferCreate (u : UserRow) (quota : Int) (record : AffiliateTransferRecord)
  | transferCommit (u : UserRow) (quota : Int) (record : AffiliateTransferRecord)
  | inviteSave (u : UserRow) (quotaForInviter : Int)
  | done (call : UserCall) (result : Except String (Option AffiliateTransferRecord))
  deriving DecidableEq

/-- What lets a call go on: its next statement is executed, or fails with the error. -/
structure UserInput where
  now : Int
  fault : Option String

/-- The changes of the copy in `TransferAffQuotaToQuota`. -/
def UserRow.transfer (quota : Int) (u : UserRow) : UserRow :=
  { u with affQuota := u.affQuota - quota, quota := u.quota + quota }

/-- The changes of the copy in `inviteUser`. -/
def UserRow.invite (quotaForInviter : Int) (u : UserRow) : UserRow :=
  { u with
    affCount := u.affCount + 1
    affQuota := u.affQuota + quotaForInviter
    affHistoryQuota := u.affHistoryQuota + quotaForInviter }

def transferRecord (now quota : Int) (u : UserRow) : AffiliateTransferRecord where
  userId := u.id
  quota := quota
  affQuotaBefore := u.affQuota
  affQuotaAfter := u.affQuota - quota
  quotaBefore := u.quota
  quotaAfter := u.quota + quota
  createdAt := now

def transferRead (userId quota : Int) (i : UserInput) (db : UserDb) : UserPlace :=
  let fails err := .done (.transferAffQuotaToQuota userId quota) (.error err)
  if quota ≤ 0 then fails "转移额度必须大于 0！"
  else
    match i.fault, db.user userId with
    | some err, _ => fails err
    | none, none => fails "record not found"
    | none, some u => if u.affQuota < quota then fails "邀请额度不足！" else .transferSave u quota (transferRecord i.now quota u)

def inviteRead (inviterId quotaForInviter : Int) (i : UserInput) (db : UserDb) : UserPlace :=
  let fails err := .done (.inviteUser inviterId quotaForInviter) (.error err)
  if inviterId = 0 then fails "id 为空！"
  else
    match i.fault, db.user inviterId with
    | some err, _ => fails err
    | none, none => fails "record not found"
    | none, some u => .inviteSave u quotaForInviter

/-- `IncreaseUserQuota` and `DecreaseUserQuota`: the UPDATE, or the entry in the batch-update map. -/
def quotaStep (call : UserCall) (id quota delta : Int) (toDb : Bool) (i : UserInput) (db : UserDb) : UserPlace × UserDb :=
  if quota < 0 then (.done call (.error "quota 不能为负数！"), db)
  else if !toDb && db.batchUpdateEnabled then (.done call (.ok none), db.addNewRecord id delta)
  else
    match i.fault with
    | some err => (.done call (.error err), db)
    | none => if db.locked id then (.start call, db) else (.done call (.ok none), db.addQuota id delta)

/-- **The next statement of a call.** -/
def userStep : UserPlace → UserInput → UserDb → UserPlace × UserDb
  | .start (.transferAffQuotaToQuota userId quota), i, db => (transferRead userId quota i db, db)
  | .start (.inviteUser inviterId quotaForInviter), i, db => (inviteRead inviterId quotaForInviter i db, db)
  | .start (.increaseUserQuota id quota toDb), i, db =>
    quotaStep (.increaseUserQuota id quota toDb) id quota quota toDb i db
  | .start (.decreaseUserQuota id quota toDb), i, db =>
    quotaStep (.decreaseUserQuota id quota toDb) id quota (-quota) toDb i db
  | .transferSave u quota record, i, db =>
    match i.fault with
    | some err => (.done (.transferAffQuotaToQuota u.id quota) (.error err), db)
    | none =>
      if db.locked u.id then (.transferSave u quota record, db) else (.transferCreate u quota record, db.setLock u.id true)
  | .transferCreate u quota record, i, db =>
    match i.fault with
    | some err => (.done (.transferAffQuotaToQuota u.id quota) (.error err), db.setLock u.id false)
    | none => (.transferCommit u quota record, db)
  | .transferCommit u quota record, i, db =>
    match i.fault with
    | some err => (.done (.transferAffQuotaToQuota u.id quota) (.error err), db.setLock u.id false)
    | none =>
      let db' := (db.save (u.transfer quota)).setLock u.id false
      (.done (.transferAffQuotaToQuota u.id quota) (.ok (some record)),
        { db' with affiliateTransferRecords := db'.affiliateTransferRecords ++ [record] })
  | .inviteSave u quotaForInviter, i, db =>
    match i.fault with
    | some err => (.done (.inviteUser u.id quotaForInviter) (.error err), db)
    | none =>
      if db.locked u.id then (.inviteSave u quotaForInviter, db)
      else (.done (.inviteUser u.id quotaForInviter) (.ok none), db.save (u.invite quotaForInviter))
  | .done call result, _, db => (.done call result, db)

/-! ## Deltas -/

namespace UserCall

def quotaDelta (id : Int) : UserCall → Int
  | transferAffQuotaToQuota userId quota => if userId = id then quota else 0
  | inviteUser _ _ => 0
  | increaseUserQuota id' quota _ => if id' = id then quota else 0
  | decreaseUserQuota id' quota _ => if id' = id then -quota else 0

def affDelta (id : Int) : UserCall → Int
  | transferAffQuotaToQuota userId quota => if userId = id then -quota else 0
  | inviteUser inviterId quotaForInviter => if inviterId = id then quotaForInviter else 0
  | increaseUserQuota _ _ _ | decreaseUserQuota _ _ _ => 0

end UserCall

def endsWell : UserPlace → UserPlace → List UserCall
  | .done _ _, _ => []
  | _, .done call (.ok _) => [call]
  | _, _ => []

def succeededAt {ι : Type*} (c : Sys ι UserDb UserPlace) (a : ι × UserInput) : List UserCall :=
  endsWell (c.procs a.1) (userStep (c.procs a.1) a.2 c.shared).1

/-! ## Copies -/

namespace UserPlace

def copy : UserPlace → Option UserRow
  | transferSave u _ _ | transferCreate u _ _ | transferCommit u _ _ | inviteSave u _ => some u
  | _ => none

def holds (id : Int) (place : UserPlace) : Bool := place.copy.any fun u => u.id = id

def writes (id : Int) (place : UserPlace) (i : UserInput) (db : UserDb) : Bool :=
  i.fault.isNone &&
    match place with
    | start (.increaseUserQuota id' _ toDb) | start (.decreaseUserQuota id' _ toDb) =>
      decide (id' = id) && (toDb || !db.batchUpdateEnabled) && !db.locked id
    | transferCommit u _ _ => decide (u.id = id)
    | inviteSave u _ => decide (u.id = id) && !db.locked id
    | _ => false

end UserPlace

/-- The row is not written while another call holds a copy of it. -/
def RowUndisturbed {ι : Type*} (id : Int) (c : Sys ι UserDb UserPlace) (a : ι × UserInput) : Prop :=
  (c.procs a.1).writes id a.2 c.shared = true → ∀ j, j ≠ a.1 → (c.procs j).holds id = false

instance {ι : Type*} [Fintype ι] [DecidableEq ι] (id : Int) (c : Sys ι UserDb UserPlace) (a : ι × UserInput) :
    Decidable (RowUndisturbed id c a) := inferInstanceAs (Decidable (_ → _))

/-- A copy of the row that the call holds is the row. -/
def UserPlace.Fresh (id : Int) (place : UserPlace) (db : UserDb) : Prop :=
  ∀ u, place.copy = some u → u.id = id → db.user id = some u

/-! ## One statement -/

section Step

variable {id : Int} {place place' : UserPlace} {i : UserInput} {db db' : UserDb} {u : UserRow}

theorem UserDb.user_id (h : db.user id = some u) : u.id = id := by
  have hkey := Table.key_of_lookup h
  exact hkey

variable {f : UserRow → UserRow}

theorem UserDb.quota_addNewRecord (k delta : Int) :
    (db.addNewRecord k delta).quota id = db.quota id + if k = id then delta else 0 := by
  have huser : (db.addNewRecord k delta).user id = db.user id := rfl
  rw [quota, huser, quota, addNewRecord]
  by_cases hk : k = id
  · subst hk
    simp only [Function.update_self, if_true]
    omega
  · simp [hk, Function.update_of_ne (Ne.symm hk)]

structure UserStepOk (id : Int) (place : UserPlace) (i : UserInput) (db : UserDb) (place' : UserPlace) (db' : UserDb) :
    Prop where
  fresh : place'.Fresh id db'
  hasRow : (db'.user id).isSome
  frame : place.writes id i db = false → db'.user id = db.user id
  quota_eq : db'.quota id = db.quota id + ((endsWell place place').map (·.quotaDelta id)).sum
  affQuota_eq : db'.affQuota id = db.affQuota id + ((endsWell place place').map (·.affDelta id)).sum

/-- A statement that leaves the rows and the map alone, and does not end the call with success. -/
theorem UserStepOk.same (hrow : (db.user id).isSome) (husers : db'.users = db.users)
    (hstore : db'.userQuotaStore = db.userQuotaStore) (hends : endsWell place place' = [])
    (hfresh : place'.Fresh id db) : UserStepOk id place i db place' db' := by
  have huser : db'.user id = db.user id := by rw [UserDb.user, husers, UserDb.user]
  refine ⟨fun u hu hid => ?_, ?_, fun _ => huser, ?_, ?_⟩
  · rw [huser]
    exact hfresh u hu hid
  · rw [huser]
    exact hrow
  · rw [UserDb.quota, UserDb.quota, huser, hstore, hends]
    simp
  · rw [UserDb.affQuota, UserDb.affQuota, huser, hends]
    simp

variable {call : UserCall} {k quota : Int}

variable (hrow : (db.user id).isSome)

include hrow

theorem UserStepOk.fails {err : String} (husers : db'.users = db.users)
    (hstore : db'.userQuotaStore = db.userQuotaStore) : UserStepOk id place i db (.done call (.error err)) db' :=
  .same hrow husers hstore (by cases place <;> rfl) nofun

/-- A statement that rewrites the row `k` and ends the call with success. The new row has the deltas of the call more
than the row that is stored, if `k` is the user. -/
theorem UserStepOk.change
    {result : Option AffiliateTransferRecord} (hf : ∀ u : UserRow, u.id = k → (f u).id = k)
    (husers : db'.users = (db.updateUser k f).users) (hstore : db'.userQuotaStore = db.userQuotaStore)
    (hends : endsWell place (.done call (.ok result)) = [call]) (hwrites : k = id → place.writes id i db)
    (hself : k = id → ∀ u, db.user id = some u →
      (f u).quota = u.quota + call.quotaDelta id ∧ (f u).affQuota = u.affQuota + call.affDelta id)
    (hother : k ≠ id → call.quotaDelta id = 0 ∧ call.affDelta id = 0) :
    UserStepOk id place i db (.done call (.ok result)) db' := by
  have huser : db'.user id = (db.updateUser k f).user id := by rw [UserDb.user, husers, UserDb.user]
  obtain ⟨u, hu⟩ := Option.isSome_iff_exists.1 hrow
  by_cases hk : k = id
  · subst hk
    replace huser : db'.user k = (db.user k).map f := huser.trans (Table.lookup_updateKey hf)
    rw [hu] at huser
    obtain ⟨hq, ha⟩ := hself rfl u hu
    refine ⟨fun _ h => (by cases h), by simp [huser], fun hno => ?_, ?_, ?_⟩
    · rw [hwrites rfl] at hno
      cases hno
    · simp only [UserDb.quota, huser, hu, hstore, hends, Option.map_some, Option.getD_some, List.map_cons,
        List.map_nil, List.sum_cons, List.sum_nil]
      omega
    · simp [UserDb.affQuota, huser, hu, hends, ha]
  · replace huser : db'.user id = db.user id := huser.trans (Table.lookup_updateKey_ne hf (Ne.symm hk))
    obtain ⟨hq, ha⟩ := hother hk
    refine ⟨fun _ h => (by cases h), by simp [huser, hu], fun _ => huser, ?_, ?_⟩
    · simp [UserDb.quota, huser, hstore, hends, hq]
    · simp [UserDb.affQuota, huser, hends, ha]

theorem quotaStep_ok {delta : Int} {toDb : Bool}
    (hwrites : ∀ {db : UserDb}, (toDb || !db.batchUpdateEnabled) → db.locked k = false → k = id → i.fault = none →
      (UserPlace.start call).writes id i db)
    (hquota : call.quotaDelta id = if k = id then delta else 0) (haff : call.affDelta id = 0) :
    UserStepOk id (.start call) i db (quotaStep call k quota delta toDb i db).1
      (quotaStep call k quota delta toDb i db).2 := by
  unfold quotaStep
  split
  · exact .fails hrow rfl rfl
  · split
    · -- the map has the delta
      refine ⟨fun _ h => (by cases h), hrow, fun _ => rfl, ?_, ?_⟩
      · rw [UserDb.quota_addNewRecord]
        simp [endsWell, hquota]
      · simp [endsWell, haff, UserDb.affQuota, UserDb.user, UserDb.addNewRecord]
    · cases hfault : i.fault with
      | some err => exact .fails hrow rfl rfl
      | none =>
        dsimp only
        split
        · exact .same hrow rfl rfl rfl fun _ h => by cases h
        · refine .change (f := fun u => { u with quota := u.quota + delta }) hrow (fun _ h => h) rfl rfl rfl (fun hk => ?_)
            (fun hk u _ => ?_) fun hk => ?_
          · cases toDb <;> simp_all
          · simp [hquota, haff, hk]
          · simp [hquota, haff, hk]

omit hrow

theorem fresh_of_read (hread : db.user k = some u) (hcopy : place.copy = some u) : place.Fresh id db := by
  intro u' hu' hid
  rw [hcopy] at hu'
  cases hu'
  rw [← hid, UserDb.user_id hread]
  exact hread

variable (hrow : (db.user id).isSome)

include hrow

theorem transferCommit_ok {record : AffiliateTransferRecord}
    (h : (UserPlace.transferCommit u quota record).Fresh id db) :
    UserStepOk id (.transferCommit u quota record) i db (userStep (.transferCommit u quota record) i db).1
      (userStep (.transferCommit u quota record) i db).2 := by
  simp only [userStep]
  cases hfault : i.fault with
  | some err => exact .fails hrow rfl rfl
  | none =>
    refine .change (k := u.id) (f := fun _ => u.transfer quota) hrow (fun _ _ => rfl) rfl rfl rfl (fun hk => ?_)
      (fun hk u' hu' => ?_) fun hk => ?_
    · simp [UserPlace.writes, hfault, hk]
    · -- the copy is the row
      rw [h u rfl hk] at hu'
      cases hu'
      simp only [UserRow.transfer, UserCall.quotaDelta, UserCall.affDelta]
      omega
    · simp [UserCall.quotaDelta, UserCall.affDelta, hk]

theorem inviteSave_ok {quotaForInviter : Int}
    (h : (UserPlace.inviteSave u quotaForInviter).Fresh id db) :
    UserStepOk id (.inviteSave u quotaForInviter) i db (userStep (.inviteSave u quotaForInviter) i db).1
      (userStep (.inviteSave u quotaForInviter) i db).2 := by
  simp only [userStep]
  cases hfault : i.fault with
  | some err => exact .fails hrow rfl rfl
  | none =>
    dsimp only
    split
    · exact .same hrow rfl rfl rfl h
    · rename_i hfree
      refine .change (k := u.id) (f := fun _ => u.invite quotaForInviter) hrow (fun _ _ => rfl) rfl rfl rfl (fun hk => ?_)
        (fun hk u' hu' => ?_) fun hk => ?_
      · subst hk
        simpa [UserPlace.writes, hfault] using hfree
      · rw [h u rfl hk] at hu'
        cases hu'
        simp [UserRow.invite, UserCall.quotaDelta, UserCall.affDelta, hk]
      · simp [UserCall.quotaDelta, UserCall.affDelta, hk]

/-- **One statement of a call.** -/
theorem userStep_ok (h : place.Fresh id db) :
    UserStepOk id place i db (userStep place i db).1 (userStep place i db).2 := by
  cases place with
  | start call =>
    cases call with
    | transferAffQuotaToQuota userId quota =>
      simp only [userStep, transferRead]
      split
      · exact .fails hrow rfl rfl
      · split
        · exact .fails hrow rfl rfl
        · exact .fails hrow rfl rfl
        · rename_i u _ hread
          split
          · exact .fails hrow rfl rfl
          · exact .same hrow rfl rfl rfl (fresh_of_read hread rfl)
    | inviteUser inviterId quotaForInviter =>
      simp only [userStep, inviteRead]
      split
      · exact .fails hrow rfl rfl
      · split
        · exact .fails hrow rfl rfl
        · exact .fails hrow rfl rfl
        · rename_i u _ hread
          exact .same hrow rfl rfl rfl (fresh_of_read hread rfl)
    | increaseUserQuota k quota toDb | decreaseUserQuota k quota toDb =>
      refine quotaStep_ok hrow (fun hdirect hfree hk hfault => ?_) rfl rfl
      subst hk
      simp [UserPlace.writes, hdirect, hfree, hfault]
  | transferSave u quota record =>
    simp only [userStep]
    cases i.fault with
    | some err => exact .fails hrow rfl rfl
    | none =>
      dsimp only
      split <;> exact .same hrow rfl rfl rfl h
  | transferCreate u quota record =>
    simp only [userStep]
    cases i.fault with
    | some err => exact .fails hrow rfl rfl
    | none => exact .same hrow rfl rfl rfl h
  | transferCommit u quota record => exact transferCommit_ok hrow h
  | inviteSave u quotaForInviter => exact inviteSave_ok hrow h
  | done call result => exact .same hrow rfl rfl rfl h

end Step

/-! ## The calls together -/

section Calls

variable {ι : Type*} [DecidableEq ι] {id : Int} {c : Sys ι UserDb UserPlace} {a : ι × UserInput}

/-- The user has a row, and every copy of it that a call holds is the row. -/
def CopiesFresh (id : Int) (c : Sys ι UserDb UserPlace) : Prop :=
  (c.shared.user id).isSome ∧ c.Asserts fun _ place db => place.Fresh id db

/-- **One statement of one call, among all others.** -/
theorem copiesFresh_step (hc : RowUndisturbed id c a) (h : CopiesFresh id c) : CopiesFresh id (c.step userStep a) := by
  have hstep : UserStepOk id (c.procs a.1) a.2 c.shared _ _ := userStep_ok h.1 (h.2 a.1)
  refine ⟨hstep.hasRow, Sys.step_asserts hstep.fresh fun j hj u hu hid => ?_⟩
  cases hwrites : (c.procs a.1).writes id a.2 c.shared with
  | true =>
    have hholds : (c.procs j).holds id := by simp [UserPlace.holds, hu, hid]
    rw [hc hwrites j hj] at hholds
    cases hholds
  | false =>
    rw [hstep.frame hwrites]
    exact h.2 j u hu hid

end Calls

/-- **No update of a balance is lost while nobody writes a row under a copy.** For any number of calls, on any users,
and a user who has a row: in every interleaving in which the row is written only while no other call holds a copy of it,
the quota and the affiliate quota of the user are the first ones plus the deltas of all calls that have succeeded. -/
theorem balances_kept {ι : Type*} [DecidableEq ι] (id : Int) (c : Sys ι UserDb UserPlace)
    (actions : List (ι × UserInput)) (hrow : (c.shared.user id).isSome) (hcalls : ∀ i, ∃ call, c.procs i = .start call)
    (halone : Along (Sys.step userStep) (RowUndisturbed id) c actions) :
    (run (Sys.step userStep) c actions).shared.quota id =
        c.shared.quota id + ((trace (Sys.step userStep) succeededAt c actions).map (·.quotaDelta id)).sum ∧
      (run (Sys.step userStep) c actions).shared.affQuota id =
        c.shared.affQuota id + ((trace (Sys.step userStep) succeededAt c actions).map (·.affDelta id)).sum := by
  have hinv : CopiesFresh id c := by
    refine ⟨hrow, fun i u hu => ?_⟩
    obtain ⟨call, hcall⟩ := hcalls i
    rw [hcall] at hu
    cases hu
  constructor
  · exact run_eq_add_sum (p := fun c' : Sys ι UserDb UserPlace => c'.shared.quota id)
      (fun _ _ hC hI => copiesFresh_step hC hI) (fun _ a _ hI => (userStep_ok hI.1 (hI.2 a.1)).quota_eq) halone hinv
  · exact run_eq_add_sum (p := fun c' : Sys ι UserDb UserPlace => c'.shared.affQuota id)
      (fun _ _ hC hI => copiesFresh_step hC hI) (fun _ a _ hI => (userStep_ok hI.1 (hI.2 a.1)).affQuota_eq) halone hinv

namespace Sample

/-- A user with a quota of 100 and an affiliate quota of 50, who transfers the latter while the quota grows by 30, falls
by 5, and a friend registers. -/
def userCalls : Sys (Fin 4) UserDb UserPlace where
  shared := ⟨[⟨⟨1, 100, "default"⟩, 2, 50, 80⟩], [], fun _ => false, false, fun _ => 0⟩
  procs i :=
    if i = 0 then .start (.transferAffQuotaToQuota 1 50)
    else if i = 1 then .start (.increaseUserQuota 1 30 true)
    else if i = 2 then .start (.decreaseUserQuota 1 5 true)
    else .start (.inviteUser 1 10)

/-- The statements of the four calls in an order. -/
def userActions (calls : List (Fin 4)) : List (Fin 4 × UserInput) := calls.map fun i => (i, ⟨1000, none⟩)

end Sample

open Sample

/-- One call after the other. -/
theorem balances_kept_sample :
    (run (Sys.step userStep) userCalls (userActions [0, 0, 0, 0, 1, 2, 3, 3])).shared.quota 1 = 175 ∧
    (run (Sys.step userStep) userCalls (userActions [0, 0, 0, 0, 1, 2, 3, 3])).shared.quota 1 =
      100 + ((trace (Sys.step userStep) succeededAt userCalls
        (userActions [0, 0, 0, 0, 1, 2, 3, 3])).map (·.quotaDelta 1)).sum := by
  refine ⟨by decide +kernel, ?_⟩
  refine (balances_kept 1 userCalls (userActions [0, 0, 0, 0, 1, 2, 3, 3]) rfl (fun i => ?_)
    (by decide +kernel)).1
  match i with
  | 0 | 1 | 2 | 3 => exact ⟨_, rfl⟩

/-- **A transfer loses what is written while it holds its copy of the row.** All four calls succeed; the increase by 30,
the decrease by 5 and the reward of 10 are gone. -/
theorem increase_lost_in_transfer :
    trace (Sys.step userStep) succeededAt userCalls (userActions [0, 1, 2, 3, 3, 0, 0, 0]) =
      [.increaseUserQuota 1 30 true, .decreaseUserQuota 1 5 true, .inviteUser 1 10, .transferAffQuotaToQuota 1 50] ∧
    (run (Sys.step userStep) userCalls (userActions [0, 1, 2, 3, 3, 0, 0, 0])).shared.quota 1 = 150 ∧
    100 + ((trace (Sys.step userStep) succeededAt userCalls
      (userActions [0, 1, 2, 3, 3, 0, 0, 0])).map (·.quotaDelta 1)).sum = 175 ∧
    (run (Sys.step userStep) userCalls (userActions [0, 1, 2, 3, 3, 0, 0, 0])).shared.affQuota 1 = 0 ∧
    50 + ((trace (Sys.step userStep) succeededAt userCalls
      (userActions [0, 1, 2, 3, 3, 0, 0, 0])).map (·.affDelta 1)).sum = 10 := by
  refine ⟨?_, ?_, ?_, ?_, ?_⟩ <;> decide +kernel

end SynthApi
