import SynthApi.Lib.Counter
import SynthApi.Lib.Run
import SynthApi.Model.Quota
import Mathlib.Algebra.Group.Prod
import Mathlib.Data.List.Dedup

/-!
# Batch updates

With batch updates enabled, changes of quotas and counters wait in maps of the process, one for each type
(`addNewRecord`), and `batchUpdate` writes them from time to time (`model/utils.go`, with the updates of `model/user.go`,
`model/token.go` and `model/channel.go`). `BatchState.settled` is the database with everything that waits. An update has
the same effect on it as the direct update has on the database (`QuotaUpdate.settled_apply`), and a flush makes it true
(`batchUpdate_db`): however the flushes are placed, after the last one the database is as if every update had been written
directly (`batch_refines_direct`).
-/

namespace SynthApi

open Lib Counter Table List Counter

/-! ## Rows -/

structure UserCounters extends User where
  usedQuota : Int
  requestCount : Int
  deriving DecidableEq, Repr

structure ChannelCounter where
  id : Int
  usedQuota : Int
  deriving DecidableEq, Repr

structure QuotaDb where
  users : List UserCounters
  tokens : List Token
  channels : List ChannelCounter
  deriving DecidableEq, Repr

def UserCounters.add (d : Int × Int × Int) (u : UserCounters) : UserCounters :=
  { u with quota := u.quota + d.1, usedQuota := u.usedQuota + d.2.1, requestCount := u.requestCount + d.2.2 }

def ChannelCounter.add (d : Int) (c : ChannelCounter) : ChannelCounter := { c with usedQuota := c.usedQuota + d }

namespace QuotaDb

variable (db : QuotaDb) (id : Int) (quota : Int)

def addUser (usedQuota requestCount : Int) : QuotaDb :=
  { db with
    users := Table.updateKey (fun u => u.id) id (UserCounters.add (quota, usedQuota, requestCount)) db.users }

def addToken : QuotaDb :=
  { db with tokens := Table.updateKey Token.id id (Token.addQuota quota) db.tokens }

def addChannel : QuotaDb :=
  { db with channels := Table.updateKey ChannelCounter.id id (ChannelCounter.add quota) db.channels }

end QuotaDb

theorem userCounters_action : IsAction (fun u : UserCounters => u.id) UserCounters.add where
  zero u := by simp [UserCounters.add]
  add a b u := by simp [UserCounters.add, Int.add_assoc]
  key_act _ _ := rfl

theorem token_action : IsAction Token.id Token.addQuota where
  zero t := by simp [Token.addQuota]
  add a b t := by
    simp only [Token.addQuota]
    congr 1 <;> omega
  key_act _ _ := rfl

theorem channelCounter_action : IsAction ChannelCounter.id ChannelCounter.add where
  zero c := by simp [ChannelCounter.add]
  add a b c := by simp [ChannelCounter.add, Int.add_assoc]
  key_act _ _ := rfl

/-! ## The maps -/

inductive BatchUpdateType where
  | userQuota
  | tokenQuota
  | usedQuota
  | channelUsedQuota
  | requestCount
  deriving DecidableEq, Repr

/-- The database and the maps `batchUpdateStores`. -/
structure BatchState where
  db : QuotaDb
  stores : BatchUpdateType → Counter.Pending Int Int

def addNewRecord (type : BatchUpdateType) (id value : Int) (st : BatchState) : BatchState :=
  { st with stores := Function.update st.stores type (add (st.stores type) id value) }

structure RangeOrder where
  keys : List Int → List Int
  perm : ∀ ks, (keys ks).Perm ks

def updateUserQuotaUsedQuotaAndRequestCount (id quota usedQuota requestCount : Int) (db : QuotaDb) : QuotaDb :=
  if quota = 0 ∧ usedQuota = 0 ∧ requestCount = 0 then db else db.addUser id quota usedQuota requestCount

def BatchState.hasData (st : BatchState) : Bool :=
  [.userQuota, .tokenQuota, .usedQuota, .channelUsedQuota, .requestCount].any fun type => (st.stores type).keys ≠ []

def batchUpdate (range : RangeOrder) (st : BatchState) : BatchState :=
  if ¬ st.hasData then st
  else
    let value type := get (st.stores type)
    let keys type := (st.stores type).keys
    let db := (range.keys (keys .tokenQuota)).foldl (fun db id => db.addToken id (value .tokenQuota id)) st.db
    let db := (range.keys (keys .channelUsedQuota)).foldl
      (fun db id => db.addChannel id (value .channelUsedQuota id)) db
    let userIDs := (keys .userQuota ++ keys .usedQuota ++ keys .requestCount).dedup
    let db := (range.keys userIDs).foldl (fun db id => updateUserQuotaUsedQuotaAndRequestCount id
      (value .userQuota id) (value .usedQuota id) (value .requestCount id) db) db
    ⟨db, fun _ => ∅⟩

/-! ## Updates -/

inductive QuotaUpdate where
  /-- With `db` the change is written at once in both modes. -/
  | increaseUserQuota (id quota : Int) (db : Bool)
  | decreaseUserQuota (id quota : Int) (db : Bool)
  | increaseTokenQuota (id quota : Int)
  | decreaseTokenQuota (id quota : Int)
  | updateUserUsedQuotaAndRequestCount (id quota : Int)
  | updateChannelUsedQuota (id quota : Int)
  deriving DecidableEq, Repr

/-- An amount that is refused if it is negative. -/
def nonnegative (quota : Int) (change : BatchState → BatchState) (st : BatchState) : Except String Unit × BatchState :=
  if quota < 0 then (.error "quota 不能为负数！", st) else (.ok (), change st)

def addOrWrite (wait : Bool) (record : BatchState → BatchState) (write : QuotaDb → QuotaDb) (st : BatchState) : BatchState :=
  if wait then record st else { st with db := write st.db }

def QuotaUpdate.apply (enabled : Bool) : QuotaUpdate → BatchState → Except String Unit × BatchState
  | .increaseUserQuota id quota db =>
    nonnegative quota (addOrWrite (!db && enabled) (addNewRecord .userQuota id quota) (·.addUser id quota 0 0))
  | .decreaseUserQuota id quota db =>
    nonnegative quota (addOrWrite (!db && enabled) (addNewRecord .userQuota id (-quota)) (·.addUser id (-quota) 0 0))
  | .increaseTokenQuota id quota =>
    nonnegative quota (addOrWrite enabled (addNewRecord .tokenQuota id quota) (·.addToken id quota))
  | .decreaseTokenQuota id quota =>
    nonnegative quota (addOrWrite enabled (addNewRecord .tokenQuota id (-quota)) (·.addToken id (-quota)))
  | .updateUserUsedQuotaAndRequestCount id quota => fun st =>
    (.ok (), addOrWrite enabled (fun st => addNewRecord .requestCount id 1 (addNewRecord .usedQuota id quota st))
      (·.addUser id 0 quota 1) st)
  | .updateChannelUsedQuota id quota => fun st =>
    (.ok (), addOrWrite enabled (addNewRecord .channelUsedQuota id quota) (·.addChannel id quota) st)

/-! ## Everything that waits -/

def pendingUser (stores : BatchUpdateType → Counter.Pending Int Int) (id : Int) : Int × Int × Int :=
  (get (stores .userQuota) id, get (stores .usedQuota) id, get (stores .requestCount) id)

/-- The database with everything that waits. -/
def BatchState.settled (st : BatchState) : QuotaDb where
  users := addAll (fun u => u.id) UserCounters.add (pendingUser st.stores) st.db.users
  tokens := addAll Token.id Token.addQuota (get (st.stores .tokenQuota)) st.db.tokens
  channels := addAll ChannelCounter.id ChannelCounter.add (get (st.stores .channelUsedQuota)) st.db.channels

section Settled

variable (st : BatchState) (id quota : Int)

/-- A write of a user's counters goes through. -/
theorem settled_addUser (usedQuota requestCount : Int) :
    { st with db := st.db.addUser id quota usedQuota requestCount : BatchState }.settled =
      st.settled.addUser id quota usedQuota requestCount := by
  simp only [BatchState.settled, QuotaDb.addUser, addAll_write userCounters_action,
    write_addAll userCounters_action]

theorem settled_addChannel :
    { st with db := st.db.addChannel id quota : BatchState }.settled = st.settled.addChannel id quota := by
  simp only [BatchState.settled, QuotaDb.addChannel, addAll_write channelCounter_action,
    write_addAll channelCounter_action]

variable (type : BatchUpdateType)

/-- What a record of the type `type` adds under the type `type'`. -/
def BatchUpdateType.delta (type' : BatchUpdateType) (value : Int) : Int := if type' = type then value else 0

theorem get_addNewRecord (type' : BatchUpdateType) :
    get ((addNewRecord type id quota st).stores type') =
      Function.update (get (st.stores type')) id (get (st.stores type') id + type.delta type' quota) := by
  by_cases h : type' = type
  · subst h
    simp [addNewRecord, get_add, BatchUpdateType.delta]
  · simp [addNewRecord, BatchUpdateType.delta, h]

theorem pendingUser_addNewRecord :
    pendingUser (addNewRecord type id quota st).stores =
      Function.update (pendingUser st.stores) id (pendingUser st.stores id +
        (type.delta .userQuota quota, type.delta .usedQuota quota, type.delta .requestCount quota)) := by
  funext i
  by_cases h : i = id
  · subst h
    simp [pendingUser, get_addNewRecord]
  · simp [pendingUser, get_addNewRecord, h]

/-- **A record is a write to come.** -/
theorem settled_addNewRecord :
    (addNewRecord type id quota st).settled =
      ((st.settled.addUser id (type.delta .userQuota quota) (type.delta .usedQuota quota)
        (type.delta .requestCount quota)).addToken id (type.delta .tokenQuota quota)).addChannel id
          (type.delta .channelUsedQuota quota) := by
  simp only [BatchState.settled, pendingUser_addNewRecord, get_addNewRecord, QuotaDb.addUser, QuotaDb.addToken,
    QuotaDb.addChannel, write_addAll userCounters_action, write_addAll token_action,
    write_addAll channelCounter_action]
  rfl

@[simp] theorem addUser_zero (db : QuotaDb) : db.addUser id 0 0 0 = db := by
  have hzero : updateKey (fun u => u.id) id (UserCounters.add (0, 0, 0)) db.users = db.users :=
    updateKey_zero userCounters_action
  rw [QuotaDb.addUser, hzero]

@[simp] theorem addToken_zero (db : QuotaDb) : db.addToken id 0 = db := by
  simp only [QuotaDb.addToken, updateKey_zero token_action]

@[simp] theorem addChannel_zero (db : QuotaDb) : db.addChannel id 0 = db := by
  simp only [QuotaDb.addChannel, updateKey_zero channelCounter_action]

theorem addUser_addUser (db : QuotaDb) (q u c q' u' c' : Int) :
    (db.addUser id q u c).addUser id q' u' c' = db.addUser id (q + q') (u + u') (c + c') := by
  simp only [QuotaDb.addUser, updateKey_add userCounters_action]
  rfl

/-- **A call has the same effect on what will be stored in both modes**, and the same answer. -/
theorem QuotaUpdate.settled_apply (u : QuotaUpdate) (stores : BatchUpdateType → Pending Int Int) :
    (u.apply true st).1 = (u.apply false ⟨st.settled, stores⟩).1 ∧
      (u.apply true st).2.settled = (u.apply false ⟨st.settled, stores⟩).2.db := by
  cases u with
  | increaseUserQuota id quota db | decreaseUserQuota id quota db =>
    by_cases hneg : quota < 0
    · simp [apply, nonnegative, hneg]
    · cases db <;>
        simp [apply, nonnegative, hneg, addOrWrite, settled_addNewRecord, settled_addUser, BatchUpdateType.delta]
  | increaseTokenQuota id quota | decreaseTokenQuota id quota =>
    by_cases hneg : quota < 0
    · simp [apply, nonnegative, hneg]
    · simp [apply, nonnegative, hneg, addOrWrite, settled_addNewRecord, BatchUpdateType.delta]
  | updateUserUsedQuotaAndRequestCount id quota | updateChannelUsedQuota id quota =>
    simp [apply, addOrWrite, settled_addNewRecord, BatchUpdateType.delta, addUser_addUser]

theorem settled_usedQuota (enabled : Bool) :
    ((QuotaUpdate.updateUserUsedQuotaAndRequestCount id quota).apply enabled st).2.settled =
      st.settled.addUser id 0 quota 1 := by
  cases enabled with
  | true => exact (QuotaUpdate.settled_apply st _ st.stores).2
  | false => exact settled_addUser st id 0 quota 1

theorem settled_channelUsedQuota (enabled : Bool) :
    ((QuotaUpdate.updateChannelUsedQuota id quota).apply enabled st).2.settled = st.settled.addChannel id quota := by
  cases enabled with
  | true => exact (QuotaUpdate.settled_apply st _ st.stores).2
  | false => exact settled_addChannel st id quota

end Settled

/-! ### Counters -/

namespace BatchState

/-- `used_quota` of a user, with what waits. -/
def usedQuota (st : BatchState) (id : Int) : Int :=
  ((Table.lookup (fun u => u.id) id st.settled.users).map (·.usedQuota)).getD 0

/-- `used_quota` of a channel, with what waits. -/
def channelUsedQuota (st : BatchState) (id : Int) : Int :=
  ((Table.lookup ChannelCounter.id id st.settled.channels).map (·.usedQuota)).getD 0

structure HasRows (st : BatchState) (userId channelId : Int) : Prop where
  user : (Table.lookup (fun u => u.id) userId st.db.users).isSome
  channel : (Table.lookup ChannelCounter.id channelId st.db.channels).isSome

variable {st st' : BatchState} {userId channelId usedQuota quota : Int}

theorem usedQuota_addUser (h : st.HasRows userId channelId) (requestCount : Int)
    (hst : st'.settled.users = (st.settled.addUser userId 0 usedQuota requestCount).users) :
    st'.usedQuota userId = st.usedQuota userId + usedQuota := by
  obtain ⟨u, hu⟩ := Option.isSome_iff_exists.1 h.user
  have hrow : lookup (fun u => u.id) userId st.settled.users =
      some (UserCounters.add (pendingUser st.stores userId) u) := by
    rw [settled, lookup_addAll userCounters_action, hu]
    rfl
  have hadd : lookup (fun u => u.id) userId (st.settled.addUser userId 0 usedQuota requestCount).users =
      (lookup (fun u => u.id) userId st.settled.users).map (UserCounters.add (0, usedQuota, requestCount)) :=
    lookup_updateKey fun _ h => h
  rw [BatchState.usedQuota, BatchState.usedQuota, hst, hadd, hrow]
  rfl

theorem channelUsedQuota_addChannel (h : st.HasRows userId channelId)
    (hst : st'.settled.channels = (st.settled.addChannel channelId quota).channels) :
    st'.channelUsedQuota channelId = st.channelUsedQuota channelId + quota := by
  obtain ⟨c, hc⟩ := Option.isSome_iff_exists.1 h.channel
  have hrow : lookup (·.id) channelId st.settled.channels =
      some (ChannelCounter.add (get (st.stores .channelUsedQuota) channelId) c) := by
    rw [settled, lookup_addAll channelCounter_action, hc]
    rfl
  have hadd : lookup (·.id) channelId (st.settled.addChannel channelId quota).channels =
      (lookup (·.id) channelId st.settled.channels).map (ChannelCounter.add quota) :=
    lookup_updateKey fun _ h => h
  rw [channelUsedQuota, channelUsedQuota, hst, hadd, hrow]
  rfl

end BatchState

/-! ## Flushes -/

/-- A flush in which some writes fail: they are logged, and the maps are empty already. The counters of a user are one
write, which fails if `fails .userQuota` says so. -/
def batchUpdateFailing (fails : BatchUpdateType → Int → Bool) (range : RangeOrder) (st : BatchState) : BatchState :=
  if ¬ st.hasData then st
  else
    let value type := get (st.stores type)
    let keys type := (st.stores type).keys
    let db := (range.keys (keys .tokenQuota)).foldl
      (fun db id => if fails .tokenQuota id then db else db.addToken id (value .tokenQuota id)) st.db
    let db := (range.keys (keys .channelUsedQuota)).foldl
      (fun db id => if fails .channelUsedQuota id then db else db.addChannel id (value .channelUsedQuota id)) db
    let userIDs := (keys .userQuota ++ keys .usedQuota ++ keys .requestCount).dedup
    let db := (range.keys userIDs).foldl (fun db id => if fails .userQuota id then db else
      updateUserQuotaUsedQuotaAndRequestCount id (value .userQuota id) (value .usedQuota id) (value .requestCount id) db) db
    ⟨db, fun _ => ∅⟩

/-- The database with everything that waits for writes that do not fail. -/
def BatchState.settledBut (fails : BatchUpdateType → Int → Bool) (st : BatchState) : QuotaDb where
  users := addAll (fun u => u.id) UserCounters.add
    (but (fails .userQuota) (pendingUser st.stores)) st.db.users
  tokens := addAll Token.id Token.addQuota
    (but (fails .tokenQuota) (get (st.stores .tokenQuota))) st.db.tokens
  channels := addAll ChannelCounter.id ChannelCounter.add
    (but (fails .channelUsedQuota) (get (st.stores .channelUsedQuota))) st.db.channels

section Flush

variable (fails : BatchUpdateType → Int → Bool) (range : RangeOrder) (st : BatchState) {ks : List Int}

theorem RangeOrder.nodup (h : ks.Nodup) : (range.keys ks).Nodup := (range.perm ks).nodup_iff.2 h

theorem RangeOrder.mem {id : Int} : id ∈ range.keys ks ↔ id ∈ ks := (range.perm ks).mem_iff

/-- A user's counters are written also if nothing waits for them. -/
theorem updateUser_eq (id quota usedQuota requestCount : Int) (db : QuotaDb) :
    updateUserQuotaUsedQuotaAndRequestCount id quota usedQuota requestCount db =
      db.addUser id quota usedQuota requestCount := by
  unfold updateUserQuotaUsedQuotaAndRequestCount
  split
  · rename_i h
    obtain ⟨rfl, rfl, rfl⟩ := h
    exact (addUser_zero id db).symm
  · rfl

theorem foldl_addToken (skip : Int → Bool) (val : Int → Int) (ks : List Int) (db : QuotaDb) :
    ks.foldl (fun db id => if skip id then db else db.addToken id (val id)) db =
      { db with tokens := writeAll Token.id Token.addQuota (but skip val) ks db.tokens } :=
  foldl_hom (fun tokens => { db with tokens := tokens }) fun tokens id => by
    unfold but
    split
    · exact (addToken_zero id { db with tokens := tokens }).symm
    · rfl

theorem foldl_addChannel (skip : Int → Bool) (val : Int → Int) (ks : List Int) (db : QuotaDb) :
    ks.foldl (fun db id => if skip id then db else db.addChannel id (val id)) db =
      { db with channels := writeAll ChannelCounter.id ChannelCounter.add (but skip val) ks db.channels } :=
  foldl_hom (fun channels => { db with channels := channels }) fun channels id => by
    unfold but
    split
    · exact (addChannel_zero id { db with channels := channels }).symm
    · rfl

theorem foldl_addUser (skip : Int → Bool) (stores : BatchUpdateType → Pending Int Int) (ks : List Int) (db : QuotaDb) :
    ks.foldl (fun db id => if skip id then db else updateUserQuotaUsedQuotaAndRequestCount id
        (get (stores .userQuota) id) (get (stores .usedQuota) id) (get (stores .requestCount) id) db) db =
      { db with users := writeAll (fun u => u.id) UserCounters.add (but skip (pendingUser stores)) ks db.users } :=
  foldl_hom (fun users => { db with users := users }) fun users id => by
    unfold but
    split
    · exact (addUser_zero id { db with users := users }).symm
    · exact updateUser_eq _ _ _ _ _

theorem stores_of_not_hasData {st : BatchState} (h : ¬ st.hasData) (type : BatchUpdateType) :
    st.stores type = ∅ := by
  simp only [BatchState.hasData, any_eq_true, not_exists, not_and, decide_eq_true_eq, not_not] at h
  have hkeys : (st.stores type).keys = [] := h type (by cases type <;> decide)
  exact AList.ext (map_eq_nil_iff.1 hkeys)

theorem settledBut_of_empty (h : ∀ type, st.stores type = ∅) : st.settledBut fails = st.db := by
  have huser : but (fails .userQuota) (pendingUser st.stores) = fun _ => 0 := by
    funext id
    exact but_zero (by simp [pendingUser, h])
  have hget : ∀ type, but (fails type) (get (st.stores type)) = fun _ => 0 := by
    intro type
    funext id
    exact but_zero (by rw [h]; rfl)
  simp only [BatchState.settledBut, huser, hget, addAll_zero userCounters_action,
    addAll_zero token_action, addAll_zero channelCounter_action]

/-- **A flush stores everything that waits**, but for the writes that fail. -/
theorem batchUpdateFailing_db : (batchUpdateFailing fails range st).db = st.settledBut fails := by
  unfold batchUpdateFailing
  split
  · rename_i h
    exact (settledBut_of_empty fails st (stores_of_not_hasData h)).symm
  · dsimp only
    have hkey : ∀ type id, id ∉ range.keys (st.stores type).keys →
        but (fails type) (get (st.stores type)) id = 0 :=
      fun type id hid => but_zero (get_of_not_mem (mt range.mem.2 hid))
    have hnodup : ∀ type, (range.keys (st.stores type).keys).Nodup := fun type => range.nodup (AList.keys_nodup _)
    rw [foldl_addUser, foldl_addChannel, foldl_addToken, writeAll_eq token_action (hnodup _) (hkey _),
      writeAll_eq channelCounter_action (hnodup _) (hkey _),
      writeAll_eq userCounters_action (range.nodup (nodup_dedup _))]
    · rfl
    · intro id hid
      rw [range.mem, mem_dedup, mem_append, mem_append, not_or, not_or] at hid
      refine but_zero ?_
      simp only [pendingUser, get_of_not_mem hid.1.1, get_of_not_mem hid.1.2,
        get_of_not_mem hid.2]
      rfl

theorem batchUpdateFailing_stores (type : BatchUpdateType) : (batchUpdateFailing fails range st).stores type = ∅ := by
  unfold batchUpdateFailing
  split
  · rename_i h
    exact stores_of_not_hasData h type
  · rfl

theorem settled_of_empty (h : ∀ type, st.stores type = ∅) : st.settled = st.db :=
  settledBut_of_empty (fun _ _ => false) st h

theorem settled_batchUpdateFailing : (batchUpdateFailing fails range st).settled = st.settledBut fails := by
  rw [settled_of_empty _ (batchUpdateFailing_stores fails range st), batchUpdateFailing_db]

theorem batchUpdate_db : (batchUpdate range st).db = st.settled := batchUpdateFailing_db (fun _ _ => false) range st

end Flush

/-! ## Runs -/

inductive BatchAction where
  | update (u : QuotaUpdate)
  | flush (range : RangeOrder)

def batchStep (st : BatchState) : BatchAction → BatchState
  | .update u => (u.apply true st).2
  | .flush range => batchUpdate range st

def directStep (st : BatchState) (u : QuotaUpdate) : BatchState := (u.apply false st).2

def updates (as : List BatchAction) : List QuotaUpdate :=
  as.filterMap fun a => match a with
    | .update u => some u
    | .flush _ => none

theorem directStep_stores (st : BatchState) (u : QuotaUpdate) : (directStep st u).stores = st.stores := by
  cases u with
  | increaseUserQuota id quota db | decreaseUserQuota id quota db =>
    simp only [directStep, QuotaUpdate.apply, nonnegative, Bool.and_false]
    split <;> rfl
  | increaseTokenQuota id quota | decreaseTokenQuota id quota =>
    simp only [directStep, QuotaUpdate.apply, nonnegative]
    split <;> rfl
  | updateUserUsedQuotaAndRequestCount id quota | updateChannelUsedQuota id quota => rfl

/-! ## Runs with failing writes -/

/-- The action of a run, with the writes that fail if it is a flush. -/
def failingStep (st : BatchState) (a : BatchAction × (BatchUpdateType → Int → Bool)) : BatchState :=
  match a.1 with
  | .update u => (u.apply true st).2
  | .flush range => batchUpdateFailing a.2 range st

/-- Nothing waits for the rows whose writes fail. -/
def LosesNothing (st : BatchState) (a : BatchAction × (BatchUpdateType → Int → Bool)) : Prop :=
  match a.1 with
  | .update _ => True
  | .flush _ => (∀ u ∈ st.db.users, a.2 .userQuota u.id = true → pendingUser st.stores u.id = 0) ∧
    (∀ t ∈ st.db.tokens, a.2 .tokenQuota t.id = true → get (st.stores .tokenQuota) t.id = 0) ∧
      ∀ c ∈ st.db.channels, a.2 .channelUsedQuota c.id = true → get (st.stores .channelUsedQuota) c.id = 0

theorem settledBut_iff (st : BatchState) (fails : BatchUpdateType → Int → Bool) (range : RangeOrder) :
    st.settledBut fails = st.settled ↔ LosesNothing st (.flush range, fails) := by
  have huser : ∀ u, Function.Injective (UserCounters.add · u) := fun u a b h => by
    simpa [UserCounters.add, Prod.ext_iff] using h
  have htoken : ∀ t, Function.Injective (Token.addQuota · t) := fun t a b h => by
    simpa [Token.addQuota] using h
  have hchannel : ∀ c, Function.Injective (ChannelCounter.add · c) := fun c a b h => by
    simpa [ChannelCounter.add] using h
  rw [BatchState.settledBut, BatchState.settled, QuotaDb.mk.injEq, addAll_but_iff huser,
    addAll_but_iff htoken, addAll_but_iff hchannel]
  rfl

theorem failing_run (stores : BatchUpdateType → Pending Int Int) (st : BatchState)
    (as : List (BatchAction × (BatchUpdateType → Int → Bool))) :
    (∀ bs, bs <+: as → (run failingStep st bs).settled =
      (run directStep ⟨st.settled, stores⟩ (updates (bs.map (·.fst)))).db) ↔ Along failingStep LosesNothing st as := by
  induction as generalizing st with
  | nil => simp [updates, Along]
  | cons a as ih =>
    have hcons : (∀ bs, bs <+: a :: as → (run failingStep st bs).settled =
        (run directStep ⟨st.settled, stores⟩ (updates (bs.map (·.fst)))).db) ↔
        ∀ bs, bs <+: as → (run failingStep (failingStep st a) bs).settled =
          (run directStep ⟨st.settled, stores⟩ (updates (a.1 :: bs.map (·.fst)))).db := by
      refine ⟨fun h bs hbs => h (a :: bs) ((prefix_cons_inj a).2 hbs), fun h bs hbs => ?_⟩
      rcases prefix_cons_iff.1 hbs with rfl | ⟨cs, rfl, hcs⟩
      · rfl
      · exact h cs hcs
    rw [hcons, Along, ← ih]
    obtain ⟨a, fails⟩ := a
    cases a with
    | update u =>
      have hstep : directStep ⟨st.settled, stores⟩ u = ⟨(failingStep st (.update u, fails)).settled, stores⟩ := by
        rw [failingStep, (u.settled_apply st stores).2]
        exact congrArg (BatchState.mk _) (directStep_stores ⟨st.settled, stores⟩ u)
      rw [← hstep]
      exact (and_iff_right trivial).symm
    | flush range =>
      have hnext : (failingStep st (.flush range, fails)).settled = st.settledBut fails :=
        settled_batchUpdateFailing fails range st
      rw [← settledBut_iff, ← hnext]
      constructor
      · intro h
        have hkept : (failingStep st (.flush range, fails)).settled = st.settled := h [] nil_prefix
        rw [hkept]
        exact ⟨rfl, h⟩
      · rintro ⟨hkept, h⟩
        rw [hkept] at h
        exact h

/-- **Batch mode refines direct mode**: for all calls and all flushes between them, in whatever order the maps are ranged
over, the database after a last flush is the database of the direct calls. -/
theorem batch_refines_direct (db : QuotaDb) (as : List BatchAction) (range : RangeOrder) :
    (batchUpdate range (run batchStep ⟨db, fun _ => ∅⟩ as)).db = (run directStep ⟨db, fun _ => ∅⟩ (updates as)).db := by
  let sound (a : BatchAction) : BatchAction × (BatchUpdateType → Int → Bool) := (a, fun _ _ => false)
  have hrun : run failingStep ⟨db, fun _ => ∅⟩ (as.map sound) = run batchStep ⟨db, fun _ => ∅⟩ as := foldl_map
  have hkept : Along failingStep LosesNothing ⟨db, fun _ => ∅⟩ (as.map sound) := by
    refine along_of_forall_of (C := fun a => a.2 = fun _ _ => false) (by simp [sound]) (fun st a ha => ?_) _
    unfold LosesNothing
    cases a.1 <;> simp [ha]
  have hfst : (as.map sound).map (·.fst) = as := by simp [sound, Function.comp_def]
  rw [batchUpdate_db, ← hrun, (failing_run (fun _ => ∅) _ _).2 hkept _ prefix_rfl, hfst,
    settled_of_empty _ fun _ => rfl]

/-- **A flush with failing writes loses nothing if and only if nothing waits for the rows that they are about.** -/
theorem failing_flush_iff (db : QuotaDb) (as : List (BatchAction × (BatchUpdateType → Int → Bool))) :
    (∀ bs, bs <+: as → (run failingStep ⟨db, fun _ => ∅⟩ bs).settled =
      (run directStep ⟨db, fun _ => ∅⟩ (updates (bs.map Prod.fst))).db) ↔
        Along failingStep LosesNothing ⟨db, fun _ => ∅⟩ as := by
  rw [← failing_run fun _ => ∅, settled_of_empty _ fun _ => rfl]

/-- **The write for a user fails, and what they were given is gone.** -/
theorem failed_write_lost :
    let st : BatchState := ⟨⟨[⟨⟨1, 0, "default"⟩, 0, 0⟩], [], []⟩, fun _ => ∅⟩
    let as := [(BatchAction.update (.increaseUserQuota 1 5 false), fun _ _ => false),
      (.flush ⟨id, fun _ => .rfl⟩, fun _ _ => true)]
    (run failingStep st as).settled.users.map (·.quota) = [0] ∧
      (run directStep st (updates (as.map Prod.fst))).db.users.map (·.quota) = [5] := by
  decide +kernel

end SynthApi
