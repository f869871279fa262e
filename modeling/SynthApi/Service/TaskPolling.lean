import SynthApi.Service.TaskBilling
import SynthApi.Lib.Interleave

/-!
# The writers of a task, statement by statement

`service/task_polling.go` and `tryRealtimeFetch` of `relay/relay_task.go`. Every node runs sweeps and polling rounds,
and users make it fetch tasks; all of them work on a copy of the row that they have read. A *visit* is the life of one
such copy: it is read, the upstream's answers are applied to it, the row is written, quota is moved. `taskStep` lets a
visit execute its next SQL statement together with the computation before it. A node whose round is about many tasks is
many visits, and the runs of `Sys.step (taskStep site)` are the interleavings of any number of visits.

What an upstream answers is an input of the step, as is what the platform's adaptor makes of it. The copy of a polling
round stays in its map until the round ends, so it may be polled again: two tasks with the same upstream id share one
copy, and an upstream may answer twice for one task.
-/

namespace SynthApi

open Lib

/-! ## Answers of the upstream -/

/-- `relaycommon.TaskInfo` -/
structure TaskInfo where
  /-- The empty status is `.other ""`. -/
  status : TaskStatus
  reason : String
  url : String
  progress : String
  totalTokens : Int

def failTaskInfo (reason : String) : TaskInfo := ⟨.failure, reason, "", "", 0⟩

/-- An error in the format of OpenAI. -/
structure UpstreamError where
  code : Option String
  /-- The message after `safeTaskErrorMessage`. -/
  message : String

/-- What `updateVideoSingleTask` gets from outside. -/
structure VideoReply where
  /-- `none` if the request fails, or its body cannot be read or parsed. -/
  result : Option TaskInfo
  /-- The body as an error response, `none` if it is none, with the error in it, if any. -/
  errorResponse : Option (Option UpstreamError)
  /-- The body after `redactVideoResponseBody`. -/
  data : String
  adjusted : Int
  /-- The group of the user's row, `none` if it cannot be read. -/
  userGroup : Option String
  now : Int

structure SunoDataResponse where
  taskId : String
  status : TaskStatus
  failReason : String
  submitTime : Int
  startTime : Int
  finishTime : Int
  data : String

structure TaskSite where
  proxyURL : String → String
  imageProxyURL : String → String
  /-- Whether two JSON values consist of the same bytes, in any order. -/
  sameData : String → String → Bool
  ratios : TaskRatioSetting

/-! ## Visits -/

/-- What a visit does after its quota movements. -/
inductive AfterBilling where
  | idle
  | polled (task : Task)
  | save (task : Task)
  | sunoSave (task : Task)

/-- Where a visit stands, with its copy of the task. -/
inductive TaskPlace where
  | idle
  | timedOut (task : Task) (minutes now : Int)
  /-- A polling round has read the task as unfinished. -/
  | polled (task : Task)
  /-- `GetByTaskId` has read the task for a user. -/
  | fetched (task : Task)
  | refund (task : Task) (next : AfterBilling)
  | recalculate (task : Task) (actualQuota : Int)
  | tokenKey (task : Task) (delta : Int) (next : AfterBilling)
  | tokenQuota (task : Task) (delta : Int) (next : AfterBilling)
  /-- The `Update` of `RecalculateTaskQuota`. -/
  | save (task : Task)
  /-- The `Update` of `updateSunoTasks`. -/
  | sunoSave (task : Task)

def AfterBilling.place : AfterBilling → TaskPlace
  | .idle => .idle
  | .polled t => .polled t
  | .save t => .save t
  | .sunoSave t => .sunoSave t

/-- What happens next to a visit. -/
inductive TaskAct where
  /-- `sweepTimedOutTasks` reads task `id`. -/
  | sweep (id minutes now : Int)
  /-- `TaskPollingLoop` reads task `id`. -/
  | poll (id : Int)
  | fetch (id userId : Int) (taskId : String)
  | video (reply : VideoReply)
  | suno (item : SunoDataResponse)
  /-- The upstream's answer to `tryRealtimeFetch`; `none` if there is none or the channel does not support it. -/
  | realtime (info : Option TaskInfo)
  /-- The round fails its tasks without an upstream id. -/
  | nullTaskId
  /-- The channel of the task cannot be found. -/
  | noChannel
  | finish
  | go

structure TaskInput where
  env : Env
  /-- The error of the statement, if it is one on `tasks` or the read of the token. -/
  fault : Option String
  act : TaskAct

def TaskPlatform.isVideo : TaskPlatform → Bool
  | .channelType _ => true
  | _ => false

/-- The reads that begin a visit. -/
def readTask (act : TaskAct) (db : TaskDb) : TaskPlace :=
  match act with
  | .sweep id minutes now =>
    if minutes ≤ 0 then .idle
    else
      match (db.tasks id).filter (·.timedOut (now - minutes * 60)) with
      | some t => .timedOut t minutes now
      | none => .idle
  | .poll id =>
    match (db.tasks id).filter (·.unfinished) with
    | some t => .polled t
    | none => .idle
  | .fetch id userId taskId =>
    match (db.tasks id).filter (fun t => decide (t.userId = userId) && decide (t.taskId = taskId)) with
    | some t => .fetched t
    | none => .idle
  | _ => .idle

/-! ### Sweeps -/

/-- Submitted before `legacyTaskCutoff`. -/
def isLegacyTask (t : Task) : Bool := decide (0 < t.submitTime) && decide (t.submitTime < 1740182400)

def legacyReason : String := "任务超时（旧系统遗留任务，不进行退款，请联系管理员）"

/-- The copy as `sweepTimedOutTasks` fails it. -/
def timeOutTask (t : Task) (minutes now : Int) : Task :=
  { t with
    status := .failure
    progress := "100%"
    finishTime := now
    failReason := if isLegacyTask t then legacyReason else "任务超时（" ++ toString minutes ++ "分钟）" }

/-- Where the sweep stands after it has failed the task. -/
def sweptPlace (t : Task) (minutes now : Int) : TaskPlace :=
  if !isLegacyTask t && decide (t.quota ≠ 0) then .refund (timeOutTask t minutes now) .idle else .idle

def sweepTimedOutTask (fault : Option String) (t : Task) (minutes now : Int) (db : TaskDb) : TaskPlace × TaskDb :=
  match fault with
  | some _ => (.idle, db)
  | none =>
    match db.updateWithStatus (timeOutTask t minutes now) t.status with
    | (true, db) => (sweptPlace t minutes now, db)
    | (false, db) => (.idle, db)

/-! ### Videos -/

/-- The answer that counts: without a status it is an error of the upstream; `none` keeps the task for the next round.
-/
def videoResult (reply : VideoReply) (info : TaskInfo) : Option TaskInfo :=
  if info.status ≠ .other "" then some info
  else
    match reply.errorResponse with
    | none => some info
    | some none => some (failTaskInfo "upstream returned unrecognized message")
    | some (some err) => if err.code = some "429" then none else some (failTaskInfo err.message)

def videoResultURL (site : TaskSite) (t : Task) (url : String) : String :=
  if "data:".toList <+: url.toList then
    if t.action = "imageGenerate" then site.imageProxyURL t.taskId else site.proxyURL t.taskId
  else if url ≠ "" then url
  else site.proxyURL t.taskId

/-- The copy with the answer; `none` for an unknown status. -/
def applyVideoResult (site : TaskSite) (now : Int) (t : Task) (info : TaskInfo) : Option Task :=
  let reported (progress : String) : String := if info.progress ≠ "" then info.progress else progress
  let finishTime := if t.finishTime = 0 then now else t.finishTime
  match info.status with
  | .submitted => some { t with status := .submitted, progress := reported "10%" }
  | .queued => some { t with status := .queued, progress := reported "20%" }
  | .inProgress =>
    some { t with
      status := .inProgress
      progress := reported "30%"
      startTime := if t.startTime = 0 then now else t.startTime }
  | .success =>
    some { t with
      status := .success
      progress := reported "100%"
      finishTime := finishTime
      privateData := { t.privateData with resultUrl := videoResultURL site t info.url } }
  | .failure =>
    some { t with status := .failure, progress := "100%", finishTime := finishTime, failReason := info.reason }
  | _ => none

/-- The billing of an answer that has been stored. -/
def videoBilling (site : TaskSite) (reply : VideoReply) (t : Task) (info : TaskInfo) : TaskPlace :=
  match t.status with
  | .success =>
    match settleTaskBillingOnComplete site.ratios reply.adjusted reply.userGroup t info.totalTokens with
    | some actualQuota => .recalculate t actualQuota
    | none => .polled t
  | .failure => if t.quota ≠ 0 then .refund t (.polled t) else .polled t
  | _ => .polled t

def updateVideoSingleTask (site : TaskSite) (reply : VideoReply) (fault : Option String) (t : Task) (db : TaskDb) :
    TaskPlace × TaskDb :=
  match reply.result with
  | none => (.polled t, db)
  | some parsed =>
    let read := { t with data := reply.data }
    match videoResult reply parsed with
    | none => (.polled read, db)
    | some info =>
      match applyVideoResult site reply.now read info with
      -- the copy has the unknown status already
      | none => (.polled { read with status := info.status }, db)
      | some new =>
        if new.status.isFinal && decide (t.status ≠ new.status) then
          match fault with
          | some _ => (.polled new, db)
          | none =>
            match db.updateWithStatus new t.status with
            | (true, db) => (videoBilling site reply new info, db)
            | (false, db) => (.polled new, db)
        else if t.snapshot ≠ new.snapshot then
          -- here it does not matter whether the row was written
          match fault with
          | some _ => (videoBilling site reply new info, db)
          | none => (videoBilling site reply new info, (db.updateWithStatus new t.status).2)
        else (videoBilling site reply new info, db)

/-! ### Suno -/

def taskNeedsUpdate (site : TaskSite) (t : Task) (item : SunoDataResponse) : Bool :=
  decide (t.submitTime ≠ item.submitTime) || decide (t.startTime ≠ item.startTime) ||
    decide (t.finishTime ≠ item.finishTime) || decide (t.status ≠ item.status) ||
    decide (t.failReason ≠ item.failReason) || (t.status.isFinal && decide (t.progress ≠ "100%")) ||
    !site.sameData t.data item.data

variable (t : Task) (item : SunoDataResponse)

def readSunoItem : Task :=
  { t with
    status := if item.status ≠ .other "" then item.status else t.status
    failReason := if item.failReason ≠ "" then item.failReason else t.failReason
    submitTime := if item.submitTime ≠ 0 then item.submitTime else t.submitTime
    startTime := if item.startTime ≠ 0 then item.startTime else t.startTime
    finishTime := if item.finishTime ≠ 0 then item.finishTime else t.finishTime }

def sunoFails : Bool :=
  decide (item.failReason ≠ "") || decide ((readSunoItem t item).status = .failure)

/-- The copy that is saved. -/
def applySunoItem : Task :=
  { readSunoItem t item with
    progress := if sunoFails t item || decide (item.status = .success) then "100%" else t.progress
    data := item.data }

/-- A round of the loop of `updateSunoTasks`, up to its next statement. -/
def updateSunoTask (site : TaskSite) (item : SunoDataResponse) (t : Task) : TaskPlace :=
  if taskNeedsUpdate site t item then
    if sunoFails t item then .refund (applySunoItem t item) (.sunoSave (applySunoItem t item))
    else .sunoSave (applySunoItem t item)
  else .polled t

/-! ### Fetches -/

/-- The copy with the answer to a fetch. -/
def applyRealtimeResult (site : TaskSite) (t : Task) (info : TaskInfo) : Task :=
  let status := if info.status ≠ .other "" then info.status else t.status
  { t with
    status := status
    progress := if info.progress ≠ "" then info.progress else t.progress
    privateData :=
      { t.privateData with
        resultUrl :=
          if "data:".toList <+: info.url.toList then t.privateData.resultUrl
          else if info.url ≠ "" then info.url
          else if status = .success then site.proxyURL t.taskId
          else t.privateData.resultUrl } }

def tryRealtimeFetch (site : TaskSite) (info : Option TaskInfo) (fault : Option String) (t : Task) (db : TaskDb) : TaskDb :=
  match info with
  | none => db
  | some info =>
    let new := applyRealtimeResult site t info
    if t.snapshot ≠ new.snapshot then
      match fault with
      | some _ => db
      | none => (db.updateWithStatus new t.status).2
    else db

/-! ### Polling and billing -/

/-- The reason that a round stores for a missing channel. -/
def noChannelReason (t : Task) : String :=
  if t.platform = .suno then "获取渠道信息失败，请联系管理员，渠道ID：" ++ toString t.channelId
  else "Failed to get channel info, channel ID: " ++ toString t.channelId

/-- The bulk update of a round, as far as it is about this visit's task. -/
def bulkFail (reason : Option String) (fault : Option String) (t : Task) (db : TaskDb) : TaskDb :=
  match fault with
  | some _ => db
  | none => db.taskBulkUpdateByID [t.id] reason

def polledStep (site : TaskSite) (t : Task) (a : TaskInput) (db : TaskDb) : TaskPlace × TaskDb :=
  match a.act with
  | .video reply =>
    if t.platform.isVideo && decide (t.getUpstreamTaskID ≠ "") then updateVideoSingleTask site reply a.fault t db
    else (.polled t, db)
  | .suno item =>
    if t.platform = .suno ∧ t.getUpstreamTaskID ≠ "" ∧ item.taskId = t.getUpstreamTaskID then
      (updateSunoTask site item t, db)
    else (.polled t, db)
  | .nullTaskId => if t.getUpstreamTaskID = "" then (.idle, bulkFail none a.fault t db) else (.polled t, db)
  | .noChannel =>
    if t.platform ≠ .midjourney ∧ t.getUpstreamTaskID ≠ "" then
      (.polled t, bulkFail (some (noChannelReason t)) a.fault t db)
    else (.polled t, db)
  | .finish => (.idle, db)
  | _ => (.polled t, db)

def refundTaskQuota (e : Env) (t : Task) (next : AfterBilling) (db : TaskDb) : TaskPlace × TaskDb :=
  if t.quota = 0 then (next.place, db)
  else
    match taskAdjustFunding e t (-t.quota) db.store with
    | (.error _, st) => (next.place, { db with store := st })
    | (.ok _, st) => (.tokenKey t (-t.quota) next, { db with store := st })

def recalculateTaskQuota (e : Env) (t : Task) (actualQuota : Int) (db : TaskDb) : TaskPlace × TaskDb :=
  if actualQuota ≤ 0 ∨ actualQuota - t.quota = 0 then (.polled t, db)
  else
    match taskAdjustFunding e t (actualQuota - t.quota) db.store with
    | (.error _, st) => (.polled t, { db with store := st })
    | (.ok _, st) =>
      (.tokenKey t (actualQuota - t.quota) (.save { t with quota := actualQuota }), { db with store := st })

/-- The read of `taskAdjustTokenQuota`. -/
def tokenKeyStep (fault : Option String) (t : Task) (delta : Int) (next : AfterBilling) (st : Store) : TaskPlace :=
  if t.privateData.tokenId ≤ 0 ∨ delta = 0 then next.place
  else if resolveTokenKey fault t st = "" then next.place
  else .tokenQuota t delta next

/-- `Task.Update`, whose error is only logged. -/
def TaskDb.tryUpdate (fault : Option String) (t : Task) (db : TaskDb) : TaskDb :=
  match fault with
  | some _ => db
  | none => db.save t

/-- **The next statement of a visit.** -/
def taskStep (site : TaskSite) (place : TaskPlace) (a : TaskInput) (db : TaskDb) : TaskPlace × TaskDb :=
  match place with
  | .idle =>
    match a.fault with
    | some _ => (.idle, db)
    | none => (readTask a.act db, db)
  | .timedOut t minutes now => sweepTimedOutTask a.fault t minutes now db
  | .polled t => polledStep site t a db
  | .fetched t =>
    match a.act with
    | .realtime info => (.idle, tryRealtimeFetch site info a.fault t db)
    | _ => (.fetched t, db)
  | .refund t next => refundTaskQuota a.env t next db
  | .recalculate t actualQuota => recalculateTaskQuota a.env t actualQuota db
  | .tokenKey t delta next => (tokenKeyStep a.fault t delta next db.store, db)
  | .tokenQuota t delta next => (next.place, { db with store := taskAdjustTokenQuota a.env t delta db.store })
  | .save t => (.polled t, db.tryUpdate a.fault t)
  | .sunoSave t => (.polled t, db.tryUpdate a.fault t)

namespace Sample

/-- A task of user 1 that has been charged 40. -/
def task : Task where
  id := 1
  taskId := "task_1"
  platform := .channelType "50"
  userId := 1
  group := "default"
  channelId := 1
  quota := 40
  action := "generate"
  status := .submitted
  failReason := ""
  submitTime := 1800000000
  startTime := 0
  finishTime := 0
  progress := "10%"
  originModelName := "video"
  privateData := ⟨"up_1", "", "wallet", 0, 1, none⟩
  data := ""

/-- A deployment without ratios. -/
def site : TaskSite where
  proxyURL id := "/v1/videos/" ++ id ++ "/content"
  imageProxyURL id := "/v1/images/generations/" ++ id ++ "/content"
  sameData a b := a == b
  ratios := ⟨fun _ => none, fun _ => 1, fun _ _ => none⟩

/-- Two nodes that have not begun, over the task `t`. -/
def taskNodes (t : Task) : Sys Bool TaskDb TaskPlace where
  shared := ⟨fun id => if id = t.id then some t else none, store⟩
  procs _ := .idle

/-- What the nodes do, in order and without failures. -/
def visits (acts : List (Bool × TaskAct)) : List (Bool × TaskInput) := acts.map fun x => (x.1, ⟨env 1500, none, x.2⟩)

def videoAnswer (status : TaskStatus) (adjusted : Int) : TaskAct :=
  .video ⟨some ⟨status, "broken", "", "", 0⟩, none, "body", adjusted, none, 1800000100⟩

/-- A sweep of task 1 that finds it timed out. -/
def sweepTask1 : TaskAct := .sweep 1 10 1800100000

end Sample

end SynthApi
