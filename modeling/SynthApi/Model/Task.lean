import SynthApi.Model.Store

/-!
# Asynchronous tasks

The table `tasks` of `model/task.go` with its three ways of writing a row: `save` (`Task.Update`, the whole row whatever
is stored), `updateWithStatus` (the whole row, guarded by the status that the writer has seen) and `taskBulkUpdateByID`
(the columns of a failure, unguarded). The table is a partial function of the primary key.

A guarded write either replaces a row that has the expected status or changes nothing (`updateWithStatus_cases`).
-/

namespace SynthApi

/-- The column `platform`: a constant of `constant/task.go` or the number of a channel type. -/
inductive TaskPlatform where
  | suno
  | midjourney
  | channelType (name : String)
  deriving DecidableEq, Repr

/-- The column `status`. Any text of an upstream may be stored, so there are statuses besides the constants. -/
inductive TaskStatus where
  | notStart
  | submitted
  | queued
  | inProgress
  | failure
  | success
  | unknown
  | other (text : String)
  deriving DecidableEq, Repr

def TaskStatus.isFinal : TaskStatus → Bool
  | .failure | .success => true
  | _ => false

structure TaskBillingContext where
  otherRatios : List (String × ℚ)
  originModelName : String
  perCallBilling : Bool
  deriving DecidableEq, Repr

structure TaskPrivateData where
  upstreamTaskId : String
  resultUrl : String
  billingSource : String
  subscriptionId : Int
  tokenId : Int
  billingContext : Option TaskBillingContext
  deriving DecidableEq, Repr

structure Task where
  id : Int
  taskId : String
  platform : TaskPlatform
  userId : Int
  group : String
  channelId : Int
  quota : Int
  action : String
  status : TaskStatus
  failReason : String
  submitTime : Int
  startTime : Int
  finishTime : Int
  progress : String
  originModelName : String
  privateData : TaskPrivateData
  data : String
  deriving DecidableEq, Repr

namespace Task

def getUpstreamTaskID (t : Task) : String :=
  if t.privateData.upstreamTaskId ≠ "" then t.privateData.upstreamTaskId else t.taskId

/-- What `Snapshot` compares: status, progress, start and finish time, reason, result and data. -/
def snapshot (t : Task) : TaskStatus × String × Int × Int × String × String × String :=
  (t.status, t.progress, t.startTime, t.finishTime, t.failReason, t.privateData.resultUrl, t.data)

/-- The filter of `GetAllUnFinishSyncTasks`. -/
def unfinished (t : Task) : Bool := t.progress ≠ "100%" && !t.status.isFinal

/-- The filter of `GetTimedOutUnfinishedTasks`. -/
def timedOut (cutoff : Int) (t : Task) : Bool := t.unfinished && decide (t.submitTime < cutoff)

theorem not_final_of_unfinished {t : Task} (h : t.unfinished) : t.status.isFinal = false := by
  simp only [unfinished, Bool.and_eq_true, Bool.not_eq_true'] at h
  exact h.2

theorem progress_of_unfinished {t : Task} (h : t.unfinished) : t.progress ≠ "100%" := by
  simp only [unfinished, Bool.and_eq_true, decide_eq_true_eq] at h
  exact h.1

theorem unfinished_of_timedOut {cutoff : Int} {t : Task} (h : t.timedOut cutoff) : t.unfinished := by
  simp only [timedOut, Bool.and_eq_true] at h
  exact h.1

end Task

/-- The tasks, and the rest of the database. -/
structure TaskDb where
  tasks : Int → Option Task
  store : Store

namespace TaskDb

def status (db : TaskDb) (id : Int) : Option TaskStatus := (db.tasks id).map (·.status)

/-- `Task.Update`: `DB.Save` writes the row, and inserts it if it is missing. -/
def save (db : TaskDb) (t : Task) : TaskDb := { db with tasks := Function.update db.tasks t.id (some t) }

/-- `Task.UpdateWithStatus`, which tells whether a row was written. -/
def updateWithStatus (db : TaskDb) (t : Task) (fromStatus : TaskStatus) : Bool × TaskDb :=
  if db.status t.id = some fromStatus then (true, db.save t) else (false, db)

def taskBulkUpdateByID (db : TaskDb) (ids : List Int) (failReason : Option String) : TaskDb :=
  { db with
    tasks := fun id =>
      if id ∈ ids then
        (db.tasks id).map fun t =>
          { t with status := .failure, progress := "100%", failReason := failReason.getD t.failReason }
      else db.tasks id }

section Writes

variable (db : TaskDb) (t : Task) {id : Int}

@[simp] theorem save_tasks_self : (db.save t).tasks t.id = some t := by simp [save]

theorem save_tasks_of_eq (h : id = t.id) : (db.save t).tasks id = some t := by rw [h, save_tasks_self]

theorem save_tasks_ne (h : id ≠ t.id) : (db.save t).tasks id = db.tasks id := by simp [save, h]

@[simp] theorem save_status_self : (db.save t).status t.id = some t.status := by simp [status]

theorem save_status_ne (h : id ≠ t.id) : (db.save t).status id = db.status id := by simp [status, save_tasks_ne db t h]

/-- **A guarded write replaces a row of the expected status, or changes nothing.** -/
theorem updateWithStatus_cases (fromStatus : TaskStatus) :
    (db.status t.id = some fromStatus ∧ db.updateWithStatus t fromStatus = (true, db.save t)) ∨
      db.updateWithStatus t fromStatus = (false, db) := by
  unfold updateWithStatus
  split
  · rename_i h
    exact .inl ⟨h, rfl⟩
  · exact .inr rfl

variable {db}

theorem status_of_tasks {row : Task} (h : db.tasks id = some row) : db.status id = some row.status := by
  simp [status, h]

end Writes

end TaskDb

end SynthApi
