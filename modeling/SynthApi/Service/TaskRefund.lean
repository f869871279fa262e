import SynthApi.Service.TaskTransitions

/-!
# Refunds of failed tasks

Who stores `FAILURE`, and does the charge come back? A visit is watched while it handles one answer or one sweep: its
record `TaskCall` holds the tasks that it has moved from an unfinished status to `FAILURE`, with the kind of writer, and
the refunds that it has made, with the stores before and after (`recordedStep`). A poll and a sweep refund what they
fail before they turn to anything else (`failed_task_refunded`): after a guarded write the refund follows, and for Suno
it comes first.

A sweep leaves a task of the old system charged (`legacy_task_not_refunded`).
-/

namespace SynthApi

open Lib TaskPlace

inductive TaskWriter where
  | poll
  | sweep (isLegacy : Bool)
  | bulk
  | realtime
  deriving DecidableEq, Repr

/-- The writers that are to refund what they fail. -/
def TaskWriter.refunds : TaskWriter → Bool
  | .poll => true
  | .sweep isLegacy => !isLegacy
  | _ => false

def TaskPlace.writer : TaskPlace → TaskAct → TaskWriter
  | .timedOut t _ _, _ => .sweep (isLegacyTask t)
  | .polled _, .nullTaskId | .polled _, .noChannel => .bulk
  | .fetched _, _ => .realtime
  | _, _ => .poll

/-- A refund: the task, and the stores around the statement that gave its quota back. -/
structure TaskRefund where
  env : Env
  task : Task
  before : Store
  after : Store

/-- What a visit has done since it turned to an answer or a sweep. -/
structure TaskCall where
  /-- The tasks moved from an unfinished status to `FAILURE`, as stored. -/
  failed : Int → Option (TaskWriter × Task)
  refunds : List TaskRefund

def TaskCall.empty : TaskCall := ⟨fun _ => none, []⟩

/-- The visit has nothing left to do for what it has handled. -/
def TaskPlace.finished : TaskPlace → Bool
  | .idle | .polled _ => true
  | _ => false

/-- The failures from `db` to `db'`, added to the older ones. -/
def noteFailures (writer : TaskWriter) (db db' : TaskDb) (failed : Int → Option (TaskWriter × Task)) (id : Int) :
    Option (TaskWriter × Task) :=
  match db.tasks id, db'.tasks id with
  | some row, some row' =>
    if row.status.isFinal = false ∧ row'.status = .failure then some (writer, row') else failed id
  | _, _ => failed id

def TaskCall.next (call : TaskCall) (place : TaskPlace) (a : TaskInput) (db : TaskDb) (s : TaskPlace × TaskDb) :
    TaskCall :=
  let call := if place.finished then TaskCall.empty else call
  { failed := noteFailures (place.writer a.act) db s.2 call.failed
    refunds :=
      match place, s.1 with
      | .refund t _, .tokenKey _ _ _ => ⟨a.env, t, db.store, s.2.store⟩ :: call.refunds
      | _, _ => call.refunds }

def recordedStep (site : TaskSite) (p : TaskPlace × TaskCall) (a : TaskInput) (db : TaskDb) :
    (TaskPlace × TaskCall) × TaskDb :=
  (((taskStep site p.1 a db).1, p.2.next p.1 a db (taskStep site p.1 a db)), (taskStep site p.1 a db).2)

/-- The step makes a refund whose write fails. -/
def TaskPlace.refundFails : TaskPlace → TaskInput → TaskDb → Bool
  | .refund t _, a, db => decide (t.quota ≠ 0) && !(taskAdjustFunding a.env t (-t.quota) db.store).1.toBool
  | _, _, _ => false

/-! ## Assertions -/

/-- The charge of the task has been given back to the source that paid it. -/
def TaskCall.Refunded (call : TaskCall) (t : Task) : Prop :=
  ∃ r ∈ call.refunds, r.task = t ∧ FundingMoved r.env t (-t.quota) r.before r.after

/-- Whatever has to be refunded has been. -/
def TaskCall.Done (call : TaskCall) : Prop :=
  ∀ id writer row, call.failed id = some (writer, row) → writer.refunds = true → row.quota ≠ 0 → call.Refunded row

def TaskCall.Clean (call : TaskCall) : Prop := ∀ id, call.failed id = none

/-- What is owed before the visit goes on. -/
def AfterBilling.CallOk : AfterBilling → TaskCall → Prop
  | .save t, _ => t.status = .success
  | .sunoSave t, call => t.quota ≠ 0 → call.Refunded t
  | _, _ => True

def TaskPlace.CallOk : TaskPlace → TaskCall → Prop
  | .idle, call | .polled _, call => call.Done
  | .timedOut _ _ _, call | .fetched _, call => call.Clean
  -- only `t` may be owed, and the refund is next; a Suno task is saved after it
  | .refund t next, call =>
    (∀ id writer row, call.failed id = some (writer, row) → row = t) ∧
      match next with
      | .sunoSave t' => t' = t
      | .save _ => False
      | _ => True
  | .recalculate t _, call => call.Done ∧ t.status = .success
  | .tokenKey _ _ next, call | .tokenQuota _ _ next, call => call.Done ∧ next.CallOk call
  | .save t, call => call.Done ∧ t.status = .success
  | .sunoSave t, call => call.Done ∧ (t.status = .failure → t.quota ≠ 0 → call.Refunded t)

theorem TaskCall.Clean.done {call : TaskCall} (h : call.Clean) : call.Done := by
  intro id writer row hf
  rw [h id] at hf
  cases hf

theorem TaskCall.empty_clean : TaskCall.empty.Clean := fun _ => rfl

theorem AfterBilling.CallOk.place_ok {next : AfterBilling} {call : TaskCall} (hdone : call.Done) (h : next.CallOk call) :
    next.place.CallOk call := by
  cases next with
  | idle => exact hdone
  | polled t => exact hdone
  | save t => exact ⟨hdone, h⟩
  | sunoSave t => exact ⟨hdone, fun _ => h⟩

/-! ## The record of a step -/

section Notes

variable {writer : TaskWriter} {db db' : TaskDb} {failed : Int → Option (TaskWriter × Task)}

/-- A step that leaves the tasks alone fails none. -/
theorem noteFailures_same (h : db'.tasks = db.tasks) : noteFailures writer db db' failed = failed := by
  funext id
  unfold noteFailures
  rw [h]
  split
  · rename_i row row' hrow hrow'
    rw [hrow] at hrow'
    cases hrow'
    refine if_neg fun hcond => ?_
    rw [hcond.2] at hcond
    cases hcond.1
  · rfl

variable {id : Int} {w : TaskWriter} {row : Task}

theorem noteFailures_save {t : Task}
    (h : noteFailures writer db (db.save t) failed id = some (w, row)) :
    failed id = some (w, row) ∨ w = writer ∧ row = t ∧ t.status = .failure := by
  unfold noteFailures at h
  split at h
  · rename_i row₀ row' hrow hrow'
    split at h
    · rename_i hcond
      cases h
      by_cases hid : id = t.id
      · rw [db.save_tasks_of_eq t hid] at hrow'
        cases hrow'
        exact .inr ⟨rfl, rfl, hcond.2⟩
      · -- another row is as it was, so it cannot have become final
        rw [db.save_tasks_ne t hid, hrow] at hrow'
        cases hrow'
        rw [hcond.2] at hcond
        cases hcond.1
    · exact .inl h
  · exact .inl h

theorem noteFailures_writer
    (h : noteFailures writer db db' failed id = some (w, row)) : failed id = some (w, row) ∨ w = writer := by
  unfold noteFailures at h
  split at h
  · split at h
    · cases h; exact .inr rfl
    · exact .inl h
  · exact .inl h

end Notes

section Step

variable {a : TaskInput} {db db' : TaskDb} {place place' : TaskPlace} {call : TaskCall}

theorem next_clean (hfin : place.finished) (h : db'.tasks = db.tasks) :
    (call.next place a db (place', db')).Clean := by
  intro id
  simp only [TaskCall.next, hfin, noteFailures_same h]
  rfl

theorem callOk_keeps (hfin : place.finished = false) (h : db'.tasks = db.tasks)
    (hrefunds : (call.next place a db (place', db')).refunds = call.refunds) (hok : place'.CallOk call) :
    place'.CallOk (call.next place a db (place', db')) := by
  have hsame : call.next place a db (place', db') = ⟨call.failed, (call.next place a db (place', db')).refunds⟩ := by
    simp only [TaskCall.next, hfin, Bool.false_eq_true, if_false, noteFailures_same h]
  rw [hsame, hrefunds]
  exact hok

variable {t : Task} {next : AfterBilling}

/-- A sweep: the task is refunded next, unless it is a legacy one or has cost nothing. -/
theorem callOk_swept {minutes now : Int} (h : call.Clean) :
    (sweptPlace t minutes now).CallOk (call.next (.timedOut t minutes now) a db
      (sweptPlace t minutes now, db.save (timeOutTask t minutes now))) := by
  have hfailed : ∀ id w row, (call.next (.timedOut t minutes now) a db
      (sweptPlace t minutes now, db.save (timeOutTask t minutes now))).failed id = some (w, row) →
      w = .sweep (isLegacyTask t) ∧ row = timeOutTask t minutes now := by
    intro id w row hf
    obtain hf | ⟨hw, hrow, -⟩ := noteFailures_save hf
    · have hnone : call.failed id = none := h id
      simp only [finished, Bool.false_eq_true, if_false, hnone] at hf
      cases hf
    · exact ⟨hw, hrow⟩
  revert hfailed
  unfold sweptPlace
  split
  · exact fun hfailed => ⟨fun id w row hf => (hfailed id w row hf).2, trivial⟩
  · rename_i hcond
    intro hfailed id w row hf hw hq
    obtain ⟨rfl, rfl⟩ := hfailed id w row hf
    refine absurd ?_ hcond
    have hq' : t.quota ≠ 0 := hq
    simp only [TaskWriter.refunds] at hw
    simp [hw, hq']

theorem callOk_refunded {st : Store} (h : (refund t next).CallOk call)
    (hmoved : FundingMoved a.env t (-t.quota) db.store st) :
    (tokenKey t (-t.quota) next).CallOk
      (call.next (.refund t next) a db (.tokenKey t (-t.quota) next, { db with store := st })) := by
  obtain ⟨howed, hnext⟩ := h
  have hrefunded : (call.next (.refund t next) a db (.tokenKey t (-t.quota) next, { db with store := st })).Refunded t :=
    ⟨⟨a.env, t, db.store, st⟩, by simp [TaskCall.next], rfl, hmoved⟩
  refine ⟨fun id w row hf _ _ => ?_, ?_⟩
  · have hsame : noteFailures .poll db { db with store := st } call.failed = call.failed := noteFailures_same rfl
    have hf' : call.failed id = some (w, row) := by rw [← hsame]; exact hf
    rw [howed id w row hf']
    exact hrefunded
  · cases next with
    | sunoSave t' => subst hnext; exact fun _ => hrefunded
    | save t' => exact hnext.elim
    | _ => trivial

theorem callOk_skipped (h : (refund t next).CallOk call)
    (hwrites : (refund t next).refundFails a db = false)
    (hskip : t.quota = 0 ∨ ∃ err, taskAdjustFunding a.env t (-t.quota) db.store = (.error err, db.store)) :
    next.place.CallOk (call.next (.refund t next) a db (next.place, db)) := by
  obtain ⟨howed, hnext⟩ := h
  -- the write has not failed, so there was nothing to refund
  have hq : t.quota = 0 := by
    obtain hq | ⟨err, herr⟩ := hskip
    · exact hq
    · by_contra hq
      simp [refundFails, herr, hq, Except.toBool] at hwrites
  have hdone : call.Done := fun id w row hf _ hrow => absurd (by rw [howed id w row hf]; exact hq) hrow
  refine callOk_keeps rfl rfl (by cases next <;> rfl) (AfterBilling.CallOk.place_ok hdone ?_)
  cases next with
  | sunoSave t' => subst hnext; exact fun hq' => absurd hq hq'
  | save t' => exact hnext.elim
  | _ => trivial

/-- **One statement** of a visit whose refund writes succeed. -/
theorem callOk_of_trans (htrans : TaskTrans a db place place' db') (h : place.CallOk call)
    (hwrites : place.refundFails a db = false) : place'.CallOk (call.next place a db (place', db')) := by
  cases htrans with
  | waits hwait =>
    cases place with
    | idle | polled t => exact (next_clean rfl rfl).done
    | fetched t => exact callOk_keeps rfl rfl rfl h
    | _ => cases hwait
  | losesSweep | endsFetch => exact callOk_keeps rfl rfl rfl h.done
  | endsRound | readsUnfinished | edits => exact (next_clean rfl rfl).done
  | readsTimedOut | readsForUser => exact next_clean rfl rfl
  | @sweeps t minutes now hst => exact callOk_swept h
  | @moves t t' place' reply hact hup hst hbill =>
    have hfailed : ∀ id w row, (call.next (.polled t) a db (place', db.save t')).failed id = some (w, row) →
        w = (polled t).writer a.act ∧ row = t' ∧ t'.status = .failure :=
      fun id w row h => (noteFailures_save h).resolve_left nofun
    cases hbill with
    | none hq =>
      intro id w row hf _ hrow
      obtain ⟨-, rfl, hst⟩ := hfailed id w row hf
      exact absurd (hq hst) hrow
    | refund hf hq => exact ⟨fun id w row h => (hfailed id w row h).2.1, trivial⟩
    | settle hs actual =>
      refine ⟨fun id w row hf _ _ => ?_, hs⟩
      obtain ⟨-, -, hst⟩ := hfailed id w row hf
      rw [hs] at hst
      cases hst
  | @billsAgain t t' place' reply hact hup hfinal hsame hbill =>
    have hclean : (call.next (.polled t) a db (place', db)).Clean := next_clean rfl rfl
    cases hbill with
    | none => exact hclean.done
    | refund hf hq =>
      refine ⟨fun id w row h => ?_, trivial⟩
      rw [hclean id] at h
      cases h
    | settle hs actual => exact ⟨hclean.done, hs⟩
  | @sunoFailure t t' item hact hup hs hf hp =>
    have hclean : (call.next (.polled t) a db (.refund t' (.sunoSave t'), db)).Clean := next_clean rfl rfl
    refine ⟨fun id w row h => ?_, rfl⟩
    rw [hclean id] at h
    cases h
  | sunoUpdate hup hs hf => exact ⟨(next_clean rfl rfl).done, fun hf' => absurd hf' hf⟩
  | @bulkFails t place' reason hact hplace =>
    have hdone : (call.next (.polled t) a db (place', db.taskBulkUpdateByID [t.id] reason)).Done := by
      intro id w row hf hw
      obtain hf | rfl := noteFailures_writer hf
      · cases hf
      · obtain hact | hact := hact <;> · rw [hact] at hw; cases hw
    obtain rfl | rfl := hplace <;> exact hdone
  | @refunds t next st hq hok hmoved => exact callOk_refunded h hmoved
  | @skipsRefund t next hskip => exact callOk_skipped h hwrites hskip
  | settles | readsToken => exact callOk_keeps rfl rfl rfl h
  | skipsSettlement | losesSave | losesSunoSave => exact callOk_keeps rfl rfl rfl h.1
  | skipsToken | adjustsToken => exact callOk_keeps rfl rfl rfl (AfterBilling.CallOk.place_ok h.1 h.2)
  | @saves t =>
    obtain ⟨hdone, hst⟩ := h
    intro id w row hf hw hq
    obtain hf | ⟨-, -, hst'⟩ := noteFailures_save hf
    · exact hdone id w row hf hw hq
    · rw [hst] at hst'
      cases hst'
  | @savesSuno t =>
    obtain ⟨hdone, hrefunded⟩ := h
    intro id w row hf hw hq
    obtain hf | ⟨-, rfl, hst⟩ := noteFailures_save hf
    · exact hdone id w row hf hw hq
    · exact hrefunded hst hq
  | @storesFetch t t' info hact hup hst =>
    intro id w row hf hw hq
    obtain hf | ⟨rfl, -⟩ := noteFailures_save hf
    · have hnone : call.failed id = none := h id
      simp only [finished, Bool.false_eq_true, if_false, hnone] at hf
      cases hf
    · cases hw

end Step

/-! ## Runs -/

section Runs

variable {ι : Type*} [DecidableEq ι] {site : TaskSite} {c : Sys ι TaskDb (TaskPlace × TaskCall)}

/-- If the step makes a refund, its write succeeds. -/
def RefundSucceeds (c : Sys ι TaskDb (TaskPlace × TaskCall)) (a : ι × TaskInput) : Prop :=
  (c.procs a.1).1.refundFails a.2 c.shared = false

instance (c : Sys ι TaskDb (TaskPlace × TaskCall)) (a : ι × TaskInput) : Decidable (RefundSucceeds c a) :=
  inferInstanceAs (Decidable (_ = _))

/-- **A failed task is not kept charged.** In every interleaving of the writers of tasks, whenever a polling loop, or a
sweep of a task that is not of the old system, has moved a task with a quota from an unfinished status to `FAILURE` and
has finished with it, it has given the quota back to the source that paid. -/
theorem failed_task_refunded {actions : List (ι × TaskInput)} (hidle : ∀ i, c.procs i = (.idle, .empty))
    (hwrites : Along (Sys.step (recordedStep site)) RefundSucceeds c actions) :
    Always (Sys.step (recordedStep site))
      (fun c => ∀ i, (c.procs i).1.finished = true → ∀ id writer row,
        (c.procs i).2.failed id = some (writer, row) → writer.refunds = true → row.quota ≠ 0 →
          ∃ r ∈ (c.procs i).2.refunds, r.task = row ∧ FundingMoved r.env row (-row.quota) r.before r.after) c actions := by
  refine always_of_inv (I := fun c => c.Asserts fun _ p _ => p.1.CallOk p.2) (fun c a hc h => Sys.step_asserts
    (callOk_of_trans (taskStep_trans site (c.procs a.1).1 a.2 c.shared) (h a.1) hc) fun j _ => h j)
    (fun c h i hfin => ?_) hwrites fun i => by rw [hidle i]; exact TaskCall.empty_clean.done
  have hi : (c.procs i).1.CallOk (c.procs i).2 := h i
  generalize c.procs i = p at hi hfin ⊢
  obtain ⟨place, call⟩ := p
  cases place with
  | idle => exact hi
  | polled t => exact hi
  | _ => cases hfin

end Runs

namespace Sample

def auditedNodes (t : Task) : Sys Bool TaskDb (TaskPlace × TaskCall) where
  shared := (taskNodes t).shared
  procs _ := (.idle, .empty)

def failedPoll : List (Bool × TaskInput) :=
  visits [(true, .poll 1), (true, videoAnswer .failure 0), (true, .go), (true, .go), (true, .go)]

end Sample

open Sample

/-- The failed poll has refunded the 40 of the task. -/
theorem failed_task_refunded_sample :
    (∃ writer row, ((run (Sys.step (recordedStep site)) (auditedNodes task)
        failedPoll).procs true).2.failed 1 = some (writer, row) ∧ writer.refunds = true ∧ row.quota ≠ 0) ∧
      ∀ writer row, ((run (Sys.step (recordedStep site)) (auditedNodes task)
        failedPoll).procs true).2.failed 1 = some (writer, row) → writer.refunds = true → row.quota ≠ 0 →
          ∃ r ∈ ((run (Sys.step (recordedStep site)) (auditedNodes task)
            failedPoll).procs true).2.refunds,
            r.task = row ∧ FundingMoved r.env row (-row.quota) r.before r.after := by
  have hwrites : Along (Sys.step (recordedStep site)) RefundSucceeds (auditedNodes task)
      failedPoll := by decide +kernel
  have hrun := (failed_task_refunded (fun _ => rfl) hwrites).last
  refine ⟨⟨.poll, { task with
    status := .failure, progress := "100%", failReason := "broken", finishTime := 1800000100, data := "body" }, ?_⟩,
    hrun true (by decide +kernel) 1⟩
  decide +kernel

/-- A sweep fails a task of the old system, and is done without a refund. -/
theorem legacy_task_not_refunded :
    let c := run (Sys.step (recordedStep site)) (auditedNodes { task with submitTime := 1700000000 })
      (visits [(true, sweepTask1), (true, .go)])
    (c.procs true).1.finished = true ∧
      (c.procs true).2.failed 1 =
        some (.sweep true, timeOutTask { task with submitTime := 1700000000 } 10 1800100000) ∧
      (c.procs true).2.refunds.length = 0 := by
  decide +kernel

end SynthApi
