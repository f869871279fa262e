import SynthApi.Service.TaskTransitions

/-!
# Final statuses of tasks

Sweeps, polls and fetches of all tasks, in any interleaving. A guarded write replaces the status that its copy has been
read with, so it leaves a final row alone as long as the copy itself is not final. The unguarded writes have no such
protection, with one exception: the `Update` that stores a settled quota comes after its own visit has stored `SUCCESS`,
and writes `SUCCESS` again (`AbsorbOk`).

`final_status_kept` says that in a run without a step that `overwrites` a final row no final status changes. Without the
condition the status does change: `fetch_reopens_task` is a fetch of a finished task.
-/

namespace SynthApi

open Lib

/-- The step may write over a final row: an unguarded write while the row is final, or a guarded one whose copy is. -/
def TaskPlace.overwrites : TaskPlace → TaskAct → TaskDb → Bool
  | .polled t, .video _, _ => t.status.isFinal
  | .polled t, .nullTaskId, db => (db.tasks t.id).any (·.status.isFinal)
  | .polled t, .noChannel, db => (db.tasks t.id).any (·.status.isFinal)
  | .fetched t, .realtime _, _ => t.status.isFinal
  | .sunoSave t, _, db => (db.tasks t.id).any (·.status.isFinal)
  | _, _, _ => false

def TaskDb.FinalKept (db db' : TaskDb) : Prop :=
  ∀ id s, db.status id = some s → s.isFinal = true → db'.status id = some s

/-! ## Assertions -/

/-- The copy is successful, and so is the row. -/
def Succeeded (t : Task) (db : TaskDb) : Prop := t.status = .success ∧ db.status t.id = some .success

def AfterBilling.AbsorbOk : AfterBilling → TaskDb → Prop
  | .save t, db => Succeeded t db
  | _, _ => True

/-- What a visit knows about statuses. -/
def TaskPlace.AbsorbOk : TaskPlace → TaskDb → Prop
  | .timedOut t _ _, _ => t.status.isFinal = false
  | .refund _ next, db | .tokenKey _ _ next, db | .tokenQuota _ _ next, db => next.AbsorbOk db
  | .recalculate t _, db | .save t, db => Succeeded t db
  | _, _ => True

section Step

variable {a : TaskInput} {db db' : TaskDb} {place place' : TaskPlace}

theorem TaskDb.FinalKept.refl (db : TaskDb) : db.FinalKept db := fun _ _ h _ => h

variable {t : Task} {s : TaskStatus} {next : AfterBilling}

/-- A row may be written if that keeps its final status. -/
theorem TaskDb.FinalKept.save (h : ∀ s, db.status t.id = some s → s.isFinal → t.status = s) :
    db.FinalKept (db.save t) := by
  intro id s hs hf
  by_cases hid : id = t.id
  · subst hid
    rw [TaskDb.save_status_self, h s hs hf]
  · rw [TaskDb.save_status_ne db t hid]
    exact hs

theorem TaskDb.FinalKept.save_over (hs : db.status t.id = some s) (hf : s.isFinal = false) :
    db.FinalKept (db.save t) := by
  refine .save fun s' hs' hf' => ?_
  rw [hs] at hs'
  cases hs'
  rw [hf] at hf'
  cases hf'

theorem not_final_of_any {id : Int} (h : (db.tasks id).any (·.status.isFinal) = false)
    (hs : db.status id = some s) : s.isFinal = false := by
  obtain ⟨row, hrow, rfl⟩ := Option.map_eq_some_iff.1 hs
  rw [hrow] at h
  exact h

/-- **One statement** that does not overwrite a final row keeps all final statuses. -/
theorem finalKept_of_trans (htrans : TaskTrans a db place place' db') (h : place.AbsorbOk db)
    (hover : place.overwrites a.act db = false) : db.FinalKept db' := by
  cases htrans with
  | sweeps hst => exact .save_over hst h
  | @moves t t' _ reply hact hup hst | @storesFetch t t' info hact hup hst =>
    rw [hact] at hover
    rw [← hup.id] at hst
    exact .save_over hst hover
  | @bulkFails t _ reason hact =>
    have hnf : (db.tasks t.id).any (·.status.isFinal) = false := by
      obtain hact | hact := hact <;> · rw [hact] at hover; exact hover
    intro id s hs hf
    by_cases hid : id = t.id
    · subst hid
      rw [not_final_of_any hnf hs] at hf
      cases hf
    · simpa [TaskDb.status, TaskDb.taskBulkUpdateByID, hid] using hs
  | @saves t =>
    refine .save fun s hs _ => ?_
    rw [h.2] at hs
    cases hs
    exact h.1
  | @savesSuno t =>
    refine .save fun s hs hf => ?_
    rw [not_final_of_any hover hs] at hf
    cases hf
  | _ => exact .refl db

theorem Succeeded.kept (h : Succeeded t db) (hk : db.FinalKept db') : Succeeded t db' :=
  ⟨h.1, hk _ _ h.2 rfl⟩

theorem AfterBilling.AbsorbOk.kept (h : next.AbsorbOk db) (hk : db.FinalKept db') :
    next.AbsorbOk db' := by
  cases next with
  | save t => exact Succeeded.kept h hk
  | _ => trivial

theorem TaskPlace.AbsorbOk.kept (h : place.AbsorbOk db) (hk : db.FinalKept db') : place.AbsorbOk db' := by
  cases place with
  | timedOut t minutes now => exact h
  | refund t next | tokenKey t delta next | tokenQuota t delta next => exact AfterBilling.AbsorbOk.kept h hk
  | recalculate t actualQuota | save t => exact Succeeded.kept h hk
  | _ => trivial

theorem AfterBilling.AbsorbOk.place_ok (h : next.AbsorbOk db) : next.place.AbsorbOk db := by
  cases next with
  | save t => exact h
  | _ => trivial

theorem absorbOk_of_trans (htrans : TaskTrans a db place place' db') (h : place.AbsorbOk db)
    (hover : place.overwrites a.act db = false) : place'.AbsorbOk db' := by
  have hk := finalKept_of_trans htrans h hover
  cases htrans with
  | waits => exact h
  | readsTimedOut minutes now hid hrow hu => exact Task.not_final_of_unfinished hu
  | sweeps =>
    unfold sweptPlace
    split <;> trivial
  | @moves t t' place' reply hact hup hst hbill =>
    cases hbill with
    | settle hs actual => exact ⟨hs, by rw [TaskDb.save_status_self, hs]⟩
    | _ => trivial
  | billsAgain hact hup hfinal =>
    rw [hact] at hover
    exact absurd (hfinal.symm.trans hover) (by decide)
  | bulkFails reason hact hplace => obtain rfl | rfl := hplace <;> trivial
  | refunds => exact AfterBilling.AbsorbOk.kept h hk
  | skipsRefund | skipsToken => exact AfterBilling.AbsorbOk.place_ok h
  | @settles t actualQuota =>
    obtain ⟨hs, hrow⟩ := Succeeded.kept h hk
    exact ⟨hs, hrow⟩
  | readsToken => exact h
  | adjustsToken => exact AfterBilling.AbsorbOk.place_ok (AfterBilling.AbsorbOk.kept h hk)
  | _ => trivial

end Step

/-! ## Runs -/

section Runs

variable {ι : Type*} [DecidableEq ι] {site : TaskSite} {c : Sys ι TaskDb TaskPlace}

/-- The step does not overwrite a final row. -/
def NoOverwrite (c : Sys ι TaskDb TaskPlace) (a : ι × TaskInput) : Prop :=
  (c.procs a.1).overwrites a.2.act c.shared = false

instance (c : Sys ι TaskDb TaskPlace) (a : ι × TaskInput) : Decidable (NoOverwrite c a) :=
  inferInstanceAs (Decidable (_ = _))

theorem absorb_step {a : ι × TaskInput} (hover : NoOverwrite c a) (h : c.Asserts fun _ place db => place.AbsorbOk db) :
    (Sys.step (taskStep site) c a).Asserts fun _ place db => place.AbsorbOk db := by
  have htrans := taskStep_trans site (c.procs a.1) a.2 c.shared
  exact Sys.step_asserts (absorbOk_of_trans htrans (h a.1) hover) fun j _ =>
    (h j).kept (finalKept_of_trans htrans (h a.1) hover)

/-- **Final statuses are absorbing.** In every interleaving of sweeps, polling rounds and fetches in which no step
overwrites a final row, no step changes a status `SUCCESS` or `FAILURE`. -/
theorem final_status_kept {actions : List (ι × TaskInput)} (hidle : ∀ i, c.procs i = .idle)
    (hover : Along (Sys.step (taskStep site)) NoOverwrite c actions) :
    Along (Sys.step (taskStep site))
      (fun c a => ∀ id s, c.shared.status id = some s → s.isFinal = true →
        (Sys.step (taskStep site) c a).shared.status id = some s) c actions := by
  refine along_of_inv (fun c a hc h => absorb_step hc h) (fun c a hc h => ?_) hover fun i => by rw [hidle i]; trivial
  exact finalKept_of_trans (taskStep_trans site (c.procs a.1) a.2 c.shared) (h a.1) hc

end Runs

open Sample

/-- A poll settles the task while a sweep holds an older copy. -/
theorem final_status_kept_sample :
    Along (Sys.step (taskStep site))
        (fun c a => ∀ id s, c.shared.status id = some s → s.isFinal = true →
          (Sys.step (taskStep site) c a).shared.status id = some s) (taskNodes task)
        (visits [(true, .poll 1), (false, sweepTask1), (true, videoAnswer .success 45), (false, .go),
          (true, .go), (true, .go), (true, .go), (true, .go)]) ∧
      (run (Sys.step (taskStep site)) (taskNodes task)
        (visits [(true, .poll 1), (false, sweepTask1), (true, videoAnswer .success 45),
          (false, .go)])).shared.status 1 = some .success :=
  ⟨final_status_kept (fun _ => rfl) (by decide +kernel), by decide +kernel⟩

/-- A user fetches a successful task; the upstream has forgotten it and answers that it failed. -/
theorem fetch_reopens_task :
    (taskNodes { task with status := .success, progress := "100%" }).shared.status 1 = some .success ∧
      (run (Sys.step (taskStep site)) (taskNodes { task with status := .success, progress := "100%" })
        (visits [(true, .fetch 1 1 "task_1"), (true, .realtime (some (failTaskInfo "not found")))])).shared.status 1 =
          some .failure := by
  decide +kernel

end SynthApi
