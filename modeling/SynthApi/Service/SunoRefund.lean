import SynthApi.Service.TaskSettlement

/-!
# Refunds of Suno tasks

`updateSunoTasks` refunds a failed task before it stores the failure, and stores it without a guard. So two nodes that
hold copies of the task refund it twice (`suno_task_refunded_twice`). `suno_task_refunded_once` is what holds: the quota
is given back at most once in a run whose nodes leave each other alone (`SunoUndisturbed`) — no node refunds or saves
the task while another one has a copy of it, none sweeps it while another one polls it — whose answers count as a
failure once for a copy, and whose saves succeed.

The run goes through phases. At first nobody has refunded (`SunoOpen`). A poll that refunds holds the task until it has
saved it, a sweep has stored the failure already when it refunds; in both cases the task ends with progress `100%` and
is not read again (`SunoSpent`).
-/

namespace SynthApi

open Lib Sys

/-! ## The condition -/

def TaskAct.ofSuno (id : Int) : TaskAct → Bool
  | .sweep id' _ _ | .poll id' => decide (id' = id)
  | .suno _ | .finish | .go => true
  | _ => false

namespace TaskPlace

def isIdle : TaskPlace → Bool
  | .idle => true
  | _ => false

/-- The visit works on a copy of a Suno round. -/
def holdsSuno : TaskPlace → Bool
  | .polled _ | .refund _ (.sunoSave _) | .tokenKey _ _ (.sunoSave _) | .tokenQuota _ _ (.sunoSave _) | .sunoSave _ => true
  | _ => false

def touchesSuno : TaskPlace → Bool
  | .refund _ (.sunoSave _) | .sunoSave _ => true
  | _ => false

def savesSuno : TaskPlace → Bool
  | .sunoSave _ => true
  | _ => false

def sweeps : TaskPlace → Bool
  | .timedOut _ _ _ => true
  | _ => false

/-- The item counts as a failure of a copy that has failed already. -/
def failsAgain : TaskPlace → TaskAct → Bool
  | .polled t, .suno item => sunoFails t item && decide (t.progress = "100%")
  | _, _ => false

end TaskPlace

section Condition

variable {ι : Type*}

/-- The nodes leave each other alone, and the save succeeds. -/
def SunoUndisturbed (c : Sys ι TaskDb TaskPlace) (a : ι × TaskInput) : Prop :=
  (c.procs a.1).failsAgain a.2.act = false ∧
    ((c.procs a.1).savesSuno = true → a.2.fault = none) ∧
    ((c.procs a.1).touchesSuno = true → ∀ j, j ≠ a.1 → (c.procs j).isIdle = true) ∧
    ((c.procs a.1).sweeps = true → ∀ j, j ≠ a.1 → (c.procs j).holdsSuno = false)

instance (c : Sys Bool TaskDb TaskPlace) (a : Bool × TaskInput) : Decidable (SunoUndisturbed c a) :=
  inferInstanceAs (Decidable (_ ∧ (_ → _) ∧ (_ → _) ∧ (_ → _)))

end Condition

/-! ## Phases -/

/-- A visit that has not refunded, nor failed the task as a sweep. -/
def TaskPlace.Plain (id : Int) : TaskPlace → Prop
  | .idle => True
  | .timedOut t _ _ => t.id = id ∧ t.status.isFinal = false
  | .polled t | .sunoSave t => t.id = id
  | .refund t (.sunoSave t') => t' = t ∧ t.id = id ∧ t.progress = "100%"
  | _ => False

/-- A visit that has refunded and not saved. -/
def TaskPlace.Held (id : Int) : TaskPlace → Prop
  | .tokenKey _ _ (.sunoSave t) | .tokenQuota _ _ (.sunoSave t) | .sunoSave t => t.id = id ∧ t.progress = "100%"
  | _ => False

/-- A visit to a task that is done: its sweep will lose, and it has nothing to refund. -/
def TaskPlace.Over (id : Int) (row : Task) : TaskPlace → Prop
  | .idle | .tokenKey _ _ .idle | .tokenQuota _ _ .idle => True
  | .timedOut t _ _ => t.id = id ∧ t.status.isFinal = false ∧ row.status = .failure
  | .polled t | .sunoSave t => t.id = id ∧ t.progress = "100%"
  | _ => False

def DoneRow (id : Int) (row : Task) (db : TaskDb) : Prop :=
  db.tasks id = some row ∧ row.id = id ∧ row.progress = "100%"

/-- The rows of the table have their own key. -/
def KeyOk (id : Int) (db : TaskDb) : Prop := ∀ row, db.tasks id = some row → row.id = id

section Phases

variable {ι : Type*} (id : Int) (c : Sys ι TaskDb TaskPlace)

inductive SunoOpen : Prop
  | plain (hkey : KeyOk id c.shared) (h : ∀ i, (c.procs i).Plain id)
  | sweeping (i : ι) (t : Task) (hi : c.procs i = .refund t .idle) (row : Task) (hrow : DoneRow id row c.shared)
      (h : ∀ j, j ≠ i → (c.procs j).Over id row)

inductive SunoSpent : Prop
  | held (hkey : KeyOk id c.shared) (i : ι) (hi : (c.procs i).Held id) (h : ∀ j, j ≠ i → (c.procs j).Plain id)
  | settled (row : Task) (hrow : DoneRow id row c.shared) (h : ∀ i, (c.procs i).Over id row)

end Phases

/-! ## One statement -/

section Step

variable {id : Int} {a : TaskInput} {db db' : TaskDb} {place place' : TaskPlace}

theorem KeyOk.save {t : Task} (h : t.id = id) : KeyOk id (db.save t) := by
  intro row hrow
  rw [db.save_tasks_of_eq t h.symm] at hrow
  cases hrow
  exact h

variable (htrans : TaskTrans a db place place' db')

include htrans

/-- A plain visit stays plain, or it refunds, or it is a sweep that has failed the task and owes the refund. -/
theorem plain_step (h : place.Plain id) (hkey : KeyOk id db)
    (hact : a.act.ofSuno id) :
    (place'.Plain id ∧ KeyOk id db') ∨
      (∃ t delta, place = .refund t (.sunoSave t) ∧ place' = .tokenKey t delta (.sunoSave t) ∧ place'.Held id ∧
        KeyOk id db') ∨
      ∃ t t' minutes now, place = .timedOut t minutes now ∧ place' = .refund t' .idle ∧ DoneRow id t' db' ∧
        t'.status = .failure := by
  cases htrans with
  | waits => exact .inl ⟨h, hkey⟩
  | losesSweep | endsRound => exact .inl ⟨trivial, hkey⟩
  | endsFetch => exact h.elim
  | readsTimedOut minutes now hid hrow hu =>
    rw [hid] at hact
    obtain rfl := of_decide_eq_true hact
    exact .inl ⟨⟨hkey _ hrow, Task.not_final_of_unfinished hu⟩, hkey⟩
  | readsUnfinished hid hrow hu =>
    rw [hid] at hact
    obtain rfl := of_decide_eq_true hact
    exact .inl ⟨hkey _ hrow, hkey⟩
  | readsForUser hother | edits hother | moves hother | billsAgain hother => rw [hother] at hact; cases hact
  | @sweeps t minutes now hst =>
    have hid : (timeOutTask t minutes now).id = id := h.1
    unfold sweptPlace
    split
    · refine .inr (.inr ⟨t, _, minutes, now, rfl, rfl, ⟨?_, hid, rfl⟩, rfl⟩)
      exact db.save_tasks_of_eq (timeOutTask t minutes now) hid.symm
    · exact .inl ⟨trivial, .save hid⟩
  | sunoFailure hsuno hup hs hf hp => exact .inl ⟨⟨rfl, hup.id.trans h, hp⟩, hkey⟩
  | sunoUpdate hup => exact .inl ⟨hup.id.trans h, hkey⟩
  | bulkFails reason hbulk => obtain hbulk | hbulk := hbulk <;> · rw [hbulk] at hact; cases hact
  | @refunds t next st hq hok hmoved =>
    cases next with
    | sunoSave t' =>
      obtain ⟨rfl, hid, hp⟩ := h
      exact .inr (.inl ⟨_, _, rfl, rfl, ⟨hid, hp⟩, hkey⟩)
    | _ => exact h.elim
  | @skipsRefund t next hskip =>
    cases next with
    | sunoSave t' =>
      obtain ⟨rfl, hid, hp⟩ := h
      exact .inl ⟨hid, hkey⟩
    | _ => exact h.elim
  | savesSuno => exact .inl ⟨h, .save h⟩
  | losesSunoSave => exact .inl ⟨h, hkey⟩
  | _ => exact h.elim

theorem held_step (h : place.Held id) (hkey : KeyOk id db)
    (hfault : place.savesSuno → a.fault = none) :
    (place'.Held id ∧ KeyOk id db') ∨
      ∃ t, place = .sunoSave t ∧ place' = .polled t ∧ DoneRow id t db' := by
  cases htrans with
  | waits => exact .inl ⟨h, hkey⟩
  | @skipsToken t delta next | @readsToken t delta next | @adjustsToken t delta next =>
    cases next with
    | sunoSave t' => exact .inl ⟨h, hkey⟩
    | _ => exact h.elim
  | @savesSuno t => exact .inr ⟨t, rfl, rfl, db.save_tasks_of_eq t h.1.symm, h.1, h.2⟩
  | losesSunoSave hf => exact absurd (hfault rfl) hf
  | _ => exact h.elim

theorem over_step {row : Task} (h : place.Over id row)
    (hrow : DoneRow id row db) (hact : a.act.ofSuno id) (hagain : place.failsAgain a.act = false) :
    (place'.Over id row ∧ DoneRow id row db') ∨
      ∃ t, place = .sunoSave t ∧ place' = .polled t ∧ t.progress = "100%" ∧ DoneRow id t db' := by
  have hread : ∀ {id' : Int} {row' : Task}, id' = id → db.tasks id' = some row' → row'.unfinished → False := by
    rintro id' row' rfl hrow' hu
    rw [hrow.1] at hrow'
    cases hrow'
    exact Task.progress_of_unfinished hu hrow.2.2
  cases htrans with
  | waits => exact .inl ⟨h, hrow⟩
  | losesSweep | endsRound => exact .inl ⟨trivial, hrow⟩
  | readsTimedOut _ _ hid hrow' hu | readsUnfinished hid hrow' hu =>
    rw [hid] at hact
    exact (hread (of_decide_eq_true hact) hrow' hu).elim
  | readsForUser hother | edits hother | moves hother | billsAgain hother => rw [hother] at hact; cases hact
  | sweeps hst =>
    -- the guard fails: the row is final and the copy is not
    obtain ⟨hid, hnf, hf⟩ := h
    rw [hid, TaskDb.status_of_tasks hrow.1, hf] at hst
    rw [← Option.some.inj hst] at hnf
    cases hnf
  | sunoFailure hsuno hup hs hf =>
    rw [hsuno] at hagain
    simp [TaskPlace.failsAgain, hf, h.2] at hagain
  | sunoUpdate hup hs hf hp => exact .inl ⟨⟨hup.id.trans h.1, hp h.2⟩, hrow⟩
  | bulkFails reason hbulk => obtain hbulk | hbulk := hbulk <;> · rw [hbulk] at hact; cases hact
  | @skipsToken t delta next | @readsToken t delta next | @adjustsToken t delta next =>
    cases next with
    | idle => exact .inl ⟨trivial, hrow⟩
    | _ => exact h.elim
  | @savesSuno t => exact .inr ⟨t, rfl, rfl, h.2, db.save_tasks_of_eq t h.1.symm, h.1, h.2⟩
  | losesSunoSave => exact .inl ⟨h, hrow⟩
  | _ => exact h.elim

end Step

/-! ## Runs -/

section Runs

variable {ι : Type*} [DecidableEq ι] {site : TaskSite} {id : Int} {c : Sys ι TaskDb TaskPlace} {a : ι × TaskInput}

/-- What the steps of the run have in common. -/
def SunoStep (id : Int) (c : Sys ι TaskDb TaskPlace) (a : ι × TaskInput) : Prop :=
  a.2.act.ofSuno id = true ∧ SunoUndisturbed c a

variable {place : TaskPlace} {row : Task}

theorem TaskPlace.Over.of_idle (h : place.isIdle) : place.Over id row := by
  cases place with
  | idle => trivial
  | _ => cases h

theorem TaskPlace.Over.not_owes (h : place.Over id row) : place.owes = false := by
  cases place <;> first | rfl | exact h.elim

theorem TaskPlace.Held.holdsSuno (h : place.Held id) : place.holdsSuno := by
  unfold TaskPlace.Held at h
  split at h <;> first | rfl | exact h.elim

theorem TaskPlace.Held.not_idle (h : place.Held id) : place.isIdle = false := by
  cases place <;> first | rfl | exact h.elim

/-- The others of a sweep that has failed the task. -/
theorem TaskPlace.Plain.toOver (h : place.Plain id) (hs : place.holdsSuno = false)
    (hrow : row.status = .failure) : place.Over id row := by
  unfold TaskPlace.Plain at h
  split at h
  · trivial
  · exact ⟨h.1, h.2, hrow⟩
  · cases hs
  · cases hs
  · cases hs
  · exact h.elim

omit [DecidableEq ι] in
theorem no_move_of_plain (h : (taskStep site (c.procs a.1) a.2 c.shared).1.Plain id) : fundingMoves site c a = [] := by
  obtain hnil | ⟨-, -, t, delta, next, hplace⟩ := fundingMoves_cases site c a
  · exact hnil
  · rw [hplace] at h; exact h.elim

omit [DecidableEq ι] in
theorem no_move_of_owes (h : (c.procs a.1).owes = false) : fundingMoves site c a = [] := by
  obtain hnil | ⟨-, howes, -⟩ := fundingMoves_cases site c a
  · exact hnil
  · rw [h] at howes; cases howes

theorem over_run (hc : SunoStep id c a) (hrow : DoneRow id row c.shared)
    (h : ∀ i, (c.procs i).Over id row) : fundingMoves site c a = [] ∧ SunoSpent id (Sys.step (taskStep site) c a) := by
  obtain ⟨hact, hagain, -, hsave, -⟩ := hc
  have hown := h a.1
  refine ⟨no_move_of_owes hown.not_owes, ?_⟩
  obtain ⟨hover, hrow'⟩ | ⟨t, hplace, hplace', hp, hrow'⟩ :=
    over_step (taskStep_trans site (c.procs a.1) a.2 c.shared) hown hrow hact hagain
  · exact .settled row hrow' (step_procs_of hover fun j _ => h j)
  · refine .settled t hrow' (step_procs_of ?_ fun j hj => ?_)
    · rw [hplace']
      exact ⟨hrow'.2.1, hp⟩
    · exact .of_idle (hsave (by rw [hplace]; rfl) j hj)

/-- **After a refund** there is no other. -/
theorem spent_run (hc : SunoStep id c a) (h : SunoSpent id c) :
    fundingMoves site c a = [] ∧ SunoSpent id (Sys.step (taskStep site) c a) := by
  cases h with
  | settled row hrow h => exact over_run hc hrow h
  | held hkey i hi h =>
    obtain ⟨hact, -, hfault, hsave, hsweep⟩ := hc
    have htrans := taskStep_trans site (c.procs a.1) a.2 c.shared
    by_cases hia : i = a.1
    · subst hia
      refine ⟨no_move_of_owes ?_, ?_⟩
      · cases hplace : c.procs a.1 <;> rw [hplace] at hi <;> first | rfl | exact hi.elim
      · obtain ⟨hheld, hkey'⟩ | ⟨t, hplace, hplace', hrow'⟩ := held_step htrans hi hkey hfault
        · refine .held hkey' a.1 (by rw [step_procs_self]; exact hheld) fun j hj => ?_
          rw [step_procs_ne hj]
          exact h j hj
        · refine .settled t hrow' (step_procs_of ?_ fun j hj => ?_)
          · rw [hplace']
            exact hrow'.2
          · exact .of_idle (hsave (by rw [hplace]; rfl) j hj)
    · -- another visit: the one that holds the task keeps it from refunding, saving and sweeping
      obtain ⟨hplain, hkey'⟩ | ⟨t, delta, hplace, -⟩ | ⟨t, t', minutes, now, hplace, -⟩ :=
        plain_step htrans (h a.1 (Ne.symm hia)) hkey hact
      · refine ⟨no_move_of_plain hplain, .held hkey' i (by rw [step_procs_ne hia]; exact hi) ?_⟩
        exact step_procs_of (P := fun j (place : TaskPlace) => j ≠ i → place.Plain id) (fun _ => hplain) fun j _ => h j
      · have := hsave (by rw [hplace]; rfl) i hia
        rw [hi.not_idle] at this
        cases this
      · have := hsweep (by rw [hplace]; rfl) i hia
        rw [hi.holdsSuno] at this
        cases this

/-- **Before a refund** a step leaves the task open, or makes the refund. -/
theorem open_run (site : TaskSite) (hc : SunoStep id c a) (h : SunoOpen id c) :
    (fundingMoves site c a = [] ∧ SunoOpen id (Sys.step (taskStep site) c a)) ∨
      SunoSpent id (Sys.step (taskStep site) c a) := by
  have htrans := taskStep_trans site (c.procs a.1) a.2 c.shared
  cases h with
  | plain hkey h =>
    obtain ⟨hplain, hkey'⟩ | ⟨t, delta, hplace, hplace', hheld, hkey'⟩ |
      ⟨t, t', minutes, now, hplace, hplace', hrow, hst⟩ := plain_step htrans (h a.1) hkey hc.1
    · refine .inl ⟨no_move_of_plain hplain, .plain hkey' ?_⟩
      exact step_procs_of hplain fun j _ => h j
    · refine .inr (.held hkey' a.1 (by rw [step_procs_self]; exact hheld) fun j hj => ?_)
      rw [step_procs_ne hj]
      exact h j
    · refine .inl ⟨no_move_of_owes (by rw [hplace]; rfl), .sweeping a.1 t' (by rw [step_procs_self, hplace']) t' hrow
        fun j hj => ?_⟩
      rw [step_procs_ne hj]
      exact (h j).toOver (hc.2.2.2.2 (by rw [hplace]; rfl) j hj) hst
  | sweeping i t hi row hrow h =>
    by_cases hia : i = a.1
    · subst hia
      rw [hi] at htrans
      have hspent : (taskStep site (.refund t .idle) a.2 c.shared).1.Over id row →
          (taskStep site (.refund t .idle) a.2 c.shared).2.tasks = c.shared.tasks →
          SunoSpent id (Sys.step (taskStep site) c a) := by
        intro hover htasks
        have hown : (taskStep site (c.procs a.1) a.2 c.shared).1.Over id row := by rw [hi]; exact hover
        refine .settled row ⟨?_, hrow.2⟩ (step_procs_of hown h)
        rw [step_shared, hi, htasks]
        exact hrow.1
      right
      generalize taskStep site (.refund t .idle) a.2 c.shared = s at htrans hspent
      obtain ⟨place', db'⟩ := s
      cases htrans with
      | waits hwait => cases hwait
      | refunds | skipsRefund => exact hspent trivial rfl
    · have hown := h a.1 (Ne.symm hia)
      obtain ⟨hover, hrow'⟩ | ⟨t', hplace, -⟩ := over_step htrans hown hrow hc.1 hc.2.1
      · refine .inl ⟨no_move_of_owes hown.not_owes, .sweeping i t (by rw [step_procs_ne hia, hi]) row hrow' ?_⟩
        exact step_procs_of (P := fun j (place : TaskPlace) => j ≠ i → place.Over id row) (fun _ => hover) fun j _ => h j
      · have := hc.2.2.2.1 (by rw [hplace]; rfl) i hia
        rw [hi] at this
        cases this

/-- **A Suno task is refunded at most once** in every interleaving of sweeps and Suno polls of it in which the nodes
leave each other alone. -/
theorem suno_task_refunded_once {actions : List (ι × TaskInput)} {o : Task} (hrow : c.shared.tasks o.id = some o)
    (hidle : ∀ i, c.procs i = .idle) (hacts : ∀ a ∈ actions, a.2.act.ofSuno o.id = true)
    (halone : Along (Sys.step (taskStep site)) SunoUndisturbed c actions) :
    (trace (Sys.step (taskStep site)) (fundingMoves site) c actions).length ≤ 1 := by
  have hsteps : Along (Sys.step (taskStep site)) (SunoStep o.id) c actions :=
    along_and (along_of_forall hacts) halone
  have hstart : SunoOpen o.id c := by
    refine .plain (fun row h => ?_) fun i => by rw [hidle i]; trivial
    rw [hrow] at h
    cases h
    rfl
  refine trace_length_le_one (I := fun c => SunoOpen o.id c ∨ SunoSpent o.id c)
    (fun c a hc h => ?_) (fun c a hc _ h => spent_run hc h) (fun c a hc h => ?_) hsteps (.inl hstart)
  · rcases h with h | h
    · rcases open_run site hc h with ⟨-, h'⟩ | h'
      · exact .inl h'
      · exact .inr h'
    · exact .inr (spent_run hc h).2
  · rcases h with h | h
    · rcases open_run site hc h with ⟨hnil, -⟩ | h'
      · exact .inl hnil
      · obtain hnil | ⟨hone, -⟩ := fundingMoves_cases site c a
        · exact .inl hnil
        · exact .inr ⟨hone, h'⟩
    · exact .inl (spent_run hc h).1

end Runs

namespace Sample

def sunoTask : Task := { task with platform := .suno }

def sunoFailed : TaskAct := .suno ⟨"up_1", .failure, "rejected", 1800000000, 0, 1800000100, "[]"⟩

/-- A node polls the failed task, and then the other one sweeps and polls. -/
def sunoInTurn : List (Bool × TaskInput) :=
  visits [(true, .poll 1), (true, sunoFailed), (true, .go), (true, .go), (true, .go), (true, .go), (true, .finish),
    (false, sweepTask1), (false, .poll 1)]

/-- Both nodes read the task before either of them has saved its failure. -/
def sunoTogether : List (Bool × TaskInput) :=
  visits [(true, .poll 1), (false, .poll 1), (true, sunoFailed), (true, .go), (true, .go), (true, .go), (true, .go),
    (false, sunoFailed), (false, .go), (false, .go), (false, .go), (false, .go)]

end Sample

open Sample

theorem suno_task_refunded_once_sample :
    (trace (Sys.step (taskStep site)) (fundingMoves site) (taskNodes sunoTask)
        sunoInTurn).length ≤ 1 ∧
      trace (Sys.step (taskStep site)) (fundingMoves site) (taskNodes sunoTask)
        sunoInTurn = [-40] :=
  ⟨suno_task_refunded_once (o := sunoTask) rfl (fun _ => rfl) (by decide) (by decide +kernel), by decide +kernel⟩

/-- Two nodes poll the task at the same time, and the user gets 80 back for a task of 40. -/
theorem suno_task_refunded_twice :
    trace (Sys.step (taskStep site)) (fundingMoves site) (taskNodes sunoTask)
        sunoTogether = [-40, -40] ∧
      (run (Sys.step (taskStep site)) (taskNodes sunoTask)
        sunoTogether).shared.store.wallet 1 = (taskNodes sunoTask).shared.store.wallet 1 + 80 := by
  decide +kernel

end SynthApi
