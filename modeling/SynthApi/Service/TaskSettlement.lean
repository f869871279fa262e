import SynthApi.Service.TaskTransitions

/-!
# A video task is settled once

Any number of nodes sweep and poll one video task that a wallet has paid for. A visit moves quota only after it has
moved the row from an unfinished to a final status itself, and a final row is not moved again; so the visits that bill
form a section that at most one of them is in (`inside_step`, `outside_step`). While nobody bills, the task is at rest:
unfinished it is charged its quota, failed nothing, successful what its row says (`AtRest`).

`video_task_settled_once` is the result: at most one quota movement in the whole run, and the user's net charge once the
task is final. A task from before `legacyTaskCutoff` that a sweep has failed keeps its charge
(`legacy_task_keeps_charge`).
-/

namespace SynthApi

open Lib

/-- The visit is moving quota or about to. -/
def TaskPlace.billing : TaskPlace → Bool
  | .refund .. | .recalculate .. | .tokenKey .. | .tokenQuota .. | .save _ | .sunoSave _ => true
  | _ => false

/-- The visit is about to move quota. -/
def TaskPlace.owes : TaskPlace → Bool
  | .refund .. | .recalculate .. => true
  | _ => false

def TaskAct.ofVideo (id : Int) : TaskAct → Bool
  | .sweep id' _ _ | .poll id' => decide (id' = id)
  | .video _ | .finish | .go => true
  | _ => false

section Settlement

variable {ι : Type*} [DecidableEq ι]

/-- A poll whose copy is final already. -/
def TaskPlace.pollsFinal : TaskPlace → TaskAct → Bool
  | .polled t, .video _ => t.status.isFinal
  | _, _ => false

/-- The step polls no copy that is final already. -/
def PollsUnfinished (c : Sys ι TaskDb TaskPlace) (a : ι × TaskInput) : Prop :=
  (c.procs a.1).pollsFinal a.2.act = false

instance (c : Sys ι TaskDb TaskPlace) (a : ι × TaskInput) : Decidable (PollsUnfinished c a) :=
  inferInstanceAs (Decidable (_ = _))

def BillingSucceeds (c : Sys ι TaskDb TaskPlace) (a : ι × TaskInput) : Prop :=
  a.2.env.WritesSucceed ∧ ∀ t, c.procs a.1 = .save t → a.2.fault = none

/-- The refund or settlement that a step performs, as the amount charged. -/
def fundingMoves (site : TaskSite) (c : Sys ι TaskDb TaskPlace) (a : ι × TaskInput) : List Int :=
  match c.procs a.1, (taskStep site (c.procs a.1) a.2 c.shared).1 with
  | .refund _ _, .tokenKey _ delta _ => [delta]
  | .recalculate _ _, .tokenKey _ delta _ => [delta]
  | _, _ => []

end Settlement

/-! ## The assertions -/

section Assertions

-- the task as it was before the run, the user's wallet then, and whether billing writes succeed
variable (o : Task) (wallet : Int) (ok : Prop)

/-- The user's net charge for the task, which was charged `o.quota` before. -/
def netCharge (st : Store) : Int := o.quota + (wallet - st.wallet o.userId)

/-- If billing writes succeed, the user exists and is charged `q`. -/
def NetCharged (st : Store) (q : Int) : Prop := ok → st.HasUser o.userId ∧ netCharge o wallet st = q

/-- A failed task has been given back, or it is one of the old system that a sweep has failed. -/
def FailureNetCharged (row : Task) (st : Store) : Prop :=
  NetCharged o wallet ok st 0 ∨
    (isLegacyTask o = true ∧ row.failReason = legacyReason ∧ NetCharged o wallet ok st o.quota)

/-- What holds of the row and the wallet while nobody bills. -/
inductive AtRest (row : Option Task) (st : Store) : Prop
  | unfinished {t : Task} (h : row = some t) (hup : o.Updates t) (hst : t.status.isFinal = false)
      (hc : NetCharged o wallet ok st o.quota)
  | failure {t : Task} (h : row = some t) (hst : t.status = .failure) (hc : FailureNetCharged o wallet ok t st)
  | success {t : Task} (h : row = some t) (hst : t.status = .success) (hc : NetCharged o wallet ok st t.quota)

/-- The copy that a round keeps. -/
def PolledOk (t : Task) : Prop := t.id = o.id ∧ t.platform = o.platform ∧ (t.status.isFinal = false → o.Updates t)

/-- The task has succeeded, and `t` with its settled quota is to be saved. -/
def SaveOk (t : Task) (row : Option Task) (st : Store) : Prop :=
  PolledOk o t ∧ t.status = .success ∧ row.map (·.status) = some .success ∧ NetCharged o wallet ok st t.quota

/-- What holds before a visit goes on after its quota movements. -/
def NextOk : AfterBilling → Option Task → Store → Prop
  | .idle, row, st => row.map (·.status) = some .failure ∧ NetCharged o wallet ok st 0
  | .polled t, row, st => PolledOk o t ∧ row.map (·.status) = some .failure ∧ NetCharged o wallet ok st 0
  | .save t, row, st => SaveOk o wallet ok t row st
  | .sunoSave _, _, _ => False

/-- The visit goes on with nothing more to write. -/
def AfterBilling.PlainFor (o : Task) : AfterBilling → Prop
  | .idle => True
  | .polled t => PolledOk o t
  | _ => False

def VisitOk : TaskPlace → Option Task → Store → Prop
  | .idle, _, _ => True
  | .timedOut t _ _, _, _ => o.Updates t ∧ t.status.isFinal = false
  | .polled t, _, _ => PolledOk o t
  | .fetched _, _, _ => False
  | .refund t next, row, st =>
    o.Updates t ∧ next.PlainFor o ∧ row.map (·.status) = some .failure ∧ NetCharged o wallet ok st o.quota
  | .recalculate t _, row, st =>
    o.Updates t ∧ t.status = .success ∧
      ∃ r, row = some r ∧ r.status = .success ∧ r.quota = o.quota ∧ NetCharged o wallet ok st o.quota
  | .tokenKey _ _ next, row, st => NextOk o wallet ok next row st
  | .tokenQuota _ _ next, row, st => NextOk o wallet ok next row st
  | .save t, row, st => SaveOk o wallet ok t row st
  | .sunoSave _, _, _ => False

def RowFinal (row : Option Task) : Prop := ∃ s, row.map (·.status) = some s ∧ s.isFinal = true

/-- What a statement has to leave: the assertion of its visit and, unless it bills, the task at rest. -/
def Leaves (place : TaskPlace) (row : Option Task) (st : Store) : Prop :=
  VisitOk o wallet ok place row st ∧ (place.billing = false → AtRest o wallet ok row st)

variable {o wallet ok} {place : TaskPlace} {row row' : Option Task} {st st' : Store} {q delta : Int}

/-- A visit that does not bill asserts nothing about the database. -/
theorem VisitOk.outside (h : VisitOk o wallet ok place row st) (hout : place.billing = false) :
    VisitOk o wallet ok place row' st' := by
  cases place <;> first | exact h | cases hout

theorem VisitOk.final (h : VisitOk o wallet ok place row st) (hin : place.billing) : RowFinal row := by
  have hnext : ∀ next, NextOk o wallet ok next row st → RowFinal row := by
    intro next hnext
    cases next with
    | idle => exact ⟨_, hnext.1, rfl⟩
    | polled t => exact ⟨_, hnext.2.1, rfl⟩
    | save t => exact ⟨_, hnext.2.2.1, rfl⟩
    | sunoSave t => exact hnext.elim
  cases place with
  | refund t next => exact ⟨_, h.2.2.1, rfl⟩
  | recalculate t actualQuota =>
    obtain ⟨-, -, r, rfl, hst, -⟩ := h
    exact ⟨_, congrArg some hst, rfl⟩
  | tokenKey t delta next | tokenQuota t delta next => exact hnext next h
  | save t => exact ⟨_, h.2.2.1, rfl⟩
  | sunoSave t => exact h.elim
  | _ => cases hin

theorem PolledOk.of_updates {t : Task} (h : o.Updates t) : PolledOk o t := ⟨h.id, h.platform, fun _ => h⟩

theorem NetCharged.move (h : NetCharged o wallet ok st q) :
    NetCharged o wallet ok (st.addWallet o.userId (-delta)) (q + delta) := by
  intro hok
  obtain ⟨hu, hc⟩ := h hok
  refine ⟨by simpa using hu, ?_⟩
  unfold netCharge at hc ⊢
  rw [Store.addWallet_wallet _ hu]
  omega

theorem NetCharged.moved {e : Env} {t : Task} {q' : Int} (h : NetCharged o wallet ok st q) (hup : o.Updates t)
    (hwallet : taskIsSubscription o = false) (hm : FundingMoved e t delta st st') (hq : q' = q + delta) :
    NetCharged o wallet ok st' q' := by
  subst hq
  cases hm with
  | wallet => rw [hup.userId]; exact h.move
  | subscription hsub => rw [hup.isSubscription, hwallet] at hsub; cases hsub

theorem NetCharged.adjustToken (h : NetCharged o wallet ok st q) (e : Env) (t : Task) (delta : Int) :
    NetCharged o wallet ok (taskAdjustTokenQuota e t delta st) q := by
  intro hok
  obtain ⟨hu, hc⟩ := h hok
  rcases taskAdjustTokenQuota_cases e t delta st with hs | hs
  · rw [hs]
    refine ⟨(Store.addToken_hasUser ..).2 hu, ?_⟩
    rw [netCharge, Store.addToken_wallet]
    exact hc
  · rw [hs]
    exact ⟨hu, hc⟩

variable {next : AfterBilling}

theorem NextOk.adjustToken (h : NextOk o wallet ok next row st) (e : Env) (t : Task) (delta : Int) :
    NextOk o wallet ok next row (taskAdjustTokenQuota e t delta st) := by
  cases next with
  | idle => exact ⟨h.1, h.2.adjustToken e t delta⟩
  | polled t' => exact ⟨h.1, h.2.1, h.2.2.adjustToken e t delta⟩
  | save t' => exact ⟨h.1, h.2.1, h.2.2.1, h.2.2.2.adjustToken e t delta⟩
  | sunoSave t' => exact h.elim

theorem NextOk.place_ok (h : NextOk o wallet ok next row st) : Leaves o wallet ok next.place row st := by
  have hfailed : row.map (·.status) = some .failure → NetCharged o wallet ok st 0 → AtRest o wallet ok row st := by
    intro hst hc
    obtain ⟨r, hr, hst⟩ := Option.map_eq_some_iff.1 hst
    exact .failure hr hst (.inl hc)
  cases next with
  | idle => exact ⟨trivial, fun _ => hfailed h.1 h.2⟩
  | polled t => exact ⟨h.1, fun _ => hfailed h.2.1 h.2.2⟩
  | save t => exact ⟨h, nofun⟩
  | sunoSave t => exact h.elim

theorem AfterBilling.PlainFor.nextOk (h : next.PlainFor o)
    (hst : row.map (·.status) = some .failure) (hc : NetCharged o wallet ok st 0) : NextOk o wallet ok next row st := by
  cases next with
  | idle => exact ⟨hst, hc⟩
  | polled t => exact ⟨h, hst, hc⟩
  | save t => exact h.elim
  | sunoSave t => exact h.elim

end Assertions

/-! ## One statement -/

section Step

variable {o : Task} {wallet : Int} {ok : Prop} {a : TaskInput} {db db' : TaskDb} {place place' : TaskPlace}

/-- **A visit that bills**: its assertion leads to the next one, and when it stops billing the task is at rest. The row stays
final, and after its quota movement the visit owes nothing. -/
theorem inside_step (htrans : TaskTrans a db place place' db') (hin : place.billing)
    (h : VisitOk o wallet ok place (db.tasks o.id) db.store) (hwallet : taskIsSubscription o = false)
    (hwrites : ok → a.env.WritesSucceed ∧ ∀ t, place = .save t → a.fault = none) :
    Leaves o wallet ok place' (db'.tasks o.id) db'.store ∧ RowFinal (db'.tasks o.id) ∧ place'.owes = false := by
  have hfinal := h.final hin
  have hnext : ∀ next : AfterBilling, next.place.owes = false := by intro next; cases next <;> rfl
  cases htrans with
  | waits hwait =>
    cases place with
    | idle | polled | fetched => cases hin
    | _ => cases hwait
  | @refunds t next st hq hok hmoved =>
    obtain ⟨hup, hplain, hst, hc⟩ := h
    refine ⟨⟨hplain.nextOk hst (hc.moved hup hwallet hmoved ?_), nofun⟩, hfinal, rfl⟩
    rw [hup.quota]; omega
  | @skipsRefund t next hskip =>
    obtain ⟨hup, hplain, hst, hc⟩ := h
    refine ⟨(hplain.nextOk hst fun hok => ?_).place_ok, hfinal, hnext _⟩
    obtain hq | ⟨err, herr⟩ := hskip
    · rw [hup.quota] at hq
      have := hc hok
      rwa [hq] at this
    · rw [taskAdjustFunding_wallet (hwrites hok).1 (by rw [hup.isSubscription, hwallet])] at herr
      cases herr
  | @settles t actualQuota st hd hmoved =>
    obtain ⟨hup, hst, r, hr, hrst, hrq, hc⟩ := h
    refine ⟨⟨⟨⟨hup.id, hup.platform, fun hf => ?_⟩, hst, ?_, hc.moved hup hwallet hmoved ?_⟩, nofun⟩,
      hfinal, rfl⟩
    · rw [show ({ t with quota := actualQuota } : Task).status = .success from hst] at hf
      cases hf
    · simp [hr, hrst]
    · have := hup.quota
      show actualQuota = _
      omega
  | skipsSettlement =>
    obtain ⟨hup, hst, r, hr, hrst, hrq, hc⟩ := h
    exact ⟨⟨.of_updates hup, fun _ => .success hr hrst (by rw [hrq]; exact hc)⟩, hfinal, rfl⟩
  | skipsToken => exact ⟨NextOk.place_ok h, hfinal, hnext _⟩
  | readsToken => exact ⟨⟨h, nofun⟩, hfinal, rfl⟩
  | adjustsToken => exact ⟨(NextOk.adjustToken h _ _ _).place_ok, hfinal, hnext _⟩
  | @saves t =>
    obtain ⟨hok, hst, -, hc⟩ := h
    have hrow := db.save_tasks_of_eq t hok.1.symm
    exact ⟨⟨hok, fun _ => .success hrow hst hc⟩, ⟨.success, hrow ▸ congrArg some hst, rfl⟩, rfl⟩
  | @losesSave t hfault =>
    obtain ⟨hok, hst, hrow, hc⟩ := h
    obtain ⟨r, hr, hrst⟩ := Option.map_eq_some_iff.1 hrow
    exact ⟨⟨hok, fun _ => .success hr hrst fun hok => absurd ((hwrites hok).2 t rfl) hfault⟩, hfinal, rfl⟩
  | savesSuno | losesSunoSave => exact h.elim
  | _ => cases hin

variable {st : Store} {t : Task}

theorem AtRest.updates_of_unfinished {row : Option Task} (h : AtRest o wallet ok row st)
    (hrow : row = some t) (hst : t.status.isFinal = false) : o.Updates t ∧ NetCharged o wallet ok st o.quota := by
  cases h with
  | unfinished h hup _ hc => rw [hrow] at h; cases h; exact ⟨hup, hc⟩
  | failure h hf => rw [hrow] at h; cases h; rw [hf] at hst; cases hst
  | success h hs => rw [hrow] at h; cases h; rw [hs] at hst; cases hst

/-- A sweep that fails an unfinished task gives its quota back or leaves it charged as one of the old system. -/
theorem swept_ok {minutes now : Int} (hup : o.Updates t) (hvideo : o.platform ≠ .suno)
    (hc : NetCharged o wallet ok st o.quota) :
    Leaves o wallet ok (sweptPlace t minutes now) (some (timeOutTask t minutes now)) st := by
  unfold sweptPlace
  split
  · exact ⟨⟨hup.trans ⟨rfl, rfl, rfl, rfl, rfl, rfl, fun _ => rfl⟩, trivial, rfl, hc⟩, nofun⟩
  · rename_i hcond
    refine ⟨trivial, fun _ => .failure rfl rfl ?_⟩
    cases hleg : isLegacyTask t with
    | true => exact .inr ⟨by rw [← hup.isLegacy hvideo, hleg], by simp [timeOutTask, hleg], hc⟩
    | false =>
      have hq : o.quota = 0 := by
        rw [← hup.quota]
        simpa [hleg] using hcond
      exact .inl (by rwa [hq] at hc)

theorem billing_ok (hup : o.Updates t) (hc : NetCharged o wallet ok st o.quota)
    (hbill : VideoBilling t place) : Leaves o wallet ok place (some t) st := by
  cases hbill with
  | none hq =>
    refine ⟨.of_updates hup, fun _ => ?_⟩
    cases hst : t.status with
    | failure =>
      have hzero : o.quota = 0 := by rw [← hup.quota]; exact hq hst
      exact .failure rfl hst (.inl (by rwa [hzero] at hc))
    | success => exact .success rfl hst (by rwa [hup.quota])
    | _ => exact .unfinished rfl hup (by rw [hst]; rfl) hc
  | refund hf hq => exact ⟨⟨hup, .of_updates hup, by simp [hf], hc⟩, nofun⟩
  | settle hs actual => exact ⟨⟨hup, hs, t, rfl, hs, hup.quota, hc⟩, nofun⟩

/-- **A visit that does not bill** leaves the row and the wallet alone, or it has found the row unfinished, and then a
task at rest is either at rest again or the visit has entered billing. -/
theorem outside_step (htrans : TaskTrans a db place place' db') (hout : place.billing = false)
    (h : VisitOk o wallet ok place (db.tasks o.id) db.store) (hvideo : o.platform.isVideo)
    (hact : a.act.ofVideo o.id) (hpolls : place.pollsFinal a.act = false) :
    (VisitOk o wallet ok place' (db.tasks o.id) db.store ∧ place'.billing = false ∧ db' = db) ∨
      (∃ r, db.tasks o.id = some r ∧ r.status.isFinal = false) ∧
        (AtRest o wallet ok (db.tasks o.id) db.store → Leaves o wallet ok place' (db'.tasks o.id) db'.store) := by
  have hsuno : o.platform ≠ .suno := by intro hs; rw [hs] at hvideo; cases hvideo
  have hfresh : ∀ t reply, place = .polled t → a.act = .video reply → t.status.isFinal = false := by
    rintro t reply rfl hvid
    rwa [hvid] at hpolls
  cases htrans with
  | waits => exact .inl ⟨h, hout, rfl⟩
  | losesSweep | endsRound => exact .inl ⟨trivial, rfl, rfl⟩
  | endsFetch | storesFetch => exact h.elim
  | @readsTimedOut row minutes now id hid hrow hu =>
    rw [hid] at hact
    obtain rfl : id = o.id := of_decide_eq_true hact
    have hst := Task.not_final_of_unfinished hu
    exact .inr ⟨⟨row, hrow, hst⟩, fun hrest => ⟨⟨(hrest.updates_of_unfinished hrow hst).1, hst⟩, fun _ => hrest⟩⟩
  | @readsUnfinished row id hid hrow hu =>
    rw [hid] at hact
    obtain rfl : id = o.id := of_decide_eq_true hact
    have hst := Task.not_final_of_unfinished hu
    exact .inr ⟨⟨row, hrow, hst⟩, fun hrest => ⟨.of_updates (hrest.updates_of_unfinished hrow hst).1, fun _ => hrest⟩⟩
  | readsForUser hid => rw [hid] at hact; cases hact
  | @sweeps t minutes now hst =>
    obtain ⟨hup, hnf⟩ := h
    rw [hup.id] at hst
    obtain ⟨r, hr, hrst⟩ := Option.map_eq_some_iff.1 hst
    have hrnf : r.status.isFinal = false := by rw [hrst]; exact hnf
    refine .inr ⟨⟨r, hr, hrnf⟩, fun hrest => ?_⟩
    rw [db.save_tasks_of_eq (timeOutTask t minutes now) (show o.id = _ from hup.id.symm)]
    exact swept_ok hup hsuno (hrest.updates_of_unfinished hr hrnf).2
  | @edits t t' reply hvid hup => exact .inl ⟨.of_updates ((h.2.2 (hfresh t reply rfl hvid)).trans hup), rfl, rfl⟩
  | @moves t t' _ reply hvid hup hst hbill =>
    have hnf := hfresh t reply rfl hvid
    rw [h.1] at hst
    obtain ⟨r, hr, hrst⟩ := Option.map_eq_some_iff.1 hst
    have hrnf : r.status.isFinal = false := by rw [hrst]; exact hnf
    refine .inr ⟨⟨r, hr, hrnf⟩, fun hrest => ?_⟩
    have hup' := (h.2.2 hnf).trans hup
    rw [db.save_tasks_of_eq t' hup'.id.symm]
    exact billing_ok hup' (hrest.updates_of_unfinished hr hrnf).2 hbill
  | @billsAgain t t' _ reply hvid hup hfinal =>
    rw [hfresh t reply rfl hvid] at hfinal
    cases hfinal
  | sunoFailure _ _ hs | sunoUpdate _ hs => exact absurd (h.2.1.symm.trans hs) hsuno
  | bulkFails reason hbulk =>
    obtain hbulk | hbulk := hbulk <;> · rw [hbulk] at hact; cases hact
  | _ => cases hout

end Step

/-! ## Runs -/

section Runs

variable {ι : Type*} [DecidableEq ι] {site : TaskSite} {o : Task} {wallet : Int} {ok : Prop}
  {c : Sys ι TaskDb TaskPlace} {a : ι × TaskInput}

abbrev Settling (o : Task) (wallet : Int) (ok : Prop) (c : Sys ι TaskDb TaskPlace) : Prop :=
  c.Guarded (fun place => place.billing = true) (fun place db => VisitOk o wallet ok place (db.tasks o.id) db.store)
    fun db => AtRest o wallet ok (db.tasks o.id) db.store

/-- What the steps of the run have in common. -/
def SettlingStep (o : Task) (ok : Prop) (c : Sys ι TaskDb TaskPlace) (a : ι × TaskInput) : Prop :=
  a.2.act.ofVideo o.id = true ∧ PollsUnfinished c a ∧ (ok → BillingSucceeds c a)

/-- **Every statement keeps the invariant.** -/
theorem settling_step (hvideo : o.platform.isVideo) (hwallet : taskIsSubscription o = false)
    (hc : SettlingStep o ok c a) (h : Settling o wallet ok c) : Settling o wallet ok (Sys.step (taskStep site) c a) := by
  obtain ⟨hact, hfresh, hwrites⟩ := hc
  have htrans := taskStep_trans site (c.procs a.1) a.2 c.shared
  have hown := h.asserts a.1
  cases hin : (c.procs a.1).billing with
  | true =>
    obtain ⟨⟨hown', hrest⟩, -⟩ := inside_step htrans hin hown hwallet hwrites
    refine Sys.step_guarded h (fun hout => absurd hin hout) hown' (fun j hj => ?_) fun hout _ => hrest (by simpa using hout)
    exact (h.asserts j).outside (by simpa using h.alone hin hj)
  | false =>
    obtain ⟨hown', hout', hdb⟩ | ⟨⟨r, hr, hnf⟩, hnext⟩ := outside_step htrans hin hown hvideo hact hfresh
    · refine Sys.step_guarded h (fun _ hin' => ?_) (by rw [hdb]; exact hown') (fun j _ => by rw [hdb]; exact h.asserts j)
        fun _ hothers => ?_
      · rw [hout'] at hin'; cases hin'
      · rw [hdb]
        refine h.rest fun i => ?_
        by_cases hi : i = a.1
        · rw [hi, hin]; exact nofun
        · exact hothers i hi
    · -- the row is unfinished, so nobody bills
      have hnobody : ∀ i, ¬ (c.procs i).billing := by
        intro i hbill
        obtain ⟨s, hs, hf⟩ := (h.asserts i).final hbill
        rw [hr] at hs
        cases hs
        rw [hnf] at hf
        cases hf
      obtain ⟨hown', hrest⟩ := hnext (h.rest hnobody)
      refine Sys.step_guarded h (fun _ _ => hnobody) hown' (fun j _ => ?_) fun hout _ => hrest (by simpa using hout)
      exact (h.asserts j).outside (by simpa using hnobody j)

/-- The task is final and no visit is about to move quota for it. -/
def Spent (o : Task) (c : Sys ι TaskDb TaskPlace) : Prop :=
  (∃ s, c.shared.status o.id = some s ∧ s.isFinal = true) ∧ ∀ i, (c.procs i).owes = false

omit [DecidableEq ι] in
theorem fundingMoves_cases (site : TaskSite) (c : Sys ι TaskDb TaskPlace) (a : ι × TaskInput) :
    fundingMoves site c a = [] ∨
      (fundingMoves site c a).length = 1 ∧ (c.procs a.1).owes ∧
        ∃ t delta next, (taskStep site (c.procs a.1) a.2 c.shared).1 = .tokenKey t delta next := by
  unfold fundingMoves
  split
  case h_3 => exact .inl rfl
  all_goals
    rename_i h h'
    rw [h', h]
    exact .inr ⟨rfl, rfl, _, _, _, rfl⟩

theorem TaskPlace.billing_of_owes {place : TaskPlace} (h : place.owes) : place.billing := by
  cases place <;> first | rfl | cases h

theorem spent_step (hvideo : o.platform.isVideo) (hwallet : taskIsSubscription o = false)
    (hc : SettlingStep o ok c a) (h : Settling o wallet ok c) (hs : Spent o c) : Spent o (Sys.step (taskStep site) c a) := by
  obtain ⟨⟨s, hst, hf⟩, howes⟩ := hs
  have htrans := taskStep_trans site (c.procs a.1) a.2 c.shared
  have hmoved : RowFinal ((taskStep site (c.procs a.1) a.2 c.shared).2.tasks o.id) ∧
      (taskStep site (c.procs a.1) a.2 c.shared).1.owes = false := by
    cases hin : (c.procs a.1).billing with
    | true => exact (inside_step htrans hin (h.asserts a.1) hwallet hc.2.2).2
    | false =>
      obtain ⟨-, hout, hdb⟩ | ⟨⟨r, hr, hnf⟩, -⟩ := outside_step htrans hin (h.asserts a.1) hvideo hc.1 hc.2.1
      · refine ⟨⟨s, by rw [hdb]; exact hst, hf⟩, ?_⟩
        cases hown : (taskStep site (c.procs a.1) a.2 c.shared).1.owes with
        | false => rfl
        | true => rw [TaskPlace.billing_of_owes hown] at hout; cases hout
      · rw [TaskDb.status_of_tasks hr] at hst
        cases hst
        rw [hnf] at hf
        cases hf
  exact ⟨hmoved.1, Sys.step_procs_of (P := fun _ (place : TaskPlace) => place.owes = false) hmoved.2 fun i _ => howes i⟩

/-- A quota movement spends the task. -/
theorem spent_of_move (hwallet : taskIsSubscription o = false) (hc : SettlingStep o ok c a) (h : Settling o wallet ok c)
    (howes : (c.procs a.1).owes)
    (hdone : (taskStep site (c.procs a.1) a.2 c.shared).1.owes = false) : Spent o (Sys.step (taskStep site) c a) := by
  have hin := TaskPlace.billing_of_owes howes
  have htrans := taskStep_trans site (c.procs a.1) a.2 c.shared
  refine ⟨(inside_step htrans hin (h.asserts a.1) hwallet hc.2.2).2.1,
    Sys.step_procs_of (P := fun _ (place : TaskPlace) => place.owes = false) hdone fun i hi => ?_⟩
  cases hown : (c.procs i).owes with
  | false => rfl
  | true => exact absurd (TaskPlace.billing_of_owes hown) (h.alone hin hi)

/-- What a user may rely on once nobody bills. -/
def TaskSettled (o : Task) (wallet : Int) (c : Sys ι TaskDb TaskPlace) : Prop :=
  (∀ i, (c.procs i).billing = false) → ∀ row, c.shared.tasks o.id = some row →
    (row.status = .failure → netCharge o wallet c.shared.store = 0 ∨
      (isLegacyTask o = true ∧ row.failReason = legacyReason ∧ netCharge o wallet c.shared.store = o.quota)) ∧
    (row.status = .success → netCharge o wallet c.shared.store = row.quota)

omit [DecidableEq ι] in
theorem Settling.settled (hok : ok) (h : Settling o wallet ok c) : TaskSettled o wallet c := by
  intro hout row hrow
  cases h.rest fun i => by rw [hout i]; exact Bool.false_ne_true with
  | unfinished hr _ hst =>
    rw [hrow] at hr; cases hr
    constructor <;> · intro hf; rw [hf] at hst; cases hst
  | failure hr hst hc =>
    rw [hrow] at hr; cases hr
    refine ⟨fun _ => ?_, fun hf => absurd (hst.symm.trans hf) (by decide)⟩
    obtain hc | ⟨hleg, hreason, hc⟩ := hc
    · exact .inl (hc hok).2
    · exact .inr ⟨hleg, hreason, (hc hok).2⟩
  | success hr hst hc =>
    rw [hrow] at hr; cases hr
    exact ⟨fun hf => absurd (hst.symm.trans hf) (by decide), fun _ => (hc hok).2⟩

/-- **A video task that a wallet has paid for is settled once.** In every interleaving of sweeps and polls at most one
refund or settlement is performed; and if the writes of billing succeed, then whenever no visit is billing a failed task
costs nothing, unless it is one of the old system that a sweep has failed, and a successful one costs its stored quota.
-/
theorem video_task_settled_once {actions : List (ι × TaskInput)} (hrow : c.shared.tasks o.id = some o)
    (hunfinished : o.status.isFinal = false) (hvideo : o.platform.isVideo = true) (hwallet : taskIsSubscription o = false)
    (huser : c.shared.store.HasUser o.userId) (hidle : ∀ i, c.procs i = .idle)
    (hacts : ∀ a ∈ actions, a.2.act.ofVideo o.id = true)
    (hfresh : Along (Sys.step (taskStep site)) PollsUnfinished c actions) :
    (trace (Sys.step (taskStep site)) (fundingMoves site) c actions).length ≤ 1 ∧
      (Along (Sys.step (taskStep site)) BillingSucceeds c actions →
        Always (Sys.step (taskStep site)) (TaskSettled o (c.shared.store.wallet o.userId)) c actions) := by
  have hstart : ∀ ok : Prop, Settling o (c.shared.store.wallet o.userId) ok c := by
    intro ok
    refine ⟨fun {i _} hi _ => ?_, fun i => by rw [hidle i]; trivial, fun _ => ?_⟩
    · rw [hidle i] at hi; cases hi
    · exact .unfinished hrow (.refl o) hunfinished fun _ => ⟨huser, by simp [netCharge]⟩
  have hsteps : ∀ ok : Prop, (ok → Along (Sys.step (taskStep site)) BillingSucceeds c actions) →
      Along (Sys.step (taskStep site)) (SettlingStep o ok) c actions := fun ok hwrites =>
    along_and (along_of_forall hacts) (along_and hfresh (along_imp hwrites))
  constructor
  · refine trace_length_le_one (P := Spent o) (fun c a hc h => settling_step hvideo hwallet hc h) (fun c a hc h hs => ?_) (fun c a hc h => ?_)
      (hsteps False False.elim) (hstart False)
    · refine ⟨?_, spent_step hvideo hwallet hc h hs⟩
      obtain hnil | ⟨-, howes, -⟩ := fundingMoves_cases site c a
      · exact hnil
      · rw [hs.2 a.1] at howes; cases howes
    · obtain hnil | ⟨hone, howes, t, delta, next, hdone⟩ := fundingMoves_cases site c a
      · exact .inl hnil
      · exact .inr ⟨hone, spent_of_move hwallet hc h howes (by rw [hdone]; rfl)⟩
  · intro hwrites
    exact always_of_inv (fun c a hc h => settling_step hvideo hwallet hc h) (fun c h => h.settled trivial) (hsteps True fun _ => hwrites)
      (hstart True)

end Runs

namespace Sample

/-- One node polls the task to its end while the other one sweeps it. -/
def pollAndSweep : List (Bool × TaskInput) :=
  visits [(true, .poll 1), (false, sweepTask1), (true, videoAnswer .success 45), (false, .go), (true, .go), (true, .go),
    (true, .go), (true, .go), (true, .finish)]

end Sample

open Sample

/-- The node that polls wins and settles the task for 45, and the sweep gives nothing back. -/
theorem video_task_settled_once_sample :
    (trace (Sys.step (taskStep site)) (fundingMoves site) (taskNodes task)
        pollAndSweep).length ≤ 1 ∧
      TaskSettled task 100
        (run (Sys.step (taskStep site)) (taskNodes task) pollAndSweep) ∧
      trace (Sys.step (taskStep site)) (fundingMoves site) (taskNodes task)
        pollAndSweep = [5] := by
  have hwrites : Along (Sys.step (taskStep site)) BillingSucceeds (taskNodes task)
      pollAndSweep := by
    refine along_of_forall_of (C := fun a : Bool × TaskInput => a.2.env.WritesSucceed ∧ a.2.fault = none) ?_
      (fun _ a h => ⟨h.1, fun _ _ => h.2⟩) _
    intro a ha
    obtain ⟨x, -, rfl⟩ := List.mem_map.1 ha
    exact ⟨Env.quiet_writesSucceed _ _, rfl⟩
  have hfresh : Along (Sys.step (taskStep site)) PollsUnfinished (taskNodes task)
      pollAndSweep := by decide +kernel
  obtain ⟨hone, hsettled⟩ := video_task_settled_once (o := task) (c := taskNodes task) rfl rfl rfl rfl
    rfl (fun _ => rfl) (by decide) hfresh
  exact ⟨hone, (hsettled hwrites).last, by decide +kernel⟩

/-- A sweep fails a task of the old system and keeps its charge. -/
theorem legacy_task_keeps_charge :
    ∃ row, (run (Sys.step (taskStep site)) (taskNodes { task with submitTime := 1700000000 })
        (visits [(true, sweepTask1), (true, .go)])).shared.tasks 1 = some row ∧
      row.status = .failure ∧
      netCharge task 100 (run (Sys.step (taskStep site))
        (taskNodes { task with submitTime := 1700000000 })
        (visits [(true, sweepTask1), (true, .go)])).shared.store = 40 := by
  decide +kernel

end SynthApi
