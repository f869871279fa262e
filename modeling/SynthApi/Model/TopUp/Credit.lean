import SynthApi.Model.TopUp.Statements

/-!
# Completions that save the order they have read

All completions but Alipay's read the order, check that it is pending, and later save their copy of it, whatever is
stored by then. The lock of the row only delays the second save. So two calls that both read the pending order both add
its quota (`topUp_credited_twice`). If a pending order is only read while no other call is completing it, at most one
call adds its quota (`topUp_credited_at_most_once`).

`topUpCredits` is what a statement adds to the wallets; the tables change by just that (`TopUpEffect.store_eq`).
-/

namespace SynthApi

open Lib TopUpDb

/-! ## What is credited -/

def Store.creditAll (s : TopUpSite) (st : Store) (credits : List (Int × ℚ)) : Store :=
  credits.foldl (fun st credit => st.creditUser s credit.1 credit.2) st

/-- **The tables of users change by the credits.** -/
theorem TopUpEffect.store_eq {s : TopUpSite} {db db' : TopUpDb} {place place' : TopUpPlace} {credits : List (Int × ℚ)}
    (he : TopUpEffect s db place place' db' credits) : db'.store = db.store.creditAll s credits := by
  cases he with
  | saves c => cases c.atomic <;> rfl
  | rollsBack => simp [Store.creditAll]
  | commits c t x =>
    have hpaid : (db.writePaid c t).store = db.store := by unfold writePaid; split <;> rfl
    simp [Store.creditAll, credit, hpaid]
  | _ => rfl

/-! ## Unguarded completions -/

/-- The webhooks of Stripe, Creem and Waffo, the confirmations of MPay and XPay, and the completion by an administrator.
-/
inductive OrderCompletion (s : TopUpSite) (tradeNo : String) : Completion → Prop where
  | stripe : OrderCompletion s tradeNo (recharge s tradeNo)
  | creem (customerEmail : String) : OrderCompletion s tradeNo (rechargeCreem tradeNo customerEmail)
  | waffo : OrderCompletion s tradeNo (rechargeWaffo s tradeNo)
  | waffoPancake : OrderCompletion s tradeNo (rechargeWaffoPancake s tradeNo)
  | mpay (callbackMoney : ℚ) : OrderCompletion s tradeNo (confirmMPayOrder s tradeNo callbackMoney)
  | xpay (callbackMoney : ℚ) : OrderCompletion s tradeNo (confirmXPayOrder s tradeNo callbackMoney)
  | manual : OrderCompletion s tradeNo (manualCompleteTopUp s tradeNo)

/-- What these calls have in common. -/
structure Unguarded (tradeNo : String) (c : Completion) : Prop where
  tradeNo_eq : c.tradeNo = tradeNo
  guarded_eq : c.guarded = false
  pending : ∀ t, c.verdict t = none → t.status = .pending
  mark_tradeNo : ∀ now t, (c.mark now t).tradeNo = t.tradeNo
  mark_status : ∀ now t, (c.mark now t).status = .success

theorem OrderCompletion.unguarded {s : TopUpSite} {tradeNo : String} {c : Completion} (h : OrderCompletion s tradeNo c) :
    Unguarded tradeNo c := by
  cases h <;> refine ⟨rfl, rfl, fun t ht => ?_, fun _ _ => rfl, fun _ _ => rfl⟩ <;>
    · simp only [recharge, rechargeCreem, rechargeWaffo, rechargeWaffoPancake, rechargeWaffoLike, confirmMPayOrder,
        confirmXPayOrder, manualCompleteTopUp] at ht
      exact orderVerdict_none ht

namespace TopUpPlace

/-- Next the order is read. -/
def reads : TopUpPlace → Bool
  | .start _ => true
  | _ => false

/-- The order was read as pending, and the call has not ended. -/
def completing : TopUpPlace → Bool
  | .toSave _ _ | .toCredit _ _ | .toClear _ _ _ | .toCommit _ _ _ => true
  | _ => false

end TopUpPlace

namespace TopUpDb

def pending (db : TopUpDb) (tradeNo : String) : Bool := (db.topUps tradeNo).any fun row => row.status = .pending

/-- The order is stored under its own number. -/
def Keyed (db : TopUpDb) (tradeNo : String) : Prop := ∀ row, db.topUps tradeNo = some row → row.tradeNo = tradeNo

theorem pending_save {t : TopUpRow} (h : t.status = .success) (db : TopUpDb) : (db.save t).pending t.tradeNo = false := by
  simp [pending, h]

theorem keyed_save (t : TopUpRow) (db : TopUpDb) : (db.save t).Keyed t.tradeNo := by
  intro row hrow
  rw [save_topUps_self] at hrow
  cases hrow
  rfl

end TopUpDb

section Step

variable {s : TopUpSite} {tradeNo : String} {place : TopUpPlace} {db : TopUpDb}

/-- The copy that a call has written, or is going to commit. -/
structure PaidCopy (tradeNo : String) (c : Completion) (t : TopUpRow) : Prop where
  unguarded : Unguarded tradeNo c
  tradeNo_eq : t.tradeNo = tradeNo
  status_eq : t.status = .success

/-- What holds where a call stands. -/
def TopUpPlace.UnguardedOk (tradeNo : String) : TopUpPlace → TopUpDb → Prop
  | .start c, _ => Unguarded tradeNo c
  | .toSave c t, _ => Unguarded tradeNo c ∧ t.tradeNo = tradeNo
  | .toCredit c t, db => PaidCopy tradeNo c t ∧ (c.atomic = false → db.pending tradeNo = false)
  | .toClear c t _, _ | .toCommit c t _, _ => PaidCopy tradeNo c t
  | .done _, _ => True
  | _, _ => False

variable {db' : TopUpDb}

/-- A call that is not completing the order knows nothing about the tables. -/
theorem TopUpPlace.UnguardedOk.outside (h : place.UnguardedOk tradeNo db)
    (hout : place.completing = false) : place.UnguardedOk tradeNo db' := by
  cases place with
  | start => exact h
  | done => trivial
  | toSave | toCredit | toClear | toCommit => cases hout
  | conflict | update | notUpdated => exact h.elim

/-- What a statement of a call does, and what it adds to the wallets. -/
structure UnguardedStep (tradeNo : String) (place : TopUpPlace) (db : TopUpDb) (place' : TopUpPlace) (db' : TopUpDb)
    (credits : List (Int × ℚ)) : Prop where
  stands : place'.UnguardedOk tradeNo db'
  keyed : db'.Keyed tradeNo
  enters : place.completing = false → place'.completing = true → place.reads = true ∧ db.pending tradeNo = true
  quiet : place.completing = false → db' = db ∧ credits = []
  spends : credits = [] ∨ credits.length = 1 ∧ place'.completing = false ∧ db'.pending tradeNo = false

variable {result : Except String Unit} {place' : TopUpPlace}

/-- A call that ends without a credit. -/
theorem UnguardedStep.ends (hkeyed : db.Keyed tradeNo)
    (ht : db'.topUps = db.topUps) (hquiet : place.completing = false → db' = db) :
    UnguardedStep tradeNo place db (.done result) db' [] := by
  refine ⟨trivial, ?_, fun _ hin => ?_, fun hout => ⟨hquiet hout, rfl⟩, .inl rfl⟩
  · unfold Keyed
    rw [ht]
    exact hkeyed
  · cases hin

theorem UnguardedStep.goes (hin : place.completing)
    (hstands : place'.UnguardedOk tradeNo db') (hkeyed : db'.Keyed tradeNo) :
    UnguardedStep tradeNo place db place' db' [] := by
  refine ⟨hstands, hkeyed, fun hout => ?_, fun hout => ?_, .inl rfl⟩ <;>
    · rw [hin] at hout
      cases hout

theorem UnguardedStep.credits {credit : Int × ℚ}
    (hin : place.completing) (hkeyed : db'.Keyed tradeNo) (hpaid : db'.pending tradeNo = false) :
    UnguardedStep tradeNo place db (.done result) db' [credit] := by
  refine ⟨trivial, hkeyed, fun hout => ?_, fun hout => ?_, .inr ⟨rfl, rfl, hpaid⟩⟩ <;>
    · rw [hin] at hout
      cases hout

/-- **One statement of a call.** -/
theorem TopUpEffect.unguarded {credits : List (Int × ℚ)}
    (he : TopUpEffect s db place place' db' credits) (hkeyed : db.Keyed tradeNo) (h : place.UnguardedOk tradeNo db) :
    UnguardedStep tradeNo place db place' db' credits := by
  cases he with
  | ends => exact .ends hkeyed rfl fun _ => rfl
  | waits =>
    refine ⟨h, hkeyed, fun hout hin => ?_, fun _ => ⟨rfl, rfl⟩, .inl rfl⟩
    rw [hout] at hin
    cases hin
  | reads c t hfound hverdict =>
    have hc : Unguarded tradeNo c := h
    rw [hc.tradeNo_eq] at hfound
    refine ⟨⟨hc, hkeyed t hfound⟩, hkeyed, fun _ _ => ⟨rfl, ?_⟩, fun _ => ⟨rfl, rfl⟩, .inl rfl⟩
    simp [pending, hfound, hc.pending t hverdict]
  | conflicts c t hguarded =>
    rw [h.1.guarded_eq] at hguarded
    cases hguarded
  | saves c t now =>
    obtain ⟨hc, ht⟩ := h
    have hmark : (c.mark now t).tradeNo = tradeNo := (hc.mark_tradeNo _ _).trans ht
    have hcopy : PaidCopy tradeNo c (c.mark now t) := ⟨hc, hmark, hc.mark_status _ _⟩
    cases hatomic : c.atomic with
    | true =>
      refine .goes rfl ⟨hcopy, fun hnot => ?_⟩ hkeyed
      rw [hatomic] at hnot
      cases hnot
    | false =>
      have hpaid := pending_save (hc.mark_status now t) db
      have hkeyed' := keyed_save (c.mark now t) db
      rw [hmark] at hpaid hkeyed'
      exact .goes rfl ⟨hcopy, fun _ => hpaid⟩ hkeyed'
  | rollsBack _ hin =>
    refine .ends hkeyed (by simp) fun hout => ?_
    cases place with
    | toCredit | toClear | toCommit => cases hout
    | _ => cases hin
  | computes => exact .goes rfl h.1 hkeyed
  | credits c t x hatomic => exact .credits rfl hkeyed (h.2 hatomic)
  | clears => exact .goes rfl h hkeyed
  | commits c t x =>
    have hcopy : PaidCopy tradeNo c t := h
    have hrows : (((db.writePaid c t).credit s t.userId x).release c t).topUps = (db.save t).topUps := by
      rw [release_topUps, writePaid, hcopy.unguarded.guarded_eq]
      rfl
    have hpaid := pending_save hcopy.status_eq db
    have hkeyed' := keyed_save t db
    rw [hcopy.tradeNo_eq] at hpaid hkeyed'
    refine .credits rfl ?_ ?_
    · unfold Keyed
      rw [hrows]
      exact hkeyed'
    · unfold pending
      rw [hrows]
      exact hpaid
  | updates | skips => exact h.elim

end Step

/-! ## The calls together -/

/-- What a statement of a call adds to the wallets, among all calls. -/
def creditsAt {ι : Type*} (c : Sys ι TopUpDb TopUpPlace) (a : ι × TopUpInput) : List (Int × ℚ) :=
  topUpCredits (c.procs a.1) a.2 c.shared

def ReadAlone {ι : Type*} (tradeNo : String) (c : Sys ι TopUpDb TopUpPlace) (a : ι × TopUpInput) : Prop :=
  (c.procs a.1).reads = true → c.shared.pending tradeNo = true → ∀ j, (c.procs j).completing = false

instance {ι : Type*} [Fintype ι] (tradeNo : String) (c : Sys ι TopUpDb TopUpPlace) (a : ι × TopUpInput) :
    Decidable (ReadAlone tradeNo c a) := inferInstanceAs (Decidable (_ → _ → _))

section Calls

variable {ι : Type*} {s : TopUpSite} {tradeNo : String} {c : Sys ι TopUpDb TopUpPlace} {a : ι × TopUpInput}

/-- At most one call completes the order, and every call has the assertion of its place. -/
def CompletedByOne (tradeNo : String) (c : Sys ι TopUpDb TopUpPlace) : Prop :=
  c.Guarded (fun place => place.completing = true) (fun place db => place.UnguardedOk tradeNo db ∧ db.Keyed tradeNo)
    fun _ => True

def Settled (tradeNo : String) (c : Sys ι TopUpDb TopUpPlace) : Prop :=
  c.shared.pending tradeNo = false ∧ ∀ j, (c.procs j).completing = false

theorem CompletedByOne.step_ok (h : CompletedByOne tradeNo c) (a : ι × TopUpInput) :
    UnguardedStep tradeNo (c.procs a.1) c.shared (topUpStep s (c.procs a.1) a.2 c.shared).1
      (topUpStep s (c.procs a.1) a.2 c.shared).2 (creditsAt c a) :=
  (topUpStep_effect s a.2 c.shared _).unguarded (h.asserts a.1).2 (h.asserts a.1).1

variable [DecidableEq ι]

theorem completedByOne_step (halone : ReadAlone tradeNo c a) (h : CompletedByOne tradeNo c) :
    CompletedByOne tradeNo (c.step (topUpStep s) a) := by
  have hstep := h.step_ok (s := s) a
  refine Sys.step_guarded h ?_ ⟨hstep.stands, hstep.keyed⟩ ?_ fun _ _ => trivial
  · intro hout hin j
    obtain ⟨hreads, hpending⟩ := hstep.enters (by simpa using hout) hin
    simp [halone hreads hpending j]
  · intro j hj
    refine ⟨?_, hstep.keyed⟩
    by_cases hin : (c.procs a.1).completing
    · exact (h.asserts j).1.outside (by simpa using h.alone hin hj)
    · rw [(hstep.quiet (by simpa using hin)).1]
      exact (h.asserts j).1

/-- A settled order stays so, and nothing more is credited. -/
theorem settled_step (h : CompletedByOne tradeNo c) (hsettled : Settled tradeNo c) :
    creditsAt c a = [] ∧ Settled tradeNo (c.step (topUpStep s) a) := by
  have hstep := h.step_ok (s := s) a
  obtain ⟨hdb, hcredits⟩ := hstep.quiet (hsettled.2 a.1)
  refine ⟨hcredits, ?_, Sys.step_procs_of (P := fun _ (place : TopUpPlace) => place.completing = false) ?_
    fun j _ => hsettled.2 j⟩
  · rw [Sys.step_shared, hdb]
    exact hsettled.1
  · by_contra hin
    have hpending := (hstep.enters (hsettled.2 a.1) (by simpa using hin)).2
    rw [hsettled.1] at hpending
    cases hpending

theorem credit_settles (h : CompletedByOne tradeNo c) :
    creditsAt c a = [] ∨ (creditsAt c a).length = 1 ∧ Settled tradeNo (c.step (topUpStep s) a) := by
  have hstep := h.step_ok (s := s) a
  rcases hstep.spends with hnone | ⟨hone, hdone, hpaid⟩
  · exact .inl hnone
  have hin : (c.procs a.1).completing := by
    by_contra hout
    rw [(hstep.quiet (by simpa using hout)).2] at hone
    cases hone
  refine .inr ⟨hone, hpaid, Sys.step_procs_of (P := fun _ (place : TopUpPlace) => place.completing = false) hdone
    fun j hj => ?_⟩
  simpa using h.alone hin hj

end Calls

/-- **An order is credited at most once if nobody reads it while it is being completed.** For any number of calls of the
seven completions on one order: in every interleaving in which the pending order is read only while no call completes
it, at most one credit is made, and the users' tables are the first ones with the credits added. -/
theorem topUp_credited_at_most_once {ι : Type*} [DecidableEq ι] (s : TopUpSite) (o : TopUpRow)
    (c : Sys ι TopUpDb TopUpPlace) (actions : List (ι × TopUpInput)) (hfound : c.shared.topUps o.tradeNo = some o)
    (hcalls : ∀ i, ∃ call, c.procs i = .start call ∧ OrderCompletion s o.tradeNo call)
    (halone : Along (Sys.step (topUpStep s)) (ReadAlone o.tradeNo) c actions) :
    (trace (Sys.step (topUpStep s)) creditsAt c actions).length ≤ 1 ∧
    (run (Sys.step (topUpStep s)) c actions).shared.store =
      c.shared.store.creditAll s (trace (Sys.step (topUpStep s)) creditsAt c actions) := by
  have hout : ∀ i, (c.procs i).completing ≠ true := by
    intro i hin
    obtain ⟨call, hcall, _⟩ := hcalls i
    rw [hcall] at hin
    cases hin
  have hinv : CompletedByOne o.tradeNo c := by
    refine ⟨fun hi _ => absurd hi (hout _), fun i => ⟨?_, fun row hrow => ?_⟩, fun _ => trivial⟩
    · obtain ⟨call, hcall, hkind⟩ := hcalls i
      rw [hcall]
      exact hkind.unguarded
    · rw [hfound] at hrow
      cases hrow
      rfl
  constructor
  · exact trace_length_le_one (fun _ _ hC hI => completedByOne_step hC hI) (fun _ _ _ hI hP => settled_step hI hP)
      (fun _ _ _ hI => credit_settles hI) halone hinv
  · exact run_eq_foldl_trace (p := fun c' : Sys ι TopUpDb TopUpPlace => c'.shared.store)
      fun c' a => (topUpStep_effect s a.2 c'.shared (c'.procs a.1)).store_eq

namespace Sample

def twoNodes (provider : String) (call : Completion) : Sys (Fin 2) TopUpDb TopUpPlace where
  shared := topUpDb (topUpRow provider)
  procs _ := .start call

/-- The statements of the two nodes in an order. -/
def nodeActions (nodes : List (Fin 2)) : List (Fin 2 × TopUpInput) := nodes.map fun i => (i, ⟨1000, none⟩)

/-- The seven completions, with the provider whose order they complete. -/
def orderCompletions : List (String × Completion) :=
  [("stripe", recharge topUpSite "A"), ("creem", rechargeCreem "A" ""), ("waffo", rechargeWaffo topUpSite "A"),
    ("waffo_pancake", rechargeWaffoPancake topUpSite "A"), ("mpay", confirmMPayOrder topUpSite "A" 10),
    ("xpay", confirmXPayOrder topUpSite "A" 10), ("waffo", manualCompleteTopUp topUpSite "A")]

end Sample

open Sample

/-- The second node reads the sample order after the first has completed it. -/
theorem topUp_credited_at_most_once_sample :
    (run (Sys.step (topUpStep topUpSite)) (twoNodes "mpay" (confirmMPayOrder topUpSite "A" 10))
      (nodeActions [0, 0, 0, 0, 0, 1])).shared.store.wallet 1 = 600 ∧
    (trace (Sys.step (topUpStep topUpSite)) creditsAt
      (twoNodes "mpay" (confirmMPayOrder topUpSite "A" 10))
      (nodeActions [0, 0, 0, 0, 0, 1])).length ≤ 1 := by
  refine ⟨by decide +kernel, ?_⟩
  exact (topUp_credited_at_most_once topUpSite (topUpRow "mpay") _ _ rfl
    (fun _ => ⟨_, rfl, .mpay 10⟩) (by decide +kernel)).1

/-- **Each of the seven completions can credit an order twice**: both nodes read the pending order, then the first
completes it, then the second saves its copy and adds the quota again. -/
theorem topUp_credited_twice :
    orderCompletions.map (fun call =>
      (trace (Sys.step (topUpStep topUpSite)) creditsAt (twoNodes call.1 call.2)
        (nodeActions [0, 1, 0, 0, 0, 0, 1, 1, 1, 1])).length) = [2, 2, 2, 2, 2, 2, 2] ∧
    (run (Sys.step (topUpStep topUpSite)) (twoNodes "creem" (rechargeCreem "A" ""))
      (nodeActions [0, 1, 0, 0, 0, 0, 1, 1, 1, 1])).shared.store.wallet 1 = 1100 := by
  constructor <;> decide +kernel

end SynthApi
