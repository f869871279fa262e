import SynthApi.Model.Subscription.Idempotent

/-!
# Usage since the last reset

What a subscription has used should be the sum of the charges made since its last reset and not refunded. The history of
a row is told by events: `rowEvents` lists the resets, charges and refunds that a transaction makes, and the used amount
of a row is the fold of its events (`used_step`). `Audit` keeps, beside the store, the charges that are live: a reset
ends all of them, a refund ends its own.

A refund gives back what its request was charged, whether or not the row was reset in between. Refunding a request of an
earlier epoch therefore takes away usage of the present one (`refund_across_reset`). As long as every refund is of a
live charge, or nothing is used, the used amount is the sum of the live charges (`used_eq_live`).
-/

namespace SynthApi

open Lib Lib.Go List

/-! ## Events -/

inductive RowEvent where
  | reset (id : Int)
  | charge (id : Int) (requestId : String) (amount : Int)
  | refund (id : Int) (requestId : String) (amount : Int)
  deriving DecidableEq, Repr

def preConsumeEvents (e : Env) (requestId : String) (amount : Int) : List UserSubscription → Store → List RowEvent
  | [], _ => []
  | candidate :: subs, st =>
    match getSubscriptionPlanById e candidate.planId with
    | .error _ => []
    | .ok plan =>
      match maybeResetUserSubscriptionWithPlanTx e st candidate plan e.dbNow with
      | none => []
      | some (sub, st) =>
        let discountedAmount := applySubscriptionBillingDiscount amount (getUserSubscriptionBillingDiscount e sub)
        (if candidate.resets e plan e.dbNow then [.reset sub.id] else []) ++
          if 0 < sub.amountTotal ∧ wrap64 (sub.amountTotal - sub.amountUsed) < discountedAmount then
            preConsumeEvents e requestId amount subs st
          else [.charge sub.id requestId discountedAmount]

def resetEvents (e : Env) (id : Int) (plan : SubscriptionPlan) (st : Store) : List RowEvent :=
  match st.dueRow e.dbNow id with
  | none => []
  | some locked => if locked.resets e plan e.dbNow then [.reset locked.id] else []

def refundEvents (requestId : String) (st : Store) : List RowEvent :=
  match st.record requestId with
  | none => []
  | some r =>
    if r.status = .consumed ∧ 0 < r.preConsumed then [.refund r.userSubscriptionId requestId r.preConsumed] else []

/-- The events of a transaction; one that fails has none. Deltas are not part of the histories considered here. -/
def rowEvents (st : Store) : SubOp → List RowEvent
  | .preConsume e requestId userId amount =>
    match (preConsumeUserSubscription e requestId userId amount st).1 with
    | .error _ => []
    | .ok _ =>
      match st.record requestId with
      | some _ => []
      | none => preConsumeEvents e requestId amount (preConsumeCandidates e userId st) st
  | .postConsume _ _ _ => []
  | .refund e attempt requestId =>
    match (refundSubscriptionPreConsume e attempt requestId st).1 with
    | .error _ => []
    | .ok _ => refundEvents requestId st
  | .reset e sub =>
    match (resetDueSubscription e sub st).1, getSubscriptionPlanById e sub.planId with
    | .ok _, .ok plan => resetEvents e sub.id plan st
    | _, _ => []

/-! ## The used amount is the fold of the events -/

def Store.used (st : Store) (i : Int) : Int := ((st.subscription i).map (·.amountUsed)).getD 0

def usedAfterEvent (i : Int) (used : Int) : RowEvent → Int
  | .reset id => if id = i then 0 else used
  | .charge id _ amount => if id = i then wrap64 (used + amount) else used
  | .refund id _ amount => if id = i then max 0 (wrap64 (used - amount)) else used

/-- The ids of the rows are distinct: they are primary keys. -/
def DistinctIds (st : Store) : Prop := (st.userSubscriptions.map (·.id)).Nodup

instance (st : Store) : Decidable (DistinctIds st) := inferInstanceAs (Decidable (List.Nodup _))

section Used

variable {i : Int} {e : Env} {requestId : String} {userId amount : Int} {st st' : Store} {sub : UserSubscription}

theorem used_save (h : (st.subscription sub.id).isSome) :
    (st.saveSubscription sub).used i = if sub.id = i then sub.amountUsed else st.used i := by
  by_cases hi : sub.id = i
  · subst hi
    rw [if_pos rfl, Store.used, Store.subscription_save h]
    rfl
  · rw [if_neg hi, Store.used, Store.subscription_save_ne (Ne.symm hi)]
    rfl

theorem used_of_row (h : st.subscription i = some sub) : st.used i = sub.amountUsed := by
  rw [Store.used, h]
  rfl

@[simp] theorem used_createRecord (r : SubscriptionPreConsumeRecord) : (st.createRecord r).used i = st.used i := rfl

@[simp] theorem used_saveRecord (r : SubscriptionPreConsumeRecord) : (st.saveRecord r).used i = st.used i := rfl

theorem used_maybeReset {sub' : UserSubscription} {plan : SubscriptionPlan} {now : Int}
    (hrow : st.subscription sub.id = some sub)
    (h : maybeResetUserSubscriptionWithPlanTx e st sub plan now = some (sub', st')) :
    st'.subscription sub'.id = some sub' ∧
      (∀ id, id ≠ sub.id → st'.subscription id = st.subscription id) ∧
      st'.used i = (if sub.resets e plan now then [RowEvent.reset sub'.id] else []).foldl (usedAfterEvent i) (st.used i) := by
  obtain ⟨hst, hr, hused⟩ := maybeReset_spec h
  have hrow' : (st.subscription sub'.id).isSome := by rw [hr.id, hrow]; rfl
  have hsaved : (st' = st ∧ sub' = sub) ∨ st' = st.saveSubscription sub' := by tauto
  have hfind : st'.subscription sub'.id = some sub' := by
    rcases hsaved with ⟨rfl, rfl⟩ | rfl
    · exact hrow
    · exact Store.subscription_save hrow'
  have hother : ∀ id, id ≠ sub.id → st'.subscription id = st.subscription id := by
    intro id hne
    rcases hsaved with ⟨rfl, rfl⟩ | rfl
    · rfl
    · exact Store.subscription_save_ne (by rw [hr.id]; exact hne)
  refine ⟨hfind, hother, ?_⟩
  by_cases hi : sub.id = i
  · have h' : st'.used i = sub'.amountUsed := used_of_row (by rw [← hi, ← hr.id]; exact hfind)
    have h₀ : st.used i = sub.amountUsed := used_of_row (hi ▸ hrow)
    rw [h', hused, h₀]
    split_ifs <;> simp [usedAfterEvent, hr.id, hi]
  · have h' : st'.used i = st.used i := by rw [Store.used, hother i (Ne.symm hi)]; rfl
    rw [h']
    split_ifs <;> simp [usedAfterEvent, hr.id, hi]

/-- The loop of a pre-consumption, told by its events. -/
theorem used_preConsumeFrom {subs : List UserSubscription} {res : SubscriptionPreConsumeResult}
    (hnd : (subs.map (·.id)).Nodup) (hrow : ∀ c ∈ subs, st.subscription c.id = some c)
    (h : preConsumeFrom e requestId userId amount subs st = .ok (res, st')) :
    st'.used i = (preConsumeEvents e requestId amount subs st).foldl (usedAfterEvent i) (st.used i) := by
  induction subs generalizing st with
  | nil => cases h
  | cons candidate subs ih =>
    rw [preConsumeFrom] at h
    rw [preConsumeEvents]
    cases hp : getSubscriptionPlanById e candidate.planId with
    | error err => rw [hp] at h; cases h
    | ok plan =>
      cases hm : maybeResetUserSubscriptionWithPlanTx e st candidate plan e.dbNow with
      | none => simp only [hp, hm] at h; cases h
      | some r =>
        obtain ⟨sub, st₁⟩ := r
        obtain ⟨hfind, hother, hused⟩ := used_maybeReset (hrow candidate (by simp)) hm
        simp only [hp, hm] at h ⊢
        rw [foldl_append, ← hused]
        rw [map_cons, nodup_cons] at hnd
        split at h
        · rename_i hg
          rw [if_pos hg]
          refine ih hnd.2 (fun c hc => ?_) h
          -- the reset candidate is none of the rows still to come
          have hne : c.id ≠ candidate.id := fun heq => hnd.1 (heq ▸ mem_map_of_mem hc)
          rw [hother c.id hne]
          exact hrow c (by simp [hc])
        · rename_i hg
          rw [if_neg hg]
          cases h
          rw [used_save (by exact Option.isSome_iff_exists.2 ⟨sub, hfind⟩)]
          simp only [foldl_cons, foldl_nil, usedAfterEvent, used_createRecord]
          by_cases hi : sub.id = i
          · rw [if_pos hi, if_pos hi, used_of_row (hi ▸ hfind)]
          · rw [if_neg hi, if_neg hi]

theorem used_preConsume (hd : DistinctIds st) :
    (subStep st (.preConsume e requestId userId amount)).used i =
      (rowEvents st (.preConsume e requestId userId amount)).foldl (usedAfterEvent i) (st.used i) := by
  rw [subStep, rowEvents]
  cases h : preConsumeUserSubscription e requestId userId amount st with
  | mk r st' =>
    cases r with
    | error err => rw [preConsume_error h]; rfl
    | ok res =>
      rcases preConsumeTx_cases (preConsume_ok h).2 with ⟨r, _, hr, _, _, _, _, rfl⟩ | ⟨hn, hloop⟩
      · rw [hr]; rfl
      · simp only [hn]
        refine used_preConsumeFrom ?_ (fun c hc => Table.lookup_of_nodup hd (mem_preConsumeCandidates hc)) hloop
        have hsorted : (preConsumeCandidates e userId st).Perm
            (eligibleActiveUserSubscriptions st userId (getUserGroupById st userId) e.dbNow) := perm_insertionSort _ _
        rw [(hsorted.map (·.id)).nodup_iff]
        exact hd.sublist (filter_sublist.map _)

theorem used_refund {attempt : Nat} :
    (subStep st (.refund e attempt requestId)).used i =
      (rowEvents st (.refund e attempt requestId)).foldl (usedAfterEvent i) (st.used i) := by
  rw [subStep, rowEvents, refundSubscriptionPreConsume]
  split_ifs
  · rfl
  · obtain ⟨u, st', -, hbody, ht⟩ | ⟨err, ht⟩ :=
      transaction_cases (e.fails (.refundSubscriptionPreConsume attempt)) (refundTx e requestId) st
    · rw [ht]
      rw [refundEvents]
      obtain ⟨r, hr, ⟨hs, rfl⟩ | ⟨hs, hp, rfl⟩ | ⟨hs, hp, applied, st₁, hrun, rfl⟩⟩ := refundTx_cases hbody
      · simp [hr, hs]
      · simp [hr, Int.not_lt.mpr hp]
      · obtain ⟨sub, hsub, happ, -, rfl⟩ := postConsumeRun_spec hrun
        have hid : sub.id = r.userSubscriptionId := Table.key_of_lookup hsub
        have happ' : applied = -r.preConsumed := happ
        rw [used_saveRecord, used_save (by rw [hid, hsub]; rfl)]
        simp only [hr, hs, hp, and_self, if_true, foldl_cons, foldl_nil, usedAfterEvent, ← hid]
        by_cases hi : sub.id = i
        · rw [used_of_row (hi ▸ hid ▸ hsub), happ']
          unfold UserSubscription.usedAfter
          dsimp only
          rw [← sub_eq_add_neg]
          split_ifs <;> omega
        · rw [if_neg hi, if_neg hi]
    · rw [ht]; rfl

theorem used_reset (hd : DistinctIds st) :
    (subStep st (.reset e sub)).used i = (rowEvents st (.reset e sub)).foldl (usedAfterEvent i) (st.used i) := by
  rw [subStep, rowEvents, resetDueSubscription]
  cases hp : getSubscriptionPlanById e sub.planId with
  | error err => rfl
  | ok plan =>
    dsimp only
    obtain ⟨u, st', -, hbody, ht⟩ | ⟨err, ht⟩ :=
      transaction_cases (e.fails .resetDueSubscriptions) (resetTx e plan sub.id) st
    · rw [ht]
      unfold resetEvents
      rcases resetTx_cases hbody with ⟨hl, rfl⟩ | ⟨locked, sub', hl, hmem, hm⟩
      · rw [hl]
        rfl
      · have hused := (used_maybeReset (i := i) (Table.lookup_of_nodup hd hmem) hm).2.2
        rw [(maybeReset_spec hm).2.1.id] at hused
        rw [hl]
        exact hused
    · rw [ht]; rfl

/-- **The used amount follows the events.** -/
theorem used_step (hd : DistinctIds st) (op : SubOp) (hop : ∀ e id delta, op ≠ .postConsume e id delta) :
    (subStep st op).used i = (rowEvents st op).foldl (usedAfterEvent i) (st.used i) := by
  cases op with
  | preConsume e requestId userId amount => exact used_preConsume hd
  | postConsume e id delta => exact absurd rfl (hop e id delta)
  | refund e attempt requestId => exact used_refund
  | reset e sub => exact used_reset hd

end Used

/-! ## Live charges -/

/-- A charge since the last reset that is not refunded. -/
structure LiveCharge where
  requestId : String
  amount : Int
  deriving DecidableEq, Repr

def liveAfterEvent (i : Int) (live : List LiveCharge) : RowEvent → List LiveCharge
  | .reset id => if id = i then [] else live
  | .charge id requestId amount => if id = i then live ++ [⟨requestId, amount⟩] else live
  | .refund id requestId amount => if id = i then live.erase ⟨requestId, amount⟩ else live

def liveSum (live : List LiveCharge) : Int := (live.map LiveCharge.amount).sum

/-- The store, with the charges of one row since its last reset that are not refunded. -/
structure Audit where
  store : Store
  live : List LiveCharge

def auditStep (i : Int) (a : Audit) (op : SubOp) : Audit :=
  ⟨subStep a.store op, (rowEvents a.store op).foldl (liveAfterEvent i) a.live⟩

/-- A request with this record has a live charge, or there is none to lose, if its refund is one on the row `i`. -/
def RefundInEpoch (i : Int) (live : List LiveCharge) (requestId : String) :
    Option SubscriptionPreConsumeRecord → Prop
  | none => True
  | some r => r.status = .consumed → r.userSubscriptionId = i → ⟨requestId, r.preConsumed⟩ ∈ live ∨ live = []

instance (i : Int) (live : List LiveCharge) (requestId : String) : ∀ o, Decidable (RefundInEpoch i live requestId o)
  | none => isTrue trivial
  | some r => inferInstanceAs (Decidable (r.status = .consumed → r.userSubscriptionId = i → _ ∨ _))

/-- The transactions whose refunds stay in their epoch: a refund on the row `i` is of a live charge, or finds nothing in
use. A charge does not leave the range of `int64`, and there are no deltas. -/
def StaysInEpoch (i : Int) (a : Audit) : SubOp → Prop
  | .preConsume _ _ _ amount => a.store.used i + amount < 2 ^ 63
  | .postConsume _ _ _ => False
  | .refund _ _ requestId => RefundInEpoch i a.live requestId (a.store.record requestId)
  | .reset _ _ => True

instance (i : Int) (a : Audit) : ∀ op, Decidable (StaysInEpoch i a op)
  | .preConsume _ _ _ amount => inferInstanceAs (Decidable (a.store.used i + amount < 2 ^ 63))
  | .postConsume _ _ _ => isFalse id
  | .refund _ _ requestId => inferInstanceAs (Decidable (RefundInEpoch i a.live requestId _))
  | .reset _ _ => isTrue trivial

def Agrees (used : Int) (live : List LiveCharge) : Prop := used = liveSum live ∧ ∀ p ∈ live, 0 < p.amount

section Live

variable {i used : Int} {live : List LiveCharge} {e : Env} {st : Store}

theorem Agrees.nonneg (h : Agrees used live) : 0 ≤ used := by
  obtain ⟨rfl, hpos⟩ := h
  refine sum_nonneg fun x hx => ?_
  obtain ⟨p, hp, rfl⟩ := mem_map.1 hx
  exact (hpos p hp).le

theorem Agrees.reset (h : Agrees used live) (id : Int) :
    Agrees (usedAfterEvent i used (.reset id)) (liveAfterEvent i live (.reset id)) := by
  simp only [usedAfterEvent, liveAfterEvent]
  split_ifs
  · exact ⟨rfl, by simp⟩
  · exact h

variable {amount : Int} {a : Audit} {op : SubOp}

theorem Agrees.charge (h : Agrees used live) (id : Int) (requestId : String) (hpos : 0 < amount)
    (h64 : used + amount < 2 ^ 63) :
    Agrees (usedAfterEvent i used (.charge id requestId amount)) (liveAfterEvent i live (.charge id requestId amount)) := by
  have h0 := h.nonneg
  simp only [usedAfterEvent, liveAfterEvent]
  split_ifs
  · refine ⟨?_, fun p hp => ?_⟩
    · rw [wrap64_of_mem ⟨by omega, h64⟩, h.1]
      simp [liveSum]
    · rcases mem_append.1 hp with hp | hp
      · exact h.2 p hp
      · rw [mem_singleton.1 hp]; exact hpos
  · exact h

/-- A refund of a live charge, or one that finds nothing in use. -/
theorem Agrees.refund (h : Agrees used live) (id : Int) (requestId : String) (hpos : 0 < amount)
    (h64 : id = i → amount < 2 ^ 63 ∧ used < 2 ^ 63) (hlive : id = i → ⟨requestId, amount⟩ ∈ live ∨ live = []) :
    Agrees (usedAfterEvent i used (.refund id requestId amount)) (liveAfterEvent i live (.refund id requestId amount)) := by
  have h0 := h.nonneg
  simp only [usedAfterEvent, liveAfterEvent]
  split_ifs with hid
  · rw [wrap64_of_mem ⟨by omega, by omega⟩]
    have hrest : ∀ p ∈ live.erase ⟨requestId, amount⟩, 0 < p.amount := fun p hp => h.2 p (mem_of_mem_erase hp)
    refine ⟨?_, hrest⟩
    rcases hlive hid with hmem | rfl
    · have hsum : amount + liveSum (live.erase ⟨requestId, amount⟩) = liveSum live :=
        sum_map_erase LiveCharge.amount hmem
      have hagree : Agrees (liveSum (live.erase ⟨requestId, amount⟩)) (live.erase ⟨requestId, amount⟩) := ⟨rfl, hrest⟩
      have hrest0 := hagree.nonneg
      have hused := h.1
      omega
    · have hused : used = 0 := h.1
      have hempty : liveSum (([] : List LiveCharge).erase ⟨requestId, amount⟩) = 0 := rfl
      omega
  · exact h

theorem agrees_preConsumeEvents {requestId : String} (hpos : 0 < amount)
    {subs : List UserSubscription} (h : Agrees used live) (h64 : used + amount < 2 ^ 63) :
    Agrees ((preConsumeEvents e requestId amount subs st).foldl (usedAfterEvent i) used)
      ((preConsumeEvents e requestId amount subs st).foldl (liveAfterEvent i) live) := by
  induction subs generalizing used live st with
  | nil => exact h
  | cons candidate subs ih =>
    rw [preConsumeEvents]
    split
    · exact h
    · split
      · exact h
      · rename_i plan _ _ sub st₁ _
        simp only [foldl_append]
        -- after a possible reset of this row no more is in use than before
        have hfirst : ∃ used' live', Agrees used' live' ∧ used' + amount < 2 ^ 63 ∧
            (if candidate.resets e plan e.dbNow then [RowEvent.reset sub.id] else []).foldl (usedAfterEvent i) used =
              used' ∧
            (if candidate.resets e plan e.dbNow then [RowEvent.reset sub.id] else []).foldl (liveAfterEvent i) live =
              live' := by
          have h0 := h.nonneg
          split_ifs
          · refine ⟨_, _, h.reset sub.id, ?_, rfl, rfl⟩
            simp only [usedAfterEvent]
            split_ifs <;> omega
          · exact ⟨_, _, h, h64, rfl, rfl⟩
        obtain ⟨used', live', h', h64', hu, hl⟩ := hfirst
        rw [hu, hl]
        split_ifs
        · exact ih h' h64'
        · have h0 := h'.nonneg
          have hc1 := one_le_apply (getUserSubscriptionBillingDiscount e sub) hpos
          have hc2 := apply_le (getUserSubscriptionBillingDiscount e sub) hpos (by omega)
          exact h'.charge sub.id requestId (by omega) (by omega)

structure AuditInv (i : Int) (a : Audit) : Prop where
  distinct : DistinctIds a.store
  agrees : Agrees (a.store.used i) a.live
  used64 : a.store.used i < 2 ^ 63
  record64 : ∀ requestId r, a.store.record requestId = some r → InInt64 r.preConsumed

theorem record64_step (h : ∀ requestId r, st.record requestId = some r → InInt64 r.preConsumed) :
    ∀ requestId r, (subStep st op).record requestId = some r → InInt64 r.preConsumed := by
  intro rid r hr
  have hm := record_step rid st op
  rw [hr] at hm
  generalize ho : st.record rid = o at hm
  cases hm with
  | stays => exact h rid r ho
  | charged _ _ _ _ h64 => exact h64
  | refunded _ _ r₀ _ => exact h rid r₀ ho

theorem agrees_step (hop : StaysInEpoch i a op) (h : AuditInv i a) :
    Agrees ((rowEvents a.store op).foldl (usedAfterEvent i) (a.store.used i))
      ((rowEvents a.store op).foldl (liveAfterEvent i) a.live) := by
  cases op with
  | preConsume e requestId userId amount =>
    rw [rowEvents]
    cases hp : preConsumeUserSubscription e requestId userId amount a.store with
    | mk r st' =>
      cases r with
      | error err => exact h.agrees
      | ok res =>
        dsimp only
        split
        · exact h.agrees
        · exact agrees_preConsumeEvents (preConsume_ok hp).1 h.agrees hop
  | postConsume e id delta => exact h.agrees
  | refund e attempt requestId =>
    rw [rowEvents]
    split
    · exact h.agrees
    · rw [refundEvents]
      split
      · exact h.agrees
      · rename_i r hr
        split_ifs with hs
        · exact h.agrees.refund r.userSubscriptionId requestId hs.2 (fun _ => ⟨(h.record64 requestId r hr).2, h.used64⟩)
            (fun hid => by rw [StaysInEpoch, hr] at hop; exact hop hs.1 hid)
        · exact h.agrees
  | reset e sub =>
    rw [rowEvents]
    split
    · rw [resetEvents]
      split
      · exact h.agrees
      · split_ifs
        · exact h.agrees.reset _
        · exact h.agrees
    · exact h.agrees

theorem usedAfterEvent_lt (h : used < 2 ^ 63) (event : RowEvent) : usedAfterEvent i used event < 2 ^ 63 := by
  cases event with
  | reset id =>
    simp only [usedAfterEvent]
    split_ifs <;> omega
  | charge id requestId amount =>
    have hw := (wrap64_mem (used + amount)).2
    simp only [usedAfterEvent]
    split_ifs <;> omega
  | refund id requestId amount =>
    have hw := (wrap64_mem (used - amount)).2
    simp only [usedAfterEvent]
    split_ifs <;> omega

/-- **The step of the audit.** -/
theorem auditInv_step (hop : StaysInEpoch i a op) (h : AuditInv i a) :
    AuditInv i (auditStep i a op) := by
  have hdelta : ∀ e id delta, op ≠ .postConsume e id delta := by
    rintro e id delta rfl
    exact hop
  have hused := used_step (i := i) h.distinct op hdelta
  refine ⟨?_, ?_, ?_, record64_step h.record64⟩
  · rw [DistinctIds, auditStep, (subStep_frame a.store op).ids]
    exact h.distinct
  · have hagree := agrees_step hop h
    rw [← hused] at hagree
    exact hagree
  · have hlt : run (usedAfterEvent i) (a.store.used i) (rowEvents a.store op) < 2 ^ 63 :=
      run_inv (I := (· < 2 ^ 63)) (fun _ ev hu => usedAfterEvent_lt hu ev) (rowEvents a.store op) h.used64
    rw [run, ← hused] at hlt
    exact hlt

end Live

/-- **Usage since the last reset.** In every history of a new subscription `i` whose refunds stay in their epoch, the
used amount is the sum of the live charges in every state. -/
theorem used_eq_live (i : Int) (st : Store) (ops : List SubOp) (hd : DistinctIds st)
    (hnew : ∃ sub, st.subscription i = some sub ∧ sub.amountUsed = 0)
    (hrec : ∀ requestId r, st.record requestId = some r → InInt64 r.preConsumed)
    (hops : Along (auditStep i) (StaysInEpoch i) ⟨st, []⟩ ops) :
    Always (auditStep i) (fun a => ∃ sub, a.store.subscription i = some sub ∧ sub.amountUsed = liveSum a.live) ⟨st, []⟩
      ops := by
  obtain ⟨sub₀, hsub₀, hzero⟩ := hnew
  have hused₀ : st.used i = 0 := (used_of_row hsub₀).trans hzero
  have hinit : AuditInv i ⟨st, []⟩ ∧ (st.subscription i).isSome := by
    refine ⟨⟨hd, ⟨hused₀, by simp⟩, ?_, hrec⟩, by rw [hsub₀]; rfl⟩
    show st.used i < 2 ^ 63
    omega
  refine always_of_inv (I := fun a => AuditInv i a ∧ (a.store.subscription i).isSome) (fun a op hop h => ?_)
    (fun a h => ?_) hops hinit
  · exact ⟨auditInv_step hop h.1, (subStep_frame a.store op).subscription_isSome h.2⟩
  · obtain ⟨sub, hsub⟩ := Option.isSome_iff_exists.1 h.2
    exact ⟨sub, hsub, (used_of_row hsub).symm.trans h.1.agrees.1⟩

open Sample

/-- The sample subscription: a charge, its refund, a second charge, a reset, a third charge. -/
theorem used_eq_live_sample : ∃ sub,
    (run (auditStep 1) ⟨store, []⟩ [.preConsume (env 1500) "a" 1 50, .refund (env 1600) 0 "a",
      .preConsume (env 1700) "b" 1 70, .reset (env 2500) Sample.sub,
      .preConsume (env 2600) "c" 1 30]).store.subscription 1 = some sub ∧
    sub.amountUsed = liveSum [⟨"c", 30⟩] := by
  exact (used_eq_live 1 store _ (by decide) ⟨Sample.sub, rfl, rfl⟩ nofun (by decide +kernel)).last.imp
    fun sub h => ⟨h.1, h.2.trans (by decide +kernel)⟩

/-- **A refund across a reset**: "a" is charged 50, the subscription is reset, "b" is charged 30. The refund of "a"
leaves nothing in use, though the 30 of "b" are live. -/
theorem refund_across_reset :
    let a := run (auditStep 1) ⟨store, []⟩ [.preConsume (env 1500) "a" 1 50,
      .reset (env 2500) sub, .preConsume (env 2600) "b" 1 30, .refund (env 2700) 0 "a"]
    a.live = [⟨"b", 30⟩] ∧ a.store.used 1 = 0 := by
  decide +kernel

end SynthApi
