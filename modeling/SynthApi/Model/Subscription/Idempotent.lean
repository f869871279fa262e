import SynthApi.Model.Subscription.Consume

/-!
# A request is charged once and refunded once

Idempotence of `PreConsumeUserSubscription` and `RefundSubscriptionPreConsume` over any history of transactions. The
record of a request id only moves forward: absent, consumed, refunded (`record_step`). A call takes effect, i.e. changes
the store, only together with such a move (`chargesRequest_record`, `refundsRequest_record`), so that each of the two
calls takes effect at most once for an id (`Lib.at_most_once`). The main result is `request_once`.
-/

namespace SynthApi

open Lib Lib.Go

/-! ## The life of a record -/

def Recorded (requestId : String) (st : Store) : Prop := (st.record requestId).isSome

def RecordedRefunded (requestId : String) (st : Store) : Prop := ∃ r, st.record requestId = some r ∧ r.status = .refunded

section Life

variable {e : Env} {requestId rid : String} {userId amount : Int} {st st' : Store}

theorem maybeReset_record {sub sub' : UserSubscription} {plan : SubscriptionPlan} {now : Int}
    (h : maybeResetUserSubscriptionWithPlanTx e st sub plan now = some (sub', st')) :
    st'.record rid = st.record rid := by
  rcases (maybeReset_spec h).1 with ⟨_, rfl⟩ | rfl
  · rfl
  · rfl

theorem postConsumeRun_record {applyDiscount : Bool} {id delta applied : Int}
    (h : postConsumeRun e applyDiscount id delta st = .ok (applied, st')) : st'.record rid = st.record rid := by
  obtain ⟨sub, -, -, -, rfl⟩ := postConsumeRun_spec h
  rfl

variable {res : SubscriptionPreConsumeResult}

theorem preConsumeTx_record (hn : st.record requestId = none)
    (h : preConsumeTx e requestId userId amount st = .ok (res, st')) :
    st'.record requestId = some ⟨requestId, userId, res.userSubscriptionId, res.preConsumed, .consumed⟩ ∧
      ∀ rid, rid ≠ requestId → st'.record rid = st.record rid := by
  rcases preConsumeTx_cases h with ⟨r, _, hr, _⟩ | ⟨_, hloop⟩
  · rw [hn] at hr; cases hr
  · obtain ⟨skipped, c, rest, st₀, plan, sub, st₁, -, hskip, hc⟩ := preConsumeFrom_cases hloop
    have hrec : ∀ rid, st₁.record rid = st.record rid := fun rid => (maybeReset_record hc.reset).trans
      (hskip.inv (I := fun s => s.record rid = st.record rid) (fun _ _ _ _ _ _ hr h => (maybeReset_record hr).trans h) rfl)
    rw [hc.store, ← hc.target]
    constructor
    · exact Store.record_create (r := ⟨requestId, userId, res.userSubscriptionId, res.preConsumed, .consumed⟩)
        ((hrec requestId).trans hn)
    · intro rid hne
      exact (Store.record_create_ne hne).trans (hrec rid)

theorem preConsumeTx_int64 (hn : st.record requestId = none)
    (h : preConsumeTx e requestId userId amount st = .ok (res, st')) : InInt64 res.preConsumed := by
  rcases preConsumeTx_cases h with ⟨r, _, hr, _⟩ | ⟨_, hloop⟩
  · rw [hn] at hr; cases hr
  · obtain ⟨skipped, c, rest, st₀, plan, sub, st₁, -, -, hc⟩ := preConsumeFrom_cases hloop
    rw [hc.charge]
    exact apply_int64 _ _

theorem refundTx_record {u : Unit} (h : refundTx e requestId st = .ok (u, st')) :
    ∃ r, st.record requestId = some r ∧ ((r.status = .refunded ∧ st' = st) ∨ (r.status = .consumed ∧
      st'.record requestId = some { r with status := .refunded } ∧
      ∀ rid, rid ≠ requestId → st'.record rid = st.record rid)) := by
  obtain ⟨r, hr, hcase⟩ := refundTx_cases h
  have hid : r.requestId = requestId := Table.key_of_lookup hr
  refine ⟨r, hr, ?_⟩
  rcases hcase with hdone | ⟨hs, -, rfl⟩ | ⟨hs, -, applied, st₁, hrun, rfl⟩
  · exact .inl hdone
  · refine .inr ⟨hs, ?_, fun rid hne => Store.record_save_ne (hid ▸ hne)⟩
    subst hid
    exact Store.record_save (by rw [hr]; rfl)
  · refine .inr ⟨hs, ?_, fun rid hne => (Store.record_save_ne (hid ▸ hne)).trans (postConsumeRun_record hrun)⟩
    subst hid
    exact Store.record_save (by rw [postConsumeRun_record hrun, hr]; rfl)

/-- How a transaction moves the record of a request: only a pre-consumption of the request creates it, only a refund of
the request changes it. -/
inductive RecordMove (rid : String) : SubOp → Option SubscriptionPreConsumeRecord →
    Option SubscriptionPreConsumeRecord → Prop
  | stays (op o) : RecordMove rid op o o
  | charged (e userId amount r) (h : InInt64 r.preConsumed) :
    RecordMove rid (.preConsume e rid userId amount) none (some r)
  | refunded (e attempt r) (h : r.status = .consumed) :
    RecordMove rid (.refund e attempt rid) (some r) (some { r with status := .refunded })

theorem RecordMove.of_eq {op : SubOp} {o o' : Option SubscriptionPreConsumeRecord} (h : o' = o) :
    RecordMove rid op o o' := by subst h; exact .stays op o'

/-- **A record only moves forward.** -/
theorem record_step (rid : String) (st : Store) (op : SubOp) :
    RecordMove rid op (st.record rid) ((subStep st op).record rid) := by
  have heff := subStep_effect st op
  generalize subStep st op = st' at heff
  cases heff with
  | same => exact .stays _ _
  | @preConsume e requestId userId amount res _ _ htx =>
    rcases preConsumeTx_cases htx with ⟨_, _, _, _, _, _, _, rfl⟩ | ⟨hn, -⟩
    · exact .stays _ _
    · obtain ⟨hnew, hother⟩ := preConsumeTx_record hn htx
      by_cases hrid : rid = requestId
      · subst hrid
        rw [hn, hnew]
        exact .charged e userId amount _ (preConsumeTx_int64 hn htx)
      · exact .of_eq (hother rid hrid)
  | postConsume h => exact .of_eq (postConsumeRun_record h)
  | @refund e attempt requestId _ _ h =>
    obtain ⟨r, hr, ⟨-, rfl⟩ | ⟨hs, hnew, hother⟩⟩ := refundTx_record h
    · exact .stays _ _
    · by_cases hrid : rid = requestId
      · subst hrid
        rw [hr, hnew]
        exact .refunded e attempt r hs
      · exact .of_eq (hother rid hrid)
  | reset h =>
    rcases resetTx_cases h with ⟨-, rfl⟩ | ⟨locked, sub, -, -, hm⟩
    · exact .stays _ _
    · exact .of_eq (maybeReset_record hm)

theorem recorded_step (st : Store) (op : SubOp) (h : Recorded rid st) : Recorded rid (subStep st op) := by
  have hm := record_step rid st op
  unfold Recorded at h ⊢
  generalize (subStep st op).record rid = o' at hm ⊢
  generalize st.record rid = o at hm h
  cases hm with
  | stays => exact h
  | charged => rfl
  | refunded => rfl

theorem recordedRefunded_step (st : Store) (op : SubOp) (h : RecordedRefunded rid st) :
    RecordedRefunded rid (subStep st op) := by
  obtain ⟨r, hr, hs⟩ := h
  have hm := record_step rid st op
  unfold RecordedRefunded
  rw [hr] at hm
  generalize (subStep st op).record rid = o' at hm ⊢
  cases hm with
  | stays => exact ⟨r, rfl, hs⟩
  | refunded _ _ _ hc => rw [hs] at hc; cases hc

end Life

/-! ## Calls that take effect -/

def ChargesRequest (requestId : String) (st : Store) (op : SubOp) : Prop :=
  (∃ e userId amount, op = .preConsume e requestId userId amount) ∧ subStep st op ≠ st

def RefundsRequest (requestId : String) (st : Store) (op : SubOp) : Prop :=
  (∃ e attempt, op = .refund e attempt requestId) ∧ subStep st op ≠ st

section Effects

variable {rid : String} {st : Store} {op : SubOp}

theorem chargesRequest_record (h : ChargesRequest rid st op) : ¬ Recorded rid st ∧ Recorded rid (subStep st op) := by
  obtain ⟨⟨e, userId, amount, rfl⟩, hne⟩ := h
  have heff := subStep_effect st (.preConsume e rid userId amount)
  generalize subStep st (.preConsume e rid userId amount) = st' at heff hne
  cases heff with
  | same => exact absurd rfl hne
  | preConsume _ htx =>
    rcases preConsumeTx_cases htx with ⟨_, _, _, _, _, _, _, rfl⟩ | ⟨hn, -⟩
    · exact absurd rfl hne
    · have hnew := (preConsumeTx_record hn htx).1
      exact ⟨by rw [Recorded, hn]; exact nofun, by rw [Recorded, hnew]; rfl⟩

theorem refundsRequest_record (h : RefundsRequest rid st op) :
    ¬ RecordedRefunded rid st ∧ RecordedRefunded rid (subStep st op) := by
  obtain ⟨⟨e, attempt, rfl⟩, hne⟩ := h
  have heff := subStep_effect st (.refund e attempt rid)
  generalize subStep st (.refund e attempt rid) = st' at heff hne
  cases heff with
  | same => exact absurd rfl hne
  | refund h =>
    obtain ⟨r, hr, ⟨-, rfl⟩ | ⟨hs, hnew, -⟩⟩ := refundTx_record h
    · exact absurd rfl hne
    · refine ⟨?_, _, hnew, rfl⟩
      rintro ⟨r', hr', hs'⟩
      rw [hr] at hr'
      cases hr'
      rw [hs] at hs'
      cases hs'

/-- The request is recorded as consumed, with the charge `charge` on the row `subId`, which exists. -/
def Charged (rid : String) (subId charge : Int) (st : Store) : Prop :=
  (∃ r, st.record rid = some r ∧ r.userSubscriptionId = subId ∧ r.preConsumed = charge ∧ r.status = .consumed) ∧
    (st.subscription subId).isSome

variable {subId charge userId amount : Int} {e : Env}

/-- A charged request stays charged until a refund of it takes effect. -/
theorem charged_step (hno : ¬ RefundsRequest rid st op) (h : Charged rid subId charge st) :
    Charged rid subId charge (subStep st op) := by
  obtain ⟨⟨r, hr, hsub, hcharge, hs⟩, hrow⟩ := h
  refine ⟨⟨r, ?_, hsub, hcharge, hs⟩, (subStep_frame st op).subscription_isSome hrow⟩
  have hm := record_step rid st op
  rw [hr] at hm
  generalize ho : (subStep st op).record rid = o' at hm
  cases hm with
  | stays => rfl
  | refunded e attempt _ _ =>
    -- the record changed, so the store did
    refine absurd ⟨⟨e, attempt, rfl⟩, fun heq => ?_⟩ hno
    rw [heq, hr] at ho
    rw [Option.some.inj ho] at hs
    cases hs

theorem charged_of_preConsume {res : SubscriptionPreConsumeResult}
    (h : (preConsumeUserSubscription e rid userId amount st).1 = .ok res) :
    Charged rid res.userSubscriptionId res.preConsumed (preConsumeUserSubscription e rid userId amount st).2 := by
  cases hp : preConsumeUserSubscription e rid userId amount st with
  | mk r st' =>
    rw [hp] at h
    cases h
    obtain ⟨hpos, htx⟩ := preConsume_ok hp
    rcases preConsumeTx_cases htx with ⟨r, sub, hr, hs, hsub, hid, hcharge, rfl⟩ | ⟨hn, hloop⟩
    · have hkey : sub.id = r.userSubscriptionId := Table.key_of_lookup hsub
      exact ⟨⟨r, hr, by rw [hid, hkey], hcharge.symm, hs⟩, by rw [hid, hkey, hsub]; rfl⟩
    · refine ⟨⟨_, (preConsumeTx_record hn htx).1, rfl, rfl, rfl⟩, ?_⟩
      obtain ⟨skipped, c, rest, st₀, plan, sub, st₁, hsubs, -, hc⟩ := preConsumeFrom_cases hloop
      have hcand : c ∈ preConsumeCandidates e userId st := by rw [hsubs]; simp
      have hmem := mem_preConsumeCandidates hcand
      have hid : c.id = res.userSubscriptionId := by rw [hc.target, (maybeReset_spec hc.reset).2.1.id]
      exact (preConsumeTx_writes hpos htx).frame.subscription_isSome (Table.lookup_isSome hmem hid)

theorem preConsume_of_recorded (h : Recorded rid st) :
    (preConsumeUserSubscription e rid userId amount st).2 = st := by
  by_contra hne
  exact (chargesRequest_record ⟨⟨e, userId, amount, rfl⟩, hne⟩).1 h

theorem preConsume_of_charged (h : Charged rid subId charge st)
    (hrid : trimSpace rid ≠ "") (hu : 0 < userId) (ha : 0 < amount) (hf : e.fails .preConsumeUserSubscription = none) :
    ∃ res, (preConsumeUserSubscription e rid userId amount st).1 = .ok res ∧ res.userSubscriptionId = subId ∧
      res.preConsumed = charge := by
  obtain ⟨⟨r, hr, rfl, rfl, hs⟩, hrow⟩ := h
  obtain ⟨sub, hsub⟩ := Option.isSome_iff_exists.1 hrow
  have hkey : sub.id = r.userSubscriptionId := Table.key_of_lookup hsub
  have hbody : preConsumeTx e rid userId amount st = .ok (⟨sub.id, r.preConsumed,
      getUserSubscriptionBillingDiscount e sub, sub.amountTotal, sub.amountUsed, sub.amountUsed⟩, st) := by
    simp [preConsumeTx, hr, hs, hsub]
  rw [preConsumeUserSubscription, if_neg (by omega), if_neg hrid, if_neg (by omega), hf]
  exact ⟨_, congrArg Prod.fst (transaction_of_ok hbody), hkey, rfl⟩

theorem preConsume_of_refunded (h : RecordedRefunded rid st) :
    ∃ err, preConsumeUserSubscription e rid userId amount st = (.error (.error err), st) := by
  obtain ⟨r, hr, hs⟩ := h
  have hbody : preConsumeTx e rid userId amount st = .error (.error "subscription pre-consume already refunded") := by
    simp [preConsumeTx, hr, hs]
  unfold preConsumeUserSubscription
  split_ifs
  · exact ⟨_, rfl⟩
  · exact ⟨_, rfl⟩
  · exact ⟨_, rfl⟩
  · cases hf : e.fails .preConsumeUserSubscription with
    | some err => exact ⟨err, rfl⟩
    | none => exact ⟨_, transaction_of_error hbody⟩

end Effects

/-- **A request is charged once and refunded once.** In any history, let `a` be a transaction on the request `rid` and
`bs` any transactions after it.

* If `a` charged the request, or refunded it, no later call does so again.
* If `a` was a pre-consumption that succeeded, a later one changes nothing, and as long as no refund took effect and the
  call is valid it succeeds with the charge that `a` reported.
* If `a` refunded the request, a later pre-consumption fails and changes nothing. -/
theorem request_once (rid : String) (st : Store) (as bs : List SubOp) (a : SubOp) :
    (ChargesRequest rid (run subStep st as) a → ∀ b, ¬ ChargesRequest rid (run subStep st (as ++ a :: bs)) b) ∧
    (RefundsRequest rid (run subStep st as) a → ∀ b, ¬ RefundsRequest rid (run subStep st (as ++ a :: bs)) b) ∧
    (∀ e userId amount res, a = .preConsume e rid userId amount →
      (preConsumeUserSubscription e rid userId amount (run subStep st as)).1 = .ok res → ∀ e' userId' amount',
      (preConsumeUserSubscription e' rid userId' amount' (run subStep st (as ++ a :: bs))).2 =
        run subStep st (as ++ a :: bs) ∧
      (Along subStep (fun s b => ¬ RefundsRequest rid s b) (run subStep st (as ++ [a])) bs → 0 < userId' → 0 < amount' →
        e'.fails .preConsumeUserSubscription = none → ∃ res',
          (preConsumeUserSubscription e' rid userId' amount' (run subStep st (as ++ a :: bs))).1 = .ok res' ∧
          res'.userSubscriptionId = res.userSubscriptionId ∧ res'.preConsumed = res.preConsumed)) ∧
    (RefundsRequest rid (run subStep st as) a → ∀ e' userId' amount', ∃ err,
      preConsumeUserSubscription e' rid userId' amount' (run subStep st (as ++ a :: bs)) =
        (.error (.error err), run subStep st (as ++ a :: bs))) := by
  refine ⟨fun ha b => ?_, fun ha b => ?_, fun e userId amount res hop hok e' userId' amount' => ?_,
    fun ha e' userId' amount' => ?_⟩
  · exact at_most_once recorded_step (fun _ _ h => (chargesRequest_record h).2) (fun _ _ h => (chargesRequest_record h).1)
      ha
  · exact at_most_once recordedRefunded_step (fun _ _ h => (refundsRequest_record h).2)
      (fun _ _ h => (refundsRequest_record h).1) ha
  · subst hop
    have hfirst := charged_of_preConsume hok
    have hrid : trimSpace rid ≠ "" := by
      intro hempty
      rw [preConsumeUserSubscription] at hok
      split_ifs at hok
    constructor
    · apply preConsume_of_recorded
      rw [run_append]
      refine run_inv recorded_step bs ?_
      obtain ⟨r, hr, -⟩ := hfirst.1
      exact Option.isSome_iff_exists.2 ⟨r, hr⟩
    · intro hbs hu hamt hf
      refine preConsume_of_charged ?_ hrid hu hamt hf
      rw [run_append] at hbs ⊢
      rw [run_cons] at hbs ⊢
      exact run_inv_along (fun _ _ hno h => charged_step hno h) hbs hfirst
  · apply preConsume_of_refunded
    rw [run_append]
    exact run_inv recordedRefunded_step bs (refundsRequest_record ha).2

open Sample

/-- The sample user is charged 30 for the request "a". Asked again for 50 the charge is still 30, and after the refund a
further pre-consumption fails. -/
theorem request_once_sample :
    (∀ b, ¬ ChargesRequest "a" (run subStep store [.preConsume (env 1500) "a" 1 30]) b) ∧
    (∃ res, (preConsumeUserSubscription (env 1600) "a" 1 50
        (run subStep store [.preConsume (env 1500) "a" 1 30])).1 = .ok res ∧
      res.userSubscriptionId = 1 ∧ res.preConsumed = 30) ∧
    (∀ b, ¬ RefundsRequest "a" (run subStep store [.preConsume (env 1500) "a" 1 30,
        .refund (env 1600) 0 "a"]) b) ∧
    ∃ err, (preConsumeUserSubscription (env 1700) "a" 1 30
      (run subStep store [.preConsume (env 1500) "a" 1 30, .refund (env 1600) 0 "a"])).1 =
        .error (.error err) := by
  have hcharge : ChargesRequest "a" store (.preConsume (env 1500) "a" 1 30) := by
    refine ⟨⟨_, _, _, rfl⟩, fun h => ?_⟩
    exact absurd (congrArg (fun s => s.preConsumeRecords.length) h) (by decide +kernel)
  have hrefund : RefundsRequest "a" (run subStep store [.preConsume (env 1500) "a" 1 30])
      (.refund (env 1600) 0 "a") := by
    refine ⟨⟨_, _, rfl⟩, fun h => ?_⟩
    exact absurd (congrArg (fun s => s.preConsumeRecords.map (·.status)) h) (by decide +kernel)
  have hfirst := request_once "a" store [] [] (.preConsume (env 1500) "a" 1 30)
  have hsecond := request_once "a" store [.preConsume (env 1500) "a" 1 30] []
    (.refund (env 1600) 0 "a")
  refine ⟨hfirst.1 hcharge, ?_, hsecond.2.1 hrefund, ?_⟩
  · have hagain := hfirst.2.2.1 (env 1500) 1 30 ⟨1, 30, 1, 1000, 0, 30⟩ rfl (by decide +kernel) (env 1600) 1 50
    exact hagain.2 trivial (by decide) (by decide) rfl
  · obtain ⟨err, herr⟩ := hsecond.2.2.2 hrefund (env 1700) 1 30
    exact ⟨err, congrArg Prod.fst herr⟩

end SynthApi
