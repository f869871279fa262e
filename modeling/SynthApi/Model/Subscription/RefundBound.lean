import SynthApi.Setting.GeneralSetting
import SynthApi.Model.Subscription.PurchaseLimit

/-!
# What a cancellation pays back

A purchase with balance takes the price of the plan from the wallet; its cancellation gives a part of the price back,
the price being the one that the plan has then. `ShopAudit.step` follows a history and notes what each purchase with
balance took.

`refund_le_debit`: in every history that raises no price of a plan with an active subscription bought with balance, no
cancellation pays more than the purchase took. `refund_above_debit` is a history in which an administrator raises the
price and the cancellation pays more.
-/

namespace SynthApi

open Lib Lib.Go Option

/-! ## Prices and refunds -/

section Refund

variable {e : Env} {s : GeneralSetting} {plan : SubscriptionPlan} {sub : UserSubscription} {now : Int} {st : Store}

variable (hs : e.displayAmountToQuota = displayAmountToQuota s)

include hs

theorem calcSubscriptionBalanceQuota_eq (price : ℚ) :
    calcSubscriptionBalanceQuota e price = .ok (displayAmountToQuota s price) := by
  unfold calcSubscriptionBalanceQuota
  rw [hs]
  split_ifs with hprice hneg
  · rw [displayAmountToQuota_nonpos s hprice]
  · exact absurd (displayAmountToQuota_nonneg s price) (not_le.2 hneg)
  · rfl

/-- **A refund is at most the price of the plan.** -/
theorem cancelRefund_le {result : SubscriptionCancelResult}
    (h : cancelRefund e plan now sub = .ok result) : result.refundQuota ≤ displayAmountToQuota s plan.priceAmount := by
  unfold cancelRefund at h
  rw [calcSubscriptionBalanceQuota_eq hs] at h
  have hnonneg := displayAmountToQuota_nonneg s plan.priceAmount
  split at h
  · cases h
    exact hnonneg
  dsimp only at h
  split at h
  · cases h
    exact hnonneg
  · cases h
    refine max_le (round0_le ?_) hnonneg
    have hfull : (0 : ℚ) ≤ displayAmountToQuota s plan.priceAmount := by exact_mod_cast hnonneg
    exact mul_le_of_le_one_right hfull (min_le_right _ _)

omit hs

theorem Store.payRefund_wallet_le (st : Store) (userId quota : Int) :
    (st.payRefund userId quota).wallet userId ≤ st.wallet userId + max quota 0 := by
  unfold Store.payRefund
  split
  · unfold Store.wallet
    rw [lookup_user_addQuota]
    cases Table.lookup User.id userId st.users with
    | none => simp only [map_none]; omega
    | some u => simp only [map_some, getD_some, if_true, User.addQuota]; omega
  · omega

theorem Store.chargeQuota_wallet {userId quota : Int} (huser : st.HasUser userId) (hquota : 0 ≤ quota) :
    (st.chargeQuota userId quota).wallet userId = st.wallet userId - quota := by
  obtain ⟨u, hu⟩ := isSome_iff_exists.1 huser
  unfold Store.chargeQuota
  split
  · unfold Store.wallet
    rw [lookup_user_addQuota, hu]
    simp only [map_some, getD_some, if_true, User.addQuota]
    omega
  · omega

theorem cancelAndDowngrade_wallet {r : String × Store} (h : cancelAndDowngrade e now sub st = .ok r) (uid : Int) :
    r.2.wallet uid = st.wallet uid := by
  unfold cancelAndDowngrade at h
  split at h
  · cases h
  · rename_i r' hr'
    cases h
    have hsave : (st.saveSubscription (sub.cancel now)).wallet uid = st.wallet uid := rfl
    obtain ⟨-, hr⟩ | ⟨-, hr⟩ | ⟨-, hr⟩ := downgrade_cases hr' <;> rw [hr]
    · exact hsave
    · exact hsave
    · obtain h' | ⟨group, h'⟩ := restoreGroup_cases (st.saveSubscription (sub.cancel now)) (sub.cancel now).userId
        (sub.cancel now) <;> rw [h']
      · exact hsave
      · exact (Store.setGroup_wallet _ _ _ uid).trans hsave

end Refund

/-! ## Audited histories -/

/-- The shop, and for the subscriptions that were bought with balance what the wallet was charged. -/
structure ShopAudit where
  shop : Shop
  paid : Int → Option Int

def Shop.debit (shop : Shop) (op : ShopOp) (userId : Int) : Int :=
  shop.store.wallet userId - (shopStep shop op).store.wallet userId

def Shop.credit (shop : Shop) (op : ShopOp) (userId : Int) : Int :=
  (shopStep shop op).store.wallet userId - shop.store.wallet userId

/-- What the wallet was charged for the subscription that a call creates; `none` if another payment was made. -/
def Shop.payment (shop : Shop) : ShopOp → Option Int
  | .buy e userId planId tradeNo => some (shop.debit (.buy e userId planId tradeNo) userId)
  | _ => none

def ShopAudit.step (a : ShopAudit) (op : ShopOp) : ShopAudit where
  shop := shopStep a.shop op
  paid id := if id ∈ (a.shop.created op).map (·.id) then a.shop.payment op else a.paid id

/-- Purchases and cancellations convert prices with the settings `s`. -/
def ShopOp.UsesSetting (s : GeneralSetting) : ShopOp → Prop
  | .buy e _ _ _ => e.displayAmountToQuota = displayAmountToQuota s
  | .cancel e _ _ => e.displayAmountToQuota = displayAmountToQuota s
  | _ => True

def UserSubscription.boughtActive (planId : Int) (sub : UserSubscription) : Bool :=
  sub.planId = planId && sub.source = "balance" && sub.status = .active

/-- A change of a plan does not raise its price while a subscription that was bought with balance is active. -/
def KeepsPrices (shop : Shop) : ShopOp → Prop
  | .updatePlan _ id req => shop.store.userSubscriptions.any (·.boughtActive id) = true →
      ∀ plan ∈ shop.plan id, req.plan.priceAmount ≤ plan.priceAmount
  | _ => True

/-- A cancellation of a subscription that was bought with balance pays at most what was charged. -/
def RefundBounded (a : ShopAudit) : ShopOp → Prop
  | .cancel e userId id => ∀ charged ∈ a.paid id, a.shop.credit (.cancel e userId id) userId ≤ charged
  | _ => True

section Audits

variable {s : GeneralSetting} {shop : Shop} {op : ShopOp} {a : ShopAudit} {e : Env} {sub : UserSubscription}

/-- **A purchase with balance** fails, or charges the quota of the plan's price. -/
theorem buy_cases (hs : e.displayAmountToQuota = displayAmountToQuota s) (shop : Shop) (userId planId : Int)
    (tradeNo : String) :
    shopStep shop (.buy e userId planId tradeNo) = shop ∨
      ∃ plan sub, shop.plan plan.id = some plan ∧ (shopStep shop (.buy e userId planId tradeNo)).plans = shop.plans ∧
        Created userId plan.toSubscriptionPlan "balance" shop.store (shopStep shop (.buy e userId planId tradeNo)).store sub ∧
        shop.debit (.buy e userId planId tradeNo) userId = displayAmountToQuota s plan.priceAmount := by
  unfold Shop.debit
  rw [shopStep, purchaseSubscriptionWithBalance]
  split
  · exact .inl rfl
  · obtain ⟨r, shop', -, hbody, htx⟩ | ⟨err, htx⟩ := transaction_cases (e.fails .createUserSubscription)
      (balancePurchaseTx e userId planId tradeNo) shop
    · rw [htx]
      obtain ⟨plan, requiredQuota, sub, hplan, hquota, huser, hplans, hcreated, hwallet⟩ := balancePurchaseTx_cases hbody
      rw [calcSubscriptionBalanceQuota_eq hs] at hquota
      cases hquota
      refine .inr ⟨plan, sub, hplan, hplans, hcreated, ?_⟩
      rw [hwallet, Store.chargeQuota_wallet huser (displayAmountToQuota_nonneg s _)]
      omega
    · rw [htx]
      exact .inl rfl

theorem shopStep_plans (hop : ∀ b id req, op ≠ .updatePlan b id req) : (shopStep shop op).plans = shop.plans := by
  cases op with
  | buy e userId planId tradeNo =>
    rw [shopStep, purchaseSubscriptionWithBalance]
    split
    · rfl
    · refine transaction_inv (I := fun shop' : Shop => shop'.plans = shop.plans) (fun r shop' hbody => ?_) rfl
      obtain ⟨plan, requiredQuota, sub, -, -, -, hplans, -⟩ := balancePurchaseTx_cases hbody
      exact hplans
  | order e userId planId =>
    rw [shopStep, purchaseByOrder]
    split <;> rfl
  | bind e userId planId =>
    rw [shopStep, adminBindSubscription]
    split
    · rfl
    split
    · rfl
    · split <;> rfl
  | updatePlan b id req => exact absurd rfl (hop b id req)
  | _ => rfl

/-- The price of the plan of a subscription that was bought with balance and is active is not raised. -/
theorem price_step (hprice : KeepsPrices shop op) (hsub : sub ∈ shop.store.userSubscriptions)
    (hsource : sub.source = "balance") (hactive : sub.status = .active) {plan' : PlanRow}
    (hplan' : (shopStep shop op).plan sub.planId = some plan') :
    ∃ plan, shop.plan sub.planId = some plan ∧ plan'.priceAmount ≤ plan.priceAmount := by
  by_cases hop : ∃ b id req, op = .updatePlan b id req
  · obtain ⟨b, id, req, rfl⟩ := hop
    rw [shopStep] at hplan'
    obtain h | ⟨plan, rfl, hreq, h⟩ := updatePlan_cases b id req shop <;> rw [h] at hplan'
    · exact ⟨plan', hplan', le_refl _⟩
    · by_cases hid : sub.planId = plan.id
      · have hrow : (shop.updatePlan plan).plan plan.id = (shop.plan plan.id).map plan.update :=
          Table.lookup_updateKey fun _ _ => rfl
        rw [hid, hrow, map_eq_some_iff] at hplan'
        obtain ⟨old, hold, rfl⟩ := hplan'
        have hbought : shop.store.userSubscriptions.any (·.boughtActive plan.id) :=
          List.any_eq_true.2 ⟨sub, hsub, by simp [UserSubscription.boughtActive, hid, hsource, hactive]⟩
        rw [hid]
        exact ⟨old, hold, hreq.trans_le (hprice hbought old hold)⟩
      · exact ⟨plan', (Table.lookup_updateKey_ne (f := plan.update) (fun _ _ => rfl) hid).symm.trans hplan', le_refl _⟩
  · have hplans : (shopStep shop op).plans = shop.plans := shopStep_plans fun b id req heq => hop ⟨b, id, req, heq⟩
    refine ⟨plan', ?_, le_refl _⟩
    rw [Shop.plan, ← hplans]
    exact hplan'

/-- What the audit knows: the charges of the rows, and that an active row costs no more now than it was charged. -/
structure AuditOk (s : GeneralSetting) (a : ShopAudit) : Prop where
  ids : a.shop.store.DistinctIds
  nonneg : ∀ id charged, a.paid id = some charged → 0 ≤ charged
  source : ∀ sub ∈ a.shop.store.userSubscriptions, ∀ charged, a.paid sub.id = some charged → sub.source = "balance"
  price : ∀ sub ∈ a.shop.store.userSubscriptions, ∀ charged, a.paid sub.id = some charged → sub.status = .active →
    ∀ plan, a.shop.plan sub.planId = some plan → displayAmountToQuota s plan.priceAmount ≤ charged

/-- A call that creates nothing: its rows come from rows that were there. -/
theorem AuditOk.step_of_old (h : AuditOk s a) (hprice : KeepsPrices a.shop op) (hcreated : a.shop.created op = [])
    (hrows : ∀ new ∈ (shopStep a.shop op).store.userSubscriptions, ∃ old ∈ a.shop.store.userSubscriptions,
      old.Follows new) : AuditOk s (a.step op) := by
  have hpaid : (a.step op).paid = a.paid := by
    simp [ShopAudit.step, hcreated]
  refine ⟨distinctIds_step h.ids, hpaid ▸ h.nonneg, ?_, ?_⟩ <;> rw [hpaid]
  · intro new hnew charged hcharged
    obtain ⟨old, hold, hf⟩ := hrows new hnew
    rw [hf.id] at hcharged
    rw [hf.source]
    exact h.source old hold charged hcharged
  · intro new hnew charged hcharged hactive plan' hplan'
    obtain ⟨old, hold, hf⟩ := hrows new hnew
    rw [hf.id] at hcharged
    rw [hf.planId] at hplan'
    have hold' := hf.active hactive
    obtain ⟨plan, hplan, hle⟩ := price_step hprice hold (h.source old hold charged hcharged) hold' hplan'
    exact (displayAmountToQuota_mono s hle).trans (h.price old hold charged hcharged hold' plan hplan)

theorem AuditOk.step_of_created (h : AuditOk s a)
    (hrows : (shopStep a.shop op).store.userSubscriptions = a.shop.store.userSubscriptions ++ [sub])
    (hid : sub.id = a.shop.store.freshSubscriptionId) (hplans : (shopStep a.shop op).plans = a.shop.plans)
    (hnew : ∀ charged, a.shop.payment op = some charged → 0 ≤ charged ∧ sub.source = "balance" ∧
      ∀ plan, a.shop.plan sub.planId = some plan → displayAmountToQuota s plan.priceAmount ≤ charged) :
    AuditOk s (a.step op) := by
  have hpaid : ∀ id, (a.step op).paid id = if id = sub.id then a.shop.payment op else a.paid id := by
    simp [ShopAudit.step, created_of_append hrows]
  have hplan : ∀ id, (a.step op).shop.plan id = a.shop.plan id := fun id => by
    rw [Shop.plan, Shop.plan, ← hplans]
    rfl
  -- the new id is no old one
  have hold : ∀ old ∈ a.shop.store.userSubscriptions, old.id ≠ sub.id := by
    intro old hmem heq
    have hin := List.mem_map_of_mem (f := (·.id)) hmem
    rw [heq, hid] at hin
    exact Table.nextId_not_mem _ hin
  have hcases : ∀ row ∈ (a.step op).shop.store.userSubscriptions, row ∈ a.shop.store.userSubscriptions ∨ row = sub := by
    intro row hrow
    have hrow : row ∈ (shopStep a.shop op).store.userSubscriptions := hrow
    rw [hrows] at hrow
    simpa using hrow
  refine ⟨distinctIds_step h.ids, ?_, ?_, ?_⟩
  · intro id charged hcharged
    rw [hpaid] at hcharged
    split at hcharged
    · exact (hnew charged hcharged).1
    · exact h.nonneg id charged hcharged
  · intro row hrow charged hcharged
    rw [hpaid] at hcharged
    rcases hcases row hrow with hmem | rfl
    · rw [if_neg (hold row hmem)] at hcharged
      exact h.source row hmem charged hcharged
    · rw [if_pos rfl] at hcharged
      exact (hnew charged hcharged).2.1
  · intro row hrow charged hcharged hactive plan hp
    rw [hpaid] at hcharged
    rw [hplan] at hp
    rcases hcases row hrow with hmem | rfl
    · rw [if_neg (hold row hmem)] at hcharged
      exact h.price row hmem charged hcharged hactive plan hp
    · rw [if_pos rfl] at hcharged
      exact (hnew charged hcharged).2.2 plan hp

/-- **One call keeps the audit.** -/
theorem auditOk_step (hset : op.UsesSetting s) (hprice : KeepsPrices a.shop op) (h : AuditOk s a) :
    AuditOk s (a.step op) := by
  cases shopStep_rows h.ids op with
  | keeps hrows => exact h.step_of_old hprice (created_of_keeps hrows) fun new hnew => hrows.exists_of_mem hnew
  | deletes id _ hrows =>
    refine h.step_of_old hprice (created_of_filter hrows) fun new hnew => ?_
    rw [hrows] at hnew
    exact ⟨new, List.mem_of_mem_filter hnew, .refl new⟩
  | creates sub plan source found hc =>
    have hplans : (shopStep a.shop op).plans = a.shop.plans := by
      refine shopStep_plans fun b id req heq => ?_
      subst heq
      have hkeeps : a.shop.store.Keeps (shopStep a.shop (.updatePlan b id req)).store := updatePlan_rows
      have hlen := List.Forall₂.length_eq hkeeps
      simp [hc.rows] at hlen
    refine h.step_of_created hc.rows hc.id hplans fun charged hcharged => ?_
    cases op with
    | buy e userId planId tradeNo =>
      obtain hsame | ⟨plan', sub', hplan', -, hc', hdebit⟩ := buy_cases hset a.shop userId planId tradeNo
      · have hrows := hc.rows
        rw [hsame] at hrows
        simp at hrows
      · have heq : sub' = sub := by simpa using hc'.rows.symm.trans hc.rows
        subst heq
        cases hcharged
        rw [hdebit]
        refine ⟨displayAmountToQuota_nonneg s _, hc'.source, fun plan'' hplan'' => ?_⟩
        rw [hc'.planId, hplan'] at hplan''
        cases hplan''
        exact le_refl _
    | _ => cases hcharged

theorem Shop.plan_of_env {id : Int} {plan : SubscriptionPlan}
    (h : getSubscriptionPlanById (shop.env e) id = .ok plan) :
    ∃ row, shop.plan id = some row ∧ row.toSubscriptionPlan = plan := by
  unfold getSubscriptionPlanById at h
  split at h
  · cases h
  · split at h
    · rename_i plan' hplan
      cases h
      exact map_eq_some_iff.1 hplan
    · cases h

/-- **A cancellation pays at most what was charged.** -/
theorem AuditOk.refundBounded (hset : op.UsesSetting s) (h : AuditOk s a) : RefundBounded a op := by
  cases op with
  | cancel e userId id =>
    intro charged hcharged
    have hpos := h.nonneg id charged hcharged
    have hnothing : a.shop.store.wallet userId - a.shop.store.wallet userId ≤ charged := by omega
    unfold Shop.credit
    rw [shopStep, cancelUserSubscriptionWithRefund]
    split
    · exact hnothing
    · obtain ⟨result, st', -, hbody, htx⟩ | ⟨err, htx⟩ := transaction_cases
        ((a.shop.env e).fails .cancelUserSubscription) (cancelTx (a.shop.env e) userId id) a.shop.store
      · rw [htx]
        obtain ⟨sub, plan, refund, group, hsub, ⟨rfl, rfl⟩, hactive, hplan, hrefund, hcancel⟩ := cancelTx_cases hbody
        obtain ⟨row, hrow, rfl⟩ := Shop.plan_of_env hplan
        have hwallet := cancelAndDowngrade_wallet hcancel sub.userId
        have hpaid := a.shop.store.payRefund_wallet_le sub.userId refund.refundQuota
        have hquota := cancelRefund_le hset hrefund
        have hprice := h.price sub hsub charged hcharged hactive row hrow
        dsimp only at hwallet ⊢
        omega
      · rw [htx]
        exact hnothing
  | _ => trivial

/-- **A cancellation never pays out more than was paid**, in every history that raises no price of a plan with an active
subscription bought with balance: at every step, the cancellation of a subscription that was bought with balance credits
the wallet with at most what the purchase has taken from it. -/
theorem refund_le_debit (s : GeneralSetting) (shop : Shop) (ops : List ShopOp)
    (hids : (shop.store.userSubscriptions.map (·.id)).Nodup) (hset : ∀ op ∈ ops, op.UsesSetting s)
    (hprice : Along ShopAudit.step (fun a op => KeepsPrices a.shop op) ⟨shop, fun _ => none⟩ ops) :
    Along ShopAudit.step RefundBounded ⟨shop, fun _ => none⟩ ops := by
  refine along_of_inv (fun a op hop h => auditOk_step hop.2 hop.1 h)
    (fun a op hop h => h.refundBounded hop.2) (along_and hprice (along_of_forall hset)) ?_
  exact ⟨hids, fun _ _ => nofun, fun _ _ _ => nofun, fun _ _ _ => nofun⟩

end Audits

namespace Sample

/-- One quota unit for one cent of a dollar. -/
def setting : GeneralSetting := ⟨.usd, 1, 1, 100⟩

/-- A call at `now` with these settings. -/
def priced (now : Int) : Env := { env now with displayAmountToQuota := displayAmountToQuota setting }

def priceRow (price : ℚ) : PlanRow :=
  { plan with priceAmount := price, customSeconds := 1000, enabled := true, allowBalancePay := none }

/-- Nobody has a subscription; the plan costs half a dollar. -/
def priceShop : Shop := ⟨{ store with userSubscriptions := [] }, [priceRow (1 / 2)], []⟩

def setPrice (price : ℚ) : ShopOp := .updatePlan ⟨priced 1000, true, [], none, none⟩ 1 ⟨priceRow price, none⟩

/-- User 1 buys, the price changes, and the user cancels at once. -/
def buyAndCancel (price : ℚ) : List ShopOp :=
  [.buy (priced 1000) 1 1 "SUBBALUSR1", setPrice price, .cancel (priced 1000) 1 1]

end Sample

open Sample

/-- After a lower price the user gets less back than was paid. -/
theorem refund_le_debit_sample :
    (run shopStep priceShop (buyAndCancel (1 / 4))).store.wallet 1 = 75 ∧
      Along ShopAudit.step RefundBounded ⟨priceShop, fun _ => none⟩ (buyAndCancel (1 / 4)) := by
  refine ⟨by decide +kernel, refund_le_debit setting _ _ (by decide) ?_ ?_⟩
  · simp [buyAndCancel, ShopOp.UsesSetting, priced, setPrice]
  · refine ⟨trivial, fun _ => ?_, trivial, trivial⟩
    decide +kernel

/-- **After a raised price the cancellation pays more than the purchase took**: 50 are charged, 100 are paid back. -/
theorem refund_above_debit :
    priceShop.debit (.buy (priced 1000) 1 1 "SUBBALUSR1") 1 = 50 ∧
      (run shopStep priceShop ((buyAndCancel 1).take 2)).credit (.cancel (priced 1000) 1 1) 1 = 100 ∧
      ¬ Along ShopAudit.step RefundBounded ⟨priceShop, fun _ => none⟩ (buyAndCancel 1) := by
  refine ⟨by decide +kernel, by decide +kernel, fun h => ?_⟩
  have hbound := h.2.2.1 50 (by decide +kernel)
  exact absurd hbound (by decide +kernel)

end SynthApi
