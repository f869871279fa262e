import SynthApi.Model.Task
import SynthApi.Model.Subscription.Consume

/-!
# Charges of asynchronous tasks

A task is charged in advance with its column `quota`. `service/task_billing.go` later gives the charge back, or corrects
it to what the finished task has cost. Both go through `taskAdjustFunding`, which moves the wallet or the subscription
that has paid, and `taskAdjustTokenQuota`. A call of `taskAdjustFunding` moves its source or fails without a trace
(`taskAdjustFunding_cases`).

`settleTaskBillingOnComplete` is the quota that a finished task is settled to.
-/

namespace SynthApi

open Lib Lib.Go

/-! ## Moving quota -/

def taskIsSubscription (t : Task) : Bool :=
  t.privateData.billingSource = "subscription" && decide (0 < t.privateData.subscriptionId)

/-- Charge `delta` to the source that pays for the task; a negative `delta` is given back. -/
def taskAdjustFunding (e : Env) (t : Task) (delta : Int) (st : Store) : Except (Halt String) Unit × Store :=
  if taskIsSubscription t then
    let r := postConsumeUserSubscriptionDelta e t.privateData.subscriptionId delta st
    (r.1.map fun _ => (), r.2)
  else
    let r := if 0 < delta then decreaseUserQuota e st t.userId delta else increaseUserQuota e st t.userId (-delta)
    (r.1.mapError .error, r.2)

/-- The update of `taskAdjustTokenQuota`; its error is only logged. -/
def taskAdjustTokenQuota (e : Env) (t : Task) (delta : Int) (st : Store) : Store :=
  if 0 < delta then (decreaseTokenQuota e st t.privateData.tokenId delta).2
  else (increaseTokenQuota e st t.privateData.tokenId (-delta)).2

/-- `resolveTokenKey`: empty if the read fails or there is no such token. -/
def resolveTokenKey (fault : Option String) (t : Task) (st : Store) : String :=
  match fault with
  | some _ => ""
  | none => ((Table.lookup Token.id t.privateData.tokenId st.tokens).map (·.key)).getD ""

/-- From `st` to `st'` the source that pays for the task is charged `delta`. -/
inductive FundingMoved (e : Env) (t : Task) (delta : Int) (st : Store) : Store → Prop
  | wallet (h : taskIsSubscription t = false) : FundingMoved e t delta st (st.addWallet t.userId (-delta))
  /-- The delta counts at the discount of the subscription, and its used amount does not fall below 0. -/
  | subscription (h : taskIsSubscription t = true) (sub : UserSubscription)
      (hsub : st.subscription t.privateData.subscriptionId = some sub) :
      FundingMoved e t delta st
        (st.saveSubscription { sub with amountUsed := sub.usedAfter (sub.appliedDelta e true delta) })

section Funding

variable {e : Env} {t : Task} {delta : Int} {st st' : Store}

theorem postConsume_cases (e : Env) (st : Store) (hd : delta ≠ 0) {id : Int} (hid : 0 < id) :
    (∃ sub applied, st.subscription id = some sub ∧
        postConsumeUserSubscriptionDelta e id delta st =
          (.ok applied, st.saveSubscription { sub with amountUsed := sub.usedAfter (sub.appliedDelta e true delta) })) ∨
      ∃ err, postConsumeUserSubscriptionDelta e id delta st = (.error err, st) := by
  unfold postConsumeUserSubscriptionDelta
  rw [if_neg (by omega), if_neg hd]
  rcases transaction_cases (e.fails .postConsumeUserSubscriptionDelta) (postConsumeRun e true id delta) st with
    ⟨applied, st', -, hbody, htx⟩ | ⟨err, htx⟩
  · obtain ⟨sub, hsub, happlied, -, rfl⟩ := postConsumeRun_spec hbody
    subst happlied
    exact .inl ⟨sub, _, hsub, htx⟩
  · exact .inr ⟨err, htx⟩

/-- **A call moves the source by its delta, or fails and changes nothing.** -/
theorem taskAdjustFunding_cases (e : Env) (t : Task) (st : Store) (hd : delta ≠ 0) :
    (∃ st', taskAdjustFunding e t delta st = (.ok (), st') ∧ FundingMoved e t delta st st') ∨
      ∃ err, taskAdjustFunding e t delta st = (.error err, st) := by
  unfold taskAdjustFunding
  cases hsub : taskIsSubscription t with
  | true =>
    have hid : 0 < t.privateData.subscriptionId := by
      simp only [taskIsSubscription, Bool.and_eq_true, decide_eq_true_eq] at hsub
      exact hsub.2
    obtain ⟨sub, applied, hrow, h⟩ | ⟨err, h⟩ := postConsume_cases e st hd hid
    · exact .inl ⟨_, by simp [h, Except.map], .subscription hsub sub hrow⟩
    · exact .inr ⟨err, by simp [h, Except.map]⟩
  | false =>
    by_cases hpos : 0 < delta
    · obtain ⟨-, h⟩ | ⟨err, h⟩ := changeUserQuota_cases e .decreaseUserQuota (-delta) st t.userId delta
      · exact .inl ⟨_, by simp [hpos, decreaseUserQuota, h, Except.mapError], .wallet hsub⟩
      · exact .inr ⟨.error err, by simp [hpos, decreaseUserQuota, h, Except.mapError]⟩
    · obtain ⟨-, h⟩ | ⟨err, h⟩ := changeUserQuota_cases e .increaseUserQuota (-delta) st t.userId (-delta)
      · exact .inl ⟨_, by simp [hpos, increaseUserQuota, h, Except.mapError], .wallet hsub⟩
      · exact .inr ⟨.error err, by simp [hpos, increaseUserQuota, h, Except.mapError]⟩

theorem taskAdjustFunding_wallet (he : e.WritesSucceed) (h : taskIsSubscription t = false) :
    taskAdjustFunding e t delta st = (.ok (), st.addWallet t.userId (-delta)) := by
  unfold taskAdjustFunding
  by_cases hpos : 0 < delta
  · simp [h, hpos, decreaseUserQuota_ok he hpos.le, Except.mapError]
  · simp [h, hpos, increaseUserQuota_ok he (show 0 ≤ -delta by omega), Except.mapError]

theorem taskAdjustTokenQuota_cases (e : Env) (t : Task) (delta : Int) (st : Store) :
    taskAdjustTokenQuota e t delta st = st.addToken t.privateData.tokenId (-delta) ∨
      taskAdjustTokenQuota e t delta st = st := by
  unfold taskAdjustTokenQuota
  split
  · rcases changeTokenQuota_cases e .decreaseTokenQuota (-delta) st t.privateData.tokenId delta with ⟨-, h⟩ | ⟨err, h⟩
    · exact .inl (congrArg Prod.snd h)
    · exact .inr (congrArg Prod.snd h)
  · rcases changeTokenQuota_cases e .increaseTokenQuota (-delta) st t.privateData.tokenId (-delta) with ⟨-, h⟩ | ⟨err, h⟩
    · exact .inl (congrArg Prod.snd h)
    · exact .inr (congrArg Prod.snd h)

end Funding

/-! ## The quota of a finished task -/

/-- What `ratio_setting` answers. -/
structure TaskRatioSetting where
  /-- `GetModelRatio`; `none` for a model without a ratio. -/
  modelRatio : String → Option ℚ
  groupRatio : String → ℚ
  groupGroupRatio : String → String → Option ℚ

def taskModelName (t : Task) : String :=
  match t.privateData.billingContext with
  | some bc => if bc.originModelName ≠ "" then bc.originModelName else t.originModelName
  | none => t.originModelName

def otherMultiplier (t : Task) : ℚ :=
  match t.privateData.billingContext with
  | some bc => ((bc.otherRatios.map (·.2)).filter fun r => r ≠ 1 && decide (0 < r)).prod
  | none => 1

def recalculateTaskQuotaByTokens (s : TaskRatioSetting) (userGroup : Option String) (t : Task) (totalTokens : Int) :
    Option Int :=
  if totalTokens ≤ 0 then none
  else
    match s.modelRatio (taskModelName t) with
    | none => none
    | some modelRatio =>
      let group := if t.group = "" then userGroup.getD "" else t.group
      if modelRatio ≤ 0 ∨ group = "" then none
      else
        let finalGroupRatio := (s.groupGroupRatio group group).getD (s.groupRatio group)
        some (intPart (totalTokens * modelRatio * finalGroupRatio * otherMultiplier t))

/-- The quota that `settleTaskBillingOnComplete` hands to `RecalculateTaskQuota`; `adjusted` is the answer of the
platform's `AdjustBillingOnComplete`. -/
def settleTaskBillingOnComplete (s : TaskRatioSetting) (adjusted : Int) (userGroup : Option String) (t : Task)
    (totalTokens : Int) : Option Int :=
  if (t.privateData.billingContext.map (·.perCallBilling)).getD false then none
  else if 0 < adjusted then some adjusted
  else if 0 < totalTokens then recalculateTaskQuotaByTokens s userGroup t totalTokens
  else none

end SynthApi
