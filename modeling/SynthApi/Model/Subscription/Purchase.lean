import SynthApi.Model.Quota
import SynthApi.Model.Subscription.Basic

/-!
# Buying a subscription

`CreateUserSubscriptionFromPlanTx`: the row that a purchase inserts, and the move of the user into the group of the
plan. Its parts (`preparePurchase`, `Purchase.upgrades`, `Purchase.row`) lie between its statements, so that the whole
function and the transactions that are cut at their statements are made of the same parts.
-/

namespace SynthApi

open Lib Lib.Go

def calcPlanEndTime (loc : Location) (start : Int) (plan : SubscriptionPlan) : Except String Int :=
  if plan.durationValue ≤ 0 ∧ plan.durationUnit ≠ "custom" then .error "duration_value must be > 0"
  else
    match plan.durationUnit with
    | "year" => .ok (loc.addDate start plan.durationValue 0 0)
    | "month" => .ok (loc.addDate start 0 plan.durationValue 0)
    | "day" => .ok (addSeconds start (plan.durationValue * 86400))
    | "hour" => .ok (addSeconds start (plan.durationValue * 3600))
    | "custom" =>
      if plan.customSeconds ≤ 0 then .error "custom_seconds must be > 0"
      else .ok (addSeconds start plan.customSeconds)
    | unit => .error ("invalid duration_unit: " ++ unit)

namespace Store

def setGroup (st : Store) (userId : Int) (group : String) : Store :=
  { st with users := Table.updateKey User.id userId (fun u => { u with group := group }) st.users }

@[simp] theorem setGroup_wallet (st : Store) (userId : Int) (group : String) (uid : Int) :
    (st.setGroup userId group).wallet uid = st.wallet uid := by
  have h : (Table.lookup User.id uid (st.setGroup userId group).users).map (·.quota) =
      (Table.lookup User.id uid st.users).map (·.quota) :=
    Table.map_lookup_updateKey (fun _ => rfl) fun _ => rfl
  unfold wallet
  rw [h]
  rfl

def insertSubscription (st : Store) (sub : UserSubscription) : Store :=
  { st with userSubscriptions := st.userSubscriptions ++ [sub] }

/-- The id that the database gives to the next row. -/
def freshSubscriptionId (st : Store) : Int := (st.userSubscriptions.map (·.id)).foldl max 0 + 1

def countPurchases (st : Store) (userId planId : Int) : Nat :=
  st.userSubscriptions.countP fun sub => sub.userId = userId && sub.planId = planId

end Store

structure Purchase where
  userId : Int
  plan : SubscriptionPlan
  source : String
  now : Int
  endTime : Int

/-- The checks, with `count` earlier purchases, and the clock. -/
def preparePurchase (e : Env) (userId : Int) (plan : SubscriptionPlan) (source : String) (count : Int) :
    Except String Purchase :=
  if plan.id = 0 then .error "invalid plan"
  else if userId ≤ 0 then .error "invalid user id"
  else if 0 < plan.maxPurchasePerUser ∧ plan.maxPurchasePerUser ≤ count then .error "已达到该套餐购买上限"
  else
    match calcPlanEndTime e.location e.dbNow plan with
    | .error err => .error err
    | .ok endTime => .ok ⟨userId, plan, source, e.dbNow, endTime⟩

variable {plan : SubscriptionPlan} {source : String} {userId : Int} {e : Env} {count : Int} {p : Purchase} {st : Store}

theorem preparePurchase_ok
    (h : preparePurchase e userId plan source count = .ok p) :
    p.userId = userId ∧ p.source = source ∧ p.plan = plan := by
  unfold preparePurchase at h
  split_ifs at h
  split at h
  · cases h
  · cases h
    exact ⟨rfl, rfl, rfl⟩

namespace Purchase

def upgradeGroup (p : Purchase) : String := trimSpace p.plan.upgradeGroup

/-- The purchase moves the user out of `currentGroup`. -/
def upgrades (p : Purchase) (currentGroup : String) : Bool :=
  isSubscriptionUserUpgradeGroup p.upgradeGroup && currentGroup ≠ p.upgradeGroup

def row (e : Env) (id : Int) (prevGroup : String) (p : Purchase) : UserSubscription where
  id := id
  userId := p.userId
  planId := p.plan.id
  amountTotal := p.plan.totalAmount
  amountUsed := 0
  billingDiscount := resolveSubscriptionBillingDiscount e p.plan.billingDiscountGroup p.plan.billingDiscount
  billingDiscountGroup := trimSpace p.plan.billingDiscountGroup
  startTime := p.now
  endTime := p.endTime
  status := .active
  source := p.source
  lastResetTime := if 0 < calcNextResetTime e.location p.now p.plan p.endTime then p.now else 0
  nextResetTime := calcNextResetTime e.location p.now p.plan p.endTime
  upgradeGroup := p.upgradeGroup
  prevUserGroup := prevGroup

end Purchase

def createUserSubscriptionFromPlanTx (e : Env) (userId : Int) (plan : SubscriptionPlan) (source : String) (st : Store) :
    Except String (UserSubscription × Store) :=
  match preparePurchase e userId plan source (st.countPurchases userId plan.id) with
  | .error err => .error err
  | .ok p =>
    let currentGroup := getUserGroupById st userId
    if p.upgrades currentGroup then
      let sub := p.row e st.freshSubscriptionId currentGroup
      .ok (sub, (st.setGroup userId p.upgradeGroup).insertSubscription sub)
    else
      let sub := p.row e st.freshSubscriptionId ""
      .ok (sub, st.insertSubscription sub)

/-- What a successful purchase has done: the new row is the last of the table, and the limit allowed it. -/
structure Created (userId : Int) (plan : SubscriptionPlan) (source : String) (st st' : Store) (sub : UserSubscription) :
    Prop where
  rows : st'.userSubscriptions = st.userSubscriptions ++ [sub]
  id : sub.id = st.freshSubscriptionId
  limit : 0 < plan.maxPurchasePerUser → st.countPurchases userId plan.id < plan.maxPurchasePerUser
  userId : sub.userId = userId
  planId : sub.planId = plan.id
  source : sub.source = source

theorem preparePurchase_limit (h : preparePurchase e userId plan source count = .ok p) (hpos : 0 < plan.maxPurchasePerUser) :
    count < plan.maxPurchasePerUser := by
  unfold preparePurchase at h
  split_ifs at h with h₁ h₂ h₃
  exact not_le.1 fun hle => h₃ ⟨hpos, hle⟩

/-- Only the table of subscriptions matters for the new row. -/
theorem Created.of_rows {st₁ st' : Store} {sub : UserSubscription} (h : Created userId plan source st₁ st' sub)
    (hrows : st₁.userSubscriptions = st.userSubscriptions) : Created userId plan source st st' sub := by
  refine ⟨hrows ▸ h.rows, ?_, ?_, h.userId, h.planId, h.source⟩
  · rw [h.id, Store.freshSubscriptionId, Store.freshSubscriptionId, hrows]
  · have hcount : st₁.countPurchases userId plan.id = st.countPurchases userId plan.id := by
      rw [Store.countPurchases, Store.countPurchases, hrows]
    rw [← hcount]
    exact h.limit

/-- **A purchase** appends its row, and takes nothing from a wallet. -/
theorem create_created
    {r : UserSubscription × Store} (h : createUserSubscriptionFromPlanTx e userId plan source st = .ok r) :
    Created userId plan source st r.2 r.1 ∧ ∀ uid, r.2.wallet uid = st.wallet uid := by
  unfold createUserSubscriptionFromPlanTx at h
  split at h
  · cases h
  · rename_i p hp
    obtain ⟨huser, hsource, hplan⟩ := preparePurchase_ok hp
    have hlimit := preparePurchase_limit hp
    dsimp only at h
    split at h
    · cases h
      exact ⟨⟨rfl, rfl, hlimit, huser, congrArg (·.id) hplan, hsource⟩, fun uid => Store.setGroup_wallet st _ _ uid⟩
    · cases h
      exact ⟨⟨rfl, rfl, hlimit, huser, congrArg (·.id) hplan, hsource⟩, fun _ => rfl⟩

end SynthApi
