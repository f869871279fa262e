import SynthApi.Model.Subscription.Order
import SynthApi.Model.Subscription.Rows

/-!
# Plans on sale

The table of plans and what is done with it: `PurchaseSubscriptionWithBalance`, `AdminBindSubscription` and the purchase
by an order buy from it, `AdminUpdateSubscriptionPlan` changes it, `DeleteUserFinishedSubscriptionRecord` and
`AdminDeleteUserSubscription` remove records of purchases.

`shopStep` is one such call, one ending or one charge of a subscription. For the table of subscriptions it is one of
three things (`shopStep_rows`): the rows live on, one row is bought, or one row is deleted.
-/

namespace SynthApi

open Lib Lib.Go

/-! ## Tables -/

structure PlanRow extends SubscriptionPlan where
  enabled : Bool
  /-- NULL counts as true. -/
  allowBalancePay : Option Bool
  deriving DecidableEq, Repr

structure Shop where
  store : Store
  plans : List PlanRow
  orders : List SubscriptionOrder

namespace Shop

def plan (shop : Shop) (id : Int) : Option PlanRow := Table.lookup (fun row : PlanRow => row.id) id shop.plans

/-- A call on the shop finds the plans of the table: a changed plan is dropped from the cache. -/
def env (shop : Shop) (e : Env) : Env where
  __ := e
  plans id := (shop.plan id).map (·.toSubscriptionPlan)
  plans_id h := by
    obtain ⟨row, hrow, rfl⟩ := Option.map_eq_some_iff.1 h
    have hid := Table.key_of_lookup hrow
    exact hid

/-- `getSubscriptionPlanByIdTx` -/
def findPlan (shop : Shop) (id : Int) : Except String PlanRow :=
  if id ≤ 0 then .error "invalid plan id"
  else
    match shop.plan id with
    | some row => .ok row
    | none => .error "record not found"

def onStore {α : Type} (shop : Shop) (r : α × Store) : α × Shop := (r.1, { shop with store := r.2 })

end Shop

/-! ## Purchases -/

def Store.chargeQuota (st : Store) (userId requiredQuota : Int) : Store :=
  if 0 < requiredQuota then { st with users := Table.updateKey User.id userId (User.addQuota (-requiredQuota)) st.users }
  else st

def balanceOrder (e : Env) (userId : Int) (plan : PlanRow) (tradeNo : String) (requiredQuota id : Int) :
    SubscriptionOrder where
  id := id
  userId := userId
  planId := plan.id
  money := plan.priceAmount
  tradeNo := tradeNo
  paymentMethod := "balance"
  paymentProvider := "balance"
  paymentProfile := ""
  status := .success
  createTime := e.now
  completeTime := e.now
  providerPayload := "charged_quota=" ++ toString requiredQuota

/-- The id that the database gives to the next order. -/
def Shop.freshOrderId (shop : Shop) : Int := (shop.orders.map (·.id)).foldl max 0 + 1

def checkBalancePay (plan : PlanRow) : Except String Unit :=
  if ¬ plan.enabled then .error "套餐未启用"
  else if plan.priceAmount < 0 then .error "套餐价格不能为负数"
  else if plan.allowBalancePay = some false then .error "该套餐不允许使用余额兑换"
  else .ok ()

variable (e : Env) (userId : Int) (planId : Int)

/-- Take the price from the wallet, create the subscription and record the order; `tradeNo` is drawn at random. -/
def balancePurchaseTx (tradeNo : String) (shop : Shop) :
    Except (Halt String) (Unit × Shop) :=
  match shop.findPlan planId with
  | .error err => .error (.error err)
  | .ok plan =>
    match checkBalancePay plan with
    | .error err => .error (.error err)
    | .ok () =>
      match calcSubscriptionBalanceQuota e plan.priceAmount with
      | .error err => .error (.error err)
      | .ok requiredQuota =>
        match Table.lookup User.id userId shop.store.users with
        | none => .error (.error "record not found")
        | some user =>
          if 0 < requiredQuota ∧ user.quota < requiredQuota then .error (.error "余额不足")
          else
            match createUserSubscriptionFromPlanTx (shop.env e) userId plan.toSubscriptionPlan "balance"
              (shop.store.chargeQuota userId requiredQuota) with
            | .error err => .error (.error err)
            | .ok (_, store) =>
              .ok ((), { shop with
                store := store
                orders := shop.orders ++ [balanceOrder e userId plan tradeNo requiredQuota shop.freshOrderId] })

def purchaseSubscriptionWithBalance (tradeNo : String) (shop : Shop) :
    Except (Halt String) Unit × Shop :=
  if userId ≤ 0 ∨ planId ≤ 0 then (.error (.error "invalid userId or planId"), shop)
  else transaction (e.fails .createUserSubscription) (balancePurchaseTx e userId planId tradeNo) shop

def purchaseByOrder (shop : Shop) : Except (Halt String) UserSubscription × Shop :=
  match shop.findPlan planId with
  | .error err => (.error (.error err), shop)
  | .ok plan => shop.onStore (purchaseSubscription (shop.env e) userId plan.toSubscriptionPlan "order" shop.store)

def upgradeMessage (plan : PlanRow) : String :=
  if isSubscriptionUserUpgradeGroup plan.upgradeGroup then "用户分组将升级到 " ++ plan.upgradeGroup else ""

def adminBindSubscription (e : Env) (userId planId : Int) (shop : Shop) : Except (Halt String) String × Shop :=
  if userId ≤ 0 ∨ planId ≤ 0 then (.error (.error "invalid userId or planId"), shop)
  else
    match shop.findPlan planId with
    | .error err => (.error (.error err), shop)
    | .ok plan =>
      match purchaseSubscription (shop.env e) userId plan.toSubscriptionPlan "admin" shop.store with
      | (.error err, store) => (.error err, { shop with store := store })
      | (.ok _, store) => (.ok (upgradeMessage plan), { shop with store := store })

/-! ## Deletion of records -/

def Store.deleteSubscription (st : Store) (id : Int) : Store :=
  { st with userSubscriptions := st.userSubscriptions.filter (·.id ≠ id) }

def deleteFinishedTx (e : Env) (userId userSubscriptionId : Int) (st : Store) : Except (Halt String) (Unit × Store) :=
  match st.userSubscriptions.find? fun sub => sub.id = userSubscriptionId && sub.userId = userId with
  | none => .error (.error "record not found")
  | some sub =>
    if sub.status = .active ∧ e.dbNow < sub.endTime then .error (.error "活跃订阅不能删除，请先退订")
    else .ok ((), st.deleteSubscription userSubscriptionId)

/-- Delete a record of the user whose subscription has ended; `fault` is the error of a failing statement. -/
def deleteUserFinishedSubscriptionRecord (e : Env) (fault : Option String) (userId userSubscriptionId : Int) (st : Store) :
    Except (Halt String) Unit × Store :=
  if userId ≤ 0 ∨ userSubscriptionId ≤ 0 then (.error (.error "invalid userId or userSubscriptionId"), st)
  else transaction fault (deleteFinishedTx e userId userSubscriptionId) st

def adminDeleteTx (e : Env) (userSubscriptionId : Int) (st : Store) : Except (Halt String) (String × Store) :=
  match st.subscription userSubscriptionId with
  | none => .error (.error "record not found")
  | some sub =>
    match downgradeUserGroupForSubscriptionTx e st sub e.now with
    | .error err => .error (.error err)
    | .ok (group, st) => .ok (group, st.deleteSubscription userSubscriptionId)

def adminDeleteUserSubscription (e : Env) (fault : Option String) (userSubscriptionId : Int) (st : Store) :
    Except (Halt String) String × Store :=
  if userSubscriptionId ≤ 0 then (.error (.error "invalid userSubscriptionId"), st)
  else
    match transaction fault (adminDeleteTx e userSubscriptionId) st with
    | (.error err, st) => (.error err, st)
    | (.ok group, st) => (.ok (downgradeMessage group), st)

/-! ## Changes of a plan -/

/-- The request of `AdminUpdateSubscriptionPlan`. -/
structure PlanRequest where
  plan : PlanRow
  upgradeGroupRatio : Option ℚ

/-- What the change of a plan gets from outside. -/
structure AdminEnv where
  env : Env
  /-- `requirePaymentCompliance`, which answers the request itself if it fails. -/
  compliant : Bool
  /-- The groups of `common.GetTopupGroupRatioCopy`. -/
  topupGroups : List String
  /-- The error of storing the ratio of the upgrade group. -/
  ratioFault : Option String
  fault : Option String

def topupGroupExists (a : AdminEnv) (group : String) : Bool := trimSpace group ≠ "" && trimSpace group ∈ a.topupGroups

def subscriptionUpgradeGroupExists (group : String) : Bool :=
  trimSpace group = "" ||
    ((trimSpace group).length ≤ 64 && !(trimSpace group).toList.any (fun c => c ∈ [',', '\r', '\n', '\t']))

/-- `syncSubscriptionUpgradeGroupRatio`: its check, and its writes to the options as far as they fail. -/
def syncSubscriptionUpgradeGroupRatio (a : AdminEnv) (group : String) (ratio : Option ℚ) : Except String Unit :=
  if trimSpace group = "" then .ok ()
  else if ∃ r ∈ ratio, r < 0 then .error "升级分组倍率不能小于0"
  else
    match a.ratioFault with
    | some err => .error err
    | none => .ok ()

def ResetPeriod.text : ResetPeriod → String
  | .never => "never"
  | .daily => "daily"
  | .weekly => "weekly"
  | .monthly => "monthly"
  | .custom => "custom"

/-- The group whose ratio is the discount: the one asked for, else the upgrade group if it has a ratio. -/
def discountGroupOf (a : AdminEnv) (upgradeGroup billingDiscountGroup : String) : String :=
  if trimSpace billingDiscountGroup = "" ∧ topupGroupExists a upgradeGroup then upgradeGroup
  else trimSpace billingDiscountGroup

def checkPlanRequest (a : AdminEnv) (id : Int) (req : PlanRequest) : Except String PlanRow :=
  let plan := req.plan
  if trimSpace plan.title = "" then .error "套餐标题不能为空"
  else if plan.priceAmount < 0 then .error "价格不能为负数"
  else if 9999 < plan.priceAmount then .error "价格不能超过9999"
  else
    let durationUnit := if plan.durationUnit = "" then "month" else plan.durationUnit
    let durationValue := if plan.durationValue ≤ 0 ∧ durationUnit ≠ "custom" then 1 else plan.durationValue
    if plan.maxPurchasePerUser < 0 then .error "购买上限不能为负数"
    else if plan.totalAmount < 0 then .error "总额度不能为负数"
    else
      let upgradeGroup := trimSpace plan.upgradeGroup
      if upgradeGroup ≠ "" ∧ ¬ subscriptionUpgradeGroupExists upgradeGroup then .error "升级分组名称不能包含逗号、制表符或换行"
      else
        let discountGroup := discountGroupOf a upgradeGroup plan.billingDiscountGroup
        if discountGroup ≠ "" ∧ ¬ topupGroupExists a discountGroup then .error "折扣分组不存在"
        else
          match syncSubscriptionUpgradeGroupRatio a upgradeGroup req.upgradeGroupRatio with
          | .error err => .error err
          | .ok () =>
            let period := normalizeResetPeriod plan.quotaResetPeriod
            if period = .custom ∧ plan.quotaResetCustomSeconds ≤ 0 then .error "自定义重置周期需大于0秒"
            else .ok { plan with
              id := id
              durationUnit := durationUnit
              durationValue := durationValue
              upgradeGroup := upgradeGroup
              billingDiscountGroup := discountGroup
              billingDiscount := resolveSubscriptionBillingDiscount a.env discountGroup plan.billingDiscount
              quotaResetPeriod := period.text }

/-- The row after the UPDATE: `allow_balance_pay` only if the request names it. -/
def PlanRow.update (plan old : PlanRow) : PlanRow :=
  { plan with allowBalancePay := plan.allowBalancePay.or old.allowBalancePay }

def UserSubscription.setDiscount (plan : PlanRow) (sub : UserSubscription) : UserSubscription :=
  if sub.planId = plan.id ∧ sub.status = .active then
    { sub with billingDiscount := plan.billingDiscount, billingDiscountGroup := plan.billingDiscountGroup }
  else sub

/-- The two UPDATEs of the transaction. -/
def Shop.updatePlan (shop : Shop) (plan : PlanRow) : Shop where
  store := { shop.store with userSubscriptions := shop.store.userSubscriptions.map (·.setDiscount plan) }
  plans := Table.updateKey (fun row : PlanRow => row.id) plan.id plan.update shop.plans
  orders := shop.orders

def adminUpdateSubscriptionPlan (a : AdminEnv) (id : Int) (req : PlanRequest) (shop : Shop) : Except String Unit × Shop :=
  if ¬ a.compliant then (.error "", shop)
  else if id ≤ 0 then (.error "无效的ID", shop)
  else
    match checkPlanRequest a id req with
    | .error err => (.error err, shop)
    | .ok plan =>
      match a.fault with
      | some err => (.error err, shop)
      | none => (.ok (), shop.updatePlan plan)

/-! ## Histories -/

inductive ShopOp where
  | buy (e : Env) (userId planId : Int) (tradeNo : String)
  | order (e : Env) (userId planId : Int)
  | bind (e : Env) (userId planId : Int)
  | invalidate (e : Env) (userSubscriptionId : Int)
  | cancel (e : Env) (userId userSubscriptionId : Int)
  | expire (e : Env) (limit : Nat) (order : List Int)
  | deleteFinished (e : Env) (fault : Option String) (userId userSubscriptionId : Int)
  | adminDelete (e : Env) (fault : Option String) (userSubscriptionId : Int)
  | updatePlan (a : AdminEnv) (id : Int) (req : PlanRequest)
  | use (op : SubOp)

def shopStep (shop : Shop) : ShopOp → Shop
  | .buy e userId planId tradeNo => (purchaseSubscriptionWithBalance e userId planId tradeNo shop).2
  | .order e userId planId => (purchaseByOrder e userId planId shop).2
  | .bind e userId planId => (adminBindSubscription e userId planId shop).2
  | .invalidate e id => { shop with store := (adminInvalidateUserSubscription e id shop.store).2 }
  | .cancel e userId id => { shop with store := (cancelUserSubscriptionWithRefund (shop.env e) userId id shop.store).2 }
  | .expire e limit order => { shop with store := (expireDueSubscriptions e limit order shop.store).2 }
  | .deleteFinished e fault userId id =>
    { shop with store := (deleteUserFinishedSubscriptionRecord e fault userId id shop.store).2 }
  | .adminDelete e fault id => { shop with store := (adminDeleteUserSubscription e fault id shop.store).2 }
  | .updatePlan a id req => (adminUpdateSubscriptionPlan a id req shop).2
  | .use op => { shop with store := subStep shop.store op }

/-! ## What a call does to the rows -/

def ShopOp.deletedId : ShopOp → Option Int
  | .deleteFinished _ _ _ id => some id
  | .adminDelete _ _ id => some id
  | _ => none

/-- The three ways in which a call changes the rows. -/
inductive RowChange (shop : Shop) (op : ShopOp) (shop' : Shop) : Prop where
  | keeps (h : shop.store.Keeps shop'.store)
  | creates (sub : UserSubscription) (plan : PlanRow) (source : String) (found : shop.plan plan.id = some plan)
      (h : Created sub.userId plan.toSubscriptionPlan source shop.store shop'.store sub)
  | deletes (id : Int) (hop : op.deletedId = some id)
      (h : shop'.store.userSubscriptions = shop.store.userSubscriptions.filter (·.id ≠ id))

section Rows

variable {e : Env} {shop shop' : Shop} {userId planId : Int} {tradeNo : String} {plan : PlanRow}

theorem Shop.id_of_plan (h : shop.plan planId = some plan) : plan.id = planId := by
  have hkey := Table.key_of_lookup h
  exact hkey

theorem Shop.findPlan_ok (h : shop.findPlan planId = .ok plan) : plan.id = planId ∧ shop.plan plan.id = some plan := by
  unfold Shop.findPlan at h
  split at h
  · cases h
  · split at h
    · rename_i row hrow
      cases h
      have hid := Shop.id_of_plan hrow
      exact ⟨hid, by rw [hid]; exact hrow⟩
    · cases h

@[simp] theorem Store.chargeQuota_userSubscriptions (st : Store) (userId requiredQuota : Int) :
    (st.chargeQuota userId requiredQuota).userSubscriptions = st.userSubscriptions := by
  unfold Store.chargeQuota
  split <;> rfl

/-- **A purchase with balance** finds the plan, the price and a user who can pay, and creates the subscription. -/
theorem balancePurchaseTx_cases {r : Unit × Shop} (h : balancePurchaseTx e userId planId tradeNo shop = .ok r) :
    ∃ plan requiredQuota sub, shop.plan plan.id = some plan ∧
      calcSubscriptionBalanceQuota e plan.priceAmount = .ok requiredQuota ∧ shop.store.HasUser userId ∧
      r.2.plans = shop.plans ∧ Created userId plan.toSubscriptionPlan "balance" shop.store r.2.store sub ∧
      r.2.store.wallet userId = (shop.store.chargeQuota userId requiredQuota).wallet userId := by
  unfold balancePurchaseTx at h
  split at h
  · cases h
  rename_i plan hplan
  split at h
  · cases h
  split at h
  · cases h
  rename_i requiredQuota hquota
  split at h
  · cases h
  rename_i user huser
  split at h
  · cases h
  split at h
  · cases h
  · rename_i sub store hcreate
    cases h
    obtain ⟨hcreated, hwallet⟩ := create_created hcreate
    exact ⟨plan, requiredQuota, sub, (Shop.findPlan_ok hplan).2, hquota, Option.isSome_iff_exists.2 ⟨user, huser⟩, rfl,
      hcreated.of_rows (Store.chargeQuota_userSubscriptions _ _ _), hwallet userId⟩

variable {fault : Option String} {α : Type} {op : ShopOp} {id : Int} {a : AdminEnv} {req : PlanRequest}

theorem RowChange.of_transaction {body : Store → Except (Halt String) (α × Store)}
    (h : ∀ a st', body shop.store = .ok (a, st') → RowChange shop op { shop with store := st' }) :
    RowChange shop op { shop with store := (transaction fault body shop.store).2 } :=
  transaction_inv h (.keeps (.refl _))

theorem purchase_rows (e : Env) (userId : Int) (source : String)
    (hplan : shop.findPlan planId = .ok plan) : RowChange shop op { shop with
      store := (purchaseSubscription (shop.env e) userId plan.toSubscriptionPlan source shop.store).2 } := by
  refine .of_transaction fun sub st' hbody => ?_
  split at hbody
  · cases hbody
  · rename_i r hr
    cases hbody
    have hcreated := (create_created hr).1
    exact .creates sub plan source (Shop.findPlan_ok hplan).2 (hcreated.userId.symm ▸ hcreated)

theorem deleteFinished_rows :
    RowChange shop (.deleteFinished e fault userId id)
      { shop with store := (deleteUserFinishedSubscriptionRecord e fault userId id shop.store).2 } := by
  unfold deleteUserFinishedSubscriptionRecord
  split
  · exact .keeps (.refl _)
  · refine .of_transaction fun _ st' hbody => ?_
    unfold deleteFinishedTx at hbody
    split at hbody
    · cases hbody
    · split at hbody
      · cases hbody
      · cases hbody
        exact .deletes id rfl rfl

theorem adminDelete_rows :
    RowChange shop (.adminDelete e fault id)
      { shop with store := (adminDeleteUserSubscription e fault id shop.store).2 } := by
  unfold adminDeleteUserSubscription
  split
  · exact .keeps (.refl _)
  · have htx : RowChange shop (.adminDelete e fault id)
        { shop with store := (transaction fault (adminDeleteTx e id) shop.store).2 } := by
      refine .of_transaction fun _ st' hbody => ?_
      unfold adminDeleteTx at hbody
      split at hbody
      · cases hbody
      · split at hbody
        · cases hbody
        · rename_i group st₁ hdown
          cases hbody
          refine .deletes id rfl ?_
          show st₁.userSubscriptions.filter _ = _
          obtain ⟨-, hr⟩ | ⟨-, hr⟩ | ⟨-, hr⟩ := downgrade_cases hdown <;> dsimp only at hr <;> rw [hr]
          rw [restoreGroup_userSubscriptions]
    split <;> rename_i heq <;> rw [heq] at htx <;> exact htx

theorem setDiscount_follows {sub : UserSubscription} : sub.Follows (sub.setDiscount plan) := by
  unfold UserSubscription.setDiscount
  split
  · exact ⟨rfl, rfl, rfl, rfl, fun h => h⟩
  · exact .refl _

theorem ok_of_check {p : Prop} [Decidable p] {err : String} {x : Except String α} {v : α}
    (h : (if p then .error err else x) = .ok v) : x = .ok v := by
  split at h
  · cases h
  · exact h

theorem checkPlanRequest_ok
    (h : checkPlanRequest a id req = .ok plan) : plan.id = id ∧ plan.priceAmount = req.plan.priceAmount := by
  -- the title, the two bounds of the price, the two counts and the two groups
  have h := ok_of_check (ok_of_check (ok_of_check (ok_of_check (ok_of_check (ok_of_check (ok_of_check h))))))
  split at h
  · cases h
  · have h := ok_of_check h
    cases h
    exact ⟨rfl, rfl⟩

/-- **A change of a plan** is refused, or writes the plan of the request. -/
theorem updatePlan_cases (a : AdminEnv) (id : Int) (req : PlanRequest) (shop : Shop) :
    (adminUpdateSubscriptionPlan a id req shop).2 = shop ∨
      ∃ plan, plan.id = id ∧ plan.priceAmount = req.plan.priceAmount ∧
        (adminUpdateSubscriptionPlan a id req shop).2 = shop.updatePlan plan := by
  unfold adminUpdateSubscriptionPlan
  split
  · exact .inl rfl
  split
  · exact .inl rfl
  split
  · exact .inl rfl
  · rename_i plan hplan
    obtain ⟨hid, hprice⟩ := checkPlanRequest_ok hplan
    split
    · exact .inl rfl
    · exact .inr ⟨plan, hid, hprice, rfl⟩

theorem updatePlan_rows :
    shop.store.Keeps (adminUpdateSubscriptionPlan a id req shop).2.store := by
  obtain h | ⟨plan, -, -, h⟩ := updatePlan_cases a id req shop <;> rw [h]
  · exact .refl _
  · exact List.forall₂_map_right_iff.2 (List.forall₂_same.2 fun _ _ => setDiscount_follows)

/-- **What one call does to the rows.** -/
theorem shopStep_rows (hd : shop.store.DistinctIds) (op : ShopOp) : RowChange shop op (shopStep shop op) := by
  cases op with
  | buy e userId planId tradeNo =>
    rw [shopStep, purchaseSubscriptionWithBalance]
    split
    · exact .keeps (.refl _)
    · obtain ⟨r, shop', -, hbody, htx⟩ | ⟨err, htx⟩ := transaction_cases (e.fails .createUserSubscription)
        (balancePurchaseTx e userId planId tradeNo) shop
      · rw [htx]
        obtain ⟨plan, requiredQuota, sub, hplan, -, -, -, hcreated, -⟩ := balancePurchaseTx_cases hbody
        exact .creates sub plan "balance" hplan (hcreated.userId.symm ▸ hcreated)
      · rw [htx]
        exact .keeps (.refl _)
  | order e userId planId =>
    rw [shopStep, purchaseByOrder]
    split
    · exact .keeps (.refl _)
    · rename_i plan hplan
      exact purchase_rows e userId "order" hplan
  | bind e userId planId =>
    rw [shopStep, adminBindSubscription]
    split
    · exact .keeps (.refl _)
    split
    · exact .keeps (.refl _)
    · rename_i plan hplan
      have hrows : RowChange shop (.bind e userId planId) _ := purchase_rows e userId "admin" hplan
      split <;> rename_i heq <;> rw [heq] at hrows <;> exact hrows
  | invalidate e id =>
    rw [shopStep, adminInvalidateUserSubscription]
    split
    · exact .keeps (.refl _)
    · have htx : shop.store.Keeps (transaction (e.fails .invalidateUserSubscription) (invalidateTx e id) shop.store).2 :=
        transaction_inv (fun _ _ hbody => invalidateTx_keeps hd hbody) (.refl _)
      split <;> rename_i heq <;> rw [heq] at htx <;> exact .keeps htx
  | cancel e userId id =>
    rw [shopStep, cancelUserSubscriptionWithRefund]
    split
    · exact .keeps (.refl _)
    · exact .keeps (transaction_inv (fun _ _ hbody => cancelTx_keeps hd hbody) (.refl _))
  | expire e limit order =>
    rw [shopStep, expireDueSubscriptions]
    split
    · exact .keeps (.refl _)
    · exact .keeps (expireUsers_keeps _ _ _)
  | deleteFinished e fault userId id => exact deleteFinished_rows
  | adminDelete e fault id => exact adminDelete_rows
  | updatePlan a id req => exact .keeps updatePlan_rows
  | use op => exact .keeps (subStep_keeps hd op)

end Rows

end SynthApi
