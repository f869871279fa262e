import SynthApi.Lib.Transaction
import SynthApi.Lib.Run
import SynthApi.Model.Subscription.Purchase

/-!
# How subscriptions end

A subscription with an upgrade group ends by `AdminInvalidateUserSubscription`, by `CancelUserSubscriptionWithRefund` or
in the sweep `ExpireDueSubscriptions`. Each of them may move the user back to the group that the purchase has stored:
`downgradeUserGroupForSubscriptionTx` to the group stored by the subscription that ends, the sweep to the one stored by
the user's last expired subscription.

`groupStep` is one purchase or one such ending.
-/

namespace SynthApi

open Lib Lib.Go

/-! ## Back to the previous group -/

/-- `upgrade_group IN unlimitedSubscriptionGroups` -/
def UserSubscription.isUpgrade (sub : UserSubscription) : Bool := sub.upgradeGroup ∈ unlimitedSubscriptionGroups

def UserSubscription.keepsGroup (userId now : Int) (sub : UserSubscription) : Bool :=
  sub.userId = userId && sub.status = .active && now < sub.endTime && sub.isUpgrade

/-- Does the query find a row? An error of the query counts as none. -/
def findsActiveUpgrade (e : Env) (st : Store) (p : UserSubscription → Bool) : Bool :=
  e.fails .findActiveUpgrade = none && st.userSubscriptions.any p

/-- The group that the user is moved back to, "" for none. -/
def downgradeUserGroupForSubscriptionTx (e : Env) (st : Store) (sub : UserSubscription) (now : Int) :
    Except String (String × Store) :=
  let upgradeGroup := trimSpace sub.upgradeGroup
  if ¬ isSubscriptionUserUpgradeGroup upgradeGroup then .ok ("", st)
  else if sub.userId ≤ 0 then .error "invalid userId"
  else
    let currentGroup := getUserGroupById st sub.userId
    if currentGroup ≠ upgradeGroup then .ok ("", st)
    else if findsActiveUpgrade e st fun s => s.keepsGroup sub.userId now && s.id ≠ sub.id then .ok ("", st)
    else
      let prevGroup := trimSpace sub.prevUserGroup
      if prevGroup = "" ∨ prevGroup = currentGroup then .ok ("", st)
      else .ok (prevGroup, st.setGroup sub.userId prevGroup)

def downgradeMessage (group : String) : String := if group = "" then "" else "用户分组将回退到 " ++ group

/-! ## Invalidation -/

def UserSubscription.cancel (now : Int) (sub : UserSubscription) : UserSubscription :=
  { sub with status := .cancelled, endTime := now }

def cancelAndDowngrade (e : Env) (now : Int) (sub : UserSubscription) (st : Store) :
    Except (Halt String) (String × Store) :=
  match downgradeUserGroupForSubscriptionTx e (st.saveSubscription (sub.cancel now)) (sub.cancel now) now with
  | .error err => .error (.error err)
  | .ok r => .ok r

def invalidateTx (e : Env) (userSubscriptionId : Int) (st : Store) : Except (Halt String) (String × Store) :=
  match st.subscription userSubscriptionId with
  | none => .error (.error "record not found")
  | some sub => cancelAndDowngrade e e.now sub st

def adminInvalidateUserSubscription (e : Env) (userSubscriptionId : Int) (st : Store) :
    Except (Halt String) String × Store :=
  if userSubscriptionId ≤ 0 then (.error (.error "invalid userSubscriptionId"), st)
  else
    match transaction (e.fails .invalidateUserSubscription) (invalidateTx e userSubscriptionId) st with
    | (.error err, st) => (.error err, st)
    | (.ok group, st) => (.ok (downgradeMessage group), st)

/-! ## Cancellation -/

structure SubscriptionCancelResult where
  refundQuota : Int
  refundRatio : ℚ
  refundAmount : ℚ
  message : String
  deriving DecidableEq, Repr

def calcSubscriptionBalanceQuota (e : Env) (priceAmount : ℚ) : Except String Int :=
  if priceAmount ≤ 0 then .ok 0
  else if e.displayAmountToQuota priceAmount < 0 then .error "额度单位配置错误"
  else .ok (e.displayAmountToQuota priceAmount)

/-- The part of the price that a cancellation gives back: the lesser of what is left of time and of quota. -/
def UserSubscription.refundRatio (now : Int) (sub : UserSubscription) : ℚ :=
  let duration := max (sub.endTime - sub.startTime) 0
  let remaining := max (sub.endTime - now) 0
  let timeRatio := if 0 < duration ∧ 0 < remaining then decimalDiv remaining duration else 0
  let quotaRatio := if 0 < sub.amountTotal then decimalDiv (max (sub.amountTotal - sub.amountUsed) 0) sub.amountTotal else 1
  min (max (min quotaRatio timeRatio) 0) 1

/-- What a cancellation gives back; the text is set later. -/
def cancelRefund (e : Env) (plan : SubscriptionPlan) (now : Int) (sub : UserSubscription) :
    Except String SubscriptionCancelResult :=
  if trimSpace sub.source = "admin" ∨ plan.priceAmount ≤ 0 then .ok ⟨0, 0, 0, ""⟩
  else
    match calcSubscriptionBalanceQuota e plan.priceAmount with
    | .error err => .error err
    | .ok fullQuota =>
      if fullQuota ≤ 0 then .ok ⟨0, 0, 0, ""⟩
      else
        let ratio := sub.refundRatio now
        .ok ⟨max (round0 (fullQuota * ratio)) 0, ratio, plan.priceAmount * ratio, ""⟩

def Store.payRefund (st : Store) (userId refundQuota : Int) : Store :=
  if 0 < refundQuota then { st with users := Table.updateKey User.id userId (User.addQuota refundQuota) st.users } else st

def cancelTx (e : Env) (userId userSubscriptionId : Int) (st : Store) :
    Except (Halt String) (SubscriptionCancelResult × Store) :=
  match st.userSubscriptions.find? fun sub => sub.id = userSubscriptionId && sub.userId = userId with
  | none => .error (.error "record not found")
  | some sub =>
    if sub.status ≠ .active ∨ sub.endTime ≤ e.dbNow then .error (.error "订阅不可退订")
    else
      match getSubscriptionPlanById e sub.planId with
      | .error err => .error (.error err)
      | .ok plan =>
        if isUnlimitedSubscriptionGroup plan.upgradeGroup then .error (.error "无限量订阅不支持退款")
        else
          match cancelRefund e plan e.dbNow sub with
          | .error err => .error (.error err)
          | .ok result =>
            match cancelAndDowngrade e e.dbNow sub (st.payRefund userId result.refundQuota) with
            | .error err => .error err
            | .ok (group, st) => .ok ({ result with message := downgradeMessage group }, st)

/-- **A cancellation** finds an active row of the user, pays what its plan gives back and cancels the row. -/
theorem cancelTx_cases {e : Env} {userId userSubscriptionId : Int} {st : Store} {r : SubscriptionCancelResult × Store}
    (h : cancelTx e userId userSubscriptionId st = .ok r) :
    ∃ sub plan refund group, sub ∈ st.userSubscriptions ∧ (sub.id = userSubscriptionId ∧ sub.userId = userId) ∧
      sub.status = .active ∧ getSubscriptionPlanById e sub.planId = .ok plan ∧
      cancelRefund e plan e.dbNow sub = .ok refund ∧
      cancelAndDowngrade e e.dbNow sub (st.payRefund userId refund.refundQuota) = .ok (group, r.2) := by
  unfold cancelTx at h
  split at h
  · cases h
  rename_i sub hsub
  split at h
  · cases h
  rename_i hactive
  split at h
  · cases h
  rename_i plan hplan
  split at h
  · cases h
  split at h
  · cases h
  rename_i refund hrefund
  split at h
  · cases h
  · rename_i group st' hcancel
    cases h
    rw [not_or, not_not] at hactive
    have hkey := List.find?_some hsub
    rw [Bool.and_eq_true, decide_eq_true_eq, decide_eq_true_eq] at hkey
    exact ⟨sub, plan, refund, group, List.mem_of_find?_eq_some hsub, hkey, hactive.1, hplan, hrefund, hcancel⟩

def cancelUserSubscriptionWithRefund (e : Env) (userId userSubscriptionId : Int) (st : Store) :
    Except (Halt String) SubscriptionCancelResult × Store :=
  if userId ≤ 0 ∨ userSubscriptionId ≤ 0 then (.error (.error "invalid userId or userSubscriptionId"), st)
  else transaction (e.fails .cancelUserSubscription) (cancelTx e userId userSubscriptionId) st

/-! ## Expiry -/

def UserSubscription.isDue (now : Int) (sub : UserSubscription) : Bool :=
  sub.status = .active && 0 < sub.endTime && sub.endTime ≤ now

/-- The last row in the order `end_time, id`. -/
def lastEnding : List UserSubscription → Option UserSubscription
  | [] => none
  | sub :: subs =>
    match lastEnding subs with
    | none => some sub
    | some last => if sub.endsBefore last then some last else some sub

def UserSubscription.expire (userId now : Int) (sub : UserSubscription) : UserSubscription :=
  if sub.userId = userId && sub.isDue now then { sub with status := .expired } else sub

def lastExpiredUpgrade (e : Env) (st : Store) (userId : Int) : Option UserSubscription :=
  if e.fails .findExpiredUpgrade = none then
    lastEnding (st.userSubscriptions.filter fun s => s.userId = userId && s.status = .expired && s.isUpgrade)
  else none

def restoreGroup (st : Store) (userId : Int) (last : UserSubscription) : Store :=
  let upgradeGroup := trimSpace last.upgradeGroup
  let prevGroup := trimSpace last.prevUserGroup
  if upgradeGroup = "" ∨ prevGroup = "" then st
  else
    let currentGroup := getUserGroupById st userId
    if currentGroup ≠ upgradeGroup ∨ currentGroup = prevGroup then st else st.setGroup userId prevGroup

/-- The transaction of the sweep for one user: the number of expired rows. -/
def expireUserTx (e : Env) (userId now : Int) (st : Store) : Except (Halt String) (Int × Store) :=
  let count : Int := st.userSubscriptions.countP fun sub => sub.userId = userId && sub.isDue now
  let st := { st with userSubscriptions := st.userSubscriptions.map (·.expire userId now) }
  if findsActiveUpgrade e st (·.keepsGroup userId now) then .ok (count, st)
  else
    match lastExpiredUpgrade e st userId with
    | none => .ok (count, st)
    | some last => .ok (count, restoreGroup st userId last)

/-- The loop over the users: it stops at the first failing transaction. -/
def expireUsers (e : Env) (now : Int) : List Int → Int → Store → Except (Halt String) Int × Store
  | [], expiredCount, st => (.ok expiredCount, st)
  | userId :: userIds, expiredCount, st =>
    match transaction (e.fails (.expireUser userId)) (expireUserTx e userId now) st with
    | (.error err, st) => (.error err, st)
    | (.ok count, st) => expireUsers e now userIds (expiredCount + count) st

def dueUsers (e : Env) (limit : Nat) (st : Store) : List Int :=
  ((((st.userSubscriptions.filter (·.isDue e.dbNow)).insertionSort UserSubscription.endsBefore).take
    (if limit = 0 then 200 else limit)).map (·.userId)).filter (0 < ·)

/-- The sweep. The users come from a map: `order` is the order in which they are ranged over. -/
def expireDueSubscriptions (e : Env) (limit : Nat) (order : List Int) (st : Store) : Except (Halt String) Int × Store :=
  match e.fails .findDueSubscriptions with
  | some err => (.error (.error err), st)
  | none => expireUsers e e.dbNow (order.filter (· ∈ dueUsers e limit st)) 0 st

/-! ## Histories -/

/-- The transaction of a purchase, by an order, by balance or by an administrator. -/
def purchaseSubscription (e : Env) (userId : Int) (plan : SubscriptionPlan) (source : String) (st : Store) :
    Except (Halt String) UserSubscription × Store :=
  transaction (e.fails .createUserSubscription) (fun st =>
    match createUserSubscriptionFromPlanTx e userId plan source st with
    | .error err => .error (.error err)
    | .ok r => .ok r) st

inductive GroupOp where
  | purchase (e : Env) (userId : Int) (plan : SubscriptionPlan) (source : String)
  | invalidate (e : Env) (userSubscriptionId : Int)
  | cancel (e : Env) (userId userSubscriptionId : Int)
  | expire (e : Env) (limit : Nat) (order : List Int)

def groupStep (st : Store) : GroupOp → Store
  | .purchase e userId plan source => (purchaseSubscription e userId plan source st).2
  | .invalidate e userSubscriptionId => (adminInvalidateUserSubscription e userSubscriptionId st).2
  | .cancel e userId userSubscriptionId => (cancelUserSubscriptionWithRefund e userId userSubscriptionId st).2
  | .expire e limit order => (expireDueSubscriptions e limit order st).2

end SynthApi
