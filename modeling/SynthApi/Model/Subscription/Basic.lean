import SynthApi.Lib.Go
import SynthApi.Model.Store
import Mathlib.Data.List.Sort

/-!
# Subscriptions: discounts, groups and the reset of the used amount

The pure parts of `model/subscription.go`.

* `applySubscriptionBillingDiscount` turns a request's amount into the amount charged: at least one unit, at most the
  amount itself (`one_le_apply`, `apply_le`).
* `maybeResetUserSubscriptionWithPlanTx` catches up with the resets that are due. Its loop is `catchUp`, which needs a
  step bound: the next reset time need not be later than the last one when a custom period overflows. A reset row is
  the old one, the old one with its reset times filled in, or one whose used amount is 0 (`maybeReset_spec`).
-/

namespace SynthApi

open Lib Lib.Go UserSubscription

/-! ## Discounts -/

def normalizeSubscriptionBillingDiscount (discount : ℚ) : ℚ :=
  if discount ≤ 0 then 1 else if discount > 1 then 1 else discount

/-- The quota charged for `amount` under `discount`, with the sign of `amount`. -/
def applySubscriptionBillingDiscount (amount : Int) (discount : ℚ) : Int :=
  if amount = 0 then 0
  else
    let normalized := normalizeSubscriptionBillingDiscount discount
    let sign : Int := if amount < 0 then -1 else 1
    let amount := if amount < 0 then wrap64 (-amount) else amount
    let applied := wrap64 (round0 (amount * normalized))
    let applied := if applied ≤ 0 then 1 else applied
    wrap64 (applied * sign)

def resolveSubscriptionBillingDiscount (e : Env) (discountGroup : String) (fallback : ℚ) : ℚ :=
  let discountGroup := trimSpace discountGroup
  if discountGroup ≠ "" then normalizeSubscriptionBillingDiscount (e.topupGroupRatio discountGroup)
  else normalizeSubscriptionBillingDiscount fallback

def getUserSubscriptionBillingDiscount (e : Env) (sub : UserSubscription) : ℚ :=
  resolveSubscriptionBillingDiscount e sub.billingDiscountGroup sub.billingDiscount

section Discount

variable (discount : ℚ)

theorem normalize_pos : 0 < normalizeSubscriptionBillingDiscount discount := by
  unfold normalizeSubscriptionBillingDiscount
  split_ifs with h₁ h₂
  · exact one_pos
  · exact one_pos
  · exact not_le.mp h₁

theorem normalize_le_one : normalizeSubscriptionBillingDiscount discount ≤ 1 := by
  unfold normalizeSubscriptionBillingDiscount
  split_ifs with h₁ h₂
  · exact le_refl 1
  · exact le_refl 1
  · exact not_lt.mp h₂

variable {amount : Int}

/-- The rounded product of an `int64` amount and a discount is an `int64` that does not exceed the amount. -/
theorem round0_discount (h : 0 < amount) :
    0 ≤ round0 (amount * normalizeSubscriptionBillingDiscount discount) ∧
      round0 (amount * normalizeSubscriptionBillingDiscount discount) ≤ amount := by
  have hq : (0 : ℚ) < amount := by exact_mod_cast h
  constructor
  · exact round0_nonneg (mul_pos hq (normalize_pos discount)).le
  · exact round0_le (mul_le_of_le_one_right hq.le (normalize_le_one discount))

/-- The charge of a positive amount, without the wrapping: it never overflows. -/
theorem apply_pos (h : 0 < amount) (h64 : amount < 2 ^ 63) :
    applySubscriptionBillingDiscount amount discount =
      max 1 (round0 (amount * normalizeSubscriptionBillingDiscount discount)) := by
  obtain ⟨h0, h1⟩ := round0_discount discount h
  have hne : amount ≠ 0 := by omega
  have hlt : ¬ amount < 0 := by omega
  simp only [applySubscriptionBillingDiscount, hne, hlt, ↓reduceIte]
  generalize round0 (amount * normalizeSubscriptionBillingDiscount discount) = r at h0 h1 ⊢
  rw [wrap64_of_mem (x := r) (by unfold InInt64; omega)]
  split
  · rw [wrap64_of_mem (by unfold InInt64; omega)]; omega
  · rw [wrap64_of_mem (by unfold InInt64; omega)]; omega

theorem apply_int64 (amount : Int) : InInt64 (applySubscriptionBillingDiscount amount discount) := by
  unfold applySubscriptionBillingDiscount
  split_ifs
  · decide
  all_goals exact wrap64_mem _

theorem one_le_apply (h : 0 < amount) : 1 ≤ applySubscriptionBillingDiscount amount discount := by
  have hne : amount ≠ 0 := by omega
  have hlt : ¬ amount < 0 := by omega
  simp only [applySubscriptionBillingDiscount, hne, hlt, ↓reduceIte, mul_one]
  have hr := wrap64_mem (round0 (amount * normalizeSubscriptionBillingDiscount discount))
  unfold InInt64 at hr
  split
  · rw [wrap64_of_mem (by unfold InInt64; omega)]
  · rw [wrap64_of_mem (by unfold InInt64; omega)]
    omega

theorem apply_le (h : 0 < amount) (h64 : amount < 2 ^ 63) :
    applySubscriptionBillingDiscount amount discount ≤ amount := by
  rw [apply_pos discount h h64]
  have := (round0_discount discount h).2
  omega

end Discount

/-! ## Groups -/

def unlimitedSubscriptionGroups : List String := ["unlimited_day", "unlimited_week", "unlimited_month"]

def isUnlimitedSubscriptionGroup (group : String) : Bool := trimSpace group ∈ unlimitedSubscriptionGroups

def isSubscriptionUserUpgradeGroup (group : String) : Bool := isUnlimitedSubscriptionGroup group

/-- The order `end_time asc, id asc`. -/
def UserSubscription.endsBefore (a b : UserSubscription) : Prop :=
  a.endTime < b.endTime ∨ (a.endTime = b.endTime ∧ a.id ≤ b.id)

instance : DecidableRel UserSubscription.endsBefore := fun a b =>
  inferInstanceAs (Decidable (a.endTime < b.endTime ∨ (a.endTime = b.endTime ∧ a.id ≤ b.id)))

/-- The condition of `eligibleActiveUserSubscriptionsQuery`. -/
def UserSubscription.eligible (userId : Int) (userGroup : String) (now : Int) (sub : UserSubscription) : Bool :=
  sub.userId = userId && sub.status = .active && now < sub.endTime &&
    (sub.upgradeGroup ∉ unlimitedSubscriptionGroups || sub.upgradeGroup = trimSpace userGroup)

def eligibleActiveUserSubscriptions (st : Store) (userId : Int) (userGroup : String) (now : Int) :
    List UserSubscription :=
  st.userSubscriptions.filter (·.eligible userId userGroup now)

/-- The user's group; a missing row reads as the empty group. -/
def getUserGroupById (st : Store) (userId : Int) : String :=
  ((Table.lookup User.id userId st.users).map (·.group)).getD ""

/-! ## Plans -/

def getSubscriptionPlanById (e : Env) (id : Int) : Except String SubscriptionPlan :=
  if id ≤ 0 then .error "invalid plan id"
  else
    match e.plans id with
    | some plan => .ok plan
    | none => .error "record not found"

theorem getSubscriptionPlanById_id {e : Env} {id : Int} {plan : SubscriptionPlan}
    (h : getSubscriptionPlanById e id = .ok plan) : plan.id = id := by
  unfold getSubscriptionPlanById at h
  split_ifs at h
  split at h
  next hplan => cases h; exact e.plans_id hplan
  · cases h

inductive ResetPeriod where
  | never
  | daily
  | weekly
  | monthly
  | custom
  deriving DecidableEq, Repr

def normalizeResetPeriod (period : String) : ResetPeriod :=
  match trimSpace period with
  | "daily" => .daily
  | "weekly" => .weekly
  | "monthly" => .monthly
  | "custom" => .custom
  | _ => .never

/-- `base.Add(time.Duration(seconds) * time.Second).Unix()`: the product is an `int64` of nanoseconds. -/
def addSeconds (base seconds : Int) : Int := base + wrap64 (seconds * 10 ^ 9) / 10 ^ 9

/-- The reset after `base`, and 0 for none before the end of the subscription. -/
def calcNextResetTime (loc : Location) (base : Int) (plan : SubscriptionPlan) (endUnix : Int) : Int :=
  let untilEnd (next : Int) : Int := if 0 < endUnix ∧ endUnix < next then 0 else next
  match normalizeResetPeriod plan.quotaResetPeriod with
  | .never => 0
  | .daily => untilEnd (loc.addDate (loc.date (loc.civil base) 0) 0 0 1)
  | .weekly =>
    let weekday := if loc.weekday base = 0 then 7 else loc.weekday base
    untilEnd (loc.addDate (loc.date (loc.civil base) 0) 0 0 (8 - weekday))
  | .monthly => untilEnd (loc.addDate (loc.date { loc.civil base with day := 1 } 0) 0 1 0)
  | .custom =>
    if plan.quotaResetCustomSeconds ≤ 0 then 0 else untilEnd (addSeconds base plan.quotaResetCustomSeconds)

/-- `for next > 0 && next <= now`: the last base and the next reset after the loop, if it ends within `fuel` rounds. -/
def catchUp (nextOf : Int → Int) (now : Int) : Nat → Int → Int → Option (Int × Int)
  | 0, _, _ => none
  | fuel + 1, base, next =>
    if 0 < next ∧ next ≤ now then catchUp nextOf now fuel next (nextOf next) else some (base, next)

/-! ## Writing a subscription back -/

namespace Store

/-- `tx.Save(&sub)` -/
def saveSubscription (st : Store) (sub : UserSubscription) : Store :=
  { st with userSubscriptions := Table.updateKey UserSubscription.id sub.id (fun _ => sub) st.userSubscriptions }

def subscription (st : Store) (id : Int) : Option UserSubscription :=
  Table.lookup UserSubscription.id id st.userSubscriptions

section Save

variable {st : Store} {sub : UserSubscription} {id : Int}

theorem subscription_save (h : (st.subscription sub.id).isSome) :
    (st.saveSubscription sub).subscription sub.id = some sub := by
  obtain ⟨old, ho⟩ := Option.isSome_iff_exists.1 h
  simp only [subscription, saveSubscription] at ho ⊢
  rw [Table.lookup_updateKey (fun _ _ => rfl), ho]
  rfl

theorem subscription_save_ne (h : id ≠ sub.id) : (st.saveSubscription sub).subscription id = st.subscription id :=
  Table.lookup_updateKey_ne (fun _ _ => rfl) h

theorem mem_saveSubscription {q : UserSubscription} (h : q ∈ (st.saveSubscription sub).userSubscriptions) :
    (q ∈ st.userSubscriptions ∧ q.id ≠ sub.id) ∨ q = sub := by
  rcases Table.mem_updateKey.1 h with h | ⟨_, _, _, rfl⟩
  · exact .inl h
  · exact .inr rfl

end Save

end Store

/-! ## The reset -/

def UserSubscription.resetBase (sub : UserSubscription) : Int :=
  if sub.lastResetTime ≤ 0 then sub.startTime else sub.lastResetTime

def UserSubscription.nextReset (e : Env) (plan : SubscriptionPlan) (sub : UserSubscription) (base : Int) : Int :=
  calcNextResetTime e.location base plan sub.endTime

/-- The row's next reset lies after `now`, or its plan has none: the reset returns at once. -/
def UserSubscription.waits (plan : SubscriptionPlan) (now : Int) (sub : UserSubscription) : Prop :=
  (0 < sub.nextResetTime ∧ now < sub.nextResetTime) ∨ normalizeResetPeriod plan.quotaResetPeriod = .never

/-- The loop of the reset is entered. -/
def UserSubscription.due (e : Env) (plan : SubscriptionPlan) (now : Int) (sub : UserSubscription) : Prop :=
  0 < sub.nextReset e plan sub.resetBase ∧ sub.nextReset e plan sub.resetBase ≤ now

instance (plan : SubscriptionPlan) (now : Int) (sub : UserSubscription) : Decidable (sub.waits plan now) :=
  inferInstanceAs (Decidable (_ ∨ _))

instance (e : Env) (plan : SubscriptionPlan) (now : Int) (sub : UserSubscription) : Decidable (sub.due e plan now) :=
  inferInstanceAs (Decidable (_ ∧ _))

/-- Catch up with the resets due at `now`; `none` when the loop has not ended within the step bound. -/
def maybeResetUserSubscriptionWithPlanTx (e : Env) (st : Store) (sub : UserSubscription) (plan : SubscriptionPlan)
    (now : Int) : Option (UserSubscription × Store) :=
  if sub.waits plan now then some (sub, st)
  else
    let next := sub.nextReset e plan sub.resetBase
    match catchUp (sub.nextReset e plan) now e.fuel sub.resetBase next with
    | none => none
    | some (base', next') =>
      if sub.due e plan now then
        let sub := { sub with amountUsed := 0, lastResetTime := base', nextResetTime := next' }
        some (sub, st.saveSubscription sub)
      -- nothing is due; a row without reset times gets them
      else if sub.nextResetTime = 0 ∧ 0 < next then
        let sub := { sub with nextResetTime := next, lastResetTime := base' }
        some (sub, st.saveSubscription sub)
      else some (sub, st)

/-- The reset takes effect on the used amount. -/
def UserSubscription.resets (e : Env) (plan : SubscriptionPlan) (now : Int) (sub : UserSubscription) : Prop :=
  ¬ sub.waits plan now ∧ sub.due e plan now

instance (e : Env) (plan : SubscriptionPlan) (now : Int) (sub : UserSubscription) :
    Decidable (sub.resets e plan now) := inferInstanceAs (Decidable (_ ∧ _))

/-- The row after a reset: only the reset times and the used amount differ. -/
structure ResetOf (old new : UserSubscription) : Prop where
  id : new.id = old.id
  userId : new.userId = old.userId
  amountTotal : new.amountTotal = old.amountTotal

/-- **The reset.** It leaves the store alone or saves the row; the used amount is 0 if a reset was due, else kept. -/
theorem maybeReset_spec {e : Env} {st st' : Store} {sub sub' : UserSubscription} {plan : SubscriptionPlan} {now : Int}
    (h : maybeResetUserSubscriptionWithPlanTx e st sub plan now = some (sub', st')) :
    ((sub' = sub ∧ st' = st) ∨ st' = st.saveSubscription sub') ∧ ResetOf sub sub' ∧
      sub'.amountUsed = if sub.resets e plan now then 0 else sub.amountUsed := by
  unfold maybeResetUserSubscriptionWithPlanTx at h
  split at h
  · rename_i hw
    cases h
    exact ⟨.inl ⟨rfl, rfl⟩, ⟨rfl, rfl, rfl⟩, by simp [resets, hw]⟩
  · rename_i hw
    dsimp only at h
    split at h
    · cases h
    · split at h
      · rename_i hd
        cases h
        exact ⟨.inr rfl, ⟨rfl, rfl, rfl⟩, by simp [resets, hw, hd]⟩
      · rename_i hd
        split at h
        · cases h
          exact ⟨.inr rfl, ⟨rfl, rfl, rfl⟩, by simp [resets, hd]⟩
        · cases h
          exact ⟨.inl ⟨rfl, rfl⟩, ⟨rfl, rfl, rfl⟩, by simp [resets, hd]⟩

end SynthApi
