import SynthApi.Model.Subscription.Shop

/-!
# Durations of subscriptions

The end of a purchased subscription is its start and the duration of the plan. It is later than the start, unless days, hours or
seconds wrap around in nanoseconds of 64 bits, or months and years in seconds (`purchased_duration_iff`).
-/

namespace SynthApi

open Lib Lib.Go

namespace Sample

/-- A request for a plan that is in other respects the sample plan. -/
def planRequest (plan : SubscriptionPlan) : PlanRequest := ⟨⟨plan, true, none⟩, none⟩

def admin : AdminEnv := ⟨env 1500, true, [], none, none⟩

/-- 200000 days: their nanoseconds wrap around to a negative number. So do the seconds of 300000000000 years. -/
def backwardPlans : List SubscriptionPlan :=
  [("day", 200000), ("year", 300000000000)].map fun d => { plan with id := 2, durationUnit := d.1, durationValue := d.2 }

end Sample

open Sample

/-- The seconds of a duration that is not in units of the calendar. -/
def SubscriptionPlan.durationSeconds (plan : SubscriptionPlan) : Option Int :=
  match plan.durationUnit with
  | "day" => some (plan.durationValue * 86400)
  | "hour" => some (plan.durationValue * 3600)
  | "custom" => some plan.customSeconds
  | _ => none

theorem lt_addSeconds (base seconds : Int) : base < addSeconds base seconds ↔ 10 ^ 9 ≤ wrap64 (seconds * 10 ^ 9) := by
  unfold addSeconds
  omega

/-- The months of a duration on the calendar. -/
def SubscriptionPlan.durationMonths (plan : SubscriptionPlan) : Option Int :=
  match plan.durationUnit with
  | "year" => some (12 * plan.durationValue)
  | "month" => some plan.durationValue
  | _ => none

/-- The duration ends, on the calendar, a week before the last second of 64 bits. -/
def SubscriptionPlan.EndsInTime (plan : SubscriptionPlan) (loc : Location) (start : Int) : Prop :=
  ∀ months ∈ plan.durationMonths, loc.monthsLater start months + 604800 < 2 ^ 63

theorem calcPlanEndTime_later {loc : Location} {start endTime : Int} {plan : SubscriptionPlan} (hstart : |start| ≤ 2 ^ 62)
    (hfits : plan.EndsInTime loc start) (h : calcPlanEndTime loc start plan = .ok endTime) :
    start < endTime ↔ ∀ seconds ∈ plan.durationSeconds, 10 ^ 9 ≤ wrap64 (seconds * 10 ^ 9) := by
  unfold calcPlanEndTime at h
  split at h
  · cases h
  next hvalue =>
    have hpos : plan.durationUnit ≠ "custom" → 0 < plan.durationValue :=
      fun hunit => not_le.1 fun hle => hvalue ⟨hle, hunit⟩
    unfold SubscriptionPlan.EndsInTime SubscriptionPlan.durationMonths at hfits
    unfold SubscriptionPlan.durationSeconds
    split at h
    next hunit =>
      cases h
      rw [hunit] at hpos hfits ⊢
      have := hpos (by decide)
      refine iff_of_true (Location.lt_addDate hstart this.le le_rfl (by omega) ?_) nofun
      rw [add_zero]
      exact hfits _ rfl
    next hunit =>
      cases h
      rw [hunit] at hpos hfits ⊢
      have := hpos (by decide)
      refine iff_of_true (Location.lt_addDate hstart le_rfl this.le (by omega) ?_) nofun
      rw [mul_zero, zero_add]
      exact hfits _ rfl
    next hunit =>
      cases h
      rw [hunit]
      simp [lt_addSeconds]
    next hunit =>
      cases h
      rw [hunit]
      simp [lt_addSeconds]
    next hunit =>
      split at h
      · cases h
      · cases h
        rw [hunit]
        simp [lt_addSeconds]
    · cases h

/-- **When a purchased subscription has a positive duration**: its days, hours or seconds, in nanoseconds of 64 bits, are a
second or more. Months and years are to end before the seconds of 64 bits do. -/
theorem purchased_duration_iff (e : Env) (hstart : |e.dbNow| ≤ 2 ^ 62) (userId : Int) (plan : SubscriptionPlan)
    (hfits : plan.EndsInTime e.location e.dbNow) (source : String) (st st' : Store) (sub : UserSubscription)
    (h : createUserSubscriptionFromPlanTx e userId plan source st = .ok (sub, st')) :
    sub.startTime < sub.endTime ↔ ∀ seconds ∈ plan.durationSeconds, 10 ^ 9 ≤ wrap64 (seconds * 10 ^ 9) := by
  unfold createUserSubscriptionFromPlanTx at h
  split at h
  · cases h
  next p hp =>
    have hrow : sub.startTime = p.now ∧ sub.endTime = p.endTime := by
      dsimp only at h
      split at h <;> cases h <;> exact ⟨rfl, rfl⟩
    rw [hrow.1, hrow.2]
    unfold preparePurchase at hp
    split_ifs at hp
    split at hp
    · cases hp
    next endTime hend =>
      cases hp
      exact calcPlanEndTime_later hstart hfits hend

/-- A plan of one month. -/
theorem purchased_duration_sample : ∃ sub st',
    createUserSubscriptionFromPlanTx (env 1500) 1 { plan with durationUnit := "month" } "order" store = .ok (sub, st') ∧
      sub.startTime < sub.endTime := by
  refine ⟨_, _, rfl, ?_⟩
  refine (purchased_duration_iff (env 1500) (by decide) 1 { plan with durationUnit := "month" } ?_ "order" store _ _ rfl).2
    nofun
  rintro _ ⟨⟩
  decide +kernel

/-- The administrator's requests for plans of 200000 days and of 300000000000 years are accepted, and the subscriptions end
before they start. -/
theorem purchased_duration_negative :
    backwardPlans.all fun plan => (checkPlanRequest admin 2 (planRequest plan)).map (·.toSubscriptionPlan) = .ok plan ∧
      ((createUserSubscriptionFromPlanTx (env 1500) 1 plan "order" store).toOption.map
        fun r => decide (r.1.startTime < r.1.endTime)) = some false := by
  decide +kernel

end SynthApi
