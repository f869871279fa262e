import Mathlib.Algebra.Order.BigOperators.GroupWithZero.List
import SynthApi.Service.TextQuota

/-!
# The counts behind the price of a text

By ratios the price is not negative, and the quota is at least 1 if there is a price and there are tokens, whatever the counts
say, as long as the price is an `int64` (`text_quota_sane`); beyond that it wraps (`text_quota_negative`).
-/

namespace SynthApi

open Lib Lib.Go

structure NonnegPrices (e : TextEnv) (r : TextRelay) : Prop where
  modelRatio : 0 ≤ r.priceData.modelRatio
  groupRatio : 0 ≤ r.priceData.groupRatio
  otherRatios : ∀ ratio ∈ r.priceData.otherRatios, 0 ≤ ratio
  quotaPerUnit : 0 ≤ e.quotaPerUnit
  surcharge : 0 ≤ calculateTextToolCallSurcharge e r

section Ratios

variable {e : TextEnv} {r : TextRelay} {usage : Option TextUsage}

theorem decimalDiv_nonneg {a b : ℚ} (ha : 0 ≤ a) (hb : 0 ≤ b) : 0 ≤ decimalDiv a b := by
  have hround : 0 ≤ round0 (a / b * 10 ^ 16) := round0_nonneg (by positivity)
  unfold decimalDiv
  positivity

/-- Without a ratio only the tools and the audio have a price. -/
theorem ratioQuota_nonneg (h : NonnegPrices e r) (separate : Bool) {t : TextTokens} (haudio : 0 ≤ t.audioTokens)
    (contextTokens : Int) : 0 ≤ ratioQuota e r separate t contextTokens (calculateTextToolCallSurcharge e r) := by
  by_cases hratio : r.priceData.modelRatio * r.priceData.groupRatio = 0
  · simp only [ratioQuota, hratio, mul_zero, zero_add]
    refine mul_nonneg (add_nonneg h.surcharge ?_) (List.prod_nonneg h.otherRatios)
    generalize (if t.audioTokens ≠ 0 then e.geminiInputAudioPricePerMillionTokens r.originModelName else 0) = price
    split_ifs with hprice
    · have haudio' : (0 : ℚ) ≤ t.audioTokens := by exact_mod_cast haudio
      exact mul_nonneg (mul_nonneg (mul_nonneg (decimalDiv_nonneg hprice.le (by norm_num)) haudio') h.groupRatio)
        h.quotaPerUnit
    · exact le_rfl
  · obtain ⟨quota, hquota⟩ : ∃ quota, ratioQuota e r separate t contextTokens (calculateTextToolCallSurcharge e r) =
        if r.priceData.modelRatio * r.priceData.groupRatio ≠ 0 ∧ quota ≤ 0 then 1 else quota := ⟨_, rfl⟩
    rw [hquota]
    split_ifs with hneg
    · exact zero_le_one
    · exact (not_le.1 fun hle => hneg ⟨hratio, hle⟩).le

/-- **The quota by ratios is not negative, and at least 1 if the ratio is positive and there are tokens, if and only if there
are no tokens or the price is no negative `int64`**, whatever the counts say. The price itself is not negative. -/
theorem text_quota_sane (e : TextEnv) (r : TextRelay) (usage : Option TextUsage) (h : NonnegPrices e r)
    (hratio : r.priceData.usePrice = false) (haudio : ∀ u, usage = some u → 0 ≤ u.promptTokensDetails.audioTokens) :
    0 ≤ ratioPrice e r usage ∧
    ((0 ≤ (calculateTextQuotaSummary e r usage).quota ∧
      (0 < r.priceData.modelRatio * r.priceData.groupRatio → r.totalTokens usage ≠ 0 →
        1 ≤ (calculateTextQuotaSummary e r usage).quota)) ↔
      r.totalTokens usage = 0 ∨ round0 (ratioPrice e r usage) % 2 ^ 64 < 2 ^ 63) := by
  have haudio' : 0 ≤ (chargedTokens e r usage).audioTokens := by
    have htokens : (chargedTokens e r usage).audioTokens = (usage.getD r.estimatedUsage).promptTokensDetails.audioTokens := by
      simp only [chargedTokens, openRouterTokens]
      split_ifs <;> rfl
    rw [htokens]
    cases usage with
    | none => exact le_rfl
    | some u => exact haudio u rfl
  refine ⟨ratioQuota_nonneg h _ haudio' _, ?_⟩
  have hquota : (calculateTextQuotaSummary e r usage).quota =
      if r.totalTokens usage = 0 then 0
      else if r.priceData.modelRatio * r.priceData.groupRatio ≠ 0 ∧ roundInt (ratioPrice e r usage) = 0 then 1
      else roundInt (ratioPrice e r usage) := by
    rw [← summary_totalTokens e]
    simp only [calculateTextQuotaSummary, hratio, Bool.false_eq_true]
    rfl
  have hsign : 0 ≤ roundInt (ratioPrice e r usage) ↔ round0 (ratioPrice e r usage) % 2 ^ 64 < 2 ^ 63 := by
    unfold roundInt wrap64
    omega
  rw [hquota, ← hsign]
  by_cases htokens : r.totalTokens usage = 0
  · simp [htokens]
  rw [if_neg htokens]
  split_ifs with hzero
  · simp [hzero.2]
  · constructor
    · exact fun hsane => .inr hsane.1
    · rintro (hnone | hnonneg)
      · exact absurd hnone htokens
      · exact ⟨hnonneg, fun hpos _ => lt_of_le_of_ne hnonneg fun heq => hzero ⟨hpos.ne', heq.symm⟩⟩

open Sample

/-- More of the prompt was read from the cache than there was. -/
theorem text_quota_sane_sample : 1 ≤ (calculateTextQuotaSummary textEnv textRelay (some (cachedUsage 1))).quota :=
  ((text_quota_sane textEnv textRelay (some (cachedUsage 1))
    ⟨by decide +kernel, by decide +kernel, nofun, by decide +kernel, by decide +kernel⟩ rfl
    (by decide)).2.2 (.inr (by decide +kernel))).2 (by decide +kernel) (by decide)

/-- Ten tokens at the ratio `10 ^ 18`. -/
theorem text_quota_negative :
    (calculateTextQuotaSummary textEnv
      { textRelay with priceData := ⟨⟨0, 10 ^ 18, 1, false⟩, 1, 1, 1, 1, 1, 1, []⟩, tieredBillingSnapshot := none }
      (some { TextUsage.empty with promptTokens := 10 })).quota = 10 ^ 19 - 2 ^ 64 := by
  decide +kernel

end Ratios

end SynthApi
