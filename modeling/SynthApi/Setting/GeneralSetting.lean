import SynthApi.Lib.Float64

/-!
# Amounts of money as quota

`DisplayAmountToUSD` and `DisplayAmountToQuota` (`setting/operation_setting/general_setting.go`): the quota for an
amount in the display currency of the site, with the rounding of `float64`. Amounts and settings are the decimals that name
their values.

For fixed settings a larger amount gives no less quota (`displayAmountToQuota_mono`), and no amount gives a negative
one.
-/

namespace SynthApi

open Lib Lib.Go

/-- `QuotaDisplayType`; any other text counts like USD. -/
inductive QuotaDisplayType where
  | usd
  | cny
  | tokens
  | custom
  | other
  deriving DecidableEq, Repr

/-- The settings that the conversion reads. -/
structure GeneralSetting where
  quotaDisplayType : QuotaDisplayType
  customCurrencyExchangeRate : ℚ
  usdExchangeRate : ℚ
  quotaPerUnit : ℚ
  deriving DecidableEq, Repr

def displayAmountToUSD (s : GeneralSetting) (amount : ℚ) : ℚ :=
  if amount ≤ 0 then 0
  else
    match s.quotaDisplayType with
    | .cny => if s.usdExchangeRate ≤ 0 then 0 else div64 amount s.usdExchangeRate
    | .custom => div64 amount (if s.customCurrencyExchangeRate ≤ 0 then 1 else s.customCurrencyExchangeRate)
    | .tokens => if s.quotaPerUnit ≤ 0 then 0 else div64 amount s.quotaPerUnit
    | .usd | .other => amount

def displayAmountToQuota (s : GeneralSetting) (amount : ℚ) : Int :=
  if amount ≤ 0 then 0
  else if s.quotaDisplayType = .tokens then round0 (round64 amount)
  else if s.quotaPerUnit ≤ 0 then 0
  else round0 (mul64 (displayAmountToUSD s amount) s.quotaPerUnit)

section Conversion

variable (s : GeneralSetting) {amount amount' : ℚ}

theorem displayAmountToUSD_nonneg (amount : ℚ) : 0 ≤ displayAmountToUSD s amount := by
  by_cases h : amount ≤ 0
  · rw [displayAmountToUSD, if_pos h]
  have hpos := (not_le.1 h).le
  rw [displayAmountToUSD, if_neg h]
  cases s.quotaDisplayType with
  | cny | tokens =>
    dsimp only
    split_ifs with hrate
    · exact le_rfl
    · exact div64_nonneg hpos (not_le.1 hrate).le
  | custom =>
    refine div64_nonneg hpos ?_
    split_ifs with hrate
    · exact zero_le_one
    · exact (not_le.1 hrate).le
  | usd | other => exact hpos

theorem displayAmountToUSD_mono (h : amount ≤ amount') : displayAmountToUSD s amount ≤ displayAmountToUSD s amount' := by
  by_cases hle : amount ≤ 0
  · rw [displayAmountToUSD, if_pos hle]
    exact displayAmountToUSD_nonneg s amount'
  have hpos := (not_le.1 hle).le
  rw [displayAmountToUSD, displayAmountToUSD, if_neg hle, if_neg fun hle' => hle (h.trans hle')]
  cases s.quotaDisplayType with
  | cny | tokens =>
    dsimp only
    split_ifs with hrate
    · exact le_rfl
    · exact div64_mono hpos (not_le.1 hrate).le h
  | custom =>
    refine div64_mono hpos ?_ h
    split_ifs with hrate
    · exact zero_le_one
    · exact (not_le.1 hrate).le
  | usd | other => exact h

theorem displayAmountToQuota_nonpos (h : amount ≤ 0) : displayAmountToQuota s amount = 0 := if_pos h

theorem displayAmountToQuota_nonneg (amount : ℚ) : 0 ≤ displayAmountToQuota s amount := by
  unfold displayAmountToQuota
  split_ifs with h _ hunit
  · exact le_rfl
  · exact round0_nonneg (round64_nonneg (not_le.1 h).le)
  · exact le_rfl
  · exact round0_nonneg (mul64_nonneg (displayAmountToUSD_nonneg s amount) (not_le.1 hunit).le)

/-- **A larger amount gives no less quota.** -/
theorem displayAmountToQuota_mono (h : amount ≤ amount') : displayAmountToQuota s amount ≤ displayAmountToQuota s amount' := by
  by_cases hle : amount ≤ 0
  · rw [displayAmountToQuota_nonpos s hle]
    exact displayAmountToQuota_nonneg s amount'
  rw [displayAmountToQuota, displayAmountToQuota, if_neg hle, if_neg fun hle' => hle (h.trans hle')]
  split_ifs with _ hunit
  · exact round0_mono (round64_mono (not_le.1 hle).le h)
  · exact le_rfl
  · exact round0_mono (mul64_mono (displayAmountToUSD_nonneg s amount) (not_le.1 hunit).le (displayAmountToUSD_mono s h))

end Conversion

end SynthApi
