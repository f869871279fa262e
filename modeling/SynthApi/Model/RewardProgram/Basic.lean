import SynthApi.Model.TopUp.Basic

/-!
# What the reward programs count

Both programs of `model/reward_program.go` look at successful orders that were paid in CNY (`isEligibleCNYTopUp`) and
pay in quota (`cnyToQuota`).
-/

namespace SynthApi

open Lib.Go

structure PaymentRefundReview where
  userId : Int
  localTradeNo : String
  currency : String
  refundAmount : ℚ
  deriving DecidableEq, Repr

/-- The order was paid, in CNY and by a payment provider. -/
def isEligibleCNYTopUp (t : TopUpRow) : Bool :=
  decide (t.status = .success) && decide (0 < t.money) &&
    (if toUpper (trimSpace t.currency) = "CNY" then
      decide (t.paymentProvider ≠ "balance" ∧ t.paymentProvider ≠ "redemption")
    else if toUpper (trimSpace t.currency) ≠ "" then false
    else decide (t.paymentProvider ∈ ["epay", "mpay", "xpay", "alipay_direct"]))

def cnyToQuota (s : GeneralSetting) (amount : ℚ) : Int :=
  if amount ≤ 0 ∨ s.usdExchangeRate ≤ 0 ∨ s.quotaPerUnit ≤ 0 then 0
  else round0 (decimalDiv amount s.usdExchangeRate * s.quotaPerUnit)

end SynthApi
