import SynthApi.Model.Subscription.Order
import SynthApi.Setting.GeneralSetting

/-!
# Top-up orders and their completions

A top-up order is completed by the callback of its payment provider or by an administrator: the order is read, checked,
marked as paid, and its quota is added to the user's wallet (`model/topup.go`, `service/mpay.go`, `service/xpay.go`,
`controller/topup.go`). The functions that do so have one shape, `Completion`: they differ in their checks, in the
quota, in whether they run in a transaction, and in whether the write of the order is guarded by its status.
-/

namespace SynthApi

open Lib Lib.Go

/-! ## Orders -/

structure TopUpRow extends TopUp where
  id : Int
  promotionQuota : Int
  deriving DecidableEq, Repr

structure TopUpSite where
  setting : GeneralSetting
  codec : Codec
  /-- The text about a callback with another amount. -/
  amountMismatch : ℚ → ℚ → String
  /-- What the integer column `quota` holds after `quota + x`; for an integer `x` the sum. -/
  storeQuota : Int → ℚ → Int
  storeQuota_int : ∀ quota n : Int, storeQuota quota n = quota + n

def quotaFromTopUpDisplayAmount (s : TopUpSite) (amount : Int) : Int := displayAmountToQuota s.setting amount

/-- `topUp.Money * common.QuotaPerUnit`, a product of `float64`. -/
def stripeQuota (s : TopUpSite) (t : TopUpRow) : ℚ := mul64 t.money s.setting.quotaPerUnit

/-- The quota that an administrator, or Alipay, adds for an order; the product for Stripe is one of decimals. -/
def quotaFromStoredTopUp (s : TopUpSite) (t : TopUpRow) : Int :=
  if t.paymentProvider = "stripe" then wrap64 (intPart (t.money * s.setting.quotaPerUnit))
  else if t.paymentProvider = "mpay" ∨ t.paymentProvider = "xpay" ∨ t.paymentProvider = "alipay_direct" then t.amount
  else quotaFromTopUpDisplayAmount s t.amount

/-! ## Completions -/

/-- Where a completion can fail. -/
inductive CompletionStage where
  | check
  | save
  /-- The quota cannot be computed. -/
  | quota
  | credit
  | clear
  | commit
  deriving DecidableEq, Repr

structure Completion where
  tradeNo : String
  /-- The error of arguments that are refused at once. -/
  refused : Option String
  /-- The answer if the order is not found; the argument is the error of the query, if it failed. -/
  notFound : Option String → Except String Unit
  /-- The answer that the checks of the order give; `none` if it is to be completed. -/
  verdict : TopUpRow → Option (Except String Unit)
  /-- The paid order, at a time. -/
  mark : Int → TopUpRow → TopUpRow
  credit : TopUpRow → Except String ℚ
  /-- The error for a user without a row, if the call looks for it. -/
  userMissing : Option String
  /-- The writes are in one transaction. -/
  atomic : Bool
  /-- The order is written by an UPDATE that requires that it is pending, instead of a Save of the copy. -/
  guarded : Bool
  /-- The answer after a guarded UPDATE has found no such order, from the order that is read then. -/
  conflict : Option TopUpRow → Except String Unit
  /-- The answer to an error. -/
  fails : CompletionStage → String → Except String Unit

def TopUpRow.markPaid (now : Int) (t : TopUpRow) : TopUpRow := { t with status := .success, completeTime := now }

/-- The checks that most completions make: the provider, the status and one of their own. A completion may accept an
order that is paid already. -/
def orderVerdict (provider : Option String) (repeatable : Bool) (statusText : String) (check : TopUpRow → Option String)
    (fails : String → Except String Unit) (t : TopUpRow) : Option (Except String Unit) :=
  if provider.isSome ∧ provider ≠ some t.paymentProvider then some (fails "payment method mismatch")
  else if t.status = .success ∧ repeatable = true then some (.ok ())
  else if t.status ≠ .pending then some (fails statusText)
  else (check t).map fails

/-- `decimal.NewFromFloat(money).Sub(callbackMoney).Abs() > 0.01` for a callback that names its money. -/
def moneyDiffers (money callbackMoney : ℚ) : Bool :=
  decide (0 < callbackMoney) && decide (1 / 100 < |money - callbackMoney|)

/-- An answer of the webhooks that hide their errors. -/
def rechargeFailed : Except String Unit := .error "充值失败，请稍后重试"

def positiveQuota (quota : Int) : Option String := if quota ≤ 0 then some "无效的充值额度" else none

section Completions

variable (s : TopUpSite)

/-- `Recharge`, the webhook of Stripe. -/
def recharge (referenceId : String) : Completion where
  tradeNo := referenceId
  refused := if referenceId = "" then some "未提供支付单号" else none
  notFound _ := rechargeFailed
  verdict := orderVerdict (some "stripe") false "充值订单状态错误" (fun _ => none) fun _ => rechargeFailed
  mark := TopUpRow.markPaid
  credit t := .ok (stripeQuota s t)
  userMissing := none
  atomic := true
  guarded := false
  conflict _ := rechargeFailed
  fails _ _ := rechargeFailed

def rechargeCreem (referenceId customerEmail : String) : Completion where
  tradeNo := referenceId
  refused := if referenceId = "" then some "未提供支付单号" else none
  notFound _ := rechargeFailed
  verdict := orderVerdict (some "creem") false "充值订单状态错误" (fun _ => none) fun _ => rechargeFailed
  mark := TopUpRow.markPaid
  credit t := .ok t.amount
  userMissing := if customerEmail ≠ "" then some "record not found" else none
  atomic := true
  guarded := false
  conflict _ := rechargeFailed
  fails _ _ := rechargeFailed

/-- The two Waffo webhooks, which differ in the provider only. -/
def rechargeWaffoLike (provider tradeNo : String) : Completion where
  tradeNo := tradeNo
  refused := if tradeNo = "" then some "未提供支付单号" else none
  notFound _ := rechargeFailed
  verdict := orderVerdict (some provider) true "充值订单状态错误"
    (fun t => positiveQuota (quotaFromTopUpDisplayAmount s t.amount)) fun _ => rechargeFailed
  mark := TopUpRow.markPaid
  credit t := .ok (quotaFromTopUpDisplayAmount s t.amount)
  userMissing := none
  atomic := true
  guarded := false
  conflict _ := rechargeFailed
  fails _ _ := rechargeFailed

variable (tradeNo : String)

def rechargeWaffo : Completion := rechargeWaffoLike s "waffo" tradeNo

def rechargeWaffoPancake : Completion := rechargeWaffoLike s "waffo_pancake" tradeNo

def confirmMPayOrder (callbackMoney : ℚ) : Completion where
  tradeNo := tradeNo
  refused := none
  notFound _ := .error ("order not found: " ++ tradeNo)
  verdict := orderVerdict (some "mpay") false "topup status invalid"
    (fun t => if moneyDiffers t.money callbackMoney then some (s.amountMismatch t.money callbackMoney) else none) .error
  mark := TopUpRow.markPaid
  -- the quota is looked at after the order has been saved
  credit t :=
    if t.promotionQuota < 0 then .error "promotion quota cannot be negative"
    else if t.amount + t.promotionQuota < 0 then .error "quota cannot be negative"
    else .ok ((t.amount + t.promotionQuota : Int) : ℚ)
  userMissing := none
  atomic := true
  guarded := false
  conflict _ := .error "topup status invalid"
  fails
    | .save, text => .error ("failed to update order: " ++ text)
    | .credit, text => .error ("failed to increase user quota: " ++ text)
    | .clear, text => .error ("failed to clear wallet low quota notify state: " ++ text)
    | _, text => .error text

/-- `ConfirmXPayOrder`, which has no transaction. -/
def confirmXPayOrder (callbackMoney : ℚ) : Completion where
  tradeNo := tradeNo
  refused := none
  notFound _ := .error ("order not found: " ++ tradeNo)
  verdict := orderVerdict (some "xpay") false "topup status invalid"
    (fun t => if moneyDiffers t.money callbackMoney then some (s.amountMismatch t.money callbackMoney) else none) .error
  mark := TopUpRow.markPaid
  credit t := if t.amount < 0 then .error "quota 不能为负数！" else .ok t.amount
  userMissing := none
  atomic := false
  guarded := false
  conflict _ := .error "topup status invalid"
  fails
    | .check, text => .error text
    | .save, text => .error ("failed to update order: " ++ text)
    | _, text => .error ("failed to increase user quota: " ++ text)

/-- The notification of Epay (`EpayNotify`), which answers before it completes the order and only logs errors. -/
def epayNotify (callbackType : String) : Completion where
  tradeNo := tradeNo
  refused := none
  notFound _ := .ok ()
  verdict := orderVerdict (some "epay") false "" (fun _ => none) fun _ => .ok ()
  mark _ t := { t with status := .success, paymentMethod := callbackType }
  credit t :=
    if quotaFromTopUpDisplayAmount s t.amount < 0 then .error "quota 不能为负数！"
    else .ok (quotaFromTopUpDisplayAmount s t.amount)
  userMissing := none
  atomic := false
  guarded := false
  conflict _ := .ok ()
  fails _ _ := .ok ()

def manualCompleteTopUp : Completion where
  tradeNo := tradeNo
  refused := if tradeNo = "" then some "未提供订单号" else none
  notFound _ := .error "充值订单不存在"
  verdict := orderVerdict none true "订单状态不是待支付，无法补单" (fun t => positiveQuota (quotaFromStoredTopUp s t)) .error
  mark := TopUpRow.markPaid
  credit t := .ok (quotaFromStoredTopUp s t)
  userMissing := none
  atomic := true
  guarded := false
  conflict _ := .error "订单状态不是待支付，无法补单"
  fails _ text := .error text

/-- The answer for an order of Alipay that is paid already. -/
def alipayPaid (providerTradeNo : String) (t : TopUpRow) : Except String Unit :=
  if t.providerTradeNo ≠ "" ∧ t.providerTradeNo ≠ providerTradeNo then .error "provider trade number mismatch" else .ok ()

/-- `CompleteAlipayDirectTopUp`, with `providerTradeNo` trimmed. -/
def completeAlipayDirectTopUp (tradeNo providerTradeNo paidMoney : String) : Completion where
  tradeNo := tradeNo
  refused := if tradeNo = "" ∨ providerTradeNo = "" then some "未提供订单号" else none
  notFound
    | none => .error "topup not found"
    | some err => .error err
  verdict t :=
    if t.paymentProvider ≠ "alipay_direct" then some (.error "payment method mismatch")
    else if ¬ paymentAmountMatches s.codec t.money paidMoney then some (.error "payment amount mismatch")
    else if t.currency ≠ "CNY" then some (.error "支付宝订单币种不是 CNY")
    else if t.status = .success then some (alipayPaid providerTradeNo t)
    else if t.status ≠ .pending then some (.error "topup status invalid")
    else (positiveQuota (quotaFromStoredTopUp s t)).map .error
  mark now t :=
    { t with
      providerTradeNo := providerTradeNo
      paymentMethod := "alipay"
      status := .success
      completeTime := now }
  credit t := .ok (quotaFromStoredTopUp s t)
  userMissing := some "充值用户不存在"
  atomic := true
  guarded := true
  conflict
    | none => .error "topup not found"
    | some t =>
      if t.paymentProvider ≠ "alipay_direct" then .error "payment method mismatch"
      else if ¬ paymentAmountMatches s.codec t.money paidMoney then .error "payment amount mismatch"
      else if t.status = .success then alipayPaid providerTradeNo t
      else .error "topup status invalid"
  fails _ text := .error text

end Completions

theorem orderVerdict_none {provider : Option String} {repeatable : Bool} {statusText : String}
    {check : TopUpRow → Option String} {fails : String → Except String Unit} {t : TopUpRow}
    (h : orderVerdict provider repeatable statusText check fails t = none) : t.status = .pending := by
  unfold orderVerdict at h
  split_ifs at h with hp hs hst
  exact not_not.1 hst

end SynthApi
