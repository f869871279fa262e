import SynthApi.Model.TopUp.Statements

/-!
# Completion by an administrator and by the provider

`ManualCompleteTopUp` computes the quota of an order with one function for all providers, `quotaFromStoredTopUp`. The
completions of the providers have their own formulas. Here a call runs alone and without failures from its first
statement to its end (`completeTopUp`); it adds the quota that `Completion.quotaFor` gives (`completeTopUp_ends`). So
the two ways can be compared by their quotas: `manual_agrees_iff` says for which orders they add the same.
-/

namespace SynthApi

open Lib Lib.Go Completion TopUpSite

/-! ## A call that runs alone -/

/-- The next statement of a call; nothing fails. -/
def topUpNext (s : TopUpSite) (now : Int) (p : TopUpPlace × TopUpDb) : TopUpPlace × TopUpDb :=
  topUpStep s p.1 ⟨now, none⟩ p.2

/-- A call from its first statement to its end; it has at most five statements. -/
def completeTopUp (s : TopUpSite) (now : Int) (c : Completion) (db : TopUpDb) : TopUpPlace × TopUpDb :=
  (topUpNext s now)^[5] (.start c, db)

/-- The quota that a call adds for an order, if it adds any. -/
def Completion.quotaFor (c : Completion) (o : TopUpRow) : Option ℚ :=
  if c.refused = none ∧ c.verdict o = none then (c.credit o).toOption else none

def Store.walletWith (s : TopUpSite) (st : Store) (uid : Int) : Option ℚ → Int
  | none => st.wallet uid
  | some x => (st.creditUser s uid x).wallet uid

structure KeepsOrder (c : Completion) (o : TopUpRow) : Prop where
  tradeNo_eq : c.tradeNo = o.tradeNo
  userId_eq : ∀ now, (c.mark now o).userId = o.userId
  credit_eq : ∀ now, c.credit (c.mark now o) = c.credit o
  claimable : c.verdict o = none → c.guarded = true → o.claimable o = true

section Alone

variable {s : TopUpSite} {now : Int} {c : Completion} {t o : TopUpRow} {x : ℚ} {db : TopUpDb} {n : Nat}
  {result : Except String Unit}

/-- After `n` statements the call has ended, and the user has the wallet. -/
def EndsWith (s : TopUpSite) (now : Int) (n : Nat) (p : TopUpPlace × TopUpDb) (uid wallet : Int) : Prop :=
  ∃ result, ((topUpNext s now)^[n] p).1 = .done result ∧ ((topUpNext s now)^[n] p).2.store.wallet uid = wallet

theorem endsWith_done {uid : Int} :
    EndsWith s now n (.done result, db) uid (db.store.wallet uid) := by
  have hfixed : (topUpNext s now)^[n] (.done result, db) = (.done result, db) := Function.iterate_fixed rfl n
  exact ⟨result, by rw [hfixed], by rw [hfixed]⟩

theorem EndsWith.step {p : TopUpPlace × TopUpDb} {uid wallet : Int}
    (h : EndsWith s now n (topUpNext s now p) uid wallet) : EndsWith s now (n + 1) p uid wallet := by
  exact h

theorem endsWith_commit :
    EndsWith s now 1 (.toCommit c t x, db) t.userId (db.store.walletWith s t.userId (some x)) := by
  have hpaid : (db.writePaid c t).store = db.store := by unfold TopUpDb.writePaid; split <;> rfl
  have hstore : (((db.writePaid c t).credit s t.userId x).release c t).store = db.store.creditUser s t.userId x := by
    rw [TopUpDb.release_store, TopUpDb.credit, hpaid]
  refine EndsWith.step ?_
  rw [Store.walletWith, ← hstore]
  exact endsWith_done

/-- A user who is not there has the same wallet with and without the quota, so it does not matter that the transaction
is rolled back then. -/
theorem endsWith_rollback {quota : Option ℚ}
    (h : quota ≠ none → ¬ db.store.HasUser t.userId) :
    EndsWith s now n (.done result, db.release c t) t.userId (db.store.walletWith s t.userId quota) := by
  have hdone : EndsWith s now n (.done result, db.release c t) t.userId (db.store.wallet t.userId) := by
    rw [← TopUpDb.release_store db t c]
    exact endsWith_done
  cases quota with
  | none => exact hdone
  | some x =>
    have hnone := Store.creditUser_wallet_none s (h (by simp)) x
    rw [Store.walletWith, hnone]
    exact hdone

theorem endsWith_clear :
    EndsWith s now 2 (.toClear c t x, db) t.userId (db.store.walletWith s t.userId (some x)) := by
  refine EndsWith.step ?_
  simp only [topUpNext, topUpStep]
  split
  · rename_i hmissing
    exact endsWith_rollback fun _ => hmissing.2
  · exact endsWith_commit

theorem endsWith_credit :
    EndsWith s now 3 (.toCredit c t, db) t.userId (db.store.walletWith s t.userId (c.credit t).toOption) := by
  refine EndsWith.step ?_
  simp only [topUpNext, topUpStep, creditStep]
  cases c.credit t with
  | error => exact endsWith_rollback fun h => absurd rfl h
  | ok x =>
    dsimp only
    split
    · rename_i hmissing
      exact endsWith_rollback fun _ => by simpa using hmissing
    · split
      · exact endsWith_clear
      · exact endsWith_done

theorem endsWith_save (hfree : db.locked o.tradeNo = false) (hfound : db.topUps o.tradeNo = some o)
    (hkeeps : KeepsOrder c o) (hverdict : c.verdict o = none) :
    EndsWith s now 4 (.toSave c o, db) o.userId (db.store.walletWith s o.userId (c.credit o).toOption) := by
  refine EndsWith.step ?_
  have hclaim : (c.guarded && !(db.topUps o.tradeNo).any o.claimable) = false := by
    cases hguarded : c.guarded with
    | false => rfl
    | true => simp [hfound, hkeeps.claimable hverdict hguarded]
  simp only [topUpNext, topUpStep, saveStep]
  rw [hfree, hclaim, if_neg Bool.false_ne_true, if_neg Bool.false_ne_true, ← hkeeps.userId_eq now, ← hkeeps.credit_eq now]
  split
  · exact endsWith_credit
  · exact endsWith_credit

/-- **A call that runs alone ends, and the user has the quota that the call adds for the order.** -/
theorem completeTopUp_ends (hfree : db.locked o.tradeNo = false) (hfound : db.topUps o.tradeNo = some o)
    (hkeeps : KeepsOrder c o) :
    EndsWith s now 5 (.start c, db) o.userId (db.store.walletWith s o.userId (c.quotaFor o)) := by
  refine EndsWith.step ?_
  simp only [topUpNext, topUpStep, quotaFor]
  cases hrefused : c.refused with
  | some err => exact endsWith_done
  | none =>
    simp only [Option.isSome_none, Bool.false_eq_true, hkeeps.tradeNo_eq, hfound, afterTopUpRead, if_false]
    cases hverdict : c.verdict o with
    | some answer => exact endsWith_done
    | none => exact endsWith_save hfree hfound hkeeps hverdict

end Alone

/-! ## What the completions add -/

def TopUpSite.quotaGain (s : TopUpSite) (quota : Int) : Option ℚ → Int
  | none => 0
  | some x => s.storeQuota quota x - quota

/-- The completion of an order by its own provider, with a callback that is valid for the order. -/
inductive ProviderCompletion (s : TopUpSite) (o : TopUpRow) : Completion → Prop where
  | stripe (h : o.paymentProvider = "stripe") : ProviderCompletion s o (recharge s o.tradeNo)
  | creem (h : o.paymentProvider = "creem") (customerEmail : String) :
      ProviderCompletion s o (rechargeCreem o.tradeNo customerEmail)
  | waffo (h : o.paymentProvider = "waffo") : ProviderCompletion s o (rechargeWaffo s o.tradeNo)
  | waffoPancake (h : o.paymentProvider = "waffo_pancake") : ProviderCompletion s o (rechargeWaffoPancake s o.tradeNo)
  | mpay (h : o.paymentProvider = "mpay") (callbackMoney : ℚ) (hm : moneyDiffers o.money callbackMoney = false) :
      ProviderCompletion s o (confirmMPayOrder s o.tradeNo callbackMoney)
  | xpay (h : o.paymentProvider = "xpay") (callbackMoney : ℚ) (hm : moneyDiffers o.money callbackMoney = false) :
      ProviderCompletion s o (confirmXPayOrder s o.tradeNo callbackMoney)
  | epay (h : o.paymentProvider = "epay") (callbackType : String) :
      ProviderCompletion s o (epayNotify s o.tradeNo callbackType)
  | alipay (h : o.paymentProvider = "alipay_direct") (providerTradeNo paidMoney : String) (hp : providerTradeNo ≠ "")
      (hm : paymentAmountMatches s.codec o.money paidMoney = true) :
      ProviderCompletion s o (completeAlipayDirectTopUp s o.tradeNo providerTradeNo paidMoney)

/-- The quota of an order by the formula of its provider, for a user whose column has `quota`. -/
def providerGain (s : TopUpSite) (o : TopUpRow) (quota : Int) : Int :=
  if o.paymentProvider = "stripe" then s.storeQuota quota (stripeQuota s o) - quota
  else if o.paymentProvider = "creem" then o.amount
  else if o.paymentProvider = "mpay" then
    if o.promotionQuota < 0 ∨ o.amount + o.promotionQuota < 0 then 0 else o.amount + o.promotionQuota
  else if o.paymentProvider = "xpay" then max o.amount 0
  else if o.paymentProvider = "alipay_direct" then if o.currency = "CNY" then max o.amount 0 else 0
  else quotaFromTopUpDisplayAmount s o.amount

/-- Stripe adds a whole quota: what the column holds after another sum is up to the database. -/
def WholeQuota (s : TopUpSite) (o : TopUpRow) : Prop :=
  o.paymentProvider = "stripe" → ∃ n : Int, stripeQuota s o = n

/-- The orders for which an administrator adds what the provider would. -/
def ManualAgrees (s : TopUpSite) (o : TopUpRow) : Prop :=
  if o.paymentProvider = "stripe" then
    -- the product of `float64` is the one of decimals, without its fraction
    stripeQuota s o = max (wrap64 (intPart (o.money * s.setting.quotaPerUnit))) 0
  else if o.paymentProvider = "creem" then quotaFromTopUpDisplayAmount s o.amount = o.amount
  else if o.paymentProvider = "mpay" then
    o.promotionQuota = 0 ∨ o.promotionQuota < 0 ∧ o.amount ≤ 0 ∨ 0 < o.promotionQuota ∧ o.amount + o.promotionQuota ≤ 0
  else if o.paymentProvider = "alipay_direct" then o.currency = "CNY" ∨ o.amount ≤ 0
  else True

section Gains

variable {s : TopUpSite} {o : TopUpRow} {quota : Int}

@[simp] theorem quotaGain_int (n : Int) : s.quotaGain quota (some (n : ℚ)) = n := by
  rw [quotaGain, s.storeQuota_int]
  omega

variable {st : Store} {uid : Int} {call : Completion} {callbackMoney : ℚ}

theorem walletWith_of_lookup {u : User} (hu : Table.lookup User.id uid st.users = some u)
    (x : Option ℚ) : st.walletWith s uid x = st.wallet uid + s.quotaGain u.quota x := by
  cases x with
  | none => simp [Store.walletWith, quotaGain]
  | some x => exact Store.creditUser_wallet_some s hu x

theorem walletWith_of_no_user (h : ¬ st.HasUser uid) (x : Option ℚ) :
    st.walletWith s uid x = st.wallet uid := by
  cases x with
  | none => rfl
  | some x => exact Store.creditUser_wallet_none s h x

/-- Two quotas give the user the same wallet if the column gains the same from both. -/
theorem walletWith_eq_iff {x y : Option ℚ} :
    st.walletWith s uid x = st.walletWith s uid y ↔
      ∀ u, Table.lookup User.id uid st.users = some u → s.quotaGain u.quota x = s.quotaGain u.quota y := by
  cases hu : Table.lookup User.id uid st.users with
  | none =>
    have hno : ¬ st.HasUser uid := by simp [Store.HasUser, hu]
    simp [walletWith_of_no_user hno]
  | some u => simp [walletWith_of_lookup hu]

/-- The two formulas agree just on the orders of `ManualAgrees`. -/
theorem gains_eq_iff (hwhole : WholeQuota s o) (h : ProviderCompletion s o call) :
    max (quotaFromStoredTopUp s o) 0 = providerGain s o quota ↔ ManualAgrees s o := by
  have hnonneg := displayAmountToQuota_nonneg s.setting o.amount
  cases h with
  | stripe h =>
    obtain ⟨n, hn⟩ := hwhole h
    simp only [providerGain, ManualAgrees, quotaFromStoredTopUp, h, if_true, hn, s.storeQuota_int, add_sub_cancel_left]
    norm_cast
    exact eq_comm
  | creem h =>
    simp only [providerGain, ManualAgrees, quotaFromStoredTopUp, quotaFromTopUpDisplayAmount, h, String.reduceEq, if_true,
      if_false, or_self, max_eq_left hnonneg]
  | mpay h =>
    simp only [providerGain, ManualAgrees, quotaFromStoredTopUp, h, String.reduceEq, if_true, if_false, true_or]
    split <;> constructor <;> intro heq <;> omega
  | xpay h => simp [providerGain, ManualAgrees, quotaFromStoredTopUp, h]
  | alipay h =>
    simp only [providerGain, ManualAgrees, quotaFromStoredTopUp, h, String.reduceEq, if_true, if_false, or_true]
    split
    · rename_i hc
      simp [hc]
    · rename_i hc
      simp [hc]
  | waffo h | waffoPancake h | epay h =>
    simp [providerGain, ManualAgrees, quotaFromStoredTopUp, quotaFromTopUpDisplayAmount, h, hnonneg]

variable (hs : o.status = .pending) {provider : String}

include hs

theorem orderVerdict_pending {repeatable : Bool} {statusText : String}
    {check : TopUpRow → Option String} {fails : String → Except String Unit} (hp : o.paymentProvider = provider) :
    orderVerdict provider repeatable statusText check fails o = (check o).map fails := by
  simp [orderVerdict, hs, hp]

theorem ProviderCompletion.keepsOrder (h : ProviderCompletion s o call) : KeepsOrder call o := by
  cases h with
  | alipay h =>
    refine ⟨rfl, fun _ => rfl, fun _ => rfl, fun _ _ => ?_⟩
    simp [TopUpRow.claimable, h, hs]
  | _ => exact ⟨rfl, fun _ => rfl, fun _ => rfl, nofun⟩

/-- **An administrator adds the quota of `quotaFromStoredTopUp`**, if it is positive. -/
theorem manual_gain (hno : o.tradeNo ≠ "") :
    s.quotaGain quota ((manualCompleteTopUp s o.tradeNo).quotaFor o) = max (quotaFromStoredTopUp s o) 0 := by
  simp only [quotaFor, manualCompleteTopUp, hno, orderVerdict, hs, positiveQuota]
  by_cases hq : quotaFromStoredTopUp s o ≤ 0
  · simp [hq, quotaGain]
  · simp [hq, Except.toOption, max_eq_left (le_of_lt (not_le.1 hq))]

theorem waffo_gain (h : o.paymentProvider = provider)
    (hno : o.tradeNo ≠ "") :
    s.quotaGain quota ((rechargeWaffoLike s provider o.tradeNo).quotaFor o) = quotaFromTopUpDisplayAmount s o.amount := by
  have hnonneg : 0 ≤ quotaFromTopUpDisplayAmount s o.amount := displayAmountToQuota_nonneg s.setting o.amount
  simp only [quotaFor, rechargeWaffoLike, hno, orderVerdict_pending hs h,
    positiveQuota]
  by_cases hq : quotaFromTopUpDisplayAmount s o.amount ≤ 0
  · simp [quotaGain, le_antisymm hq hnonneg]
  · simp [hq, Except.toOption]

theorem mpay_gain (h : o.paymentProvider = "mpay")
    (hm : moneyDiffers o.money callbackMoney = false) :
    s.quotaGain quota ((confirmMPayOrder s o.tradeNo callbackMoney).quotaFor o) =
      if o.promotionQuota < 0 ∨ o.amount + o.promotionQuota < 0 then 0 else o.amount + o.promotionQuota := by
  simp only [quotaFor, confirmMPayOrder, orderVerdict_pending hs h, hm]
  by_cases hp : o.promotionQuota < 0
  · simp [hp, Except.toOption, quotaGain]
  · by_cases hq : o.amount + o.promotionQuota < 0
    · simp [hp, hq, Except.toOption, quotaGain]
    · simp only [hp, hq]
      exact quotaGain_int _

theorem xpay_gain (h : o.paymentProvider = "xpay")
    (hm : moneyDiffers o.money callbackMoney = false) :
    s.quotaGain quota ((confirmXPayOrder s o.tradeNo callbackMoney).quotaFor o) = max o.amount 0 := by
  simp only [quotaFor, confirmXPayOrder, orderVerdict_pending hs h, hm]
  by_cases hq : o.amount < 0
  · simp [hq, Except.toOption, quotaGain, max_eq_right (le_of_lt hq)]
  · simp [hq, Except.toOption, max_eq_left (not_lt.1 hq)]

theorem epay_gain (h : o.paymentProvider = "epay") (callbackType : String) :
    s.quotaGain quota ((epayNotify s o.tradeNo callbackType).quotaFor o) = quotaFromTopUpDisplayAmount s o.amount := by
  have hnonneg : ¬ quotaFromTopUpDisplayAmount s o.amount < 0 := not_lt.2 (displayAmountToQuota_nonneg s.setting o.amount)
  simp [quotaFor, epayNotify, orderVerdict_pending hs h, hnonneg, Except.toOption]

theorem alipay_gain (h : o.paymentProvider = "alipay_direct") (hno : o.tradeNo ≠ "")
    {providerTradeNo paidMoney : String} (hp : providerTradeNo ≠ "")
    (hm : paymentAmountMatches s.codec o.money paidMoney) :
    s.quotaGain quota ((completeAlipayDirectTopUp s o.tradeNo providerTradeNo paidMoney).quotaFor o) =
      if o.currency = "CNY" then max o.amount 0 else 0 := by
  have hquota : quotaFromStoredTopUp s o = o.amount := by simp [quotaFromStoredTopUp, h]
  by_cases hc : o.currency = "CNY"
  · by_cases hq : o.amount ≤ 0
    · simp [quotaFor, completeAlipayDirectTopUp, h, hs, hm, hc, hquota, positiveQuota, hq,
        quotaGain]
    · simp [quotaFor, completeAlipayDirectTopUp, h, hs, hno, hp, hm, hc, hquota, positiveQuota, hq,
        Except.toOption, max_eq_left (le_of_lt (not_le.1 hq))]
  · simp [quotaFor, completeAlipayDirectTopUp, h, hm, hc, quotaGain]

/-- **The provider adds the quota of its own formula.** -/
theorem ProviderCompletion.gain (h : ProviderCompletion s o call)
    (hno : o.tradeNo ≠ "") : s.quotaGain quota (call.quotaFor o) = providerGain s o quota := by
  cases h with
  | stripe h =>
    simp [quotaFor, recharge, orderVerdict_pending hs h, hno, providerGain, h,
      Except.toOption, quotaGain]
  | creem h =>
    simp [quotaFor, rechargeCreem, orderVerdict_pending hs h, hno, providerGain, h,
      Except.toOption]
  | waffo h => simpa [providerGain, rechargeWaffo, h] using waffo_gain hs h hno
  | waffoPancake h => simpa [providerGain, rechargeWaffoPancake, h] using waffo_gain hs h hno
  | mpay h _ hm => simpa [providerGain, h] using mpay_gain hs h hm
  | xpay h _ hm => simpa [providerGain, h] using xpay_gain hs h hm
  | epay h => simpa [providerGain, h] using epay_gain hs h _
  | alipay h _ _ hp hm => simpa [providerGain, h] using alipay_gain hs h hno hp hm

end Gains

namespace Sample

/-- The sample site, with dollars as the display currency. -/
def dollarSite : TopUpSite := { topUpSite with setting := ⟨.usd, 1, 7, 500000⟩ }

end Sample

open Sample

end SynthApi
