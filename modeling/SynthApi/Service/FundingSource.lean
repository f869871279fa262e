import SynthApi.Model.Subscription.Consume

/-!
# Funding sources

`service/funding_source.go`: a request is paid from the user's wallet or from a subscription. `FundingSource` is the Go
interface with its two implementations; its methods dispatch on them.

`PreConsumeTokenQuota` and `PostConsumeQuota` of `service/quota.go` are here as well: they move the quota of the token
beside that of the funding source. The `RelayInfo` has the fields that billing reads and writes.
-/

namespace SynthApi

open Lib Lib.Go

inductive BillingSource where
  | wallet
  | subscription
  deriving DecidableEq, Repr

/-- The request, as billing sees it. -/
structure RelayInfo where
  userId : Int
  tokenId : Int
  tokenKey : String
  tokenUnlimited : Bool
  isPlayground : Bool
  forcePreConsume : Bool
  requestId : String
  /-- `UserSetting.BillingPreference` -/
  billingPreference : String
  userQuota : Int
  finalPreConsumedQuota : Int
  billingSource : Option BillingSource
  subscriptionId : Int
  subscriptionPreConsumed : Int
  subscriptionPostDelta : Int
  subscriptionAmountTotal : Int
  subscriptionAmountUsedAfterPreConsume : Int
  subscriptionBillingDiscount : ℚ
  deriving DecidableEq, Repr

/-- Whom a request charges. -/
structure Account where
  userId : Int
  tokenId : Int
  isPlayground : Bool
  deriving DecidableEq, Repr

def RelayInfo.account (info : RelayInfo) : Account := ⟨info.userId, info.tokenId, info.isPlayground⟩

/-- The store after the token is charged `quota`. A playground request has no token. -/
def Account.takeToken (a : Account) (quota : Int) (st : Store) : Store :=
  if a.isPlayground then st else st.addToken a.tokenId (-quota)

/-! ## The wallet -/

structure WalletFunding where
  userId : Int
  /-- What was taken from the user's quota. -/
  consumed : Int
  deriving DecidableEq, Repr

namespace WalletFunding

variable (e : Env) (w : WalletFunding)

def preConsume (amount : Int) (st : Store) : Except String WalletFunding × Store :=
  if amount ≤ 0 then (.ok w, st)
  else
    match decreaseUserQuota e st w.userId amount with
    | (.error err, st) => (.error err, st)
    | (.ok (), st) => (.ok { w with consumed := amount }, st)

def settle (delta : Int) (st : Store) : Except String Unit × Store :=
  if delta = 0 then (.ok (), st)
  else if 0 < delta then decreaseUserQuota e st w.userId delta
  else increaseUserQuota e st w.userId (-delta)

/-- The refund is no transaction and must not be retried. -/
def refund (st : Store) : Except String Unit × Store :=
  if w.consumed ≤ 0 then (.ok (), st) else increaseUserQuota e st w.userId w.consumed

/-- The pre-consumption takes the amount and notes it, or fails and takes nothing. -/
theorem preConsume_cases (amount : Int) (st : Store) :
    (amount ≤ 0 ∧ w.preConsume e amount st = (.ok w, st)) ∨
    (0 < amount ∧ w.preConsume e amount st = (.ok { w with consumed := amount }, st.addWallet w.userId (-amount))) ∨
    ∃ err, w.preConsume e amount st = (.error err, st) := by
  unfold preConsume decreaseUserQuota
  split
  · rename_i ha
    exact .inl ⟨ha, rfl⟩
  · rcases changeUserQuota_cases e .decreaseUserQuota (-amount) st w.userId amount with ⟨_, h⟩ | ⟨err, h⟩
    · rw [h]
      exact .inr (.inl ⟨by omega, rfl⟩)
    · rw [h]
      exact .inr (.inr ⟨err, rfl⟩)

theorem settle_cases {delta : Int} (hd : delta ≠ 0) (st : Store) :
    w.settle e delta st = (.ok (), st.addWallet w.userId (-delta)) ∨ ∃ err, w.settle e delta st = (.error err, st) := by
  unfold settle
  rw [if_neg hd]
  split
  · rcases changeUserQuota_cases e .decreaseUserQuota (-delta) st w.userId delta with ⟨-, h⟩ | h
    · exact .inl h
    · exact .inr h
  · rcases changeUserQuota_cases e .increaseUserQuota (-delta) st w.userId (-delta) with ⟨-, h⟩ | h
    · exact .inl h
    · exact .inr h

theorem refund_cases (st : Store) : (w.refund e st).2 = st ∨ (w.refund e st).2 = st.addWallet w.userId w.consumed := by
  unfold refund
  split
  · exact .inl rfl
  · rcases changeUserQuota_cases e .increaseUserQuota w.consumed st w.userId w.consumed with ⟨-, h⟩ | ⟨err, h⟩
    · exact .inr (congrArg Prod.snd h)
    · exact .inl (congrArg Prod.snd h)

end WalletFunding

/-! ## Subscriptions -/

structure SubscriptionFunding where
  requestId : String
  userId : Int
  /-- The amount to pre-consume. -/
  amount : Int
  subscriptionId : Int
  preConsumed : Int
  amountTotal : Int
  amountUsedAfter : Int
  billingDiscount : ℚ
  lastDelta : Int
  deriving DecidableEq, Repr

/-- Call `fn` until it succeeds, at most `attempts` times; `attempt` numbers the calls. -/
def refundWithRetry (fn : Nat → Store → Except (Halt String) Unit × Store) : (attempts attempt : Nat) → Store →
    Except (Halt String) Unit × Store
  | 0, _, st => (.ok (), st)
  | attempts + 1, attempt, st =>
    match fn attempt st with
    | (.ok (), st) => (.ok (), st)
    | (.error err, st) => if attempts = 0 then (.error err, st) else refundWithRetry fn attempts (attempt + 1) st

namespace SubscriptionFunding

/-- The parameter of `PreConsume` is ignored: the amount is the one the funding was built with. -/
def preConsume (e : Env) (s : SubscriptionFunding) (st : Store) : Except (Halt String) SubscriptionFunding × Store :=
  match preConsumeUserSubscription e s.requestId s.userId s.amount st with
  | (.error err, st) => (.error err, st)
  | (.ok res, st) =>
    (.ok { s with subscriptionId := res.userSubscriptionId, preConsumed := res.preConsumed,
                  billingDiscount := res.billingDiscount, amountTotal := res.amountTotal,
                  amountUsedAfter := res.amountUsedAfter }, st)

def settle (e : Env) (s : SubscriptionFunding) (delta : Int) (st : Store) :
    Except (Halt String) SubscriptionFunding × Store :=
  if delta = 0 then (.ok s, st)
  else
    match postConsumeUserSubscriptionDelta e s.subscriptionId delta st with
    | (.error err, st) => (.error err, st)
    | (.ok appliedDelta, st) => (.ok { s with lastDelta := appliedDelta }, st)

def refund (e : Env) (s : SubscriptionFunding) (st : Store) : Except (Halt String) Unit × Store :=
  if s.preConsumed ≤ 0 then (.ok (), st)
  else refundWithRetry (fun attempt => refundSubscriptionPreConsume e attempt s.requestId) 3 0 st

end SubscriptionFunding

/-! ## The interface -/

inductive FundingSource where
  | wallet (w : WalletFunding)
  | subscription (s : SubscriptionFunding)
  deriving DecidableEq, Repr

/-- The error of a call that cannot diverge. -/
def liftError {α : Type} : Except String α → Except (Halt String) α
  | .ok a => .ok a
  | .error err => .error (.error err)

namespace FundingSource

def source : FundingSource → BillingSource
  | .wallet _ => .wallet
  | .subscription _ => .subscription

def preConsume (e : Env) (amount : Int) (st : Store) : FundingSource → Except (Halt String) FundingSource × Store
  | .wallet w =>
    match w.preConsume e amount st with
    | (.error err, st) => (.error (.error err), st)
    | (.ok w, st) => (.ok (.wallet w), st)
  | .subscription s =>
    match s.preConsume e st with
    | (.error err, st) => (.error err, st)
    | (.ok s, st) => (.ok (.subscription s), st)

def settle (e : Env) (delta : Int) (st : Store) : FundingSource → Except (Halt String) FundingSource × Store
  | .wallet w =>
    match w.settle e delta st with
    | (.error err, st) => (.error (.error err), st)
    | (.ok (), st) => (.ok (.wallet w), st)
  | .subscription s =>
    match s.settle e delta st with
    | (.error err, st) => (.error err, st)
    | (.ok s, st) => (.ok (.subscription s), st)

def refund (e : Env) (st : Store) : FundingSource → Except (Halt String) Unit × Store
  | .wallet w => ((liftError (w.refund e st).1), (w.refund e st).2)
  | .subscription s => s.refund e st

end FundingSource

/-! ## The token's quota -/

variable (e : Env) (info : RelayInfo) (quota : Int)

/-- The check of `PreConsumeTokenQuota` on the token it read. -/
def tokenCheck : Except String Token → Except String Unit
  | .error err => .error err
  | .ok token =>
    if ¬ info.tokenUnlimited ∧ token.remainQuota < quota then
      .error ("token quota is not enough, token remain quota: " ++ e.formatQuota token.remainQuota ++
        ", need quota: " ++ e.formatQuota quota)
    else .ok ()

def preConsumeTokenQuota (st : Store) : Except String Unit × Store :=
  if quota < 0 then (.error "quota 不能为负数！", st)
  else if info.isPlayground then (.ok (), st)
  else
    match tokenCheck e info quota (getTokenByKey e st info.tokenKey) with
    | .error err => (.error err, st)
    | .ok () => decreaseTokenQuota e st info.tokenId quota

/-- A pre-consumption of the token takes the quota, or fails and takes nothing; the playground has no token. -/
theorem preConsumeTokenQuota_cases (st : Store) :
    preConsumeTokenQuota e info quota st = (.ok (), info.account.takeToken quota st) ∨
      ∃ err, preConsumeTokenQuota e info quota st = (.error err, st) := by
  unfold preConsumeTokenQuota
  split
  · exact .inr ⟨_, rfl⟩
  · split
    · rename_i hp
      exact .inl (by rw [Account.takeToken, if_pos]; exact hp)
    · rename_i hp
      rw [Account.takeToken, if_neg (by exact hp)]
      split
      · exact .inr ⟨_, rfl⟩
      · rcases changeTokenQuota_cases e .decreaseTokenQuota (-quota) st info.tokenId quota with ⟨_, h⟩ | h
        · exact .inl h
        · exact .inr h

end SynthApi
