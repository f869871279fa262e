import SynthApi.Service.FundingSource

/-!
# Billing sessions

`service/billing_session.go`. `newBillingSession` takes the pre-consumption of a request from the wallet or from a
subscription, by the user's preference and with a fallback from one to the other; `reserve`, `settle` and `refund` are
the calls on the session. `Refund` only marks the session and leaves the giving back to a goroutine: `RefundJob` is what
that goroutine has captured, and `Call.job` is the moment at which it runs.

`SessionState` is a session with its store and its pending goroutines, and `callStep` one call of a history.
-/

namespace SynthApi

open Lib Lib.Go

inductive ErrorCode where
  | queryDataError
  | updateDataError
  | insufficientUserQuota
  | preConsumeTokenQuotaFailed
  deriving DecidableEq, Repr

structure NewAPIError where
  err : String
  errorCode : ErrorCode
  statusCode : Nat
  deriving DecidableEq, Repr

def NewAPIError.internal (err : String) (errorCode : ErrorCode) : NewAPIError := ⟨err, errorCode, 500⟩

/-- `types.NewErrorWithStatusCode` with `http.StatusForbidden`. -/
def NewAPIError.forbidden (err : String) (errorCode : ErrorCode) : NewAPIError := ⟨err, errorCode, 403⟩

structure BillingSession where
  relayInfo : RelayInfo
  funding : FundingSource
  preConsumedQuota : Int
  tokenConsumed : Int
  extraReserved : Int
  extraReservedSub : Int
  trusted : Bool
  fundingSettled : Bool
  settled : Bool
  refunded : Bool
  deriving DecidableEq, Repr

/-- What the request's context and the deployment's settings say about trust: `common.GetTrustQuota` and the context's
`token_quota`. -/
structure TrustContext where
  trustQuota : Int
  tokenQuota : Int
  deriving DecidableEq, Repr

namespace BillingSession

/-! ## Creation -/

/-- `&BillingSession{relayInfo, funding}` -/
def fresh (info : RelayInfo) (funding : FundingSource) : BillingSession where
  relayInfo := info
  funding := funding
  preConsumedQuota := 0
  tokenConsumed := 0
  extraReserved := 0
  extraReservedSub := 0
  trusted := false
  fundingSettled := false
  settled := false
  refunded := false

def shouldTrust (c : TrustContext) (s : BillingSession) : Bool :=
  if s.relayInfo.forcePreConsume then false
  else if c.trustQuota ≤ 0 then false
  else if ¬ (s.relayInfo.tokenUnlimited ∨ c.trustQuota < c.tokenQuota) then false
  else
    match s.funding.source with
    | .wallet => c.trustQuota < s.relayInfo.userQuota
    | .subscription => false

def syncRelayInfo (s : BillingSession) : BillingSession :=
  match s.funding with
  | .subscription sub =>
    { s with relayInfo := { s.relayInfo with
        finalPreConsumedQuota := s.preConsumedQuota
        billingSource := some .subscription
        subscriptionId := sub.subscriptionId
        subscriptionPreConsumed := sub.preConsumed + s.extraReservedSub
        subscriptionPostDelta := 0
        subscriptionAmountTotal := sub.amountTotal
        subscriptionAmountUsedAfterPreConsume := sub.amountUsedAfter + s.extraReservedSub
        subscriptionBillingDiscount := sub.billingDiscount } }
  | .wallet _ =>
    { s with relayInfo := { s.relayInfo with
        finalPreConsumedQuota := s.preConsumedQuota
        billingSource := some .wallet
        subscriptionId := 0
        subscriptionPreConsumed := 0
        subscriptionBillingDiscount := 0 } }

/-- The error of a failed pre-consumption of the funding source. -/
def fundingError (errMsg : String) : NewAPIError :=
  if strContains errMsg "no active subscription" ∨ strContains errMsg "subscription quota insufficient" then
    .forbidden ("订阅额度不足或未配置订阅: " ++ errMsg) .insufficientUserQuota
  else .internal errMsg .updateDataError

/-- The quota that is really pre-consumed: nothing for a trusted request. -/
def effectiveQuota (c : TrustContext) (quota : Int) (s : BillingSession) : Int := if s.shouldTrust c then 0 else quota

def preConsumeToken (e : Env) (quota : Int) (s : BillingSession) (st : Store) : Except NewAPIError BillingSession × Store :=
  if 0 < quota then
    match preConsumeTokenQuota e s.relayInfo quota st with
    | (.error err, st) => (.error (.forbidden err .preConsumeTokenQuotaFailed), st)
    | (.ok (), st) => (.ok { s with tokenConsumed := quota }, st)
  else (.ok s, st)

/-- Give the token back what `preConsumeToken` took; a failing write is only logged. -/
def rollbackToken (e : Env) (s : BillingSession) (st : Store) : Store :=
  if 0 < s.tokenConsumed ∧ ¬ s.relayInfo.isPlayground then
    (increaseTokenQuota e st s.relayInfo.tokenId s.tokenConsumed).2
  else st

/-- Trust, then the token, then the funding source; a failing funding source takes the token back. -/
def preConsume (e : Env) (c : TrustContext) (quota : Int) (s : BillingSession) (st : Store) :
    Except (Halt NewAPIError) BillingSession × Store :=
  let quota := s.effectiveQuota c quota
  let s := { s with trusted := s.shouldTrust c }
  match s.preConsumeToken e quota st with
  | (.error err, st) => (.error (.error err), st)
  | (.ok s, st) =>
    match s.funding.preConsume e quota st with
    | (.error (.error err), st) => (.error (.error (fundingError err)), s.rollbackToken e st)
    | (.error .diverge, st) => (.error .diverge, st)
    | (.ok funding, st) => (.ok { s with funding := funding, preConsumedQuota := quota }.syncRelayInfo, st)

def tryWallet (e : Env) (c : TrustContext) (info : RelayInfo) (preConsumedQuota : Int) (st : Store) :
    Except (Halt NewAPIError) BillingSession × Store :=
  match getUserQuota e st info.userId with
  | .error err => (.error (.error (.internal err .queryDataError)), st)
  | .ok userQuota =>
    if userQuota ≤ 0 then
      (.error (.error (.forbidden ("用户额度不足, 剩余额度: " ++ e.formatQuota userQuota) .insufficientUserQuota)), st)
    else if userQuota - preConsumedQuota < 0 then
      (.error (.error (.forbidden ("预扣费额度失败, 用户剩余额度: " ++ e.formatQuota userQuota ++ ", 需要预扣费额度: " ++
        e.formatQuota preConsumedQuota) .insufficientUserQuota)), st)
    else
      (fresh { info with userQuota := userQuota } (.wallet ⟨info.userId, 0⟩)).preConsume e c preConsumedQuota st

/-- The closure `trySubscription`: at least one unit is pre-consumed. -/
def trySubscription (e : Env) (c : TrustContext) (info : RelayInfo) (preConsumedQuota : Int) (st : Store) :
    Except (Halt NewAPIError) BillingSession × Store :=
  let subConsume := if preConsumedQuota ≤ 0 then 1 else preConsumedQuota
  (fresh info (.subscription ⟨info.requestId, info.userId, subConsume, 0, 0, 0, 0, 0, 0⟩)).preConsume e c subConsume st

end BillingSession

inductive BillingPreference where
  | subscriptionFirst
  | walletFirst
  | subscriptionOnly
  | walletOnly
  deriving DecidableEq, Repr

def normalizeBillingPreference (pref : String) : BillingPreference :=
  match trimSpace pref with
  | "wallet_first" => .walletFirst
  | "subscription_only" => .subscriptionOnly
  | "wallet_only" => .walletOnly
  | _ => .subscriptionFirst

def hasActiveUserSubscription (e : Env) (st : Store) (userId : Int) : Except String Bool :=
  if userId ≤ 0 then .error "invalid userId"
  else
    match e.fails .hasActiveUserSubscription with
    | some err => .error err
    | none => .ok (0 < (eligibleActiveUserSubscriptions st userId (getUserGroupById st userId) e.now).length)

/-- Run `first`; if it fails for lack of quota, run `second`. -/
def orElse (first second : Store → Except (Halt NewAPIError) BillingSession × Store) (st : Store) :
    Except (Halt NewAPIError) BillingSession × Store :=
  match first st with
  | (.error (.error err), st) => if err.errorCode = .insufficientUserQuota then second st else (.error (.error err), st)
  | r => r

/-- A session for the request, or an error. `ew` and `es` are what the wallet's and the subscription's part of the call
get from outside. -/
def newBillingSession (ew es : Env) (c : TrustContext) (info : RelayInfo) (preConsumedQuota : Int) (st : Store) :
    Except (Halt NewAPIError) BillingSession × Store :=
  let tryWallet := BillingSession.tryWallet ew c info preConsumedQuota
  let trySubscription := BillingSession.trySubscription es c info preConsumedQuota
  match normalizeBillingPreference info.billingPreference with
  | .subscriptionOnly => trySubscription st
  | .walletOnly => tryWallet st
  | .walletFirst => orElse tryWallet trySubscription st
  | .subscriptionFirst =>
    match hasActiveUserSubscription es st info.userId with
    | .error err => (.error (.error (.internal err .queryDataError)), st)
    | .ok false => tryWallet st
    | .ok true => orElse trySubscription tryWallet st

/-! ## Calls -/

namespace BillingSession

def settleToken (e : Env) (delta : Int) (s : BillingSession) (st : Store) : Except String Unit × Store :=
  if s.relayInfo.isPlayground then (.ok (), st)
  else if 0 < delta then decreaseTokenQuota e st s.relayInfo.tokenId delta
  else increaseTokenQuota e st s.relayInfo.tokenId (-delta)

/-- `relayInfo.SubscriptionPostDelta += sub.lastDelta` -/
def addPostDelta (s : BillingSession) : BillingSession :=
  match s.funding with
  | .subscription sub =>
    { s with relayInfo := { s.relayInfo with
        subscriptionPostDelta := s.relayInfo.subscriptionPostDelta + sub.lastDelta } }
  | .wallet _ => s

/-- Settle the session for `actualQuota`. The funding source is settled once; the token's error is returned, but the
session counts as settled then. -/
def settle (e : Env) (actualQuota : Int) (s : BillingSession) (st : Store) :
    Except (Halt String) Unit × BillingSession × Store :=
  if s.settled then (.ok (), s, st)
  else
    let delta := actualQuota - s.preConsumedQuota
    if delta = 0 then (.ok (), { s with settled := true }, st)
    else
      match if s.fundingSettled then (.ok s.funding, st) else s.funding.settle e delta st with
      | (.error err, st) => (.error err, s, st)
      | (.ok funding, st) =>
        let s := { s with funding := funding, fundingSettled := true }
        let tokenPart := s.settleToken e delta st
        (liftError tokenPart.1, { s.addPostDelta with settled := true }, tokenPart.2)

def needsRefundLocked (s : BillingSession) : Bool :=
  if s.settled || s.refunded || s.fundingSettled then false
  else if 0 < s.tokenConsumed then true
  else
    match s.funding with
    | .subscription sub => 0 < sub.preConsumed
    | .wallet _ => false

/-- The guard of `Refund`. -/
def refundTakesEffect (s : BillingSession) : Bool := !s.settled && !s.refunded && s.needsRefundLocked

variable (e : Env) (delta : Int) (s : BillingSession) (st : Store)

def reserveFunding :
    Except (Halt NewAPIError) BillingSession × Store :=
  match s.funding with
  | .wallet w =>
    match decreaseUserQuota e st w.userId delta with
    | (.error err, st) => (.error (.error (.internal err .updateDataError)), st)
    | (.ok (), st) => (.ok { s with funding := .wallet { w with consumed := w.consumed + delta } }, st)
  | .subscription sub =>
    match postConsumeUserSubscriptionDelta e sub.subscriptionId delta st with
    | (.error err, st) =>
      (.error (err.map fun err => .forbidden ("订阅额度不足或未配置订阅: " ++ err) .insufficientUserQuota), st)
    | (.ok appliedDelta, st) => (.ok { s with extraReservedSub := s.extraReservedSub + appliedDelta }, st)

/-- A failing write is only logged. -/
def rollbackFundingReserve : BillingSession × Store :=
  match s.funding with
  | .wallet w =>
    match increaseUserQuota e st w.userId delta with
    | (.error _, st) => (s, st)
    | (.ok (), st) => ({ s with funding := .wallet { w with consumed := w.consumed - delta } }, st)
  | .subscription sub => (s, (postConsumeUserSubscriptionDelta e sub.subscriptionId (-delta) st).2)

def reserveToken : Except NewAPIError Unit × Store :=
  if delta ≤ 0 ∨ s.relayInfo.isPlayground then (.ok (), st)
  else
    match preConsumeTokenQuota e s.relayInfo delta st with
    | (.error err, st) => (.error (.forbidden err .preConsumeTokenQuotaFailed), st)
    | (.ok (), st) => (.ok (), st)

def addReserved (delta : Int) (s : BillingSession) : BillingSession :=
  { s with preConsumedQuota := s.preConsumedQuota + delta, tokenConsumed := s.tokenConsumed + delta,
           extraReserved := s.extraReserved + delta }

/-- Raise the pre-consumption to `targetQuota`. `e'` is what the rollback of the funding source gets from outside. -/
def reserve (e e' : Env) (targetQuota : Int) (s : BillingSession) (st : Store) :
    Except (Halt NewAPIError) Unit × BillingSession × Store :=
  if s.settled ∨ s.refunded ∨ s.trusted ∨ targetQuota ≤ s.preConsumedQuota then (.ok (), s, st)
  else
    let delta := targetQuota - s.preConsumedQuota
    match s.reserveFunding e delta st with
    | (.error err, st) => (.error err, s, st)
    | (.ok s, st) =>
      match s.reserveToken e delta st with
      | (.error err, st) =>
        let r := s.rollbackFundingReserve e' delta st
        (.error (.error err), r.1, r.2)
      | (.ok (), st) =>
        (.ok (), (s.addReserved delta).syncRelayInfo, st)

end BillingSession

/-- What the goroutine of a refund has captured, the funding source apart, which it holds by reference. -/
structure RefundJob where
  tokenId : Int
  isPlayground : Bool
  tokenConsumed : Int
  extraReserved : Int
  subscriptionId : Int
  deriving DecidableEq, Repr

/-- The goroutine of a refund. Its errors are only logged. -/
def RefundJob.exec (e : Env) (funding : FundingSource) (st : Store) (job : RefundJob) : Store :=
  let st := (funding.refund e st).2
  let st :=
    if 0 < job.extraReserved ∧ funding.source = .subscription ∧ 0 < job.subscriptionId then
      (postConsumeUserSubscriptionDelta e job.subscriptionId (-job.extraReserved) st).2
    else st
  if 0 < job.tokenConsumed ∧ ¬ job.isPlayground then (increaseTokenQuota e st job.tokenId job.tokenConsumed).2 else st

/-- Mark the session as refunded and start the goroutine, if there is anything to give back. -/
def BillingSession.refund (s : BillingSession) : Option RefundJob × BillingSession :=
  if s.refundTakesEffect then
    (some ⟨s.relayInfo.tokenId, s.relayInfo.isPlayground, s.tokenConsumed, s.extraReserved, s.relayInfo.subscriptionId⟩,
      { s with refunded := true })
  else (none, s)

/-! ## Histories -/

/-- A session with its store and the goroutines that have not run yet. -/
structure SessionState where
  store : Store
  session : BillingSession
  jobs : List RefundJob

/-- The state in which a creation leaves the request: a session on which no call has been made, if there is one. -/
def opened : Except (Halt NewAPIError) BillingSession × Store → Option SessionState
  | (.ok s, st) => some ⟨st, s, []⟩
  | (.error _, _) => none

theorem of_opened {r : Except (Halt NewAPIError) BillingSession × Store} {s : SessionState} (h : opened r = some s) :
    ∃ session st, r = (.ok session, st) ∧ s = ⟨st, session, []⟩ := by
  obtain ⟨_ | session, st⟩ := r <;> cases h
  exact ⟨session, st, rfl, rfl⟩

/-- A call on the session, or the run of the oldest pending goroutine. -/
inductive Call where
  | reserve (e e' : Env) (targetQuota : Int)
  | settle (e : Env) (actualQuota : Int)
  | refund
  | job (e : Env)

def Call.WritesSucceed : Call → Prop
  | .reserve e e' _ => e.WritesSucceed ∧ e'.WritesSucceed
  | .settle e _ => e.WritesSucceed
  | .refund => True
  | .job e => e.WritesSucceed

def callStep (s : SessionState) : Call → SessionState
  | .reserve e e' targetQuota =>
    let r := s.session.reserve e e' targetQuota s.store
    ⟨r.2.2, r.2.1, s.jobs⟩
  | .settle e actualQuota =>
    let r := s.session.settle e actualQuota s.store
    ⟨r.2.2, r.2.1, s.jobs⟩
  | .refund => ⟨s.store, s.session.refund.2, s.jobs ++ s.session.refund.1.toList⟩
  | .job e =>
    match s.jobs with
    | [] => s
    | job :: jobs => ⟨job.exec e s.session.funding s.store, s.session, jobs⟩

end SynthApi
