import SynthApi.Service.Conservation

/-!
# The quota of audio models

`service/quota.go` and `service/billing.go`, as far as realtime sessions use them: the price of a usage
(`calculateAudioQuota`), the charge without a billing session (`postConsumeQuota`), the settlement (`settleBilling`),
and the two functions that charge a realtime session: `preWssConsumeQuota` for one usage, while the session runs, and
`postWssConsumeQuota` for the summed usage, at its end.

`preWssConsumeQuota_spec` says what the first takes from a wallet account, `settleBilling_moves` what the second
does.
-/

namespace SynthApi

open Lib Lib.Go

/-! ## Usage and prices -/

structure InputTokenDetails where
  cachedTokens : Int
  textTokens : Int
  audioTokens : Int
  deriving DecidableEq, Repr

structure OutputTokenDetails where
  textTokens : Int
  audioTokens : Int
  deriving DecidableEq, Repr

structure RealtimeUsage where
  totalTokens : Int
  inputTokens : Int
  outputTokens : Int
  inputTokenDetails : InputTokenDetails
  outputTokenDetails : OutputTokenDetails
  deriving DecidableEq, Repr

namespace RealtimeUsage

/-- `&dto.RealtimeUsage{}` -/
def empty : RealtimeUsage := ⟨0, 0, 0, ⟨0, 0, 0⟩, ⟨0, 0⟩⟩

/-- The field by field `+=`. -/
def add (u v : RealtimeUsage) : RealtimeUsage where
  totalTokens := u.totalTokens + v.totalTokens
  inputTokens := u.inputTokens + v.inputTokens
  outputTokens := u.outputTokens + v.outputTokens
  inputTokenDetails :=
    { cachedTokens := u.inputTokenDetails.cachedTokens + v.inputTokenDetails.cachedTokens
      textTokens := u.inputTokenDetails.textTokens + v.inputTokenDetails.textTokens
      audioTokens := u.inputTokenDetails.audioTokens + v.inputTokenDetails.audioTokens }
  outputTokenDetails :=
    { textTokens := u.outputTokenDetails.textTokens + v.outputTokenDetails.textTokens
      audioTokens := u.outputTokenDetails.audioTokens + v.outputTokenDetails.audioTokens }

def addInput (textToken audioToken : Int) (u : RealtimeUsage) : RealtimeUsage :=
  u.add ⟨textToken + audioToken, textToken + audioToken, 0, ⟨0, textToken, audioToken⟩, ⟨0, 0⟩⟩

def addOutput (textToken audioToken : Int) (u : RealtimeUsage) : RealtimeUsage :=
  u.add ⟨textToken + audioToken, 0, textToken + audioToken, ⟨0, 0, 0⟩, ⟨textToken, audioToken⟩⟩

end RealtimeUsage

structure TokenDetails where
  textTokens : Int
  audioTokens : Int
  deriving DecidableEq, Repr

structure QuotaInfo where
  inputDetails : TokenDetails
  outputDetails : TokenDetails
  modelName : String
  usePrice : Bool
  modelPrice : ℚ
  modelRatio : ℚ
  groupRatio : ℚ

/-- `ratio_setting` and `common.QuotaPerUnit` -/
structure RatioSetting where
  completionRatio : String → ℚ
  audioRatio : String → ℚ
  audioCompletionRatio : String → ℚ
  modelRatio : String → ℚ
  groupRatio : String → ℚ
  /-- `GetGroupGroupRatio(userGroup, usingGroup)` -/
  groupGroupRatio : String → String → Option ℚ
  quotaPerUnit : ℚ

def calculateAudioQuota (ratios : RatioSetting) (info : QuotaInfo) : Int :=
  if info.usePrice then wrap64 (intPart (info.modelPrice * ratios.quotaPerUnit * info.groupRatio))
  else
    let ratio := info.groupRatio * info.modelRatio
    let quota := (info.inputDetails.textTokens + info.outputDetails.textTokens * ratios.completionRatio info.modelName +
      info.inputDetails.audioTokens * ratios.audioRatio info.modelName +
      info.outputDetails.audioTokens * ratios.audioRatio info.modelName * ratios.audioCompletionRatio info.modelName) *
      ratio
    -- something is charged unless the model is free
    roundInt (if ratio ≠ 0 ∧ quota ≤ 0 then 1 else quota)

/-! ## The request -/

/-- `relayInfo` with its field `Billing`: the session knows the request. -/
inductive Billing where
  | session (s : BillingSession)
  /-- `Billing == nil`: a free model is not pre-consumed. -/
  | unset (info : RelayInfo)

def Billing.relayInfo : Billing → RelayInfo
  | .session s => s.relayInfo
  | .unset info => info

def Billing.setRelayInfo (info : RelayInfo) : Billing → Billing
  | .session s => .session { s with relayInfo := info }
  | .unset _ => .unset info

@[simp] theorem Billing.setRelayInfo_relayInfo (b : Billing) : b.setRelayInfo b.relayInfo = b := by cases b <;> rfl

structure PriceData where
  modelPrice : ℚ
  modelRatio : ℚ
  /-- `GroupRatioInfo.GroupRatio` -/
  groupRatio : ℚ
  usePrice : Bool

structure WssRelay where
  billing : Billing
  originModelName : String
  upstreamModelName : String
  usingGroup : String
  userGroup : String
  usePrice : Bool
  priceData : PriceData
  /-- `ContextKeyAutoGroup` of the request's context. -/
  autoGroup : Option String
  /-- What `TryTieredSettle` computes from input and output tokens; `none` without a tiered snapshot. -/
  tieredSettle : Option (Int → Int → Int)

/-- What a call meets, with the ratios that are set at that time. -/
structure PriceEnv extends Env where
  ratios : RatioSetting

namespace WssRelay

/-- The group that the request is charged in. -/
def chooseGroup (r : WssRelay) : WssRelay :=
  match r.autoGroup with
  | some group => { r with usingGroup := group }
  | none => r

/-- The `QuotaInfo` of `PreWssConsumeQuota`: the ratios as they are set now, for the model of the request. -/
def preQuotaInfo (ratios : RatioSetting) (usage : RealtimeUsage) (r : WssRelay) : QuotaInfo where
  inputDetails := ⟨usage.inputTokenDetails.textTokens, usage.inputTokenDetails.audioTokens⟩
  outputDetails := ⟨usage.outputTokenDetails.textTokens, usage.outputTokenDetails.audioTokens⟩
  modelName := r.originModelName
  usePrice := r.usePrice
  modelPrice := 0
  modelRatio := ratios.modelRatio r.originModelName
  groupRatio := (ratios.groupGroupRatio r.userGroup r.usingGroup).getD (ratios.groupRatio r.usingGroup)

/-- The `QuotaInfo` of `PostWssConsumeQuota`: the ratios of the request's price. -/
def postQuotaInfo (modelName : String) (usage : RealtimeUsage) (r : WssRelay) : QuotaInfo where
  inputDetails := ⟨usage.inputTokenDetails.textTokens, usage.inputTokenDetails.audioTokens⟩
  outputDetails := ⟨usage.outputTokenDetails.textTokens, usage.outputTokenDetails.audioTokens⟩
  modelName := modelName
  usePrice := r.priceData.usePrice
  modelPrice := r.priceData.modelPrice
  modelRatio := r.priceData.modelRatio
  groupRatio := r.priceData.groupRatio

end WssRelay

/-! ## Charging -/

/-- The first part of `PostConsumeQuota`: wallet or subscription. -/
def postConsumeFunding (e : Env) (info : RelayInfo) (quota : Int) (st : Store) :
    Except (Halt String) RelayInfo × Store :=
  if info.billingSource = some .subscription then
    if info.subscriptionId = 0 then (.error (.error "subscription id is missing"), st)
    else if quota = 0 then (.ok info, st)
    else
      match postConsumeUserSubscriptionDelta e info.subscriptionId quota st with
      | (.error err, st) => (.error err, st)
      | (.ok appliedDelta, st) =>
        (.ok { info with subscriptionPostDelta := info.subscriptionPostDelta + appliedDelta }, st)
  else
    match if 0 < quota then decreaseUserQuota e st info.userId quota else increaseUserQuota e st info.userId (-quota) with
    | (.error err, st) => (.error (.error err), st)
    | (.ok (), st) => (.ok info, st)

/-- The second part of `PostConsumeQuota`: the token. -/
def postConsumeToken (e : Env) (info : RelayInfo) (quota : Int) (st : Store) : Except String Unit × Store :=
  if info.isPlayground then (.ok (), st)
  else if 0 < quota then decreaseTokenQuota e st info.tokenId quota
  else increaseTokenQuota e st info.tokenId (-quota)

/-- Charge a request; a negative quota is given back. -/
def postConsumeQuota (e : Env) (info : RelayInfo) (quota : Int) (st : Store) :
    Except (Halt String) Unit × RelayInfo × Store :=
  match postConsumeFunding e info quota st with
  | (.error err, st) => (.error err, info, st)
  | (.ok info, st) =>
    let tokenPart := postConsumeToken e info quota st
    (liftError tokenPart.1, info, tokenPart.2)

/-- Settle a request for what it really cost: the session, or without one the difference to what was pre-consumed. -/
def settleBilling (e : Env) (billing : Billing) (actualQuota : Int) (st : Store) :
    Except (Halt String) Unit × Billing × Store :=
  match billing with
  | .session s =>
    let settled := s.settle e actualQuota st
    (settled.1, .session settled.2.1, settled.2.2)
  | .unset info =>
    let quotaDelta := actualQuota - info.finalPreConsumedQuota
    if quotaDelta = 0 then (.ok (), .unset info, st)
    else
      let consumed := postConsumeQuota e info quotaDelta st
      (consumed.1, .unset consumed.2.1, consumed.2.2)

/-- Charge a usage while the session runs. -/
def preWssConsumeQuota (e : PriceEnv) (r : WssRelay) (usage : RealtimeUsage) (st : Store) :
    Except (Halt String) Unit × WssRelay × Store :=
  if r.usePrice then (.ok (), r, st)
  else
    match getUserQuota e.toEnv st r.billing.relayInfo.userId with
    | .error err => (.error (.error err), r, st)
    | .ok userQuota =>
      match getTokenByKey e.toEnv st (trimPrefix r.billing.relayInfo.tokenKey "sk-") with
      | .error err => (.error (.error err), r, st)
      | .ok token =>
        let r := r.chooseGroup
        let quota := calculateAudioQuota e.ratios (r.preQuotaInfo e.ratios usage)
        if userQuota < quota then
          (.error (.error ("user quota is not enough, user quota: " ++ e.formatQuota userQuota ++ ", need quota: " ++
            e.formatQuota quota)), r, st)
        else if ¬ token.unlimitedQuota ∧ token.remainQuota < quota then
          (.error (.error ("token quota is not enough, token remain quota: " ++ e.formatQuota token.remainQuota ++
            ", need quota: " ++ e.formatQuota quota)), r, st)
        else
          let consumed := postConsumeQuota e.toEnv r.billing.relayInfo quota st
          (consumed.1, { r with billing := r.billing.setRelayInfo consumed.2.1 }, consumed.2.2)

def postWssQuota (e : PriceEnv) (r : WssRelay) (modelName : String) (usage : RealtimeUsage) : Int :=
  if usage.totalTokens = 0 then 0
  else
    match r.tieredSettle with
    | some tieredQuota => tieredQuota usage.inputTokens usage.outputTokens
    | none => calculateAudioQuota e.ratios (r.postQuotaInfo modelName usage)

/-- Settle the session for its summed usage; an error is only logged. -/
def postWssConsumeQuota (e : PriceEnv) (r : WssRelay) (modelName : String) (usage : RealtimeUsage) (st : Store) :
    WssRelay × Store :=
  let settled := settleBilling e.toEnv r.billing (postWssQuota e r modelName usage) st
  ({ r with billing := settled.2.1 }, settled.2.2)

/-! ## Charging a wallet account -/

section Wallet

variable {e : Env} {info : RelayInfo} {st : Store}

/-- Without a subscription `PostConsumeQuota` charges the account. -/
theorem postConsumeQuota_wallet (he : e.WritesSucceed) (hsrc : info.billingSource ≠ some .subscription) (quota : Int) :
    postConsumeQuota e info quota st = (.ok (), info, info.account.charge quota st) := by
  have hfunding : postConsumeFunding e info quota st = (.ok info, st.addWallet info.userId (-quota)) := by
    rw [postConsumeFunding, if_neg hsrc]
    rcases lt_or_ge 0 quota with hpos | hneg
    · rw [if_pos hpos, decreaseUserQuota_ok he hpos.le]
    · rw [if_neg (by omega), increaseUserQuota_ok he (by omega)]
  have htoken : postConsumeToken e info quota (st.addWallet info.userId (-quota)) =
      (.ok (), info.account.charge quota st) := by
    unfold postConsumeToken Account.charge Account.takeToken RelayInfo.account
    split_ifs with hp hpos
    · rfl
    · rw [decreaseTokenQuota_ok he hpos.le]
    · rw [increaseTokenQuota_ok he (by omega)]
  rw [postConsumeQuota, hfunding]
  dsimp only
  rw [htoken]
  rfl

end Wallet

/-- The quota that `preWssConsumeQuota` takes: the price of the usage, or nothing if the balances that it reads do not
cover it. -/
def chargedQuota (e : PriceEnv) (r : WssRelay) (usage : RealtimeUsage) (st : Store) : Int :=
  if r.usePrice then 0
  else
    match getUserQuota e.toEnv st r.billing.relayInfo.userId,
      getTokenByKey e.toEnv st (trimPrefix r.billing.relayInfo.tokenKey "sk-") with
    | .ok userQuota, .ok token =>
      let quota := calculateAudioQuota e.ratios (r.chooseGroup.preQuotaInfo e.ratios usage)
      if userQuota < quota ∨ ¬ token.unlimitedQuota ∧ token.remainQuota < quota then 0 else quota
    | _, _ => 0

section Wss

variable {e : PriceEnv} {r : WssRelay} {st : Store}

@[simp] theorem WssRelay.chooseGroup_billing (r : WssRelay) : r.chooseGroup.billing = r.billing := by
  unfold WssRelay.chooseGroup
  split <;> rfl

/-- **A usage of a wallet account is charged `chargedQuota`**, and only the group of the request may change. -/
theorem preWssConsumeQuota_spec (he : e.WritesSucceed) (hsrc : r.billing.relayInfo.billingSource ≠ some .subscription)
    (hex : r.billing.relayInfo.account.Exists st) (usage : RealtimeUsage) :
    ((preWssConsumeQuota e r usage st).2.1 = r ∨ (preWssConsumeQuota e r usage st).2.1 = r.chooseGroup) ∧
      Moves r.billing.relayInfo.userId r.billing.relayInfo.tokenId (-chargedQuota e r usage st)
        (-r.billing.relayInfo.account.share (chargedQuota e r usage st)) st (preWssConsumeQuota e r usage st).2.2 := by
  have hnone := Account.Debited.zero r.billing.relayInfo.account st
  unfold preWssConsumeQuota chargedQuota
  by_cases hprice : r.usePrice
  · rw [if_pos hprice, if_pos hprice]
    exact ⟨.inl rfl, hnone⟩
  rw [if_neg hprice, if_neg hprice]
  cases getUserQuota e.toEnv st r.billing.relayInfo.userId with
  | error err => exact ⟨.inl rfl, hnone⟩
  | ok userQuota =>
    cases getTokenByKey e.toEnv st (trimPrefix r.billing.relayInfo.tokenKey "sk-") with
    | error err => exact ⟨.inl rfl, hnone⟩
    | ok token =>
      dsimp only
      generalize calculateAudioQuota e.ratios (r.chooseGroup.preQuotaInfo e.ratios usage) = quota
      by_cases huser : userQuota < quota
      · rw [if_pos huser, if_pos (.inl huser)]
        exact ⟨.inr rfl, hnone⟩
      by_cases htoken : ¬ token.unlimitedQuota ∧ token.remainQuota < quota
      · rw [if_neg huser, if_pos htoken, if_pos (.inr htoken)]
        exact ⟨.inr rfl, hnone⟩
      · rw [if_neg huser, if_neg htoken, if_neg (by tauto), WssRelay.chooseGroup_billing,
          postConsumeQuota_wallet he hsrc]
        refine ⟨.inr ?_, Account.charge_moves quota hex⟩
        have hsame : r.billing.setRelayInfo r.billing.relayInfo = r.chooseGroup.billing := by simp
        rw [hsame]

end Wss

/-! ## Settling a wallet account -/

/-- A wallet request of which `quota` was pre-consumed and nothing settled. -/
def Billing.Unsettled (a : Account) (quota : Int) : Billing → Prop
  | .session s => Holds a quota s ∧ s.preConsumedQuota = quota ∧ s.settled = false ∧ s.fundingSettled = false ∧
      s.relayInfo.billingSource = some .wallet
  | .unset info => info.account = a ∧ info.finalPreConsumedQuota = quota ∧ info.billingSource = none

section Settle

variable {a : Account} {quota : Int} {b : Billing} {st : Store}

theorem Billing.Unsettled.account (h : b.Unsettled a quota) : b.relayInfo.account = a := by
  cases b with
  | session s => exact h.1.account
  | unset info => exact h.1

theorem Billing.Unsettled.billingSource (h : b.Unsettled a quota) : b.relayInfo.billingSource ≠ some .subscription := by
  cases b with
  | session s =>
    have hsrc : s.relayInfo.billingSource = some .wallet := h.2.2.2.2
    simp [Billing.relayInfo, hsrc]
  | unset info => simp [Billing.relayInfo, h.2.2]

/-- **The settlement** charges the account for the difference to what was pre-consumed. -/
theorem settleBilling_moves {e : Env} (he : e.WritesSucceed) (hb : b.Unsettled a quota) (hex : a.Exists st)
    (actualQuota : Int) : Moves a.userId a.tokenId (-(actualQuota - quota)) (-a.share (actualQuota - quota)) st
      (settleBilling e b actualQuota st).2.2 := by
  cases b with
  | session s =>
    obtain ⟨hh, hpre, hs, hf, -⟩ := hb
    have hmoves := (settle_holds he hh hs hf hex actualQuota).2
    rw [hpre] at hmoves
    exact hmoves
  | unset info =>
    obtain ⟨rfl, rfl, hsrc⟩ := hb
    have hsrc' : info.billingSource ≠ some .subscription := by simp [hsrc]
    rw [settleBilling]
    split
    · rename_i hzero
      rw [hzero]
      exact Account.Debited.zero _ st
    · rw [postConsumeQuota_wallet he hsrc']
      exact Account.charge_moves _ hex

end Settle

/-! ## How a realtime request is opened -/

/-- The request of an account as the relay opens it, from a store `base`: pre-consumed from the wallet, or free and not
pre-consumed. -/
inductive Opened (base : Store) : Account → Billing → Store → Prop
  | session (ew es : Env) (c : TrustContext) (info : RelayInfo) (quota : Int) (s : SessionState) (w : WalletFunding)
      (hew : ew.WritesSucceed) (hes : es.WritesSucceed) (hquota : 0 ≤ quota)
      (hnew : opened (newBillingSession ew es c info quota base) = some s) (hfund : s.session.funding = .wallet w) :
      Opened base info.account (.session s.session) s.store
  | free (info : RelayInfo) (hpre : info.finalPreConsumedQuota = 0) (hsrc : info.billingSource = none) :
      Opened base info.account (.unset info) base

section Opening

variable {e ew es : Env} {c : TrustContext} {info : RelayInfo} {quota : Int} {s : BillingSession} {st st' : Store}

theorem syncRelayInfo_source :
    s.syncRelayInfo.relayInfo.billingSource = some s.syncRelayInfo.funding.source := by
  unfold BillingSession.syncRelayInfo
  cases hf : s.funding <;> simp [FundingSource.source]

theorem preConsume_source {s' : BillingSession} (h : s.preConsume e c quota st = (.ok s', st')) :
    s'.relayInfo.billingSource = some s'.funding.source := by
  unfold BillingSession.preConsume at h
  dsimp only at h
  split at h
  · cases h
  · split at h
    · cases h
    · cases h
    · cases h
      exact syncRelayInfo_source

theorem newBillingSession_source (hw : ew.WritesSucceed) (hs : es.WritesSucceed)
    (h : newBillingSession ew es c info quota st = (.ok s, st')) :
    s.relayInfo.billingSource = some s.funding.source := by
  rcases newBillingSession_cases ew es c info quota st (hw _ rfl) (hs _ rfl) with hcase | hcase | ⟨err, hcase⟩
  · rw [hcase] at h
    unfold BillingSession.tryWallet at h
    split at h
    · cases h
    · split_ifs at h
      · cases h
      · cases h
      · exact preConsume_source h
  · rw [hcase] at h
    exact preConsume_source h
  · rw [hcase] at h
    cases h

/-- An opened request is not settled, and its account has been debited what was pre-consumed. -/
theorem Opened.unsettled {base : Store} {a : Account} {b : Billing} (h : Opened base a b st) (hex : a.Exists base) :
    ∃ quota, b.Unsettled a quota ∧ a.Debited base quota st := by
  cases h with
  | session ew es c info quota s w hew hes hquota hnew hfund =>
    obtain ⟨hh, hpre, hs, -, hf, -, hd⟩ := newBillingSession_represents hew hes hquota hex hfund hnew
    refine ⟨_, ⟨hh, hpre, hs, hf, ?_⟩, hd⟩
    obtain ⟨session, st', hr, rfl⟩ := of_opened hnew
    rw [newBillingSession_source hew hes hr, hfund]
    rfl
  | free info hpre hsrc => exact ⟨0, ⟨rfl, hpre, hsrc⟩, Account.Debited.zero _ _⟩

end Opening

end SynthApi
