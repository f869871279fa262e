import SynthApi.Service.BillingSession

/-!
# A failed creation leaves no trace

`NewBillingSession` may take the token's quota, fail on the funding source, give the token back and go on with the other
funding source. Whatever fails on the way, an error comes back from an unchanged store (`failed_creation`), if only the
write that gives the token back succeeds: the funding sources change nothing when they fail
(`funding_preConsume_error`), and what the token lost is exactly what it gets back (`preConsume_error_cases`).
-/

namespace SynthApi

open Lib Lib.Go BillingSession

/-! ## What the parts of a session move -/

/-- One balance moves, or none: `P` of the wallet and its change, `Q` of the token and its change. -/
inductive QuotaMove (P Q : Int → Int → Prop) (st : Store) : Store → Prop
  | wallet {id delta : Int} : P id delta → QuotaMove P Q st (st.addWallet id delta)
  | token {id delta : Int} : Q id delta → QuotaMove P Q st (st.addToken id delta)
  | frame {st' : Store} : SubFrame st st' → QuotaMove P Q st st'

section Moves

variable {P P' Q Q' : Int → Int → Prop} {st st' : Store}

theorem QuotaMove.refl (st : Store) : QuotaMove P Q st st := .frame (.refl st)

variable (h : QuotaMove P Q st st')

include h

theorem QuotaMove.mono (hP : ∀ id d, P id d → P' id d) (hQ : ∀ id d, Q id d → Q' id d) :
    QuotaMove P' Q' st st' := by
  cases h with
  | wallet hp => exact .wallet (hP _ _ hp)
  | token hq => exact .token (hQ _ _ hq)
  | frame hf => exact .frame hf

theorem QuotaMove.wallet_le (uid : Int) {m : Int} (hm : 0 ≤ m) (hP : ∀ d, P uid d → -m ≤ d) :
    st.wallet uid - m ≤ st'.wallet uid := by
  cases h with
  | @wallet id delta hp =>
    by_cases hu : uid = id
    · subst hu
      have := Store.le_addWallet_wallet st uid delta uid
      have := hP delta hp
      omega
    · rw [Store.addWallet_wallet_ne delta hu]
      omega
  | token hq => rw [Store.addToken_wallet]; omega
  | frame hf => rw [hf.wallet]; omega

theorem QuotaMove.token_le (tid : Int) {m : Int} (hm : 0 ≤ m) (hQ : ∀ d, Q tid d → -m ≤ d) :
    st.tokenRemain tid - m ≤ st'.tokenRemain tid := by
  cases h with
  | wallet hp => rw [Store.addWallet_tokenRemain]; omega
  | @token id delta hq =>
    by_cases ht : tid = id
    · subst ht
      have := Store.le_addToken_tokenRemain st tid delta tid
      have := hQ delta hq
      omega
    · rw [Store.addToken_tokenRemain_ne delta ht]
      omega
  | frame hf => rw [hf.tokenRemain]; omega

omit h

variable (e : Env) (st)

theorem changeUserQuota_move (stmt : Stmt) (delta id quota : Int) :
    QuotaMove (fun i d => i = id ∧ d = delta ∧ 0 ≤ quota) Q st (changeUserQuota e stmt delta st id quota).2 := by
  rcases changeUserQuota_cases e stmt delta st id quota with ⟨hq, hc⟩ | ⟨err, hc⟩
  · rw [hc]
    exact .wallet ⟨rfl, rfl, hq⟩
  · rw [hc]
    exact .refl st

theorem changeTokenQuota_move (stmt : Stmt) (delta id quota : Int) :
    QuotaMove P (fun i d => i = id ∧ d = delta ∧ 0 ≤ quota) st (changeTokenQuota e stmt delta st id quota).2 := by
  rcases changeTokenQuota_cases e stmt delta st id quota with ⟨hq, hc⟩ | ⟨err, hc⟩
  · rw [hc]
    exact .token ⟨rfl, rfl, hq⟩
  · rw [hc]
    exact .refl st

theorem funding_preConsume_move (funding : FundingSource) (amount : Int) :
    QuotaMove (fun _ d => d = -amount) Q st (funding.preConsume e amount st).2 := by
  cases funding with
  | wallet w =>
    rw [FundingSource.preConsume]
    rcases w.preConsume_cases e amount st with ⟨-, hc⟩ | ⟨-, hc⟩ | ⟨err, hc⟩
    · rw [hc]
      exact .refl st
    · rw [hc]
      exact .wallet rfl
    · rw [hc]
      exact .refl st
  | subscription sub =>
    have hframe := subStep_frame st (.preConsume e sub.requestId sub.userId sub.amount)
    rw [FundingSource.preConsume, SubscriptionFunding.preConsume]
    cases hp : preConsumeUserSubscription e sub.requestId sub.userId sub.amount st with
    | mk r st' =>
      rw [subStep, hp] at hframe
      cases r <;> exact .frame hframe

theorem reserveFunding_move (delta : Int) (s : BillingSession) :
    QuotaMove (fun _ d => d = -delta) Q st (s.reserveFunding e delta st).2 := by
  unfold reserveFunding decreaseUserQuota
  cases s.funding with
  | wallet w =>
    rcases changeUserQuota_cases e .decreaseUserQuota (-delta) st w.userId delta with ⟨-, hc⟩ | ⟨err, hc⟩
    · simp only [hc]
      exact .wallet rfl
    · simp only [hc]
      exact .refl st
  | subscription sub =>
    have hframe := subStep_frame st (.postConsume e sub.subscriptionId delta)
    dsimp only
    cases hp : postConsumeUserSubscriptionDelta e sub.subscriptionId delta st with
    | mk r st' =>
      rw [subStep, hp] at hframe
      cases r <;> exact .frame hframe

theorem rollbackFundingReserve_move (delta : Int) (s : BillingSession) :
    QuotaMove (fun _ d => d = delta ∧ 0 ≤ delta) Q st (s.rollbackFundingReserve e delta st).2 := by
  unfold rollbackFundingReserve increaseUserQuota
  cases s.funding with
  | wallet w =>
    rcases changeUserQuota_cases e .increaseUserQuota delta st w.userId delta with ⟨hd, hc⟩ | ⟨err, hc⟩
    · simp only [hc]
      exact .wallet ⟨rfl, hd⟩
    · simp only [hc]
      exact .refl st
  | subscription sub => exact .frame (subStep_frame st (.postConsume e sub.subscriptionId (-delta)))

theorem rollbackToken_move (s : BillingSession) : QuotaMove P (fun _ d => 0 ≤ d) st (s.rollbackToken e st) := by
  unfold rollbackToken
  split
  · refine (changeTokenQuota_move st e _ _ _ _).mono (fun _ _ h => h) fun _ _ h => ?_
    obtain ⟨-, rfl, hd⟩ := h
    exact hd
  · exact .refl st

end Moves

/-! ## The two parts of a pre-consumption -/

section Parts

variable {e : Env} {quota : Int} {s : BillingSession} {st st' : Store}

/-- The token's part takes the quota and notes it, or fails and takes nothing. -/
theorem preConsumeToken_cases (e : Env) (quota : Int) (s : BillingSession) (st : Store) :
    (quota ≤ 0 ∧ s.preConsumeToken e quota st = (.ok s, st)) ∨
    (0 < quota ∧ s.preConsumeToken e quota st =
      (.ok { s with tokenConsumed := quota }, s.relayInfo.account.takeToken quota st)) ∨
    ∃ err, s.preConsumeToken e quota st = (.error err, st) := by
  unfold preConsumeToken
  split
  · rename_i hq
    rcases preConsumeTokenQuota_cases e s.relayInfo quota st with h | ⟨err, h⟩
    · rw [h]
      exact .inr (.inl ⟨hq, rfl⟩)
    · rw [h]
      exact .inr (.inr ⟨_, rfl⟩)
  · exact .inl ⟨by omega, rfl⟩

theorem funding_preConsume_error {funding : FundingSource} {err : Halt String}
    (h : funding.preConsume e quota st = (.error err, st')) : st' = st := by
  cases funding with
  | wallet w =>
    rw [FundingSource.preConsume] at h
    rcases w.preConsume_cases e quota st with ⟨_, hc⟩ | ⟨_, hc⟩ | ⟨err, hc⟩
    · rw [hc] at h; cases h
    · rw [hc] at h; cases h
    · rw [hc] at h; cases h; rfl
  | subscription sub =>
    rw [FundingSource.preConsume, SubscriptionFunding.preConsume] at h
    cases hp : preConsumeUserSubscription e sub.requestId sub.userId sub.amount st with
    | mk r st₁ =>
      rw [hp] at h
      cases r with
      | error err =>
        cases h
        exact preConsume_error hp
      | ok res => cases h

theorem rollbackToken_cases (e : Env) (hq : 0 < quota) (s : BillingSession) (st : Store) :
    rollbackToken e { s with tokenConsumed := quota } (s.relayInfo.account.takeToken quota st) = st ∨
      e.fails .increaseTokenQuota ≠ none ∧ rollbackToken e { s with tokenConsumed := quota }
        (s.relayInfo.account.takeToken quota st) = s.relayInfo.account.takeToken quota st := by
  unfold rollbackToken Account.takeToken
  simp only [RelayInfo.account]
  by_cases hp : s.relayInfo.isPlayground
  · simp [hp]
  simp only [hp, Bool.false_eq_true, if_false, not_false_eq_true, and_true, hq, if_true]
  rcases changeTokenQuota_cases e .increaseTokenQuota quota (st.addToken s.relayInfo.tokenId (-quota))
    s.relayInfo.tokenId quota with ⟨-, hc⟩ | ⟨err, hc⟩
  · left
    rw [increaseTokenQuota, hc]
    exact Store.addToken_cancel st s.relayInfo.tokenId quota
  · refine .inr ⟨fun hnone => ?_, by rw [increaseTokenQuota, hc]⟩
    rw [changeTokenQuota_ok hq.le hnone] at hc
    cases hc

/-- **A failed pre-consumption** of a new session leaves the store as it was, unless the token does not get back what was
taken from it. -/
theorem preConsume_error_cases {c : TrustContext} {err : Halt NewAPIError} (hnew : s.tokenConsumed = 0)
    (h : s.preConsume e c quota st = (.error err, st')) :
    st' = st ∨ (err = .diverge ∨ e.fails .increaseTokenQuota ≠ none) ∧
      ∃ q, st' = s.relayInfo.account.takeToken q st := by
  unfold BillingSession.preConsume at h
  dsimp only at h
  generalize s.effectiveQuota c quota = q at h
  rcases preConsumeToken_cases e q { s with trusted := s.shouldTrust c } st with
    ⟨_, ht⟩ | ⟨hq, ht⟩ | ⟨terr, ht⟩
  · -- nothing was taken from the token
    left
    rw [ht] at h
    dsimp only at h
    split at h
    · rename_i hf
      cases h
      rw [funding_preConsume_error hf, rollbackToken, if_neg (by simp [hnew])]
    · rename_i hf
      cases h
      exact funding_preConsume_error hf
    · cases h
  · rw [ht] at h
    dsimp only at h
    split at h
    · rename_i hf
      cases h
      rw [funding_preConsume_error hf]
      rcases rollbackToken_cases e hq { s with trusted := s.shouldTrust c } st with hback | ⟨hfail, hback⟩
      · exact .inl hback
      · exact .inr ⟨.inr hfail, q, hback⟩
    · rename_i hf
      cases h
      exact .inr ⟨.inl rfl, q, funding_preConsume_error hf⟩
    · cases h
  · rw [ht] at h
    cases h
    exact .inl rfl

end Parts

/-! ## The chain of fallbacks -/

section Chain

variable {e ew es : Env} {c : TrustContext} {info : RelayInfo} {quota : Int} {st st' : Store} {err : NewAPIError}

theorem tryWallet_error_cases {err : Halt NewAPIError} (h : tryWallet e c info quota st = (.error err, st')) :
    st' = st ∨ (err = .diverge ∨ e.fails .increaseTokenQuota ≠ none) ∧ ∃ q, st' = info.account.takeToken q st := by
  unfold tryWallet at h
  split at h
  · cases h; exact .inl rfl
  · split at h
    · cases h; exact .inl rfl
    · split at h
      · cases h; exact .inl rfl
      · exact preConsume_error_cases rfl h

theorem eq_of_error_cases (hroll : e.fails .increaseTokenQuota = none)
    (h : st' = st ∨ (Halt.error err = .diverge ∨ e.fails .increaseTokenQuota ≠ none) ∧ ∃ q, st' = info.account.takeToken q st) :
    st' = st :=
  h.resolve_right fun hfail => hfail.1.elim nofun (· hroll)

variable {first f : Store → Except (Halt NewAPIError) BillingSession × Store} {s : BillingSession}

/-- What comes out of a fallback is a success of the first attempt, or comes from the second one on the same store, or
is the error of the first attempt. -/
theorem orElse_cases (hfirst : ∀ err st', first st = (.error (.error err), st') → st' = st) :
    orElse first f st = f st ∨ orElse first f st = first st := by
  unfold orElse
  split
  · rename_i err₁ st₁ h₁
    have hst := hfirst _ _ h₁
    subst hst
    split
    · exact .inl rfl
    · exact .inr h₁.symm
  · exact .inr rfl

/-- What `NewBillingSession` returns comes from one of the two attempts on the store it was called with, or is the error
of the check for a subscription. -/
theorem newBillingSession_cases (ew es : Env) (c : TrustContext) (info : RelayInfo) (quota : Int) (st : Store)
    (hw : ew.fails .increaseTokenQuota = none) (hs : es.fails .increaseTokenQuota = none) :
    newBillingSession ew es c info quota st = tryWallet ew c info quota st ∨
    newBillingSession ew es c info quota st = trySubscription es c info quota st ∨
    ∃ err, newBillingSession ew es c info quota st = (.error (.error err), st) := by
  unfold newBillingSession
  split
  · exact .inr (.inl rfl)
  · exact .inl rfl
  · rcases orElse_cases (fun _ _ h => eq_of_error_cases hw (tryWallet_error_cases h)) with h | h
    · exact .inr (.inl h)
    · exact .inl h
  · split
    · exact .inr (.inr ⟨_, rfl⟩)
    · exact .inl rfl
    · have hfirst : ∀ err st', trySubscription es c info quota st = (.error (.error err), st') → st' = st :=
        fun _ _ h => eq_of_error_cases hs (preConsume_error_cases rfl h)
      rcases orElse_cases hfirst with h | h
      · exact .inl h
      · exact .inr (.inl h)

theorem orElse_ok (h : orElse first f st = (.ok s, st')) :
    first st = (.ok s, st') ∨ ∃ err st₁, first st = (.error err, st₁) ∧ f st₁ = (.ok s, st') := by
  unfold orElse at h
  split at h
  · rename_i err st₁ hf
    split at h
    · exact .inr ⟨_, st₁, hf, h⟩
    · cases h
  · exact .inl h

/-- A session comes from an attempt on the store of the call, or on the store that a failed attempt has left. -/
theorem newBillingSession_ok (h : newBillingSession ew es c info quota st = (.ok s, st')) :
    ∃ st₁, (st₁ = st ∨ ∃ q, st₁ = info.account.takeToken q st) ∧
      (tryWallet ew c info quota st₁ = (.ok s, st') ∨ trySubscription es c info quota st₁ = (.ok s, st')) := by
  unfold newBillingSession at h
  split at h
  · exact ⟨st, .inl rfl, .inr h⟩
  · exact ⟨st, .inl rfl, .inl h⟩
  · rcases orElse_ok h with hok | ⟨err, st₁, hf, hs⟩
    · exact ⟨st, .inl rfl, .inl hok⟩
    · exact ⟨st₁, (tryWallet_error_cases hf).imp_right And.right, .inr hs⟩
  · split at h
    · cases h
    · exact ⟨st, .inl rfl, .inl h⟩
    · rcases orElse_ok h with hok | ⟨err, st₁, hf, hs⟩
      · exact ⟨st, .inl rfl, .inr hok⟩
      · exact ⟨st₁, (preConsume_error_cases rfl hf).imp_right And.right, .inl hs⟩

end Chain

/-- **A failed creation leaves no trace**: wallets, tokens and subscriptions are what they were, for every preference
and every failure but one of the write that gives the token back. -/
theorem failed_creation (ew es : Env) (c : TrustContext) (info : RelayInfo) (preConsumedQuota : Int) (st st' : Store)
    (err : NewAPIError) (hw : ew.fails .increaseTokenQuota = none) (hs : es.fails .increaseTokenQuota = none)
    (h : newBillingSession ew es c info preConsumedQuota st = (.error (.error err), st')) : st' = st := by
  rcases newBillingSession_cases ew es c info preConsumedQuota st hw hs with
    hcase | hcase | ⟨err', hcase⟩
  · exact eq_of_error_cases hw (tryWallet_error_cases (hcase.symm.trans h))
  · exact eq_of_error_cases hs (preConsume_error_cases rfl (hcase.symm.trans h))
  · rw [hcase] at h
    cases h
    rfl

namespace Sample

def info : RelayInfo where
  userId := 1
  tokenId := 1
  tokenKey := "sk"
  tokenUnlimited := true
  isPlayground := false
  forcePreConsume := true
  requestId := "a"
  billingPreference := "subscription_first"
  userQuota := 0
  finalPreConsumedQuota := 0
  billingSource := none
  subscriptionId := 0
  subscriptionPreConsumed := 0
  subscriptionPostDelta := 0
  subscriptionAmountTotal := 0
  subscriptionAmountUsedAfterPreConsume := 0
  subscriptionBillingDiscount := 0

end Sample

open Sample

/-- Neither the subscription nor the wallet of the sample user covers 5000: the token is taken, given back, and the
request refused. -/
theorem failed_creation_sample : (newBillingSession (env 1500) (env 1500) ⟨0, 0⟩ info 5000 store).2 = store := by
  refine failed_creation _ _ _ _ _ _ _ ⟨"预扣费额度失败, 用户剩余额度: 100, 需要预扣费额度: 5000", .insufficientUserQuota, 403⟩
    rfl rfl (Prod.ext ?_ rfl)
  decide +kernel

end SynthApi
