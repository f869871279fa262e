import SynthApi.Model.Token
import SynthApi.Service.AudioQuota

/-!
# Tokens over a history

Requests validate the key, open billing sessions, reserve, settle and refund, in any order and for any number of sessions
(`TokenEvent`, `tokenStep`). The quota of a token moves in all of these, its status only in a validation. No event gives a
token its status `enabled` back: a token that was found exhausted once is rejected even after a refund, and
`funded_token_accepted_iff` says that this is the only way in which a token with quota is rejected.
-/

namespace SynthApi

open Lib Lib.Go Table

/-! ## What the quota functions leave alone -/

/-- What identifies a token, and whether it is limited. -/
def Token.identity (t : Token) : Int × String × Bool := (t.id, t.key, t.unlimitedQuota)

def SameTokens (st st' : Store) : Prop := st'.tokens.map Token.identity = st.tokens.map Token.identity

namespace SameTokens

variable {st st' st'' : Store}

theorem refl (st : Store) : SameTokens st st := rfl

theorem trans (h : SameTokens st st') (h' : SameTokens st' st'') : SameTokens st st'' := Eq.trans h' h

theorem lookup_identity (key : String) (rows : List Token) :
    (lookup Token.key key rows).map Token.identity =
      (rows.map Token.identity).find? fun i => decide (i.2.1 = key) := by
  rw [List.find?_map]
  rfl

theorem lookup (h : SameTokens st st') {key : String} {t : Token} (ht : lookup Token.key key st.tokens = some t) :
    ∃ t', lookup Token.key key st'.tokens = some t' ∧ t'.id = t.id ∧ t'.unlimitedQuota = t.unlimitedQuota := by
  have hmap : (Table.lookup Token.key key st'.tokens).map Token.identity = some t.identity := by
    rw [lookup_identity, h, ← lookup_identity, ht]
    rfl
  obtain ⟨t', ht', hid⟩ := Option.map_eq_some_iff.1 hmap
  simp only [Token.identity, Prod.mk.injEq] at hid
  exact ⟨t', ht', hid.1, hid.2.2⟩

variable {e e' : Env} {stmt : Stmt} {id delta quota : Int} {info : RelayInfo} {c : TrustContext} {s : BillingSession}
  {funding : FundingSource} (h : SameTokens st st')

include h

theorem addToken : SameTokens st (st'.addToken id delta) := by
  refine h.trans ?_
  unfold SameTokens Store.addToken
  split
  · rfl
  · exact map_updateKey fun _ _ => rfl

theorem move {P Q : Int → Int → Prop} (hm : QuotaMove P Q st' st'') : SameTokens st st'' := by
  cases hm with
  | wallet hp => exact h.trans (by rw [SameTokens, Store.addWallet_tokens])
  | token hq => exact h.addToken
  | frame hf => exact h.trans (by rw [SameTokens, hf.tokens])

theorem changeUserQuota :
    SameTokens st (changeUserQuota e stmt delta st' id quota).2 :=
  h.move (Q := fun _ _ => True) (changeUserQuota_move st' e stmt delta id quota)

theorem changeTokenQuota :
    SameTokens st (changeTokenQuota e stmt delta st' id quota).2 :=
  h.move (P := fun _ _ => True) (changeTokenQuota_move st' e stmt delta id quota)

theorem frame (hf : SubFrame st' st'') : SameTokens st st'' :=
  h.move (P := fun _ _ => True) (Q := fun _ _ => True) (.frame hf)

theorem postConsume (e : Env) (id delta : Int) :
    SameTokens st (postConsumeUserSubscriptionDelta e id delta st').2 := h.frame (subStep_frame st' (.postConsume e id delta))

theorem takeToken {a : Account} : SameTokens st (a.takeToken quota st') := by
  unfold Account.takeToken
  split
  · exact h
  · exact h.addToken

theorem preConsumeTokenQuota (e : Env) (info : RelayInfo) (quota : Int) :
    SameTokens st (preConsumeTokenQuota e info quota st').2 := by
  rcases preConsumeTokenQuota_cases e info quota st' with hc | ⟨err, hc⟩
  · rw [hc]
    exact h.takeToken
  · rw [hc]
    exact h

/-! ### The funding source -/

theorem funding_settle : SameTokens st (funding.settle e delta st').2 := by
  cases funding with
  | wallet w =>
    have hw : SameTokens st (w.settle e delta st').2 := by
      unfold WalletFunding.settle
      split
      · exact h
      · split
        · exact h.changeUserQuota
        · exact h.changeUserQuota
    rw [FundingSource.settle]
    split <;> rename_i hc <;> rwa [hc] at hw
  | subscription sub =>
    rw [FundingSource.settle, SubscriptionFunding.settle]
    have hs := h.postConsume e sub.subscriptionId delta
    split_ifs
    · exact h
    · cases hp : postConsumeUserSubscriptionDelta e sub.subscriptionId delta st' with
      | mk r st₁ =>
        rw [hp] at hs
        cases r <;> exact hs

theorem refundWithRetry {requestId : String} {attempts attempt : Nat} :
    SameTokens st (refundWithRetry (fun attempt => refundSubscriptionPreConsume e attempt requestId) attempts attempt
      st').2 := by
  induction attempts generalizing attempt st' with
  | zero => exact h
  | succ attempts ih =>
    have hr := h.frame (subStep_frame st' (.refund e attempt requestId))
    unfold SynthApi.refundWithRetry
    cases hp : refundSubscriptionPreConsume e attempt requestId st' with
    | mk r st₁ =>
      rw [subStep, hp] at hr
      cases r with
      | ok u => exact hr
      | error err =>
        dsimp only
        split
        · exact hr
        · exact ih hr

theorem funding_refund : SameTokens st (funding.refund e st').2 := by
  cases funding with
  | wallet w =>
    change SameTokens st (w.refund e st').2
    unfold WalletFunding.refund
    split
    · exact h
    · exact h.changeUserQuota
  | subscription sub =>
    change SameTokens st (sub.refund e st').2
    unfold SubscriptionFunding.refund
    split
    · exact h
    · exact h.refundWithRetry

/-! ### The session -/

theorem session_preConsume : SameTokens st (s.preConsume e c quota st').2 := by
  unfold BillingSession.preConsume
  dsimp only
  generalize s.effectiveQuota c quota = q
  generalize { s with trusted := s.shouldTrust c } = s
  have htoken : SameTokens st (s.preConsumeToken e q st').2 := by
    rcases preConsumeToken_cases e q s st' with ⟨-, hc⟩ | ⟨-, hc⟩ | ⟨err, hc⟩
    · rw [hc]
      exact h
    · rw [hc]
      exact h.takeToken
    · rw [hc]
      exact h
  cases hp : s.preConsumeToken e q st' with
  | mk r st₁ =>
    rw [hp] at htoken
    cases r with
    | error err => exact htoken
    | ok s =>
      have hfund := htoken.move (Q := fun _ _ => True) (funding_preConsume_move _ e s.funding q)
      dsimp only at hfund ⊢
      split
      · rename_i hf
        rw [hf] at hfund
        exact hfund.move (P := fun _ _ => True) (rollbackToken_move _ e s)
      all_goals
        rename_i hf
        rwa [hf] at hfund

theorem tryWallet : SameTokens st (BillingSession.tryWallet e c info quota st').2 := by
  unfold BillingSession.tryWallet
  split
  · exact h
  · split
    · exact h
    · split
      · exact h
      · exact h.session_preConsume

omit h in
theorem orElse {first second : Store → Except (Halt NewAPIError) BillingSession × Store}
    (h : SameTokens st (first st').2) (h' : ∀ st₁, SameTokens st st₁ → SameTokens st (second st₁).2) :
    SameTokens st (orElse first second st').2 := by
  unfold SynthApi.orElse
  split
  · rename_i err st₁ hf
    rw [hf] at h
    split
    · exact h' st₁ h
    · exact h
  · exact h

theorem newBillingSession (ew es : Env) (c : TrustContext) (info : RelayInfo) (quota : Int) :
    SameTokens st (newBillingSession ew es c info quota st').2 := by
  unfold SynthApi.newBillingSession
  split
  · exact h.session_preConsume
  · exact h.tryWallet
  · exact orElse h.tryWallet fun _ h => h.session_preConsume
  · split
    · exact h
    · exact h.tryWallet
    · exact orElse h.session_preConsume fun _ h => h.tryWallet

theorem reserveToken : SameTokens st (s.reserveToken e delta st').2 := by
  have ht := h.preConsumeTokenQuota e s.relayInfo delta
  unfold BillingSession.reserveToken
  split
  · exact h
  · split <;> rename_i hc <;> rwa [hc] at ht

theorem reserve {targetQuota : Int} :
    SameTokens st (s.reserve e e' targetQuota st').2.2 := by
  unfold BillingSession.reserve
  split
  · exact h
  · dsimp only
    generalize targetQuota - s.preConsumedQuota = delta
    have hfund := h.move (Q := fun _ _ => True) (reserveFunding_move st' e delta s)
    cases hf : s.reserveFunding e delta st' with
    | mk r st₁ =>
      rw [hf] at hfund
      cases r with
      | error err => exact hfund
      | ok s =>
        have htoken : SameTokens st (s.reserveToken e delta st₁).2 := hfund.reserveToken
        dsimp only at htoken ⊢
        cases ht : s.reserveToken e delta st₁ with
        | mk r st₂ =>
          rw [ht] at htoken
          cases r with
          | error err => exact htoken.move (Q := fun _ _ => True) (rollbackFundingReserve_move _ e' delta s)
          | ok u => exact htoken

theorem settleToken : SameTokens st (s.settleToken e delta st').2 := by
  unfold BillingSession.settleToken
  split
  · exact h
  · split
    · exact h.changeTokenQuota
    · exact h.changeTokenQuota

theorem settle {actualQuota : Int} : SameTokens st (s.settle e actualQuota st').2.2 := by
  unfold BillingSession.settle
  split
  · exact h
  · dsimp only
    generalize actualQuota - s.preConsumedQuota = delta
    split
    · exact h
    · have hfund : SameTokens st (if s.fundingSettled then (.ok s.funding, st') else s.funding.settle e delta st').2 := by
        split
        · exact h
        · exact h.funding_settle
      split
      · rename_i hf
        rwa [hf] at hfund
      · rename_i hf
        rw [hf] at hfund
        exact hfund.settleToken

theorem job {job : RefundJob} : SameTokens st (job.exec e funding st') := by
  have hfund : SameTokens st (funding.refund e st').2 := h.funding_refund
  unfold RefundJob.exec
  dsimp only
  have hextra : SameTokens st
      (if 0 < job.extraReserved ∧ funding.source = .subscription ∧ 0 < job.subscriptionId then
        (postConsumeUserSubscriptionDelta e job.subscriptionId (-job.extraReserved) (funding.refund e st').2).2
      else (funding.refund e st').2) := by
    split
    · exact hfund.postConsume e _ _
    · exact hfund
  split
  · exact hextra.changeTokenQuota
  · exact hextra

omit h in
theorem callStep {s : SessionState} (h : SameTokens st s.store) (c : Call) : SameTokens st (callStep s c).store := by
  cases c with
  | reserve e e' targetQuota => exact h.reserve
  | settle e actualQuota => exact h.settle
  | refund => exact h
  | job e =>
    unfold SynthApi.callStep
    dsimp only
    split
    · exact h
    · exact h.job

/-! ### The charge without a session -/

theorem postConsumeQuota : SameTokens st (postConsumeQuota e info quota st').2.2 := by
  have hfund : SameTokens st (postConsumeFunding e info quota st').2 := by
    unfold postConsumeFunding
    split
    · have hs := h.postConsume e info.subscriptionId quota
      split
      · exact h
      · split
        · exact h
        · split <;> rename_i hp <;> rwa [hp] at hs
    · have hw : SameTokens st (if 0 < quota then decreaseUserQuota e st' info.userId quota
          else increaseUserQuota e st' info.userId (-quota)).2 := by
        split
        · exact h.changeUserQuota
        · exact h.changeUserQuota
      split <;> rename_i hc <;> rwa [hc] at hw
  unfold SynthApi.postConsumeQuota
  cases hp : postConsumeFunding e info quota st' with
  | mk r st₁ =>
    rw [hp] at hfund
    cases r with
    | error err => exact hfund
    | ok info =>
      dsimp only at hfund ⊢
      unfold postConsumeToken
      split
      · exact hfund
      · split
        · exact hfund.changeTokenQuota
        · exact hfund.changeTokenQuota

end SameTokens

/-! ## Histories -/

/-- The tokens, and the open sessions with their pending goroutines. -/
structure TokenState where
  tokens : TokenStore
  sessions : List (BillingSession × List RefundJob)

inductive TokenEvent where
  | validate (call : ValidateCall) (key : String)
  /-- `PreConsumeTokenQuota`. -/
  | preConsume (e : Env) (info : RelayInfo) (quota : Int)
  /-- `PostConsumeQuota`. -/
  | postConsume (e : Env) (info : RelayInfo) (quota : Int)
  /-- `NewBillingSession`. -/
  | openSession (ew es : Env) (c : TrustContext) (info : RelayInfo) (quota : Int)
  /-- A call on the session `i`, or the run of its goroutine. -/
  | onSession (i : Nat) (c : Call)

def TokenEvent.WithoutRedis : TokenEvent → Prop
  | .validate call _ => call.redisEnabled = false
  | _ => True

namespace TokenState

def setStore (s : TokenState) (st : Store) : TokenState := { s with tokens := { s.tokens with store := st } }

def step (s : TokenState) : TokenEvent → TokenState
  | .validate call key => { s with tokens := (s.tokens.validateUserToken call key).2 }
  | .preConsume e info quota => s.setStore (preConsumeTokenQuota e info quota s.tokens.store).2
  | .postConsume e info quota => s.setStore (postConsumeQuota e info quota s.tokens.store).2.2
  | .openSession ew es c info quota =>
    match newBillingSession ew es c info quota s.tokens.store with
    | (.ok session, st) => { s.setStore st with sessions := s.sessions ++ [(session, [])] }
    | (.error _, st) => s.setStore st
  | .onSession i c =>
    match s.sessions[i]? with
    | none => s
    | some (session, jobs) =>
      let after := callStep ⟨s.tokens.store, session, jobs⟩ c
      { s.setStore after.store with sessions := s.sessions.set i (after.session, after.jobs) }

def FindsSpent (id : Int) (s : TokenState) : TokenEvent → Prop
  | .validate call key => s.tokens.FindsSpent call key id
  | _ => False

section Step

variable {s : TokenState} {ev : TokenEvent}

/-- An event moves the quota of tokens only. -/
theorem step_sameTokens (hredis : ev.WithoutRedis) : SameTokens s.tokens.store (s.step ev).tokens.store := by
  have h := SameTokens.refl s.tokens.store
  cases ev with
  | validate call key =>
    change SameTokens _ (s.tokens.validateUserToken call key).2.store
    rw [TokenStore.validateUserToken_store hredis]
    exact h
  | preConsume e info quota => exact h.preConsumeTokenQuota e info quota
  | postConsume e info quota => exact h.postConsumeQuota
  | openSession ew es c info quota =>
    have hnew := h.newBillingSession ew es c info quota
    unfold step
    dsimp only
    split <;> rename_i hn <;> rwa [hn] at hnew
  | onSession i c =>
    unfold step
    dsimp only
    split
    · exact h
    · rename_i session jobs hi
      exact SameTokens.callStep (s := ⟨s.tokens.store, session, jobs⟩) h c

/-- **Only a validation that finds it spent** takes the status from a token, and no event gives it back. -/
theorem step_status (hredis : ev.WithoutRedis) (id : Int) :
    ((s.step ev).tokens.columns id).status = .enabled ↔
      (s.tokens.columns id).status = .enabled ∧ ¬ s.FindsSpent id ev := by
  cases ev with
  | validate call key => exact TokenStore.validateUserToken_status hredis id
  | preConsume e info quota | postConsume e info quota => exact (and_iff_left not_false).symm
  | openSession ew es c info quota | onSession i c =>
    -- the columns stay, whether there is a session or not
    unfold step
    dsimp only
    split <;> exact (and_iff_left not_false).symm

end Step

section Run

variable {s : TokenState} {evs : List TokenEvent}

theorem run_sameTokens (hredis : ∀ ev ∈ evs, ev.WithoutRedis) :
    SameTokens s.tokens.store (run step s evs).tokens.store :=
  run_inv_along (I := fun s' : TokenState => SameTokens s.tokens.store s'.tokens.store)
    (fun _ _ hev h => h.trans (step_sameTokens hev)) (along_of_forall hredis) (SameTokens.refl _)

theorem run_status (hredis : ∀ ev ∈ evs, ev.WithoutRedis) (id : Int) :
    ((run step s evs).tokens.columns id).status = .enabled ↔
      (s.tokens.columns id).status = .enabled ∧ Along step (fun s ev => ¬ s.FindsSpent id ev) s evs := by
  induction evs generalizing s with
  | nil => exact (and_iff_left trivial).symm
  | cons ev evs ih =>
    rw [run_cons, ih (List.forall_mem_cons.1 hredis).2, step_status (hredis ev List.mem_cons_self) id,
      and_assoc]
    rfl

end Run

/-- **A token with quota that has not expired is accepted after a history if and only if** it was enabled at the start and
no validation of the history found it exhausted or expired. -/
theorem funded_token_accepted_iff (s : TokenState) (evs : List TokenEvent) (hredis : ∀ ev ∈ evs, ev.WithoutRedis)
    (call : ValidateCall) (hcall : call.redisEnabled = false) (hquery : call.queryFails = none) (key : String)
    (hkey : key ≠ "") (t t' : Token) (ht : Table.lookup Token.key key s.tokens.store.tokens = some t)
    (ht' : Table.lookup Token.key key (run step s evs).tokens.store.tokens = some t')
    (hexpired : ((run step s evs).tokens.row t').isExpired call.now = false)
    (hquota : t'.unlimitedQuota = true ∨ 0 < t'.remainQuota) :
    ((run step s evs).tokens.validateUserToken call key).1.2 = none ↔
      (s.tokens.columns t.id).status = .enabled ∧ Along step (fun s ev => ¬ s.FindsSpent t.id ev) s evs := by
  obtain ⟨t'', ht'', hid, -⟩ := (run_sameTokens hredis).lookup ht
  rw [ht', Option.some.injEq] at ht''
  subst ht''
  have hfunded : ((run step s evs).tokens.row t').isExhausted = false := by
    refine decide_eq_false ?_
    rintro ⟨hlimited, hle⟩
    rcases hquota with h | h
    · exact hlimited h
    · exact absurd hle (not_le.2 h)
  rw [TokenStore.validateUserToken_accepts hcall hquery hkey ht', hid, run_status hredis]
  simp [hexpired, hfunded]

/-! ### A token that was used up for a moment -/

open Sample

/-- The sample user pays from the wallet, with an enabled token that has 100 left. -/
def sampleState : TokenState := ⟨⟨store, fun _ => ⟨.enabled, -1⟩⟩, []⟩

def sampleInfo : RelayInfo := { info with tokenUnlimited := false, billingPreference := "wallet_only" }

def sampleCall (now : Int) : ValidateCall := ⟨false, none, now, none, none⟩

/-- A request takes all of the token and is refunded. -/
def takenAndRefunded (between : List TokenEvent) : List TokenEvent :=
  [.openSession (env 1500) (env 1500) ⟨0, 0⟩ sampleInfo 100] ++ between ++
    [.onSession 0 .refund, .onSession 0 (.job (env 1600))]

theorem funded_token_accepted_iff_refunded :
    Table.lookup Token.key "sk" (run step sampleState (takenAndRefunded [])).tokens.store.tokens =
        some ⟨1, "sk", 100, 0, false⟩ ∧
      ((run step sampleState (takenAndRefunded [])).tokens.validateUserToken (sampleCall 1700) "sk").1.2 = none := by
  have hafter : lookup Token.key "sk" (run step sampleState (takenAndRefunded [])).tokens.store.tokens =
      some ⟨1, "sk", 100, 0, false⟩ := by decide +kernel
  have hredis : ∀ ev ∈ takenAndRefunded [], ev.WithoutRedis := by simp [takenAndRefunded, TokenEvent.WithoutRedis]
  refine ⟨hafter, (funded_token_accepted_iff sampleState (takenAndRefunded []) hredis (sampleCall 1700) rfl rfl "sk"
    (by decide) ⟨1, "sk", 100, 0, false⟩ ⟨1, "sk", 100, 0, false⟩ rfl hafter (by decide +kernel)
    (.inr (by decide))).2 ⟨rfl, ?_⟩⟩
  exact ⟨not_false, not_false, not_false, trivial⟩

/-- A validation while the quota is taken: after the refund the token has 100 left and is rejected. -/
theorem refunded_token_rejected :
    Table.lookup Token.key "sk"
        (run step sampleState (takenAndRefunded [.validate (sampleCall 1550) "sk"])).tokens.store.tokens =
          some ⟨1, "sk", 100, 0, false⟩ ∧
      ((run step sampleState (takenAndRefunded [.validate (sampleCall 1550) "sk"])).tokens.validateUserToken
        (sampleCall 1700) "sk").1.2 = some .invalid := by
  decide +kernel

end TokenState

end SynthApi
