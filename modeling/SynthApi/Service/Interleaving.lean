import SynthApi.Lib.Interleave
import SynthApi.Service.Creation

/-!
# Pre-consumptions, statement by statement

The wallet's part of `NewBillingSession` and `Reserve`, cut at its database statements: `Place` says where a request
stands, and `requestStep` executes its next statement. The local computations between two statements belong to the
first of them. A `writer` stands for every other code that changes quotas: settlements, refunds, top-ups.

A request that is not interrupted does what the functions of `BillingSession` compute (`solo_tryWallet`,
`solo_reserve`).
-/

namespace SynthApi

open Lib Lib.Go BillingSession

/-- A request that is to be paid from the wallet. -/
structure Request where
  info : RelayInfo
  trust : TrustContext
  quota : Int

inductive Place where
  | start (r : Request)
  /-- The balance was read and covers the quota; next the token is read. -/
  | balanceRead (s : BillingSession) (quota : Int)
  /-- The token was read and covers the quota; next it is charged. -/
  | tokenRead (s : BillingSession) (quota : Int)
  /-- The token is charged; next the wallet is. -/
  | tokenTaken (s : BillingSession) (quota : Int)
  /-- The wallet could not be charged; next the token gets its quota back. -/
  | rollback (s : BillingSession) (err : String)
  | opened (s : BillingSession)
  /-- `Reserve` has charged the wallet; next the token is read. -/
  | reserveTaken (s : BillingSession) (delta : Int)
  /-- `Reserve` has read the token; next it is charged. -/
  | reserveTokenRead (s : BillingSession) (delta : Int)
  /-- `Reserve` failed on the token; next the wallet gets its quota back. -/
  | reserveRollback (s : BillingSession) (delta : Int)
  | failed (err : NewAPIError)
  | writer

/-- What lets a request go on. -/
inductive Input where
  | run (e : Env)
  /-- Call `Reserve` on the open session. -/
  | reserve (e : Env) (targetQuota : Int)
  | moveWallet (userId delta : Int)
  | moveToken (tokenId delta : Int)

/-- The local code after the balance was read: the checks of `tryWallet`, then trust. -/
def afterBalance (e : Env) (r : Request) (userQuota : Int) : Place :=
  if userQuota ≤ 0 then
    .failed (.forbidden ("用户额度不足, 剩余额度: " ++ e.formatQuota userQuota) .insufficientUserQuota)
  else if userQuota - r.quota < 0 then
    .failed (.forbidden ("预扣费额度失败, 用户剩余额度: " ++ e.formatQuota userQuota ++ ", 需要预扣费额度: " ++
      e.formatQuota r.quota) .insufficientUserQuota)
  else
    let s := fresh { r.info with userQuota := userQuota } (.wallet ⟨r.info.userId, 0⟩)
    let quota := s.effectiveQuota r.trust r.quota
    let s := { s with trusted := s.shouldTrust r.trust }
    if quota ≤ 0 then .opened { s with preConsumedQuota := quota }.syncRelayInfo
    -- the playground has no token
    else if r.info.isPlayground then .tokenTaken { s with tokenConsumed := quota } quota
    else .balanceRead s quota

def requestStep : Place → Input → Store → Place × Store
  | .start r, .run e, st =>
    match getUserQuota e st r.info.userId with
    | .error err => (.failed (.internal err .queryDataError), st)
    | .ok userQuota => (afterBalance e r userQuota, st)
  | .balanceRead s quota, .run e, st =>
    match tokenCheck e s.relayInfo quota (getTokenByKey e st s.relayInfo.tokenKey) with
    | .error err => (.failed (.forbidden err .preConsumeTokenQuotaFailed), st)
    | .ok () => (.tokenRead s quota, st)
  | .tokenRead s quota, .run e, st =>
    match decreaseTokenQuota e st s.relayInfo.tokenId quota with
    | (.error err, st) => (.failed (.forbidden err .preConsumeTokenQuotaFailed), st)
    | (.ok (), st) => (.tokenTaken { s with tokenConsumed := quota } quota, st)
  | .tokenTaken s quota, .run e, st =>
    match s.funding.preConsume e quota st with
    | (.error (.error err), st) => (if s.relayInfo.isPlayground then .failed (fundingError err) else .rollback s err, st)
    | (.error .diverge, st) => (.tokenTaken s quota, st)
    | (.ok funding, st) => (.opened { s with funding := funding, preConsumedQuota := quota }.syncRelayInfo, st)
  | .rollback s err, .run e, st => (.failed (fundingError err), s.rollbackToken e st)
  | .opened s, .reserve e targetQuota, st =>
    if s.settled ∨ s.refunded ∨ s.trusted ∨ targetQuota ≤ s.preConsumedQuota then (.opened s, st)
    else
      let delta := targetQuota - s.preConsumedQuota
      match s.reserveFunding e delta st with
      | (.error _, st) => (.opened s, st)
      | (.ok s, st) =>
        (if s.relayInfo.isPlayground then .opened (s.addReserved delta).syncRelayInfo else .reserveTaken s delta, st)
  | .reserveTaken s delta, .run e, st =>
    match tokenCheck e s.relayInfo delta (getTokenByKey e st s.relayInfo.tokenKey) with
    | .error _ => (.reserveRollback s delta, st)
    | .ok () => (.reserveTokenRead s delta, st)
  | .reserveTokenRead s delta, .run e, st =>
    match decreaseTokenQuota e st s.relayInfo.tokenId delta with
    | (.error _, st) => (.reserveRollback s delta, st)
    | (.ok (), st) => (.opened (s.addReserved delta).syncRelayInfo, st)
  | .reserveRollback s delta, .run e, st =>
    (.opened (s.rollbackFundingReserve e delta st).1, (s.rollbackFundingReserve e delta st).2)
  | .writer, .moveWallet userId delta, st => (.writer, st.addWallet userId delta)
  | .writer, .moveToken tokenId delta, st => (.writer, st.addToken tokenId delta)
  | place, _, st => (place, st)

/-! ## Without interruption -/

def soloStep (p : Place × Store) (input : Input) : Place × Store := requestStep p.1 input p.2

def creationPlace : Except (Halt NewAPIError) BillingSession × Store → Option (Place × Store)
  | (.ok s, st) => some (.opened s, st)
  | (.error (.error err), st) => some (.failed err, st)
  | (.error .diverge, _) => none

/-- The end of a creation: the wallet, and the rollback of the token if the wallet fails. -/
def chargeFunding (e : Env) (quota : Int) (s : BillingSession) (st : Store) :
    Except (Halt NewAPIError) BillingSession × Store :=
  match s.funding.preConsume e quota st with
  | (.error (.error err), st) => (.error (.error (fundingError err)), s.rollbackToken e st)
  | (.error .diverge, st) => (.error .diverge, st)
  | (.ok funding, st) => (.ok { s with funding := funding, preConsumedQuota := quota }.syncRelayInfo, st)

section Solo

variable {e : Env} {st : Store} {s : BillingSession} {quota : Int} {r : Except (Halt NewAPIError) BillingSession × Store}

variable {p : Place × Store} {w : WalletFunding}

theorem run_soloStep (place : Place) (input : Input) (inputs : List Input) :
    run soloStep (place, st) (input :: inputs) = run soloStep (requestStep place input st) inputs := rfl

theorem run_ended (h : creationPlace r = some p) : run soloStep p [.run e, .run e] = p := by
  obtain ⟨r, st⟩ := r
  cases r with
  | ok s => cases h; rfl
  | error err =>
    cases err with
    | error err => cases h; rfl
    | diverge => cases h

theorem solo_tokenTaken (hq : 0 < quota) (hf : s.funding = .wallet w) :
    creationPlace (chargeFunding e quota s st) = some (run soloStep (.tokenTaken s quota, st) [.run e, .run e]) := by
  rw [chargeFunding, run_soloStep, requestStep, hf, FundingSource.preConsume]
  rcases w.preConsume_cases e quota st with ⟨hle, _⟩ | ⟨_, hc⟩ | ⟨err, hc⟩
  · omega
  · rw [hc]
    rfl
  · rw [hc]
    dsimp only
    by_cases hp : s.relayInfo.isPlayground
    · rw [if_pos hp, BillingSession.rollbackToken, if_neg (by simp [hp])]
      rfl
    · rw [if_neg hp]
      rfl

/-- A creation after its checks: the token, the wallet, and the rollback. -/
theorem solo_preConsume (hf : s.funding = .wallet w) :
    creationPlace (match s.preConsumeToken e quota st with
      | (.error err, st) => (.error (.error err), st)
      | (.ok s, st) => chargeFunding e quota s st) =
    some (run soloStep (if quota ≤ 0 then .opened { s with preConsumedQuota := quota }.syncRelayInfo
      else if s.relayInfo.isPlayground then .tokenTaken { s with tokenConsumed := quota } quota
      else .balanceRead s quota, st) [.run e, .run e, .run e, .run e]) := by
  by_cases hq : quota ≤ 0
  · have htoken : s.preConsumeToken e quota st = (.ok s, st) := by
      rw [preConsumeToken, if_neg (by omega)]
    rw [htoken, if_pos hq]
    dsimp only
    rw [chargeFunding, hf, FundingSource.preConsume, WalletFunding.preConsume, if_pos hq]
    rfl
  have hpos : 0 < quota := by omega
  have hwallet : ∀ st, creationPlace (chargeFunding e quota { s with tokenConsumed := quota } st) =
      some (run soloStep (.tokenTaken { s with tokenConsumed := quota } quota, st) [.run e, .run e]) :=
    fun st => solo_tokenTaken hpos hf
  rw [if_neg hq, preConsumeToken, if_pos hpos, preConsumeTokenQuota, if_neg (by omega)]
  by_cases hp : s.relayInfo.isPlayground
  · rw [if_pos hp, if_pos hp]
    have hsplit : ([.run e, .run e, .run e, .run e] : List Input) = [.run e, .run e] ++ [.run e, .run e] := rfl
    rw [hwallet, hsplit, run_append, run_ended (hwallet st)]
  · rw [if_neg hp, if_neg hp, run_soloStep, requestStep]
    cases tokenCheck e s.relayInfo quota (getTokenByKey e st s.relayInfo.tokenKey) with
    | error err => rfl
    | ok _ =>
      rw [run_soloStep, requestStep]
      cases decreaseTokenQuota e st s.relayInfo.tokenId quota with
      | mk r st' =>
        cases r with
        | error err => rfl
        | ok _ => exact hwallet st'

/-- **A creation without interruption** is `tryWallet`. -/
theorem solo_tryWallet (e : Env) (r : Request) (st : Store) :
    creationPlace (tryWallet e r.trust r.info r.quota st) =
      some (run soloStep (.start r, st) [.run e, .run e, .run e, .run e, .run e]) := by
  rw [run_soloStep, requestStep, tryWallet]
  cases getUserQuota e st r.info.userId with
  | error err => rfl
  | ok userQuota =>
    dsimp only
    unfold afterBalance
    by_cases h₁ : userQuota ≤ 0
    · rw [if_pos h₁, if_pos h₁]
      rfl
    rw [if_neg h₁, if_neg h₁]
    by_cases h₂ : userQuota - r.quota < 0
    · rw [if_pos h₂, if_pos h₂]
      rfl
    rw [if_neg h₂, if_neg h₂]
    exact solo_preConsume rfl

/-- **A `Reserve` without interruption** is `reserve`: after at most two statements on the token the last one is the rollback, if
there is any, with an outcome of its own. -/
theorem solo_reserve (e e' : Env) (s : BillingSession) (st : Store) (targetQuota : Int) :
    ∃ n ≤ 2, run soloStep (.opened s, st) (.reserve e targetQuota :: (List.replicate n (.run e) ++ [.run e'])) =
      (.opened (s.reserve e e' targetQuota st).2.1, (s.reserve e e' targetQuota st).2.2) := by
  simp only [run_soloStep, requestStep, BillingSession.reserve]
  split
  · exact ⟨0, by decide, rfl⟩
  · have hd : 0 < targetQuota - s.preConsumedQuota := by
      omega
    generalize targetQuota - s.preConsumedQuota = d at hd ⊢
    cases hfund : s.reserveFunding e d st with
    | mk r st₁ =>
      cases r with
      | error err => exact ⟨0, by decide, rfl⟩
      | ok s₁ =>
        dsimp only
        rw [reserveToken]
        by_cases hp : s₁.relayInfo.isPlayground
        · rw [if_pos hp, if_pos (.inr hp)]
          exact ⟨0, by decide, rfl⟩
        · rw [if_neg hp, if_neg (by simp [hp, hd]), preConsumeTokenQuota, if_neg (by omega), if_neg hp]
          cases hcheck : tokenCheck e s₁.relayInfo d (getTokenByKey e st₁ s₁.relayInfo.tokenKey) with
          | error err =>
            refine ⟨1, by decide, ?_⟩
            rw [List.replicate_one, List.singleton_append, run_soloStep, requestStep, hcheck]
            rfl
          | ok _ =>
            refine ⟨2, le_rfl, ?_⟩
            rw [List.replicate_succ, List.cons_append, run_soloStep, requestStep, hcheck]
            dsimp only
            rw [List.replicate_one, List.singleton_append, run_soloStep, requestStep]
            cases decreaseTokenQuota e st₁ s₁.relayInfo.tokenId d with
            | mk r st₂ => cases r <;> rfl

end Solo

end SynthApi
