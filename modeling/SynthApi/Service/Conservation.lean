import SynthApi.Lib.Hold
import SynthApi.Service.Creation

/-!
# Conservation of the wallet

A wallet-funded session is a hold on the wallet and on the token (`Lib.Hold`): the pre-consumption opens it, `Reserve`
extends it, `Settle` captures, and a `Refund` that takes effect releases. `Represents` relates a session to the hold it
stands for, with what the account is short of since before the session was created; a session returned by
`newBillingSession` represents an open hold (`newBillingSession_represents`), and each call keeps the relation
(`represents_step`).

The main result is `wallet_conservation`: once the goroutines have run, the debit of wallet and token is the amount of
the first `Settle` before any `Refund` that takes effect, 0 after such a `Refund`, and else the session's pre-consumed
quota.
-/

namespace SynthApi

open Lib Lib.Go BillingSession Account

/-! ## The account of a session -/

namespace Account

/-- The token's share of a debit: nothing on the playground. -/
def share (a : Account) (quota : Int) : Int := if a.isPlayground then 0 else quota

def Exists (a : Account) (st : Store) : Prop := st.HasUser a.userId ∧ (a.isPlayground = false → st.HasToken a.tokenId)

def Debited (a : Account) (base : Store) (quota : Int) (st : Store) : Prop :=
  Moves a.userId a.tokenId (-quota) (-a.share quota) base st

section Debits

variable {a : Account} {base st st' : Store} {q d : Int}

theorem Debited.zero (a : Account) (st : Store) : a.Debited st 0 st := by
  have h : -a.share 0 = 0 := by unfold share; split <;> rfl
  exact (Moves.refl st).of_eq rfl h

theorem Debited.exists (h : a.Debited base q st) (hb : a.Exists base) : a.Exists st :=
  ⟨h.hasUser.2 hb.1, fun hp => h.hasToken.2 (hb.2 hp)⟩

theorem share_add : a.share (q + d) = a.share q + a.share d := by
  unfold share
  split <;> omega

theorem Debited.trans (h : a.Debited base q st) (h' : Moves a.userId a.tokenId (-d) (-a.share d) st st') :
    a.Debited base (q + d) st' := by
  refine (Moves.trans h h').of_eq (by omega) ?_
  rw [share_add]
  omega

end Debits

def charge (a : Account) (quota : Int) (st : Store) : Store := a.takeToken quota (st.addWallet a.userId (-quota))

theorem takeToken_moves {a : Account} {st : Store} (quota : Int) (h : a.Exists st) :
    Moves a.userId a.tokenId 0 (-a.share quota) st (a.takeToken quota st) := by
  unfold takeToken share
  split
  · exact (Moves.refl st).of_eq rfl rfl
  · rename_i hp
    exact Moves.addToken a.userId (-quota) (h.2 (by simpa using hp))

theorem charge_moves {a : Account} {st : Store} (quota : Int) (h : a.Exists st) :
    Moves a.userId a.tokenId (-quota) (-a.share quota) st (a.charge quota st) := by
  have hwallet := Moves.addWallet a.tokenId (-quota) h.1
  have hex : a.Exists (st.addWallet a.userId (-quota)) := ⟨hwallet.hasUser.2 h.1, fun hp => hwallet.hasToken.2 (h.2 hp)⟩
  exact (hwallet.trans (takeToken_moves quota hex)).of_eq (by omega) (by omega)

end Account

/-! ## The hold of a session -/

structure Holds (a : Account) (quota : Int) (s : BillingSession) : Prop where
  account : s.relayInfo.account = a
  funding : s.funding = .wallet ⟨a.userId, quota⟩
  tokenConsumed : s.tokenConsumed = quota
  nonneg : 0 ≤ quota

/-- The state of a session stands for the hold, for an account that was in the state `base` before the session. -/
def Represents (a : Account) (base : Store) (s : SessionState) : Hold → Prop
  | .held quota => Holds a quota s.session ∧ s.session.preConsumedQuota = quota ∧ s.session.settled = false ∧
      s.session.refunded = false ∧ s.session.fundingSettled = false ∧ s.jobs = [] ∧ a.Debited base quota s.store
  | .captured quota => s.session.settled = true ∧ s.jobs = [] ∧ a.Debited base quota s.store
  | .released => s.session.refunded = true ∧ ((s.jobs = [] ∧ a.Debited base 0 s.store) ∨
      -- the goroutine has not run yet
      ∃ quota job, 0 < quota ∧ Holds a quota s.session ∧ s.jobs = [job] ∧ job.tokenId = a.tokenId ∧
        job.isPlayground = a.isPlayground ∧ job.tokenConsumed = quota ∧ a.Debited base quota s.store)

def holdOps (s : SessionState) : Call → List Hold.Op
  | .reserve e e' targetQuota => [.extend (callStep s (.reserve e e' targetQuota)).session.preConsumedQuota]
  | .settle _ actualQuota => [.capture actualQuota]
  | .refund => if s.session.refundTakesEffect then [.release] else []
  | .job _ => []

/-- A call whose writes succeed, and that is no `Settle` after a `Refund` that took effect. -/
def Proper (s : SessionState) (c : Call) : Prop :=
  c.WritesSucceed ∧ ∀ e actualQuota, c = .settle e actualQuota → s.session.refunded = false

/-! ## The calls on a session that holds -/

section Calls

variable {a : Account} {q : Int} {s : BillingSession} {e e' : Env} {st : Store}

theorem Holds.tokenId (h : Holds a q s) : s.relayInfo.tokenId = a.tokenId := congrArg Account.tokenId h.account

theorem Holds.isPlayground (h : Holds a q s) : s.relayInfo.isPlayground = a.isPlayground :=
  congrArg Account.isPlayground h.account

def extended (a : Account) (q d : Int) (s : BillingSession) : BillingSession :=
  (addReserved d { s with funding := .wallet ⟨a.userId, q + d⟩ }).syncRelayInfo

theorem reserveToken_cases (s : BillingSession) (e : Env) {delta : Int} (hd : 0 < delta) (st : Store) :
    s.reserveToken e delta st = (.ok (), s.relayInfo.account.takeToken delta st) ∨
      ∃ err, s.reserveToken e delta st = (.error err, st) := by
  unfold reserveToken
  by_cases hp : s.relayInfo.isPlayground
  · rw [if_pos (.inr hp), takeToken, if_pos (by exact hp)]
    exact .inl rfl
  · rw [if_neg (by simp [hp, hd])]
    rcases preConsumeTokenQuota_cases e s.relayInfo delta st with hc | ⟨err, hc⟩
    · rw [hc]
      exact .inl rfl
    · rw [hc]
      exact .inr ⟨_, rfl⟩

/-- **`Reserve`** leaves the session and the store as they were, or charges the account for what the target exceeds the
pre-consumption by. If the token refuses and the rollback fails, the wallet stays charged, and the session knows it. -/
theorem reserve_cases (hfund : s.funding = .wallet ⟨a.userId, q⟩) (hacc : s.relayInfo.account = a) (targetQuota : Int) :
    (s.reserve e e' targetQuota st).2 = (s, st) ∨
      ∃ d, 0 < d ∧ ((s.reserve e e' targetQuota st).2 = (extended a q d s, a.charge d st) ∨
        e'.fails .increaseUserQuota ≠ none ∧ (s.reserve e e' targetQuota st).2 =
          ({ s with funding := .wallet ⟨a.userId, q + d⟩ }, st.addWallet a.userId (-d))) := by
  unfold reserve
  split
  · exact .inl rfl
  · have hd : 0 < targetQuota - s.preConsumedQuota := by
      omega
    generalize targetQuota - s.preConsumedQuota = d at hd ⊢
    unfold reserveFunding decreaseUserQuota
    rw [hfund]
    dsimp only
    rcases changeUserQuota_cases e .decreaseUserQuota (-d) st a.userId d with ⟨-, htake⟩ | ⟨err, htake⟩
    · rw [htake]
      dsimp only
      rcases reserveToken_cases { s with funding := .wallet ⟨a.userId, q + d⟩ } e hd (st.addWallet a.userId (-d)) with
        hok | ⟨err, herr⟩
      · rw [hok]
        refine .inr ⟨d, hd, .inl ?_⟩
        rw [hacc]
        rfl
      · rw [herr]
        unfold rollbackFundingReserve increaseUserQuota
        dsimp only
        rcases changeUserQuota_cases e' .increaseUserQuota d (st.addWallet a.userId (-d)) a.userId d with
          ⟨-, hback⟩ | ⟨err', hback⟩
        · -- the wallet gets back what was taken
          have hq : q + d - d = q := by omega
          left
          rw [hback, Store.addWallet_cancel, hq, ← hfund]
        · refine .inr ⟨d, hd, .inr ⟨fun hnone => ?_, by rw [hback]⟩⟩
          rw [changeUserQuota_ok hd.le hnone] at hback
          cases hback
    · rw [htake]
      exact .inl rfl

/-- **`Settle`** of an open session charges the account for the difference. -/
theorem settle_holds (he : e.WritesSucceed) (h : Holds a q s) (hs : s.settled = false) (hf : s.fundingSettled = false)
    (hex : a.Exists st) (actualQuota : Int) :
    (s.settle e actualQuota st).2.1.settled ∧
      Moves a.userId a.tokenId (-(actualQuota - s.preConsumedQuota)) (-a.share (actualQuota - s.preConsumedQuota)) st
        (s.settle e actualQuota st).2.2 := by
  unfold settle
  rw [if_neg (by simp [hs])]
  dsimp only
  generalize actualQuota - s.preConsumedQuota = d
  split
  · rename_i hd
    subst hd
    exact ⟨rfl, Account.Debited.zero a st⟩
  · rename_i hd
    have hwallet : (if s.fundingSettled then (.ok s.funding, st) else s.funding.settle e d st) =
        (.ok s.funding, st.addWallet a.userId (-d)) := by
      rw [if_neg (by simp [hf]), h.funding, FundingSource.settle, WalletFunding.settle, if_neg hd]
      rcases lt_or_ge 0 d with hpos | hneg
      · rw [if_pos hpos, decreaseUserQuota_ok he hpos.le]
      · rw [if_neg (by omega), increaseUserQuota_ok he (by omega)]
    have htoken : ∀ s' : BillingSession, s'.relayInfo = s.relayInfo →
        s'.settleToken e d (st.addWallet a.userId (-d)) = (.ok (), a.charge d st) := by
      intro s' hinfo
      unfold settleToken charge takeToken
      rw [hinfo, h.isPlayground, h.tokenId]
      split_ifs with hp hpos
      · rfl
      · rw [decreaseTokenQuota_ok he hpos.le]
      · rw [increaseTokenQuota_ok he (by omega)]
    rw [hwallet]
    dsimp only
    rw [htoken { s with fundingSettled := true } rfl]
    exact ⟨rfl, charge_moves d hex⟩

/-- **The goroutine** of a refund gives the account back what the session holds. -/
theorem job_exec_holds (he : e.WritesSucceed) (h : Holds a q s) (hq : 0 < q) (hex : a.Exists st) {job : RefundJob}
    (htid : job.tokenId = a.tokenId) (hplay : job.isPlayground = a.isPlayground) (htok : job.tokenConsumed = q) :
    Moves a.userId a.tokenId (-(-q)) (-a.share (-q)) st (job.exec e s.funding st) := by
  have hq' : ¬ q ≤ 0 := by omega
  have hexec : job.exec e s.funding st = a.charge (-q) st := by
    unfold RefundJob.exec charge takeToken
    rw [h.funding, FundingSource.refund, WalletFunding.refund]
    rw [if_neg hq', increaseUserQuota_ok he hq.le, htok, hplay, htid, Int.neg_neg]
    simp only [FundingSource.source, reduceCtorEq, false_and, and_false, hq]
    cases a.isPlayground with
    | true => rfl
    | false =>
      rw [increaseTokenQuota_ok he hq.le]
      rfl
  rw [hexec]
  exact charge_moves (-q) hex

end Calls

/-! ## The session refines the hold -/

section Refinement

variable {a : Account} {base : Store} {s : SessionState} {h : Hold} {quota : Int} {c : Call}

theorem reserve_closed {s : BillingSession} (hc : s.settled ∨ s.refunded) (e e' : Env) (targetQuota : Int)
    (st : Store) : (s.reserve e e' targetQuota st).2 = (s, st) := by
  unfold reserve
  rw [if_pos (by tauto)]

theorem settle_settled {s : BillingSession} (hs : s.settled) (e : Env) (actualQuota : Int) (st : Store) :
    (s.settle e actualQuota st).2 = (s, st) := by
  unfold settle
  rw [if_pos hs]

theorem refund_closed {s : BillingSession} (hc : s.settled ∨ s.refunded) : s.refundTakesEffect = false := by
  unfold refundTakesEffect
  rcases hc with hc | hc <;> simp [hc]

theorem refund_noEffect {s : BillingSession} (h : s.refundTakesEffect = false) : s.refund = (none, s) := by
  unfold refund
  rw [h]
  rfl

theorem represents_step_held (hex : a.Exists base) (hc : Proper s c)
    (hr : Represents a base s (.held quota)) : Represents a base (callStep s c) (run Hold.step (.held quota) (holdOps s c)) := by
  obtain ⟨hh, hpre, hs, hrf, hfs, hj, hd⟩ := hr
  have hex' := hd.exists hex
  cases c with
  | reserve e e' targetQuota =>
    simp only [holdOps, callStep]
    rcases reserve_cases hh.funding hh.account targetQuota with hsame | ⟨d, hpos, hnew | ⟨hfail, -⟩⟩
    · rw [hsame]
      rw [hpre]
      exact ⟨hh, hpre, hs, hrf, hfs, hj, hd⟩
    · rw [hnew]
      have hpre' : (extended a quota d s.session).preConsumedQuota = quota + d := congrArg (· + d) hpre
      have htoken : (extended a quota d s.session).tokenConsumed = quota + d := congrArg (· + d) hh.tokenConsumed
      rw [hpre']
      exact ⟨⟨hh.account, rfl, htoken, Int.add_nonneg hh.nonneg hpos.le⟩, hpre', hs, hrf, hfs, hj,
        hd.trans (charge_moves d hex')⟩
    · exact absurd (hc.1.2 _ rfl) hfail
  | settle e actualQuota =>
    obtain ⟨hset, hmoves⟩ := settle_holds hc.1 hh hs hfs hex' actualQuota
    refine ⟨hset, hj, ?_⟩
    have htotal : quota + (actualQuota - s.session.preConsumedQuota) = actualQuota := by omega
    have hdeb := hd.trans hmoves
    rw [htotal] at hdeb
    exact hdeb
  | refund =>
    simp only [holdOps, callStep]
    by_cases he : s.session.refundTakesEffect
    · simp only [refund, he, hj]
      have hpos : 0 < quota := by
        rw [refundTakesEffect, needsRefundLocked, hh.funding, hs, hrf, hfs,
          hh.tokenConsumed] at he
        simpa using he
      refine ⟨rfl, .inr ⟨quota, _, hpos, ⟨hh.account, hh.funding, hh.tokenConsumed, hh.nonneg⟩, rfl, ?_, ?_, ?_, hd⟩⟩
      · exact hh.tokenId
      · exact hh.isPlayground
      · exact hh.tokenConsumed
    · rw [if_neg he, refund_noEffect (by simpa using he), hj]
      exact ⟨hh, hpre, hs, hrf, hfs, rfl, hd⟩
  | job e =>
    simp only [callStep, hj]
    exact ⟨hh, hpre, hs, hrf, hfs, hj, hd⟩

theorem represents_step_captured (c : Call) (hr : Represents a base s (.captured quota)) :
    Represents a base (callStep s c) (.captured quota) := by
  obtain ⟨hs, hj, hd⟩ := hr
  cases c with
  | reserve e e' targetQuota =>
    simp only [callStep, reserve_closed (.inl hs)]
    exact ⟨hs, hj, hd⟩
  | settle e actualQuota =>
    simp only [callStep, settle_settled hs]
    exact ⟨hs, hj, hd⟩
  | refund =>
    rw [callStep, refund_noEffect (refund_closed (.inl hs)), hj]
    exact ⟨hs, rfl, hd⟩
  | job e =>
    simp only [callStep, hj]
    exact ⟨hs, hj, hd⟩

/-- A refunded session ignores the calls that may follow; its goroutine gives the held quota back. -/
theorem represents_step_released (hex : a.Exists base) (hc : Proper s c)
    (hr : Represents a base s .released) : Represents a base (callStep s c) .released := by
  have hrf := hr.1
  cases c with
  | reserve e e' targetQuota =>
    simp only [callStep, reserve_closed (.inr hrf)]
    exact hr
  | settle e actualQuota =>
    have := hc.2 e actualQuota rfl
    rw [hrf] at this
    cases this
  | refund =>
    simp only [callStep, refund_noEffect (refund_closed (.inr hrf)), Option.toList_none, List.append_nil]
    exact hr
  | job e =>
    obtain ⟨-, ⟨hj, hd⟩ | ⟨quota, job, hpos, hh, hj, htid, hplay, htok, hd⟩⟩ := hr
    · simp only [callStep, hj]
      exact ⟨hrf, .inl ⟨hj, hd⟩⟩
    · simp only [callStep, hj]
      refine ⟨hrf, .inl ⟨rfl, ?_⟩⟩
      have hback := hd.trans (job_exec_holds hc.1 hh hpos (hd.exists hex) htid hplay htok)
      have hzero : quota + -quota = 0 := by omega
      rw [hzero] at hback
      exact hback

/-- **The refinement**: a call on the session is its operation on the hold. -/
theorem represents_step (hex : a.Exists base) (hc : Proper s c) (hr : Represents a base s h) :
    Represents a base (callStep s c) (run Hold.step h (holdOps s c)) := by
  cases h with
  | held quota => exact represents_step_held hex hc hr
  | captured quota =>
    rw [Hold.run_captured]
    exact represents_step_captured c hr
  | released =>
    rw [Hold.run_released]
    exact represents_step_released hex hc hr

/-- The operations on the hold that a history stands for. -/
def holdTrace (s : SessionState) : List Call → List Hold.Op
  | [] => []
  | c :: calls => holdOps s c ++ holdTrace (callStep s c) calls

/-- A history on the session is its trace on the hold. -/
theorem represents_run {calls : List Call} (hex : a.Exists base) (hcalls : Along callStep Proper s calls)
    (hr : Represents a base s h) : Represents a base (run callStep s calls) (run Hold.step h (holdTrace s calls)) := by
  induction calls generalizing s h with
  | nil => exact hr
  | cons c calls ih =>
    rw [holdTrace, run_append]
    exact ih hcalls.2 (represents_step hex hcalls.1 hr)

theorem Represents.debited (hr : Represents a base s h) (hj : s.jobs = []) : a.Debited base h.debit s.store := by
  cases h with
  | held quota => exact hr.2.2.2.2.2.2
  | captured quota => exact hr.2.2
  | released =>
    obtain ⟨-, ⟨-, hd⟩ | ⟨quota, job, -, -, hj', -⟩⟩ := hr
    · exact hd
    · rw [hj] at hj'
      cases hj'

end Refinement

/-! ## The session that a creation returns -/

section Opening

variable {e ew es : Env} {c : TrustContext} {info : RelayInfo} {quota : Int} {s : BillingSession} {st st' : Store}

/-- A wallet session that was pre-consumed: something was taken only if the quota is positive. -/
theorem preConsume_wallet (info : RelayInfo)
    (h : (fresh info (.wallet ⟨info.userId, 0⟩)).preConsume e c quota st = (.ok s, st')) :
    s.relayInfo.account = info.account ∧ s.funding = .wallet ⟨info.userId, s.tokenConsumed⟩ ∧ s.settled = false ∧
      s.refunded = false ∧ s.fundingSettled = false ∧ (0 ≤ quota → 0 ≤ s.preConsumedQuota) ∧
      (s.preConsumedQuota ≤ 0 ∧ s.tokenConsumed = 0 ∧ st' = st ∨
        0 < s.preConsumedQuota ∧ s.tokenConsumed = s.preConsumedQuota ∧
          st' = (info.account.takeToken s.preConsumedQuota st).addWallet info.userId (-s.preConsumedQuota)) := by
  unfold preConsume at h
  dsimp only at h
  have hq : 0 ≤ quota → 0 ≤ (fresh info (.wallet ⟨info.userId, 0⟩)).effectiveQuota c quota := by
    unfold effectiveQuota
    split <;> omega
  generalize (fresh info (.wallet ⟨info.userId, 0⟩)).effectiveQuota c quota = q at h hq
  rcases preConsumeToken_cases e q { fresh info (.wallet ⟨info.userId, 0⟩) with
    trusted := (fresh info (.wallet ⟨info.userId, 0⟩)).shouldTrust c } st with
    ⟨hle, ht⟩ | ⟨hpos, ht⟩ | ⟨terr, ht⟩
  · rw [ht] at h
    simp only [FundingSource.preConsume, fresh] at h
    rcases WalletFunding.preConsume_cases e ⟨info.userId, 0⟩ q st with ⟨_, hc⟩ | ⟨hpos, _⟩ | ⟨err, hc⟩
    · rw [hc] at h
      cases h
      exact ⟨rfl, rfl, rfl, rfl, rfl, hq, .inl ⟨hle, rfl, rfl⟩⟩
    · omega
    · rw [hc] at h
      cases h
  · rw [ht] at h
    simp only [FundingSource.preConsume, fresh] at h
    rcases WalletFunding.preConsume_cases e ⟨info.userId, 0⟩ q (info.account.takeToken q st) with
      ⟨hle, _⟩ | ⟨_, hc⟩ | ⟨err, hc⟩
    · omega
    · rw [hc] at h
      cases h
      exact ⟨rfl, rfl, rfl, rfl, rfl, hq, .inr ⟨hpos, rfl, rfl⟩⟩
    · rw [hc] at h
      cases h
  · rw [ht] at h
    cases h

theorem preConsume_represents (info : RelayInfo) (hq : 0 ≤ quota) (hex : info.account.Exists st)
    (h : (fresh info (.wallet ⟨info.userId, 0⟩)).preConsume e c quota st = (.ok s, st')) :
    Represents info.account st ⟨st', s, []⟩ (.held s.preConsumedQuota) := by
  obtain ⟨hacc, hfund, hs, hrf, hfs, hnonneg, hle | hpos⟩ := preConsume_wallet info h
  · obtain ⟨hle, htok, rfl⟩ := hle
    have hzero : s.preConsumedQuota = 0 := le_antisymm hle (hnonneg hq)
    rw [htok] at hfund
    rw [hzero]
    exact ⟨⟨hacc, hfund, htok, le_rfl⟩, hzero, hs, hrf, hfs, rfl, Account.Debited.zero _ _⟩
  · obtain ⟨hpos, htok, rfl⟩ := hpos
    rw [htok] at hfund
    refine ⟨⟨hacc, hfund, htok, hpos.le⟩, rfl, hs, hrf, hfs, rfl, ?_⟩
    -- the token first, then the wallet
    have htoken := takeToken_moves s.preConsumedQuota hex
    have hwallet := Moves.addWallet info.tokenId (-s.preConsumedQuota) (htoken.hasUser.2 hex.1)
    exact (htoken.trans hwallet).of_eq (by omega) (by omega)

theorem tryWallet_ok (h : tryWallet e c info quota st = (.ok s, st')) :
    ∃ userQuota, (fresh { info with userQuota := userQuota } (.wallet ⟨info.userId, 0⟩)).preConsume e c quota
      st = (.ok s, st') := by
  unfold tryWallet at h
  split at h
  · cases h
  · rename_i userQuota _
    split_ifs at h
    · cases h
    · cases h
    · exact ⟨userQuota, h⟩

theorem trySubscription_funding (h : trySubscription e c info quota st = (.ok s, st')) :
    ∃ sub, s.funding = .subscription sub := by
  unfold trySubscription preConsume at h
  dsimp only at h
  split at h
  · cases h
  · rename_i s₁ st₁ ht
    have hf : s₁.funding = .subscription ⟨info.requestId, info.userId, if quota ≤ 0 then 1 else quota, 0, 0, 0, 0, 0, 0⟩ := by
      rcases preConsumeToken_cases e _ _ st with ⟨_, hc⟩ | ⟨_, hc⟩ | ⟨err, hc⟩
      · rw [hc] at ht; cases ht; rfl
      · rw [hc] at ht; cases ht; rfl
      · rw [hc] at ht; cases ht
    rw [hf, FundingSource.preConsume] at h
    split at h
    · cases h
    · cases h
    · rename_i funding st₂ hfund
      split at hfund
      · cases hfund
      · cases hfund
        cases h
        exact ⟨_, rfl⟩

/-- **A wallet session is an open hold**, whatever the preference and whichever attempt failed before. -/
theorem newBillingSession_represents (hw : ew.WritesSucceed) (hs : es.WritesSucceed) (hq : 0 ≤ quota)
    (hex : info.account.Exists st) {s : SessionState} {w : WalletFunding} (hfund : s.session.funding = .wallet w)
    (h : opened (newBillingSession ew es c info quota st) = some s) :
    Represents info.account st s (.held s.session.preConsumedQuota) := by
  obtain ⟨session, st', hr, rfl⟩ := of_opened h
  rcases newBillingSession_cases ew es c info quota st (hw _ rfl) (hs _ rfl) with hcase | hcase | ⟨err, hcase⟩
  · rw [hcase] at hr
    obtain ⟨userQuota, hpre⟩ := tryWallet_ok hr
    exact preConsume_represents { info with userQuota := userQuota } hq hex hpre
  · rw [hcase] at hr
    obtain ⟨sub, hsub⟩ := trySubscription_funding hr
    rw [hfund] at hsub
    cases hsub
  · rw [hcase] at hr
    cases hr

end Opening

/-! ## The debit of a history -/

/-- What a history on a session should cost: the amount of the first `Settle` if it comes before any `Refund` that takes
effect, 0 if such a `Refund` comes first, and else the session's pre-consumed quota. -/
def expectedDebit (s : SessionState) : List Call → Int
  | [] => s.session.preConsumedQuota
  | .settle _ actualQuota :: _ => actualQuota
  | .refund :: calls => if s.session.refundTakesEffect then 0 else expectedDebit (callStep s .refund) calls
  | c :: calls => expectedDebit (callStep s c) calls

theorem holdTrace_debit (s : SessionState) (calls : List Call) :
    (run Hold.step (.held s.session.preConsumedQuota) (holdTrace s calls)).debit = expectedDebit s calls := by
  induction calls generalizing s with
  | nil => rfl
  | cons c calls ih =>
    rw [holdTrace, run_append]
    cases c with
    | reserve e e' targetQuota => exact ih (callStep s (.reserve e e' targetQuota))
    | settle e actualQuota =>
      simp only [holdOps, run_cons, Hold.step, Hold.run_captured]
      rfl
    | refund =>
      simp only [holdOps, expectedDebit]
      split
      · simp only [run_cons, Hold.step, Hold.run_released]
        rfl
      · rename_i he
        have hsame : (callStep s .refund).session = s.session := by
          rw [callStep, refund_noEffect (by simpa using he)]
        rw [← hsame]
        exact ih (callStep s .refund)
    | job e =>
      have hsame : (callStep s (.job e)).session = s.session := by
        rw [callStep]
        split <;> rfl
      simp only [← hsame]
      exact ih (callStep s (.job e))

/-- **Conservation of the wallet.** For a wallet session that `newBillingSession` returned and every history of calls
whose writes succeed, in which no `Settle` follows a `Refund` that took effect: once no goroutine is pending, wallet and
token are short, since before the creation, of exactly the expected debit; the token of a playground request is not
debited. -/
theorem wallet_conservation (ew es : Env) (c : TrustContext) (info : RelayInfo) (preConsumedQuota : Int) (st : Store)
    (s : SessionState) (w : WalletFunding) (calls : List Call) (hew : ew.WritesSucceed) (hes : es.WritesSucceed)
    (hpre : 0 ≤ preConsumedQuota) (huser : st.HasUser info.userId)
    (htoken : info.isPlayground = false → st.HasToken info.tokenId)
    (hnew : opened (newBillingSession ew es c info preConsumedQuota st) = some s) (hfund : s.session.funding = .wallet w)
    (hcalls : Along callStep Proper s calls) (hdone : (run callStep s calls).jobs = []) :
    st.wallet info.userId - (run callStep s calls).store.wallet info.userId = expectedDebit s calls ∧
      st.tokenRemain info.tokenId - (run callStep s calls).store.tokenRemain info.tokenId =
        if info.isPlayground then 0 else expectedDebit s calls := by
  have hex : info.account.Exists st := ⟨huser, htoken⟩
  have hopen := newBillingSession_represents hew hes hpre hex hfund hnew
  have hdeb := (represents_run hex hcalls hopen).debited hdone
  rw [holdTrace_debit] at hdeb
  have hwallet : (run callStep s calls).store.wallet info.userId = st.wallet info.userId + -expectedDebit s calls :=
    hdeb.wallet
  have htok : (run callStep s calls).store.tokenRemain info.tokenId =
      st.tokenRemain info.tokenId + -(if info.isPlayground then 0 else expectedDebit s calls) := hdeb.token
  exact ⟨by omega, by omega⟩

namespace Sample

/-- The sample request, paid from the wallet. -/
def walletInfo : RelayInfo := { info with billingPreference := "wallet_only" }

def walletCalls : List Call := [.reserve (env 1600) (env 1600) 30, .settle (env 1700) 25, .refund, .job (env 1800)]

/-- Its creation, with a pre-consumption of 10. -/
def walletCreation : Option SessionState := opened (newBillingSession (env 1500) (env 1500) ⟨0, 0⟩ walletInfo 10 store)

/-- The creation for a trusted request: nothing is pre-consumed. -/
def trustedCreation : Option SessionState :=
  opened (newBillingSession (env 1500) (env 1500) ⟨10, 0⟩ { walletInfo with forcePreConsume := false } 10 store)

theorem walletCreation_isSome : walletCreation.isSome := by decide +kernel

theorem trustedCreation_isSome : trustedCreation.isSome := by decide +kernel

def walletSession : SessionState := walletCreation.get walletCreation_isSome

def trustedSession : SessionState := trustedCreation.get trustedCreation_isSome

end Sample

open Sample

/-- The sample request is debited 25. -/
theorem wallet_conservation_sample :
    store.wallet 1 - (run callStep walletSession walletCalls).store.wallet 1 = 25 ∧
    store.tokenRemain 1 - (run callStep walletSession walletCalls).store.tokenRemain 1 = 25 := by
  have h := wallet_conservation (env 1500) (env 1500) ⟨0, 0⟩ walletInfo 10 store
    walletSession ⟨1, 10⟩ walletCalls (Env.quiet_writesSucceed _ _) (Env.quiet_writesSucceed _ _)
    (by decide) rfl (fun _ => rfl) (Option.some_get walletCreation_isSome).symm (by decide +kernel)
    ⟨⟨⟨Env.quiet_writesSucceed _ _, Env.quiet_writesSucceed _ _⟩, nofun⟩,
      ⟨Env.quiet_writesSucceed _ _, fun _ _ _ => by decide +kernel⟩, ⟨trivial, nofun⟩,
      ⟨Env.quiet_writesSucceed _ _, nofun⟩, trivial⟩ (by decide +kernel)
  exact h

/-- **A `Refund` without effect does not close a session.** The trusted session has nothing to refund; its `Settle` at 5
comes after a `Refund`, yet debits 5 and not the pre-consumed quota, which is 0. -/
theorem settle_after_idle_refund :
    opened (newBillingSession (env 1500) (env 1500) ⟨10, 0⟩
      { walletInfo with forcePreConsume := false } 10 store) = some trustedSession ∧
    trustedSession.session.refundTakesEffect = false ∧
    (run callStep trustedSession [.refund, .settle (env 1600) 5]).session.preConsumedQuota = 0 ∧
    store.wallet 1 -
      (run callStep trustedSession [.refund, .settle (env 1600) 5]).store.wallet 1 = 5 := by
  refine ⟨(Option.some_get trustedCreation_isSome).symm, ?_⟩
  decide +kernel

end SynthApi
