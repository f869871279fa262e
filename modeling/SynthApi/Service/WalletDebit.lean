import SynthApi.Service.Conservation

/-!
# The wallet when writes fail

Every write of a session may fail on its own, and then changes nothing. What the session notes and what the database has
come apart in such a case: a reservation that is not rolled back leaves `consumed` above `preConsumedQuota`. They come
apart in one direction only. While a session is open it has taken exactly `consumed` from the wallet, and at least what
was pre-consumed (`HeldWallet`), so that neither a refund nor a settlement at an amount that is not negative gives back
more than was taken (`wallet_debit_nonneg`).
-/

namespace SynthApi

open Lib

/-! ## What is taken from a wallet -/

/-- Changes of the wallet have an effect: the user has a row, or changes wait in the batch map. -/
def Store.Tracks (st : Store) (id : Int) : Prop := st.batchUpdateEnabled = true ∨ st.HasUser id

instance (st : Store) (id : Int) : Decidable (st.Tracks id) := inferInstanceAs (Decidable (_ ∨ _))

/-- Since `base` there was taken `d` from the wallet, if changes of it have an effect. -/
structure WalletTaken (id : Int) (base : Store) (d : Int) (st : Store) : Prop where
  tracks : st.Tracks id ↔ base.Tracks id
  taken : st.wallet id = base.wallet id - if base.Tracks id then d else 0

namespace WalletTaken

variable {id d : Int} {base st : Store}

theorem refl (id : Int) (st : Store) : WalletTaken id st 0 st := ⟨Iff.rfl, by rw [ite_self, Int.sub_zero]⟩

variable (h : WalletTaken id base d st) {tokenId delta : Int}

include h

theorem wallet_le (hd : 0 ≤ d) : st.wallet id ≤ base.wallet id := by
  have htaken := h.taken
  split at htaken <;> omega

theorem addWallet (delta : Int) : WalletTaken id base (d - delta) (st.addWallet id delta) := by
  have hbatch : (st.addWallet id delta).batchUpdateEnabled = st.batchUpdateEnabled := by
    unfold Store.addWallet
    split <;> rfl
  have htracks : (st.addWallet id delta).Tracks id ↔ st.Tracks id := by
    simp only [Store.Tracks, hbatch, Store.addWallet_hasUser]
  refine ⟨htracks.trans h.tracks, ?_⟩
  have hwallet := Store.addWallet_wallet_eq st id delta id
  have htaken := h.taken
  by_cases ht : base.Tracks id
  · rw [if_pos ⟨rfl, h.tracks.2 ht⟩] at hwallet
    rw [if_pos ht] at htaken ⊢
    omega
  · rw [if_neg fun hand => ht (h.tracks.1 hand.2)] at hwallet
    rw [if_neg ht] at htaken ⊢
    omega

theorem spend (q : Int) : WalletTaken id base (d + q) (st.addWallet id (-q)) := by
  rw [← Int.sub_neg]
  exact h.addWallet (-q)

theorem addToken :
    WalletTaken id base d (st.addToken tokenId delta) := by
  have hbatch : (st.addToken tokenId delta).batchUpdateEnabled = st.batchUpdateEnabled := by
    unfold Store.addToken
    split <;> rfl
  have htracks : (st.addToken tokenId delta).Tracks id ↔ st.Tracks id := by
    simp only [Store.Tracks, hbatch, Store.addToken_hasUser]
  exact ⟨htracks.trans h.tracks, by rw [Store.addToken_wallet, h.taken]⟩

theorem takeToken (a : Account) (quota : Int) :
    WalletTaken id base d (a.takeToken quota st) := by
  unfold Account.takeToken
  split
  · exact h
  · exact h.addToken

theorem changeTokenQuota {e : Env} {stmt : Stmt} {quota : Int} :
    WalletTaken id base d (changeTokenQuota e stmt delta st tokenId quota).2 := by
  rcases changeTokenQuota_cases e stmt delta st tokenId quota with ⟨-, hc⟩ | ⟨err, hc⟩
  · rw [hc]
    exact h.addToken
  · rw [hc]
    exact h

end WalletTaken

/-! ## The calls -/

/-- A session that has taken `d` from the wallet, and is open. -/
structure HeldWallet (a : Account) (d : Int) (s : BillingSession) : Prop where
  account : s.relayInfo.account = a
  funding : s.funding = .wallet ⟨a.userId, d⟩
  preConsumed : s.preConsumedQuota ≤ d
  settled : s.settled = false
  refunded : s.refunded = false
  fundingSettled : s.fundingSettled = false

/-- What the states of a session have taken from the wallet, which is not negative. -/
inductive WalletOk (a : Account) (base : Store) : SessionState → Prop
  | held {st : Store} {s : BillingSession} {d : Int} : WalletTaken a.userId base d st → 0 ≤ d → HeldWallet a d s →
      WalletOk a base ⟨st, s, []⟩
  | refunding {st : Store} {s : BillingSession} {d : Int} (job : RefundJob) : WalletTaken a.userId base d st → 0 ≤ d →
      s.funding = .wallet ⟨a.userId, d⟩ → s.refunded = true → WalletOk a base ⟨st, s, [job]⟩
  | closed {st : Store} {s : BillingSession} {d : Int} : WalletTaken a.userId base d st → 0 ≤ d →
      s.settled = true ∨ s.refunded = true → WalletOk a base ⟨st, s, []⟩

/-- A call that is no `Settle` at a negative amount, or after a `Refund` that took effect. Its writes may fail. -/
def Prudent (s : SessionState) : Call → Prop
  | .settle _ actualQuota => 0 ≤ actualQuota ∧ s.session.refunded = false
  | _ => True

section Calls

variable {a : Account} {d : Int} {base st : Store} {s : BillingSession} {e e' : Env}

variable (h : WalletTaken a.userId base d st)

include h

theorem reserve_walletOk (hd : 0 ≤ d) (hs : HeldWallet a d s) (targetQuota : Int) :
    WalletOk a base (callStep ⟨st, s, []⟩ (.reserve e e' targetQuota)) := by
  rw [callStep]
  have hcases : (s.reserve e e' targetQuota st).2 = (s, st) ∨ _ := reserve_cases hs.funding hs.account targetQuota
  rcases hcases with hr | ⟨q, hq, hr | ⟨-, hr⟩⟩
  · rw [hr]
    exact .held h hd hs
  · rw [hr]
    refine .held ((h.spend q).takeToken a q) (by omega) ⟨hs.account, rfl, ?_, hs.settled, hs.refunded, hs.fundingSettled⟩
    have := hs.preConsumed
    change s.preConsumedQuota + q ≤ d + q
    omega
  · -- the reservation is not noted, and not rolled back either
    rw [hr]
    refine .held (h.spend q) (by omega) ⟨hs.account, rfl, ?_, hs.settled, hs.refunded, hs.fundingSettled⟩
    have := hs.preConsumed
    dsimp only
    omega

/-- A `Settle` that fails changes nothing; otherwise the difference to the pre-consumed quota is taken, whatever happens to
the token. -/
theorem settle_walletOk (hd : 0 ≤ d) (hs : HeldWallet a d s) {actualQuota : Int}
    (hquota : 0 ≤ actualQuota) : WalletOk a base (callStep ⟨st, s, []⟩ (.settle e actualQuota)) := by
  have hpre := hs.preConsumed
  rw [callStep]
  unfold BillingSession.settle
  rw [if_neg (by simp [hs.settled])]
  by_cases hzero : actualQuota - s.preConsumedQuota = 0
  · rw [if_pos hzero]
    exact .closed h hd (.inl rfl)
  rw [if_neg hzero, if_neg (by simp [hs.fundingSettled]), hs.funding, FundingSource.settle]
  rcases WalletFunding.settle_cases e ⟨a.userId, d⟩ hzero st with hok | ⟨err, herr⟩
  · rw [hok]
    have htaken := h.spend (actualQuota - s.preConsumedQuota)
    have hnonneg : 0 ≤ d + (actualQuota - s.preConsumedQuota) := by omega
    refine .closed ?_ hnonneg (.inl rfl)
    dsimp only
    unfold BillingSession.settleToken
    split
    · exact htaken
    · split
      · exact htaken.changeTokenQuota
      · exact htaken.changeTokenQuota
  · rw [herr]
    exact .held h hd hs

theorem job_walletOk (hd : 0 ≤ d) (hfund : s.funding = .wallet ⟨a.userId, d⟩)
    (hs : s.refunded) (job : RefundJob) : WalletOk a base (callStep ⟨st, s, [job]⟩ (.job e)) := by
  have hrefund : ∃ d', 0 ≤ d' ∧ WalletTaken a.userId base d' ((FundingSource.wallet ⟨a.userId, d⟩).refund e st).2 := by
    rcases WalletFunding.refund_cases e ⟨a.userId, d⟩ st with hsame | hback
    · exact ⟨d, hd, hsame.symm ▸ h⟩
    · have hzero := h.addWallet d
      rw [Int.sub_self, ← hback] at hzero
      exact ⟨0, le_rfl, hzero⟩
  obtain ⟨d', hd', htaken⟩ := hrefund
  refine .closed ?_ hd' (.inr hs)
  rw [hfund]
  unfold RefundJob.exec
  dsimp only
  rw [if_neg (fun hsub => nomatch hsub.2.1 :
    ¬ (0 < job.extraReserved ∧ (FundingSource.wallet ⟨a.userId, d⟩).source = .subscription ∧ 0 < job.subscriptionId))]
  split
  · exact htaken.changeTokenQuota
  · exact htaken

omit h

theorem walletOk_step {s : SessionState} {c : Call} (hc : Prudent s c) (h : WalletOk a base s) :
    WalletOk a base (callStep s c) := by
  cases h with
  | held htaken hd hs =>
    cases c with
    | reserve e e' targetQuota => exact reserve_walletOk htaken hd hs targetQuota
    | settle e actualQuota => exact settle_walletOk htaken hd hs hc.1
    | refund =>
      rename_i st s d
      rw [callStep]
      cases heff : s.refundTakesEffect with
      | true =>
        rw [BillingSession.refund, if_pos heff]
        exact .refunding _ htaken hd hs.funding rfl
      | false =>
        rw [refund_noEffect heff]
        exact .held htaken hd hs
    | job e => exact .held htaken hd hs
  | refunding job htaken hd hfund hrf =>
    cases c with
    | reserve e e' targetQuota =>
      rw [callStep, reserve_closed (.inr hrf)]
      exact .refunding job htaken hd hfund hrf
    | settle e actualQuota => cases hrf.symm.trans hc.2
    | refund =>
      rw [callStep, refund_noEffect (refund_closed (.inr hrf))]
      exact .refunding job htaken hd hfund hrf
    | job e => exact job_walletOk htaken hd hfund hrf job
  | closed htaken hd hend =>
    cases c with
    | reserve e e' targetQuota =>
      rw [callStep, reserve_closed hend]
      exact .closed htaken hd hend
    | settle e actualQuota =>
      have hset := hend.resolve_right fun hrf => Bool.false_ne_true (hc.2.symm.trans hrf)
      rw [callStep, settle_settled hset]
      exact .closed htaken hd hend
    | refund =>
      rw [callStep, refund_noEffect (refund_closed hend)]
      exact .closed htaken hd hend
    | job e => exact .closed htaken hd hend

end Calls

/-! ## Histories -/

theorem newBillingSession_walletOk {ew es : Env} {c : TrustContext} {info : RelayInfo} {quota : Int} {st : Store}
    {s : SessionState} {w : WalletFunding} (hfund : s.session.funding = .wallet w)
    (h : opened (newBillingSession ew es c info quota st) = some s) : WalletOk info.account st s := by
  obtain ⟨session, st', hr, rfl⟩ := of_opened h
  obtain ⟨st₁, hfirst, hwallet | hsub⟩ := newBillingSession_ok hr
  · -- an attempt that failed before took nothing from the wallet
    have hbase : WalletTaken info.userId st 0 st₁ := by
      rcases hfirst with rfl | ⟨q, rfl⟩
      · exact .refl _ _
      · exact (WalletTaken.refl _ _).takeToken info.account q
    obtain ⟨userQuota, hpre⟩ := tryWallet_ok hwallet
    obtain ⟨hacc, hpay, hs, hrf, hfs, -, hle | hpos⟩ := preConsume_wallet { info with userQuota := userQuota } hpre
    · obtain ⟨hle, htok, rfl⟩ := hle
      rw [htok] at hpay
      exact .held hbase le_rfl ⟨hacc, hpay, hle, hs, hrf, hfs⟩
    · obtain ⟨hpos, htok, rfl⟩ := hpos
      rw [htok] at hpay
      have htaken := (hbase.takeToken info.account session.preConsumedQuota).spend session.preConsumedQuota
      rw [Int.zero_add] at htaken
      exact .held htaken hpos.le ⟨hacc, hpay, le_rfl, hs, hrf, hfs⟩
  · obtain ⟨sub, hsub⟩ := trySubscription_funding hsub
    rw [hfund] at hsub
    cases hsub

/-- **Failing writes create no money.** For a wallet session that `newBillingSession` returned and every history of calls,
with any of their writes failing, in which every `Settle` is at an amount that is not negative and none follows a `Refund`
that took effect: in every state the wallet has at most what it had before the creation. -/
theorem wallet_debit_nonneg (ew es : Env) (c : TrustContext) (info : RelayInfo) (preConsumedQuota : Int) (st : Store)
    (s : SessionState) (w : WalletFunding) (calls : List Call)
    (hnew : opened (newBillingSession ew es c info preConsumedQuota st) = some s) (hfund : s.session.funding = .wallet w)
    (hcalls : Along callStep Prudent s calls) :
    Always callStep (fun t => 0 ≤ st.wallet info.userId - t.store.wallet info.userId) s calls := by
  refine always_of_inv (fun s c hc h => walletOk_step hc h) (fun t ht => ?_) hcalls
    (newBillingSession_walletOk hfund hnew)
  have hle : t.store.wallet info.userId ≤ st.wallet info.userId := by
    cases ht with
    | held htaken hd hs | refunding job htaken hd hf hrf | closed htaken hd hend => exact htaken.wallet_le hd
  omega

namespace Sample

def failing (stmt : Stmt) : Env := { env 1600 with fails := fun t => if t = stmt then some "database is locked" else none }

/-- The token refuses a reservation, whose rollback fails; a settlement fails, and the session is refunded. -/
def failingCalls : List Call :=
  [.reserve (failing .decreaseTokenQuota) (failing .increaseUserQuota) 30, .settle (failing .increaseUserQuota) 5,
    .refund, .job (failing .increaseTokenQuota)]

end Sample

open Sample

/-- The sample session takes 30 from the wallet before the refund, although it notes 10, and gives all of it back. -/
theorem wallet_debit_nonneg_sample :
    store.wallet 1 - (run callStep walletSession (failingCalls.take 2)).store.wallet 1 = 30 ∧
    store.wallet 1 - (run callStep walletSession failingCalls).store.wallet 1 = 0 ∧
    Always callStep (fun t => 0 ≤ store.wallet 1 - t.store.wallet 1) walletSession failingCalls := by
  refine ⟨by decide +kernel, by decide +kernel, ?_⟩
  exact wallet_debit_nonneg (env 1500) (env 1500) ⟨0, 0⟩ walletInfo 10 store
    walletSession ⟨1, 10⟩ failingCalls (Option.some_get walletCreation_isSome).symm (by decide +kernel)
    ⟨trivial, ⟨by decide, by decide +kernel⟩, trivial, trivial, trivial⟩

end SynthApi
