import SynthApi.Service.Conservation

/-!
# After a refund

`Reserve` and `Refund` look at the flag `refunded` and do nothing once it is set. `Settle` does not look at it: after a
refund it still settles the difference between the actual quota and the pre-consumed one, which the refund has already
given back. A refunded wallet session that settles at `actualQuota` moves the wallet by the pre-consumed quota minus
`actualQuota` (`settle_after_refund`), so that settling at 0 pays the pre-consumption out a second time
(`refund_paid_twice`).

A refund is final if the first `Settle` after it, if there is one, is for exactly the pre-consumed quota
(`refund_final`): that call only sets `settled`, and from then on every call returns at once.
-/

namespace SynthApi

open Lib Lib.Go

/-- The call is the run of a goroutine. -/
def Call.isJob : Call → Bool
  | .job _ => true
  | _ => false

def SettlesAtPreConsumed (s : SessionState) : Call → Prop
  | .settle _ actualQuota => s.session.settled = true ∨ actualQuota = s.session.preConsumedQuota
  | _ => True

section Refunded

variable {s : SessionState} {c : Call}

theorem settle_at_preConsumed {s : BillingSession} (e : Env) (st : Store) :
    (s.settle e s.preConsumedQuota st).2 = ({ s with settled := true }, st) := by
  unfold BillingSession.settle
  split
  · rename_i hs
    rw [← hs]
  · rw [if_pos (Int.sub_self _)]

/-- The session stays refunded, and no call but the goroutine changes the store. -/
theorem refunded_step (hr : s.session.refunded) (hc : SettlesAtPreConsumed s c) :
    (callStep s c).session.refunded ∧ (c.isJob = false → (callStep s c).store = s.store) := by
  cases c with
  | reserve e e' targetQuota =>
    simp only [callStep, reserve_closed (.inr hr)]
    exact ⟨hr, fun _ => trivial⟩
  | settle e actualQuota =>
    rcases hc with hs | rfl
    · simp only [callStep, settle_settled hs]
      exact ⟨hr, fun _ => trivial⟩
    · simp only [callStep, settle_at_preConsumed]
      exact ⟨hr, fun _ => trivial⟩
  | refund =>
    simp only [callStep, refund_noEffect (refund_closed (.inr hr))]
    exact ⟨hr, fun _ => trivial⟩
  | job e =>
    refine ⟨?_, fun h => by cases h⟩
    rw [callStep]
    split <;> exact hr

end Refunded

/-- **A refund is final** in every history in which a `Settle`, while the session is not settled, is for the
pre-consumed quota: no later call changes wallets, tokens or subscriptions, whenever the goroutine of the refund runs.
-/
theorem refund_final (s : SessionState) (calls : List Call) (heffect : s.session.refundTakesEffect = true)
    (hcalls : Along callStep SettlesAtPreConsumed (callStep s .refund) calls) (before after : List Call) (c : Call)
    (hsplit : calls = before ++ c :: after) (hjob : c.isJob = false) :
    (run callStep (callStep s .refund) (before ++ [c])).store = (run callStep (callStep s .refund) before).store := by
  have hr : (callStep s .refund).session.refunded := by
    rw [callStep, BillingSession.refund, if_pos heffect]
  subst hsplit
  obtain ⟨hbefore, hc, -⟩ := along_append.1 hcalls
  have hr' : (run callStep (callStep s .refund) before).session.refunded :=
    run_inv_along (I := fun s => s.session.refunded) (fun _ _ hc hr => (refunded_step hr hc).1) hbefore hr
  rw [run_append]
  exact (refunded_step hr' hc).2 hjob

open Sample

/-- The sample session is refunded, settled at its pre-consumed 10 and then at 50: nothing changes after the refund. -/
theorem refund_final_sample :
    (run callStep (callStep walletSession .refund) [.job (env 1600), .settle (env 1700) 10,
      .settle (env 1800) 50]).store =
    (run callStep (callStep walletSession .refund) [.job (env 1600), .settle (env 1700) 10]).store :=
  refund_final walletSession [.job (env 1600), .settle (env 1700) 10, .settle (env 1800) 50]
    (by decide +kernel) ⟨trivial, .inr (by decide +kernel), .inl (by decide +kernel), trivial⟩
    [.job (env 1600), .settle (env 1700) 10] [] (.settle (env 1800) 50) rfl rfl

/-- **A refund that is paid twice**: the sample session pre-consumed 10 of 100; its refund brings the wallet back to
100, and a `Settle` at 0 after it to 110. -/
theorem refund_paid_twice : walletSession.session.refundTakesEffect = true ∧
    (run callStep (callStep walletSession .refund) [.job (env 1600)]).store.wallet 1 = 100 ∧
    (run callStep (callStep walletSession .refund)
      [.job (env 1600), .settle (env 1700) 0]).store.wallet 1 = 110 := by
  decide +kernel

end SynthApi
