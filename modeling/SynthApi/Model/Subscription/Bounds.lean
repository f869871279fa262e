import SynthApi.Model.Subscription.Consume

/-!
# The used amount stays within the total

A row with a total keeps `0 ≤ amountUsed ≤ amountTotal` through every history of pre-consumptions, deltas, refunds and
resets (`within_total`). The invariant is a property of single rows that a reset keeps (`InBounds.reset`), so a
transaction keeps it, since it writes only rows that have it (`SubWrites.inBounds`).
-/

namespace SynthApi

open Lib Lib.Go

/-! ## Properties of all rows -/

def AllRows (P : UserSubscription → Prop) (st : Store) : Prop := ∀ sub ∈ st.userSubscriptions, P sub

def ResetKeeps (P : UserSubscription → Prop) : Prop :=
  ∀ old new, ResetOf old new → (new.amountUsed = old.amountUsed ∨ new.amountUsed = 0) → P old → P new

section Rows

variable {P : UserSubscription → Prop} {st st' : Store} {sub sub' : UserSubscription}

theorem allRows_save (h : AllRows P st) (hs : P sub) : AllRows P (st.saveSubscription sub) := by
  intro q hq
  rcases Store.mem_saveSubscription hq with ⟨hq, _⟩ | rfl
  · exact h q hq
  · exact hs

theorem reset_keeps {e : Env} {plan : SubscriptionPlan} {now : Int} (hP : ResetKeeps P)
    (h : maybeResetUserSubscriptionWithPlanTx e st sub plan now = some (sub', st')) (hs : P sub) : P sub' := by
  obtain ⟨_, hr, hu⟩ := maybeReset_spec h
  refine hP sub sub' hr ?_ hs
  rw [hu]
  split
  · exact .inr rfl
  · exact .inl rfl

end Rows

/-! ## The bounds -/

/-- If `sub` is row `i` and has a total, its used amount lies between 0 and the total, an `int64`. -/
def InBounds (i : Int) (sub : UserSubscription) : Prop :=
  sub.id = i → 0 < sub.amountTotal → sub.amountTotal < 2 ^ 63 ∧ 0 ≤ sub.amountUsed ∧ sub.amountUsed ≤ sub.amountTotal

variable {i : Int}

theorem InBounds.reset : ResetKeeps (InBounds i) := by
  intro old new hr hu h hid hpos
  rw [hr.id] at hid
  rw [hr.amountTotal] at hpos ⊢
  obtain ⟨h64, h0, h1⟩ := h hid hpos
  rcases hu with hu | hu <;> rw [hu]
  · exact ⟨h64, h0, h1⟩
  · exact ⟨h64, le_refl 0, hpos.le⟩

/-- A charge that the remaining amount covers keeps the row within its total. -/
theorem InBounds.charge {sub : UserSubscription} {d : Int} (h : InBounds i sub) (hd : 1 ≤ d)
    (hc : 0 < sub.amountTotal → d ≤ wrap64 (sub.amountTotal - sub.amountUsed)) :
    InBounds i { sub with amountUsed := wrap64 (sub.amountUsed + d) } := by
  intro hid hpos
  obtain ⟨h64, h0, h1⟩ := h hid hpos
  dsimp only at hpos ⊢
  rw [wrap64_of_mem (by unfold InInt64; omega)] at hc
  rw [wrap64_of_mem (by unfold InInt64; omega)]
  omega

theorem InBounds.write {old new : UserSubscription} (hw : RowWrite old new) (h : InBounds i old) : InBounds i new := by
  cases hw with
  | reset hr => exact reset_keeps InBounds.reset hr h
  | charge hd hc => exact h.charge hd hc
  | delta hle => exact fun hid hpos => ⟨(h hid hpos).1, usedAfter_nonneg _ old, hle hpos⟩

theorem SubWrites.inBounds {st st' : Store} (h : SubWrites st st') (hst : AllRows (InBounds i) st) :
    AllRows (InBounds i) st' := by
  induction h with
  | refl => exact hst
  | save _ hold hrow ih =>
    refine allRows_save ih ?_
    clear ih
    induction hrow with
    | refl => exact hst _ hold
    | tail _ hw ih => exact ih.write hw
  | records _ _ ih => exact ih

/-- **One transaction** keeps every row within its total. -/
theorem inBounds_step {st : Store} (op : SubOp) (hst : AllRows (InBounds i) st) : AllRows (InBounds i) (subStep st op) :=
  (subStep_writes st op).inBounds hst

/-- **The used amount stays within the total**: from a store where row `i` is within its total, it is so after every
transaction of every history. -/
theorem within_total (i : Int) (st : Store) (ops : List SubOp)
    (h64 : ∀ sub ∈ st.userSubscriptions, sub.id = i → sub.amountTotal < 2 ^ 63)
    (h : ∀ sub ∈ st.userSubscriptions, sub.id = i → 0 < sub.amountTotal →
      0 ≤ sub.amountUsed ∧ sub.amountUsed ≤ sub.amountTotal) :
    Always subStep (fun st => ∀ sub ∈ st.userSubscriptions, sub.id = i → 0 < sub.amountTotal →
      0 ≤ sub.amountUsed ∧ sub.amountUsed ≤ sub.amountTotal) st ops := by
  refine always_of_inv (I := AllRows (InBounds i)) (fun st op _ => inBounds_step op)
    (fun st hst sub hs hid hpos => (hst sub hs hid hpos).2) (along_of_forall fun _ _ => trivial) ?_
  exact fun sub hs hid hpos => ⟨h64 sub hs hid, h sub hs hid hpos⟩

open Sample

/-- The sample subscription through a charge, a further delta, a reset and a late refund. -/
theorem within_total_sample :
    ∃ sub, (run subStep store [.preConsume (env 1500) "a" 1 600, .postConsume (env 1600) 1 300,
        .reset (env 2500) Sample.sub, .refund (env 2600) 0 "a"]).subscription 1 = some sub ∧
      0 ≤ sub.amountUsed ∧ sub.amountUsed ≤ sub.amountTotal := by
  have hrow : (run subStep store [.preConsume (env 1500) "a" 1 600, .postConsume (env 1600) 1 300,
      .reset (env 2500) sub, .refund (env 2600) 0 "a"]).subscription 1 =
        some { sub with lastResetTime := 2000, nextResetTime := 3000 } := by decide +kernel
  have h := (within_total 1 store [.preConsume (env 1500) "a" 1 600, .postConsume (env 1600) 1 300,
    .reset (env 2500) sub, .refund (env 2600) 0 "a"] (by decide) (by decide)).last
  exact ⟨_, hrow, h _ (Table.mem_of_lookup hrow) rfl (by decide)⟩

end SynthApi
