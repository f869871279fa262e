import SynthApi.Model.Subscription.Restoration

/-!
# How the rows of subscriptions live on

Charging, resetting and ending a subscription write its row back with other amounts, times and another status. None of
them touches the columns that say whose row it is and what was bought, and none makes a row active again: the new row
`Follows` the old one. `Store.Keeps` says so of the whole table, row by row; it holds for the charges (`subStep_keeps`)
and for the endings (`cancelTx_keeps`, `invalidateTx_keeps`, `expireUsers_keeps`).
-/

namespace SynthApi

open Lib

/-! ## The relation -/

/-- `new` is a later state of the row `old`. -/
structure UserSubscription.Follows (old new : UserSubscription) : Prop where
  id : new.id = old.id
  userId : new.userId = old.userId
  planId : new.planId = old.planId
  source : new.source = old.source
  active : new.status = .active → old.status = .active

/-- Every row of `st'` is a later state of the row of `st` at its place. -/
def Store.Keeps (st st' : Store) : Prop :=
  List.Forall₂ UserSubscription.Follows st.userSubscriptions st'.userSubscriptions

def Store.DistinctIds (st : Store) : Prop := (st.userSubscriptions.map (·.id)).Nodup

section Relation

variable {st st' st'' : Store} {old new : UserSubscription}

@[refl] theorem UserSubscription.Follows.refl (old : UserSubscription) : old.Follows old :=
  ⟨rfl, rfl, rfl, rfl, fun h => h⟩

theorem UserSubscription.Follows.trans {mid : UserSubscription} (h : old.Follows mid) (h' : mid.Follows new) :
    old.Follows new :=
  ⟨h'.id.trans h.id, h'.userId.trans h.userId, h'.planId.trans h.planId, h'.source.trans h.source,
    fun ha => h.active (h'.active ha)⟩

namespace Store.Keeps

theorem refl (st : Store) : st.Keeps st := List.forall₂_same.2 fun sub _ => .refl sub

theorem of_eq (h : st'.userSubscriptions = st.userSubscriptions) : st.Keeps st' := by
  unfold Store.Keeps
  rw [h]
  exact refl st

variable (h : st.Keeps st')

include h

theorem trans (h' : st'.Keeps st'') : st.Keeps st'' := by
  unfold Store.Keeps at h h' ⊢
  generalize st.userSubscriptions = rows at h
  generalize st'.userSubscriptions = rows' at h h'
  generalize st''.userSubscriptions = rows'' at h'
  induction h generalizing rows'' with
  | nil => cases h'; exact .nil
  | cons hrow _ ih =>
    cases h' with
    | cons hrow' hrest' => exact .cons (hrow.trans hrow') (ih _ hrest')

theorem exists_of_mem (hnew : new ∈ st'.userSubscriptions) :
    ∃ old ∈ st.userSubscriptions, old.Follows new := by
  unfold Store.Keeps at h
  generalize st.userSubscriptions = rows at h
  generalize st'.userSubscriptions = rows' at h hnew
  induction h with
  | nil => cases hnew
  | @cons r r' rows rows' hrow _ ih =>
    rcases List.mem_cons.1 hnew with rfl | hmem
    · exact ⟨r, by simp, hrow⟩
    · obtain ⟨old, hold, hf⟩ := ih hmem
      exact ⟨old, by simp [hold], hf⟩

theorem ids : st'.userSubscriptions.map (·.id) = st.userSubscriptions.map (·.id) := by
  unfold Store.Keeps at h
  generalize st.userSubscriptions = rows at h ⊢
  generalize st'.userSubscriptions = rows' at h ⊢
  induction h with
  | nil => rfl
  | cons hrow _ ih => simp [hrow.id, ih]

theorem distinctIds (hd : st.DistinctIds) : st'.DistinctIds := by
  unfold DistinctIds
  rw [h.ids]
  exact hd

theorem countPurchases (userId planId : Int) :
    st'.countPurchases userId planId = st.countPurchases userId planId := by
  unfold Store.Keeps at h
  unfold Store.countPurchases
  generalize st.userSubscriptions = rows at h ⊢
  generalize st'.userSubscriptions = rows' at h ⊢
  induction h with
  | nil => rfl
  | cons hrow _ ih => simp [List.countP_cons, hrow.userId, hrow.planId, ih]

theorem save (hd : st.DistinctIds) (hold : old ∈ st.userSubscriptions) (hf : old.Follows new) :
    st.Keeps (st'.saveSubscription new) := by
  unfold Store.Keeps at h ⊢
  -- the row at a place whose id is that of `new` is `old`: the ids are distinct
  have hsame : ∀ r ∈ st.userSubscriptions, r.id = new.id → r = old :=
    fun r hr hid => Table.eq_of_key hd hr hold (hid.trans hf.id)
  show List.Forall₂ _ _ (Table.updateKey UserSubscription.id new.id (fun _ => new) st'.userSubscriptions)
  unfold Table.updateKey Table.updateWhere
  rw [List.forall₂_map_right_iff]
  generalize st.userSubscriptions = rows at h hsame
  generalize st'.userSubscriptions = rows' at h
  induction h with
  | nil => exact .nil
  | @cons r r' rows rows' hrow _ ih =>
    refine .cons ?_ (ih fun q hq => hsame q (by simp [hq]))
    split
    · rename_i hid
      have hid : r'.id = new.id := by simpa using hid
      rw [hsame r (by simp) (hrow.id.symm.trans hid)]
      exact hf
    · exact hrow

end Store.Keeps

end Relation

/-! ## Charges and resets -/

section Charges

variable {e : Env} {st st' : Store} {sub sub' : UserSubscription} {plan : SubscriptionPlan} {now : Int}

theorem maybeReset_follows (h : maybeResetUserSubscriptionWithPlanTx e st sub plan now = some (sub', st')) :
    sub.Follows sub' := by
  unfold maybeResetUserSubscriptionWithPlanTx at h
  split at h
  · cases h
    exact .refl _
  · dsimp only at h
    split at h
    · cases h
    · split_ifs at h <;> cases h <;> exact ⟨rfl, rfl, rfl, rfl, fun h => h⟩

theorem RowWrite.follows (h : RowWrite sub sub') : sub.Follows sub' := by
  cases h with
  | reset h => exact maybeReset_follows h
  | charge _ _ | delta _ => exact ⟨rfl, rfl, rfl, rfl, fun h => h⟩

theorem SubWrites.keeps (hd : st.DistinctIds) (h : SubWrites st st') : st.Keeps st' := by
  induction h with
  | refl => exact .refl st
  | save _ hold hrow ih =>
    refine ih.save hd hold ?_
    clear ih
    induction hrow with
    | refl => rfl
    | tail _ hw ih => exact ih.trans hw.follows
  | records _ _ ih => exact ih

/-- **A charge or a reset** keeps the rows. -/
theorem subStep_keeps (hd : st.DistinctIds) (op : SubOp) : st.Keeps (subStep st op) := (subStep_writes st op).keeps hd

end Charges

/-! ## Endings -/

section Endings

variable {e : Env} {st st' : Store} {sub : UserSubscription} {userId now : Int}

theorem UserSubscription.Follows.cancel (sub : UserSubscription) (now : Int) : sub.Follows (sub.cancel now) :=
  ⟨rfl, rfl, rfl, rfl, nofun⟩

theorem UserSubscription.Follows.expire (sub : UserSubscription) (userId now : Int) :
    sub.Follows (sub.expire userId now) := by
  rcases expire_cases sub userId now with h | ⟨-, -, h⟩
  · rw [h]
  · rw [h]
    exact ⟨rfl, rfl, rfl, rfl, nofun⟩

variable {r : String × Store} {userSubscriptionId : Int}

theorem downgrade_keeps (h : downgradeUserGroupForSubscriptionTx e st sub now = .ok r) : st.Keeps r.2 := by
  obtain ⟨-, hr⟩ | ⟨-, hr⟩ | ⟨-, hr⟩ := downgrade_cases h <;> rw [hr]
  · exact .refl _
  · exact .refl _
  · exact .of_eq restoreGroup_userSubscriptions

theorem cancelAndDowngrade_keeps (hd : st.DistinctIds) (hsub : sub ∈ st.userSubscriptions)
    (h : cancelAndDowngrade e now sub st = .ok r) : st.Keeps r.2 := by
  unfold cancelAndDowngrade at h
  split at h
  · cases h
  · rename_i r' hr'
    cases h
    exact ((Store.Keeps.refl st).save hd hsub (.cancel sub now)).trans (downgrade_keeps hr')

theorem invalidateTx_keeps (hd : st.DistinctIds)
    (h : invalidateTx e userSubscriptionId st = .ok r) : st.Keeps r.2 := by
  unfold invalidateTx at h
  split at h
  · cases h
  · rename_i sub hsub
    exact cancelAndDowngrade_keeps hd (Table.mem_of_lookup hsub) h

theorem cancelTx_keeps {r : SubscriptionCancelResult × Store} (hd : st.DistinctIds)
    (h : cancelTx e userId userSubscriptionId st = .ok r) : st.Keeps r.2 := by
  obtain ⟨sub, plan, refund, group, hsub, -, -, -, -, hcancel⟩ := cancelTx_cases h
  have hpaid : st.Keeps (st.payRefund userId refund.refundQuota) := .of_eq (payRefund_userSubscriptions _)
  refine hpaid.trans (cancelAndDowngrade_keeps (hpaid.distinctIds hd) ?_ hcancel)
  rw [payRefund_userSubscriptions]
  exact hsub

theorem expireUserTx_keeps {r : Int × Store} (h : expireUserTx e userId now st = .ok r) : st.Keeps r.2 := by
  have hmark : st.Keeps { st with userSubscriptions := st.userSubscriptions.map (·.expire userId now) } :=
    List.forall₂_map_right_iff.2 (List.forall₂_same.2 fun sub _ => .expire sub userId now)
  unfold expireUserTx at h
  dsimp only at h
  split at h
  · cases h
    exact hmark
  split at h
  · cases h
    exact hmark
  · rename_i last _
    cases h
    exact hmark.trans (.of_eq restoreGroup_userSubscriptions)

/-- **The loop of the sweep** keeps the rows. -/
theorem expireUsers_keeps (userIds : List Int) (expiredCount : Int) (st : Store) :
    st.Keeps (expireUsers e now userIds expiredCount st).2 := by
  induction userIds generalizing expiredCount st with
  | nil => exact .refl _
  | cons userId userIds ih =>
    unfold expireUsers
    obtain ⟨count, st', -, hbody, htx⟩ | ⟨err, htx⟩ :=
      transaction_cases (e.fails (.expireUser userId)) (expireUserTx e userId now) st
    · rw [htx]
      have hkeeps := expireUserTx_keeps hbody
      exact hkeeps.trans (ih (expiredCount + count) st')
    · rw [htx]
      exact .refl _

end Endings

end SynthApi
