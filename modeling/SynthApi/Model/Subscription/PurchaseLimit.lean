import SynthApi.Model.Subscription.Shop

/-!
# The purchase limit of a plan

A plan may limit how many subscriptions of it a user buys. The check counts the rows that are there, so it limits the
purchases of a whole history exactly as long as no row of the plan and the user is deleted: then the rows are the
purchases (`countPurchases_step`), and a purchase above the limit is refused (`within_limit_step`).

`purchases_within_limit` is the statement for whole histories; `limit_bypassed_by_deletion` is a history in which a user
deletes the record of an expired subscription and buys beyond the limit. A record that no call deletes lives on
(`record_follows`).
-/

namespace SynthApi

open Lib List

/-! ## Purchases of a history -/

/-- The subscriptions that a call adds. -/
def Shop.created (shop : Shop) (op : ShopOp) : List UserSubscription :=
  (shopStep shop op).store.userSubscriptions.drop shop.store.userSubscriptions.length

/-- Those of plan `pid` for user `uid`. -/
def obtains (uid pid : Int) (shop : Shop) (op : ShopOp) : List UserSubscription :=
  (shop.created op).filter fun sub => sub.userId = uid && sub.planId = pid

def LimitIs (pid : Int) (m : Nat) (shop : Shop) : Prop := ∀ plan ∈ shop.plan pid, plan.maxPurchasePerUser = m

instance (pid : Int) (m : Nat) (shop : Shop) : Decidable (LimitIs pid m shop) :=
  inferInstanceAs (Decidable (∀ plan ∈ shop.plan pid, _))

def KeepsRecords (uid pid : Int) (shop : Shop) (op : ShopOp) : Prop :=
  ∀ sub ∈ shop.store.userSubscriptions, op.deletedId = some sub.id → ¬ (sub.userId = uid ∧ sub.planId = pid)

instance (uid pid : Int) (shop : Shop) (op : ShopOp) : Decidable (KeepsRecords uid pid shop op) :=
  inferInstanceAs (Decidable (∀ sub ∈ shop.store.userSubscriptions, _))

section Step

variable {uid pid : Int} {m : Nat} {shop : Shop} {op : ShopOp}

theorem created_of_keeps (h : shop.store.Keeps (shopStep shop op).store) : shop.created op = [] :=
  drop_eq_nil_of_le (List.Forall₂.length_eq h).ge

theorem created_of_append {sub : UserSubscription}
    (h : (shopStep shop op).store.userSubscriptions = shop.store.userSubscriptions ++ [sub]) : shop.created op = [sub] := by
  rw [Shop.created, h, drop_left]

theorem created_of_filter {p : UserSubscription → Bool}
    (h : (shopStep shop op).store.userSubscriptions = shop.store.userSubscriptions.filter p) : shop.created op = [] := by
  rw [Shop.created, h]
  exact drop_eq_nil_of_le (length_filter_le _ _)

/-- A call that deletes no record of the plan and the user obtains nothing, or one subscription that the limit allows.
-/
theorem obtains_cases (hd : shop.store.DistinctIds) (hkeep : KeepsRecords uid pid shop op) :
    (obtains uid pid shop op = [] ∧
        (shopStep shop op).store.countPurchases uid pid = shop.store.countPurchases uid pid) ∨
      ∃ sub plan, obtains uid pid shop op = [sub] ∧ shop.plan pid = some plan ∧
        (0 < plan.maxPurchasePerUser → shop.store.countPurchases uid pid < plan.maxPurchasePerUser) ∧
        (shopStep shop op).store.countPurchases uid pid = shop.store.countPurchases uid pid + 1 := by
  unfold obtains
  cases shopStep_rows hd op with
  | keeps h =>
    rw [created_of_keeps h]
    exact .inl ⟨rfl, h.countPurchases uid pid⟩
  | creates sub plan source found h =>
    have hcount : (shopStep shop op).store.countPurchases uid pid = shop.store.countPurchases uid pid +
        ([sub].filter fun s => decide (s.userId = uid) && decide (s.planId = pid)).length := by
      rw [Store.countPurchases, h.rows, countP_append, ← countP_eq_length_filter]
      rfl
    rw [created_of_append h.rows, hcount]
    by_cases hmine : sub.userId = uid ∧ sub.planId = pid
    · obtain ⟨rfl, rfl⟩ := hmine
      have hlimit := h.limit
      rw [← h.planId] at found hlimit
      exact .inr ⟨sub, plan, by simp, found, hlimit, by simp⟩
    · have hnone : [sub].filter (fun s => decide (s.userId = uid) && decide (s.planId = pid)) = [] := by
        simpa using hmine
      rw [hnone]
      exact .inl ⟨rfl, rfl⟩
  | deletes id hop h =>
    -- the deleted row is another user's or of another plan
    rw [created_of_filter h, Store.countPurchases, h, countP_filter]
    refine .inl ⟨rfl, countP_congr fun sub hsub => ?_⟩
    have hne : sub.userId = uid → sub.planId = pid → sub.id ≠ id := by
      rintro huser hplan rfl
      exact hkeep sub hsub hop ⟨huser, hplan⟩
    simpa using hne

/-- **One call** obtains at most what the limit leaves. -/
theorem within_limit_step (hm : 0 < m) (hd : shop.store.DistinctIds) (hlimit : LimitIs pid m shop)
    (hkeep : KeepsRecords uid pid shop op) (h : shop.store.countPurchases uid pid ≤ m) :
    (shopStep shop op).store.countPurchases uid pid =
        shop.store.countPurchases uid pid + (obtains uid pid shop op).length ∧
      (shopStep shop op).store.countPurchases uid pid ≤ m := by
  obtain ⟨hnone, hcount⟩ | ⟨sub, plan, hone, hplan, hlt, hcount⟩ := obtains_cases hd hkeep
  · rw [hnone, hcount]
    exact ⟨rfl, h⟩
  · have hmax : plan.maxPurchasePerUser = m := hlimit plan hplan
    rw [hone, hcount]
    exact ⟨rfl, by omega⟩

theorem distinctIds_step (hd : shop.store.DistinctIds) : (shopStep shop op).store.DistinctIds := by
  cases shopStep_rows hd op with
  | keeps h => exact h.distinctIds hd
  | creates sub plan source found h =>
    unfold Store.DistinctIds
    rw [h.rows, map_append, nodup_append]
    refine ⟨hd, by simp, ?_⟩
    intro i hi j hj
    simp only [map_cons, map_nil, mem_singleton] at hj
    rintro rfl
    rw [hj, h.id] at hi
    exact Table.nextId_not_mem _ hi
  | deletes id hop h =>
    unfold Store.DistinctIds
    rw [h]
    exact List.Nodup.sublist (filter_sublist.map _) hd

end Step

/-! ## Whole histories -/

section Histories

variable {uid pid : Int} {m : Nat}

/-- What is obtained from a state on, with the rows that are there, stays within the limit. -/
theorem obtained_le (hm : 0 < m) {shop : Shop} {ops : List ShopOp} (hd : shop.store.DistinctIds)
    (hops : Along shopStep (fun shop op => LimitIs pid m shop ∧ KeepsRecords uid pid shop op) shop ops)
    (h : shop.store.countPurchases uid pid ≤ m) :
    shop.store.countPurchases uid pid + (trace shopStep (obtains uid pid) shop ops).length ≤ m := by
  induction ops generalizing shop with
  | nil => simpa [trace] using h
  | cons op ops ih =>
    obtain ⟨⟨hlimit, hkeep⟩, hrest⟩ := hops
    obtain ⟨hcount, hle⟩ := within_limit_step hm hd hlimit hkeep h
    have hnext := ih (distinctIds_step hd) hrest hle
    rw [trace, length_append]
    omega

/-- **The purchase limit holds over whole histories** that delete no record of the plan: a user who starts without a
subscription of a plan with limit `m` obtains at most `m` of them in total. -/
theorem purchases_within_limit (uid pid : Int) (m : Nat) (hm : 0 < m) (shop : Shop) (ops : List ShopOp)
    (hids : (shop.store.userSubscriptions.map (·.id)).Nodup)
    (hnone : ∀ sub ∈ shop.store.userSubscriptions, ¬ (sub.userId = uid ∧ sub.planId = pid))
    (hlimit : Along shopStep (fun shop _ => LimitIs pid m shop) shop ops)
    (hkeep : Along shopStep (KeepsRecords uid pid) shop ops) :
    (trace shopStep (obtains uid pid) shop ops).length ≤ m := by
  have hzero : shop.store.countPurchases uid pid = 0 := by
    rw [Store.countPurchases, countP_eq_zero]
    intro sub hsub
    simpa using hnone sub hsub
  have hle := obtained_le hm hids (along_and hlimit hkeep) (by omega)
  omega

end Histories

namespace Sample

def oncePlan : PlanRow := { plan with customSeconds := 1000, maxPurchasePerUser := 1, enabled := true, allowBalancePay := none }

/-- Nobody has a subscription yet. -/
def onceShop : Shop := ⟨{ store with userSubscriptions := [] }, [oncePlan], []⟩

/-- User 1 buys at `now` with balance. -/
def buysOnce (now : Int) : ShopOp := .buy (env now) 1 1 "SUBBALUSR1"

end Sample

open Sample

/-- A second purchase is refused, also after the first has expired. -/
theorem purchases_within_limit_sample :
    (trace shopStep (obtains 1 1) onceShop
      [buysOnce 1000, buysOnce 1500, .expire (env 2500) 200 [1], buysOnce 3000]).length = 1 ∧
    (trace shopStep (obtains 1 1) onceShop
      [buysOnce 1000, buysOnce 1500, .expire (env 2500) 200 [1], buysOnce 3000]).length ≤ 1 := by
  refine ⟨by decide +kernel, purchases_within_limit 1 1 1 (by decide) _ _ (by decide) (by decide) ?_ ?_⟩ <;> decide +kernel

/-- **A user who deletes the record of an expired subscription buys beyond the limit.** -/
theorem limit_bypassed_by_deletion :
    LimitIs 1 1 onceShop ∧
      (trace shopStep (obtains 1 1) onceShop
        [buysOnce 1000, .expire (env 2500) 200 [1], .deleteFinished (env 2600) none 1 1,
          buysOnce 3000]).length = 2 := by
  decide +kernel

/-! ## The life of a record -/

/-- A call that does not delete a record leaves it or a later state of it. -/
theorem follows_step {shop : Shop} {op : ShopOp} {sub : UserSubscription} (hd : shop.store.DistinctIds)
    (hsub : sub ∈ shop.store.userSubscriptions) (hop : op.deletedId ≠ some sub.id) :
    ∃ sub' ∈ (shopStep shop op).store.userSubscriptions, sub.Follows sub' := by
  cases shopStep_rows hd op with
  | keeps h =>
    -- a row of that id is there, and it comes from a row of that id
    obtain ⟨sub', hsub', hid⟩ := mem_map.1 (h.ids.symm ▸ mem_map_of_mem hsub)
    obtain ⟨old, hold, hf⟩ := h.exists_of_mem hsub'
    obtain rfl : old = sub := Table.eq_of_key hd hold hsub (hf.id.symm.trans hid)
    exact ⟨sub', hsub', hf⟩
  | creates new plan source found h =>
    rw [h.rows]
    exact ⟨sub, mem_append_left _ hsub, .refl sub⟩
  | deletes id hid h =>
    have hne : sub.id ≠ id := by
      rintro rfl
      exact hop hid
    exact ⟨sub, by simp [h, hsub, hne], .refl sub⟩

/-- **A record lives on** through every history that does not delete it: it keeps its user, its plan and its source, and
one that has ended stays so. -/
theorem record_follows (shop : Shop) (ops : List ShopOp) (sub : UserSubscription)
    (hids : (shop.store.userSubscriptions.map (·.id)).Nodup) (hsub : sub ∈ shop.store.userSubscriptions)
    (hkeep : ∀ op ∈ ops, op.deletedId ≠ some sub.id) :
    ∃ sub' ∈ (run shopStep shop ops).store.userSubscriptions, sub.Follows sub' := by
  induction ops generalizing shop sub with
  | nil => exact ⟨sub, hsub, .refl sub⟩
  | cons op ops ih =>
    rw [forall_mem_cons] at hkeep
    obtain ⟨mid, hmid, hf⟩ := follows_step hids hsub hkeep.1
    obtain ⟨sub', hsub', hf'⟩ := ih _ mid (distinctIds_step hids) hmid (hf.id ▸ hkeep.2)
    exact ⟨sub', hsub', hf.trans hf'⟩

theorem record_follows_sample :
    ∃ sub' ∈ (run shopStep ⟨store, [oncePlan], []⟩
        [.invalidate (env 1100) 1, buysOnce 1200, .deleteFinished (env 1300) none 1 2]).store.userSubscriptions,
      sub.Follows sub' :=
  record_follows _ _ sub (by decide) (by simp [store]) (by decide)

end SynthApi
