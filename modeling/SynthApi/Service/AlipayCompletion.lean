import SynthApi.Model.Subscription.Fulfilment
import SynthApi.Service.AlipayProof

/-!
# An order of Alipay is completed by a proof of payment

A step of a call keeps the orders and the conditions of the places, and makes a pending order paid only if the order has a
proof (`alipayStep_ok`): for the statements that write top-ups (`TopUpEffect.kept`), for those that write subscription orders
(`OrderEffect.kept`), and for those that only read. So it is in every run of a call, with any parameters and any answers of
the gateway, while others change the tables (`alipay_completion_proved`).
-/

namespace SynthApi

open Lib Lib.Go Lib.Table

/-! ## Writes of top-ups -/

/-- What a step leaves of a top-up; it is paid only if it was, or has a proof. -/
structure TopUpKept (P : String → Prop) (row row' : TopUp) : Prop where
  tradeNo : row'.tradeNo = row.tradeNo
  money : row'.money = row.money
  paymentProfile : row'.paymentProfile = row.paymentProfile
  paid : row'.status = .success → row.status = .success ∨ P row.tradeNo

section TopUps

variable {site : AlipaySite} {P : String → Prop} {db db' : TopUpDb}

theorem TopUpKept.refl (row : TopUp) : TopUpKept P row row := ⟨rfl, rfl, rfl, .inl⟩

def TopUpsKept (P : String → Prop) (db db' : TopUpDb) : Prop :=
  ∀ tradeNo, Option.Rel (fun row row' : TopUpRow => TopUpKept P row.toTopUp row'.toTopUp) (db.topUps tradeNo)
    (db'.topUps tradeNo)

theorem TopUpsKept.of_eq (h : db'.topUps = db.topUps) : TopUpsKept P db db' := by
  intro tradeNo
  rw [h]
  exact rel_refl (fun row => .refl row.toTopUp) _

/-- The write of one row. -/
theorem TopUpsKept.update (tradeNo : String) {x : Option TopUpRow}
    (h : db'.topUps = Function.update db.topUps tradeNo x)
    (hx : Option.Rel (fun row row' : TopUpRow => TopUpKept P row.toTopUp row'.toTopUp) (db.topUps tradeNo) x) :
    TopUpsKept P db db' := by
  intro other
  rw [h]
  by_cases heq : other = tradeNo
  · subst heq
    rwa [Function.update_self]
  · rw [Function.update_of_ne heq]
    exact TopUpsKept.of_eq rfl other

/-- **A statement of a top-up** completes only an order that has a proof. -/
theorem TopUpEffect.kept {place place' : TopUpPlace} {credits : List (Int × ℚ)}
    (he : TopUpEffect site.topUp db place place' db' credits) (hplace : place.Proved site P)
    (hkeys : ∀ tradeNo row, db.topUps tradeNo = some row → row.tradeNo = tradeNo) :
    place'.Proved site P ∧ TopUpsKept P db db' := by
  cases he with
  | waits | clears | computes => exact ⟨hplace, .of_eq rfl⟩
  | ends | conflicts | skips => exact ⟨trivial, .of_eq rfl⟩
  | rollsBack => exact ⟨trivial, .of_eq (by simp)⟩
  | reads c t hfound =>
    obtain ⟨tradeNo, hproof, providerTradeNo, paidMoney, rfl⟩ := hplace
    obtain rfl : t.tradeNo = tradeNo := hkeys _ _ hfound
    exact ⟨⟨hproof, _, _, rfl⟩, .of_eq rfl⟩
  | saves c t now =>
    obtain ⟨hproof, providerTradeNo, paidMoney, rfl⟩ := hplace
    exact ⟨⟨hproof, _, _, rfl⟩, .of_eq rfl⟩
  | credits c t x hatomic =>
    obtain ⟨-, providerTradeNo, paidMoney, rfl⟩ := hplace
    cases hatomic
  | commits c t x =>
    obtain ⟨hproof, providerTradeNo, paidMoney, rfl⟩ := hplace
    refine ⟨trivial, .update t.tradeNo (by rfl) ?_⟩
    cases hrow : db.topUps t.tradeNo with
    | none => exact .none
    | some row => exact .some ⟨rfl, rfl, rfl, fun _ => .inr (by rw [hkeys _ _ hrow]; exact hproof)⟩
  | updates u t now hfree hfound =>
    have hexpired : (u.apply now t).status = .expired := hplace
    refine ⟨trivial, .update t.tradeNo rfl ?_⟩
    rw [hkeys _ _ hfound, hfound]
    refine .some ⟨rfl, rfl, rfl, fun hsuccess => ?_⟩
    rw [hexpired] at hsuccess
    cases hsuccess

end TopUps

/-! ## Writes of subscription orders -/

/-- What a step leaves of a subscription order; it is paid only if it was, or has a proof. -/
structure OrderKept (P : String → Prop) (o o' : SubscriptionOrder) : Prop where
  id : o'.id = o.id
  tradeNo : o'.tradeNo = o.tradeNo
  money : o'.money = o.money
  paymentProfile : o'.paymentProfile = o.paymentProfile
  paid : o'.status = .success → o.status = .success ∨ P o.tradeNo

/-- The tables before and after a step of a subscription order. A top-up is written only as the record of its order. -/
structure OrdersKept (P : String → Prop) (db db' : OrderDb) : Prop where
  ids : db'.orders.map SubscriptionOrder.id = db.orders.map SubscriptionOrder.id
  orders : ∀ tradeNo, Option.Rel (OrderKept P) (db.order tradeNo) (db'.order tradeNo)
  topUps : ∀ tradeNo,
    lookup TopUp.tradeNo tradeNo db'.topUps = lookup TopUp.tradeNo tradeNo db.topUps ∨
      ∃ o t, db.order tradeNo = some o ∧ lookup TopUp.tradeNo tradeNo db'.topUps = some t ∧
        t.money = o.money ∧ t.paymentProfile = o.paymentProfile

section Orders

variable {P : String → Prop} {db db' db'' : OrderDb} {order : SubscriptionOrder} {codec : Codec}

theorem OrderKept.refl (o : SubscriptionOrder) : OrderKept P o o := ⟨rfl, rfl, rfl, rfl, .inl⟩

theorem OrderKept.trans {o o' o'' : SubscriptionOrder} (h : OrderKept P o o') (h' : OrderKept P o' o'') :
    OrderKept P o o'' := by
  refine ⟨h'.id.trans h.id, h'.tradeNo.trans h.tradeNo, h'.money.trans h.money, h'.paymentProfile.trans h.paymentProfile, ?_⟩
  intro hpaid
  rcases h'.paid hpaid with hpaid | hproof
  · exact h.paid hpaid
  · exact .inr (h.tradeNo ▸ hproof)

theorem OrdersKept.of_eq (horders : db'.orders = db.orders) (htopUps : db'.topUps = db.topUps) : OrdersKept P db db' := by
  refine ⟨by rw [horders], fun tradeNo => ?_, fun tradeNo => .inl (by rw [htopUps])⟩
  rw [OrderDb.order, OrderDb.order, horders]
  exact rel_refl .refl _

theorem OrdersKept.trans (h : OrdersKept P db db') (h' : OrdersKept P db' db'') : OrdersKept P db db'' := by
  refine ⟨h'.ids.trans h.ids, fun tradeNo => rel_trans (fun _ _ _ => .trans) (h.orders tradeNo) (h'.orders tradeNo), ?_⟩
  intro tradeNo
  rcases h'.topUps tradeNo with hsame | ⟨o', t, ho', ht, hmoney, hprofile⟩
  · rw [hsame]
    exact h.topUps tradeNo
  · obtain ⟨o, ho, hkept⟩ := rel_right (h.orders tradeNo) ho'
    exact .inr ⟨o, t, ho, ht, hmoney.trans hkept.money, hprofile.trans hkept.paymentProfile⟩

theorem IsCopy.kept (h : OrdersKept P db db') (hcopy : IsCopy db order) : IsCopy db' order := by
  obtain ⟨o, ho, hid, hmoney, hprofile⟩ := hcopy
  obtain ⟨o', ho', hkept⟩ := rel_left (h.orders order.tradeNo) ho
  exact ⟨o', ho', hkept.id.trans hid, hkept.money.trans hmoney, hkept.paymentProfile.trans hprofile⟩

theorem write_kept (hids : (db.orders.map (·.id)).Nodup) (hproof : P order.tradeNo) (hcopy : IsCopy db order)
    {w : Write} (hw : w.Completes order) : OrdersKept P db (db.write w) := by
  obtain ⟨copied, hcopied, hid, hmoney, hprofile⟩ := hcopy
  cases w with
  | claimOrder id completeTime c =>
    refine ⟨write_ids db _, fun tradeNo => ?_, fun tradeNo => .inl rfl⟩
    rw [order_claim]
    cases ho : db.order tradeNo with
    | none => exact .none
    | some o =>
      refine .some ?_
      dsimp only
      split
      next hclaimed =>
        -- The claimed row is the one of the order, by its id.
        have hsame : o = copied := eq_of_key hids (mem_of_lookup ho) (mem_of_lookup hcopied)
          (by rw [hclaimed, hid]; exact hw)
        have hname : o.tradeNo = order.tradeNo := by
          rw [hsame]
          exact key_of_lookup hcopied
        exact ⟨rfl, rfl, rfl, rfl, fun _ => .inr (by rw [hname]; exact hproof)⟩
      next => exact .refl o
  | setGroup userId group | insertSubscription sub => exact .of_eq rfl rfl
  | insertTopUp t =>
    refine ⟨rfl, fun tradeNo => rel_refl .refl _, fun tradeNo => ?_⟩
    show lookup (·.tradeNo) tradeNo (db.topUps ++ [t]) = _ ∨ ∃ o t', _ ∧
      lookup (·.tradeNo) tradeNo (db.topUps ++ [t]) = some t' ∧ _
    rw [lookup_append]
    cases hrow : lookup (·.tradeNo) tradeNo db.topUps with
    | some row => exact .inl rfl
    | none =>
      rw [lookup_cons]
      split
      next hname =>
        refine .inr ⟨copied, t, ?_, rfl, hw.2.1.trans hmoney.symm, hw.2.2.trans hprofile.symm⟩
        rw [← hname, hw.1]
        exact hcopied
      next => exact .inl rfl
  | saveTopUp t =>
    refine ⟨rfl, fun tradeNo => rel_refl .refl _, fun tradeNo => ?_⟩
    by_cases hname : tradeNo = t.tradeNo
    · have hsaved : lookup (·.tradeNo) tradeNo (db.write (.saveTopUp t)).topUps =
          (lookup (·.tradeNo) tradeNo db.topUps).map fun _ => t := by
        rw [hname]
        exact lookup_updateKey fun _ _ => rfl
      rw [hsaved]
      cases lookup (·.tradeNo) tradeNo db.topUps with
      | none => exact .inl rfl
      | some row =>
        refine .inr ⟨copied, t, ?_, rfl, hw.2.1.trans hmoney.symm, hw.2.2.trans hprofile.symm⟩
        rw [hname, hw.1]
        exact hcopied
    · exact .inl (lookup_updateKey_ne (fun _ _ => rfl) hname)

theorem applyLog_kept {log : List Write} (hids : (db.orders.map (·.id)).Nodup) (hproof : P order.tradeNo)
    (hcopy : IsCopy db order) (hlog : ∀ w ∈ log, w.Completes order) : OrdersKept P db (db.applyLog log) := by
  induction log generalizing db with
  | nil => exact .of_eq rfl rfl
  | cons w log ih =>
    have hw := write_kept hids hproof hcopy (hlog w List.mem_cons_self)
    refine hw.trans (ih ?_ (hcopy.kept hw) (List.forall_mem_cons.1 hlog).2)
    rw [hw.ids]
    exact hids

/-- A statement of the transaction. -/
theorem txStep_proved {e : Env} {t t' : OrderTx} (h : t.step codec e db = .ok t')
    (hplace : (OrderPlace.inTx t).Proved P db) : (OrderPlace.inTx t').Proved P db := by
  obtain ⟨hproof, hcopy, hnext, hlog⟩ := hplace
  -- The statement goes on, with writes that are those of a completion.
  have hgoto : ∀ next writes, next.OfOrder t.order → (∀ w ∈ writes, w.Completes t.order) →
      (OrderPlace.inTx (t.goto next writes)).Proved P db := by
    intro next writes hnext hwrites
    refine ⟨hproof, hcopy, hnext, fun w hw => ?_⟩
    rcases List.mem_append.1 hw with hw | hw
    · exact hlog w hw
    · exact hwrites w hw
  have hnone : ∀ w ∈ ([] : List Write), w.Completes t.order := fun w hw => absurd hw List.not_mem_nil
  unfold OrderTx.step at h
  split at h
  next => -- plan
    split at h
    · cases h
    · cases h
      exact hgoto _ _ trivial hnone
  next => -- count
    split at h
    · cases h
    · cases h
      exact hgoto _ _ trivial hnone
  next => -- readGroup
    cases h
    exact hgoto _ _ trivial hnone
  next => -- updateGroup
    split at h
    · cases h
      exact hgoto _ _ trivial (List.forall_mem_singleton.2 trivial)
    · cases h
      exact hgoto _ _ trivial hnone
  next => -- insertSubscription
    cases h
    exact hgoto _ _ trivial (List.forall_mem_singleton.2 trivial)
  next => -- readTopUp
    split at h
    · cases h
    · cases h
      refine hgoto _ _ ?_ hnone
      cases hrow : lookup (·.tradeNo) t.order.tradeNo db.topUps with
      | none => trivial
      | some topUp => exact key_of_lookup hrow
  next => -- writeTopUp, of a new row
    cases h
    exact hgoto _ _ trivial (List.forall_mem_singleton.2 ⟨rfl, rfl, rfl⟩)
  next providerTradeNo topUp heq => -- writeTopUp, of the row that is there
    split at h
    · cases h
    next merged hmerged =>
      cases h
      refine hgoto _ _ trivial (List.forall_mem_singleton.2 ?_)
      rw [heq] at hnext
      rw [mergeTopUp] at hmerged
      split_ifs at hmerged
      all_goals
        cases hmerged
        exact ⟨hnext, rfl, rfl⟩
  next => -- commit
    cases h
    exact ⟨hproof, hcopy, hnext, hlog⟩

/-- **A step of a subscription order** completes only an order that has a proof. -/
theorem OrderEffect.kept {place place' : OrderPlace} (he : OrderEffect codec db place place' db')
    (hids : (db.orders.map (·.id)).Nodup) (hplace : place.Proved P db) :
    place'.Proved P db ∧ OrdersKept P db db' := by
  cases he with
  | waits => exact ⟨hplace, .of_eq rfl rfl⟩
  | ends | conflicts | rollsBack => exact ⟨trivial, .of_eq rfl rfl⟩
  | @reads c order hfound =>
    have hname : order.tradeNo = c.tradeNo := key_of_lookup hfound
    refine ⟨⟨hname ▸ hplace, order, ?_, rfl, rfl, rfl⟩, .of_eq rfl rfl⟩
    rwa [hname]
  | claims => exact ⟨⟨hplace.1, hplace.2, trivial, List.forall_mem_singleton.2 rfl⟩, .of_eq rfl rfl⟩
  | commits => exact ⟨trivial, (applyLog_kept hids hplace.1 hplace.2.1 hplace.2.2.2).trans (.of_eq rfl rfl)⟩
  | goesOn e _ hstep => exact ⟨txStep_proved hstep hplace, .of_eq rfl rfl⟩
  | @expires c place' now _ hplace' =>
    refine ⟨?_, map_id_updateWhere (f := setExpired now) (fun _ => rfl) db.orders, fun tradeNo => ?_, fun _ => .inl rfl⟩
    · rcases hplace' with rfl | rfl <;> trivial
    · show Option.Rel (OrderKept P) (db.order tradeNo) (lookup (·.tradeNo) tradeNo
        (updateWhere c.expires (setExpired now) db.orders))
      rw [lookup_updateWhere (f := setExpired _) fun _ _ => rfl, ← OrderDb.order]
      cases db.order tradeNo with
      | none => exact .none
      | some o =>
        refine .some ?_
        dsimp only
        split
        · exact ⟨rfl, rfl, rfl, rfl, fun h => by cases h⟩
        · exact .refl o

end Orders

/-! ## Steps and runs of a call -/

section Steps

variable {site : AlipaySite} {R : AlipayMessage → String → Prop} {db db' : AlipayDb}

/-- What a step of a call does: the orders stay, the next place is in order, and an order that becomes paid has a proof. -/
structure AlipayStepOk (site : AlipaySite) (R : AlipayMessage → String → Prop) (db : AlipayDb) (place : AlipayPlace)
    (db' : AlipayDb) : Prop where
  keeps : KeepsOrders db db'
  ok : place.Ok site R db'
  paid : ∀ tradeNo order order', db.localOrder site tradeNo = .ok order → order.status = .pending →
    db'.localOrder site tradeNo = .ok order' → order'.status = .success → HasProof site R db tradeNo

variable {place : AlipayPlace}

theorem AlipayStepOk.read (hsound : db.Sound) (h : place.Ok site R db) : AlipayStepOk site R db place db := by
  refine ⟨.refl hsound, h, fun tradeNo order order' horder hpending horder' hsuccess => ?_⟩
  obtain rfl := Except.ok.inj (horder.symm.trans horder')
  rw [hpending] at hsuccess
  cases hsuccess

theorem topUpDb_key (db : AlipayDb) (tradeNo : String) (row : TopUpRow) (h : db.topUpDb.topUps tradeNo = some row) :
    row.tradeNo = tradeNo := by
  obtain ⟨t, ht, rfl⟩ := Option.map_eq_some_iff.1 h
  exact (key_of_lookup ht :)

variable {P : String → Prop} {r : TopUpDb}

theorem putTopUps_kept (h : TopUpsKept P db.topUpDb r) (tradeNo : String) :
    Option.Rel (TopUpKept P) (db.topUp tradeNo) ((db.putTopUps r).topUp tradeNo) := by
  have hkey : ∀ t : TopUp, (((r.topUps t.tradeNo).map (·.toTopUp)).getD t).tradeNo = t.tradeNo := by
    intro t
    cases hrow : r.topUps t.tradeNo with
    | none => rfl
    | some row' =>
      obtain ⟨row, hold, hkept⟩ := rel_right (h t.tradeNo) hrow
      exact hkept.tradeNo.trans (topUpDb_key db _ _ hold)
  have hlookup : (db.putTopUps r).topUp tradeNo =
      (db.topUp tradeNo).map fun t => ((r.topUps t.tradeNo).map (·.toTopUp)).getD t := by
    have hupdate : lookup (·.tradeNo) tradeNo (updateWhere (fun _ => true)
        (fun t => ((r.topUps t.tradeNo).map (·.toTopUp)).getD t) db.topUps) = _ := lookup_updateWhere fun t _ => hkey t
    simpa [AlipayDb.topUp, AlipayDb.putTopUps] using hupdate
  rw [hlookup]
  cases ht : db.topUp tradeNo with
  | none => exact .none
  | some t =>
    have hold : db.topUpDb.topUps t.tradeNo = some ⟨t, (db.topUpInfo t.tradeNo).1, (db.topUpInfo t.tradeNo).2⟩ := by
      show (db.topUp t.tradeNo).map _ = _
      rw [key_of_lookup ht, ht]
      rfl
    obtain ⟨row', hrow, hkept⟩ := rel_left (h t.tradeNo) hold
    refine .some ?_
    dsimp only
    rw [hrow]
    exact hkept

/-- An order becomes paid only if its row does, and then it has a proof. -/
theorem paid_of_kept {tradeNo : String} {order order' : AlipayLocalOrder}
    (horders : ∀ tradeNo, Option.Rel (OrderKept P) (db.order tradeNo) (db'.order tradeNo))
    (htopUps : ∀ tradeNo, db.order tradeNo = none → Option.Rel (TopUpKept P) (db.topUp tradeNo) (db'.topUp tradeNo))
    (horder : db.localOrder site tradeNo = .ok order) (hpending : order.status = .pending)
    (horder' : db'.localOrder site tradeNo = .ok order') (hsuccess : order'.status = .success) : P tradeNo := by
  rcases localOrder_row horder with ⟨o, ho, rfl⟩ | ⟨hnone, t, ht, rfl⟩
  · obtain ⟨o₁, ho₁, hkept⟩ := rel_left (horders tradeNo) ho
    rcases localOrder_row horder' with ⟨o', ho', rfl⟩ | ⟨ho', -⟩
    · cases ho'.symm.trans ho₁
      rcases hkept.paid hsuccess with hpaid | hproof
      · cases hpending.symm.trans hpaid
      · exact key_of_lookup ho ▸ hproof
    · cases ho₁.symm.trans ho'
  · rcases localOrder_row horder' with ⟨o', ho', -⟩ | ⟨-, t', ht', rfl⟩
    · cases ho'.symm.trans (rel_none (horders tradeNo) hnone)
    · obtain ⟨t₀, ht₀, hkept⟩ := rel_right (htopUps tradeNo hnone) ht'
      cases ht.symm.trans ht₀
      rcases hkept.paid hsuccess with hpaid | hproof
      · cases hpending.symm.trans hpaid
      · exact key_of_lookup ht ▸ hproof

theorem topUp_stepOk (hsound : db.Sound) (hkept : TopUpsKept (HasProof site R db) db.topUpDb r)
    (hok : KeepsOrders db (db.putTopUps r) → place.Ok site R (db.putTopUps r)) :
    AlipayStepOk site R db place (db.putTopUps r) := by
  have hrows := putTopUps_kept hkept
  have hkeeps : KeepsOrders db (db.putTopUps r) := by
    refine ⟨⟨hsound.ids, fun tradeNo o t' ho ht' => ?_⟩, fun tradeNo o ho => ⟨o, ho, rfl, rfl, rfl⟩, fun tradeNo t ht => ?_⟩
    · obtain ⟨t, ht, hkept⟩ := rel_right (hrows tradeNo) ht'
      obtain ⟨hmoney, hprofile⟩ := hsound.paired tradeNo o t ho ht
      exact ⟨hkept.money.trans hmoney, hkept.paymentProfile.trans hprofile⟩
    · obtain ⟨t', ht', hkept⟩ := rel_left (hrows tradeNo) ht
      exact ⟨t', ht', hkept.money, hkept.paymentProfile⟩
  -- the subscription orders are as they were
  exact ⟨hkeeps, hok hkeeps, fun tradeNo order order' =>
    paid_of_kept (fun _ => rel_refl .refl _) (fun tradeNo _ => hrows tradeNo)⟩

theorem order_stepOk {r : OrderDb} (hsound : db.Sound) (hkept : OrdersKept (HasProof site R db) db.toOrderDb r)
    (hok : KeepsOrders db { db with toOrderDb := r } → place.Ok site R { db with toOrderDb := r }) :
    AlipayStepOk site R db place { db with toOrderDb := r } := by
  have hkeeps : KeepsOrders db { db with toOrderDb := r } := by
    refine ⟨⟨?_, fun tradeNo o' t' ho' ht' => ?_⟩, fun tradeNo o ho => ?_, fun tradeNo t ht => ?_⟩
    · rw [hkept.ids]
      exact hsound.ids
    · obtain ⟨o, ho, hrow⟩ := rel_right (hkept.orders tradeNo) ho'
      rw [hrow.money, hrow.paymentProfile]
      rcases hkept.topUps tradeNo with hsame | ⟨o₂, t₂, ho₂, ht₂, hmoney, hprofile⟩
      · exact hsound.paired tradeNo o t' ho (hsame.symm.trans ht')
      · obtain rfl := Option.some.inj (ho.symm.trans ho₂)
        obtain rfl := Option.some.inj (ht'.symm.trans ht₂)
        exact ⟨hmoney, hprofile⟩
    · obtain ⟨o', ho', hrow⟩ := rel_left (hkept.orders tradeNo) ho
      exact ⟨o', ho', hrow.id, hrow.money, hrow.paymentProfile⟩
    · rcases hkept.topUps tradeNo with hsame | ⟨o, t', ho, ht', hmoney, hprofile⟩
      · exact ⟨t, hsame.trans ht, rfl, rfl⟩
      · obtain ⟨hmoney', hprofile'⟩ := hsound.paired tradeNo o t ho ht
        exact ⟨t', ht', hmoney.trans hmoney'.symm, hprofile.trans hprofile'.symm⟩
  refine ⟨hkeeps, hok hkeeps, fun tradeNo order order' => paid_of_kept hkept.orders fun tradeNo ho => ?_⟩
  -- only the top-ups of subscription orders are written
  have hsame : AlipayDb.topUp { db with toOrderDb := r } tradeNo = db.topUp tradeNo := by
    rcases hkept.topUps tradeNo with hsame | ⟨o, -, ho', -⟩
    · exact hsame
    · cases ho'.symm.trans ho
  rw [hsame]
  exact rel_refl .refl _

/-- **A step of a call.** -/
theorem alipayStep_ok (i : AlipayInput) (hanswer : ∀ m signature, i.answer.Carries site m signature → R m signature)
    (hsound : db.Sound) (hplace : place.Ok site R db) :
    AlipayStepOk site R db (alipayStep site place i db).1 (alipayStep site place i db).2 := by
  cases place with
  | notification params =>
    rw [alipayStep]
    split
    · exact .read hsound trivial
    next hne =>
      dsimp only
      refine .read hsound (settle_ok fun place hresult => ?_)
      obtain ⟨order, hload, hafter⟩ := bind_ok hresult
      obtain ⟨hname, hrow⟩ := load_row hload
      exact afterNotification_ok hname hplace (hname ▸ hne) (hname ▸ hrow) hafter
  | browserReturn params =>
    rw [alipayStep]
    split
    · exact .read hsound trivial
    · dsimp only
      refine .read hsound (settle_ok fun place hresult => ?_)
      obtain ⟨order, hload, hafter⟩ := bind_ok hresult
      obtain ⟨hname, hrow⟩ := load_row hload
      exact afterReturn_ok hname (hname ▸ hrow) hafter
  | query q =>
    obtain ⟨htrim, read, hread, hconfig⟩ := hplace
    rw [alipayStep]
    split
    · refine .read hsound (settle_ok fun place hresult => ?_)
      obtain ⟨order, hload, hafter⟩ := bind_ok hresult
      rw [htrim] at hload
      obtain ⟨hname, hrow⟩ := load_row hload
      -- The order is the one for which the parameters were checked.
      have hprofile : order.profileID = read.profileID := (hrow.unique hsound hread).2
      rw [alipayConfigForOrder, ← hprofile] at hconfig
      exact afterQueryRead_ok (hname ▸ hrow) hconfig hafter
    · exact .read hsound trivial
  | asking q order => exact .read hsound (settle_ok fun place hresult => afterAnswer_ok hplace.1 hplace.2 hanswer hresult)
  | topUp place next =>
    have hstands : place.Proved site (HasProof site R db) := hplace
    obtain ⟨hproved, hkept⟩ := (topUpStep_effect site.topUp _ _ place).kept hstands (topUpDb_key db)
    cases place with
    | done result => exact .read hsound (afterWrite_ok _ _ next)
    | _ => exact topUp_stepOk hsound hkept fun hkeeps => hproved.mono fun _ => HasProof.mono hkeeps
  | order place next =>
    have hstands : place.Proved (HasProof site R db) db.toOrderDb := hplace
    obtain ⟨hproved, hkept⟩ := (orderStep_effect site.topUp.codec place _ db.toOrderDb).kept hsound.ids hstands
    cases place with
    | done result => exact .read hsound (afterWrite_ok _ _ next)
    | _ => exact order_stepOk hsound hkept fun hkeeps => OrderPlace.Proved.mono hkeeps hproved
  | refunded tradeNo providerTradeNo tradeStatus evidence =>
    refine .read hsound (settle_ok fun place hresult => ?_)
    obtain ⟨completed, -, hafter⟩ := bind_ok hresult
    exact Except.ok.inj hafter ▸ recordAlipayRefundReview_ok _
  | review r =>
    rw [alipayStep]
    split <;> exact .read hsound trivial
  | closing c =>
    refine .read hsound (settle_ok fun place hresult => ?_)
    unfold Except.map at hresult
    split at hresult
    · cases hresult
    · exact Except.ok.inj hresult ▸ afterClosingRead_ok c _
  | notClosed err c =>
    refine .read hsound (settle_ok fun place hresult => ?_)
    unfold Except.map at hresult
    split at hresult
    · cases hresult
    · cases Except.ok.inj hresult
      unfold afterNotClosedRead
      split <;> trivial
  | done result => exact .read hsound trivial

end Steps

/-- A step of the call, with one of the answers of the gateway, or changes that others make between its steps. -/
inductive AlipayMove (site : AlipaySite) (answers : GatewayAnswer → Prop) :
    AlipayPlace × AlipayDb → AlipayPlace × AlipayDb → Prop where
  | own (place : AlipayPlace) (db : AlipayDb) (i : AlipayInput) (hi : answers i.answer) :
    AlipayMove site answers (place, db) (alipayStep site place i db)
  | others (place : AlipayPlace) {db db' : AlipayDb} (h : KeepsOrders db db') :
    AlipayMove site answers (place, db) (place, db')

inductive AlipayPlace.Begins : AlipayPlace → Prop where
  | notification (params : AlipayParams) : Begins (.notification params)
  | browserReturn (params : AlipayParams) : Begins (.browserReturn params)

theorem alipayRun_ok {site : AlipaySite} {answers : GatewayAnswer → Prop} {start current : AlipayPlace × AlipayDb}
    (hbegins : start.1.Begins) (hsound : start.2.Sound) (hrun : Relation.ReflTransGen (AlipayMove site answers) start current) :
    current.2.Sound ∧ current.1.Ok site (Received site start.1 answers) current.2 := by
  induction hrun with
  | refl =>
    obtain ⟨place, db⟩ := start
    cases hbegins with
    | notification params => exact ⟨hsound, .inl ⟨params, rfl, rfl, rfl⟩⟩
    | browserReturn params => exact ⟨hsound, trivial⟩
  | tail _ hmove ih =>
    cases hmove with
    | own place db i hi =>
      have hstep := alipayStep_ok i (fun _ _ h => .inr ⟨_, hi, h⟩) ih.1 ih.2
      exact ⟨hstep.keeps.sound, hstep.ok⟩
    | others place hkeeps => exact ⟨hkeeps.sound, ih.2.mono hkeeps⟩

/-- **A call completes an order only with a proof of its payment**: whatever its parameters, whatever the gateway answers and
whatever others do in between, a step of the call that makes a pending order paid has received a signature that is valid under
the platform key of the order's own profile, over the message it came with, which says so, with the order's trade number and
amount. -/
theorem alipay_completion_proved (site : AlipaySite) (answers : GatewayAnswer → Prop)
    {start current : AlipayPlace × AlipayDb} (hbegins : start.1.Begins) (hsound : start.2.Sound)
    (hrun : Relation.ReflTransGen (AlipayMove site answers) start current) (i : AlipayInput) (hi : answers i.answer)
    {tradeNo : String} {order order' : AlipayLocalOrder} (horder : current.2.localOrder site tradeNo = .ok order)
    (hpending : order.status = .pending)
    (horder' : (alipayStep site current.1 i current.2).2.localOrder site tradeNo = .ok order')
    (hpaid : order'.status = .success) :
    PaymentProved site (Received site start.1 answers) tradeNo order.money order.profileID := by
  obtain ⟨hsound, hok⟩ := alipayRun_ok hbegins hsound hrun
  obtain ⟨money, profileID, hrow, hproved⟩ :=
    (alipayStep_ok i (fun _ _ h => .inr ⟨_, hi, h⟩) hsound hok).paid tradeNo order order' horder hpending horder' hpaid
  have hown : HasRow current.2 tradeNo order.money order.profileID := by
    rcases localOrder_row horder with ⟨o, ho, rfl⟩ | ⟨-, t, ht, rfl⟩
    · exact .inl ⟨o, ho, rfl, rfl⟩
    · exact .inr ⟨t, ht, rfl, rfl⟩
  obtain ⟨hmoney, hprofile⟩ := hown.unique hsound hrow
  rw [hmoney, hprofile]
  exact hproved

namespace Sample

def alipayConfig : AlipayDirectConfig := ⟨true, "app", "2088", "private", "public", false, "", "", 1⟩

/-- A deployment with the legacy profile, in which the provider signs with "signed". -/
def alipaySite : AlipaySite where
  topUp := topUpSite
  setting := ⟨alipayConfig, [], fun h => absurd rfl h⟩
  fingerprint _ := none
  configured _ := true
  verifySignature _ signature _ := if signature = "signed" then none else some "RSA2 签名无效"
  envelope _ := none
  jsonString _ := none
  tradeQueryResponse _ := none
  payload _ _ := ""
  amountMismatch _ _ := ""
  decimal_empty := rfl

/-- The notification of the payment of the sample order. -/
def alipayParams : AlipayParams :=
  [("out_trade_no", "A"), ("trade_no", "2026"), ("trade_status", "TRADE_SUCCESS"), ("total_amount", "10.00"),
    ("app_id", "app"), ("seller_id", "2088"), ("sign", "signed")].foldl (fun params p => params.insert p.1 p.2) ∅

def alipayDb : AlipayDb where
  store := (topUpDb (topUpRow "alipay_direct")).store
  orders := []
  topUps := [(topUpRow "alipay_direct").toTopUp]
  locked _ := false
  topUpInfo _ := (3, 0)
  topUpLocked _ := false

def alipayInput : AlipayInput := ⟨.quiet [] 1500, none, none, .failed ""⟩

/-- The call after some steps. -/
def alipayRun : Nat → AlipayPlace × AlipayDb
  | 0 => (.notification alipayParams, alipayDb)
  | n + 1 => alipayStep alipaySite (alipayRun n).1 alipayInput (alipayRun n).2

theorem alipayRun_moves (n : Nat) :
    Relation.ReflTransGen (AlipayMove alipaySite (· = .failed "")) (alipayRun 0) (alipayRun n) := by
  induction n with
  | zero => exact .refl
  | succ n ih => exact ih.tail (.own _ _ _ rfl)

def alipayOrder : AlipayLocalOrder := ⟨"A", "", 1, .topUp, .pending, 10, ""⟩

/-- The sixth step of the call commits the completion. -/
theorem alipay_completion_sample :
    PaymentProved alipaySite (Received alipaySite (.notification alipayParams) (· = .failed "")) "A" alipayOrder.money
      alipayOrder.profileID := by
  have hbegins : (alipayRun 0).1.Begins := .notification alipayParams
  have hsound : (alipayRun 0).2.Sound := by
    refine ⟨List.nodup_nil, ?_⟩
    rintro _ _ _ ⟨⟩
  have hbefore : (alipayRun 5).2.localOrder alipaySite "A" = .ok alipayOrder := by decide +kernel
  have hafter : (alipayStep alipaySite (alipayRun 5).1 alipayInput (alipayRun 5).2).2.localOrder alipaySite "A" =
      .ok { alipayOrder with providerTradeNo := "2026", status := .success } := by
    decide +kernel
  exact alipay_completion_proved alipaySite _ hbegins hsound (alipayRun_moves 5) alipayInput rfl hbefore rfl hafter rfl

end Sample

end SynthApi
