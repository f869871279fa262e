import SynthApi.Model.Subscription.Consume
import SynthApi.Model.Subscription.Order

/-!
# A paid order is fulfilled once

Any number of completions and expiries of one order, interleaved at their statements. At most one of them is past the
conditional UPDATE (`Sys.Exclusive`), and while one is, nobody else writes. So the log of that transaction is applied to
the tables as they were when its order was pending: its COMMIT adds one subscription and one top-up, together with the
status `success` (`TxOk`).

The main result is `order_fulfilled_once`: in every state of every interleaving, the tables hold one new subscription
and one new top-up if the order has the status `success` and none otherwise, and a status other than `pending` never
changes.
-/

namespace SynthApi

open Lib Lib.Go Lib.Table

/-! ## Writes -/

section Writes

theorem applyLog_concat (db : OrderDb) (log : List Write) (w : Write) :
    db.applyLog (log ++ [w]) = (db.applyLog log).write w := List.foldl_append

theorem order_claim (db : OrderDb) (id completeTime : Int) (c : CompleteCall) (tradeNo : String) :
    (db.write (.claimOrder id completeTime c)).order tradeNo =
      (db.order tradeNo).map fun order => if order.id = id then c.claim completeTime order else order := by
  have h : lookup (·.tradeNo) tradeNo
      (updateWhere (fun order => decide (order.id = id)) (c.claim completeTime) db.orders) = _ :=
    lookup_updateWhere fun _ _ => rfl
  simpa [OrderDb.order, OrderDb.write] using h

theorem map_id_updateWhere {p : SubscriptionOrder → Bool} {f : SubscriptionOrder → SubscriptionOrder}
    (hf : ∀ order, (f order).id = order.id) (orders : List SubscriptionOrder) :
    (updateWhere p f orders).map (·.id) = orders.map (·.id) := by
  rw [updateWhere, List.map_map]
  apply List.map_congr_left
  intro order _
  simp only [Function.comp]
  split
  · exact hf order
  · rfl

theorem write_ids (db : OrderDb) (w : Write) :
    (db.write w).orders.map (·.id) = db.orders.map (·.id) := by
  cases w with
  | claimOrder id completeTime c => exact map_id_updateWhere (f := c.claim completeTime) (fun _ => rfl) db.orders
  | _ => rfl

theorem applyLog_ids (db : OrderDb) (log : List Write) :
    (db.applyLog log).orders.map (·.id) = db.orders.map (·.id) := by
  induction log generalizing db with
  | nil => rfl
  | cons w log ih => exact (ih (db.write w)).trans (write_ids db w)

end Writes

/-! ## The invariant -/

/-- The active subscription to the order's plan. -/
structure Sells (o : SubscriptionOrder) (sub : UserSubscription) : Prop where
  userId : sub.userId = o.userId
  source : sub.source = "order"
  planId : sub.planId = o.planId
  status : sub.status = .active

/-- The successful top-up with the order's money. -/
structure Books (o : SubscriptionOrder) (topUp : TopUp) : Prop where
  tradeNo : topUp.tradeNo = o.tradeNo
  userId : topUp.userId = o.userId
  money : topUp.money = o.money
  status : topUp.status = .success

/-- What the tables have gained for the order, by its status. -/
def Outcome (base : OrderDb) (o : SubscriptionOrder) (db : OrderDb) : OrderStatus → Prop
  | .success => ∃ sub topUp, Sells o sub ∧ Books o topUp ∧
      db.store.userSubscriptions = base.store.userSubscriptions ++ [sub] ∧ db.topUps = base.topUps ++ [topUp]
  | _ => db.store.userSubscriptions = base.store.userSubscriptions ∧ db.topUps = base.topUps

/-- The columns that no statement changes. -/
structure IsOrder (o order : SubscriptionOrder) : Prop where
  id : order.id = o.id
  userId : order.userId = o.userId
  planId : order.planId = o.planId
  tradeNo : order.tradeNo = o.tradeNo
  money : order.money = o.money

structure IsRow (o : SubscriptionOrder) (db : OrderDb) (row : SubscriptionOrder) : Prop extends IsOrder o row where
  found : db.order o.tradeNo = some row

theorem IsRow.of_orders {o row : SubscriptionOrder} {db db' : OrderDb} (h : IsRow o db row)
    (horders : db'.orders = db.orders) : IsRow o db' row :=
  ⟨h.toIsOrder, by rw [OrderDb.order, horders]; exact h.found⟩

/-- The tables, in every state. -/
structure OrderInv (base : OrderDb) (o : SubscriptionOrder) (db : OrderDb) : Prop where
  keys : (db.orders.map SubscriptionOrder.id).Nodup
  row : ∃ row, IsRow o db row ∧ Outcome base o db row.status

def TxStmt.hasSubscription : TxStmt → Bool
  | .readTopUp | .writeTopUp _ _ | .commit => true
  | _ => false

def TxStmt.hasTopUp : TxStmt → Bool
  | .commit => true
  | _ => false

def Purchase.IsOf (o : SubscriptionOrder) (p : Purchase) : Prop :=
  p.userId = o.userId ∧ p.source = "order" ∧ p.plan.id = o.planId

/-- What the next statement of the transaction needs. -/
def TxStmt.Ready (o : SubscriptionOrder) : TxStmt → Prop
  | .count p => p.id = o.planId
  | .readGroup p | .updateGroup p _ | .insertSubscription p _ => p.IsOf o
  | .writeTopUp _ topUp => topUp = none
  | _ => True

/-- The transaction as it sees the tables `view`, that is, `db` with its log. -/
structure TxOk (o : SubscriptionOrder) (db view : OrderDb) (next : TxStmt) : Prop where
  ready : next.Ready o
  claimed : ∃ row, IsRow o view row ∧ row.status = .success
  subscriptions : if next.hasSubscription then
      ∃ sub, Sells o sub ∧ view.store.userSubscriptions = db.store.userSubscriptions ++ [sub]
    else view.store.userSubscriptions = db.store.userSubscriptions
  topUps : if next.hasTopUp then ∃ topUp, Books o topUp ∧ view.topUps = db.topUps ++ [topUp]
    else view.topUps = db.topUps

/-- What holds where a call stands. -/
def PlaceOk (o : SubscriptionOrder) : OrderPlace → OrderDb → Prop
  | .complete c, _ => c.tradeNo = o.tradeNo
  | .checked c order, _ => c.tradeNo = o.tradeNo ∧ IsOrder o order
  | .inTx t, db => IsOrder o t.order ∧ (∃ row, IsRow o db row ∧ row.status = .pending) ∧ TxOk o db (db.applyLog t.log) t.next
  | .conflict c, _ => c.tradeNo = o.tradeNo
  | .expire c, _ => c.tradeNo = o.tradeNo
  | .notExpired c, _ => c.tradeNo = o.tradeNo
  | .done _, _ => True

/-- The call holds the lock. -/
def OrderPlace.inside : OrderPlace → Prop
  | .inTx _ => True
  | _ => False

/-! ## What a statement does -/

/-- **The effect of a statement of a call**: outside of the transaction only a conditional UPDATE changes the tables. -/
inductive OrderEffect (codec : Codec) (db : OrderDb) : OrderPlace → OrderPlace → OrderDb → Prop
  | waits {place : OrderPlace} (hout : ¬ place.inside) : OrderEffect codec db place place db
  | ends {place : OrderPlace} (hout : ¬ place.inside) (result : Except OrderError Unit) :
    OrderEffect codec db place (.done result) db
  | reads {c : CompleteCall} {order : SubscriptionOrder} (hfound : db.order c.tradeNo = some order) :
    OrderEffect codec db (.complete c) (.checked c order) db
  | conflicts (c : CompleteCall) (order : SubscriptionOrder) : OrderEffect codec db (.checked c order) (.conflict c) db
  | claims {c : CompleteCall} {order : SubscriptionOrder} (now : Int) (hfree : ¬ db.locked order.id)
    (hcount : db.orders.countP (c.claims order.id) = 1) : OrderEffect codec db (.checked c order)
      (.inTx ⟨c.claim now order, .plan, [.claimOrder order.id now c]⟩) (db.lock order.id)
  | rollsBack (t : OrderTx) (err : OrderError) :
    OrderEffect codec db (.inTx t) (.done (.error err)) (db.unlock t.order.id)
  | commits {t : OrderTx} (hnext : t.next = .commit) :
    OrderEffect codec db (.inTx t) (.done (.ok ())) ((db.applyLog t.log).unlock t.order.id)
  | goesOn {t t' : OrderTx} (e : Env) (hnext : t.next ≠ .commit) (hstep : t.step codec e db = .ok t') :
    OrderEffect codec db (.inTx t) (.inTx t') db
  | expires {c : ExpireCall} {place' : OrderPlace} (now : Int)
    (hfree : ¬ db.orders.any fun order => order.tradeNo = c.tradeNo && db.locked order.id)
    (hplace' : place' = .done (.ok ()) ∨ place' = .notExpired c) : OrderEffect codec db (.expire c) place'
      { db with orders := updateWhere c.expires (setExpired now) db.orders }

theorem orderStep_effect (codec : Codec) (place : OrderPlace) (i : OrderInput) (db : OrderDb) :
    OrderEffect codec db place (orderStep codec place i db).1 (orderStep codec place i db).2 := by
  cases place with
  | complete c =>
    rw [orderStep]
    split
    · exact .ends id _
    · split
      · exact .ends id _
      · cases hread : if i.fault.isSome then none else db.order c.tradeNo with
        | none => exact .ends id _
        | some order =>
          unfold afterOrderRead
          dsimp only
          split
          · exact .ends id _
          · split
            · exact .ends id _
            · exact .reads (Option.ite_none_left_eq_some.1 hread).2
            · exact .ends id _
  | checked c order =>
    rw [orderStep]
    split
    · exact .ends id _
    · split_ifs with hlock hcount
      · exact .waits id
      · exact .claims i.env.now hlock hcount
      · exact .conflicts c order
  | inTx t =>
    rw [orderStep]
    split
    · exact .rollsBack t _
    · split
      next hnext => exact .commits hnext
      next hnext =>
        split
        · exact .rollsBack t _
        next hstep => exact .goesOn i.env hnext hstep
  | conflict c =>
    rw [orderStep]
    split
    · exact .ends id _
    · unfold afterConflictRead
      split
      · exact .ends id _
      · split
        · exact .ends id _
        · split <;> exact .ends id _
  | expire c =>
    rw [orderStep]
    split
    · exact .ends id _
    · split
      · exact .ends id _
      · split
        · exact .waits id
        next hfree =>
          refine .expires i.env.now hfree ?_
          split
          · exact .inl rfl
          · exact .inr rfl
  | notExpired c =>
    rw [orderStep]
    unfold afterExpireRead
    split
    · exact .ends id _
    · split_ifs <;> exact .ends id _
  | done result => exact .waits id

/-! ## The transaction -/

section Transaction

variable {o : SubscriptionOrder} {codec : Codec} {e : Env} {db : OrderDb} {t t' : OrderTx}

/-- **A statement of the transaction** takes its view of the tables on towards the fulfilled order. -/
theorem txStep_ok (hstep : t.step codec e db = .ok t') (hcommit : t.next.hasTopUp = false)
    (hsame : IsOrder o t.order) (hnone : lookup (·.tradeNo) o.tradeNo db.topUps = none)
    (h : TxOk o db (db.applyLog t.log) t.next) :
    t'.order = t.order ∧ TxOk o db (db.applyLog t'.log) t'.next := by
  obtain ⟨order, next, log⟩ := t
  obtain ⟨hready, hclaimed, hsubs, htopUps⟩ := h
  -- only the conditional UPDATE writes orders
  have hkeeps : ∀ view, view.orders = (db.applyLog log).orders → ∃ row, IsRow o view row ∧ row.status = .success := by
    intro view hview
    obtain ⟨row, hrow, hstatus⟩ := hclaimed
    exact ⟨row, hrow.of_orders hview, hstatus⟩
  unfold OrderTx.step OrderTx.goto at hstep
  cases next with
  | plan =>
    dsimp only at hstep
    split at hstep
    · cases hstep
    next hplan =>
      cases hstep
      rw [List.append_nil]
      exact ⟨rfl, (getSubscriptionPlanById_id hplan).trans hsame.planId, hclaimed, hsubs, htopUps⟩
  | count plan =>
    dsimp only at hstep
    split at hstep
    · cases hstep
    · rename_i p hp
      cases hstep
      obtain ⟨huser, hsource, hplan⟩ := preparePurchase_ok hp
      rw [List.append_nil]
      exact ⟨rfl, ⟨huser.trans hsame.userId, hsource, hplan ▸ hready⟩, hclaimed, hsubs, htopUps⟩
  | readGroup p =>
    cases hstep
    rw [List.append_nil]
    exact ⟨rfl, hready, hclaimed, hsubs, htopUps⟩
  | updateGroup p currentGroup =>
    dsimp only at hstep
    split at hstep
    · cases hstep
      rw [applyLog_concat]
      exact ⟨rfl, hready, hkeeps _ rfl, hsubs, htopUps⟩
    · cases hstep
      rw [List.append_nil]
      exact ⟨rfl, hready, hclaimed, hsubs, htopUps⟩
  | insertSubscription p prevGroup =>
    cases hstep
    rw [applyLog_concat]
    refine ⟨rfl, trivial, hkeeps _ rfl, ?_, htopUps⟩
    refine ⟨p.row e db.store.freshSubscriptionId prevGroup, ⟨hready.1, hready.2.1, hready.2.2, rfl⟩, ?_⟩
    rw [← hsubs]
    rfl
  | readTopUp =>
    dsimp only at hstep
    split at hstep
    · cases hstep
    · cases hstep
      rw [List.append_nil]
      exact ⟨rfl, by rw [hsame.tradeNo]; exact hnone, hclaimed, hsubs, htopUps⟩
  | writeTopUp providerTradeNo topUp =>
    subst hready
    cases hstep
    rw [applyLog_concat]
    refine ⟨rfl, trivial, hkeeps _ rfl, hsubs, newTopUp e.now providerTradeNo order,
      ⟨hsame.tradeNo, hsame.userId, hsame.money, rfl⟩, ?_⟩
    rw [← htopUps]
    rfl
  | commit => cases hcommit

end Transaction

/-! ## One statement -/

/-- What a statement of a call does, from `place` and `db` to `place'` and `db'`. -/
structure StepOk (base : OrderDb) (o : SubscriptionOrder) (place : OrderPlace) (db : OrderDb) (place' : OrderPlace)
    (db' : OrderDb) : Prop where
  stands : PlaceOk o place' db'
  inv : OrderInv base o db'
  enters : ¬ place.inside → place'.inside → db.locked o.id = false
  takes : place'.inside → db'.locked o.id = true
  waits : ¬ place.inside → db.locked o.id = true → db' = db
  final : ∀ row, db.order o.tradeNo = some row → row.status ≠ .pending → db'.order o.tradeNo = some row

section Step

variable {base db : OrderDb} {o row : SubscriptionOrder} {codec : Codec} {place place' : OrderPlace}

theorem commit_inv {log : List Write} (hkeys : (db.orders.map (·.id)).Nodup)
    (hsubs : db.store.userSubscriptions = base.store.userSubscriptions) (htopUps : db.topUps = base.topUps)
    (h : TxOk o db (db.applyLog log) .commit) : OrderInv base o (db.applyLog log) := by
  obtain ⟨-, ⟨row, hrow, hsuccess⟩, ⟨sub, hsub, hsubs'⟩, ⟨topUp, htopUp, htopUps'⟩⟩ := h
  rw [hsubs] at hsubs'
  rw [htopUps] at htopUps'
  refine ⟨(applyLog_ids db log).symm ▸ hkeys, row, hrow, ?_⟩
  rw [hsuccess]
  exact ⟨sub, topUp, hsub, htopUp, hsubs', htopUps'⟩

theorem order_afterExpire (hrow : IsRow o db row) (c : ExpireCall) (now : Int) :
    IsRow o { db with orders := updateWhere c.expires (setExpired now) db.orders }
      (if c.expires row then setExpired now row else row) := by
  refine ⟨?_, ?_⟩
  · obtain ⟨hid, huser, hplan, htrade, hmoney⟩ := hrow.toIsOrder
    split <;> exact ⟨hid, huser, hplan, htrade, hmoney⟩
  · show lookup _ _ (updateWhere c.expires (setExpired now) db.orders) = _
    rw [lookup_updateWhere (f := setExpired now) fun _ _ => rfl]
    show (db.order o.tradeNo).map _ = _
    rw [hrow.found, Option.map_some]

variable (hinv : OrderInv base o db)

include hinv

theorem StepOk.read (hplace : PlaceOk o place' db) (hin : ¬ place'.inside) : StepOk base o place db place' db :=
  ⟨hplace, hinv, fun _ h => absurd h hin, fun h => absurd h hin, fun _ _ => rfl, fun _ h _ => h⟩

theorem OrderInv.isRow (h : db.order o.tradeNo = some row) :
    IsRow o db row ∧ Outcome base o db row.status := by
  obtain ⟨row', hrow, hout⟩ := hinv.row
  have heq : row = row' := Option.some.inj (h.symm.trans hrow.found)
  subst heq
  exact ⟨hrow, hout⟩

variable {c : CompleteCall} {now : Int} {db' : OrderDb}

/-- The conditional UPDATE of a completion matches only a pending row of the order. -/
theorem pending_of_claims
    (hcount : db.orders.countP (c.claims o.id) = 1) : ∃ row, IsRow o db row ∧ row.status = .pending := by
  obtain ⟨row, hrow, -⟩ := hinv.row
  have hpos : 0 < db.orders.countP (c.claims o.id) := by omega
  obtain ⟨row', hmem, hclaims⟩ := List.countP_pos_iff.1 hpos
  simp only [CompleteCall.claims, Bool.and_eq_true, decide_eq_true_eq] at hclaims
  have hsame : row' = row := by
    have h := lookup_of_nodup hinv.keys (mem_of_lookup hrow.found)
    have h' := lookup_of_nodup hinv.keys hmem
    rw [hrow.id] at h
    rw [hclaims.1.1, h] at h'
    exact (Option.some.inj h').symm
  exact ⟨row, hrow, hsame ▸ hclaims.1.2⟩

theorem claims_ok {order : SubscriptionOrder} (hplace : PlaceOk o (.checked c order) db)
    (hfree : ¬ db.locked order.id) (hcount : db.orders.countP (c.claims order.id) = 1) :
    StepOk base o (.checked c order) db (.inTx ⟨c.claim now order, .plan, [.claimOrder order.id now c]⟩)
      (db.lock order.id) := by
  obtain ⟨-, hsame⟩ := hplace
  have hid := hsame.id
  rw [hid] at hcount hfree ⊢
  obtain ⟨row, hrow, hpending⟩ := pending_of_claims hinv hcount
  obtain ⟨-, hout⟩ := hinv.isRow hrow.found
  have hinv' : OrderInv base o (db.lock o.id) := ⟨hinv.keys, row, hrow.of_orders rfl, hout⟩
  have hview : ((db.lock o.id).write (.claimOrder o.id now c)).order o.tradeNo = some (c.claim now row) := by
    rw [order_claim]
    show (db.order o.tradeNo).map _ = _
    rw [hrow.found, Option.map_some, if_pos hrow.id]
  have hclaim : ∀ {order}, IsOrder o order → IsOrder o (c.claim now order) := fun ⟨h₁, h₂, h₃, h₄, h₅⟩ =>
    ⟨h₁, h₂, h₃, h₄, h₅⟩
  refine ⟨⟨hclaim hsame, ⟨row, hrow.of_orders rfl, hpending⟩, ?_⟩, hinv', fun _ _ => by simpa using hfree,
    fun _ => by simp [OrderDb.lock], fun _ h => absurd h hfree, fun _ h _ => h⟩
  exact ⟨trivial, ⟨_, ⟨hclaim hrow.toIsOrder, hview⟩, rfl⟩, rfl, rfl⟩

theorem inTx_ok (hfresh : ∀ topUp ∈ base.topUps, topUp.tradeNo ≠ o.tradeNo) {t : OrderTx}
    (he : OrderEffect codec db (.inTx t) place' db') (hlock : db.locked o.id) (hplace : PlaceOk o (.inTx t) db) :
    StepOk base o (.inTx t) db place' db' := by
  obtain ⟨hsame, ⟨row, hrow, hpending⟩, htx⟩ := hplace
  have hin : (OrderPlace.inTx t).inside := trivial
  -- the order is pending: the tables are as they were
  have hout := (hinv.isRow hrow.found).2
  obtain ⟨hsubs, htopUps⟩ : db.store.userSubscriptions = base.store.userSubscriptions ∧ db.topUps = base.topUps := by
    rw [hpending] at hout
    exact hout
  cases he with
  | waits hout | ends hout => exact absurd hin hout
  | rollsBack =>
    exact ⟨trivial, ⟨hinv.keys, row, hrow.of_orders rfl, hout⟩, fun h => absurd hin h, fun h => h.elim,
      fun h => absurd hin h, fun _ h _ => h⟩
  | commits hnext =>
    rw [hnext] at htx
    obtain ⟨hkeys, row', hrow', hout⟩ := commit_inv hinv.keys hsubs htopUps htx
    refine ⟨trivial, ⟨hkeys, row', hrow'.of_orders rfl, hout⟩, fun h => absurd hin h, fun h => h.elim,
      fun h => absurd hin h, ?_⟩
    intro other hother hne
    rw [hrow.found] at hother
    cases hother
    exact absurd hpending hne
  | goesOn e hnext hstep =>
    have hcommit : t.next.hasTopUp = false := by
      cases hn : t.next <;> first | rfl | exact absurd hn hnext
    have hnone : lookup (·.tradeNo) o.tradeNo db.topUps = none := by
      rw [htopUps]
      exact lookup_eq_none.2 hfresh
    obtain ⟨horder, htx'⟩ := txStep_ok hstep hcommit hsame hnone htx
    exact ⟨⟨horder ▸ hsame, ⟨row, hrow, hpending⟩, htx'⟩, hinv, fun h => absurd hin h, fun _ => hlock,
      fun _ _ => rfl, fun _ h _ => h⟩

/-- The UPDATE of an expiry touches the order only while it is pending, and then adds nothing. -/
theorem OrderInv.expire (c : ExpireCall) (now : Int) :
    OrderInv base o { db with orders := updateWhere c.expires (setExpired now) db.orders } := by
  obtain ⟨row, hrow, hout⟩ := hinv.row
  have hids := map_id_updateWhere (p := c.expires) (f := setExpired now) (fun _ => rfl) db.orders
  refine ⟨hids.symm ▸ hinv.keys, _, order_afterExpire hrow c now, ?_⟩
  cases hexp : c.expires row with
  | true =>
    have hpending : row.status = .pending := by
      simp only [ExpireCall.expires, Bool.and_eq_true, decide_eq_true_eq] at hexp
      exact hexp.1.2
    rw [hpending] at hout
    exact hout
  | false => exact hout

theorem expires_ok {c : ExpireCall} (hc : c.tradeNo = o.tradeNo)
    (hfree : ¬ db.orders.any fun order => order.tradeNo = c.tradeNo && db.locked order.id)
    (hplace' : place' = .done (.ok ()) ∨ place' = .notExpired c) : StepOk base o (.expire c) db place'
      { db with orders := updateWhere c.expires (setExpired now) db.orders } := by
  obtain ⟨row, hrow, hout⟩ := hinv.row
  replace hfree : ¬ db.locked o.id := by
    intro hlock
    refine hfree (List.any_eq_true.2 ⟨row, mem_of_lookup hrow.found, ?_⟩)
    simp [hrow.tradeNo, hc, hrow.id, hlock]
  have hplace : PlaceOk o place' { db with orders := updateWhere c.expires (setExpired now) db.orders } ∧
      ¬ place'.inside := by
    rcases hplace' with rfl | rfl
    · exact ⟨trivial, id⟩
    · exact ⟨hc, id⟩
  refine ⟨hplace.1, hinv.expire c now, fun _ h => absurd h hplace.2, fun h => absurd h hplace.2,
    fun _ h => absurd h hfree, ?_⟩
  intro other hother hne
  have hexp : c.expires other = false := by simp [ExpireCall.expires, hne]
  have hfound := (order_afterExpire (hinv.isRow hother).1 c now).found
  rw [hexp] at hfound
  exact hfound

/-- **One statement of a call.** -/
theorem OrderEffect.ok (he : OrderEffect codec db place place' db')
    (hfresh : ∀ topUp ∈ base.topUps, topUp.tradeNo ≠ o.tradeNo) (hlock : place.inside → db.locked o.id)
    (hplace : PlaceOk o place db) : StepOk base o place db place' db' := by
  have heffect := he
  cases he with
  | waits hout => exact .read hinv hplace hout
  | ends => exact .read hinv trivial id
  | @reads c order hfound =>
    have hc : c.tradeNo = o.tradeNo := hplace
    rw [hc] at hfound
    exact .read hinv ⟨hc, (hinv.isRow hfound).1.toIsOrder⟩ id
  | conflicts => exact .read hinv hplace.1 id
  | claims now hfree hcount => exact claims_ok hinv hplace hfree hcount
  | rollsBack | commits | goesOn => exact inTx_ok hinv hfresh heffect (hlock trivial) hplace
  | expires now hfree hplace' => exact expires_ok hinv hplace hfree hplace'

end Step

/-! ## All interleavings -/

abbrev OrderCalls (ι : Type*) := Sys ι OrderDb OrderPlace

section Runs

variable {ι : Type*} [DecidableEq ι] {codec : Codec} {base : OrderDb} {o : SubscriptionOrder} {c : OrderCalls ι}
  {a : ι × OrderInput}

/-- At most one call holds the lock, every call is where it should be, and so are the tables. -/
structure CallsOk (base : OrderDb) (o : SubscriptionOrder) (c : OrderCalls ι) : Prop where
  lock : c.Exclusive OrderPlace.inside fun db => db.locked o.id = true
  places : c.Asserts fun _ => PlaceOk o
  inv : OrderInv base o c.shared

/-- Outside the transaction a place says nothing about the tables. -/
theorem PlaceOk.outside {place : OrderPlace} {db db' : OrderDb} (h : PlaceOk o place db) (hout : ¬ place.inside) :
    PlaceOk o place db' := by
  cases place with
  | inTx t => exact absurd trivial hout
  | _ => exact h

omit [DecidableEq ι] in
theorem CallsOk.stepOk (hfresh : ∀ topUp ∈ base.topUps, topUp.tradeNo ≠ o.tradeNo) (h : CallsOk base o c)
    (a : ι × OrderInput) : StepOk base o (c.procs a.1) c.shared (orderStep codec (c.procs a.1) a.2 c.shared).1
      (orderStep codec (c.procs a.1) a.2 c.shared).2 :=
  (orderStep_effect codec _ a.2 _).ok h.inv hfresh (fun hin => h.lock.taken hin) (h.places a.1)

/-- **One statement of one call, among all others.** -/
theorem callsOk_step (hfresh : ∀ topUp ∈ base.topUps, topUp.tradeNo ≠ o.tradeNo) (h : CallsOk base o c) :
    CallsOk base o (c.step (orderStep codec) a) := by
  have hstep : StepOk base o (c.procs a.1) c.shared (orderStep codec (c.procs a.1) a.2 c.shared).1
      (orderStep codec (c.procs a.1) a.2 c.shared).2 := h.stepOk hfresh a
  obtain ⟨hlock, hplaces⟩ := Sys.step_locked h.lock h.places (fun hout hplace => hplace.outside hout) hstep.stands
    (fun hout hin => by simp [hstep.enters hout hin]) hstep.takes hstep.waits
  exact ⟨hlock, hplaces, hstep.inv⟩

/-- **A paid order is fulfilled exactly once.** Any number of completions and expiries of a pending order that has no
top-up yet: in every state of every interleaving there is one new subscription and one new top-up if the order's status
is `success`, and none otherwise; and no statement changes the row of an order that is not pending. -/
theorem order_fulfilled_once {ι : Type*} [DecidableEq ι] (codec : Codec) (o : SubscriptionOrder) (c : OrderCalls ι)
    (actions : List (ι × OrderInput)) (hkeys : (c.shared.orders.map SubscriptionOrder.id).Nodup)
    (hfound : c.shared.order o.tradeNo = some o) (hpending : o.status = .pending)
    (hfresh : ∀ topUp ∈ c.shared.topUps, topUp.tradeNo ≠ o.tradeNo)
    (hcalls : ∀ i, (∃ call, c.procs i = .complete call ∧ call.tradeNo = o.tradeNo) ∨
      ∃ call, c.procs i = .expire call ∧ call.tradeNo = o.tradeNo) :
    Always (Sys.step (orderStep codec))
      (fun c' => ∃ row, c'.shared.order o.tradeNo = some row ∧ Outcome c.shared o c'.shared row.status) c actions ∧
    Along (Sys.step (orderStep codec))
      (fun c' a => ∀ row, c'.shared.order o.tradeNo = some row → row.status ≠ .pending →
        (c'.step (orderStep codec) a).shared.order o.tradeNo = some row) c actions := by
  have hout : ∀ i, ¬ (c.procs i).inside := by
    intro i hin
    rcases hcalls i with ⟨call, hi, -⟩ | ⟨call, hi, -⟩ <;> rw [hi] at hin <;> exact hin
  have hstart : CallsOk c.shared o c := by
    refine ⟨⟨fun hi => absurd hi (hout _), fun hi => absurd hi (hout _)⟩, ?_, hkeys, o, ⟨⟨rfl, rfl, rfl, rfl, rfl⟩, hfound⟩, ?_⟩
    · intro i
      rcases hcalls i with ⟨call, hi, ht⟩ | ⟨call, hi, ht⟩ <;> rw [hi] <;> exact ht
    · rw [hpending]
      exact ⟨rfl, rfl⟩
  have hall : Along (Sys.step (orderStep codec)) (fun _ _ => True) c actions := along_of_forall fun _ _ => trivial
  constructor
  · refine always_of_inv (fun c' a _ h => callsOk_step hfresh h) ?_ hall hstart
    intro c' h
    obtain ⟨row, hrow, houtcome⟩ := h.inv.row
    exact ⟨row, hrow.found, houtcome⟩
  · exact along_of_inv (fun c' a _ h => callsOk_step hfresh h)
      (fun c' a _ h => (h.stepOk hfresh a).final) hall hstart

end Runs

namespace Sample

/-- A pending order of the sample user for the sample plan. -/
def order : SubscriptionOrder := ⟨7, 1, 1, 10, "T", "stripe", "stripe", "", .pending, 1400, 0, ""⟩

def orderCalls : OrderCalls (Fin 3) where
  shared := ⟨store, [order], [], fun _ => false⟩
  procs i := if i = 2 then .expire ⟨"T", "stripe"⟩ else .complete ⟨"T", "", "stripe", "", ""⟩

/-- The first callback sets the status; then the second and the expiry come in until they wait; the first goes on to its
COMMIT, and the others find the order completed. -/
def orderActions : List (Fin 3 × OrderInput) :=
  [0, 1, 0, 1, 2, 0, 0, 0, 0, 0, 0, 0, 1, 2, 0, 1, 1, 2, 2].map fun i => (i, ⟨env 1500, none⟩)

end Sample

open Sample

/-- The sample order ends with one subscription and one top-up. -/
theorem order_fulfilled_once_sample :
    ((run (Sys.step (orderStep ⟨fun _ => none, fun _ => none⟩)) orderCalls orderActions).shared.order
      "T").map (·.status) = some .success ∧
    Always (Sys.step (orderStep ⟨fun _ => none, fun _ => none⟩))
      (fun c' => ∃ row, c'.shared.order "T" = some row ∧
        Outcome orderCalls.shared order c'.shared row.status) orderCalls orderActions := by
  refine ⟨by decide +kernel, ?_⟩
  refine (order_fulfilled_once _ order orderCalls orderActions (by decide) rfl rfl
    nofun fun i => ?_).1
  by_cases hi : i = 2
  · exact .inr ⟨_, if_pos hi, rfl⟩
  · exact .inl ⟨_, if_neg hi, rfl⟩

end SynthApi
