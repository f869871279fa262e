import SynthApi.Model.TopUp.Statements

/-!
# An order of Alipay is credited once

Any number of `CompleteAlipayDirectTopUp` and `UpdatePendingTopUpStatus` calls on one order, interleaved at their
statements. A completion that is past its guarded UPDATE has the lock of the order and knows that the committed order is
pending (`Claimed`); at most one call is there, and all other writes wait. So the wallet has the order's quota exactly
if the order that was pending is committed as `success` (`Credited`), in every state of every interleaving
(`alipay_topUp_credited_once`).
-/

namespace SynthApi

open Lib

/-! ## Rows -/

/-- `row` is the order `o` with another status, time of completion or trade number of the provider. -/
structure SameOrder (o row : TopUpRow) : Prop where
  tradeNo : row.tradeNo = o.tradeNo
  id : row.id = o.id
  userId : row.userId = o.userId
  amount : row.amount = o.amount
  money : row.money = o.money
  paymentProvider : row.paymentProvider = o.paymentProvider

theorem SameOrder.refl (o : TopUpRow) : SameOrder o o := ⟨rfl, rfl, rfl, rfl, rfl, rfl⟩

theorem SameOrder.quota {o row : TopUpRow} (h : SameOrder o row) (s : TopUpSite) :
    quotaFromStoredTopUp s row = quotaFromStoredTopUp s o := by
  simp [quotaFromStoredTopUp, h.paymentProvider, h.amount, h.money]

/-! ## The invariant -/

section Invariant

-- the order and the user's wallet before the calls
variable (s : TopUpSite) (o : TopUpRow) (wallet : Int)

/-- What the user has gained when the order has the status. -/
def TopUpRow.gain (status : OrderStatus) : Int :=
  if o.status = .pending ∧ status = .success then quotaFromStoredTopUp s o else 0

/-- The committed tables. -/
structure Credited (db : TopUpDb) (row : TopUpRow) : Prop where
  found : db.topUps o.tradeNo = some row
  same : SameOrder o row
  kept : o.status ≠ .pending → row.status = o.status
  wallet : db.store.wallet o.userId = wallet + o.gain s row.status

def IsAlipay (c : Completion) : Prop :=
  ∃ providerTradeNo paidMoney, c = completeAlipayDirectTopUp s o.tradeNo providerTradeNo paidMoney

/-- The completion has claimed the order, which is still committed as pending. -/
structure Claimed (c : Completion) (t : TopUpRow) (db : TopUpDb) : Prop where
  isAlipay : IsAlipay s o c
  same : SameOrder o t
  locked : db.locked o.tradeNo = true
  row : ∃ row, Credited s o wallet db row ∧ row.status = .pending

/-- An update to a status other than `success`; the callers give `failed` and `expired`. -/
def PendingUpdate.Ends (u : PendingUpdate) (tradeNo : String) : Prop :=
  u.tradeNo = tradeNo ∧ u.targetStatus ≠ .success

/-- What holds where a call stands. -/
def TopUpPlace.AlipayOk : TopUpPlace → TopUpDb → Prop
  | .start c, _ | .conflict c, _ => IsAlipay s o c
  | .toSave c t, _ => IsAlipay s o c ∧ SameOrder o t
  | .toCredit c t, db => Claimed s o wallet c t db
  | .toClear c t x, db | .toCommit c t x, db =>
    Claimed s o wallet c t db ∧ x = quotaFromStoredTopUp s o ∧ db.store.HasUser o.userId
  | .update u, _ | .notUpdated u, _ => u.Ends o.tradeNo
  | .done _, _ => True

end Invariant

/-- Something final that is committed stays. -/
def TopUpDb.StatusKept (tradeNo : String) (db db' : TopUpDb) : Prop :=
  ∀ row, db.topUps tradeNo = some row → row.status ≠ .pending →
    ∃ row', db'.topUps tradeNo = some row' ∧ row'.status = row.status

section Step

variable {s : TopUpSite} {o : TopUpRow} {wallet : Int} {place : TopUpPlace} {db : TopUpDb}

variable {db' : TopUpDb} {row : TopUpRow} {c : Completion} {place' : TopUpPlace}

theorem TopUpDb.StatusKept.of_topUps {tradeNo : String} (h : db'.topUps = db.topUps) :
    db.StatusKept tradeNo db' := by
  intro row hrow _
  exact ⟨row, by rw [h]; exact hrow, rfl⟩

theorem Credited.of_eq (h : Credited s o wallet db row) (ht : db'.topUps = db.topUps)
    (hs : db'.store = db.store) : Credited s o wallet db' row :=
  ⟨by rw [ht]; exact h.found, h.same, h.kept, by rw [hs]; exact h.wallet⟩

variable {t : TopUpRow}

theorem IsAlipay.mark (hc : IsAlipay s o c) (h : SameOrder o t) (now : Int) :
    SameOrder o (c.mark now t) ∧ (c.mark now t).status = .success := by
  obtain ⟨providerTradeNo, paidMoney, rfl⟩ := hc
  exact ⟨⟨h.tradeNo, h.id, h.userId, h.amount, h.money, h.paymentProvider⟩, rfl⟩

/-- What a statement of a call does. -/
structure AlipayStep (s : TopUpSite) (o : TopUpRow) (wallet : Int) (place : TopUpPlace) (db : TopUpDb)
    (place' : TopUpPlace) (db' : TopUpDb) : Prop where
  stands : place'.AlipayOk s o wallet db'
  credited : ∃ row, Credited s o wallet db' row
  enters : place.claims = false → place'.claims = true → db.locked o.tradeNo = false
  waits : place.claims = false → db.locked o.tradeNo = true → db' = db
  kept : db.StatusKept o.tradeNo db'

/-- A statement that only reads, or waits, or ends the call. -/
theorem AlipayStep.read (hcred : ∃ row, Credited s o wallet db row)
    (h : place'.AlipayOk s o wallet db) (hout : place'.claims = false) : AlipayStep s o wallet place db place' db :=
  ⟨h, hcred, fun _ hin => (by rw [hout] at hin; cases hin), fun _ _ => rfl, .of_topUps rfl⟩

theorem AlipayStep.claimed (hin : place.claims)
    (hstands : place'.AlipayOk s o wallet db') (hcred : ∃ row, Credited s o wallet db' row)
    (hkept : db.StatusKept o.tradeNo db') : AlipayStep s o wallet place db place' db' := by
  refine ⟨hstands, hcred, fun hout => ?_, fun hout => ?_, hkept⟩ <;>
    · rw [hin] at hout
      cases hout

theorem alipay_commit (h : Claimed s o wallet c t db) (huser : db.store.HasUser o.userId) :
    AlipayStep s o wallet (.toCommit c t (quotaFromStoredTopUp s o)) db (.done (.ok ()))
      (((db.writePaid c t).credit s t.userId (quotaFromStoredTopUp s o)).release c t) := by
  set db' := ((db.writePaid c t).credit s t.userId (quotaFromStoredTopUp s o)).release c t with hdb'
  obtain ⟨row, hrow, hpending⟩ := h.row
  have hmark := h.isAlipay.mark hrow.same t.completeTime
  have hguarded : c.guarded := by obtain ⟨_, _, rfl⟩ := h.isAlipay; rfl
  have hopen : o.status = .pending := by
    by_contra hne
    exact hne ((hrow.kept hne).symm.trans hpending)
  have hfound : db'.topUps o.tradeNo = some (c.mark t.completeTime row) := by
    simp [hdb', TopUpDb.writePaid, TopUpDb.credit, hguarded, h.same.tradeNo, hrow.found]
  refine .claimed rfl trivial ⟨c.mark t.completeTime row, hfound, hmark.1, fun hne => absurd hopen hne, ?_⟩
    fun row' hrow' hne => ?_
  · have hstore : db'.store = db.store.creditUser s o.userId (quotaFromStoredTopUp s o) := by
      simp [hdb', TopUpDb.writePaid, TopUpDb.credit, hguarded, h.same.userId]
    rw [hstore, Store.creditUser_wallet s huser, hrow.wallet, hmark.2, hpending]
    simp [TopUpRow.gain, hopen]
  · rw [hrow.found] at hrow'
    cases hrow'
    exact absurd hpending hne

theorem pending_update {u : PendingUpdate} (hrow : Credited s o wallet db row) (hu : u.Ends o.tradeNo)
    (hfree : db.locked o.tradeNo = false) (hpending : row.status = .pending) (now : Int) :
    AlipayStep s o wallet (.update u) db (.done (.ok ())) (db.save (u.apply now row)) := by
  have hkey : (u.apply now row).tradeNo = o.tradeNo := hrow.same.tradeNo
  have hfound : (db.save (u.apply now row)).topUps o.tradeNo = some (u.apply now row) := by
    rw [← hkey]; simp
  have hopen : o.status = .pending := by
    by_contra hne
    exact hne ((hrow.kept hne).symm.trans hpending)
  have hnot : (u.apply now row).status ≠ .success := hu.2
  refine ⟨trivial, ⟨_, hfound, ?_, fun hne => absurd hopen hne, ?_⟩, fun _ _ => hfree, fun _ hl => ?_,
    fun row' hrow' hne => ?_⟩
  · exact ⟨hrow.same.tradeNo, hrow.same.id, hrow.same.userId, hrow.same.amount, hrow.same.money,
      hrow.same.paymentProvider⟩
  · have hw := hrow.wallet
    simp only [TopUpRow.gain, hpending, hnot, reduceCtorEq, and_false] at hw ⊢
    exact hw
  · rw [hfree] at hl
    cases hl
  · rw [hrow.found] at hrow'
    cases hrow'
    exact absurd hpending hne

/-- **One statement of a call.** -/
theorem TopUpEffect.alipay {credits : List (Int × ℚ)}
    (he : TopUpEffect s db place place' db' credits) (hcred : ∃ row, Credited s o wallet db row)
    (h : place.AlipayOk s o wallet db) : AlipayStep s o wallet place db place' db' := by
  cases he with
  | ends => exact .read hcred trivial rfl
  | waits _ hout => exact .read hcred h hout
  | reads c t hfound =>
    obtain ⟨row, hrow⟩ := hcred
    obtain ⟨providerTradeNo, paidMoney, rfl⟩ := h
    obtain rfl : row = t := Option.some.inj (hrow.found.symm.trans hfound)
    exact .read ⟨row, hrow⟩ ⟨⟨_, _, rfl⟩, hrow.same⟩ rfl
  | conflicts => exact .read hcred h.1 rfl
  | saves c t now hfree hclaim =>
    obtain ⟨row, hrow⟩ := hcred
    obtain ⟨⟨providerTradeNo, paidMoney, rfl⟩, ht⟩ := h
    rw [ht.tradeNo] at hfree hclaim ⊢
    have hpending : row.status = .pending := by
      have hrow' : t.claimable row := by simpa [hrow.found] using hclaim rfl
      simp only [TopUpRow.claimable, Bool.and_eq_true, decide_eq_true_eq] at hrow'
      exact hrow'.1.2
    have hlock : Credited s o wallet (db.lock o.tradeNo) row := hrow.of_eq rfl rfl
    refine ⟨⟨⟨_, _, rfl⟩, (IsAlipay.mark ⟨_, _, rfl⟩ ht now).1, db.lock_self, row, hlock, hpending⟩, ⟨row, hlock⟩,
      fun _ _ => hfree, fun _ hl => ?_, .of_topUps rfl⟩
    rw [hfree] at hl
    cases hl
  | rollsBack _ hin =>
    obtain ⟨row, hrow⟩ := hcred
    exact .claimed hin trivial ⟨row, hrow.of_eq (by simp) (by simp)⟩ (.of_topUps (by simp))
  | computes c t x hcredit hatomic huser =>
    have hclaimed : Claimed s o wallet c t db := h
    obtain ⟨providerTradeNo, paidMoney, rfl⟩ := hclaimed.isAlipay
    have hx : ((quotaFromStoredTopUp s t : Int) : ℚ) = x := Except.ok.inj hcredit
    rw [hclaimed.same.quota] at hx
    exact .claimed rfl ⟨hclaimed, hx.symm, hclaimed.same.userId ▸ huser rfl⟩ hcred (.of_topUps rfl)
  | credits c t x hatomic =>
    obtain ⟨providerTradeNo, paidMoney, rfl⟩ := Claimed.isAlipay h
    cases hatomic
  | clears => exact .claimed rfl h hcred (.of_topUps rfl)
  | commits c t x =>
    obtain ⟨hclaimed, rfl, huser⟩ := h
    exact alipay_commit hclaimed huser
  | updates u t now hfree hfound hpending =>
    obtain ⟨row, hrow⟩ := hcred
    have hends : u.Ends o.tradeNo := h
    rw [hends.1] at hfree hfound
    obtain rfl : row = t := Option.some.inj (hrow.found.symm.trans hfound)
    exact pending_update hrow hends hfree hpending now
  | skips => exact .read hcred h rfl

end Step

/-! ## The calls together -/

section Calls

variable {ι : Type*} [DecidableEq ι]

/-- The calls on the order: completions by Alipay and updates of the pending order. -/
def TopUpPlace.AlipayCall (s : TopUpSite) (o : TopUpRow) : TopUpPlace → Prop
  | .start c => IsAlipay s o c
  | .update u => u.Ends o.tradeNo
  | _ => False

/-- What holds in every state of an interleaving. -/
structure AlipayInv (s : TopUpSite) (o : TopUpRow) (wallet : Int) (c : Sys ι TopUpDb TopUpPlace) : Prop where
  exclusive : Sys.Exclusive (fun place : TopUpPlace => place.claims = true) (fun db => db.locked o.tradeNo = true) c
  stands : ∀ i, (c.procs i).AlipayOk s o wallet c.shared
  credited : ∃ row, Credited s o wallet c.shared row

variable {s : TopUpSite} {o : TopUpRow} {wallet : Int} {c : Sys ι TopUpDb TopUpPlace} {place : TopUpPlace}
  {db : TopUpDb}

theorem TopUpPlace.AlipayOk.locked (h : place.AlipayOk s o wallet db)
    (hin : place.claims) : db.locked o.tradeNo := by
  cases place with
  | toCredit => exact Claimed.locked h
  | toClear => exact h.1.locked
  | toCommit => exact h.1.locked
  | _ => cases hin

/-- A call that has not claimed the order knows nothing about the tables. -/
theorem TopUpPlace.AlipayOk.outside {db' : TopUpDb} (h : place.AlipayOk s o wallet db)
    (hout : place.claims = false) : place.AlipayOk s o wallet db' := by
  cases place with
  | toCredit | toClear | toCommit => cases hout
  | _ => exact h

/-- **One statement of one call, among all others.** -/
theorem alipayInv_step (h : AlipayInv s o wallet c) (a : ι × TopUpInput) :
    AlipayInv s o wallet (c.step (topUpStep s) a) := by
  have hstep := (topUpStep_effect s a.2 c.shared _).alipay h.credited (h.stands a.1)
  obtain ⟨hexclusive, hstands⟩ := Sys.step_locked h.exclusive h.stands
    (fun hout hplace => hplace.outside (by simpa using hout)) hstep.stands
    (fun hout hin => by simp [hstep.enters (by simpa using hout) hin]) hstep.stands.locked
    (fun hout hlock => hstep.waits (by simpa using hout) hlock)
  exact ⟨hexclusive, hstands, hstep.credited⟩

omit [DecidableEq ι] in
theorem alipayInv_start (hfound : c.shared.topUps o.tradeNo = some o)
    (hcalls : ∀ i, (c.procs i).AlipayCall s o) : AlipayInv s o (c.shared.store.wallet o.userId) c := by
  have hout : ∀ i, (c.procs i).claims ≠ true := by
    intro i hin
    have := hcalls i
    cases hp : c.procs i <;> simp [hp, TopUpPlace.AlipayCall, TopUpPlace.claims] at this hin
  refine ⟨⟨fun hi _ => absurd hi (hout _), fun hi => absurd hi (hout _)⟩, fun i => ?_, o, hfound, .refl o,
    fun _ => rfl, ?_⟩
  · have := hcalls i
    cases hp : c.procs i with
    | start | update => rw [hp] at this; exact this
    | _ => rw [hp] at this; exact this.elim
  · have hnone : o.gain s o.status = 0 := by
      unfold TopUpRow.gain
      rw [if_neg]
      rintro ⟨hp, hs⟩
      rw [hp] at hs
      cases hs
    omega

end Calls

/-- **An order of Alipay is credited once.** For any number of completions by Alipay and of updates of the pending
order, in every state of every interleaving of their statements the wallet of the user has gained the order's quota if
the order, which was pending, is committed as paid, and nothing otherwise; and no statement changes a status that is not
pending. -/
theorem alipay_topUp_credited_once {ι : Type*} [DecidableEq ι] (s : TopUpSite) (o : TopUpRow)
    (c : Sys ι TopUpDb TopUpPlace) (actions : List (ι × TopUpInput)) (hfound : c.shared.topUps o.tradeNo = some o)
    (hcalls : ∀ i, (c.procs i).AlipayCall s o) :
    Always (Sys.step (topUpStep s))
      (fun c' => ∃ row, c'.shared.topUps o.tradeNo = some row ∧
        c'.shared.store.wallet o.userId = c.shared.store.wallet o.userId +
          if o.status = .pending ∧ row.status = .success then quotaFromStoredTopUp s o else 0) c actions ∧
    Along (Sys.step (topUpStep s))
      (fun c' a => c'.shared.StatusKept o.tradeNo (c'.step (topUpStep s) a).shared) c actions := by
  have hany : Along (Sys.step (topUpStep s)) (fun _ _ => True) c actions := along_of_forall fun _ _ => trivial
  have hinv := alipayInv_start hfound hcalls
  constructor
  · refine always_of_inv (I := AlipayInv s o (c.shared.store.wallet o.userId)) (fun _ a _ h => alipayInv_step h a)
      (fun c' h => ?_) hany hinv
    obtain ⟨row, hrow⟩ := h.credited
    exact ⟨row, hrow.found, hrow.wallet⟩
  · refine along_of_inv (I := AlipayInv s o (c.shared.store.wallet o.userId)) (fun _ a _ h => alipayInv_step h a)
      (fun c' a _ h => ?_) hany hinv
    exact ((topUpStep_effect s a.2 c'.shared _).alipay h.credited (h.stands a.1)).kept

namespace Sample

/-- Notifications of Alipay, any number of them, and an expiry of the order. -/
def alipayCalls : Sys Nat TopUpDb TopUpPlace where
  shared := topUpDb (topUpRow "alipay_direct")
  procs i := if i = 2 then .update ⟨"A", "alipay_direct", .expired⟩
    else .start (completeAlipayDirectTopUp topUpSite "A" "P" "10.00")

/-- Two notifications read the pending order. The first claims it; the others wait, until it commits. -/
def alipayActions : List (Nat × TopUpInput) :=
  [0, 1, 0, 1, 2, 0, 0, 0, 1, 1, 2, 2].map fun i => (i, ⟨1000, none⟩)

end Sample

open Sample

/-- The sample order is paid, and the user has 500 more. -/
theorem alipay_topUp_credited_once_sample :
    ((run (Sys.step (topUpStep topUpSite)) alipayCalls alipayActions).shared.topUps "A").map
      (·.status) = some .success ∧
    (run (Sys.step (topUpStep topUpSite)) alipayCalls alipayActions).shared.store.wallet 1 = 600 ∧
    Always (Sys.step (topUpStep topUpSite))
      (fun c' => ∃ row, c'.shared.topUps "A" = some row ∧
        c'.shared.store.wallet 1 = 100 + if OrderStatus.pending = .pending ∧ row.status = .success then 500 else 0)
      alipayCalls alipayActions := by
  refine ⟨by decide +kernel, by decide +kernel, ?_⟩
  refine (alipay_topUp_credited_once topUpSite (topUpRow "alipay_direct") alipayCalls
    alipayActions rfl fun i => ?_).1
  by_cases hi : i = 2
  · rw [show alipayCalls.procs i = .update ⟨"A", "alipay_direct", .expired⟩ from if_pos hi]
    exact ⟨rfl, by decide⟩
  · rw [show alipayCalls.procs i = .start (completeAlipayDirectTopUp topUpSite "A" "P" "10.00") from
      if_neg hi]
    exact ⟨"P", "10.00", rfl⟩

end SynthApi
