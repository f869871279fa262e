import SynthApi.Model.RewardProgram.Rebate

/-!
# Rebates: settlement against replay

`settleAll` settles the paid orders one after the other, in the order in which they were completed; a replay follows. An
order has the same rebate in both if as many invitees had paid before it (`entryOf`). The settlements book exactly these
rebates (`settleAll_booked`), so that a replay changes nothing if every order was settled at its time of payment and after as
many invitees as in the replay (`backfill_unchanged_iff`). Orders of Epay have no time of payment, and the replay takes them
by their time of creation.
-/

namespace SynthApi

open Lib Lib.Go List Lib.Table AffiliateRebateRecord AffiliateBackfillEntry RebateDb

/-! ## Invitees who have paid -/

section Counts

variable (s : RebateSite) (users : List InvitedUser) (refunds : List PaymentRefundReview)

def paidInvitees (ts : List TopUpRow) (inviterId : Int) : Finset Int :=
  ((ts.filter fun t => isInvitedTopUp users refunds t && decide (inviterByUser users t.userId = inviterId)).map
    (·.userId)).toFinset

/-- How many invitees have paid when the order `t` of `ts` is paid, with the invitee who pays it. -/
def inviteCount (ts : List TopUpRow) (t : TopUpRow) : Nat :=
  (insert t.userId (paidInvitees users refunds (ts.takeWhile fun u => u.tradeNo ≠ t.tradeNo)
    (inviterByUser users t.userId))).card

/-- The rebate of an order if `count` invitees have paid. -/
def AffiliateBackfillEntry.of (t : TopUpRow) (inviterId : Int) (count : Nat) : AffiliateBackfillEntry where
  topUp := t
  inviterId := inviterId
  inviteCount := count
  stage := affiliateStageForCount count
  rewardQuota := rebateQuota s.setting t.money (affiliateStageForCount count)

/-- **The rebate of an order when the orders are paid as in `ts`.** -/
def entryOf (ts : List TopUpRow) (t : TopUpRow) : AffiliateBackfillEntry :=
  .of s t (inviterByUser users t.userId) (inviteCount users refunds ts t)

variable {s users refunds} {t : TopUpRow} {done ts : List TopUpRow}

theorem paidInvitees_concat_of_invited (done : List TopUpRow)
    (h : isInvitedTopUp users refunds t) :
    paidInvitees users refunds (done ++ [t]) =
      Function.update (paidInvitees users refunds done) (inviterByUser users t.userId)
        (insert t.userId (paidInvitees users refunds done (inviterByUser users t.userId))) := by
  funext i
  by_cases hi : i = inviterByUser users t.userId
  · subst hi
    simp [paidInvitees, h]
  · rw [Function.update_of_ne hi]
    simp [paidInvitees, Ne.symm hi]

theorem paidInvitees_concat_of_not (done : List TopUpRow) (h : isInvitedTopUp users refunds t = false) :
    paidInvitees users refunds (done ++ [t]) = paidInvitees users refunds done := by
  funext i
  simp [paidInvitees, h]

theorem inviteCount_split (ts : List TopUpRow)
    (hnew : t.tradeNo ∉ done.map (·.tradeNo)) :
    inviteCount users refunds (done ++ t :: ts) t =
      (insert t.userId (paidInvitees users refunds done (inviterByUser users t.userId))).card := by
  have htake : (done ++ t :: ts).takeWhile (fun u => decide (u.tradeNo ≠ t.tradeNo)) = done := by
    rw [takeWhile_append_of_pos, takeWhile_cons_of_neg (by simp), append_nil]
    intro u hu
    refine decide_eq_true fun heq => hnew ?_
    rw [← heq]
    exact mem_map_of_mem hu
  rw [inviteCount, htake]

theorem inviteCount_pos : 0 < inviteCount users refunds ts t :=
  Finset.card_pos.2 ⟨t.userId, Finset.mem_insert_self _ _⟩

/-- **The entries of a replay**, which gives up at a rebate that is not positive. -/
theorem backfillEntries_ok_iff {entries : List AffiliateBackfillEntry} (hd : ((done ++ ts).map (·.tradeNo)).Nodup) :
    backfillEntries s users refunds (paidInvitees users refunds done) ts = .ok entries ↔
      (∀ t ∈ ts, isInvitedTopUp users refunds t → 0 < (entryOf s users refunds (done ++ ts) t).rewardQuota) ∧
        entries = (ts.filter (isInvitedTopUp users refunds)).map (entryOf s users refunds (done ++ ts)) := by
  induction ts generalizing done entries with
  | nil =>
    constructor
    · intro h
      cases h
      exact ⟨nofun, rfl⟩
    · rintro ⟨-, rfl⟩
      rfl
  | cons t ts ih =>
    have hsplit : done ++ t :: ts = (done ++ [t]) ++ ts := by simp
    rw [hsplit] at hd
    have ih := fun entries => @ih (done ++ [t]) entries hd
    rw [← hsplit] at ih
    by_cases hinvited : isInvitedTopUp users refunds t
    · have hnew : t.tradeNo ∉ done.map (·.tradeNo) := by
        rw [map_append, map_append, nodup_append, nodup_append] at hd
        exact fun hmem => hd.1.2.2 _ hmem _ (by simp) rfl
      have hentry : entryOf s users refunds (done ++ t :: ts) t = .of s t (inviterByUser users t.userId)
          (insert t.userId (paidInvitees users refunds done (inviterByUser users t.userId))).card := by
        rw [entryOf, inviteCount_split ts hnew]
      simp only [backfillEntries, hinvited, not_true, if_false]
      rw [← paidInvitees_concat_of_invited done hinvited, filter_cons_of_pos hinvited, map_cons, forall_mem_cons, hentry]
      simp only [hinvited, forall_const]
      split
      next hle => exact iff_of_false nofun fun h => not_lt.2 hle h.1.1
      next hpos =>
        constructor
        · intro h
          obtain ⟨rest, hrest, h⟩ := bind_ok h
          cases h
          obtain ⟨hall, rfl⟩ := (ih _).1 hrest
          exact ⟨⟨not_le.1 hpos, hall⟩, rfl⟩
        · rintro ⟨⟨-, hall⟩, rfl⟩
          rw [(ih _).2 ⟨hall, rfl⟩]
          rfl
    · have hnot := Bool.eq_false_iff.2 hinvited
      rw [backfillEntries, if_pos hinvited, ← paidInvitees_concat_of_not done hnot, ih, filter_cons_of_neg hinvited,
        forall_mem_cons]
      simp only [hnot, Bool.false_eq_true, false_implies, true_and]

end Counts

/-! ## One settlement -/

/-- The orders as the rest of the program writes them: trade numbers are distinct and have no blanks around them. Nothing
was refunded. -/
structure RebateDb.Orders (db : RebateDb) : Prop where
  nodup : (db.topUps.map fun t => t.tradeNo).Nodup
  trimmed : ∀ t ∈ db.topUps, trimSpace t.tradeNo = t.tradeNo ∧ t.tradeNo ≠ ""
  noRefund : ∀ r ∈ db.refunds, r.refundAmount ≤ 0

def AffiliateBackfillEntry.settled (e : AffiliateBackfillEntry) (createdAt id : Int) : AffiliateRebateRecord :=
  { e.record id with createdAt := createdAt }

def RebateDb.pay (db : RebateDb) (e : AffiliateBackfillEntry) (now : Int) : RebateDb :=
  { db.addAff e.inviterId e.rewardQuota with records := db.records ++ [e.settled now db.nextRecordId] }

abbrev RebateDb.earns (db : RebateDb) : TopUpRow → Bool := isInvitedTopUp db.users db.refunds

section Settlement

variable {s : RebateSite} {settledAt : String → Int} {db db' : RebateDb} {t : TopUpRow}

theorem RebateDb.Orders.same (h : db.Orders) (hsame : db.SameOrders db') : db'.Orders :=
  ⟨hsame.topUps ▸ h.nodup, hsame.topUps ▸ h.trimmed, hsame.refunds ▸ h.noRefund⟩

theorem RebateDb.Orders.not_refunded (h : db.Orders) : isRefunded db.refunds t = false := by
  refine any_eq_false.2 fun r hr => ?_
  simp [not_lt.2 (h.noRefund r hr)]

theorem RebateDb.Orders.topUp (h : db.Orders) (ht : t ∈ db.topUps) : db.topUp t.tradeNo = some t :=
  lookup_of_nodup h.nodup ht

theorem RebateDb.id_of_user {id : Int} {u : InvitedUser} (h : db.user id = some u) : u.id = id := (key_of_lookup h :)

theorem RebateDb.inviter_of_user {id : Int} {u : Option InvitedUser} (h : db.user id = u) :
    inviterByUser db.users id = (u.map (·.inviterId)).getD 0 := by
  subst h
  rfl

theorem ledgerInvitees_concat (records : List AffiliateRebateRecord) (r : AffiliateRebateRecord) :
    ledgerInvitees (records ++ [r]) =
      Function.update (ledgerInvitees records) r.inviterUserId
        (insert r.inviteeUserId (ledgerInvitees records r.inviterUserId)) := by
  funext i
  by_cases h : i = r.inviterUserId
  · subst h
    simp [ledgerInvitees]
  · rw [Function.update_of_ne h]
    simp [ledgerInvitees, Ne.symm h]

/-- The settlement of a stored order. -/
theorem settleAt_eq (h : db.Orders) (ht : t ∈ db.topUps) (henabled : s.enabled) :
    settleAt s settledAt db t =
      match settleBody s (settledAt t.tradeNo) t.tradeNo db with
      | .ok db' => db'
      | .error _ => db := by
  obtain ⟨htrim, hne⟩ := h.trimmed t ht
  simp only [settleAt, settleAffiliateMilestoneRebate, henabled, htrim, hne, not_true]
  cases settleBody s (settledAt t.tradeNo) t.tradeNo db <;> rfl

theorem settleAt_disabled (hdisabled : s.enabled = false) : settleAt s settledAt db t = db := by
  simp [settleAt, settleAffiliateMilestoneRebate, hdisabled]

theorem settleAt_skip (h : db.Orders) (ht : t ∈ db.topUps) (hnot : db.earns t = false) :
    settleAt s settledAt db t = db := by
  cases henabled : s.enabled with
  | false => exact settleAt_disabled henabled
  | true =>
    rw [settleAt_eq h ht henabled]
    simp only [settleBody, h.topUp ht]
    by_cases heligible : isEligibleCNYTopUp t
    · cases huser : db.user t.userId with
      | none => simp [heligible]
      | some invitee =>
        have hstop : invitee.inviterId ≤ 0 ∨ invitee.inviterId = invitee.id := by
          simp only [isInvitedTopUp, heligible, h.not_refunded, inviter_of_user huser, Bool.not_false,
            Bool.true_and, Bool.and_eq_false_iff, decide_eq_false_iff_not, not_lt, not_not] at hnot
          rwa [id_of_user huser]
        simp [hstop]
    · simp [heligible]

/-- An order that earns a rebate was paid by somebody with an inviter. -/
theorem user_of_invited (hinvited : db.earns t) :
    isEligibleCNYTopUp t ∧ ∃ invitee, db.user t.userId = some invitee ∧
      inviterByUser db.users t.userId = invitee.inviterId ∧
        ¬ (invitee.inviterId ≤ 0 ∨ invitee.inviterId = invitee.id) := by
  simp only [isInvitedTopUp, Bool.and_eq_true, decide_eq_true_eq] at hinvited
  obtain ⟨⟨⟨heligible, -⟩, hpos⟩, hself⟩ := hinvited
  cases huser : db.user t.userId with
  | none =>
    rw [inviter_of_user huser] at hpos
    cases hpos
  | some invitee =>
    have hinviter : inviterByUser db.users t.userId = invitee.inviterId := inviter_of_user huser
    refine ⟨heligible, invitee, rfl, hinviter, ?_⟩
    rw [id_of_user huser]
    omega

/-- **The settlement of an order that earns a rebate.** -/
theorem settleAt_invited (h : db.Orders) (ht : t ∈ db.topUps) (hinvited : db.earns t)
    (hnew : t.tradeNo ∉ db.records.map tradeNo) {e : AffiliateBackfillEntry}
    (he : e = .of s t (inviterByUser db.users t.userId)
      (insert t.userId (ledgerInvitees db.records (inviterByUser db.users t.userId))).card) :
    settleAt s settledAt db t =
      if s.enabled ∧ (db.user e.inviterId).isSome ∧ 0 < e.rewardQuota then db.pay e (settledAt t.tradeNo)
      else db := by
  cases henabled : s.enabled with
  | false => rw [settleAt_disabled henabled]; simp
  | true =>
    obtain ⟨heligible, invitee, huser, hinviter, hgo⟩ := user_of_invited hinvited
    have hrecord : (db.record t.tradeNo).isSome = false := by
      have hnone : db.record t.tradeNo = none :=
        lookup_eq_none.2 fun r hr heq => hnew (heq ▸ mem_map_of_mem hr)
      rw [hnone]; rfl
    have hcount : effectiveInviteCount
        (db.records ++ [rebateCandidate (settledAt t.tradeNo) t e.inviterId db.nextRecordId]) e.inviterId
          = e.inviteCount := by
      rw [effectiveInviteCount, ledgerInvitees_concat, he]
      simp [rebateCandidate, AffiliateBackfillEntry.of]
    have hrate : 0 < e.stage.rateBPS := by
      rw [he]
      exact affiliateStageForCount_rate_pos (Finset.card_pos.2 ⟨t.userId, Finset.mem_insert_self _ _⟩)
    have hinv : invitee.inviterId = e.inviterId := by rw [← hinviter, he]; rfl
    rw [hinv] at hgo
    have hstage : affiliateStageForCount e.inviteCount = e.stage := by rw [he]; rfl
    have hreward : rebateQuota s.setting t.money e.stage = e.rewardQuota := by rw [he]; rfl
    have htopUp : e.topUp = t := by rw [he]; rfl
    have hid : db.nextRecordId ∉ db.records.map (·.id) := nextId_not_mem _
    rw [settleAt_eq h ht henabled]
    simp only [settleBody, h.topUp ht, heligible, not_true, huser, hinv, if_neg hgo]
    cases hpaid : db.user e.inviterId with
    | none => simp
    | some inviter =>
      simp only [id_of_user hpaid, settleOrder, hrecord, Bool.false_eq_true, if_false, createRecord,
        hcount, hstage, hreward, if_neg (not_le.2 hrate), Option.isSome_some, true_and]
      by_cases hpos : 0 < e.rewardQuota
      · have hsettle : updateKey (·.id) db.nextRecordId
            (settle e.inviteCount e.stage e.rewardQuota)
            (db.records ++ [rebateCandidate (settledAt t.tradeNo) t e.inviterId db.nextRecordId]) =
              db.records ++ [e.settled (settledAt t.tradeNo) db.nextRecordId] := by
          rw [updateKey_concat (by rfl) hid, ← htopUp]
          rfl
        simp only [if_pos hpos, pay, ← hsettle]
        rw [if_neg (not_le.2 hpos)]
        rfl
      · simp only [if_pos (not_lt.1 hpos), if_neg hpos]

end Settlement

/-! ## All settlements -/

theorem RebateDb.SameOrders.entryOf {s : RebateSite} {db db' : RebateDb} (h : db.SameOrders db') :
    SynthApi.entryOf s db'.users db'.refunds = SynthApi.entryOf s db.users db.refunds := by
  funext ts t
  simp only [SynthApi.entryOf, inviteCount, paidInvitees, h.inviterByUser, h.isInvitedTopUp]

/-- The rebate of an order can be paid. -/
def RebateDb.Payable (s : RebateSite) (db : RebateDb) (ts : List TopUpRow) (t : TopUpRow) : Prop :=
  s.enabled = true ∧ (db.user (inviterByUser db.users t.userId)).isSome ∧
    0 < (entryOf s db.users db.refunds ts t).rewardQuota

/-- The state after the orders `done` of `ts` have been settled, with a rebate for each that earns one. -/
structure RebateDb.Booked (s : RebateSite) (settledAt : String → Int) (db₀ : RebateDb) (ts done : List TopUpRow)
    (db : RebateDb) : Prop where
  same : db₀.SameOrders db
  ids : (db.records.map AffiliateRebateRecord.id).Nodup
  trades : db.records.map AffiliateRebateRecord.tradeNo =
    (done.filter (isInvitedTopUp db₀.users db₀.refunds)).map (·.tradeNo)
  rows : ∀ r ∈ db.records, ∃ t ∈ done,
    r = (entryOf s db₀.users db₀.refunds ts t).settled (settledAt t.tradeNo) r.id
  invitees : ledgerInvitees db.records = paidInvitees db₀.users db₀.refunds done

section Run

variable {s : RebateSite} {settledAt : String → Int} {db₀ db : RebateDb} {ts done rest : List TopUpRow} {t : TopUpRow}

theorem RebateDb.Booked.skip (h : db₀.Booked s settledAt ts done db) (hnot : db₀.earns t = false) :
    db₀.Booked s settledAt ts (done ++ [t]) db where
  same := h.same
  ids := h.ids
  trades := by rw [h.trades, filter_append, filter_cons_of_neg (by simp [hnot])]; simp
  rows r hr := by
    obtain ⟨u, hu, hrow⟩ := h.rows r hr
    exact ⟨u, mem_append_left _ hu, hrow⟩
  invitees := by rw [h.invitees, paidInvitees_concat_of_not done hnot]

theorem RebateDb.Booked.pay (h : db₀.Booked s settledAt ts done db) (hinvited : db₀.earns t) :
    db₀.Booked s settledAt ts (done ++ [t]) (db.pay (entryOf s db₀.users db₀.refunds ts t) (settledAt t.tradeNo)) where
  same := h.same.trans ((RebateDb.SameOrders.addAff db _ _).trans ⟨rfl, rfl, fun _ => rfl⟩)
  ids := by
    have hid : db.nextRecordId ∉ db.records.map (·.id) := nextId_not_mem _
    simp only [RebateDb.pay, map_append]
    refine nodup_append.2 ⟨h.ids, by simp, fun id hmem id' hid' heq => hid ?_⟩
    obtain rfl : id' = db.nextRecordId := by simpa [settled, AffiliateBackfillEntry.record] using hid'
    exact heq ▸ hmem
  trades := by
    simp only [RebateDb.pay, map_append, h.trades, filter_append, filter_cons_of_pos hinvited]
    rfl
  rows r hr := by
    rcases mem_append.1 hr with hr | hr
    · obtain ⟨u, hu, hrow⟩ := h.rows r hr
      exact ⟨u, mem_append_left _ hu, hrow⟩
    · obtain rfl := mem_singleton.1 hr
      exact ⟨t, mem_append_right _ (mem_singleton_self t), rfl⟩
  invitees := by
    rw [paidInvitees_concat_of_invited done hinvited, ← h.invitees]
    exact ledgerInvitees_concat _ _

/-- One more settlement. -/
theorem RebateDb.Booked.settleAt (horders : db₀.Orders) (h : db₀.Booked s settledAt ts done db)
    (hts : ts = done ++ t :: rest) (hd : (ts.map (·.tradeNo)).Nodup) (ht : t ∈ db₀.topUps) (hinvited : db₀.earns t) :
    t.tradeNo ∉ db.records.map tradeNo ∧
      (db₀.Payable s ts t → SynthApi.settleAt s settledAt db t =
        db.pay (entryOf s db₀.users db₀.refunds ts t) (settledAt t.tradeNo)) ∧
      (¬ db₀.Payable s ts t → SynthApi.settleAt s settledAt db t = db) := by
  have hdone : t.tradeNo ∉ done.map (·.tradeNo) := by
    rw [hts, map_append, nodup_append] at hd
    exact fun hmem => hd.2.2 _ hmem _ (by simp) rfl
  have hnew : t.tradeNo ∉ db.records.map tradeNo := by
    rw [h.trades]
    intro hmem
    obtain ⟨u, hu, heq⟩ := mem_map.1 hmem
    exact hdone (heq ▸ mem_map_of_mem (mem_of_mem_filter hu))
  have he : entryOf s db₀.users db₀.refunds ts t = .of s t (inviterByUser db.users t.userId)
      (insert t.userId (ledgerInvitees db.records (inviterByUser db.users t.userId))).card := by
    rw [entryOf, hts, inviteCount_split rest hdone, h.same.inviterByUser, h.invitees]
  have hsettle : SynthApi.settleAt s settledAt db t = _ := settleAt_invited (horders.same h.same)
    (h.same.topUps.symm ▸ ht) (by rw [earns, h.same.isInvitedTopUp]; exact hinvited) hnew he
  rw [h.same.user_isSome] at hsettle
  exact ⟨hnew, fun hpayable => hsettle.trans (if_pos hpayable), fun hnot => hsettle.trans (if_neg hnot)⟩

/-- Settlements book no other orders. -/
theorem settleAll_not_booked {tradeNo : String} (htrim : ∀ t ∈ ts, trimSpace t.tradeNo = t.tradeNo)
    (hts : tradeNo ∉ ts.map (·.tradeNo)) (hnot : tradeNo ∉ db.records.map (·.tradeNo)) :
    tradeNo ∉ (settleAll s settledAt ts db).records.map (·.tradeNo) := by
  have hall : ∀ t ∈ ts, trimSpace t.tradeNo = t.tradeNo ∧ tradeNo ≠ t.tradeNo := fun t ht =>
    ⟨htrim t ht, fun heq => hts (heq ▸ mem_map_of_mem ht)⟩
  exact run_inv_along (I := fun db : RebateDb => tradeNo ∉ db.records.map (·.tradeNo))
    (fun _ _ ht h => settleAt_trades ht.1 ht.2 h) (along_of_forall hall) hnot

/-- **The settlements of `rest` book the rebates of the orders**, if every rebate can be paid or turns up in the ledger in
the end. -/
theorem settleAll_booked (horders : db₀.Orders) (h : db₀.Booked s settledAt ts done db)
    (hts : ts = done ++ rest) (hd : (ts.map (·.tradeNo)).Nodup) (hmem : ∀ t ∈ rest, t ∈ db₀.topUps)
    (hpaid : ∀ t ∈ rest, db₀.earns t → db₀.Payable s ts t ∨
      t.tradeNo ∈ (settleAll s settledAt rest db).records.map tradeNo) :
    db₀.Booked s settledAt ts ts (settleAll s settledAt rest db) := by
  induction rest generalizing db done with
  | nil =>
    rw [append_nil] at hts
    rw [← hts] at h
    exact h
  | cons t rest ih =>
    have hsplit : ts = (done ++ [t]) ++ rest := by simpa using hts
    obtain ⟨ht, hrest⟩ := forall_mem_cons.1 hmem
    rw [settleAll, run_cons] at hpaid ⊢
    cases hinvited : db₀.earns t with
    | false =>
      have hskip : SynthApi.settleAt s settledAt db t = db :=
        settleAt_skip (horders.same h.same) (h.same.topUps.symm ▸ ht)
          (by rw [earns, h.same.isInvitedTopUp]; exact hinvited)
      rw [hskip] at hpaid ⊢
      exact ih (h.skip hinvited) hsplit hrest (forall_mem_cons.1 hpaid).2
    | true =>
      obtain ⟨hnew, hpays, hfails⟩ := h.settleAt horders hts hd ht hinvited
      by_cases hpayable : db₀.Payable s ts t
      · rw [hpays hpayable] at hpaid ⊢
        exact ih (h.pay hinvited) hsplit hrest (forall_mem_cons.1 hpaid).2
      · -- nobody books the order later, so it is missing in the end
        rw [hfails hpayable] at hpaid
        have hlater : t.tradeNo ∉ rest.map (·.tradeNo) := by
          rw [hts, map_append, nodup_append] at hd
          exact (nodup_cons.1 hd.2.1).1
        exact absurd ((hpaid t mem_cons_self hinvited).resolve_left hpayable)
          (settleAll_not_booked (fun u hu => (horders.trimmed u (hrest u hu)).1) hlater hnew)

end Run

/-! ## The replay -/

section Replay

variable {s : RebateSite} {db db' : RebateDb} {existing : List AffiliateRebateRecord} {e : AffiliateBackfillEntry}
  {entries : List AffiliateBackfillEntry} {r : AffiliateRebateRecord}

/-- A replay gives up, or it books the entries. -/
theorem backfill_cases (s : RebateSite) (db : RebateDb) :
    (∃ err, backfillAffiliateMilestoneRebates s db = (.error err, db)) ∨
      ∃ entries db', backfillEntries s db.users db.refunds (fun _ => ∅) db.paidTopUps = .ok entries ∧
        bookEntries db.records entries db = .ok db' ∧ backfillAffiliateMilestoneRebates s db = (.ok (), db') := by
  unfold backfillAffiliateMilestoneRebates
  split
  · exact .inl ⟨_, rfl⟩
  · rename_i entries hentries
    split
    · exact .inl ⟨_, rfl⟩
    · rename_i db' hbook
      exact .inr ⟨entries, db', hentries, hbook, rfl⟩

def AffiliateBackfillEntry.row (existing : List AffiliateRebateRecord) (e : AffiliateBackfillEntry) :
    Option AffiliateRebateRecord :=
  lookup AffiliateRebateRecord.tradeNo e.topUp.tradeNo existing

theorem adjust_records {delta : Int} : (e.adjust delta db).records = db.records := by
  unfold adjust
  split <;> rfl

theorem adjust_same (e : AffiliateBackfillEntry) (delta : Int) (db : RebateDb) : db.SameOrders (e.adjust delta db) := by
  unfold adjust
  split
  · exact .addAff db _ _
  · exact .refl db

theorem overwrite_id {id : Int} (r : AffiliateRebateRecord) (h : r.id = id) :
    (e.overwrite r).id = id := h

/-- **What booking an entry does.** -/
theorem book_cases (h : e.book existing db = .ok db') :
    (db.user e.inviterId).isSome ∧ db.SameOrders db' ∧ ((∃ r, e.row existing = some r ∧
        db'.records = updateKey (·.id) r.id e.overwrite db.records) ∨
      e.row existing = none ∧ db'.records = db.records ++ [e.record db.nextRecordId]) := by
  unfold book at h
  split at h
  · cases h
  · rename_i inviter hinviter
    refine ⟨by rw [hinviter]; rfl, ?_⟩
    dsimp only at h
    split at h
    · cases h
    · have hsame := adjust_same e
        (e.rewardQuota - ((lookup tradeNo e.topUp.tradeNo existing).map (·.rewardQuota)).getD 0)
        db
      split at h
      · rename_i r hrow
        cases h
        exact ⟨hsame.trans ⟨rfl, rfl, fun _ => rfl⟩, .inl ⟨r, hrow, by simp only [updateRecord, adjust_records]⟩⟩
      · rename_i hrow
        split at h
        · cases h
        · cases h
          refine ⟨hsame.trans ⟨rfl, rfl, fun _ => rfl⟩, .inr ⟨hrow, ?_⟩⟩
          simp only [createRecord, nextRecordId, adjust_records]

/-- An entry with a row in the ledger overwrites it. -/
theorem book_found (h : e.book existing db = .ok db') (hrow : e.row existing = some r) :
    db'.records = updateKey (·.id) r.id e.overwrite db.records := by
  rcases (book_cases h).2.2 with ⟨r', hrow', hrecords⟩ | ⟨hrow', -⟩
  · obtain rfl : r = r' := Option.some.inj (hrow.symm.trans hrow')
    exact hrecords
  · cases hrow.symm.trans hrow'

theorem bookEntries_length (h : bookEntries existing entries db = .ok db') :
    db'.records.length = db.records.length + entries.countP fun e => (e.row existing).isNone := by
  induction entries generalizing db with
  | nil => cases h; rfl
  | cons e entries ih =>
    obtain ⟨db₁, hbook, h⟩ := bind_ok h
    rw [ih h]
    rcases (book_cases hbook).2.2 with ⟨r, hrow, hrecords⟩ | ⟨hrow, hrecords⟩
    · rw [countP_cons_of_neg (by simp [hrow]), hrecords]
      simp [updateKey, updateWhere]
    · rw [countP_cons_of_pos (by simp [hrow]), hrecords, length_append]
      simp only [length_singleton]
      omega

/-- A replay that leaves the ledger as long as it was found a row for every entry. -/
theorem bookEntries_found (h : bookEntries existing entries db = .ok db') (hlen : db'.records.length = db.records.length) :
    ∀ e ∈ entries, ∃ r, e.row existing = some r := by
  have hcount := bookEntries_length h
  have hzero : entries.countP (fun e => (e.row existing).isNone) = 0 := by omega
  intro e he
  have hsome := countP_eq_zero.1 hzero e he
  rw [Option.isNone_iff_eq_none] at hsome
  exact Option.ne_none_iff_exists'.1 hsome

theorem bookEntries_other {id : Int} (hrows : ∀ e ∈ entries, ∃ r, e.row existing = some r ∧ r.id ≠ id)
    (h : bookEntries existing entries db = .ok db') :
    lookup (·.id) id db'.records = lookup (·.id) id db.records := by
  induction entries generalizing db with
  | nil => cases h; rfl
  | cons e entries ih =>
    obtain ⟨db₁, hbook, h⟩ := bind_ok h
    obtain ⟨r, hrow, hne⟩ := hrows e mem_cons_self
    rw [ih (forall_mem_cons.1 hrows).2 h, book_found hbook hrow,
      lookup_updateKey_ne overwrite_id hne.symm]

/-- **The row of an entry is overwritten once.** -/
theorem bookEntries_row (hids : (existing.map (·.id)).Nodup)
    (hd : (entries.map (·.topUp.tradeNo)).Nodup) (hfound : ∀ e ∈ entries, ∃ r, e.row existing = some r)
    (h : bookEntries existing entries db = .ok db') (he : e ∈ entries) (hrow : e.row existing = some r) :
    lookup (·.id) r.id db'.records =
      (lookup (·.id) r.id db.records).map e.overwrite := by
  -- rows of different entries have different ids
  have hne : ∀ {q : AffiliateBackfillEntry}, q.topUp.tradeNo ≠ e.topUp.tradeNo → (∃ r', q.row existing = some r') →
      ∃ r', q.row existing = some r' ∧ r'.id ≠ r.id := by
    rintro q htrade ⟨r', hrow'⟩
    refine ⟨r', hrow', fun heq => htrade ?_⟩
    have hsame := eq_of_key hids (mem_of_lookup hrow') (mem_of_lookup hrow) heq
    rw [← key_of_lookup hrow', hsame, key_of_lookup hrow]
  induction entries generalizing db with
  | nil => cases he
  | cons q entries ih =>
    obtain ⟨db₁, hbook, hrest⟩ := bind_ok h
    rw [map_cons, nodup_cons] at hd
    rcases mem_cons.1 he with rfl | he
    · have hothers : ∀ q ∈ entries, ∃ r', q.row existing = some r' ∧ r'.id ≠ r.id := fun q hq =>
        hne (fun heq => hd.1 (heq ▸ mem_map_of_mem hq)) (hfound q (mem_cons_of_mem _ hq))
      rw [bookEntries_other hothers hrest, book_found hbook hrow, lookup_updateKey overwrite_id]
    · obtain ⟨r', hrow', hid⟩ := hne (fun heq => hd.1 (heq ▸ mem_map_of_mem he)) (hfound q mem_cons_self)
      rw [ih hd.2 (forall_mem_cons.1 hfound).2 hrest he, book_found hbook hrow',
        lookup_updateKey_ne overwrite_id hid.symm]

/-- An entry whose row says all that it says changes nothing. -/
theorem book_unchanged (hids : (db.records.map (·.id)).Nodup) (hrow : e.row db.records = some r)
    (hreward : e.rewardQuota = r.rewardQuota) (hsame : e.overwrite r = r) (h : e.book db.records db = .ok db') :
    db' = db := by
  unfold AffiliateBackfillEntry.row at hrow
  unfold book at h
  split at h
  · cases h
  · simp only [hrow, Option.map_some, Option.getD_some, hreward, sub_self, if_false,
      adjust, ne_eq, not_true] at h
    cases h
    have hupdate : updateKey (·.id) r.id e.overwrite db.records = db.records :=
      updateKey_id fun q hq hid => by
        rw [eq_of_key hids hq (mem_of_lookup hrow) hid, hsame]
    rw [updateRecord, hupdate]

theorem bookEntries_unchanged (hids : (db.records.map (·.id)).Nodup)
    (hrows : ∀ e ∈ entries, ∃ r, e.row db.records = some r ∧ e.rewardQuota = r.rewardQuota ∧ e.overwrite r = r)
    (h : bookEntries db.records entries db = .ok db') : db' = db := by
  induction entries with
  | nil => cases h; rfl
  | cons e entries ih =>
    obtain ⟨db₁, hbook, h⟩ := bind_ok h
    obtain ⟨r, hrow, hreward, hsame⟩ := hrows e mem_cons_self
    obtain rfl := book_unchanged hids hrow hreward hsame hbook
    exact ih (forall_mem_cons.1 hrows).2 h

/-! ### When a replay goes through -/

/-- What the ledger says was paid for an order. -/
def AffiliateBackfillEntry.paid (rows : List AffiliateRebateRecord) (e : AffiliateBackfillEntry) : Int :=
  ((e.row rows).map (·.rewardQuota)).getD 0

theorem book_record {k : String} (h : e.book existing db = .ok db') (hk : k ≠ e.topUp.tradeNo) (hnone : db.record k = none) :
    db'.record k = none := by
  rw [RebateDb.record, lookup_eq_none] at hnone ⊢
  intro r hr
  rcases (book_cases h).2.2 with ⟨r₀, -, hrecords⟩ | ⟨-, hrecords⟩
  · rw [hrecords, mem_updateKey] at hr
    rcases hr with ⟨hr, -⟩ | ⟨q, hq, -, rfl⟩
    · exact hnone r hr
    · simp only [overwrite, setNonzero]
      split
      · exact hnone q hq
      · exact hk.symm
  · rw [hrecords, mem_append, mem_singleton] at hr
    rcases hr with hr | rfl
    · exact hnone r hr
    · exact hk.symm

/-- **Entries are booked** if every inviter is there and none is to give anything back. -/
theorem bookEntries_ok (hd : (entries.map (·.topUp.tradeNo)).Nodup) (hraise : ∀ e ∈ entries, e.paid existing ≤ e.rewardQuota)
    (hinviter : ∀ e ∈ entries, (db.user e.inviterId).isSome)
    (hnew : ∀ e ∈ entries, e.row existing = none → db.record e.topUp.tradeNo = none) :
    ∃ db', bookEntries existing entries db = .ok db' := by
  induction entries generalizing db with
  | nil => exact ⟨db, rfl⟩
  | cons e entries ih =>
    rw [forall_mem_cons] at hraise hinviter hnew
    have hbook : ∃ db₁, e.book existing db = .ok db₁ := by
      obtain ⟨u, hu⟩ := Option.isSome_iff_exists.1 hinviter.1
      unfold book
      rw [hu]
      dsimp only
      split
      next hneg => exact absurd hneg.1 (not_lt.2 (sub_nonneg.2 hraise.1))
      next =>
        split
        · exact ⟨_, rfl⟩
        next hrow =>
          split
          next hsome =>
            rw [RebateDb.record, adjust_records, ← RebateDb.record, hnew.1 hrow] at hsome
            cases hsome
          next => exact ⟨_, rfl⟩
    obtain ⟨db₁, hbook⟩ := hbook
    rw [map_cons, nodup_cons] at hd
    obtain ⟨db', hrest⟩ := @ih db₁ hd.2 hraise.2
      (fun q hq => by rw [(book_cases hbook).2.1.user_isSome]; exact hinviter.2 q hq)
      (fun q hq hrow => book_record hbook (fun heq => hd.1 (heq ▸ mem_map_of_mem hq)) (hnew.2 q hq hrow))
    exact ⟨db', by rw [bookEntries, hbook]; exact hrest⟩

theorem bookEntries_inviters (h : bookEntries existing entries db = .ok db') :
    ∀ e ∈ entries, (db.user e.inviterId).isSome := by
  induction entries generalizing db with
  | nil => intro e he; cases he
  | cons q entries ih =>
    obtain ⟨db₁, hbook, h⟩ := bind_ok h
    intro e he
    rcases mem_cons.1 he with rfl | he
    · exact (book_cases hbook).1
    · rw [← (book_cases hbook).2.1.user_isSome]
      exact ih h e he

end Replay

/-! ## When a replay changes nothing -/

section Unchanged

variable {s : RebateSite} {settledAt : String → Int} {db db' : RebateDb} {ts : List TopUpRow} {t : TopUpRow}

/-- A replay overwrites the time of the settlement. -/
theorem overwrite_settled (e : AffiliateBackfillEntry) (now id : Int) :
    e.overwrite (e.settled now id) = e.settled (setNonzero 0 e.topUp.paidAt now) id := by
  simp [overwrite, settled, AffiliateBackfillEntry.record]

theorem of_overwrite_eq {e : AffiliateBackfillEntry} {r : AffiliateRebateRecord} (hpos : 0 < e.inviteCount)
    (h : e.overwrite r = r) :
    r.effectiveInviteCount = e.inviteCount ∧ (e.topUp.paidAt = 0 ∨ r.createdAt = e.topUp.paidAt) := by
  have hcount : setNonzero 0 e.inviteCount r.effectiveInviteCount = r.effectiveInviteCount :=
    congrArg AffiliateRebateRecord.effectiveInviteCount h
  have hcreated : setNonzero 0 e.topUp.paidAt r.createdAt = r.createdAt :=
    congrArg createdAt h
  exact ⟨(setNonzero_eq_iff.1 hcount).resolve_left hpos.ne', setNonzero_eq_iff.1 hcreated⟩

theorem RebateDb.booked_nil (hempty : db.records = []) : db.Booked s settledAt ts [] db where
  same := .refl db
  ids := by rw [hempty]; exact nodup_nil
  trades := by rw [hempty]; rfl
  rows r hr := by rw [hempty] at hr; cases hr
  invitees := by rw [hempty]; rfl

theorem RebateDb.Booked.row (h : db.Booked s settledAt ts ts db') (hd : (ts.map (·.tradeNo)).Nodup) (ht : t ∈ ts)
    (hinvited : db.earns t) :
    ∃ r, lookup tradeNo t.tradeNo db'.records = some r ∧
      r = (entryOf s db.users db.refunds ts t).settled (settledAt t.tradeNo) r.id := by
  have hmem : t.tradeNo ∈ db'.records.map tradeNo := by
    rw [h.trades]
    exact mem_map_of_mem (mem_filter.2 ⟨ht, hinvited⟩)
  obtain ⟨q, hq, hkey⟩ := mem_map.1 hmem
  obtain ⟨r, hr⟩ := Option.isSome_iff_exists.1 (lookup_isSome hq hkey)
  obtain ⟨u, hu, hrow⟩ := h.rows r (mem_of_lookup hr)
  have htrade : u.tradeNo = t.tradeNo := (congrArg tradeNo hrow).symm.trans (key_of_lookup hr)
  obtain rfl : u = t := eq_of_key hd hu ht htrade
  exact ⟨r, hr, hrow⟩

theorem paidTopUps_perm : db.paidTopUps.Perm (db.topUps.filter fun t => t.status = .success) :=
  perm_insertionSort _ _

theorem RebateDb.Orders.nodup_perm (h : db.Orders) (hts : ts.Perm (db.topUps.filter fun t => t.status = .success)) :
    (ts.map (·.tradeNo)).Nodup :=
  (hts.map _).nodup_iff.2 (h.nodup.sublist (filter_sublist.map _))

def replayEntries (s : RebateSite) (db : RebateDb) : List AffiliateBackfillEntry :=
  (db.paidTopUps.filter (isInvitedTopUp db.users db.refunds)).map (entryOf s db.users db.refunds db.paidTopUps)

theorem replayEntries_nodup (horders : db.Orders) : ((replayEntries s db).map (·.topUp.tradeNo)).Nodup := by
  rw [replayEntries, map_map]
  exact (horders.nodup_perm paidTopUps_perm).sublist (filter_sublist.map _)

theorem backfillEntries_settled (horders : db.Orders) {entries : List AffiliateBackfillEntry} (hsame : db.SameOrders db') :
    backfillEntries s db'.users db'.refunds (fun _ => ∅) db'.paidTopUps = .ok entries ↔
      (∀ t ∈ db.paidTopUps, db.earns t → 0 < (entryOf s db.users db.refunds db.paidTopUps t).rewardQuota) ∧
        entries = replayEntries s db := by
  have hnone : paidInvitees db'.users db'.refunds [] = fun _ => ∅ := rfl
  rw [← hnone, hsame.paidTopUps, backfillEntries_ok_iff (by simpa using horders.nodup_perm paidTopUps_perm), nil_append,
    hsame.entryOf, hsame.isInvitedTopUp]
  rfl

section Settled

variable (hts : ts.Perm (db.topUps.filter fun t => t.status = .success))

include hts

theorem mem_paidTopUps : t ∈ db.paidTopUps ↔ t ∈ ts :=
  (paidTopUps_perm.trans hts.symm).mem_iff

theorem mem_topUps (ht : t ∈ ts) : t ∈ db.topUps :=
  mem_of_mem_filter (hts.mem_iff.1 ht)

theorem mem_replayEntries (ht : t ∈ ts) (hinvited : db.earns t) :
    entryOf s db.users db.refunds db.paidTopUps t ∈ replayEntries s db :=
  mem_map_of_mem (mem_filter.2 ⟨(mem_paidTopUps hts).2 ht, hinvited⟩)

/-- **Where the replay changes nothing**, every order that earns a rebate was settled as the replay would settle it. -/
theorem settled_of_unchanged (horders : db.Orders) (hempty : db.records = [])
    (hbook : bookEntries (settleAll s settledAt ts db).records (replayEntries s db) (settleAll s settledAt ts db) =
      .ok (settleAll s settledAt ts db)) (ht : t ∈ ts) (hinvited : db.earns t) :
    s.enabled ∧ (t.paidAt = 0 ∨ settledAt t.tradeNo = t.paidAt) ∧
      inviteCount db.users db.refunds ts t = inviteCount db.users db.refunds db.paidTopUps t := by
  have hd := horders.nodup_perm hts
  have hfound := bookEntries_found hbook rfl
  have hbooked : db.Booked s settledAt ts ts (settleAll s settledAt ts db) := by
    refine settleAll_booked horders (booked_nil hempty) rfl hd (fun _ => mem_topUps hts) fun u hu hinv => .inr ?_
    obtain ⟨r, hr⟩ := hfound _ (mem_replayEntries hts hu hinv)
    have hkey : r.tradeNo = u.tradeNo := key_of_lookup hr
    rw [← hkey]
    exact mem_map_of_mem (mem_of_lookup hr)
  have hentries : ((replayEntries s db).map (·.topUp.tradeNo)).Nodup := replayEntries_nodup horders
  obtain ⟨r, hr, hrow⟩ := hbooked.row hd ht hinvited
  have hmem := mem_of_lookup hr
  have hover := bookEntries_row hbooked.ids hentries hfound hbook (mem_replayEntries hts ht hinvited) hr
  rw [lookup_of_nodup hbooked.ids hmem] at hover
  obtain ⟨hcount, hcreated⟩ := of_overwrite_eq inviteCount_pos (Option.some.inj hover).symm
  rw [hrow] at hcount hcreated
  refine ⟨?_, hcreated, hcount⟩
  by_contra hdisabled
  have hnone : settleAll s settledAt ts db = db := run_inv (I := fun db' => db' = db)
    (fun _ _ h => (settleAt_disabled (Bool.eq_false_iff.2 hdisabled)).trans h) ts rfl
  rw [hnone, hempty] at hmem
  cases hmem

/-- **Orders that were settled as the replay would settle them** are left as they are. -/
theorem unchanged_of_settled (horders : db.Orders) (hempty : db.records = [])
    (hpos : ∀ t ∈ db.paidTopUps, db.earns t → 0 < (entryOf s db.users db.refunds db.paidTopUps t).rewardQuota)
    (hcond : ∀ t ∈ ts, db.earns t →
      s.enabled ∧ (t.paidAt = 0 ∨ settledAt t.tradeNo = t.paidAt) ∧
        inviteCount db.users db.refunds ts t = inviteCount db.users db.refunds db.paidTopUps t)
    (hbook : bookEntries (settleAll s settledAt ts db).records (replayEntries s db) (settleAll s settledAt ts db) =
      .ok db') : db' = settleAll s settledAt ts db := by
  have hd := horders.nodup_perm hts
  have hsameEntry : ∀ t ∈ ts, db.earns t →
      entryOf s db.users db.refunds ts t = entryOf s db.users db.refunds db.paidTopUps t := by
    intro t ht hinvited
    rw [entryOf, entryOf, (hcond t ht hinvited).2.2]
  have hbooked : db.Booked s settledAt ts ts (settleAll s settledAt ts db) := by
    refine settleAll_booked horders (booked_nil hempty) rfl hd (fun _ => mem_topUps hts) fun u hu hinv => .inl ?_
    refine ⟨(hcond u hu hinv).1, ?_, ?_⟩
    · rw [← (settleAll_same ts : db.SameOrders (settleAll s settledAt ts db)).user_isSome]
      exact bookEntries_inviters hbook _ (mem_replayEntries hts hu hinv)
    · rw [hsameEntry u hu hinv]
      exact hpos u ((mem_paidTopUps hts).2 hu) hinv
  refine bookEntries_unchanged hbooked.ids (fun e he => ?_) hbook
  obtain ⟨t, ht, rfl⟩ := mem_map.1 he
  obtain ⟨ht, hinvited⟩ := mem_filter.1 ht
  have ht' := (mem_paidTopUps hts).1 ht
  obtain ⟨r, hr, hrow⟩ := hbooked.row hd ht' hinvited
  rw [hsameEntry t ht' hinvited] at hrow
  refine ⟨r, hr, by rw [hrow]; rfl, ?_⟩
  have htime : setNonzero 0 t.paidAt (settledAt t.tradeNo) = settledAt t.tradeNo :=
    setNonzero_eq_iff.2 (hcond t ht' hinvited).2.1
  rw [hrow, overwrite_settled]
  exact congrArg (fun now => (entryOf s db.users db.refunds db.paidTopUps t).settled now r.id) htime

end Settled

/-- An order at which the replay gives up: its rebate is not positive, or its inviter has no row. -/
def RebateDb.Unpayable (s : RebateSite) (db : RebateDb) (t : TopUpRow) : Prop :=
  isInvitedTopUp db.users db.refunds t = true ∧
    ((entryOf s db.users db.refunds db.paidTopUps t).rewardQuota ≤ 0 ∨ db.user (inviterByUser db.users t.userId) = none)

/-- **A replay after the settlements changes nothing if it gives up at an order, or if every order that earns a rebate was
settled while the program was enabled, at its time of payment and after as many invitees as in the order of the replay.** If
no order has more in the ledger than the replay gives it, this is also needed. -/
theorem backfill_unchanged_iff (s : RebateSite) (settledAt : String → Int) (horders : db.Orders)
    (hempty : db.records = []) (hts : ts.Perm (db.topUps.filter fun t => t.status = .success)) :
    let replayed := (backfillAffiliateMilestoneRebates s (settleAll s settledAt ts db)).2
    let cond := (∃ t ∈ ts, db.Unpayable s t) ∨
      ∀ t ∈ ts, isInvitedTopUp db.users db.refunds t = true →
        s.enabled = true ∧ (t.paidAt = 0 ∨ settledAt t.tradeNo = t.paidAt) ∧
          inviteCount db.users db.refunds ts t = inviteCount db.users db.refunds db.paidTopUps t
    (cond → replayed = settleAll s settledAt ts db) ∧
      ((∀ e ∈ replayEntries s db, e.paid (settleAll s settledAt ts db).records ≤ e.rewardQuota) →
        replayed = settleAll s settledAt ts db → cond) := by
  have hsame : db.SameOrders (settleAll s settledAt ts db) := settleAll_same ts
  rcases backfill_cases s (settleAll s settledAt ts db) with ⟨err, h⟩ | ⟨entries, db', hentries, hbook, h⟩
  · refine ⟨fun _ => by rw [h], fun hraise _ => ?_⟩
    -- such a replay gives up at an order
    by_contra hcond
    have hok : ∀ t ∈ db.paidTopUps, db.earns t → 0 < (entryOf s db.users db.refunds db.paidTopUps t).rewardQuota ∧
        (db.user (inviterByUser db.users t.userId)).isSome := by
      intro t ht hearns
      have hpayable := fun h => hcond (.inl ⟨t, (mem_paidTopUps hts).1 ht, hearns, h⟩)
      exact ⟨not_le.1 fun h => hpayable (.inl h), Option.isSome_iff_ne_none.2 fun h => hpayable (.inr h)⟩
    have hentries := (backfillEntries_settled horders hsame).2 ⟨fun t ht h => (hok t ht h).1, rfl⟩
    obtain ⟨db', hbook⟩ := bookEntries_ok (replayEntries_nodup horders) hraise (fun e he => by
      obtain ⟨t, ht, rfl⟩ := mem_map.1 he
      rw [hsame.user_isSome]
      exact (hok t (mem_of_mem_filter ht) (mem_filter.1 ht).2).2) fun _ _ h => h
    rw [backfillAffiliateMilestoneRebates, hentries] at h
    dsimp only at h
    rw [hbook] at h
    cases congrArg Prod.fst h
  · obtain ⟨hpos, rfl⟩ := (backfillEntries_settled horders hsame).1 hentries
    rw [h]
    constructor
    · rintro (⟨t, ht, hearns, hbad⟩ | hcond)
      · rcases hbad with hbad | hbad
        · exact absurd (hpos t ((mem_paidTopUps hts).2 ht) hearns) (not_lt.2 hbad)
        · have hinviter := bookEntries_inviters hbook _ (mem_replayEntries hts ht hearns)
          rw [hsame.user_isSome] at hinviter
          exact absurd hinviter (by simp [entryOf, AffiliateBackfillEntry.of, hbad])
      · exact unchanged_of_settled hts horders hempty hpos hcond hbook
    · intro _ hunchanged
      obtain rfl : db' = settleAll s settledAt ts db := hunchanged
      exact .inr fun t ht hinvited => settled_of_unchanged hts horders hempty hbook ht hinvited

end Unchanged

namespace Sample

/-- An order of 100 CNY by an invitee. -/
def rebateOrder (id userId : Int) (tradeNo provider : String) (createTime completeTime : Int) : TopUpRow :=
  { topUpRow provider with
    id := id
    userId := userId
    tradeNo := tradeNo
    money := 100
    createTime := createTime
    completeTime := completeTime
    status := .success }

def rebateUser (inviterId id : Int) : InvitedUser := ⟨⟨⟨id, 0, "default"⟩, 0, 0, 0⟩, inviterId⟩

def rebateSite : RebateSite := ⟨topUpSite.setting, true⟩

/-- Four invitees have paid with Alipay. A fifth starts a payment with Epay and completes it after the second payment of
the first invitee, also with Epay, which was started later. -/
def rebateOrders : List TopUpRow :=
  [rebateOrder 1 2 "A" "alipay_direct" 91 101, rebateOrder 2 3 "B" "alipay_direct" 92 102,
    rebateOrder 3 4 "C" "alipay_direct" 93 103, rebateOrder 4 5 "D" "alipay_direct" 94 104,
    rebateOrder 6 2 "F" "epay" 300 0, rebateOrder 5 6 "E" "epay" 200 0]

def rebateDb (orders : List TopUpRow) : RebateDb :=
  ⟨orders, rebateUser 0 1 :: [2, 3, 4, 5, 6].map (rebateUser 1), [], []⟩

/-- The orders are settled at once when they are completed. -/
def rebateSettledAt (tradeNo : String) : Int :=
  if tradeNo = "A" then 101 else if tradeNo = "B" then 102 else if tradeNo = "C" then 103
  else if tradeNo = "D" then 104 else if tradeNo = "F" then 350 else 400

end Sample

open Sample

/-- The four orders with a stored time of payment. -/
theorem backfill_unchanged_alipay :
    (backfillAffiliateMilestoneRebates rebateSite (settleAll rebateSite rebateSettledAt
        (rebateOrders.take 4) (rebateDb (rebateOrders.take 4)))).2 =
      settleAll rebateSite rebateSettledAt (rebateOrders.take 4)
        (rebateDb (rebateOrders.take 4)) :=
  (backfill_unchanged_iff rebateSite rebateSettledAt ⟨by decide +kernel, by decide +kernel, by decide +kernel⟩
    (by decide +kernel) (by decide +kernel)).1 (.inr (by decide +kernel))

/-- **Epay orders are replayed in another order**: the second payment of the first invitee was settled at the rate for
four invitees, and the replay raises it to the rate for five and pays the difference. -/
theorem backfill_changes_epay :
    let settled := settleAll rebateSite rebateSettledAt rebateOrders
      (rebateDb rebateOrders)
    let replayed := backfillAffiliateMilestoneRebates rebateSite settled
    replayed.1 = .ok () ∧ (settled.record "F").map (·.rateBPS) = some 800 ∧
      (replayed.2.record "F").map (·.rateBPS) = some 1000 ∧
        (settled.user 1).map (·.affQuota) ≠ (replayed.2.user 1).map (·.affQuota) := by
  decide +kernel

end SynthApi
