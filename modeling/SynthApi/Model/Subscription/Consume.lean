import SynthApi.Lib.Transaction
import SynthApi.Lib.Run
import SynthApi.Model.Quota
import SynthApi.Model.Subscription.Basic

/-!
# Charging a subscription

`PreConsumeUserSubscription`, `PostConsumeUserSubscriptionDelta`, `RefundSubscriptionPreConsume` and the reset of due
subscriptions (`model/subscription.go`), each a transaction. `SubOp` is the alphabet of their histories and `subStep`
one transaction of a history.

What each transaction can do is said once: a pre-consumption answers from the request's record, or charges one
eligible row after resetting it, and records the charge (`preConsumeTx_cases`); a delta rewrites the used amount of one
row (`postConsumeRun_spec`); a refund gives back a recorded charge once (`refundTx_cases`).
-/

namespace SynthApi

open Lib Lib.Go Table

/-! ## Records -/

namespace Store

/-- `tx.Create(record)` -/
def createRecord (st : Store) (record : SubscriptionPreConsumeRecord) : Store :=
  { st with preConsumeRecords := st.preConsumeRecords ++ [record] }

/-- `tx.Save(&record)`; the request id is a unique key. -/
def saveRecord (st : Store) (record : SubscriptionPreConsumeRecord) : Store :=
  { st with preConsumeRecords :=
      Table.updateKey SubscriptionPreConsumeRecord.requestId record.requestId (fun _ => record) st.preConsumeRecords }

def record (st : Store) (requestId : String) : Option SubscriptionPreConsumeRecord :=
  Table.lookup SubscriptionPreConsumeRecord.requestId requestId st.preConsumeRecords

section Records

variable {st : Store} {r : SubscriptionPreConsumeRecord} {requestId : String}

theorem record_create (h : st.record r.requestId = none) : (st.createRecord r).record r.requestId = some r := by
  simp only [record, createRecord] at h ⊢
  rw [lookup_append, h]
  simp [lookup_cons]

theorem record_create_ne (h : requestId ≠ r.requestId) : (st.createRecord r).record requestId = st.record requestId := by
  simp only [record, createRecord, lookup_append, lookup_cons, h.symm, if_false, lookup_nil,
    Option.or_none]

theorem record_save (h : (st.record r.requestId).isSome) : (st.saveRecord r).record r.requestId = some r := by
  obtain ⟨old, ho⟩ := Option.isSome_iff_exists.1 h
  simp only [record, saveRecord] at ho ⊢
  rw [lookup_updateKey (fun _ _ => rfl), ho]
  rfl

theorem record_save_ne (h : requestId ≠ r.requestId) : (st.saveRecord r).record requestId = st.record requestId :=
  lookup_updateKey_ne (fun _ _ => rfl) h

end Records

end Store

/-! ## Pre-consumption -/

structure SubscriptionPreConsumeResult where
  userSubscriptionId : Int
  preConsumed : Int
  billingDiscount : ℚ
  amountTotal : Int
  amountUsedBefore : Int
  amountUsedAfter : Int
  deriving DecidableEq, Repr

/-- The loop over the eligible rows: the first one whose remaining amount covers the charge is charged. A skipped row
keeps the reset it got. -/
def preConsumeFrom (e : Env) (requestId : String) (userId amount : Int) : List UserSubscription → Store →
    Except (Halt String) (SubscriptionPreConsumeResult × Store)
  | [], _ => .error (.error ("subscription quota insufficient, need=" ++ toString amount))
  | candidate :: subs, st =>
    match getSubscriptionPlanById e candidate.planId with
    | .error err => .error (.error err)
    | .ok plan =>
      match maybeResetUserSubscriptionWithPlanTx e st candidate plan e.dbNow with
      | none => .error .diverge
      | some (sub, st) =>
        let discount := getUserSubscriptionBillingDiscount e sub
        let discountedAmount := applySubscriptionBillingDiscount amount discount
        if 0 < sub.amountTotal ∧ wrap64 (sub.amountTotal - sub.amountUsed) < discountedAmount then
          preConsumeFrom e requestId userId amount subs st
        else
          let charged := { sub with amountUsed := wrap64 (sub.amountUsed + discountedAmount) }
          .ok (⟨sub.id, discountedAmount, discount, sub.amountTotal, sub.amountUsed, charged.amountUsed⟩,
            (st.createRecord ⟨requestId, userId, sub.id, discountedAmount, .consumed⟩).saveSubscription charged)

/-- The rows the loop of a pre-consumption goes through. -/
def preConsumeCandidates (e : Env) (userId : Int) (st : Store) : List UserSubscription :=
  (eligibleActiveUserSubscriptions st userId (getUserGroupById st userId) e.dbNow).insertionSort
    UserSubscription.endsBefore

def preConsumeTx (e : Env) (requestId : String) (userId amount : Int) (st : Store) :
    Except (Halt String) (SubscriptionPreConsumeResult × Store) :=
  match st.record requestId with
  | some existing =>
    if existing.status = .refunded then .error (.error "subscription pre-consume already refunded")
    else
      match st.subscription existing.userSubscriptionId with
      | none => .error (.error "record not found")
      | some sub =>
        .ok (⟨sub.id, existing.preConsumed, getUserSubscriptionBillingDiscount e sub, sub.amountTotal, sub.amountUsed,
          sub.amountUsed⟩, st)
  | none =>
    let subs := preConsumeCandidates e userId st
    if subs.isEmpty then .error (.error "no active subscription") else preConsumeFrom e requestId userId amount subs st

/-- Pre-consume `amount` from one of the user's active subscriptions, once for each request id. -/
def preConsumeUserSubscription (e : Env) (requestId : String) (userId amount : Int) (st : Store) :
    Except (Halt String) SubscriptionPreConsumeResult × Store :=
  if userId ≤ 0 then (.error (.error "invalid userId"), st)
  else if trimSpace requestId = "" then (.error (.error "requestId is empty"), st)
  else if amount ≤ 0 then (.error (.error "amount must be > 0"), st)
  else transaction (e.fails .preConsumeUserSubscription) (preConsumeTx e requestId userId amount) st

/-! ## Deltas and refunds -/

/-- The delta that a request's delta makes on the row. -/
def UserSubscription.appliedDelta (e : Env) (applyDiscount : Bool) (delta : Int) (sub : UserSubscription) : Int :=
  if applyDiscount then applySubscriptionBillingDiscount delta (getUserSubscriptionBillingDiscount e sub) else delta

/-- The used amount after a delta, not below 0. -/
def UserSubscription.usedAfter (applied : Int) (sub : UserSubscription) : Int :=
  let newUsed := wrap64 (sub.amountUsed + applied)
  if newUsed < 0 then 0 else newUsed

/-- The closure `run` of `postConsumeUserSubscriptionDeltaTx`, which answers the delta it applied. -/
def postConsumeRun (e : Env) (applyDiscount : Bool) (userSubscriptionId delta : Int) (st : Store) :
    Except (Halt String) (Int × Store) :=
  match st.subscription userSubscriptionId with
  | none => .error (.error "record not found")
  | some sub =>
    let appliedDelta := sub.appliedDelta e applyDiscount delta
    let newUsed := sub.usedAfter appliedDelta
    if 0 < sub.amountTotal ∧ sub.amountTotal < newUsed then
      .error (.error ("subscription used exceeds total, used=" ++ toString newUsed ++ " total=" ++
        toString sub.amountTotal))
    else .ok (appliedDelta, st.saveSubscription { sub with amountUsed := newUsed })

def postConsumeUserSubscriptionDeltaTx (e : Env) (applyDiscount : Bool) (userSubscriptionId delta : Int) (st : Store) :
    Except (Halt String) (Int × Store) :=
  if userSubscriptionId ≤ 0 then .error (.error "invalid userSubscriptionId")
  else if delta = 0 then .ok (0, st)
  else postConsumeRun e applyDiscount userSubscriptionId delta st

/-- Add a discounted delta to the used amount, in a transaction of its own. -/
def postConsumeUserSubscriptionDelta (e : Env) (userSubscriptionId delta : Int) (st : Store) :
    Except (Halt String) Int × Store :=
  if userSubscriptionId ≤ 0 then (.error (.error "invalid userSubscriptionId"), st)
  else if delta = 0 then (.ok 0, st)
  else
    transaction (e.fails .postConsumeUserSubscriptionDelta) (postConsumeRun e true userSubscriptionId delta) st

def refundTx (e : Env) (requestId : String) (st : Store) : Except (Halt String) (Unit × Store) :=
  match st.record requestId with
  | none => .error (.error "record not found")
  | some record =>
    if record.status = .refunded then .ok ((), st)
    else if record.preConsumed ≤ 0 then .ok ((), st.saveRecord { record with status := .refunded })
    else
      match postConsumeUserSubscriptionDeltaTx e false record.userSubscriptionId (-record.preConsumed) st with
      | .error err => .error err
      | .ok (_, st) => .ok ((), st.saveRecord { record with status := .refunded })

/-- Give back the charge of a request; `attempt` numbers the retries of the caller. -/
def refundSubscriptionPreConsume (e : Env) (attempt : Nat) (requestId : String) (st : Store) :
    Except (Halt String) Unit × Store :=
  if trimSpace requestId = "" then (.error (.error "requestId is empty"), st)
  else transaction (e.fails (.refundSubscriptionPreConsume attempt)) (refundTx e requestId) st

/-! ## Due resets -/

def Store.dueRow (st : Store) (now id : Int) : Option UserSubscription :=
  st.userSubscriptions.find? fun s => s.id = id && 0 < s.nextResetTime && s.nextResetTime ≤ now

/-- One round of the loop of `ResetDueSubscriptions`: the row is read again and reset if it is still due. -/
def resetTx (e : Env) (plan : SubscriptionPlan) (id : Int) (st : Store) : Except (Halt String) (Unit × Store) :=
  match st.dueRow e.dbNow id with
  | none => .ok ((), st)
  | some locked =>
    match maybeResetUserSubscriptionWithPlanTx e st locked plan e.dbNow with
    | none => .error .diverge
    | some (_, st) => .ok ((), st)

/-- The transaction for one due row; a plan that is not found is skipped. -/
def resetDueSubscription (e : Env) (sub : UserSubscription) (st : Store) : Except (Halt String) Unit × Store :=
  match getSubscriptionPlanById e sub.planId with
  | .error _ => (.ok (), st)
  | .ok plan => transaction (e.fails .resetDueSubscriptions) (resetTx e plan sub.id) st

/-! ## What the transactions leave alone -/

/-- `st'` has the users, tokens and pending quota of `st`, and a row for each of its subscriptions. -/
structure SubFrame (st st' : Store) : Prop where
  users : st'.users = st.users
  tokens : st'.tokens = st.tokens
  batchUpdateEnabled : st'.batchUpdateEnabled = st.batchUpdateEnabled
  userQuotaStore : st'.userQuotaStore = st.userQuotaStore
  tokenQuotaStore : st'.tokenQuotaStore = st.tokenQuotaStore
  ids : st'.userSubscriptions.map (·.id) = st.userSubscriptions.map (·.id)

namespace SubFrame

variable {st st' st'' : Store}

theorem refl (st : Store) : SubFrame st st := ⟨rfl, rfl, rfl, rfl, rfl, rfl⟩

variable (h : SubFrame st st')

include h

theorem trans (h' : SubFrame st' st'') : SubFrame st st'' :=
  ⟨h'.users.trans h.users, h'.tokens.trans h.tokens, h'.batchUpdateEnabled.trans h.batchUpdateEnabled,
    h'.userQuotaStore.trans h.userQuotaStore, h'.tokenQuotaStore.trans h.tokenQuotaStore, h'.ids.trans h.ids⟩

theorem save (sub : UserSubscription) : SubFrame st (st'.saveSubscription sub) := by
  refine h.trans ⟨rfl, rfl, rfl, rfl, rfl, ?_⟩
  exact map_updateKey fun _ h => h.symm

theorem wallet (id : Int) : st'.wallet id = st.wallet id := by
  simp only [Store.wallet, h.users, h.userQuotaStore]

theorem tokenRemain (id : Int) : st'.tokenRemain id = st.tokenRemain id := by
  simp only [Store.tokenRemain, h.tokens, h.tokenQuotaStore]

theorem subscription_isSome {id : Int} (hs : (st.subscription id).isSome) : (st'.subscription id).isSome := by
  obtain ⟨sub, hsub⟩ := Option.isSome_iff_exists.1 hs
  have hmem : id ∈ st'.userSubscriptions.map (·.id) := by
    rw [h.ids, List.mem_map]
    exact ⟨sub, mem_of_lookup hsub, key_of_lookup hsub⟩
  obtain ⟨sub', hsub', hid⟩ := List.mem_map.1 hmem
  exact lookup_isSome hsub' hid

end SubFrame

/-! ## What the transactions can do -/

section Cases

variable {e : Env} {requestId : String} {userId amount : Int} {st st' : Store}

/-- The loop has reset the rows `subs` on its way. -/
def Skips (e : Env) : List UserSubscription → Store → Store → Prop
  | [], st, st' => st' = st
  | sub :: subs, st, st' => ∃ plan sub' st₁, getSubscriptionPlanById e sub.planId = .ok plan ∧
      maybeResetUserSubscriptionWithPlanTx e st sub plan e.dbNow = some (sub', st₁) ∧ Skips e subs st₁ st'

/-- What the loop does to the row it charges: `sub` is the row after its reset. -/
structure Charges (e : Env) (requestId : String) (userId amount : Int) (candidate : UserSubscription) (st st' : Store)
    (res : SubscriptionPreConsumeResult) (plan : SubscriptionPlan) (sub : UserSubscription) (st₁ : Store) : Prop where
  found : getSubscriptionPlanById e candidate.planId = .ok plan
  reset : maybeResetUserSubscriptionWithPlanTx e st candidate plan e.dbNow = some (sub, st₁)
  charge : res.preConsumed = applySubscriptionBillingDiscount amount (getUserSubscriptionBillingDiscount e sub)
  target : res.userSubscriptionId = sub.id
  covered : 0 < sub.amountTotal → res.preConsumed ≤ wrap64 (sub.amountTotal - sub.amountUsed)
  store : st' = (st₁.createRecord ⟨requestId, userId, sub.id, res.preConsumed, .consumed⟩).saveSubscription
    { sub with amountUsed := wrap64 (sub.amountUsed + res.preConsumed) }

variable {res : SubscriptionPreConsumeResult}

/-- **The loop** skips some rows and charges the next one. -/
theorem preConsumeFrom_cases {subs : List UserSubscription}
    (h : preConsumeFrom e requestId userId amount subs st = .ok (res, st')) :
    ∃ skipped candidate rest st₀ plan sub st₁, subs = skipped ++ candidate :: rest ∧ Skips e skipped st st₀ ∧
      Charges e requestId userId amount candidate st₀ st' res plan sub st₁ := by
  induction subs generalizing st with
  | nil => cases h
  | cons candidate subs ih =>
    rw [preConsumeFrom] at h
    cases hp : getSubscriptionPlanById e candidate.planId with
    | error err => rw [hp] at h; cases h
    | ok plan =>
      cases hr : maybeResetUserSubscriptionWithPlanTx e st candidate plan e.dbNow with
      | none => simp only [hp, hr] at h; cases h
      | some r =>
        obtain ⟨sub, st₁⟩ := r
        simp only [hp, hr] at h
        split at h
        · obtain ⟨skipped, c, rest, st₀, plan', sub', st₂, rfl, hs, hc⟩ := ih h
          exact ⟨candidate :: skipped, c, rest, st₀, plan', sub', st₂, rfl, ⟨plan, sub, st₁, hp, hr, hs⟩, hc⟩
        · rename_i hg
          cases h
          refine ⟨[], candidate, subs, st, plan, sub, st₁, rfl, rfl, hp, hr, rfl, rfl, fun ht => ?_, rfl⟩
          exact not_lt.mp fun hlt => hg ⟨ht, hlt⟩

theorem mem_preConsumeCandidates {sub : UserSubscription} (h : sub ∈ preConsumeCandidates e userId st) :
    sub ∈ st.userSubscriptions := by
  rw [preConsumeCandidates, List.mem_insertionSort] at h
  exact (List.mem_filter.1 h).1

/-- **A pre-consumption** answers from the record of the request, or goes through the eligible rows. -/
theorem preConsumeTx_cases
    (h : preConsumeTx e requestId userId amount st = .ok (res, st')) :
    (∃ r sub, st.record requestId = some r ∧ r.status = .consumed ∧ st.subscription r.userSubscriptionId = some sub ∧
        res.userSubscriptionId = sub.id ∧ res.preConsumed = r.preConsumed ∧ st' = st) ∨
      (st.record requestId = none ∧
        preConsumeFrom e requestId userId amount (preConsumeCandidates e userId st) st = .ok (res, st')) := by
  unfold preConsumeTx at h
  cases hr : st.record requestId with
  | some r =>
    simp only [hr] at h
    split at h
    · cases h
    · have hc : r.status = .consumed := by cases hs : r.status <;> simp_all
      cases hs : st.subscription r.userSubscriptionId with
      | none => simp only [hs] at h; cases h
      | some sub => simp only [hs] at h; cases h; exact .inl ⟨r, sub, rfl, hc, hs, rfl, rfl, rfl⟩
  | none =>
    simp only [hr] at h
    split at h
    · cases h
    · exact .inr ⟨rfl, h⟩

theorem preConsume_ok
    (h : preConsumeUserSubscription e requestId userId amount st = (.ok res, st')) :
    0 < amount ∧ preConsumeTx e requestId userId amount st = .ok (res, st') := by
  unfold preConsumeUserSubscription at h
  split_ifs at h with h₁ h₂ h₃
  · cases h
  · cases h
  · cases h
  · exact ⟨by omega, (transaction_ok h).2⟩

theorem preConsume_error {err : Halt String}
    (h : preConsumeUserSubscription e requestId userId amount st = (.error err, st')) : st' = st := by
  unfold preConsumeUserSubscription at h
  split_ifs at h with h₁ h₂ h₃
  · cases h; rfl
  · cases h; rfl
  · cases h; rfl
  · exact transaction_error h

theorem usedAfter_nonneg (applied : Int) (sub : UserSubscription) : 0 ≤ sub.usedAfter applied := by
  unfold UserSubscription.usedAfter
  dsimp only
  split_ifs <;> omega

/-- **A delta** rewrites the used amount of its row, within the row's total. -/
theorem postConsumeRun_spec {applyDiscount : Bool} {id delta applied : Int}
    (h : postConsumeRun e applyDiscount id delta st = .ok (applied, st')) :
    ∃ sub, st.subscription id = some sub ∧ applied = sub.appliedDelta e applyDiscount delta ∧
      (0 < sub.amountTotal → sub.usedAfter applied ≤ sub.amountTotal) ∧
      st' = st.saveSubscription { sub with amountUsed := sub.usedAfter applied } := by
  unfold postConsumeRun at h
  cases hs : st.subscription id with
  | none => simp only [hs] at h; cases h
  | some sub =>
    simp only [hs] at h
    split at h
    · cases h
    · rename_i hg
      cases h
      exact ⟨sub, rfl, rfl, fun ht => not_lt.mp fun hlt => hg ⟨ht, hlt⟩, rfl⟩

/-- **A refund** finds its request refunded, or gives the recorded charge back and marks the record. -/
theorem refundTx_cases {u : Unit} (h : refundTx e requestId st = .ok (u, st')) :
    ∃ r, st.record requestId = some r ∧ ((r.status = .refunded ∧ st' = st) ∨
      (r.status = .consumed ∧ r.preConsumed ≤ 0 ∧ st' = st.saveRecord { r with status := .refunded }) ∨
      (r.status = .consumed ∧ 0 < r.preConsumed ∧ ∃ applied st₁,
        postConsumeRun e false r.userSubscriptionId (-r.preConsumed) st = .ok (applied, st₁) ∧
        st' = st₁.saveRecord { r with status := .refunded })) := by
  unfold refundTx at h
  cases hr : st.record requestId with
  | none => simp only [hr] at h; cases h
  | some r =>
    refine ⟨r, rfl, ?_⟩
    simp only [hr] at h
    split at h
    · rename_i hs; cases h; exact .inl ⟨hs, rfl⟩
    · have hc : r.status = .consumed := by cases hs : r.status <;> simp_all
      split at h
      · rename_i hp; cases h; exact .inr (.inl ⟨hc, hp, rfl⟩)
      · cases hd : postConsumeUserSubscriptionDeltaTx e false r.userSubscriptionId (-r.preConsumed) st with
        | error err => simp only [hd] at h; cases h
        | ok d =>
          simp only [hd] at h
          cases h
          refine .inr (.inr ⟨hc, by omega, d.1, d.2, ?_, rfl⟩)
          unfold postConsumeUserSubscriptionDeltaTx at hd
          split_ifs at hd with h₁ h₂
          · omega
          · exact hd

end Cases

/-! ## What the transactions write -/

/-- What is made of a row: a reset, a charge that the rest of its total covers, or a delta within the total. -/
inductive RowWrite : UserSubscription → UserSubscription → Prop
  | reset {e st sub plan now sub' st'} (h : maybeResetUserSubscriptionWithPlanTx e st sub plan now = some (sub', st')) :
      RowWrite sub sub'
  | charge {sub d} (hd : 1 ≤ d) (hc : 0 < sub.amountTotal → d ≤ wrap64 (sub.amountTotal - sub.amountUsed)) :
      RowWrite sub { sub with amountUsed := wrap64 (sub.amountUsed + d) }
  | delta {sub applied} (h : 0 < sub.amountTotal → sub.usedAfter applied ≤ sub.amountTotal) :
      RowWrite sub { sub with amountUsed := sub.usedAfter applied }

/-- The stores that a transaction can leave: it writes rows that it has found, and records. -/
inductive SubWrites (st : Store) : Store → Prop
  | refl : SubWrites st st
  | save {mid old new} (h : SubWrites st mid) (hold : old ∈ st.userSubscriptions)
      (hrow : Relation.ReflTransGen RowWrite old new) : SubWrites st (mid.saveSubscription new)
  | records {mid} (h : SubWrites st mid) (records : List SubscriptionPreConsumeRecord) :
      SubWrites st { mid with preConsumeRecords := records }

section Writes

variable {e : Env} {requestId : String} {userId amount : Int} {st st' : Store} {plan : SubscriptionPlan}

theorem SubWrites.frame (h : SubWrites st st') : SubFrame st st' := by
  induction h with
  | refl => exact .refl st
  | save _ _ _ ih => exact ih.save _
  | records _ _ ih => exact ih.trans ⟨rfl, rfl, rfl, rfl, rfl, rfl⟩

theorem SubWrites.reset {mid : Store} {sub sub' : UserSubscription} {now : Int} (h : SubWrites st mid)
    (hsub : sub ∈ st.userSubscriptions)
    (hr : maybeResetUserSubscriptionWithPlanTx e mid sub plan now = some (sub', st')) : SubWrites st st' := by
  rcases (maybeReset_spec hr).1 with ⟨-, rfl⟩ | rfl
  · exact h
  · exact h.save hsub (.single (.reset hr))

/-- What the resets keep, the loop keeps. -/
theorem Skips.inv {I : Store → Prop} {subs : List UserSubscription} (h : Skips e subs st st')
    (hreset : ∀ sub ∈ subs, ∀ plan sub' s s',
      maybeResetUserSubscriptionWithPlanTx e s sub plan e.dbNow = some (sub', s') → I s → I s') (hst : I st) : I st' := by
  induction subs generalizing st with
  | nil => cases h; exact hst
  | cons sub subs ih =>
    obtain ⟨plan, sub', st₁, -, hr, hs⟩ := h
    exact ih hs (fun q hq => hreset q (by simp [hq])) (hreset sub (by simp) plan sub' st st₁ hr hst)

theorem preConsumeTx_writes {res : SubscriptionPreConsumeResult} (hpos : 0 < amount)
    (h : preConsumeTx e requestId userId amount st = .ok (res, st')) : SubWrites st st' := by
  rcases preConsumeTx_cases h with ⟨_, _, _, _, _, _, _, rfl⟩ | ⟨_, hloop⟩
  · exact .refl
  · obtain ⟨skipped, c, rest, st₀, plan, sub, st₁, hsubs, hskip, hc⟩ := preConsumeFrom_cases hloop
    have hrows : ∀ q ∈ skipped ++ c :: rest, q ∈ st.userSubscriptions := fun q hq =>
      mem_preConsumeCandidates (hsubs ▸ hq)
    have hw₀ := hskip.inv (fun q hq _ _ _ _ hr h => SubWrites.reset h (hrows q (by simp [hq])) hr) .refl
    have hw₁ := hw₀.reset (hrows c (by simp)) hc.reset
    have hd : 1 ≤ res.preConsumed := by rw [hc.charge]; exact one_le_apply _ hpos
    rw [hc.store]
    exact (hw₁.records _).save (hrows c (by simp)) (.tail (.single (.reset hc.reset)) (.charge hd hc.covered))

variable {id : Int} {u : Unit}

theorem postConsumeRun_writes {applyDiscount : Bool} {delta applied : Int}
    (h : postConsumeRun e applyDiscount id delta st = .ok (applied, st')) : SubWrites st st' := by
  obtain ⟨sub, hsub, -, hle, rfl⟩ := postConsumeRun_spec h
  exact SubWrites.refl.save (mem_of_lookup hsub) (.single (.delta hle))

theorem refundTx_writes (h : refundTx e requestId st = .ok (u, st')) : SubWrites st st' := by
  obtain ⟨r, -, ⟨-, rfl⟩ | ⟨-, -, rfl⟩ | ⟨-, -, applied, st₁, hrun, rfl⟩⟩ := refundTx_cases h
  · exact .refl
  · exact .records .refl _
  · exact (postConsumeRun_writes hrun).records _

variable (h : resetTx e plan id st = .ok (u, st'))

include h

/-- **A due reset** finds nothing to do, or resets a row of the table. -/
theorem resetTx_cases :
    (st.dueRow e.dbNow id = none ∧ st' = st) ∨ ∃ locked sub, st.dueRow e.dbNow id = some locked ∧
      locked ∈ st.userSubscriptions ∧ maybeResetUserSubscriptionWithPlanTx e st locked plan e.dbNow = some (sub, st') := by
  unfold resetTx at h
  cases hl : st.dueRow e.dbNow id with
  | none =>
    rw [hl] at h
    cases h
    exact .inl ⟨rfl, rfl⟩
  | some locked =>
    rw [hl] at h
    dsimp only at h
    cases hm : maybeResetUserSubscriptionWithPlanTx e st locked plan e.dbNow with
    | none => rw [hm] at h; cases h
    | some r =>
      rw [hm] at h
      cases h
      exact .inr ⟨locked, r.1, rfl, List.mem_of_find?_eq_some hl, hm⟩

theorem resetTx_writes : SubWrites st st' := by
  rcases resetTx_cases h with ⟨-, rfl⟩ | ⟨locked, sub, -, hmem, hm⟩
  · exact .refl
  · exact SubWrites.refl.reset hmem hm

end Writes

/-! ## Histories -/

/-- One transaction of a history, with what it gets from outside. -/
inductive SubOp where
  | preConsume (e : Env) (requestId : String) (userId amount : Int)
  | postConsume (e : Env) (userSubscriptionId delta : Int)
  | refund (e : Env) (attempt : Nat) (requestId : String)
  | reset (e : Env) (sub : UserSubscription)

def subStep (st : Store) : SubOp → Store
  | .preConsume e requestId userId amount => (preConsumeUserSubscription e requestId userId amount st).2
  | .postConsume e userSubscriptionId delta => (postConsumeUserSubscriptionDelta e userSubscriptionId delta st).2
  | .refund e attempt requestId => (refundSubscriptionPreConsume e attempt requestId st).2
  | .reset e sub => (resetDueSubscription e sub st).2

/-- **What a transaction of a history can do**: nothing, or what its body commits. -/
inductive SubEffect (st : Store) : SubOp → Store → Prop
  | same (op) : SubEffect st op st
  | preConsume {e requestId userId amount res st'} (hpos : 0 < amount)
      (h : preConsumeTx e requestId userId amount st = .ok (res, st')) :
      SubEffect st (.preConsume e requestId userId amount) st'
  | postConsume {e id delta applied st'} (h : postConsumeRun e true id delta st = .ok (applied, st')) :
      SubEffect st (.postConsume e id delta) st'
  | refund {e attempt requestId u st'} (h : refundTx e requestId st = .ok (u, st')) :
      SubEffect st (.refund e attempt requestId) st'
  | reset {e sub plan u st'} (h : resetTx e plan sub.id st = .ok (u, st')) : SubEffect st (.reset e sub) st'

theorem subStep_effect (st : Store) (op : SubOp) : SubEffect st op (subStep st op) := by
  cases op with
  | preConsume e requestId userId amount =>
    rw [subStep, preConsumeUserSubscription]
    split_ifs with _ _ hamount
    · exact .same _
    · exact .same _
    · exact .same _
    · exact transaction_inv (fun _ _ h => .preConsume (by omega) h) (.same _)
  | postConsume e id delta =>
    rw [subStep, postConsumeUserSubscriptionDelta]
    split_ifs
    · exact .same _
    · exact .same _
    · exact transaction_inv (fun _ _ h => .postConsume h) (.same _)
  | refund e attempt requestId =>
    rw [subStep, refundSubscriptionPreConsume]
    split_ifs
    · exact .same _
    · exact transaction_inv (fun _ _ h => .refund h) (.same _)
  | reset e sub =>
    rw [subStep, resetDueSubscription]
    split
    · exact .same _
    · exact transaction_inv (fun _ _ h => .reset h) (.same _)

theorem subStep_writes (st : Store) (op : SubOp) : SubWrites st (subStep st op) := by
  have heff := subStep_effect st op
  generalize subStep st op = st' at heff
  cases heff with
  | same => exact .refl
  | preConsume hpos h => exact preConsumeTx_writes hpos h
  | postConsume h => exact postConsumeRun_writes h
  | refund h => exact refundTx_writes h
  | reset h => exact resetTx_writes h

/-- **A transaction of a subscription** touches no wallet and no token, and no row appears or disappears. -/
theorem subStep_frame (st : Store) (op : SubOp) : SubFrame st (subStep st op) := (subStep_writes st op).frame

/-! ## A sample -/

namespace Sample

/-- A plan that resets every 1000 seconds. -/
def plan : SubscriptionPlan where
  id := 1
  title := "basic"
  priceAmount := 10
  billingDiscount := 1
  billingDiscountGroup := ""
  durationUnit := "custom"
  durationValue := 1
  customSeconds := 100000
  maxPurchasePerUser := 0
  upgradeGroup := ""
  totalAmount := 1000
  quotaResetPeriod := "custom"
  quotaResetCustomSeconds := 1000

/-- A subscription of user 1 that started at 1000. -/
def sub : UserSubscription where
  id := 1
  userId := 1
  planId := 1
  amountTotal := 1000
  amountUsed := 0
  billingDiscount := 1
  billingDiscountGroup := ""
  startTime := 1000
  endTime := 101000
  status := .active
  source := "order"
  lastResetTime := 1000
  nextResetTime := 2000
  upgradeGroup := ""
  prevUserGroup := ""

def store : Store where
  users := [⟨1, 100, "default"⟩]
  tokens := [⟨1, "sk", 100, 0, false⟩]
  userSubscriptions := [sub]
  preConsumeRecords := []
  batchUpdateEnabled := false
  userQuotaStore _ := 0
  tokenQuotaStore _ := 0

/-- A call at time `now`. -/
def env (now : Int) : Env := .quiet [plan] now

end Sample

end SynthApi
