import SynthApi.Lib.Go
import SynthApi.Lib.Run
import SynthApi.Lib.Transaction

/-!
# Refund reviews

A payment provider notifies the site of a refund, possibly often; `UpsertPaymentRefundReview` keeps one row for each order.
The first accepted notification says what the order is (`RefundReviewOrder`), and one that contradicts it is rolled back. In
every history the row has the largest amount and the number of the accepted notifications (`refund_review_summary`).
-/

namespace SynthApi

open Lib Lib.Go

/-- What the notifications of one order have to agree on. -/
structure RefundReviewOrder where
  providerTradeNo : String
  orderKind : String
  userId : Int
  amount : ℚ
  currency : String
  deriving DecidableEq

structure PaymentRefundReviewInput extends RefundReviewOrder where
  paymentProvider : String
  localTradeNo : String
  providerStatus : String
  refundAmount : ℚ
  providerRefundNo : String
  providerRefundedAt : String
  source : String

/-- A row; its payment provider and local trade number are the unique key of the table. -/
structure RefundReviewRow extends RefundReviewOrder where
  providerStatus : String
  refundAmount : ℚ
  providerRefundNo : String
  providerRefundedAt : String
  status : String
  firstNotifiedAt : Int
  lastNotifiedAt : Int
  notificationCount : Nat
  lastSource : String
  createdAt : Int
  updatedAt : Int

abbrev RefundReviews := String × String → Option RefundReviewRow

/-- A call, with its time and the error of the database if one of its statements fails. -/
structure RefundNotification where
  input : PaymentRefundReviewInput
  now : Int
  dbError : Option String

def PaymentRefundReviewInput.trim (input : PaymentRefundReviewInput) : PaymentRefundReviewInput where
  paymentProvider := trimSpace input.paymentProvider
  localTradeNo := trimSpace input.localTradeNo
  providerTradeNo := trimSpace input.providerTradeNo
  orderKind := trimSpace input.orderKind
  userId := input.userId
  amount := input.amount
  currency := toUpper (trimSpace input.currency)
  providerStatus := trimSpace input.providerStatus
  refundAmount := input.refundAmount
  providerRefundNo := trimSpace input.providerRefundNo
  providerRefundedAt := trimSpace input.providerRefundedAt
  source := trimSpace input.source

namespace RefundNotification

variable (n : RefundNotification)

def order : String × String := (n.input.trim.paymentProvider, n.input.trim.localTradeNo)

/-- The row after the INSERT, or after the update in place of it if there is one. -/
def write (row : Option RefundReviewRow) : RefundReviewRow :=
  let input := n.input.trim
  match row with
  | none =>
    { input with
      status := "pending_review"
      firstNotifiedAt := n.now
      lastNotifiedAt := n.now
      notificationCount := 1
      lastSource := input.source
      createdAt := n.now
      updatedAt := n.now }
  | some r =>
    { r with
      providerStatus := input.providerStatus
      refundAmount := if input.refundAmount > r.refundAmount then input.refundAmount else r.refundAmount
      providerRefundNo := if input.providerRefundNo ≠ "" then input.providerRefundNo else r.providerRefundNo
      providerRefundedAt := if input.providerRefundedAt ≠ "" then input.providerRefundedAt else r.providerRefundedAt
      lastNotifiedAt := n.now
      notificationCount := r.notificationCount + 1
      lastSource := input.source
      updatedAt := n.now }

def check : Except (Halt String) Unit := do
  let input := n.input.trim
  require (0 ≤ input.refundAmount) (.error "invalid payment refund amount")
  require (input.paymentProvider ≠ "" ∧ input.localTradeNo ≠ "" ∧ input.providerTradeNo ≠ "" ∧ input.orderKind ≠ "" ∧
    0 < input.userId ∧ 0 < input.amount ∧ input.currency ≠ "" ∧ input.providerStatus ≠ "" ∧ input.source ≠ "")
    (.error "invalid payment refund review input")

def upsertTx (db : RefundReviews) : Except (Halt String) (RefundReviewRow × RefundReviews) :=
  let review := n.write (db n.order)
  if review.toRefundReviewOrder ≠ n.input.trim.toRefundReviewOrder then
    .error (.error "payment refund review identity mismatch")
  else .ok (review, Function.update db n.order (some review))

def upsertPaymentRefundReview (db : RefundReviews) :
    Except (Halt String) RefundReviewRow × RefundReviews :=
  match n.check with
  | .error err => (.error err, db)
  | .ok () => transaction n.dbError n.upsertTx db

end RefundNotification

/-! ## Histories -/

def upsertStep (db : RefundReviews) (n : RefundNotification) : RefundReviews := (n.upsertPaymentRefundReview db).2

/-- The notification, if it is one of this order and is accepted. -/
def acceptedOf (order : String × String) (db : RefundReviews) (n : RefundNotification) : List RefundNotification :=
  if n.order = order ∧ (n.upsertPaymentRefundReview db).1.isOk then [n] else []

def noReviews : RefundReviews := fun _ => none

/-- The accepted notifications of the order, in a history that begins with no row. -/
def accepted (order : String × String) (calls : List RefundNotification) : List RefundNotification :=
  trace upsertStep (acceptedOf order) noReviews calls

/-- A notification of the order that is accepted unless another row is there. -/
structure RefundNotification.Fits (order : String × String) (o : RefundReviewOrder) (n : RefundNotification) : Prop where
  order_eq : n.order = order
  checked : n.check = .ok ()
  stored : n.dbError = none
  same : n.input.trim.toRefundReviewOrder = o

/-- The row sums up these notifications. -/
def SumsUp (order : String × String) (ns : List RefundNotification) : Option RefundReviewRow → Prop
  | none => ns = []
  | some r => IsGreatest {x | x ∈ ns.map (·.input.refundAmount)} r.refundAmount ∧ r.notificationCount = ns.length ∧
      r.status = "pending_review" ∧ ∀ n ∈ ns, n.Fits order r.toRefundReviewOrder

/-- The columns that do not tell which notification was the last. -/
def RefundReviewRow.summary (r : RefundReviewRow) : RefundReviewOrder × ℚ × Nat × String :=
  (r.toRefundReviewOrder, r.refundAmount, r.notificationCount, r.status)

section Histories

variable {order : String × String} {o : RefundReviewOrder} {db : RefundReviews} {n : RefundNotification}
  {ns ns' : List RefundNotification} {row row' : Option RefundReviewRow}

theorem write_order (h : n.Fits order o) (hrow : ∀ r ∈ row, r.toRefundReviewOrder = o) :
    (n.write row).toRefundReviewOrder = o := by
  cases row with
  | none => exact h.same
  | some r => exact hrow r rfl

theorem upsert_fits (h : n.Fits order o) (hrow : ∀ r ∈ db order, r.toRefundReviewOrder = o) :
    n.upsertPaymentRefundReview db =
      (.ok (n.write (db order)), Function.update db order (some (n.write (db order)))) := by
  obtain ⟨rfl, hcheck, hdb, rfl⟩ := h
  rw [RefundNotification.upsertPaymentRefundReview, hcheck, hdb]
  exact transaction_of_ok (if_neg (not_not.2 (write_order ⟨rfl, hcheck, hdb, rfl⟩ hrow)))

theorem upsert_cases (n : RefundNotification) (db : RefundReviews) :
    (∃ err, n.upsertPaymentRefundReview db = (.error err, db)) ∨
      ∃ o, n.Fits n.order o ∧ ∀ r ∈ db n.order, r.toRefundReviewOrder = o := by
  unfold RefundNotification.upsertPaymentRefundReview
  split
  · exact .inl ⟨_, rfl⟩
  next hcheck =>
    obtain ⟨review, db', hdb, hbody, -⟩ | ⟨err, htx⟩ := transaction_cases n.dbError n.upsertTx db
    · unfold RefundNotification.upsertTx at hbody
      dsimp only at hbody
      split_ifs at hbody with hsame
      refine .inr ⟨_, ⟨rfl, hcheck, hdb, rfl⟩, fun r hr => ?_⟩
      rw [Option.mem_def.1 hr] at hsame
      exact not_not.1 hsame
    · exact .inl ⟨err, htx⟩

/-- **One call**: the row sums up the notifications before and, if it is accepted, this one. -/
theorem sumsUp_step (h : SumsUp order ns (db order)) :
    SumsUp order (ns ++ acceptedOf order db n) (upsertStep db n order) := by
  unfold acceptedOf upsertStep
  rcases upsert_cases n db with ⟨err, herr⟩ | ⟨o, hfits, hrow⟩
  · rw [herr, if_neg (fun h => nomatch h.2), List.append_nil]
    exact h
  rw [upsert_fits hfits hrow]
  dsimp only
  by_cases horder : n.order = order
  · subst horder
    rw [if_pos ⟨rfl, rfl⟩, Function.update_self]
    have hwrite := write_order hfits hrow
    cases hdb : db n.order with
    | none =>
      rw [hdb] at h hwrite
      obtain rfl : ns = [] := h
      exact ⟨by simp [RefundNotification.write, PaymentRefundReviewInput.trim], rfl, rfl, by simpa [hwrite] using hfits⟩
    | some r =>
      rw [hdb] at h hwrite
      obtain ⟨hmax, hcount, hstatus, hns⟩ := h
      have hamount : (n.write (some r)).refundAmount = max r.refundAmount n.input.refundAmount := (max_def_lt _ _).symm
      refine ⟨?_, by simp [RefundNotification.write, hcount], hstatus, ?_⟩
      · rw [hamount]
        simpa [Set.ofPred_or, max_comm] using hmax.insert n.input.refundAmount
      · intro m hm
        rcases List.mem_append.1 hm with hm | hm
        · exact hns m hm
        · rw [List.mem_singleton.1 hm, hwrite]
          exact hfits
  · rw [if_neg (fun h => horder h.1), List.append_nil, Function.update_of_ne (Ne.symm horder)]
    exact h

theorem sumsUp_run (h : SumsUp order ns (db order)) (calls : List RefundNotification) :
    SumsUp order (ns ++ trace upsertStep (acceptedOf order) db calls) (run upsertStep db calls order) := by
  induction calls generalizing ns db with
  | nil => rwa [trace, List.append_nil]
  | cons n calls ih =>
    rw [trace, ← List.append_assoc]
    exact ih (sumsUp_step h)

theorem accepts_all (hrow : ∀ r ∈ db order, r.toRefundReviewOrder = o) (h : ∀ n ∈ ns, n.Fits order o) :
    trace upsertStep (acceptedOf order) db ns = ns := by
  induction ns generalizing db with
  | nil => rfl
  | cons n ns ih =>
    obtain ⟨hn, hns⟩ := List.forall_mem_cons.1 h
    have hstep := upsert_fits hn hrow
    rw [trace, acceptedOf, upsertStep, hstep, if_pos ⟨hn.order_eq, rfl⟩, ih _ hns]
    · rfl
    · intro r hr
      dsimp only at hr
      rw [Function.update_self] at hr
      cases hr
      exact write_order hn hrow

/-- The order of the notifications does not show in the summary. -/
theorem SumsUp.summary_eq (h : SumsUp order ns row) (h' : SumsUp order ns' row') (hperm : ns'.Perm ns) :
    row'.map (·.summary) = row.map (·.summary) := by
  cases row with
  | none =>
    obtain rfl : ns = [] := h
    obtain rfl := hperm.eq_nil
    cases row' with
    | none => rfl
    | some r' => cases h'.1.1
  | some r =>
    obtain ⟨n, hn, -⟩ := List.mem_map.1 h.1.1
    cases row' with
    | none =>
      obtain rfl : ns' = [] := h'
      cases hperm.symm.eq_nil ▸ hn
    | some r' =>
      obtain ⟨hmax, hcount, hstatus, hns⟩ := h
      obtain ⟨hmax', hcount', hstatus', hns'⟩ := h'
      have hset : {x | x ∈ ns'.map (·.input.refundAmount)} = {x | x ∈ ns.map (·.input.refundAmount)} :=
        Set.ext fun x => (hperm.map _).mem_iff
      have hamount := (hset ▸ hmax').unique hmax
      have horder := (hns' n (hperm.mem_iff.2 hn)).same.symm.trans (hns n hn).same
      simp [RefundReviewRow.summary, hamount, horder, hcount, hcount', hstatus, hstatus', hperm.length_eq]

/-- **Refund notifications** of an order, in every history: a call that fails changes nothing; the row has the largest amount
and the number of the accepted notifications; and in any order all of these are accepted and give a row with the same
order, amount, number and status. -/
theorem refund_review_summary (order : String × String) (calls : List RefundNotification) :
    (∀ (n : RefundNotification) db err, (n.upsertPaymentRefundReview db).1 = .error err → upsertStep db n = db) ∧
    SumsUp order (accepted order calls) (run upsertStep noReviews calls order) ∧
    ∀ ns, ns.Perm (accepted order calls) → accepted order ns = ns ∧
      (run upsertStep noReviews ns order).map (·.summary) = (run upsertStep noReviews calls order).map (·.summary) := by
  have hsum : ∀ calls, SumsUp order (accepted order calls) (run upsertStep noReviews calls order) := by
    intro calls
    have hstart : SumsUp order [] (noReviews order) := rfl
    exact sumsUp_run hstart calls
  refine ⟨fun n db err herr => ?_, hsum calls, fun ns hperm => ?_⟩
  · rcases upsert_cases n db with ⟨err', h⟩ | ⟨o, hfits, hrow⟩
    · rw [upsertStep, h]
    · rw [upsert_fits hfits hrow] at herr
      cases herr
  · have hall : accepted order ns = ns := by
      have h := hsum calls
      generalize run upsertStep noReviews calls order = row at h
      cases row with
      | none =>
        rw [show accepted order calls = [] from h] at hperm
        rw [hperm.eq_nil]
        rfl
      | some r => exact accepts_all nofun fun n hn => h.2.2.2 n (hperm.mem_iff.1 hn)
    have hns := hsum ns
    rw [hall] at hns
    exact ⟨hall, (hsum calls).summary_eq hns hperm⟩

end Histories

end SynthApi
