import SynthApi.Lib.Interleave
import SynthApi.Model.Subscription.Purchase

/-!
# Subscription orders, statement by statement

`CompleteSubscriptionOrderWithAudit` and `ExpireSubscriptionOrder`, cut at their SQL statements: `OrderPlace` says where
a call stands and `orderStep` executes its next statement.

The completion runs in a transaction. Its first write is the conditional UPDATE of the order's status, which takes the
lock of the order's row; from there on its writes are collected in a log (`Write`) that nobody else sees. The COMMIT
applies the log and frees the lock, and an error drops the log and frees the lock. The expiry is one UPDATE, which
commits at once. An UPDATE of a locked row waits.
-/

namespace SynthApi

open Lib Lib.Go

/-! ## Rows -/

inductive OrderStatus where
  | pending
  | success
  | failed
  | expired
  deriving DecidableEq, Repr

structure SubscriptionOrder where
  id : Int
  userId : Int
  planId : Int
  money : ℚ
  tradeNo : String
  paymentMethod : String
  paymentProvider : String
  paymentProfile : String
  status : OrderStatus
  createTime : Int
  completeTime : Int
  providerPayload : String
  deriving DecidableEq, Repr

/-- A row of `top_ups`; `trade_no` is unique. -/
structure TopUp where
  userId : Int
  amount : Int
  money : ℚ
  tradeNo : String
  providerTradeNo : String
  currency : String
  paymentMethod : String
  paymentProvider : String
  paymentProfile : String
  createTime : Int
  completeTime : Int
  status : OrderStatus
  deriving DecidableEq, Repr

/-- The committed tables, and the orders whose row is locked. -/
structure OrderDb where
  store : Store
  orders : List SubscriptionOrder
  topUps : List TopUp
  locked : Int → Bool

/-! ## Calls and their checks -/

inductive OrderError where
  | tradeNoEmpty
  | orderNotFound
  | paymentMethodMismatch
  | paymentAmountMismatch
  | orderStatusInvalid
  | providerTradeMismatch
  /-- The error of a statement, or of the creation of the subscription. -/
  | other (text : String)
  deriving DecidableEq, Repr

def OrderError.text : OrderError → String
  | .tradeNoEmpty => "tradeNo is empty"
  | .orderNotFound => "subscription order not found"
  | .paymentMethodMismatch => "payment method mismatch"
  | .paymentAmountMismatch => "payment amount mismatch"
  | .orderStatusInvalid => "subscription order status invalid"
  | .providerTradeMismatch => "provider trade number mismatch"
  | .other text => text

/-- The parsers that the checks use. -/
structure Codec where
  /-- `trade_no` of a JSON payload, "" without the field; `none` for invalid JSON. -/
  payloadTradeNo : String → Option String
  /-- `decimal.NewFromString` -/
  decimal : String → Option ℚ

/-- The arguments of `CompleteSubscriptionOrderWithAudit`; without `paidMoney` it is "". -/
structure CompleteCall where
  tradeNo : String
  providerPayload : String
  expectedPaymentProvider : String
  actualPaymentMethod : String
  paidMoney : String

/-- The arguments of `ExpireSubscriptionOrder`. -/
structure ExpireCall where
  tradeNo : String
  expectedPaymentProvider : String

def namesTrade (paymentProvider : String) : Bool := paymentProvider = "alipay_direct" || paymentProvider = "mpay"

section Checks

variable (codec : Codec)

def subscriptionProviderTradeNo (paymentProvider providerPayload : String) : Except OrderError String :=
  if namesTrade paymentProvider then
    match codec.payloadTradeNo providerPayload with
    | none => .error .providerTradeMismatch
    | some tradeNo =>
      if trimSpace tradeNo = "" then .error .providerTradeMismatch else .ok (trimSpace tradeNo)
  else .ok ""

def validateSubscriptionProviderTradeNo (order : SubscriptionOrder) (paymentProvider incomingProviderTradeNo : String) :
    Except OrderError Unit :=
  if namesTrade paymentProvider then
    match subscriptionProviderTradeNo codec paymentProvider order.providerPayload with
    | .error _ => .error .providerTradeMismatch
    | .ok stored => if stored = incomingProviderTradeNo then .ok () else .error .providerTradeMismatch
  else .ok ()

def paymentAmountMatches (expected : ℚ) (actual : String) : Bool :=
  match codec.decimal (trimSpace actual) with
  | none => false
  | some amount => (round0 (expected * 100) : ℚ) / 100 = amount

def providerMatches (expectedPaymentProvider : String) (order : SubscriptionOrder) : Bool :=
  expectedPaymentProvider = "" || order.paymentProvider = expectedPaymentProvider

def checkPayment (c : CompleteCall) (order : SubscriptionOrder) : Except OrderError Unit :=
  if ¬ providerMatches c.expectedPaymentProvider order then .error .paymentMethodMismatch
  else if trimSpace c.paidMoney ≠ "" ∧ ¬ paymentAmountMatches codec order.money (trimSpace c.paidMoney) then
    .error .paymentAmountMismatch
  else .ok ()

end Checks

/-- The columns that the conditional UPDATE sets. -/
def CompleteCall.claim (completeTime : Int) (c : CompleteCall) (order : SubscriptionOrder) : SubscriptionOrder :=
  { order with
    status := .success
    completeTime := completeTime
    providerPayload := if c.providerPayload ≠ "" then c.providerPayload else order.providerPayload
    paymentMethod := if c.actualPaymentMethod ≠ "" then c.actualPaymentMethod else order.paymentMethod }

/-! ## Top-ups -/

def newTopUp (now : Int) (providerTradeNo : String) (order : SubscriptionOrder) : TopUp where
  userId := order.userId
  amount := 0
  money := order.money
  tradeNo := order.tradeNo
  providerTradeNo := providerTradeNo
  currency := if namesTrade order.paymentProvider then "CNY" else ""
  paymentMethod := order.paymentMethod
  paymentProvider := order.paymentProvider
  paymentProfile := order.paymentProfile
  createTime := order.createTime
  completeTime := now
  status := .success

def mergeTopUp (now : Int) (providerTradeNo : String) (order : SubscriptionOrder) (topUp : TopUp) :
    Except OrderError TopUp :=
  if topUp.paymentProvider ≠ "" ∧ topUp.paymentProvider ≠ order.paymentProvider then .error .paymentMethodMismatch
  else if topUp.paymentMethod ≠ "" ∧ topUp.paymentMethod ≠ order.paymentMethod then .error .paymentMethodMismatch
  else if providerTradeNo ≠ "" ∧ topUp.providerTradeNo ≠ "" ∧ topUp.providerTradeNo ≠ providerTradeNo then
    .error .providerTradeMismatch
  else .ok { topUp with
    money := order.money
    paymentProvider := order.paymentProvider
    paymentMethod := order.paymentMethod
    createTime := if topUp.createTime = 0 then order.createTime else topUp.createTime
    paymentProfile := order.paymentProfile
    providerTradeNo := if providerTradeNo ≠ "" then providerTradeNo else topUp.providerTradeNo
    completeTime := now
    status := .success }

/-! ## The transaction after its conditional UPDATE -/

inductive Write where
  | claimOrder (id completeTime : Int) (c : CompleteCall)
  | setGroup (userId : Int) (group : String)
  | insertSubscription (sub : UserSubscription)
  | insertTopUp (topUp : TopUp)
  | saveTopUp (topUp : TopUp)

def OrderDb.write (db : OrderDb) : Write → OrderDb
  | .claimOrder id completeTime c =>
    { db with orders := Table.updateWhere (fun order => order.id = id) (c.claim completeTime) db.orders }
  | .setGroup userId group => { db with store := db.store.setGroup userId group }
  | .insertSubscription sub => { db with store := db.store.insertSubscription sub }
  | .insertTopUp topUp => { db with topUps := db.topUps ++ [topUp] }
  | .saveTopUp topUp => { db with topUps := Table.updateKey TopUp.tradeNo topUp.tradeNo (fun _ => topUp) db.topUps }

/-- The next statement of the transaction, with what it needs. -/
inductive TxStmt where
  /-- `getSubscriptionPlanByIdTx` -/
  | plan
  /-- The count of the user's purchases. -/
  | count (plan : SubscriptionPlan)
  /-- The user's group. -/
  | readGroup (p : Purchase)
  | updateGroup (p : Purchase) (currentGroup : String)
  | insertSubscription (p : Purchase) (prevGroup : String)
  | readTopUp
  | writeTopUp (providerTradeNo : String) (topUp : Option TopUp)
  | commit

/-- The transaction: its order as it is written, its next statement, its writes so far. -/
structure OrderTx where
  order : SubscriptionOrder
  next : TxStmt
  log : List Write

/-- Put the statement's write into the log and go on. -/
def OrderTx.goto (t : OrderTx) (next : TxStmt) (writes : List Write) : OrderTx :=
  { t with next := next, log := t.log ++ writes }

/-- Execute the next statement of the transaction. A statement that the code skips does nothing. -/
def OrderTx.step (codec : Codec) (e : Env) (db : OrderDb) (t : OrderTx) : Except OrderError OrderTx :=
  match t.next with
  | .plan =>
    match getSubscriptionPlanById e t.order.planId with
    | .error err => .error (.other err)
    | .ok plan => .ok (t.goto (.count plan) [])
  | .count plan =>
    match preparePurchase e t.order.userId plan "order" (db.store.countPurchases t.order.userId plan.id) with
    | .error err => .error (.other err)
    | .ok p => .ok (t.goto (.readGroup p) [])
  | .readGroup p => .ok (t.goto (.updateGroup p (getUserGroupById db.store p.userId)) [])
  | .updateGroup p currentGroup =>
    if p.upgrades currentGroup then
      .ok (t.goto (.insertSubscription p currentGroup) [.setGroup p.userId p.upgradeGroup])
    else .ok (t.goto (.insertSubscription p "") [])
  | .insertSubscription p prevGroup =>
    .ok (t.goto .readTopUp [.insertSubscription (p.row e db.store.freshSubscriptionId prevGroup)])
  | .readTopUp =>
    match subscriptionProviderTradeNo codec t.order.paymentProvider t.order.providerPayload with
    | .error err => .error err
    | .ok providerTradeNo =>
      .ok (t.goto (.writeTopUp providerTradeNo (Table.lookup TopUp.tradeNo t.order.tradeNo db.topUps)) [])
  | .writeTopUp providerTradeNo none =>
    .ok (t.goto .commit [.insertTopUp (newTopUp e.now providerTradeNo t.order)])
  | .writeTopUp providerTradeNo (some topUp) =>
    match mergeTopUp e.now providerTradeNo t.order topUp with
    | .error err => .error err
    | .ok topUp => .ok (t.goto .commit [.saveTopUp topUp])
  | .commit => .ok t

/-! ## The calls -/

inductive OrderPlace where
  /-- Next the order is read. -/
  | complete (c : CompleteCall)
  /-- The order was read as pending; next its status is set. -/
  | checked (c : CompleteCall) (order : SubscriptionOrder)
  /-- The status is set and the row locked. -/
  | inTx (t : OrderTx)
  /-- The status was not pending any more and the transaction is rolled back; next the order is read again. -/
  | conflict (c : CompleteCall)
  /-- Next a pending order is set to expired. -/
  | expire (c : ExpireCall)
  /-- No pending order was there; next it is read. -/
  | notExpired (c : ExpireCall)
  | done (result : Except OrderError Unit)

/-- What lets a call go on: its next statement is executed, or fails with the error. -/
structure OrderInput where
  env : Env
  fault : Option String

namespace OrderDb

/-- `GetSubscriptionOrderByTradeNo` -/
def order (db : OrderDb) (tradeNo : String) : Option SubscriptionOrder :=
  Table.lookup SubscriptionOrder.tradeNo tradeNo db.orders

def lock (db : OrderDb) (id : Int) : OrderDb := { db with locked := Function.update db.locked id true }

def unlock (db : OrderDb) (id : Int) : OrderDb := { db with locked := Function.update db.locked id false }

def applyLog (db : OrderDb) (log : List Write) : OrderDb := log.foldl write db

end OrderDb

/-- The rows that the conditional UPDATE of a completion matches. -/
def CompleteCall.claims (c : CompleteCall) (id : Int) (order : SubscriptionOrder) : Bool :=
  order.id = id && order.status = .pending && providerMatches c.expectedPaymentProvider order

def ExpireCall.expires (c : ExpireCall) (order : SubscriptionOrder) : Bool :=
  order.tradeNo = c.tradeNo && order.status = .pending && providerMatches c.expectedPaymentProvider order

def setExpired (now : Int) (order : SubscriptionOrder) : SubscriptionOrder :=
  { order with status := .expired, completeTime := now }

def afterOrderRead (codec : Codec) (c : CompleteCall) (incomingProviderTradeNo : String) :
    Option SubscriptionOrder → OrderPlace
  | none => .done (.error .orderNotFound)
  | some order =>
    match checkPayment codec c order with
    | .error err => .done (.error err)
    | .ok () =>
      match order.status with
      | .success => .done (validateSubscriptionProviderTradeNo codec order c.expectedPaymentProvider incomingProviderTradeNo)
      | .pending => .checked c order
      | _ => .done (.error .orderStatusInvalid)

/-- The local code after the order was read again. -/
def afterConflictRead (codec : Codec) (c : CompleteCall) (incomingProviderTradeNo : String) :
    Option SubscriptionOrder → OrderPlace
  | none => .done (.error .orderNotFound)
  | some order =>
    match checkPayment codec c order with
    | .error err => .done (.error err)
    | .ok () =>
      match order.status with
      | .success => .done (validateSubscriptionProviderTradeNo codec order c.expectedPaymentProvider incomingProviderTradeNo)
      | _ => .done (.error .orderStatusInvalid)

def afterExpireRead (c : ExpireCall) : Option SubscriptionOrder → OrderPlace
  | none => .done (.error .orderNotFound)
  | some order =>
    if ¬ providerMatches c.expectedPaymentProvider order then .done (.error .paymentMethodMismatch)
    else if order.status = .expired then .done (.ok ())
    else .done (.error .orderStatusInvalid)

/-- The next statement of a call. -/
def orderStep (codec : Codec) : OrderPlace → OrderInput → OrderDb → OrderPlace × OrderDb
  | .complete c, i, db =>
    if c.tradeNo = "" then (.done (.error .tradeNoEmpty), db)
    else
      match subscriptionProviderTradeNo codec c.expectedPaymentProvider c.providerPayload with
      | .error err => (.done (.error err), db)
      | .ok incoming =>
        -- an error of the query counts as an order that was not found
        (afterOrderRead codec c incoming (if i.fault.isSome then none else db.order c.tradeNo), db)
  | .checked c order, i, db =>
    match i.fault with
    | some err => (.done (.error (.other err)), db)
    | none =>
      if db.locked order.id then (.checked c order, db)
      else if db.orders.countP (c.claims order.id) = 1 then
        (.inTx ⟨c.claim i.env.now order, .plan, [.claimOrder order.id i.env.now c]⟩, db.lock order.id)
      else (.conflict c, db)
  | .inTx t, i, db =>
    match i.fault with
    | some err => (.done (.error (.other err)), db.unlock t.order.id)
    | none =>
      match t.next with
      | .commit => (.done (.ok ()), (db.applyLog t.log).unlock t.order.id)
      | _ =>
        match t.step codec i.env db with
        | .error err => (.done (.error err), db.unlock t.order.id)
        | .ok t => (.inTx t, db)
  | .conflict c, i, db =>
    match subscriptionProviderTradeNo codec c.expectedPaymentProvider c.providerPayload with
    | .error err => (.done (.error err), db)
    | .ok incoming => (afterConflictRead codec c incoming (if i.fault.isSome then none else db.order c.tradeNo), db)
  | .expire c, i, db =>
    if c.tradeNo = "" then (.done (.error .tradeNoEmpty), db)
    else
      match i.fault with
      | some err => (.done (.error (.other err)), db)
      | none =>
        if db.orders.any fun order => order.tradeNo = c.tradeNo && db.locked order.id then (.expire c, db)
        else
          (if db.orders.countP c.expires = 1 then .done (.ok ()) else .notExpired c,
            { db with orders := Table.updateWhere c.expires (setExpired i.env.now) db.orders })
  | .notExpired c, i, db => (afterExpireRead c (if i.fault.isSome then none else db.order c.tradeNo), db)
  | .done result, _, db => (.done result, db)

end SynthApi
