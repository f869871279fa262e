import SynthApi.Lib.Lines
import SynthApi.Lib.Transaction
import SynthApi.Model.TopUp.Statements
import SynthApi.Setting.AlipayProfiles
import Mathlib.Data.List.AList

/-!
# Payments by Alipay

`HandleAlipayDirectNotification` and `ProcessAlipayDirectReturn` (`service/alipay_direct.go`), cut where they use the database
or ask the gateway of Alipay: `AlipayPlace` says where a call stands and `alipayStep` lets it go on. The completion and the
expiry of an order are the machines `topUpStep` and `orderStep`, which run inside of it.

A call gets its parameters from anybody. Alipay signs the parameters of a notification, and its answers to queries, with
the key of the payment profile.
-/

namespace SynthApi

open Lib Lib.Go

/-! ## Data -/

/-- The parameters of a notification, or of a return of the browser. -/
abbrev AlipayParams := AList fun _ : String => String

/-- `params[name]` -/
def param (params : AlipayParams) (name : String) : String := (params.lookup name).getD ""

inductive AlipayOrderKind where
  | topUp
  | subscription
  deriving DecidableEq, Repr

structure AlipayLocalOrder where
  tradeNo : String
  providerTradeNo : String
  userID : Int
  kind : AlipayOrderKind
  status : OrderStatus
  money : ℚ
  profileID : String
  deriving DecidableEq, Repr

/-- What a call returns of an order. -/
structure AlipayDirectOrder where
  tradeNo : String
  status : OrderStatus
  kind : AlipayOrderKind
  money : ℚ
  deriving DecidableEq, Repr

structure AlipayTradeQueryResponse where
  code : String
  subCode : String
  tradeNo : String
  outTradeNo : String
  tradeStatus : String
  totalAmount : String
  sellerID : String
  deriving DecidableEq, Repr

structure AlipayRefundEvidence where
  refundAmount : ℚ
  providerRefundNo : String
  providerRefundedAt : String
  deriving DecidableEq, Repr

inductive GatewayAnswer where
  /-- The request cannot be made, or its answer not be read, with the error. -/
  | failed (err : String)
  | response (statusCode : Int) (body : String)

/-- The deployment, and what the calls use of other packages. -/
structure AlipaySite where
  topUp : TopUpSite
  setting : AlipaySetting
  /-- The hash of a configuration, as text. -/
  fingerprint : AlipayDirectConfig → Option String
  /-- `validateAlipayConfiguration` has no objection. -/
  configured : AlipayDirectConfig → Bool
  /-- `verifyAlipaySignature` of a text, a signature and a key, with its error. -/
  verifySignature : String → String → String → Option String
  /-- The members of a JSON object. -/
  envelope : String → Option (String → Option String)
  /-- The text that a JSON string encodes. -/
  jsonString : String → Option String
  /-- `json.Unmarshal` into `alipayTradeQueryResponse` -/
  tradeQueryResponse : String → Option AlipayTradeQueryResponse
  /-- The JSON object with a trade number and a trade status. -/
  payload : String → String → String
  /-- The text about an amount that is not the expected one. -/
  amountMismatch : ℚ → ℚ → String
  /-- The empty text is no number. -/
  decimal_empty : topUp.codec.decimal "" = none

/-! ## Checks -/

section Checks

variable (site : AlipaySite)

/-- The parts of the text that is signed, for a notification. -/
def canonicalParts (params : AlipayParams) : List String :=
  let keys := params.keys.filter fun key => key ≠ "sign" ∧ key ≠ "sign_type" ∧ param params key ≠ ""
  (keys.insertionSort (· ≤ ·)).map fun key => key ++ "=" ++ param params key

def canonicalAlipayNotificationParams (params : AlipayParams) : String := joinWith (canonicalParts params) '&'

def verifyAlipayDirectParams (params : AlipayParams) (platformPublicKey : String) : Except String Unit :=
  let signature := trimSpace (param params "sign")
  if signature = "" then .error "支付宝参数缺少签名"
  else attempt (site.verifySignature (canonicalAlipayNotificationParams params) signature platformPublicKey)

def alipayConfigForOrder (order : AlipayLocalOrder) : Except String AlipayDirectConfig :=
  let profileID := if trimSpace order.profileID = "" then legacyAlipayProfileID else trimSpace order.profileID
  match site.setting.getAlipayProfileVersion site.fingerprint profileID with
  | none => .error "支付宝订单对应的收款配置不存在"
  | some profile => .ok profile.config

/-- What notifications and returns have in common; `source` names which it is in the errors. -/
def checkAlipayParams (source : String) (params : AlipayParams) (order : AlipayLocalOrder) :
    Except String AlipayDirectConfig := do
  let config ← alipayConfigForOrder site order
  require (site.configured config) "支付宝官方支付未配置"
  verifyAlipayDirectParams site params config.platformPublicKey
  require (trimSpace (param params "app_id") = trimSpace config.appID) (source ++ " app_id 不匹配")
  let authAppID := trimSpace (param params "auth_app_id")
  require (authAppID = "" ∨ authAppID = trimSpace config.appID) (source ++ " auth_app_id 不匹配")
  let sellerID := trimSpace (param params "seller_id")
  require (sellerID = "" ∨ sellerID = trimSpace config.sellerID) (source ++ " seller_id 不匹配")
  return config

def normalizeAlipayMoney (money : ℚ) : Except String ℚ :=
  let amount := round2 money
  if amount < 1 / 100 then .error "支付金额不能低于 0.01 CNY"
  else if 100000000 < amount then .error "支付金额不能超过 100000000 CNY"
  else .ok amount

def validateAlipayAmount (expectedMoney : ℚ) (actual : String) : Except String Unit := do
  let expected ← normalizeAlipayMoney expectedMoney
  match site.topUp.codec.decimal (trimSpace actual) with
  | none => .error "支付宝返回的交易金额无效"
  | some actualAmount =>
    require (1 / 100 ≤ actualAmount) "支付宝返回的交易金额无效"
    require (actualAmount = expected) (site.amountMismatch expected actualAmount)

def parseAlipayRefundEvidence (params : AlipayParams) : Except String (Option AlipayRefundEvidence) :=
  let refundFee := trimSpace (param params "refund_fee")
  let providerRefundNo := trimSpace (param params "out_biz_no")
  let providerRefundedAt := trimSpace (param params "gmt_refund")
  let named := providerRefundNo ≠ "" ∧ providerRefundedAt ≠ ""
  if refundFee ≠ "" then
    match site.topUp.codec.decimal refundFee with
    | none => .error "支付宝退款金额无效"
    | some amount =>
      if amount < 0 then .error "支付宝退款金额无效"
      else .ok (if 0 < amount ∨ named then some ⟨amount, providerRefundNo, providerRefundedAt⟩ else none)
  else .ok (if named then some ⟨0, providerRefundNo, providerRefundedAt⟩ else none)

/-- The signed part of an answer of the gateway. -/
def signedResponse (config : AlipayDirectConfig) (body : String) : Except String String :=
  match site.envelope body with
  | none => .error "支付宝查单返回无效 JSON"
  | some envelope =>
    match (envelope "alipay_trade_query_response").filter (trimSpace · ≠ "") with
    | none => .error "支付宝查单响应缺少业务数据"
    | some rawResponse =>
      match (envelope "sign").map site.jsonString with
      | some none => .error "支付宝查单响应签名格式无效"
      | none | some (some "") => .error "支付宝查单响应缺少签名"
      | some (some signature) =>
        match site.verifySignature rawResponse signature config.platformPublicKey with
        | some err => .error ("支付宝查单响应验签失败: " ++ err)
        | none => .ok rawResponse

/-- `queryAlipayTrade`, after the request; `none` if Alipay does not know the trade. -/
def queryAlipayTrade (config : AlipayDirectConfig) : GatewayAnswer → Except String (Option AlipayTradeQueryResponse)
  | .failed err => .error err
  | .response statusCode body => do
    require (200 ≤ statusCode ∧ statusCode < 300) ("支付宝查单返回 HTTP " ++ toString statusCode)
    let rawResponse ← signedResponse site config body
    match site.tradeQueryResponse rawResponse with
    | none => .error "支付宝查单业务响应格式无效"
    | some result =>
      if result.code ≠ "10000" then
        if result.subCode = "ACQ.TRADE_NOT_EXIST" then .ok none
        else .error ("支付宝查单失败: code=" ++ result.code ++ " sub_code=" ++ result.subCode)
      else .ok (some result)

end Checks

/-! ## The database -/

/-- The tables. Top-ups have columns that subscription orders do not use, and locks of their own. -/
structure AlipayDb extends OrderDb where
  /-- The id of the top-up with a trade number, and its promotion quota. -/
  topUpInfo : String → Int × Int
  topUpLocked : String → Bool

namespace AlipayDb

/-- `GetTopUpByTradeNo` -/
def topUp (db : AlipayDb) (tradeNo : String) : Option TopUp := Table.lookup TopUp.tradeNo tradeNo db.topUps

/-- The tables as completions of top-ups see them. -/
def topUpDb (db : AlipayDb) : TopUpDb where
  topUps tradeNo := (db.topUp tradeNo).map fun t => ⟨t, (db.topUpInfo tradeNo).1, (db.topUpInfo tradeNo).2⟩
  locked := db.topUpLocked
  store := db.store

def putTopUps (db : AlipayDb) (topUps : TopUpDb) : AlipayDb :=
  { db with
    topUps := Table.updateWhere (fun _ => true)
      (fun t => ((topUps.topUps t.tradeNo).map TopUpRow.toTopUp).getD t) db.topUps
    topUpLocked := topUps.locked
    store := topUps.store }

end AlipayDb

section Orders

variable (site : AlipaySite)

def alipayProviderTradeNoFromPayload (payload : String) : String :=
  if trimSpace payload = "" then "" else trimSpace ((site.topUp.codec.payloadTradeNo payload).getD "")

def localOfOrder (order : SubscriptionOrder) : AlipayLocalOrder where
  tradeNo := order.tradeNo
  providerTradeNo := alipayProviderTradeNoFromPayload site order.providerPayload
  userID := order.userId
  kind := .subscription
  status := order.status
  money := order.money
  profileID := order.paymentProfile

def localOfTopUp (topUp : TopUp) : AlipayLocalOrder where
  tradeNo := topUp.tradeNo
  providerTradeNo := topUp.providerTradeNo
  userID := topUp.userId
  kind := .topUp
  status := topUp.status
  money := topUp.money
  profileID := topUp.paymentProfile

/-- The local order of the rows with its trade number. -/
def localOrder (order : Option SubscriptionOrder) (topUp : Option TopUp) : Except String AlipayLocalOrder :=
  match order, topUp with
  | some order, _ =>
    if order.paymentProvider ≠ "alipay_direct" then .error "payment method mismatch" else .ok (localOfOrder site order)
  | none, some topUp =>
    if topUp.paymentProvider ≠ "alipay_direct" then .error "payment method mismatch" else .ok (localOfTopUp topUp)
  | none, none => .error "Alipay order not found"

/-- What lets a call go on. -/
structure AlipayInput where
  env : Env
  /-- The error of the statement that is executed. -/
  fault : Option String
  /-- The error of the second query, if two are made. -/
  topUpFault : Option String
  answer : GatewayAnswer

/-- `loadAlipayLocalOrder`; a query that fails counts as one that finds nothing. -/
def loadAlipayLocalOrder (i : AlipayInput) (db : AlipayDb) (tradeNo : String) : Except String AlipayLocalOrder :=
  if tradeNo = "" then .error "Alipay order not found"
  else
    localOrder site (if i.fault.isSome then none else db.order tradeNo)
      (if i.topUpFault.isSome then none else db.topUp tradeNo)

def checkRefundReview (order : AlipayLocalOrder) (providerTradeNo : String) (evidence : Option AlipayRefundEvidence) :
    Except String Unit := do
  require (order.status = .success) "Alipay order not found"
  require (trimSpace providerTradeNo ≠ "" ∧ order.providerTradeNo ≠ "" ∧ order.providerTradeNo = trimSpace providerTradeNo)
    "provider trade number mismatch"
  require (∀ e ∈ evidence, e.refundAmount ≤ round2 order.money) "支付宝退款金额超过原订单金额"

end Orders

/-! ## The calls -/

inductive AlipayCaller where
  | notification
  | browser
  deriving DecidableEq, Repr

/-- The arguments of `queryAndCompleteAlipayDirectOrderWithRefund`. -/
structure AlipayQuery where
  caller : AlipayCaller
  config : AlipayDirectConfig
  tradeNo : String
  notifiedProviderTradeNo : String
  evidence : Option AlipayRefundEvidence

/-- What the call returns, or the error. -/
abbrev AlipayResult := Except String (Option AlipayDirectOrder)

def alipayDirectOrderFromLocal (order : AlipayLocalOrder) : AlipayDirectOrder :=
  ⟨order.tradeNo, order.status, order.kind, order.money⟩

/-- What the caller of a query makes of the order that it returns. -/
def AlipayQuery.result (q : AlipayQuery) (order : AlipayLocalOrder) : AlipayResult :=
  match q.caller with
  | .browser => .ok (some (alipayDirectOrderFromLocal order))
  | .notification =>
    if order.status ≠ .success ∧ order.status ≠ .expired then .error "支付宝主动查单尚未确认交易终态" else .ok none

/-- The arguments of `handleAlipayTradeClosed`, and what is returned if the order was reviewed and if it was closed. -/
structure AlipayClosing where
  tradeNo : String
  providerTradeNo : String
  source : String
  evidence : Option AlipayRefundEvidence
  reviewed : AlipayResult
  closed : AlipayResult

/-- A refund of an order that is paid. -/
structure AlipayReview where
  order : AlipayLocalOrder
  providerTradeNo : String
  providerStatus : String
  source : String
  evidence : Option AlipayRefundEvidence
  /-- What is returned if the review is recorded. -/
  result : AlipayResult

/-- What follows a write of the order. -/
inductive AlipayNext where
  | finish (result : AlipayResult)
  /-- The order is paid; next it is read for the review of its refund. -/
  | refunded (tradeNo providerTradeNo tradeStatus : String) (evidence : AlipayRefundEvidence)
  | review (r : AlipayReview)
  /-- The order was to be closed. -/
  | closing (c : AlipayClosing)

/-- Where a call stands. -/
inductive AlipayPlace where
  /-- `HandleAlipayDirectNotification`: next the order is read. -/
  | notification (params : AlipayParams)
  /-- `ProcessAlipayDirectReturn`: next the order is read. -/
  | browserReturn (params : AlipayParams)
  /-- Next the order is read, to query it. -/
  | query (q : AlipayQuery)
  /-- Next the gateway is asked. -/
  | asking (q : AlipayQuery) (order : AlipayLocalOrder)
  | topUp (place : TopUpPlace) (next : AlipayNext)
  /-- A subscription order is completed or expires. -/
  | order (place : OrderPlace) (next : AlipayNext)
  | refunded (tradeNo providerTradeNo tradeStatus : String) (evidence : AlipayRefundEvidence)
  /-- Next the review of a refund is recorded. -/
  | review (r : AlipayReview)
  /-- Next the order is read, to close it. -/
  | closing (c : AlipayClosing)
  /-- The order was not pending when it was to be closed, with the error; next it is read again. -/
  | notClosed (err : String) (c : AlipayClosing)
  | done (result : AlipayResult)

section Calls

variable (site : AlipaySite)

def completeAlipayLocalOrder (order : AlipayLocalOrder) (providerTradeNo tradeStatus paidMoney : String)
    (next : AlipayNext) : AlipayPlace :=
  match order.kind with
  | .topUp =>
    .topUp (.start (completeAlipayDirectTopUp site.topUp order.tradeNo (trimSpace providerTradeNo) paidMoney)) next
  | .subscription =>
    .order (.complete ⟨order.tradeNo, site.payload (trimSpace providerTradeNo) (trimSpace tradeStatus), "alipay_direct",
      "alipay", paidMoney⟩) next

/-- `recordAlipayRefundReview`, up to the write. -/
def recordAlipayRefundReview (r : AlipayReview) : AlipayPlace :=
  match checkRefundReview r.order r.providerTradeNo r.evidence with
  | .error err => .done (.error err)
  | .ok () => .review r

/-- `HandleAlipayDirectNotification`, after the order was read. -/
def afterNotification (params : AlipayParams) (order : AlipayLocalOrder) : Except String AlipayPlace := do
  let config ← checkAlipayParams site "支付宝通知" params order
  validateAlipayAmount site order.money (param params "total_amount")
  let evidence ← parseAlipayRefundEvidence site params
  if trimSpace (param params "seller_id") = "" then
    return .query ⟨.notification, config, trimSpace (param params "out_trade_no"),
      trimSpace (param params "trade_no"), evidence⟩
  let tradeStatus := trimSpace (param params "trade_status")
  let providerTradeNo := param params "trade_no"
  if evidence.isSome ∧ order.status = .success then
    return recordAlipayRefundReview ⟨order, providerTradeNo, tradeStatus, "webhook", evidence, .ok none⟩
  if tradeStatus = "TRADE_SUCCESS" ∨ tradeStatus = "TRADE_FINISHED" then
    require (trimSpace providerTradeNo ≠ "") "支付宝成功通知缺少 trade_no"
    let next := match evidence with
      | none => .finish (.ok none)
      | some evidence => .refunded order.tradeNo providerTradeNo tradeStatus evidence
    return completeAlipayLocalOrder site order providerTradeNo tradeStatus (param params "total_amount") next
  if tradeStatus = "TRADE_CLOSED" then
    return .closing ⟨order.tradeNo, providerTradeNo, "webhook", evidence, .ok none, .ok none⟩
  if tradeStatus = "WAIT_BUYER_PAY" then return .done (.ok none)
  .error ("支付宝通知交易状态无效: " ++ tradeStatus)

/-- `ProcessAlipayDirectReturn`, after the order was read. -/
def afterReturn (params : AlipayParams) (order : AlipayLocalOrder) : Except String AlipayPlace := do
  let config ← checkAlipayParams site "支付宝同步返回" params order
  return .query ⟨.browser, config, trimSpace (param params "out_trade_no"), "", none⟩

def afterQueryRead (q : AlipayQuery) (order : AlipayLocalOrder) : Except String AlipayPlace :=
  if order.status = .failed then .ok (.done (q.result order)) else .ok (.asking q order)

def afterAnswer (q : AlipayQuery) (order : AlipayLocalOrder) (answer : GatewayAnswer) : Except String AlipayPlace := do
  match ← queryAlipayTrade site q.config answer with
  | none =>
    require (q.evidence.isNone) "支付宝查单未确认退款所属交易"
    return .done (q.result order)
  | some response =>
    require (trimSpace response.outTradeNo = order.tradeNo) "支付宝查单返回的 out_trade_no 不匹配"
    validateAlipayAmount site order.money response.totalAmount
    require (response.sellerID = "" ∨ trimSpace response.sellerID = trimSpace q.config.sellerID)
      "支付宝查单返回的 seller_id 不匹配"
    require (q.evidence.isSome → q.notifiedProviderTradeNo ≠ "" ∧ trimSpace response.tradeNo ≠ "" ∧
      trimSpace q.notifiedProviderTradeNo = trimSpace response.tradeNo) "provider trade number mismatch"
    let review (order : AlipayLocalOrder) : AlipayReview :=
      ⟨order, q.notifiedProviderTradeNo, response.tradeStatus, "webhook", q.evidence, q.result order⟩
    if q.evidence.isSome ∧ order.status = .success then return recordAlipayRefundReview (review order)
    let paid := { order with status := .success }
    let tradeStatus := trimSpace response.tradeStatus
    if tradeStatus = "TRADE_SUCCESS" ∨ tradeStatus = "TRADE_FINISHED" then
      require (trimSpace response.tradeNo ≠ "") "支付宝查单成功响应缺少 trade_no"
      let next := if q.evidence.isSome then .review (review paid) else .finish (q.result paid)
      return completeAlipayLocalOrder site order response.tradeNo response.tradeStatus response.totalAmount next
    if tradeStatus = "TRADE_CLOSED" then
      let source := if q.evidence.isSome then "webhook" else "query"
      let providerTradeNo := if q.evidence.isSome then q.notifiedProviderTradeNo else response.tradeNo
      return .closing ⟨order.tradeNo, providerTradeNo, source, q.evidence, q.result paid,
        q.result { order with status := .expired }⟩
    if tradeStatus = "WAIT_BUYER_PAY" then return .done (q.result order)
    .error ("支付宝查单返回未知交易状态: " ++ response.tradeStatus)

/-- `handleAlipayTradeClosed`, after the order was read. -/
def afterClosingRead (c : AlipayClosing) (current : AlipayLocalOrder) : AlipayPlace :=
  match current.status with
  | .success => recordAlipayRefundReview ⟨current, c.providerTradeNo, "TRADE_CLOSED", c.source, c.evidence, c.reviewed⟩
  | .expired | .failed => .done c.closed
  | .pending =>
    match current.kind with
    | .topUp => .topUp (.update ⟨current.tradeNo, "alipay_direct", .expired⟩) (.closing c)
    | .subscription => .order (.expire ⟨current.tradeNo, "alipay_direct"⟩) (.closing c)

/-- `handleAlipayTradeClosed`, after an order that did not expire was read again. -/
def afterNotClosedRead (err : String) (c : AlipayClosing) (latest : AlipayLocalOrder) : AlipayPlace :=
  match latest.status with
  | .success => .closing { c with tradeNo := latest.tradeNo }
  | .expired => .done c.closed
  | _ => .done (.error err)

/-- What follows a write, by its result; `invalid` says that the order had another status than the write expects. -/
def afterWrite (result : Except String Unit) (invalid : Bool) : AlipayNext → AlipayPlace
  | .finish answer =>
    match result with
    | .error err => .done (.error err)
    | .ok () => .done answer
  | .refunded tradeNo providerTradeNo tradeStatus evidence =>
    match result with
    | .error err => .done (.error err)
    | .ok () => .refunded tradeNo providerTradeNo tradeStatus evidence
  | .review r =>
    match result with
    | .error err => .done (.error err)
    | .ok () => recordAlipayRefundReview r
  | .closing c =>
    match result with
    | .error err => if invalid then .notClosed err c else .done (.error err)
    | .ok () => .done c.closed

/-- The call ends with an error, or goes on. -/
def settle : Except String AlipayPlace → AlipayPlace
  | .error err => .done (.error err)
  | .ok place => place

/-- **The next step of a call.** -/
def alipayStep : AlipayPlace → AlipayInput → AlipayDb → AlipayPlace × AlipayDb
  | .notification params, i, db =>
    let tradeNo := trimSpace (param params "out_trade_no")
    if tradeNo = "" then (.done (.error "支付宝通知缺少 out_trade_no"), db)
    else (settle (loadAlipayLocalOrder site i db tradeNo >>= afterNotification site params), db)
  | .browserReturn params, i, db =>
    let tradeNo := trimSpace (param params "out_trade_no")
    if tradeNo = "" then (.done (.error "支付宝同步返回缺少 out_trade_no"), db)
    else (settle (loadAlipayLocalOrder site i db tradeNo >>= afterReturn site params), db)
  | .query q, i, db =>
    if site.configured q.config then
      (settle (loadAlipayLocalOrder site i db (trimSpace q.tradeNo) >>= afterQueryRead q), db)
    else (.done (.error "支付宝官方支付未配置"), db)
  | .asking q order, i, db => (settle (afterAnswer site q order i.answer), db)
  | .topUp (.done result) next, _, db => (afterWrite result (decide (result = .error "topup status invalid")) next, db)
  | .topUp place next, i, db =>
    let r := topUpStep site.topUp place ⟨i.env.now, i.fault⟩ db.topUpDb
    (.topUp r.1 next, db.putTopUps r.2)
  | .order (.done result) next, _, db =>
    (afterWrite (result.mapError OrderError.text) (decide (result = .error .orderStatusInvalid)) next, db)
  | .order place next, i, db =>
    let r := orderStep site.topUp.codec place ⟨i.env, i.fault⟩ db.toOrderDb
    (.order r.1 next, { db with toOrderDb := r.2 })
  | .refunded tradeNo providerTradeNo tradeStatus evidence, i, db =>
    (settle (loadAlipayLocalOrder site i db tradeNo >>= fun completed =>
      .ok (recordAlipayRefundReview ⟨completed, providerTradeNo, tradeStatus, "webhook", some evidence, .ok none⟩)), db)
  | .review r, i, db =>
    match i.fault with
    | some err => (.done (.error ("支付宝退款复核记录落库失败: " ++ err)), db)
    | none => (.done r.result, db)
  | .closing c, i, db => (settle ((loadAlipayLocalOrder site i db c.tradeNo).map (afterClosingRead c)), db)
  | .notClosed err c, i, db => (settle ((loadAlipayLocalOrder site i db c.tradeNo).map (afterNotClosedRead err c)), db)
  | .done result, _, db => (.done result, db)

end Calls

end SynthApi
