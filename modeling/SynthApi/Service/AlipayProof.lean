import SynthApi.Service.AlipayDirect

/-!
# Proofs of payment

A proof of payment (`PaymentProved`) is a signature that was received and is valid under the platform key of the order's own
payment profile, over the text it came with, which says that the trade was paid, and names the trade number and the amount of
the order. What a call receives are the parameters of a notification, and the answers of the gateway (`Received`).

Every place of a call has a condition, `AlipayPlace.Ok`: the order that was read is in the tables with that money and that
profile, and an order that is being completed has its proof. Others may change the tables as they like, as long as they
keep the orders (`KeepsOrders`). The checks of the calls lead from one place to the next: a notification and an answer of
the gateway start a completion only if they are the proof.
-/

namespace SynthApi

open Lib Lib.Go

/-! ## Proofs of payment -/

inductive AlipayMessage where
  | notification (params : AlipayParams)
  | answer (rawResponse : String)

inductive AlipayField where
  | tradeStatus
  | outTradeNo
  | totalAmount

def AlipayField.name : AlipayField → String
  | .tradeStatus => "trade_status"
  | .outTradeNo => "out_trade_no"
  | .totalAmount => "total_amount"

def AlipayTradeQueryResponse.field (r : AlipayTradeQueryResponse) : AlipayField → String
  | .tradeStatus => r.tradeStatus
  | .outTradeNo => r.outTradeNo
  | .totalAmount => r.totalAmount

namespace AlipayMessage

/-- The text that is signed. -/
def text : AlipayMessage → String
  | .notification params => canonicalAlipayNotificationParams params
  | .answer rawResponse => rawResponse

/-- The signed text gives the field this value. -/
def Says (site : AlipaySite) : AlipayMessage → AlipayField → String → Prop
  | .notification params, f, v => f.name ++ "=" ++ v ∈ canonicalParts params
  | .answer rawResponse, f, v => ∃ r, site.tradeQueryResponse rawResponse = some r ∧ r.field f = v

/-- The message is about a trade that is paid, with this number, over this money. -/
structure Pays (site : AlipaySite) (m : AlipayMessage) (tradeNo : String) (money : ℚ) : Prop where
  status : ∃ v, m.Says site .tradeStatus v ∧ (trimSpace v = "TRADE_SUCCESS" ∨ trimSpace v = "TRADE_FINISHED")
  tradeNo : ∃ v, m.Says site .outTradeNo v ∧ trimSpace v = tradeNo
  amount : ∃ v, m.Says site .totalAmount v ∧ site.topUp.codec.decimal (trimSpace v) = some (round2 money)

end AlipayMessage

/-- The body of an answer has this message and this signature. -/
def GatewayAnswer.Carries (site : AlipaySite) (m : AlipayMessage) (signature : String) : GatewayAnswer → Prop
  | .failed _ => False
  | .response _ body => ∃ envelope rawResponse sign, site.envelope body = some envelope ∧
      envelope "alipay_trade_query_response" = some rawResponse ∧ m = .answer rawResponse ∧
      envelope "sign" = some sign ∧ site.jsonString sign = some signature

/-- A message and a signature that come with the call, or with an answer to it. -/
def Received (site : AlipaySite) (call : AlipayPlace) (answers : GatewayAnswer → Prop) (m : AlipayMessage)
    (signature : String) : Prop :=
  (∃ params, call = .notification params ∧ m = .notification params ∧ signature = trimSpace (param params "sign")) ∨
    ∃ answer, answers answer ∧ answer.Carries site m signature

/-- The profile that an order names; the first one if it names none. -/
def orderProfileID (profileID : String) : String :=
  if trimSpace profileID = "" then legacyAlipayProfileID else trimSpace profileID

/-- **A proof of payment** for an order, among the messages `R` with their signatures. -/
def PaymentProved (site : AlipaySite) (R : AlipayMessage → String → Prop) (tradeNo : String) (money : ℚ)
    (profileID : String) : Prop :=
  ∃ config, OwnConfig site.fingerprint site.setting.getAlipayProfiles (orderProfileID profileID) config ∧
    ∃ m signature, R m signature ∧
      site.verifySignature m.text signature config.platformPublicKey = none ∧ m.Pays site tradeNo money

/-! ## The tables -/

section Tables

def HasRow (db : AlipayDb) (tradeNo : String) (money : ℚ) (profileID : String) : Prop :=
  (∃ o, db.order tradeNo = some o ∧ o.money = money ∧ o.paymentProfile = profileID) ∨
    ∃ t, db.topUp tradeNo = some t ∧ t.money = money ∧ t.paymentProfile = profileID

/-- The tables as the program leaves them: `id` is the primary key, and a top-up with the trade number of a subscription order
is the record of that order. -/
structure AlipayDb.Sound (db : AlipayDb) : Prop where
  ids : (db.orders.map SubscriptionOrder.id).Nodup
  paired : ∀ tradeNo o t, db.order tradeNo = some o → db.topUp tradeNo = some t →
    t.money = o.money ∧ t.paymentProfile = o.paymentProfile

structure KeepsOrders (db db' : AlipayDb) : Prop where
  sound : db'.Sound
  orders : ∀ tradeNo o, db.order tradeNo = some o →
    ∃ o', db'.order tradeNo = some o' ∧ o'.id = o.id ∧ o'.money = o.money ∧ o'.paymentProfile = o.paymentProfile
  topUps : ∀ tradeNo t, db.topUp tradeNo = some t →
    ∃ t', db'.topUp tradeNo = some t' ∧ t'.money = t.money ∧ t'.paymentProfile = t.paymentProfile

variable {db db' : AlipayDb} {tradeNo profileID profileID' : String} {money money' : ℚ}

theorem HasRow.unique (hsound : db.Sound) (h : HasRow db tradeNo money profileID) (h' : HasRow db tradeNo money' profileID') :
    money = money' ∧ profileID = profileID' := by
  rcases h with ⟨o, ho, rfl, rfl⟩ | ⟨t, ht, rfl, rfl⟩ <;> rcases h' with ⟨o', ho', rfl, rfl⟩ | ⟨t', ht', rfl, rfl⟩
  · obtain rfl := Option.some.inj (ho.symm.trans ho')
    exact ⟨rfl, rfl⟩
  · obtain ⟨hmoney, hprofile⟩ := hsound.paired _ _ _ ho ht'
    exact ⟨hmoney.symm, hprofile.symm⟩
  · exact hsound.paired _ _ _ ho' ht
  · obtain rfl := Option.some.inj (ht.symm.trans ht')
    exact ⟨rfl, rfl⟩

theorem HasRow.mono (hkeeps : KeepsOrders db db') (h : HasRow db tradeNo money profileID) :
    HasRow db' tradeNo money profileID := by
  rcases h with ⟨o, ho, rfl, rfl⟩ | ⟨t, ht, rfl, rfl⟩
  · obtain ⟨o', ho', -, hmoney, hprofile⟩ := hkeeps.orders _ _ ho
    exact .inl ⟨o', ho', hmoney, hprofile⟩
  · obtain ⟨t', ht', hmoney, hprofile⟩ := hkeeps.topUps _ _ ht
    exact .inr ⟨t', ht', hmoney, hprofile⟩

theorem KeepsOrders.refl (hsound : db.Sound) : KeepsOrders db db :=
  ⟨hsound, fun _ o ho => ⟨o, ho, rfl, rfl, rfl⟩, fun _ t ht => ⟨t, ht, rfl, rfl⟩⟩

def AlipayDb.localOrder (site : AlipaySite) (db : AlipayDb) (tradeNo : String) : Except String AlipayLocalOrder :=
  SynthApi.localOrder site (db.order tradeNo) (db.topUp tradeNo)

variable {site : AlipaySite} {order : AlipayLocalOrder}

theorem localOrder_row {o : Option SubscriptionOrder} {t : Option TopUp}
    (h : localOrder site o t = .ok order) :
    (∃ row, o = some row ∧ order = localOfOrder site row) ∨ o = none ∧ ∃ row, t = some row ∧ order = localOfTopUp row := by
  rcases o with _ | row
  · rcases t with _ | row
    · cases h
    · rw [localOrder] at h
      split_ifs at h
      exact .inr ⟨rfl, row, rfl, (Except.ok.inj h).symm⟩
  · rw [localOrder] at h
    split_ifs at h
    exact .inl ⟨row, rfl, (Except.ok.inj h).symm⟩

theorem load_row {i : AlipayInput}
    (h : loadAlipayLocalOrder site i db tradeNo = .ok order) :
    order.tradeNo = tradeNo ∧ HasRow db tradeNo order.money order.profileID := by
  rw [loadAlipayLocalOrder] at h
  split_ifs at h
  all_goals
    rcases localOrder_row h with ⟨row, hrow, rfl⟩ | ⟨-, row, hrow, rfl⟩
    · first
      | exact ⟨(Table.key_of_lookup hrow :), .inl ⟨row, hrow, rfl, rfl⟩⟩
      | cases hrow
    · first
      | exact ⟨(Table.key_of_lookup hrow :), .inr ⟨row, hrow, rfl, rfl⟩⟩
      | cases hrow

end Tables

/-! ## The conditions of the places -/

section Conditions

variable (site : AlipaySite) (R : AlipayMessage → String → Prop)

def HasProof (db : AlipayDb) (tradeNo : String) : Prop :=
  ∃ money profileID, HasRow db tradeNo money profileID ∧ PaymentProved site R tradeNo money profileID

def CompletesTopUp (tradeNo : String) (c : Completion) : Prop :=
  ∃ providerTradeNo paidMoney, c = completeAlipayDirectTopUp site.topUp tradeNo providerTradeNo paidMoney

def TopUpPlace.Proved (P : String → Prop) : TopUpPlace → Prop
  | .start c => ∃ tradeNo, P tradeNo ∧ CompletesTopUp site tradeNo c
  | .toSave c t | .toCredit c t | .toClear c t _ | .toCommit c t _ => P t.tradeNo ∧ CompletesTopUp site t.tradeNo c
  | .update u => u.targetStatus = .expired
  | .conflict _ | .notUpdated _ | .done _ => True

def IsCopy (db : OrderDb) (order : SubscriptionOrder) : Prop :=
  ∃ o, db.order order.tradeNo = some o ∧ o.id = order.id ∧ o.money = order.money ∧
    o.paymentProfile = order.paymentProfile

def Write.Completes (order : SubscriptionOrder) : Write → Prop
  | .claimOrder id _ _ => id = order.id
  | .insertTopUp t | .saveTopUp t =>
    t.tradeNo = order.tradeNo ∧ t.money = order.money ∧ t.paymentProfile = order.paymentProfile
  | .setGroup _ _ | .insertSubscription _ => True

def TxStmt.OfOrder (order : SubscriptionOrder) : TxStmt → Prop
  | .writeTopUp _ (some topUp) => topUp.tradeNo = order.tradeNo
  | _ => True

/-- A subscription order is completed only if it has a proof, `P`; or it expires. -/
def OrderPlace.Proved (P : String → Prop) (db : OrderDb) : OrderPlace → Prop
  | .complete c => P c.tradeNo
  | .checked _ order => P order.tradeNo ∧ IsCopy db order
  | .inTx t => P t.order.tradeNo ∧ IsCopy db t.order ∧ t.next.OfOrder t.order ∧ ∀ w ∈ t.log, w.Completes t.order
  | .conflict _ | .expire _ | .notExpired _ | .done _ => True

/-- What holds where a call stands. -/
def AlipayPlace.Ok (db : AlipayDb) : AlipayPlace → Prop
  | .notification params => R (.notification params) (trimSpace (param params "sign"))
  | .query q =>
    trimSpace q.tradeNo = q.tradeNo ∧
      ∃ read, HasRow db q.tradeNo read.money read.profileID ∧ alipayConfigForOrder site read = .ok q.config
  | .asking q asked =>
    HasRow db asked.tradeNo asked.money asked.profileID ∧ alipayConfigForOrder site asked = .ok q.config
  | .topUp place _ => place.Proved site (HasProof site R db)
  | .order place _ => place.Proved (HasProof site R db) db.toOrderDb
  | .browserReturn _ | .refunded _ _ _ _ | .review _ | .closing _ | .notClosed _ _ | .done _ => True

variable {site R} {db db' : AlipayDb}

theorem HasProof.mono (hkeeps : KeepsOrders db db') {tradeNo : String} (h : HasProof site R db tradeNo) :
    HasProof site R db' tradeNo := by
  obtain ⟨money, profileID, hrow, hproved⟩ := h
  exact ⟨money, profileID, hrow.mono hkeeps, hproved⟩

theorem TopUpPlace.Proved.mono {P P' : String → Prop} (hP : ∀ tradeNo, P tradeNo → P' tradeNo) {place : TopUpPlace}
    (h : place.Proved site P) : place.Proved site P' := by
  cases place with
  | start c =>
    obtain ⟨tradeNo, hp, hc⟩ := h
    exact ⟨tradeNo, hP _ hp, hc⟩
  | toSave c t | toCredit c t | toClear c t x | toCommit c t x => exact ⟨hP _ h.1, h.2⟩
  | update u => exact h
  | _ => trivial

variable (hkeeps : KeepsOrders db db')

include hkeeps

theorem IsCopy.mono {order : SubscriptionOrder} (h : IsCopy db.toOrderDb order) :
    IsCopy db'.toOrderDb order := by
  obtain ⟨o, ho, hid, hmoney, hprofile⟩ := h
  obtain ⟨o', ho', hid', hmoney', hprofile'⟩ := hkeeps.orders _ _ ho
  exact ⟨o', ho', hid'.trans hid, hmoney'.trans hmoney, hprofile'.trans hprofile⟩

theorem OrderPlace.Proved.mono {place : OrderPlace}
    (h : place.Proved (HasProof site R db) db.toOrderDb) : place.Proved (HasProof site R db') db'.toOrderDb := by
  cases place with
  | complete c => exact HasProof.mono hkeeps h
  | checked c order => exact ⟨h.1.mono hkeeps, h.2.mono hkeeps⟩
  | inTx t => exact ⟨h.1.mono hkeeps, h.2.1.mono hkeeps, h.2.2⟩
  | _ => trivial

/-- **Others do not disturb a call.** -/
theorem AlipayPlace.Ok.mono {place : AlipayPlace} (h : place.Ok site R db) :
    place.Ok site R db' := by
  cases place with
  | notification params => exact h
  | query q =>
    obtain ⟨htrim, order, hrow, hconfig⟩ := h
    exact ⟨htrim, order, hrow.mono hkeeps, hconfig⟩
  | asking q order => exact ⟨h.1.mono hkeeps, h.2⟩
  | topUp place next => exact TopUpPlace.Proved.mono (fun _ => HasProof.mono hkeeps) h
  | order place next => exact OrderPlace.Proved.mono hkeeps h
  | _ => trivial

end Conditions

/-! ## The checks -/

section Checks

variable {site : AlipaySite} {R : AlipayMessage → String → Prop} {db : AlipayDb} {order : AlipayLocalOrder}
  {config : AlipayDirectConfig} {params : AlipayParams}

/-- A parameter is in the signed text, unless it is empty. -/
theorem mem_canonicalParts {name : String} (hsign : name ≠ "sign") (htype : name ≠ "sign_type")
    (hne : param params name ≠ "") : name ++ "=" ++ param params name ∈ canonicalParts params := by
  have hkey : name ∈ params.keys := by
    by_contra hnot
    refine hne ?_
    rw [param, AList.lookup_eq_none.2 fun hmem => hnot (AList.mem_keys.1 hmem)]
    rfl
  refine List.mem_map.2 ⟨name, (List.mem_insertionSort _).2 (List.mem_filter.2 ⟨hkey, ?_⟩), rfl⟩
  simp [hsign, htype, hne]

theorem ne_empty_of_trimSpace {s : String} (h : trimSpace s ≠ "") : s ≠ "" := by
  rintro rfl
  exact h (by decide +kernel)

theorem alipayConfig_own (h : alipayConfigForOrder site order = .ok config) :
    OwnConfig site.fingerprint site.setting.getAlipayProfiles (orderProfileID order.profileID) config := by
  rw [alipayConfigForOrder] at h
  split at h
  · cases h
  next profile hprofile =>
    cases h
    exact getAlipayProfileVersion_own hprofile

/-- The parameters are signed with the key of the order's profile. -/
theorem checkAlipayParams_ok {source : String} (h : checkAlipayParams site source params order = .ok config) :
    alipayConfigForOrder site order = .ok config ∧
      site.verifySignature (canonicalAlipayNotificationParams params) (trimSpace (param params "sign"))
        config.platformPublicKey = none := by
  obtain ⟨found, hfound, h⟩ := bind_ok h
  obtain ⟨-, -, h⟩ := bind_ok h
  obtain ⟨⟨⟩, hverify, h⟩ := bind_ok h
  obtain ⟨-, -, h⟩ := bind_ok h
  obtain ⟨-, -, h⟩ := bind_ok h
  obtain ⟨-, -, h⟩ := bind_ok h
  cases h
  refine ⟨hfound, ?_⟩
  rw [verifyAlipayDirectParams] at hverify
  split at hverify
  · cases hverify
  · cases hresult : site.verifySignature (canonicalAlipayNotificationParams params) (trimSpace (param params "sign"))
        config.platformPublicKey with
    | none => rfl
    | some err =>
      rw [hresult] at hverify
      cases hverify

theorem validateAlipayAmount_ok {money : ℚ} {actual : String} (h : validateAlipayAmount site money actual = .ok ()) :
    site.topUp.codec.decimal (trimSpace actual) = some (round2 money) ∧ actual ≠ "" := by
  obtain ⟨expected, hexpected, h⟩ := bind_ok h
  have hround : expected = round2 money := by
    rw [normalizeAlipayMoney] at hexpected
    split_ifs at hexpected
    exact (Except.ok.inj hexpected).symm
  split at h
  · cases h
  next amount hamount =>
    obtain ⟨-, -, h⟩ := bind_ok h
    have hequal : amount = expected := require_ok h
    refine ⟨by rw [hamount, hequal, hround], ?_⟩
    rintro rfl
    rw [show trimSpace "" = "" by decide +kernel, site.decimal_empty] at hamount
    cases hamount

variable {answer : GatewayAnswer} {q : AlipayQuery}

/-- An answer to a query is signed with the key of the profile. -/
theorem queryAlipayTrade_ok {response : AlipayTradeQueryResponse}
    (h : queryAlipayTrade site config answer = .ok (some response)) :
    ∃ rawResponse signature, answer.Carries site (.answer rawResponse) signature ∧
      site.tradeQueryResponse rawResponse = some response ∧
      site.verifySignature rawResponse signature config.platformPublicKey = none := by
  cases answer with
  | failed err => cases h
  | response statusCode body =>
    obtain ⟨-, -, h⟩ := bind_ok h
    obtain ⟨rawResponse, hraw, h⟩ := bind_ok h
    split at h
    · cases h
    next result hresult =>
      split_ifs at h
      · cases h
      · cases h
        rw [signedResponse] at hraw
        split at hraw
        · cases hraw
        next envelope henvelope =>
          split at hraw
          · cases hraw
          next hbody =>
            split at hraw
            · cases hraw
            · cases hraw
            · cases hraw
            next hsign =>
              obtain ⟨sign, hsign, hsignature⟩ := Option.map_eq_some_iff.1 hsign
              split at hraw
              · cases hraw
              next hverify =>
                cases hraw
                exact ⟨_, _, ⟨envelope, _, sign, henvelope, (Option.filter_eq_some_iff.1 hbody).1, rfl, hsign, hsignature⟩,
                  hresult, hverify⟩

/-! ## Reads and answers -/

theorem recordAlipayRefundReview_ok (r : AlipayReview) : (recordAlipayRefundReview r).Ok site R db := by
  unfold recordAlipayRefundReview
  split <;> trivial

theorem completeAlipayLocalOrder_ok (hproof : HasProof site R db order.tradeNo)
    (providerTradeNo tradeStatus paidMoney : String) (next : AlipayNext) :
    (completeAlipayLocalOrder site order providerTradeNo tradeStatus paidMoney next).Ok site R db := by
  unfold completeAlipayLocalOrder
  split
  · exact ⟨order.tradeNo, hproof, _, _, rfl⟩
  · exact hproof

variable {place : AlipayPlace}

variable (htradeNo : order.tradeNo = trimSpace (param params "out_trade_no"))

include htradeNo

theorem afterNotification_ok (hreceived : R (.notification params) (trimSpace (param params "sign"))) (hne : order.tradeNo ≠ "")
    (hrow : HasRow db order.tradeNo order.money order.profileID) (h : afterNotification site params order = .ok place) :
    place.Ok site R db := by
  obtain ⟨config, hconfig, h⟩ := bind_ok h
  obtain ⟨⟨⟩, hamount, h⟩ := bind_ok h
  obtain ⟨evidence, -, h⟩ := bind_ok h
  obtain ⟨hown, hsigned⟩ := checkAlipayParams_ok hconfig
  obtain ⟨hdecimal, hnonempty⟩ := validateAlipayAmount_ok hamount
  dsimp only at h
  split_ifs at h with hseller hreview hpaid hclosed hwait
  · cases h
    have htrim := trimSpace_trimSpace (param params "out_trade_no")
    rw [htradeNo] at hrow
    exact ⟨htrim, order, hrow, hown⟩
  · cases h
    exact recordAlipayRefundReview_ok _
  · obtain ⟨-, -, h⟩ := bind_ok h
    cases h
    refine completeAlipayLocalOrder_ok ⟨_, _, hrow, config, alipayConfig_own hown, .notification params, _,
      hreceived, hsigned, ?_⟩ _ _ _ _
    have hstatus : trimSpace (param params "trade_status") ≠ "" := by
      rcases hpaid with hpaid | hpaid <;> rw [hpaid] <;> decide
    rw [htradeNo] at hne
    exact
      { status := ⟨param params "trade_status",
          mem_canonicalParts (by decide) (by decide) (ne_empty_of_trimSpace hstatus), hpaid⟩
        tradeNo := ⟨param params "out_trade_no",
          mem_canonicalParts (by decide) (by decide) (ne_empty_of_trimSpace hne), htradeNo.symm⟩
        amount := ⟨param params "total_amount", mem_canonicalParts (by decide) (by decide) hnonempty, hdecimal⟩ }
  · cases h
    trivial
  · cases h
    trivial

theorem afterReturn_ok
    (hrow : HasRow db order.tradeNo order.money order.profileID) (h : afterReturn site params order = .ok place) :
    place.Ok site R db := by
  obtain ⟨config, hconfig, h⟩ := bind_ok h
  cases h
  have htrim := trimSpace_trimSpace (param params "out_trade_no")
  rw [htradeNo] at hrow
  exact ⟨htrim, order, hrow, (checkAlipayParams_ok hconfig).1⟩

omit htradeNo

variable (hrow : HasRow db order.tradeNo order.money order.profileID)

include hrow

theorem afterQueryRead_ok (hconfig : alipayConfigForOrder site order = .ok q.config)
    (h : afterQueryRead q order = .ok place) : place.Ok site R db := by
  rw [afterQueryRead] at h
  split_ifs at h
  · cases h
    trivial
  · cases h
    exact ⟨hrow, hconfig⟩

theorem afterAnswer_ok (hconfig : alipayConfigForOrder site order = .ok q.config)
    (hreceived : ∀ m signature, answer.Carries site m signature → R m signature)
    (h : afterAnswer site q order answer = .ok place) : place.Ok site R db := by
  obtain ⟨response, hresponse, h⟩ := bind_ok h
  cases response with
  | none =>
    obtain ⟨-, -, h⟩ := bind_ok h
    cases h
    trivial
  | some response =>
    obtain ⟨rawResponse, signature, hcarries, hdecode, hsigned⟩ := queryAlipayTrade_ok hresponse
    obtain ⟨⟨⟩, htradeNo, h⟩ := bind_ok h
    obtain ⟨⟨⟩, hamount, h⟩ := bind_ok h
    obtain ⟨-, -, h⟩ := bind_ok h
    obtain ⟨-, -, h⟩ := bind_ok h
    dsimp only at h
    split at h
    next => exact Except.ok.inj h ▸ recordAlipayRefundReview_ok _
    next =>
      split at h
      next hpaid =>
        obtain ⟨-, -, h⟩ := bind_ok h
        cases h
        refine completeAlipayLocalOrder_ok ⟨_, _, hrow, q.config, alipayConfig_own hconfig, .answer rawResponse, signature,
          hreceived _ _ hcarries, hsigned, ?_⟩ _ _ _ _
        exact
          { status := ⟨response.tradeStatus, ⟨response, hdecode, rfl⟩, hpaid⟩
            tradeNo := ⟨response.outTradeNo, ⟨response, hdecode, rfl⟩, require_ok htradeNo⟩
            amount := ⟨response.totalAmount, ⟨response, hdecode, rfl⟩, (validateAlipayAmount_ok hamount).1⟩ }
      next =>
        -- A trade that is closed, or still waits for its payment.
        split at h
        next => exact Except.ok.inj h ▸ trivial
        next =>
          split at h
          · exact Except.ok.inj h ▸ trivial
          · cases h

omit hrow

theorem afterWrite_ok (result : Except String Unit) (invalid : Bool) (next : AlipayNext) :
    (afterWrite result invalid next).Ok site R db := by
  cases next with
  | finish answer | refunded tradeNo providerTradeNo tradeStatus evidence => cases result <;> trivial
  | review r =>
    cases result with
    | error err => trivial
    | ok => exact recordAlipayRefundReview_ok r
  | closing c =>
    cases result with
    | error err =>
      rw [afterWrite]
      split <;> trivial
    | ok => trivial

theorem afterClosingRead_ok (c : AlipayClosing) (current : AlipayLocalOrder) : (afterClosingRead c current).Ok site R db := by
  unfold afterClosingRead
  split
  · exact recordAlipayRefundReview_ok _
  · trivial
  · trivial
  · split
    · rfl
    · trivial

/-- A call that ends with an error, or goes on. -/
theorem settle_ok {x : Except String AlipayPlace} (h : ∀ place, x = .ok place → place.Ok site R db) :
    (settle x).Ok site R db := by
  cases x with
  | error err => trivial
  | ok place => exact h place rfl

end Checks

end SynthApi
