import SynthApi.Relay.HeaderOverride

/-!
# Isolation of the channels of a request

`Isolated` compares what a channel gets now with what it gets as the first one. Channels made for the purpose tell two
states of a request apart: one header, a header with a placeholder, and an operation under a condition on the model or
the path show whatever the request keeps from the channels before (`isolated_iff`). With the invariant `Reached` this
gives `headers_isolated_iff`.
-/

namespace SynthApi

open Lib Lib.Go RangeOrders List

variable (site : OverrideSite)

/-! ## Channels that tell requests apart -/

section Probes

variable {site} {order : MapOrder String} {orders : RangeOrders} {info : RequestInfo} {text : String}

def RangeOrders.asEntered : RangeOrders :=
  let order := MapOrder.asEntered String
  ⟨order, order, order, order, order, order, order, order, order⟩

/-- A channel with these header overrides and nothing else. -/
def plainAttempt (headers : JsonMap) : ChannelAttempt where
  retryIndex := 0
  lastError := none
  channelMeta := ⟨"", "", ∅, headers⟩
  originModelName := none
  requestURLPath := none
  contentType := none
  body := none
  sends := true
  orders := RangeOrders.asEntered

def oneHeader (text : String) : JsonMap := AList.singleton "x" (.string text)

def sentOne (value : String) : StringMap := AList.singleton "x" value

theorem sanitize_empty : sanitizeHeaderOverrideMap site order ∅ = ∅ := by
  simp [sanitizeHeaderOverrideMap]

theorem sanitize_oneHeader (htrim : trimSpace text = text) (hne : text ≠ "") :
    sanitizeHeaderOverrideMap site order (oneHeader text) = oneHeader text := by
  have hkey : normalizeHeaderContextKey "x" = "x" := by decide
  rw [sanitizeHeaderOverrideMap, oneHeader]
  simp [sanitizeEntry, hkey, formatValue, htrim, hne]

theorem process_empty
    (hsource : getEffectiveHeaderOverride site orders.upstream info = ∅) :
    processHeaderOverride site orders info = .ok ∅ := by
  simp [processHeaderOverride, hsource, pure, bind, Except.bind, Except.pure]

theorem process_oneHeader (htest : info.isChannelTest = false)
    (hsource : getEffectiveHeaderOverride site orders.upstream info = oneHeader text) :
    processHeaderOverride site orders info =
      (applyHeaderOverridePlaceholders site text info.header info.channelMeta.apiKey).map fun value =>
        value.elim ∅ sentOne := by
  have hkey : trimSpace (toLower "x") = "x" := by decide
  have hrule : isHeaderPassthroughRuleKey "x" = false := by decide
  have hpre : hasPrefix "x" "re:" = false ∧ hasPrefix "x" "regex:" = false := by decide
  rw [processHeaderOverride, hsource, oneHeader]
  cases hvalue : applyHeaderOverridePlaceholders site text info.header info.channelMeta.apiKey with
  | error err =>
    simp [htest, addPassRule, hkey, hpre, overrideHeader, hrule, hvalue, bind, Except.bind, Except.map, pure, Except.pure]
  | ok value =>
    cases value <;>
      simp [htest, addPassRule, hkey, hpre, overrideHeader, hrule, hvalue, bind, Except.bind, Except.map, pure, Except.pure,
        sentOne]

theorem sentHeaders_plain (headers : JsonMap) : sentHeaders site info (plainAttempt headers) =
    (processHeaderOverride site asEntered ((plainAttempt headers).prepare info)).toOption.map
      fun sent name => sent.lookup name := rfl

theorem sent_plain_one (htest : info.isChannelTest = false) (huse : info.useRuntimeHeadersOverride = false)
    (htrim : trimSpace text = text) (hne : text ≠ "") {value : Option String}
    (hvalue : applyHeaderOverridePlaceholders site text info.header "" = .ok value) :
    sentHeaders site info (plainAttempt (oneHeader text)) = some fun name => (value.elim ∅ sentOne).lookup name := by
  let prepared := (plainAttempt (oneHeader text)).prepare info
  have htest' : prepared.isChannelTest = false := htest
  have huse' : prepared.useRuntimeHeadersOverride = false := huse
  have heffective : getEffectiveHeaderOverride site asEntered.upstream prepared = oneHeader text := by
    rw [getEffectiveHeaderOverride, huse']
    exact sanitize_oneHeader htrim hne
  have hheader : prepared.header = info.header := rfl
  have hkey : prepared.channelMeta.apiKey = "" := rfl
  rw [sentHeaders_plain, process_oneHeader htest' heffective, hheader, hkey, hvalue]
  rfl

/-- With runtime headers the channel's own do not count. -/
theorem sent_plain_runtime (huse : info.useRuntimeHeadersOverride) (headers headers' : JsonMap) :
    sentHeaders site info (plainAttempt headers) = sentHeaders site info (plainAttempt headers') := by
  obtain ⟨⟨model, path, requestHeaders, test, header, runtime, use⟩, retryIndex, lastError, channelMeta⟩ := info
  obtain rfl : use := huse
  rfl

variable {header : Header} {key k : String}

theorem placeholders_text : applyHeaderOverridePlaceholders site "1" header "" = .ok (some "1") := by
  have hpre : hasPrefix (trimSpace "1") clientHeaderPlaceholderPrefix = false := by decide +kernel
  have hreplace : replaceAll "1" "\x7bapi_key\x7d" "" = "1" := by decide +kernel
  have htrim : trimSpace "1" ≠ "" := by decide +kernel
  simp [applyHeaderOverridePlaceholders, hpre, hreplace, htrim]

theorem placeholders_contentType :
    applyHeaderOverridePlaceholders site "\x7bclient_header:Content-Type\x7d" header "" =
      .ok (if trimSpace (header.first "Content-Type") = "" then none else some (header.first "Content-Type")) := by
  have hpre : hasPrefix (trimSpace "\x7bclient_header:Content-Type\x7d") clientHeaderPlaceholderPrefix := by
    decide +kernel
  have hcut : cutAt (trimPrefix (trimSpace "\x7bclient_header:Content-Type\x7d") clientHeaderPlaceholderPrefix) '}' =
      ("Content-Type", ['}']) := by decide +kernel
  have htrim : trimSpace "Content-Type" = "Content-Type" := by decide +kernel
  have hname : canonicalMIMEHeaderKey "Content-Type" = "Content-Type" := by decide +kernel
  simp [applyHeaderOverridePlaceholders, hpre, hcut, htrim, Header.get, hname]

theorem sentHeaders_override {a : ChannelAttempt} {body body' : Json} {info' : RequestInfo} (hbody : a.body = some body)
    (happly : applyParamOverrideWithRelayInfo site a.orders body (a.prepare info) = .ok (body', info')) :
    sentHeaders site info a = (a.send site info').map fun sent name => sent.lookup name := by
  simp only [sentHeaders, relayAttempt, hbody, happly]

theorem process_runtime_one (htest : info.isChannelTest = false)
    (hkey : info.channelMeta.apiKey = "") :
    processHeaderOverride site orders (info.withRuntimeHeaders (oneHeader "1")) = .ok (sentOne "1") := by
  set runtime := info.withRuntimeHeaders (oneHeader "1")
  have heffective : getEffectiveHeaderOverride site orders.upstream runtime = oneHeader "1" :=
    sanitize_oneHeader (by decide) (by decide)
  have hkey' : runtime.channelMeta.apiKey = "" := hkey
  have htest' : runtime.isChannelTest = false := htest
  rw [process_oneHeader htest' heffective, hkey']
  rfl

/-! ### An operation under a condition -/

def conditionalOperation (key text : String) : ParamOperation where
  path := "x"
  mode := .setHeader
  value := .string "1"
  keepOrigin := false
  fromSpec := ""
  toSpec := ""
  conditions := [⟨key, "full", .string text, false, false⟩]
  logic := "OR"

def conditionalAttempt (key text : String) : ChannelAttempt :=
  { plainAttempt ∅ with
    channelMeta := ⟨"", "", AList.singleton "operations" (.array [.object
      [("mode", .string "set_header"), ("path", .string "x"), ("value", .string "1"),
        ("conditions", .array [.object [("path", .string key), ("mode", .string "full"), ("value", .string text)]])]]), ∅⟩
    body := some (.object []) }

theorem tryParse_conditional (hkey : trimSpace key ≠ "") :
    tryParseOperations (conditionalAttempt key text).channelMeta.paramOverride = some [conditionalOperation key text] := by
  have hmode : trimSpace "full" ≠ "" := by decide
  have hlookup : (conditionalAttempt key text).channelMeta.paramOverride.lookup "operations" = some (.array [.object
      [("mode", .string "set_header"), ("path", .string "x"), ("value", .string "1"),
        ("conditions", .array [.object [("path", .string key), ("mode", .string "full"), ("value", .string text)]])]]) := rfl
  have hset : ParamMode.ofText "set_header" = .setHeader := by decide +kernel
  simp [tryParseOperations, hlookup, parseOperation, stringField, flagField, lookup_cons, parseConditionOperations, parseCondition, hkey, hmode, hset, conditionalOperation, Except.toOption]

structure ConditionKey (key : String) : Prop where
  plain : IsPlainKey key
  nonblank : trimSpace key ≠ ""
  noIndex : negativeIndices key.toList = []

theorem processNegativeIndex_plain (h : ConditionKey key) (data : Json) :
    processNegativeIndex site data key = key := by
  rw [processNegativeIndex, h.noIndex]
  rfl

variable {value : String}

/-- The condition holds exactly if the context has the text. -/
theorem check_conditional {context : Json} (hkey : ConditionKey key) (htext : text ≠ "")
    (hget : site.get context key = if value = "" then none else some (.string value)) :
    checkConditions site (.object []) context (conditionalOperation key text).conditions "OR" =
      .ok (decide (value = text)) := by
  have hbody : site.get (.object []) (processNegativeIndex site (.object []) key) = none := by
    rw [processNegativeIndex_plain hkey, site.get_field _ _ hkey.plain]
    rfl
  have hcompare : compareGjsonValues site (.string value) (.string text) (toLower "full") = .ok (decide (value = text)) := by
    rfl
  by_cases hvalue : value = ""
  · simp [checkConditions, conditionalOperation, checkSingleCondition, hbody, hget, hvalue, htext.symm]
  · simp [checkConditions, conditionalOperation, checkSingleCondition, hbody, hget, hvalue, hcompare]

/-- The headers of the context after the operation. -/
theorem apply_conditional {ctx : OverrideContext} (hkey : ConditionKey key) (htext : text ≠ "")
    (hget : site.get (contextJSON ctx) key = if value = "" then none else some (.string value)) :
    applyParamOverride site order ⟨.object [], ctx⟩ (conditionalAttempt key text).channelMeta.paramOverride =
      .ok ⟨.object [], if value = text then { ctx with headerOverride := ctx.headerOverride.insert "x" (.string "1") }
        else ctx⟩ := by
  have hentries : (conditionalAttempt key text).channelMeta.paramOverride.entries ≠ [] := nofun
  have hlegacy : buildLegacyParamOverride (conditionalAttempt key text).channelMeta.paramOverride = ∅ := by
    have hname : toLower (trimSpace "operations") = "operations" := by decide +kernel
    exact AList.ext (by simp [buildLegacyParamOverride, conditionalAttempt, hname])
  have hset : setHeaderOverrideInContext site ctx "x" (.string "1") false =
      .ok { ctx with headerOverride := ctx.headerOverride.insert "x" (.string "1") } := by
    have hname : normalizeHeaderContextKey "x" = "x" := by decide
    have hone : trimSpace "1" = "1" := by decide
    simp [setHeaderOverrideInContext, hname, resolveHeaderOverrideValue, formatValue, hone]
  have hcheck : checkConditions site (.object []) (contextJSON ctx) (conditionalOperation key text).conditions "OR" =
      .ok (decide (value = text)) := check_conditional hkey htext hget
  simp only [applyParamOverride, hentries, tryParse_conditional hkey.nonblank, hlegacy, applyOperationsLegacy,
    MapOrder.visit_empty, foldlM_nil, applyOperations, foldlM_cons, applyOperation, bind, Except.bind, pure,
    Except.pure]
  rw [show (conditionalOperation key text).logic = "OR" from rfl, hcheck]
  by_cases hvalue : value = text
  · simp [hvalue, runOperation, conditionalOperation, hset, Except.mapError, Except.map]
  · simp [hvalue]

/-- What the upstream of that channel gets while the channel's own headers count. -/
theorem sent_conditional (htest : info.isChannelTest = false)
    (huse : info.useRuntimeHeadersOverride = false) (hkey : ConditionKey key) (htext : text ≠ "")
    (hget : site.get (contextJSON (buildParamOverrideContext site asEntered
      ((conditionalAttempt key text).prepare info))) key = if value = "" then none else some (.string value)) :
    sentHeaders site info (conditionalAttempt key text) =
      some fun name => (if value = text then sentOne "1" else ∅).lookup name := by
  set prepared := (conditionalAttempt key text).prepare info
  have hentries : prepared.channelMeta.paramOverride.entries ≠ [] := nofun
  have heffective : getEffectiveHeaderOverride site asEntered.effective prepared = ∅ := by
    have huse' : prepared.useRuntimeHeadersOverride = false := huse
    rw [getEffectiveHeaderOverride, huse']
    exact sanitize_empty
  have hheaders : (buildParamOverrideContext site asEntered prepared).headerOverride = ∅ := by
    rw [buildParamOverrideContext, heffective]
    exact sanitize_empty
  have hover : prepared.channelMeta.paramOverride = (conditionalAttempt key text).channelMeta.paramOverride := rfl
  have happly : applyParamOverrideWithRelayInfo site asEntered (.object []) prepared =
      .ok (.object [], prepared.withRuntimeHeaders (if value = text then oneHeader "1" else ∅)) := by
    rw [applyParamOverrideWithRelayInfo, if_neg hentries, hover, apply_conditional hkey htext hget]
    by_cases hvalue : value = text
    · simp only [hvalue, if_true, Except.map, syncRuntimeHeaderOverrideFromContext, hheaders, AList.insert_empty]
      rw [← oneHeader, sanitize_oneHeader (by decide) (by decide)]
    · simp only [hvalue, if_false, Except.map, syncRuntimeHeaderOverrideFromContext, hheaders, sanitize_empty]
  have htest' : prepared.isChannelTest = false := htest
  have hsend : ∀ info', (conditionalAttempt key text).send site info' =
      (processHeaderOverride site asEntered info').toOption := fun _ => rfl
  rw [sentHeaders_override rfl happly, hsend]
  by_cases hvalue : value = text
  · rw [if_pos hvalue, process_runtime_one htest' rfl]
    simp only [if_pos hvalue]
    rfl
  · rw [if_neg hvalue, process_empty (by exact sanitize_empty)]
    simp only [if_neg hvalue]
    rfl

theorem lookup_textField_self : (textField key value).lookup key =
    if value = "" then none else some (.string value) := by
  unfold textField
  split <;> simp

theorem lookup_textField_ne (h : k ≠ key) : (textField key value).lookup k = none := by
  unfold textField
  split <;> simp [lookup_cons, beq_eq_false_iff_ne.2 h]

theorem LastError.lookup_fields (e : LastError) (h : k = "original_model" ∨ k = "request_path") :
    e.fields.lookup k = none := by
  rcases h with rfl | rfl <;> simp [LastError.fields]

/-- The context has the original model and the path under their names, if they are not empty. -/
theorem get_original_model (ctx : OverrideContext) : site.get (contextJSON ctx) "original_model" =
    if ctx.originModelName = "" then none else some (.string ctx.originModelName) := by
  rw [contextJSON, site.get_field _ _ (by decide), lookup_append, lookup_textField_self]
  split
  · cases ctx.lastError <;>
      simp [lookup_append, lookup_textField_ne, lookup_cons, LastError.lookup_fields]
  · rfl

theorem get_request_path (ctx : OverrideContext) : site.get (contextJSON ctx) "request_path" =
    if ctx.requestPath = "" then none else some (.string ctx.requestPath) := by
  rw [contextJSON, site.get_field _ _ (by decide), lookup_append, lookup_textField_ne (by decide),
    lookup_append, lookup_textField_self]
  split
  · cases ctx.lastError <;>
      simp [lookup_append, lookup_textField_ne, lookup_cons, LastError.lookup_fields]
  · rfl

end Probes

/-! ## Isolation -/

section Isolation

variable {site} {client : ClientRequest} {info : RequestInfo}

theorem sentOne_lookup (value : String) : (sentOne value).lookup "x" = some value := by
  rw [sentOne, ← AList.insert_empty, AList.lookup_insert]

/-- Under runtime headers no channel is isolated: its own headers would count if it were the first. -/
theorem Isolated.use_eq (h : Isolated site client info) : info.useRuntimeHeadersOverride = false := by
  by_contra huse
  have hone : sentHeaders site (genBaseRelayInfo client) (plainAttempt (oneHeader "1")) =
      some fun name => (sentOne "1").lookup name := sent_plain_one rfl rfl (by decide) (by decide) placeholders_text
  have hsame : sentHeaders site info (plainAttempt ∅) = sentHeaders site info (plainAttempt (oneHeader "1")) :=
    sent_plain_runtime (Bool.eq_true_of_not_eq_false huse) _ _
  rw [h, h, hone] at hsame
  have hx := congrFun (Option.some.inj hsame) "x"
  cases hx

/-- Two texts that every condition finds equal are equal. -/
theorem eq_of_sent {v v₀ : String} (h : ∀ text : String, text ≠ "" →
    (some fun name => (if v = text then sentOne "1" else ∅).lookup name) =
      some fun name => (if v₀ = text then sentOne "1" else ∅).lookup name) : v = v₀ := by
  have hiff : ∀ text : String, text ≠ "" → (v = text ↔ v₀ = text) := by
    intro text htext
    have hx := congrFun (Option.some.inj (h text htext)) "x"
    by_cases hv : v = text <;> by_cases hv₀ : v₀ = text <;> simp [hv, hv₀, sentOne_lookup] at hx ⊢
  by_cases hv : v = ""
  · by_cases hv₀ : v₀ = ""
    · rw [hv, hv₀]
    · exact (hiff v₀ hv₀).2 rfl
  · exact ((hiff v hv).1 rfl).symm

/-- **What a condition can read is what it was at first.** -/
theorem Isolated.context_eq (h : Isolated site client info) (hr : Reached client info) {key : String}
    {field : OverrideContext → String} (hkey : ConditionKey key)
    (hget : ∀ ctx, site.get (contextJSON ctx) key = if field ctx = "" then none else some (.string (field ctx)))
    (value : RequestInfo → String)
    (hvalue : ∀ info text, field (buildParamOverrideContext site asEntered
      ((conditionalAttempt key text).prepare info)) = value info) : value info = value (genBaseRelayInfo client) := by
  refine eq_of_sent fun text htext => ?_
  have hsent := h (conditionalAttempt key text)
  rw [sent_conditional hr.isChannelTest h.use_eq hkey htext (hget _), sent_conditional rfl rfl hkey htext (hget _),
    hvalue, hvalue] at hsent
  exact hsent

theorem Isolated.header_eq (h : Isolated site client info) (hr : Reached client info) : info.header = client.header := by
  rcases hr.header with hheader | ⟨t, hheader⟩
  · exact hheader
  · have hsent := h (plainAttempt (oneHeader "\x7bclient_header:Content-Type\x7d"))
    rw [sent_plain_one hr.isChannelTest h.use_eq (by decide) (by decide) placeholders_contentType,
      sent_plain_one rfl rfl (by decide) (by decide) placeholders_contentType, hheader, Header.set_first,
      if_neg t.nonblank] at hsent
    have hx := congrFun (Option.some.inj hsent) "x"
    have hfirst : client.header.first "Content-Type" = t.text := by
      by_cases hblank : trimSpace ((genBaseRelayInfo client).header.first "Content-Type") = ""
      · rw [if_pos hblank] at hx
        cases hx
      · rw [if_neg hblank] at hx
        exact (Option.some.inj hx).symm
    rw [hheader, Header.set_self t.text_ne_empty hfirst]

/-- **A channel is isolated exactly if the request keeps what it had at first.** -/
theorem isolated_iff (hr : Reached client info) :
    Isolated site client info ↔ info.toSharedInfo = (genBaseRelayInfo client).toSharedInfo := by
  constructor
  · intro h
    have hmodel := h.context_eq hr ⟨by decide, by decide, by decide⟩ get_original_model (·.originModelName) fun _ _ => rfl
    have hpath := h.context_eq hr ⟨by decide, by decide, by decide⟩ get_request_path (·.requestURLPath) fun _ _ => rfl
    have hheader := h.header_eq hr
    have huse := h.use_eq
    obtain ⟨hrequest, htest, -, hruntime⟩ := hr
    obtain ⟨⟨model, path, requestHeaders, test, header, runtime, use⟩, retryIndex, lastError, channelMeta⟩ := info
    simp only [genBaseRelayInfo, SharedInfo.mk.injEq]
    exact ⟨hmodel, hpath, hrequest, htest, hheader, hruntime huse, huse⟩
  · intro hshared a
    rw [sentHeaders, sentHeaders, relayAttempt_congr hshared]

end Isolation

/-- **Headers stay with their channel** exactly as long as no channel writes into the request: in every state of a request,
whatever channel comes next gets the override headers that it would get as the first one, if and only if no channel that
was tried has applied a parameter override, or has written another model, path or content type. -/
theorem headers_isolated_iff (client : ClientRequest) (tried : List ChannelAttempt) :
    Always (attemptStep site) (Isolated site client) (genBaseRelayInfo client) tried ↔
      ∀ a ∈ tried, a.KeepsRequest site client := by
  have hstep : ∀ info a, True → Reached client info → Isolated site client info →
      (Isolated site client (attemptStep site info a) ↔ a.KeepsRequest site client) := by
    intro info a _ hr h
    have hsame : attemptStep site info a = attemptStep site (genBaseRelayInfo client) a :=
      congrArg Prod.fst (relayAttempt_congr ((isolated_iff hr).1 h))
    rw [isolated_iff hr.step, hsame, keepsRequest_iff]
  rw [always_iff_along (fun _ _ _ hr => hr.step) hstep (fun _ _ => trivial) reached_start fun _ => rfl, along_iff_forall]

namespace Sample

/-- gjson on the fields of an object; no operation changes the body. -/
def overrideSite : OverrideSite where
  get
    | .object fields, key => fields.lookup key
    | _, _ => none
  get_field _ _ _ := rfl
  set _ _ _ := .error "invalid path"
  editBody _ _ _ body := .ok body
  returnError _ := "request blocked by param override"
  sprint _ := ""
  resultText _ := ""
  quote text := text
  unmarshal _ := none
  unmarshal_weight := nofun
  compile _ := .error "invalid regular expression"

def client : ClientRequest := ⟨"gpt-4o", "/v1/chat/completions", ⟨[], fun _ => "", fun _ _ => rfl⟩, MapOrder.asEntered String⟩

/-- A channel whose parameter override sets a header. -/
def overridingChannel : ChannelAttempt :=
  { plainAttempt ∅ with
    channelMeta := ⟨"sk-first", "gpt-4o", AList.singleton "operations" (.array [.object
      [("mode", .string "set_header"), ("path", .string "X-Secret"), ("value", .string "of-first")]]), ∅⟩
    body := some (.object [("model", .string "gpt-4o")]) }

def ownHeaderChannel : ChannelAttempt :=
  { plainAttempt (AList.singleton "X-Own" (.string "of-second")) with
    body := some (.object [("model", .string "gpt-4o")]) }

end Sample

open Sample

/-- Two channels with header overrides only do not disturb each other. -/
theorem headers_isolated_sample :
    Always (attemptStep overrideSite) (Isolated overrideSite client)
      (genBaseRelayInfo client) [ownHeaderChannel, plainAttempt (oneHeader "1")] := by
  refine (headers_isolated_iff overrideSite client _).2 ?_
  intro a ha
  rcases mem_pair.1 ha with rfl | rfl
  · exact ⟨nofun, nofun, nofun, by decide +kernel⟩
  · exact ⟨nofun, nofun, nofun, by decide +kernel⟩

/-- **A header of the first channel is sent to the upstream of the second**, in place of the second channel's own. -/
theorem headers_leak :
    let start := genBaseRelayInfo client
    let sentFirst := sentHeaders overrideSite start ownHeaderChannel
    let sentSecond := sentHeaders overrideSite (attemptStep overrideSite start overridingChannel)
      ownHeaderChannel
    sentFirst.bind (· "x-own") = some "of-second" ∧ sentFirst.bind (· "x-secret") = none ∧
      sentSecond.bind (· "x-own") = none ∧ sentSecond.bind (· "x-secret") = some "of-first" := by
  decide +kernel

end SynthApi
