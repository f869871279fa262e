import SynthApi.Lib.Run
import SynthApi.Relay.ParamOverride

/-!
# Header overrides across the channels of a request

A request that fails at one channel is relayed to another. `processHeaderOverride` (`relay/channel/api_request.go`) makes
the override headers that an upstream gets; one `RelayInfo` serves all channels, and `InitChannelMeta` replaces only what
it holds of the channel. `attemptStep_cases` says what an attempt leaves in the request, and `Reached` what holds of the
request after any attempts; `KeepsRequest` describes the attempts that leave nothing.
-/

namespace SynthApi

open Lib Lib.Go

variable (site : OverrideSite)

/-! ## The headers for an upstream -/

def passthroughSkipHeaderNamesLower : List String :=
  ["connection", "keep-alive", "proxy-authenticate", "proxy-authorization", "te", "trailer", "transfer-encoding", "upgrade",
    "cookie", "host", "content-length", "accept-encoding", "authorization", "x-api-key", "x-goog-api-key",
    "sec-websocket-key", "sec-websocket-version", "sec-websocket-extensions"]

def isHeaderPassthroughRuleKey (key : String) : Bool :=
  let key := trimSpace key
  decide (key = "*") || hasPrefix (toLower key) "re:" || hasPrefix (toLower key) "regex:"

def shouldSkipPassthroughHeader (name : String) : Bool :=
  let name := trimSpace name
  decide (name = "") || passthroughSkipHeaderNamesLower.contains (toLower name)

def clientHeaderPlaceholderPrefix : String := "\x7bclient_header:"

/-- The value with the placeholders filled in; `none` if nothing is sent. -/
def applyHeaderOverridePlaceholders (template : String) (header : Header) (apiKey : String) :
    Except String (Option String) :=
  let trimmed := trimSpace template
  if hasPrefix trimmed clientHeaderPlaceholderPrefix then
    match cutAt (trimPrefix trimmed clientHeaderPlaceholderPrefix) '}' with
    | (name, ['}']) =>
      if trimSpace name = "" then .error ("client_header placeholder name is empty: " ++ site.quote template)
      else
        let value := header.get (trimSpace name)
        .ok (if trimSpace value = "" then none else some value)
    | _ => .error ("client_header placeholder must be the full value: " ++ site.quote template)
  else
    let value := replaceAll template "\x7bapi_key\x7d" apiKey
    .ok (if trimSpace value = "" then none else some value)

/-- The headers of the client that are handed on: all, or those that one of the regular expressions matches. -/
structure PassRules where
  all : Bool
  regexes : List (String → Bool)

/-- A rule, for a key of the override that is one. -/
def addPassRule (rules : PassRules) (key : String) : Except String PassRules :=
  let addRegex (pattern : String) : Except String PassRules :=
    if pattern = "" then .error ("header passthrough regex pattern is empty: " ++ site.quote key)
    else (site.compile pattern).map fun regex => { rules with regexes := rules.regexes ++ [regex] }
  let normal := trimSpace (toLower key)
  if normal = "*" then .ok { rules with all := true }
  else if hasPrefix normal "re:" then addRegex (trimSpace (trimPrefix normal "re:"))
  else if hasPrefix normal "regex:" then addRegex (trimSpace (trimPrefix normal "regex:"))
  else .ok rules

def passClientHeader (rules : PassRules) (header : Header) (target : StringMap) (name : String) : StringMap :=
  let value := trimSpace (header.get name)
  if shouldSkipPassthroughHeader name then target
  else if ¬ rules.all ∧ ¬ rules.regexes.any (· name) then target
  else if value = "" then target
  else target.insert (toLower (trimSpace name)) value

def overrideHeader (info : RequestInfo) (target : StringMap) (e : Σ _ : String, Json) : Except String StringMap :=
  let key := trimSpace (toLower e.1)
  if isHeaderPassthroughRuleKey e.1 ∨ key = "" then .ok target
  else
    match e.2 with
    | .string text =>
      if info.isChannelTest ∧ hasPrefix (trimSpace text) clientHeaderPlaceholderPrefix then .ok target
      else
        (applyHeaderOverridePlaceholders site text info.header info.channelMeta.apiKey).map fun value =>
          value.elim target (target.insert key)
    | _ => .error "channel:header_override_invalid"

def processHeaderOverride (orders : RangeOrders) (info : RequestInfo) : Except String StringMap := do
  let source := getEffectiveHeaderOverride site orders.upstream info
  let rules ←
    if info.isChannelTest then .ok ⟨false, []⟩
    else (orders.patterns.visit source).foldlM (fun rules e => addPassRule site rules e.1) ⟨false, []⟩
  let passed :=
    if rules.all ∨ rules.regexes ≠ [] then
      (orders.client.keys info.header.names).foldl (passClientHeader rules info.header) ∅
    else ∅
  (orders.headers.visit source).foldlM (overrideHeader site info) passed

/-! ## The attempts of a request -/

structure ContentType where
  text : String
  nonblank : trimSpace text ≠ ""

structure ChannelAttempt where
  retryIndex : Int
  lastError : Option LastError
  /-- The channel, and the model that it is asked for. -/
  channelMeta : ChannelMeta
  /-- The model name that a mapping writes back, for a compact request or one without thinking. -/
  originModelName : Option String
  /-- The path that the adaptor of an image request writes. -/
  requestURLPath : Option String
  /-- The content type that an adaptor sets in the request of the client. -/
  contentType : Option ContentType
  /-- The converted body; `none` if the body is handed on as it is, or the handler makes no overrides, or stops before. -/
  body : Option Json
  /-- The handler comes to the request. -/
  sends : Bool
  orders : RangeOrders

/-- `InitChannelMeta`, as far as the overrides use what it writes. -/
def RequestInfo.initChannelMeta (info : RequestInfo) (channelMeta : ChannelMeta) : RequestInfo :=
  { info with channelMeta := channelMeta }

/-- The request when the handler comes to the override. -/
def ChannelAttempt.prepare (a : ChannelAttempt) (info : RequestInfo) : RequestInfo :=
  let info := { info with retryIndex := a.retryIndex, lastError := a.lastError }.initChannelMeta a.channelMeta
  { info with
    originModelName := a.originModelName.getD info.originModelName
    requestURLPath := a.requestURLPath.getD info.requestURLPath
    header := a.contentType.elim info.header fun t => info.header.set "Content-Type" t.text }

/-- The headers that the upstream gets, if it gets a request. -/
def ChannelAttempt.send (a : ChannelAttempt) (info : RequestInfo) : Option StringMap :=
  if a.sends then (processHeaderOverride site a.orders info).toOption else none

variable (info : RequestInfo) (a : ChannelAttempt)

/-- **One attempt**: the request after it, and the headers that the upstream gets. -/
def relayAttempt : RequestInfo × Option StringMap :=
  let info := a.prepare info
  match a.body with
  | none => (info, a.send site info)
  | some body =>
    match applyParamOverrideWithRelayInfo site a.orders body info with
    | .error _ => (info, none)
    | .ok (_, info) => (info, a.send site info)

def attemptStep : RequestInfo := (relayAttempt site info a).1

def sentHeaders : Option (String → Option String) :=
  (relayAttempt site info a).2.map fun headers name => headers.lookup name

structure ClientRequest where
  originModelName : String
  requestURLPath : String
  header : Header
  order : MapOrder String

def cloneRequestHeaders (order : MapOrder String) (header : Header) : StringMap :=
  (order.keys header.names).foldl
    (fun headers name =>
      let value := trimSpace (header.get name)
      if value = "" then headers else headers.insert name value)
    ∅

def genBaseRelayInfo (client : ClientRequest) : RequestInfo where
  originModelName := client.originModelName
  requestURLPath := client.requestURLPath
  requestHeaders := cloneRequestHeaders client.order client.header
  isChannelTest := false
  header := client.header
  runtimeHeadersOverride := ∅
  useRuntimeHeadersOverride := false
  retryIndex := 0
  lastError := none
  channelMeta := ⟨"", "", ∅, ∅⟩

/-- Every channel gets the headers now that it would get if it were the first to be tried. -/
def Isolated (client : ClientRequest) (info : RequestInfo) : Prop :=
  ∀ a, sentHeaders site info a = sentHeaders site (genBaseRelayInfo client) a

def ChannelAttempt.overrides (a : ChannelAttempt) (info : RequestInfo) : Bool :=
  a.body.any fun body =>
    decide (a.channelMeta.paramOverride.entries ≠ []) &&
      (applyParamOverride site a.orders.legacy ⟨body, buildParamOverrideContext site a.orders (a.prepare info)⟩
        a.channelMeta.paramOverride).isOk

/-- The attempt applies no parameter override, and writes nothing new into the request. -/
structure ChannelAttempt.KeepsRequest (client : ClientRequest) (a : ChannelAttempt) : Prop where
  originModelName : ∀ model ∈ a.originModelName, model = client.originModelName
  requestURLPath : ∀ path ∈ a.requestURLPath, path = client.requestURLPath
  contentType : ∀ t ∈ a.contentType, client.header.first "Content-Type" = t.text
  override : a.overrides site (genBaseRelayInfo client) = false

/-! ## What an attempt leaves behind -/

section Attempt

variable {site} {info info' : RequestInfo} {a : ChannelAttempt}

variable (h : info.toSharedInfo = info'.toSharedInfo)

include h

/-- An attempt reads only what the request keeps. -/
theorem ChannelAttempt.prepare_congr : a.prepare info = a.prepare info' := by
  obtain ⟨shared, retryIndex, lastError, channelMeta⟩ := info
  obtain ⟨shared', retryIndex', lastError', channelMeta'⟩ := info'
  obtain rfl : shared = shared' := h
  rfl

theorem relayAttempt_congr :
    relayAttempt site info a = relayAttempt site info' a := by
  unfold relayAttempt
  rw [ChannelAttempt.prepare_congr h]

end Attempt

/-- **What an attempt does to the request**: without an override what the handler wrote, and after an override its headers
besides. -/
theorem attemptStep_cases (info : RequestInfo) (a : ChannelAttempt) :
    (a.overrides site info = false ∧ attemptStep site info a = a.prepare info) ∨
    (a.overrides site info ∧ ∃ headers, attemptStep site info a = (a.prepare info).withRuntimeHeaders headers) := by
  unfold attemptStep relayAttempt ChannelAttempt.overrides
  cases a.body with
  | none => exact .inl ⟨rfl, rfl⟩
  | some body =>
    have hmeta : (a.prepare info).channelMeta = a.channelMeta := rfl
    simp only [applyParamOverrideWithRelayInfo, hmeta, Option.any_some]
    by_cases hempty : a.channelMeta.paramOverride.entries = []
    · exact .inl ⟨by simp [hempty], by simp [hempty]⟩
    · simp only [hempty, ne_eq]
      cases applyParamOverride site a.orders.legacy ⟨body, buildParamOverrideContext site a.orders (a.prepare info)⟩
          a.channelMeta.paramOverride with
      | error err => exact .inl ⟨rfl, rfl⟩
      | ok w => exact .inr ⟨rfl, _, rfl⟩

/-- What holds of the request in every state. -/
structure Reached (client : ClientRequest) (info : RequestInfo) : Prop where
  requestHeaders : info.requestHeaders = cloneRequestHeaders client.order client.header
  isChannelTest : info.isChannelTest = false
  header : info.header = client.header ∨ ∃ t : ContentType, info.header = client.header.set "Content-Type" t.text
  runtime : info.useRuntimeHeadersOverride = false → info.runtimeHeadersOverride = ∅

section Reached

variable {site} {client : ClientRequest} {info : RequestInfo} {a : ChannelAttempt}

theorem reached_start : Reached client (genBaseRelayInfo client) := ⟨rfl, rfl, .inl rfl, fun _ => rfl⟩

theorem Reached.prepare (h : Reached client info) : Reached client (a.prepare info) where
  requestHeaders := h.requestHeaders
  isChannelTest := h.isChannelTest
  header := by
    simp only [ChannelAttempt.prepare, RequestInfo.initChannelMeta]
    cases a.contentType with
    | none => exact h.header
    | some t =>
      refine .inr ⟨t, ?_⟩
      rcases h.header with hheader | ⟨t', hheader⟩
      · rw [Option.elim_some, hheader]
      · rw [Option.elim_some, hheader, Header.set_set]
  runtime := h.runtime

theorem Reached.step (h : Reached client info) : Reached client (attemptStep site info a) := by
  obtain ⟨-, hstep⟩ | ⟨-, headers, hstep⟩ := attemptStep_cases site info a
  · rw [hstep]
    exact h.prepare
  · rw [hstep]
    exact ⟨h.requestHeaders, h.isChannelTest, h.prepare.header, nofun⟩

theorem ContentType.text_ne_empty (t : ContentType) : t.text ≠ "" := by
  intro h
  have hblank := t.nonblank
  rw [h] at hblank
  exact hblank (by decide)

theorem prepare_shared_iff :
    (a.prepare (genBaseRelayInfo client)).toSharedInfo = (genBaseRelayInfo client).toSharedInfo ↔
      (∀ model ∈ a.originModelName, model = client.originModelName) ∧
      (∀ path ∈ a.requestURLPath, path = client.requestURLPath) ∧
      ∀ t ∈ a.contentType, client.header.first "Content-Type" = t.text := by
  have hgetD : ∀ (o : Option String) (s : String), o.getD s = s ↔ ∀ x ∈ o, x = s := by
    intro o s
    cases o <;> simp
  have hheader : (a.contentType.elim client.header fun t => client.header.set "Content-Type" t.text) = client.header ↔
      ∀ t ∈ a.contentType, client.header.first "Content-Type" = t.text := by
    cases a.contentType with
    | none => simp
    | some t =>
      simp only [Option.elim_some, Option.mem_some_iff, forall_eq']
      constructor
      · intro h
        rw [← h, Header.set_first]
      · exact Header.set_self t.text_ne_empty
  simp only [ChannelAttempt.prepare, RequestInfo.initChannelMeta, genBaseRelayInfo, SharedInfo.mk.injEq, hgetD, hheader,
    true_and, and_true]

theorem keepsRequest_iff : a.KeepsRequest site client ↔
    (attemptStep site (genBaseRelayInfo client) a).toSharedInfo = (genBaseRelayInfo client).toSharedInfo := by
  obtain ⟨hov, hstep⟩ | ⟨hov, headers, hstep⟩ := attemptStep_cases site (genBaseRelayInfo client) a
  · rw [hstep, prepare_shared_iff]
    exact ⟨fun h => ⟨h.1, h.2, h.3⟩, fun h => ⟨h.1, h.2.1, h.2.2, hov⟩⟩
  · rw [hstep]
    refine ⟨fun h => ?_, fun h => ?_⟩
    · exact absurd (h.override.symm.trans hov) Bool.false_ne_true
    · exact absurd (congrArg SharedInfo.useRuntimeHeadersOverride h).symm Bool.false_ne_true

end Reached

end SynthApi
