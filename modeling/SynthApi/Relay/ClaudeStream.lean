import SynthApi.Lib.Value
import SynthApi.Relay.StreamScanner
import SynthApi.Service.TextQuota

/-!
# Streams of Claude

`ClaudeStreamHandler` and `ClaudeResponsesStreamHandler` (`relay/channel/claude/relay-claude.go`) relay the event stream of
Claude, the first to clients of the Messages and the Chat API, the second to clients of the Responses API, and give the
usage that is billed.

* The first returns the error at which it stops the stream; the second stops too but returns no error, whatever the stream
  (`broken_stream_billed`).
* The first keeps the last positive value of every count (`formatInfo_count`), the second the last report as a whole
  (`responsesUsage_count`). They give the same counts if and only if the last report repeats every count
  (`claude_counts_agree_iff`).
-/

namespace SynthApi

open Lib Lib.Go

/-! ## Events -/

structure ClaudeCacheCreationUsage where
  ephemeral5mInputTokens : Int
  ephemeral1hInputTokens : Int
  deriving DecidableEq, Repr

structure ClaudeUsage where
  inputTokens : Int
  cacheCreationInputTokens : Int
  cacheReadInputTokens : Int
  outputTokens : Int
  cacheCreation : Option ClaudeCacheCreationUsage
  deriving DecidableEq, Repr

namespace ClaudeUsage

def empty : ClaudeUsage := ⟨0, 0, 0, 0, none⟩

def getCacheCreation5mTokens (u : ClaudeUsage) : Int := (u.cacheCreation.map (·.ephemeral5mInputTokens)).getD 0

def getCacheCreation1hTokens (u : ClaudeUsage) : Int := (u.cacheCreation.map (·.ephemeral1hInputTokens)).getD 0

end ClaudeUsage

/-- `ClaudeMediaMessage`, as the `message` and the `delta` of an event. -/
structure ClaudeMediaMessage where
  type : String
  text : Option String
  model : String
  usage : Option ClaudeUsage
  partialJson : Option String
  thinking : Option String

inductive ClaudeEventType where
  | messageStart
  | contentBlockStart
  | contentBlockDelta
  | messageDelta
  | messageStop
  | other (name : String)
  deriving DecidableEq, Repr

structure ClaudeResponse where
  type : ClaudeEventType
  /-- `null` if there is no error. -/
  error : Json
  usage : Option ClaudeUsage
  delta : Option ClaudeMediaMessage
  message : Option ClaudeMediaMessage

structure ClaudeError where
  type : String
  message : String
  deriving DecidableEq, Repr

def textOf (fields : List (String × Json)) (key : String) : String :=
  match fields.lookup key with
  | some (.string s) => s
  | _ => ""

/-- `showValue` is the format `%v` of values of other types. -/
def getClaudeError (showValue : Json → String) (r : ClaudeResponse) : Option ClaudeError :=
  match r.error with
  | .null => none
  | .object fields => some ⟨textOf fields "type", textOf fields "message"⟩
  | .string s => some ⟨"upstream_error", s⟩
  | v => some ⟨"unknown_upstream_error", "unknown_error: " ++ showValue v⟩

structure ClaudeSite where
  showValue : Json → String
  estimateTokenByModel : (modelName text : String) → Int

def ClaudeSite.eventError (site : ClaudeSite) (r : ClaudeResponse) : Option ClaudeError :=
  (getClaudeError site.showValue r).filter fun err => err.type ≠ ""

/-- A piece of data: the decoded event, or the error of the decoder. -/
abbrev ClaudeData := Except String ClaudeResponse

inductive ClaudeStreamError where
  | badResponseBody (text : String)
  /-- `WithClaudeError` -/
  | claude (err : ClaudeError)
  deriving DecidableEq, Repr

/-- Data that cannot be decoded or that report an error. -/
def ClaudeSite.Broken (site : ClaudeSite) : ClaudeData → Prop
  | .error _ => True
  | .ok r => (site.eventError r).isSome

instance (site : ClaudeSite) : DecidablePred site.Broken
  | .error _ => isTrue trivial
  | .ok r => inferInstanceAs (Decidable ((site.eventError r).isSome = true))

inductive RelayFormat where
  | openAI
  | claude
  | gemini
  | openAIResponses
  deriving DecidableEq, Repr

/-- What the handlers read of the request. -/
structure ClaudeRelay where
  relayFormat : RelayFormat
  upstreamModelName : String
  estimatePromptTokens : Int

def responseText2Usage (site : ClaudeSite) (responseText modelName : String) (promptTokens : Int) : TextUsage :=
  { TextUsage.empty with
    promptTokens := promptTokens
    completionTokens := site.estimateTokenByModel modelName responseText
    totalTokens := promptTokens + site.estimateTokenByModel modelName responseText }

/-! ## `ClaudeStreamHandler` -/

structure ClaudeResponseInfo where
  responseText : String
  usage : TextUsage
  done : Bool

def ClaudeResponseInfo.initial : ClaudeResponseInfo := ⟨"", .empty, false⟩

def ifPositive (x old : Int) : Int := if 0 < x then x else old

def startUsage (u : ClaudeUsage) (usage : TextUsage) : TextUsage :=
  { usage with
    promptTokens := u.inputTokens
    usageSemantic := "anthropic"
    promptTokensDetails :=
      { usage.promptTokensDetails with
        cachedTokens := u.cacheReadInputTokens
        cachedCreationTokens := u.cacheCreationInputTokens }
    claudeCacheCreation5mTokens := u.getCacheCreation5mTokens
    claudeCacheCreation1hTokens := u.getCacheCreation1hTokens
    completionTokens := u.outputTokens }

/-- The usage of a `message_delta`: not added up, the latest counts. -/
def deltaUsage (u : ClaudeUsage) (usage : TextUsage) : TextUsage :=
  let prompt := ifPositive u.inputTokens usage.promptTokens
  let completion := ifPositive u.outputTokens usage.completionTokens
  { usage with
    usageSemantic := "anthropic"
    promptTokens := prompt
    promptTokensDetails :=
      { usage.promptTokensDetails with
        cachedTokens := ifPositive u.cacheReadInputTokens usage.promptTokensDetails.cachedTokens
        cachedCreationTokens := ifPositive u.cacheCreationInputTokens usage.promptTokensDetails.cachedCreationTokens }
    claudeCacheCreation5mTokens := ifPositive u.getCacheCreation5mTokens usage.claudeCacheCreation5mTokens
    claudeCacheCreation1hTokens := ifPositive u.getCacheCreation1hTokens usage.claudeCacheCreation1hTokens
    completionTokens := completion
    totalTokens := prompt + completion }

/-- The result is whether the event is one to forward. -/
def formatClaudeResponseInfo (r : ClaudeResponse) (info : ClaudeResponseInfo) : Bool × ClaudeResponseInfo :=
  match r.type with
  | .messageStart =>
    match r.message.bind (·.usage) with
    | none => (true, info)
    | some u => (true, { info with usage := startUsage u info.usage })
  | .contentBlockDelta =>
    match r.delta with
    | none => (true, info)
    | some d => (true, { info with responseText := info.responseText ++ d.text.getD "" ++ d.thinking.getD "" })
  | .messageDelta =>
    match r.usage with
    | none => (true, { info with done := true })
    | some u => (true, { info with usage := deltaUsage u info.usage, done := true })
  | .contentBlockStart => (true, info)
  | _ => (false, info)

/-- `StreamResponseClaude2OpenAI` dereferences `partial_json` of an `input_json_delta`. -/
def streamResponseClaude2OpenAIPanics (r : ClaudeResponse) : Bool :=
  decide (r.type = .contentBlockDelta) &&
    r.delta.any fun d => decide (d.type = "input_json_delta") && d.partialJson.isNone

/-- The variables of `ClaudeStreamHandler`; `err` is the result of the last event. -/
structure ClaudeStreamState where
  info : ClaudeResponseInfo
  upstreamModelName : String
  err : Option ClaudeStreamError

/-- What an event without an error changes; `none` for a panic. -/
def handleClaudeEvent (format : RelayFormat) (s : ClaudeStreamState) (r : ClaudeResponse) : Option ClaudeStreamState :=
  match format with
  | .claude =>
    some
      { s with
        info := (formatClaudeResponseInfo r s.info).2
        upstreamModelName :=
          match r.type, r.message with
          | .messageStart, some m => m.model
          | _, _ => s.upstreamModelName }
  | .openAI =>
    if streamResponseClaude2OpenAIPanics r then none else some { s with info := (formatClaudeResponseInfo r s.info).2 }
  | _ => some s

/-- The callback of `ClaudeStreamHandler`, with `HandleStreamResponseData`. -/
def claudeDataHandler (site : ClaudeSite) (format : RelayFormat) (s : ClaudeStreamState) :
    ClaudeData → ClaudeStreamState × StreamResult
  | .error text => ({ s with err := some (.badResponseBody text) }, .stop text)
  | .ok r =>
    match site.eventError r with
    | some err => ({ s with err := some (.claude err) }, .stop err.message)
    | none =>
      match handleClaudeEvent format s r with
      | none => (s, .panic)
      | some s' => ({ s' with err := none }, .next)

def handleStreamFinalResponse (site : ClaudeSite) (relay : ClaudeRelay) (s : ClaudeStreamState) : TextUsage :=
  let usage := s.info.usage
  let fallback := responseText2Usage site s.info.responseText s.upstreamModelName relay.estimatePromptTokens
  let complete :=
    if usage.completionTokens = 0 ∨ s.info.done = false then
      let completion :=
        if usage.completionTokens = 0 ∨ s.info.done = false ∧ usage.completionTokens < fallback.completionTokens then
          fallback.completionTokens
        else usage.completionTokens
      let prompt := if usage.promptTokens = 0 then fallback.promptTokens else usage.promptTokens
      { usage with completionTokens := completion, promptTokens := prompt, totalTokens := prompt + completion }
    else usage
  { complete with usageSemantic := "anthropic" }

def claudeStreamHandler (site : ClaudeSite) (relay : ClaudeRelay) (ending : StreamStatus) (stream : List ClaudeData) :
    Except ClaudeStreamError TextUsage :=
  let s := (streamScannerHandler (claudeDataHandler site relay.relayFormat) ending
    ⟨.initial, relay.upstreamModelName, none⟩ stream).1
  match s.err with
  | some err => .error err
  | none => .ok (handleStreamFinalResponse site relay s)

/-! ## `ClaudeResponsesStreamHandler` -/

def claudeResponsesUsageFromClaudeUsage : Option ClaudeUsage → TextUsage
  | none => .empty
  | some u =>
    { TextUsage.empty with
      promptTokens := u.inputTokens
      completionTokens := u.outputTokens
      totalTokens := u.inputTokens + u.outputTokens
      usageSemantic := "anthropic"
      inputTokens := u.inputTokens
      outputTokens := u.outputTokens
      promptTokensDetails :=
        { TextUsage.empty.promptTokensDetails with
          cachedTokens := u.cacheReadInputTokens
          cachedCreationTokens := u.cacheCreationInputTokens }
      claudeCacheCreation5mTokens := u.getCacheCreation5mTokens
      claudeCacheCreation1hTokens := u.getCacheCreation1hTokens }

/-- The variables of `ClaudeResponsesStreamHandler`. -/
structure ClaudeResponsesState where
  usage : TextUsage
  outputText : String
  err : Option ClaudeStreamError

def ClaudeResponsesState.initial : ClaudeResponsesState := ⟨.empty, "", none⟩

def responsesEvent (s : ClaudeResponsesState) (r : ClaudeResponse) : ClaudeResponsesState :=
  match r.type with
  | .messageStart =>
    match r.message.bind (·.usage) with
    | none => s
    | some u => { s with usage := claudeResponsesUsageFromClaudeUsage (some u) }
  | .contentBlockDelta =>
    match r.delta with
    | none => s
    | some d => { s with outputText := s.outputText ++ d.text.getD "" }
  | .messageDelta =>
    match r.usage with
    | none => s
    | some u => { s with usage := claudeResponsesUsageFromClaudeUsage (some u) }
  | _ => s

/-- The callback: it stops the stream at an error, which it does not put into `err`. -/
def claudeResponsesDataHandler (site : ClaudeSite) (s : ClaudeResponsesState) :
    ClaudeData → ClaudeResponsesState × StreamResult
  | .error text => (s, .stop text)
  | .ok r =>
    match site.eventError r with
    | some err => (s, .stop err.message)
    | none => (responsesEvent s r, .next)

def claudeResponsesStreamHandler (site : ClaudeSite) (relay : ClaudeRelay) (ending : StreamStatus)
    (stream : List ClaudeData) : Except ClaudeStreamError TextUsage :=
  let s := (streamScannerHandler (claudeResponsesDataHandler site) ending .initial stream).1
  match s.err with
  | some err => .error err
  | none =>
    let usage :=
      if s.usage.promptTokens = 0 ∧ s.outputText ≠ "" then
        { responseText2Usage site s.outputText relay.upstreamModelName relay.estimatePromptTokens with
          usageSemantic := "anthropic" }
      else s.usage
    .ok { usage with totalTokens := usage.promptTokens + usage.completionTokens }

/-! ## Broken streams -/

section Broken

variable (site : ClaudeSite) (relay : ClaudeRelay) (ending : StreamStatus) (stream : List ClaudeData)

/-- The event makes the handler panic. -/
def ClaudeRelay.Panics (relay : ClaudeRelay) (data : ClaudeData) : Prop :=
  relay.relayFormat = .openAI ∧ ∃ r, data = .ok r ∧ streamResponseClaude2OpenAIPanics r = true

theorem responsesEvent_err (s : ClaudeResponsesState) (r : ClaudeResponse) : (responsesEvent s r).err = s.err := by
  unfold responsesEvent
  split
  · split <;> rfl
  · split <;> rfl
  · split <;> rfl
  · rfl

theorem responsesDataHandler_err (s : ClaudeResponsesState) (data : ClaudeData) :
    (claudeResponsesDataHandler site s data).1.err = s.err := by
  cases data with
  | error text => rfl
  | ok r =>
    rw [claudeResponsesDataHandler]
    cases site.eventError r with
    | some err => rfl
    | none => exact responsesEvent_err s r

theorem responses_err : (streamScannerHandler (claudeResponsesDataHandler site) ending .initial stream).1.err = none :=
  streamScanner_inv (fun s data _ hs => (responsesDataHandler_err site s data).trans hs) rfl

theorem handleClaudeEvent_none {s : ClaudeStreamState} {r : ClaudeResponse}
    (h : handleClaudeEvent relay.relayFormat s r = none) : relay.Panics (.ok r) := by
  unfold handleClaudeEvent at h
  split at h
  · cases h
  next hformat =>
    split at h
    next hpanics => exact ⟨hformat, r, rfl, hpanics⟩
    · cases h
  · cases h

variable {site relay} {data : ClaudeData}

/-- Data at which `ClaudeStreamHandler` stops leave an error. -/
theorem claudeDataHandler_cases (hpanics : ¬ relay.Panics data) (s : ClaudeStreamState) :
    (claudeDataHandler site relay.relayFormat s data).2 = .next ∨
      (claudeDataHandler site relay.relayFormat s data).1.err.isSome := by
  cases data with
  | error text => exact .inr rfl
  | ok r =>
    rw [claudeDataHandler]
    cases site.eventError r with
    | some err => exact .inr rfl
    | none =>
      cases hevent : handleClaudeEvent relay.relayFormat s r with
      | none => exact absurd (handleClaudeEvent_none relay hevent) hpanics
      | some s' => exact .inl rfl

theorem claudeDataHandler_broken (h : site.Broken data) (s : ClaudeStreamState) :
    (claudeDataHandler site relay.relayFormat s data).2 ≠ .next := by
  cases data with
  | error text => exact nofun
  | ok r =>
    obtain ⟨err, herr⟩ := Option.isSome_iff_exists.1 h
    rw [claudeDataHandler, herr]
    exact nofun

variable (site relay)

/-- **A broken stream is billed as a success** by `ClaudeResponsesStreamHandler`: it returns no error for any stream that
contains an undecodable event or an error event, where `ClaudeStreamHandler` returns one (unless it panics). -/
theorem broken_stream_billed (hbroken : ∃ data ∈ stream, site.Broken data) :
    (¬ ∃ err, claudeResponsesStreamHandler site relay ending stream = .error err) ∧
      ((∀ data ∈ stream, ¬ relay.Panics data) → ∃ err, claudeStreamHandler site relay ending stream = .error err) := by
  constructor
  · rintro ⟨err, herr⟩
    rw [claudeResponsesStreamHandler, responses_err] at herr
    cases herr
  · intro hpanics
    obtain ⟨data, hmem, hdata⟩ := hbroken
    have hsome : (streamScannerHandler (claudeDataHandler site relay.relayFormat) ending
        ⟨.initial, relay.upstreamModelName, none⟩ stream).1.err.isSome :=
      streamScanner_of_mem (Q := fun s => s.err.isSome) (fun s d hd => claudeDataHandler_cases (hpanics d hd) s)
        hmem (claudeDataHandler_broken hdata) _
    obtain ⟨err, herr⟩ := Option.isSome_iff_exists.1 hsome
    refine ⟨err, ?_⟩
    rw [claudeStreamHandler, herr]

end Broken

namespace Sample

/-- A deployment that counts characters. -/
def claudeSite : ClaudeSite where
  showValue _ := ""
  estimateTokenByModel _ text := text.length

def claudeRelay (format : RelayFormat) : ClaudeRelay := ⟨format, "claude", 10⟩

def messageStart (u : ClaudeUsage) : ClaudeResponse :=
  ⟨.messageStart, .null, none, none, some ⟨"message", none, "claude", some u, none, none⟩⟩

def messageDelta (u : ClaudeUsage) : ClaudeResponse := ⟨.messageDelta, .null, some u, none, none⟩

def overloaded : ClaudeResponse :=
  ⟨.other "error", .object [("type", .string "overloaded_error"), ("message", .string "Overloaded")], none, none, none⟩

def brokenStream : List ClaudeData := [.ok (messageStart ⟨100, 0, 0, 1, none⟩), .ok overloaded]

end Sample

open Sample in
theorem broken_stream_billed_overloaded :
    (¬ ∃ err, claudeResponsesStreamHandler claudeSite (claudeRelay .claude) ⟨.eof, none⟩ brokenStream = .error err) ∧
      ∃ err, claudeStreamHandler claudeSite (claudeRelay .claude) ⟨.eof, none⟩ brokenStream = .error err := by
  have h := broken_stream_billed claudeSite (claudeRelay .claude) ⟨.eof, none⟩ brokenStream
    ⟨.ok overloaded, by simp [brokenStream], by decide⟩
  exact ⟨h.1, h.2 fun _ _ hpanics => absurd hpanics.1 (by decide)⟩

open Sample in
/-- The error of the overloaded upstream is lost. -/
theorem overloaded_stream_billed :
    ¬ ((∃ data ∈ brokenStream, claudeSite.Broken data) →
      ∃ err, claudeResponsesStreamHandler claudeSite (claudeRelay .openAIResponses) ⟨.eof, none⟩ brokenStream =
        .error err) := by
  intro h
  obtain ⟨err, herr⟩ := h ⟨.ok overloaded, by simp [brokenStream], by decide⟩
  cases herr

/-! ## The usage of a stream -/

/-- The counts of a usage that are billed. -/
inductive ClaudeCount where
  | prompt
  | cacheRead
  | cacheCreation
  | cacheCreation5m
  | cacheCreation1h
  | completion
  deriving DecidableEq, Repr

def ClaudeUsage.count (u : ClaudeUsage) : ClaudeCount → Int
  | .prompt => u.inputTokens
  | .cacheRead => u.cacheReadInputTokens
  | .cacheCreation => u.cacheCreationInputTokens
  | .cacheCreation5m => u.getCacheCreation5mTokens
  | .cacheCreation1h => u.getCacheCreation1hTokens
  | .completion => u.outputTokens

def TextUsage.count (u : TextUsage) : ClaudeCount → Int
  | .prompt => u.promptTokens
  | .cacheRead => u.promptTokensDetails.cachedTokens
  | .cacheCreation => u.promptTokensDetails.cachedCreationTokens
  | .cacheCreation5m => u.claudeCacheCreation5mTokens
  | .cacheCreation1h => u.claudeCacheCreation1hTokens
  | .completion => u.completionTokens

/-- What a stream reports: the usage of the last `message_start`, and those of the `message_delta` events after it. -/
structure UsageReports where
  start : ClaudeUsage
  deltas : List ClaudeUsage

namespace UsageReports

def initial : UsageReports := ⟨.empty, []⟩

/-- The reports with that of one more event. -/
def add (h : UsageReports) (r : ClaudeResponse) : UsageReports :=
  match r.type with
  | .messageStart =>
    match r.message.bind (·.usage) with
    | none => h
    | some u => ⟨u, []⟩
  | .messageDelta =>
    match r.usage with
    | none => h
    | some u => { h with deltas := h.deltas ++ [u] }
  | _ => h

def last (h : UsageReports) : ClaudeUsage := h.deltas.getLastD h.start

/-- The last positive value of a count; that of `message_start` if there is none after it. -/
def latest (h : UsageReports) (c : ClaudeCount) : Int :=
  ((h.deltas.map (·.count c)).filter (0 < ·)).getLastD (h.start.count c)

variable (h : UsageReports) (u : ClaudeUsage) (c : ClaudeCount)

@[simp] theorem last_delta : last { h with deltas := h.deltas ++ [u] } = u := by simp [last]

@[simp] theorem latest_delta : latest { h with deltas := h.deltas ++ [u] } c = ifPositive (u.count c) (h.latest c) := by
  unfold latest ifPositive
  by_cases hpos : 0 < u.count c <;> simp [hpos]

/-- The last report repeats a count: it has a positive value for it, or there was none after `message_start`. -/
def Repeats : Prop := 0 < h.last.count c ∨ h.last.count c = h.start.count c ∧ ∀ v ∈ h.deltas, v.count c ≤ 0

theorem latest_of_nonpos (hdeltas : ∀ v ∈ h.deltas, v.count c ≤ 0) : h.latest c = h.start.count c := by
  have hnil : (h.deltas.map (·.count c)).filter (0 < ·) = [] := by
    refine List.filter_eq_nil_iff.2 fun n hn => ?_
    obtain ⟨v, hv, rfl⟩ := List.mem_map.1 hn
    simpa using hdeltas v hv
  rw [latest, hnil]
  rfl

/-- A count that is not positive is that of `message_start`. -/
theorem nonpos_of_latest (hlatest : h.latest c ≤ 0) : ∀ v ∈ h.deltas, v.count c ≤ 0 := by
  intro v hv
  by_contra hpos
  have hmem : v.count c ∈ (h.deltas.map (·.count c)).filter (0 < ·) :=
    List.mem_filter.2 ⟨List.mem_map_of_mem hv, by simpa using hpos⟩
  have hfilter : (h.deltas.map (·.count c)).filter (0 < ·) ≠ [] := List.ne_nil_of_mem hmem
  have hlast := List.getLast_mem hfilter
  rw [latest, List.getLastD_eq_getLast?, List.getLast?_eq_some_getLast hfilter, Option.getD_some] at hlatest
  have := (List.mem_filter.1 hlast).2
  simp only [decide_eq_true_eq] at this
  omega

/-- **The last report has the latest value of a count if and only if it repeats it.** -/
theorem last_eq_latest_iff : h.last.count c = h.latest c ↔ h.Repeats c := by
  constructor
  · intro heq
    by_cases hpos : 0 < h.last.count c
    · exact .inl hpos
    · have hdeltas := h.nonpos_of_latest c (by omega)
      exact .inr ⟨heq.trans (h.latest_of_nonpos c hdeltas), hdeltas⟩
  · rintro (hpos | ⟨hstart, hdeltas⟩)
    · obtain ⟨start, deltas⟩ := h
      rcases List.eq_nil_or_concat' deltas with rfl | ⟨ds, u, rfl⟩
      · rfl
      · have hlast : last ⟨start, ds ++ [u]⟩ = u := last_delta ⟨start, ds⟩ u
        have hlatest : latest ⟨start, ds ++ [u]⟩ c = ifPositive (u.count c) (latest ⟨start, ds⟩ c) :=
          latest_delta ⟨start, ds⟩ u c
        rw [hlast] at hpos ⊢
        rw [hlatest, ifPositive, if_pos hpos]
    · rw [hstart, h.latest_of_nonpos c hdeltas]

end UsageReports

def usageReports (events : List ClaudeResponse) : UsageReports := events.foldl .add .initial

def ClaudeResponse.deltaText (r : ClaudeResponse) : String :=
  match r.type with
  | .contentBlockDelta => (r.delta.bind (·.text)).getD ""
  | _ => ""

def streamedText (events : List ClaudeResponse) : String := events.foldl (fun text r => text ++ r.deltaText) ""

def formatInfo (events : List ClaudeResponse) : ClaudeResponseInfo :=
  events.foldl (fun info r => (formatClaudeResponseInfo r info).2) .initial

section Counts

variable (c : ClaudeCount) {h : UsageReports}

@[simp] theorem startUsage_count (u : ClaudeUsage) (usage : TextUsage) : (startUsage u usage).count c = u.count c := by
  cases c <;> rfl

@[simp] theorem deltaUsage_count (u : ClaudeUsage) (usage : TextUsage) :
    (deltaUsage u usage).count c = ifPositive (u.count c) (usage.count c) := by
  cases c <;> rfl

@[simp] theorem responsesUsage_count (u : ClaudeUsage) :
    (claudeResponsesUsageFromClaudeUsage (some u)).count c = u.count c := by
  cases c <;> rfl

theorem format_count_step {info : ClaudeResponseInfo} (hinfo : info.usage.count c = h.latest c)
    (r : ClaudeResponse) : (formatClaudeResponseInfo r info).2.usage.count c = (h.add r).latest c := by
  unfold formatClaudeResponseInfo UsageReports.add
  cases r.type with
  | messageStart =>
    cases r.message.bind (·.usage) with
    | none => exact hinfo
    | some u => exact startUsage_count c u info.usage
  | messageDelta =>
    cases r.usage with
    | none => exact hinfo
    | some u =>
      simp only [deltaUsage_count, UsageReports.latest_delta, hinfo]
  | contentBlockDelta => cases r.delta <;> exact hinfo
  | _ => exact hinfo

/-- **`FormatClaudeResponseInfo` accumulates the latest value of every count.** -/
theorem formatInfo_count (events : List ClaudeResponse) :
    (formatInfo events).usage.count c = (usageReports events).latest c := by
  refine List.foldl_rel (r := fun (info : ClaudeResponseInfo) (h : UsageReports) => info.usage.count c = h.latest c) ?_
    fun r _ info h hinfo => format_count_step c hinfo r
  cases c <;> rfl

theorem responses_count_step {s : ClaudeResponsesState} (hs : s.usage.count c = h.last.count c)
    (r : ClaudeResponse) : (responsesEvent s r).usage.count c = (h.add r).last.count c := by
  unfold responsesEvent UsageReports.add
  cases r.type with
  | messageStart =>
    cases r.message.bind (·.usage) with
    | none => exact hs
    | some u => exact responsesUsage_count c u
  | messageDelta =>
    cases r.usage with
    | none => exact hs
    | some u => simp only [responsesUsage_count, UsageReports.last_delta]
  | contentBlockDelta => cases r.delta <;> exact hs
  | _ => exact hs

theorem responses_text_step (s : ClaudeResponsesState) (r : ClaudeResponse) :
    (responsesEvent s r).outputText = s.outputText ++ r.deltaText := by
  unfold responsesEvent ClaudeResponse.deltaText
  cases r.type with
  | messageStart => cases r.message.bind (·.usage) <;> simp
  | messageDelta => cases r.usage <;> simp
  | contentBlockDelta => cases r.delta <;> simp
  | _ => simp

/-- **The Responses handler keeps the last report as a whole.** -/
theorem responses_fold (events : List ClaudeResponse) :
    (events.foldl responsesEvent .initial).usage.count c = (usageReports events).last.count c ∧
      (events.foldl responsesEvent .initial).outputText = streamedText events := by
  constructor
  · refine List.foldl_rel (r := fun (s : ClaudeResponsesState) (h : UsageReports) => s.usage.count c = h.last.count c) ?_
      fun r _ s h hs => responses_count_step c hs r
    cases c <;> rfl
  · refine List.foldl_rel (r := fun (s : ClaudeResponsesState) text => s.outputText = text) rfl fun r _ s text hs => ?_
    rw [responses_text_step, hs]

end Counts

/-- The events that a handler gets to: those before the first data at which it stops. -/
def soundEvents (site : ClaudeSite) : List ClaudeData → List ClaudeResponse
  | [] => []
  | .error _ :: _ => []
  | .ok r :: stream => if (site.eventError r).isSome then [] else r :: soundEvents site stream

section SameBill

variable (site : ClaudeSite) (relay : ClaudeRelay) (ending : StreamStatus) (stream : List ClaudeData)

/-- What the handler accumulates. -/
theorem responses_scan :
    (streamScannerHandler (claudeResponsesDataHandler site) ending .initial stream).1 =
      (soundEvents site stream).foldl responsesEvent .initial := by
  suffices hscan : ∀ s, (streamScannerHandler (claudeResponsesDataHandler site) ending s stream).1 =
      (soundEvents site stream).foldl responsesEvent s from hscan .initial
  induction stream with
  | nil => exact fun s => rfl
  | cons data stream ih =>
    intro s
    cases data with
    | error text => rfl
    | ok r =>
      rw [streamScannerHandler, claudeResponsesDataHandler, soundEvents]
      cases site.eventError r with
      | some err => rfl
      | none => exact ih (responsesEvent s r)

def Estimated (events : List ClaudeResponse) : Prop :=
  (usageReports events).last.inputTokens = 0 ∧ streamedText events ≠ ""

instance (events : List ClaudeResponse) : Decidable (Estimated events) := inferInstanceAs (Decidable (_ ∧ _))

def estimatedCount (site : ClaudeSite) (relay : ClaudeRelay) (text : String) : ClaudeCount → Int
  | .prompt => relay.estimatePromptTokens
  | .completion => site.estimateTokenByModel relay.upstreamModelName text
  | _ => 0

theorem responses_counts {events : List ClaudeResponse} (hevents : soundEvents site stream = events) :
    ∃ usage, claudeResponsesStreamHandler site relay ending stream = .ok usage ∧
      ∀ c, usage.count c =
        if Estimated events then estimatedCount site relay (streamedText events) c
        else (usageReports events).last.count c := by
  have hscan := hevents ▸ responses_scan site ending stream
  set s := events.foldl responsesEvent .initial
  have herr : s.err = none := hscan ▸ responses_err site ending stream
  have hprompt : s.usage.promptTokens = (usageReports events).last.inputTokens := (responses_fold .prompt events).1
  have htext : s.outputText = streamedText events := (responses_fold .prompt events).2
  rw [claudeResponsesStreamHandler, hscan]
  simp only [herr]
  refine ⟨_, rfl, fun c => ?_⟩
  have hcond : s.usage.promptTokens = 0 ∧ s.outputText ≠ "" ↔ Estimated events := by rw [hprompt, htext, Estimated]
  by_cases hest : Estimated events
  · rw [if_pos (hcond.2 hest), if_pos hest, htext]
    cases c <;> rfl
  · rw [if_neg (hcond.not.2 hest), if_neg hest, ← (responses_fold c events).1]
    cases c <;> rfl

/-- **Same stream, same bill**, if and only if the last report repeats every count; where the usage is estimated, if and
only if the estimate is what was reported. -/
theorem claude_counts_agree_iff :
    (∃ usage, claudeResponsesStreamHandler site relay ending stream = .ok usage ∧
      ∀ c, usage.count c = (formatInfo (soundEvents site stream)).usage.count c) ↔
    if Estimated (soundEvents site stream) then
      ∀ c, (usageReports (soundEvents site stream)).latest c =
        estimatedCount site relay (streamedText (soundEvents site stream)) c
    else ∀ c, (usageReports (soundEvents site stream)).Repeats c := by
  generalize hevents : soundEvents site stream = events
  obtain ⟨usage, husage, hcount⟩ := responses_counts site relay ending stream hevents
  have hagree : (∃ usage, claudeResponsesStreamHandler site relay ending stream = .ok usage ∧
      ∀ c, usage.count c = (formatInfo events).usage.count c) ↔
      ∀ c, usage.count c = (usageReports events).latest c := by
    simp only [husage, Except.ok.injEq, formatInfo_count]
    exact ⟨fun ⟨_, heq, hc⟩ => heq ▸ hc, fun hc => ⟨usage, rfl, hc⟩⟩
  rw [hagree]
  by_cases hest : Estimated events
  · rw [if_pos hest]
    refine forall_congr' fun c => ?_
    rw [hcount c, if_pos hest, eq_comm]
  · rw [if_neg hest]
    refine forall_congr' fun c => ?_
    rw [hcount c, if_neg hest]
    exact (usageReports events).last_eq_latest_iff c

end SameBill

namespace Sample

/-- A stream whose last report has the output tokens only. -/
def outputReport : List ClaudeData :=
  [.ok (messageStart ⟨100, 30, 50, 1, some ⟨10, 20⟩⟩), .ok (messageDelta ⟨0, 0, 0, 8, none⟩)]

end Sample

open Sample in
/-- A `message_delta` with the output tokens only makes the Responses handler forget the prompt. -/
theorem claude_counts_differ :
    ¬ ∃ usage, claudeResponsesStreamHandler claudeSite (claudeRelay .openAIResponses) ⟨.eof, none⟩ outputReport =
        .ok usage ∧ ∀ c, usage.count c = (formatInfo (soundEvents claudeSite outputReport)).usage.count c := by
  rintro ⟨usage, husage, hcount⟩
  cases husage
  exact absurd (hcount .prompt) (by decide)

end SynthApi
