import SynthApi.Relay.StreamClosing

/-!
# Streams of the Responses API for clients of Claude

`OaiResponsesToChatStreamHandler` (`relay/channel/openai/chat_via_responses.go`) turns the events of a Responses stream into
chat chunks and converts these as `OaiStreamHandler` does. The chunk that finishes the message has no usage, so that
`StreamResponseOpenAI2Claude` waits for a later chunk with one, which never comes: no stream is closed
(`responses_not_closed`).
-/

namespace SynthApi

open Lib.Go

/-! ## Events -/

inductive ResponsesEventType where
  | created
  | reasoningSummaryTextDelta
  | reasoningSummaryTextDone
  | outputTextDelta
  | outputItemAdded
  | outputItemDone
  | functionCallArgumentsDelta
  | functionCallArgumentsDone
  | completed
  | error
  | failed
  | other (name : String)
  deriving DecidableEq, Repr

structure ResponsesOutput where
  type : String
  id : String
  callId : String
  name : String
  /-- `ArgumentsString` -/
  arguments : String

structure ResponsesUsage where
  inputTokens : Int
  outputTokens : Int
  totalTokens : Int
  inputTokensDetails : Option PromptTokensDetails
  reasoningTokens : Int

/-- `OpenAIResponsesResponse` -/
structure ResponsesBody where
  usage : Option ResponsesUsage
  /-- The message of an error with a type. -/
  openAIError : Option String

structure ResponsesStreamResponse where
  type : ResponsesEventType
  delta : String
  item : Option ResponsesOutput
  itemId : String
  response : Option ResponsesBody
  /-- `newRecognizedAutoRouteError`, of the event or of its response. -/
  autoRouteError : Option String

/-! ## The handler -/

/-- The variables of `OaiResponsesToChatStreamHandler`. -/
structure ResponsesToChatState where
  info : ClaudeConvertInfo
  sent : List ClaudeEvent
  usage : TextUsage
  outputText : String
  usageText : String
  sentStart : Bool
  sentStop : Bool
  streamCompleted : Bool
  sawToolCall : Bool
  streamErr : Option String
  /-- The keys of `toolCallIndexByID`; the index of a key is its position. -/
  toolCallIds : List String
  toolCallNameByID : String → String
  toolCallArgsByID : String → String
  toolCallNameSent : String → Bool
  toolCallCanonicalIDByItemID : String → String
  hasSentReasoningSummary : Bool
  needsReasoningSummarySeparator : Bool

def ResponsesToChatState.initial : ResponsesToChatState where
  info := .initial
  sent := []
  usage := .empty
  outputText := ""
  usageText := ""
  sentStart := false
  sentStop := false
  streamCompleted := false
  sawToolCall := false
  streamErr := none
  toolCallIds := []
  toolCallNameByID _ := ""
  toolCallArgsByID _ := ""
  toolCallNameSent _ := false
  toolCallCanonicalIDByItemID _ := ""
  hasSentReasoningSummary := false
  needsReasoningSummarySeparator := false

def deltaChunk (d : ChatStreamDelta) : ChatStreamResponse := ⟨[⟨d, none, 0⟩], none, ""⟩

def generateStartEmptyResponse : ChatStreamResponse := deltaChunk ⟨some "", none, none, none⟩

def generateStopResponse (finishReason : String) : ChatStreamResponse := ⟨[⟨.empty, some finishReason, 0⟩], none, ""⟩

section ResponsesToChat

variable (format : StreamFormat ClaudeEvent)

/-- `sendChatChunk`, for a client of Claude. -/
def sendChatChunk (chunk : ChatStreamResponse) (s : ResponsesToChatState) : ResponsesToChatState :=
  let converted := handleStreamFormat format s.info (some chunk)
  { s with info := converted.2, sent := s.sent ++ converted.1 }

def sendStartIfNeeded (s : ResponsesToChatState) : ResponsesToChatState :=
  if s.sentStart then s else { sendChatChunk format generateStartEmptyResponse s with sentStart := true }

/-- Summaries are separated by an empty line. -/
def separatedDelta (needed : Bool) (delta : String) : String :=
  if !needed || hasPrefix delta "\n\n" then delta
  else if hasPrefix delta "\n" then "\n" ++ delta
  else "\n\n" ++ delta

def sendReasoningSummaryDelta (delta : String) (s : ResponsesToChatState) : ResponsesToChatState :=
  if delta = "" then s
  else
    let delta := separatedDelta s.needsReasoningSummarySeparator delta
    let s := sendStartIfNeeded format { s with needsReasoningSummarySeparator := false }
    { sendChatChunk format (deltaChunk ⟨none, some delta, none, none⟩) { s with usageText := s.usageText ++ delta } with
      hasSentReasoningSummary := true }

def sendToolCallDelta (callID name argsDelta : String) (s : ResponsesToChatState) : ResponsesToChatState :=
  -- a text that was sent takes precedence over tool calls
  if callID = "" ∨ s.outputText ≠ "" then s
  else
    let s := sendStartIfNeeded format s
    let ids := if callID ∈ s.toolCallIds then s.toolCallIds else s.toolCallIds ++ [callID]
    let names := if name = "" then s.toolCallNameByID else Function.update s.toolCallNameByID callID name
    let name := if names callID = "" then name else names callID
    let named := name ≠ "" && !s.toolCallNameSent callID
    let tool : ToolCallResponse := ⟨some (ids.idxOf callID : Int), callID, if named then name else "", argsDelta⟩
    let s :=
      { s with
        toolCallIds := ids
        toolCallNameByID := names
        toolCallNameSent := if named then Function.update s.toolCallNameSent callID true else s.toolCallNameSent
        usageText := s.usageText ++ tool.name ++ argsDelta }
    { sendChatChunk format (deltaChunk ⟨none, none, none, some [tool]⟩) s with sawToolCall := true }

def sendOutputText (delta : String) (s : ResponsesToChatState) : ResponsesToChatState :=
  let s := sendStartIfNeeded format s
  if delta = "" then s
  else
    sendChatChunk format (deltaChunk ⟨some delta, none, none, none⟩)
      { s with outputText := s.outputText ++ delta, usageText := s.usageText ++ delta }

/-- `response.output_item.added` and `response.output_item.done` -/
def handleOutputItem (item : ResponsesOutput) (s : ResponsesToChatState) : ResponsesToChatState :=
  if item.type ≠ "function_call" then s
  else
    let itemID := trimSpace item.id
    let callID := if trimSpace item.callId = "" then itemID else trimSpace item.callId
    let name := trimSpace item.name
    let prevArgs := s.toolCallArgsByID callID
    let argsDelta := if hasPrefix item.arguments prevArgs then trimPrefix item.arguments prevArgs else item.arguments
    sendToolCallDelta format callID name argsDelta
      { s with
        toolCallCanonicalIDByItemID :=
          if itemID ≠ "" ∧ callID ≠ "" then Function.update s.toolCallCanonicalIDByItemID itemID callID
          else s.toolCallCanonicalIDByItemID
        toolCallNameByID := if name = "" then s.toolCallNameByID else Function.update s.toolCallNameByID callID name
        toolCallArgsByID :=
          if item.arguments = "" then s.toolCallArgsByID else Function.update s.toolCallArgsByID callID item.arguments }

def handleArgumentsDelta (itemId delta : String) (s : ResponsesToChatState) : ResponsesToChatState :=
  let itemID := trimSpace itemId
  let canonical := s.toolCallCanonicalIDByItemID itemID
  let callID := if canonical = "" then itemID else canonical
  if callID = "" then s
  else
    sendToolCallDelta format callID "" delta
      { s with toolCallArgsByID := Function.update s.toolCallArgsByID callID (s.toolCallArgsByID callID ++ delta) }

def completedUsage (usage : TextUsage) (u : ResponsesUsage) : TextUsage :=
  let prompt := if u.inputTokens = 0 then usage.promptTokens else u.inputTokens
  let completion := if u.outputTokens = 0 then usage.completionTokens else u.outputTokens
  { usage with
    promptTokens := prompt
    inputTokens := if u.inputTokens = 0 then usage.inputTokens else u.inputTokens
    completionTokens := completion
    outputTokens := if u.outputTokens = 0 then usage.outputTokens else u.outputTokens
    totalTokens := if u.totalTokens = 0 then prompt + completion else u.totalTokens
    promptTokensDetails :=
      match u.inputTokensDetails with
      | none => usage.promptTokensDetails
      | some d =>
        { usage.promptTokensDetails with
          cachedTokens := d.cachedTokens, imageTokens := d.imageTokens, audioTokens := d.audioTokens }
    completionTokenDetails :=
      { usage.completionTokenDetails with
        reasoningTokens :=
          if u.reasoningTokens = 0 then usage.completionTokenDetails.reasoningTokens else u.reasoningTokens } }

/-- The chunk that finishes the message; the usage is stored for it. -/
def sendStop (s : ResponsesToChatState) : ResponsesToChatState :=
  sendChatChunk format (generateStopResponse (if s.sawToolCall && s.outputText = "" then "tool_calls" else "stop"))
    { s with info := { s.info with usage := some s.usage } }

def handleCompleted (body : Option ResponsesBody) (s : ResponsesToChatState) : ResponsesToChatState :=
  let usage :=
    match body.bind (·.usage) with
    | none => s.usage
    | some u => completedUsage s.usage u
  let s := sendStartIfNeeded format { s with streamCompleted := true, usage := usage }
  if s.sentStop then s else { sendStop format s with sentStop := true }

/-- The callback, for an event that is decoded. -/
def handleResponsesEvent (s : ResponsesToChatState) (e : ResponsesStreamResponse) : ResponsesToChatState × StreamResult :=
  match e.autoRouteError with
  | some err => ({ s with streamErr := some err }, .stop err)
  | none =>
    match e.type with
    | .reasoningSummaryTextDelta => (sendReasoningSummaryDelta format e.delta s, .next)
    | .reasoningSummaryTextDone =>
      (if s.hasSentReasoningSummary then { s with needsReasoningSummarySeparator := true } else s, .next)
    | .outputTextDelta => (sendOutputText format e.delta s, .next)
    | .outputItemAdded | .outputItemDone =>
      match e.item with
      | none => (s, .next)
      | some item => (handleOutputItem format item s, .next)
    | .functionCallArgumentsDelta => (handleArgumentsDelta format e.itemId e.delta s, .next)
    | .completed => (handleCompleted format e.response s, .done)
    | .error | .failed =>
      let err := (e.response.bind (·.openAIError)).getD "responses stream error"
      ({ s with streamErr := some err }, .stop err)
    | .created | .functionCallArgumentsDone | .other _ => (s, .next)

/-- The callback; data that cannot be decoded are a soft error. -/
def responsesToChatHandler (s : ResponsesToChatState) (data : Option ResponsesStreamResponse) :
    ResponsesToChatState × StreamResult :=
  match s.streamErr with
  | some err => (s, .stop err)
  | none =>
    match data with
    | none => (s, .next)
    | some e => handleResponsesEvent format s e

/-- What is sent once the stream has ended. -/
def finishResponses (site : OaiSite) (relay : OaiRelay) (s : ResponsesToChatState) : ResponsesToChatState :=
  let s :=
    if s.usage.totalTokens = 0 then
      { s with
        usage := responseText2Usage site.toClaudeSite s.usageText relay.upstreamModelName relay.estimatePromptTokens }
    else s
  let s := if s.sentStart then s else sendChatChunk format generateStartEmptyResponse s
  if s.sentStop then s else sendStop format s

/-- What is sent, and the usage, if there is no error. -/
def oaiResponsesToChatStreamHandler (site : OaiSite) (relay : OaiRelay) (ending : StreamStatus)
    (stream : List (Option ResponsesStreamResponse)) : List ClaudeEvent × Option TextUsage :=
  let scan := streamScannerHandler (responsesToChatHandler format) ending .initial stream
  let gone := if scan.2.endReason = .clientGone then some TextUsage.empty else none
  match scan.1.streamErr with
  | some _ => (scan.1.sent, gone)
  | none =>
    if !scan.1.streamCompleted && upstreamStreamFailure scan.2 then (scan.1.sent, gone)
    else
      let s := finishResponses format site relay scan.1
      (s.sent, some s.usage)

end ResponsesToChat

/-! ## No stream is closed -/

/-- Nothing ends the message, and the stop chunk is not the first one. -/
structure NeverEnds (s : ResponsesToChatState) : Prop where
  content : ContentOnly s.sent
  done : s.info.done = false
  started : s.sentStart = true → 1 ≤ s.info.sendResponseCount

section NeverEnds

variable (inputTokens : Int) {s : ResponsesToChatState} {info : ClaudeConvertInfo}

theorem handle_unfinished (hdone : info.done = false) (d : ChatStreamDelta) :
    let next := handleStreamFormat (claudeFormat inputTokens) info (some (deltaChunk d))
    ContentOnly next.1 ∧ next.2.done = false ∧ next.2.sendResponseCount = info.sendResponseCount + 1 := by
  let start : ClaudeConvertInfo := { info with sendResponseCount := info.sendResponseCount + 1 }
  intro next
  have hconvert : next = streamResponseOpenAI2Claude start inputTokens (deltaChunk d) := rfl
  rw [hconvert, streamResponseOpenAI2Claude, if_neg (by simp [start, hdone])]
  by_cases hfirst : start.sendResponseCount = 1
  · rw [if_pos hfirst]
    have hset := congrArg Prod.snd (convertFirstContent_setMessage start start.sendResponseCount start.usage start.finishReason
      start.done d)
    exact ⟨List.forall_mem_cons.2 ⟨rfl, (convertFirstContent_blocks start d).content⟩,
      (congrArg (·.done) hset).trans hdone, congrArg (·.sendResponseCount) hset⟩
  · rw [if_neg hfirst]
    have hset := congrArg Prod.snd (convertDelta_setMessage start start.sendResponseCount start.usage start.finishReason
      start.done d)
    exact ⟨(convertDelta_blocks start d).content, (congrArg (·.done) hset).trans hdone,
      congrArg (·.sendResponseCount) hset⟩

/-- **The stop chunk sends nothing**: it has no usage. -/
theorem handle_stop (hdone : info.done = false) (hcount : 1 ≤ info.sendResponseCount)
    {reason : String} (hreason : reason ≠ "") :
    let next := handleStreamFormat (claudeFormat inputTokens) info (some (generateStopResponse reason))
    next.1 = [] ∧ next.2.done = false ∧ 1 ≤ next.2.sendResponseCount := by
  let start : ClaudeConvertInfo := { info with sendResponseCount := info.sendResponseCount + 1 }
  intro next
  have hconvert : next = streamResponseOpenAI2Claude start inputTokens (generateStopResponse reason) := rfl
  have hfinished : (generateStopResponse reason).finished = some reason := by
    simp [generateStopResponse, ChatStreamResponse.finished, ChatStreamChoice.finished, hreason]
  have hfirst : start.sendResponseCount ≠ 1 := by
    simp only [start]
    omega
  rw [hconvert, streamResponseOpenAI2Claude, if_neg (by simp [start, hdone]), if_neg hfirst, hfinished]
  exact ⟨rfl, hdone, by simp [convertFinish, generateStopResponse, start]⟩

variable (h : NeverEnds s)

include h

theorem NeverEnds.send (d : ChatStreamDelta) :
    let sent := sendChatChunk (claudeFormat inputTokens) (deltaChunk d) s
    NeverEnds sent ∧ 1 ≤ sent.info.sendResponseCount := by
  intro sent
  obtain ⟨hcontent, hdone, hcount⟩ := handle_unfinished inputTokens h.done d
  have hpos : 1 ≤ sent.info.sendResponseCount := by
    simp only [sent, sendChatChunk]
    omega
  exact ⟨⟨List.forall_mem_append.2 ⟨h.content, hcontent⟩, hdone, fun _ => hpos⟩, hpos⟩

theorem NeverEnds.start : NeverEnds (sendStartIfNeeded (claudeFormat inputTokens) s) ∧
    1 ≤ (sendStartIfNeeded (claudeFormat inputTokens) s).info.sendResponseCount := by
  unfold sendStartIfNeeded
  split
  next hstart => exact ⟨h, h.started hstart⟩
  · obtain ⟨hsend, hpos⟩ := h.send inputTokens ⟨some "", none, none, none⟩
    exact ⟨⟨hsend.content, hsend.done, fun _ => hpos⟩, hpos⟩

theorem NeverEnds.stop (hcount : 1 ≤ s.info.sendResponseCount) :
    NeverEnds (sendStop (claudeFormat inputTokens) s) := by
  have hdone : ({ s.info with usage := some s.usage } : ClaudeConvertInfo).done = false := h.done
  have hreason : (if s.sawToolCall && s.outputText = "" then "tool_calls" else "stop") ≠ "" := by split <;> decide
  obtain ⟨hsent, hnext, hpos⟩ := handle_stop inputTokens hdone hcount hreason
  refine ⟨?_, hnext, fun _ => hpos⟩
  simp only [sendStop, sendChatChunk, hsent, List.append_nil]
  exact h.content

theorem NeverEnds.congr {t : ResponsesToChatState} (hinfo : t.info = s.info) (hsent : t.sent = s.sent)
    (hstart : t.sentStart = s.sentStart) : NeverEnds t :=
  ⟨hsent ▸ h.content, hinfo ▸ h.done, fun ht => hinfo ▸ h.started (hstart ▸ ht)⟩

omit h

variable {inputTokens} {delta : String} (h : NeverEnds s)

include h

theorem NeverEnds.reasoning :
    NeverEnds (sendReasoningSummaryDelta (claudeFormat inputTokens) delta s) := by
  unfold sendReasoningSummaryDelta
  split
  · exact h
  · let separated := separatedDelta s.needsReasoningSummarySeparator delta
    have hreset : NeverEnds { s with needsReasoningSummarySeparator := false } := h.congr rfl rfl rfl
    let started := sendStartIfNeeded (claudeFormat inputTokens) { s with needsReasoningSummarySeparator := false }
    have hstart : NeverEnds started := (hreset.start inputTokens).1
    have hcounted : NeverEnds { started with usageText := started.usageText ++ separated } := hstart.congr rfl rfl rfl
    exact (hcounted.send inputTokens ⟨none, some separated, none, none⟩).1.congr rfl rfl rfl

theorem NeverEnds.toolCall {callID name argsDelta : String} :
    NeverEnds (sendToolCallDelta (claudeFormat inputTokens) callID name argsDelta s) := by
  unfold sendToolCallDelta
  split
  · exact h
  · have hstart := (h.start inputTokens).1
    extract_lets start ids names name named tool next
    have hnext : NeverEnds next := hstart.congr rfl rfl rfl
    exact (hnext.send inputTokens ⟨none, none, none, some [tool]⟩).1.congr rfl rfl rfl

theorem NeverEnds.outputText : NeverEnds (sendOutputText (claudeFormat inputTokens) delta s) := by
  unfold sendOutputText
  have hstart := (h.start inputTokens).1
  generalize sendStartIfNeeded (claudeFormat inputTokens) s = started at hstart
  split
  · exact hstart
  · have hnext : NeverEnds
        { started with outputText := started.outputText ++ delta, usageText := started.usageText ++ delta } :=
      hstart.congr rfl rfl rfl
    exact (hnext.send inputTokens ⟨some delta, none, none, none⟩).1

theorem NeverEnds.outputItem {item : ResponsesOutput} :
    NeverEnds (handleOutputItem (claudeFormat inputTokens) item s) := by
  unfold handleOutputItem
  split
  · exact h
  · extract_lets itemID callID name prevArgs argsDelta
    refine NeverEnds.toolCall ?_
    exact h.congr rfl rfl rfl

theorem NeverEnds.argumentsDelta {itemId : String} :
    NeverEnds (handleArgumentsDelta (claudeFormat inputTokens) itemId delta s) := by
  unfold handleArgumentsDelta
  extract_lets itemID canonical callID
  split
  · exact h
  · refine NeverEnds.toolCall ?_
    exact h.congr rfl rfl rfl

theorem NeverEnds.completed {body : Option ResponsesBody} :
    NeverEnds (handleCompleted (claudeFormat inputTokens) body s) := by
  unfold handleCompleted
  extract_lets usage started
  have hcompleted : NeverEnds { s with streamCompleted := true, usage := usage } := h.congr rfl rfl rfl
  have hstart : NeverEnds started ∧ 1 ≤ started.info.sendResponseCount := hcompleted.start inputTokens
  split
  · exact hstart.1
  · have hstop := hstart.1.stop inputTokens hstart.2
    exact hstop.congr rfl rfl rfl

/-- **One event.** -/
theorem NeverEnds.step {data : Option ResponsesStreamResponse} :
    NeverEnds (responsesToChatHandler (claudeFormat inputTokens) s data).1 := by
  unfold responsesToChatHandler
  split
  · exact h
  · cases data with
    | none => exact h
    | some e =>
      simp only [handleResponsesEvent]
      split
      · exact h.congr rfl rfl rfl
      · split
        · exact h.reasoning
        · split
          · exact h.congr rfl rfl rfl
          · exact h
        · exact h.outputText
        · split
          · exact h
          · exact h.outputItem
        · split
          · exact h
          · exact h.outputItem
        · exact h.argumentsDelta
        · exact h.completed
        · exact h.congr rfl rfl rfl
        · exact h.congr rfl rfl rfl
        · exact h
        · exact h
        · exact h

theorem NeverEnds.finish {site : OaiSite} {relay : OaiRelay} :
    NeverEnds (finishResponses (claudeFormat inputTokens) site relay s) := by
  unfold finishResponses
  extract_lets counted started
  have hcounted : NeverEnds counted := by
    simp only [counted]
    split
    · exact h.congr rfl rfl rfl
    · exact h
  have hstart : NeverEnds started ∧ 1 ≤ started.info.sendResponseCount := by
    simp only [started]
    split
    next hsent => exact ⟨hcounted, hcounted.started hsent⟩
    · exact hcounted.send inputTokens ⟨some "", none, none, none⟩
  split
  · exact hstart.1
  · exact hstart.1.stop inputTokens hstart.2

end NeverEnds

/-- **No stream of the Responses API is closed.** -/
theorem responses_not_closed (inputTokens : Int) (site : OaiSite) (relay : OaiRelay) (ending : StreamStatus)
    (stream : List (Option ResponsesStreamResponse)) :
    ¬ StreamClosed (oaiResponsesToChatStreamHandler (claudeFormat inputTokens) site relay ending stream).1 := by
  have hscan : NeverEnds
      (streamScannerHandler (responsesToChatHandler (claudeFormat inputTokens)) ending .initial stream).1 :=
    streamScanner_inv (fun _ _ _ h => h.step) ⟨nofun, rfl, nofun⟩
  unfold oaiResponsesToChatStreamHandler
  extract_lets scan gone
  split
  · exact not_closed hscan.content
  · split
    · exact not_closed hscan.content
    · exact not_closed hscan.finish.content

/-- **When a Claude stream is closed.** A chat stream whose last chunk finishes choice 0 or only has the usage is closed if
and only if `ClosesStream` holds; a stream of the Responses API never is. -/
theorem claude_stream_closed_iff (site : OaiSite) (relay : OaiRelay) :
    (∀ stream r, stream.getLast? = some (some r) → r.isFinished = true ∨ r.choices = [] ∧ r.usage.isSome = true →
      (StreamClosed (streamEvents (claudeFormat relay.estimatePromptTokens) site relay stream) ↔
        ClosesStream (stream.filter forwarded) r)) ∧
    ∀ ending stream, ¬ StreamClosed
      (oaiResponsesToChatStreamHandler (claudeFormat relay.estimatePromptTokens) site relay ending stream).1 :=
  ⟨fun _ _ hlast hr => chat_closed_iff site relay hlast hr,
    fun ending stream => responses_not_closed relay.estimatePromptTokens site relay ending stream⟩

namespace Sample

def oaiSite : OaiSite := { claudeSite with applyUsagePostProcessing := fun u _ => u }

def oaiRelay : OaiRelay := ⟨"gpt", 10, true⟩

/-- The chunk that an upstream sends first. -/
def roleChunk : ChatStreamResponse := deltaChunk ⟨some "", none, none, none⟩

def textChunk (text : String) : ChatStreamResponse := deltaChunk ⟨some text, none, none, none⟩

/-- The chunk that finishes choice 0, without a usage. -/
def finishChunk (reason : String) : ChatStreamResponse := generateStopResponse reason

def usageChunk : ChatStreamResponse := ⟨[], some { TextUsage.empty with promptTokens := 5, completionTokens := 2 }, ""⟩

def usageStream : List (Option ChatStreamResponse) :=
  [some roleChunk, some (textChunk "Hi"), some (finishChunk "stop"), some usageChunk]

/-- The same stream without a usage. -/
def unusedStream : List (Option ChatStreamResponse) :=
  [some roleChunk, some (textChunk "Hi"), some (finishChunk "stop")]

end Sample

open Sample in
theorem claude_stream_closed_usage : StreamClosed (streamEvents (claudeFormat 10) oaiSite oaiRelay usageStream) :=
  ((claude_stream_closed_iff oaiSite oaiRelay).1 usageStream usageChunk rfl (.inr ⟨rfl, rfl⟩)).2 ⟨rfl, rfl, rfl⟩

open Sample in
/-- A stream that ends with `finish_reason` and no usage gets no `message_stop`. -/
theorem claude_stream_unclosed : ¬ StreamClosed (streamEvents (claudeFormat 10) oaiSite oaiRelay unusedStream) := by
  rintro ⟨body, reason, usage, hevents, -⟩
  have hstop : ClaudeEvent.messageStop ∈ streamEvents (claudeFormat 10) oaiSite oaiRelay unusedStream := by
    rw [hevents]
    simp
  exact absurd hstop (by decide)

end SynthApi
