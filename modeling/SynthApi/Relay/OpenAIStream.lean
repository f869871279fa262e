import SynthApi.Relay.ClaudeStream

/-!
# Streams of OpenAI for clients of Claude and Gemini

`OaiStreamHandler` (`relay/channel/openai/relay-openai.go`) reads the chunks of a chat completion. For a client of another
format it converts a chunk at once (`HandleStreamFormat`) unless the chunk finishes choice 0 or only has the usage; when the
stream has ended, `HandleFinalResponse` converts the last chunk, whatever it is, once more or for the first time. The
converters are `StreamResponseOpenAI2Claude` and `StreamResponseOpenAI2Gemini` (`service/convert.go`).

What is sent therefore depends on the chunks that are handled at once and on the last one (`oaiStream_sent`).
-/

namespace SynthApi

open Lib Lib.Go

/-! ## Chunks -/

structure ToolCallResponse where
  index : Option Int
  id : String
  name : String
  arguments : String
  deriving DecidableEq, Repr

/-- `ChatCompletionsStreamResponseChoiceDelta` -/
structure ChatStreamDelta where
  content : Option String
  reasoningContent : Option String
  reasoning : Option String
  /-- `nil` is not the empty list for Gemini. -/
  toolCalls : Option (List ToolCallResponse)
  deriving DecidableEq, Repr

namespace ChatStreamDelta

variable (d : ChatStreamDelta)

def empty : ChatStreamDelta := ⟨none, none, none, none⟩

def getContentString : String := d.content.getD ""

def getReasoningContent : String := (d.reasoningContent.or d.reasoning).getD ""

def calls : List ToolCallResponse := d.toolCalls.getD []

end ChatStreamDelta

/-- `ChatCompletionsStreamResponseChoice` -/
structure ChatStreamChoice where
  delta : ChatStreamDelta
  finishReason : Option String
  index : Int
  deriving DecidableEq, Repr

def ChatStreamChoice.finished (c : ChatStreamChoice) : Option String := c.finishReason.filter (· ≠ "")

/-- `ChatCompletionsStreamResponse`, a chunk of the stream. -/
structure ChatStreamResponse where
  choices : List ChatStreamChoice
  usage : Option TextUsage
  serviceTier : String
  deriving DecidableEq, Repr

def validUsage (usage : Option TextUsage) : Bool :=
  usage.any fun u => decide (u.promptTokens ≠ 0 ∨ u.completionTokens ≠ 0)

namespace ChatStreamResponse

variable (r : ChatStreamResponse)

def finished : Option String := r.choices.head?.bind (·.finished)

def isFinished : Bool := r.finished.isSome

def usageOnly : Bool := validUsage r.usage && r.choices.isEmpty

def delta : ChatStreamDelta := (r.choices.head?.map (·.delta)).getD .empty

end ChatStreamResponse

/-! ## Events for Claude -/

inductive ClaudeBlock where
  | thinking
  | text
  | toolUse (id name : String)
  deriving DecidableEq, Repr

inductive ClaudeDelta where
  | thinking (text : String)
  | text (text : String)
  | inputJson (partialJson : String)
  deriving DecidableEq, Repr

/-- An event that is sent to the client. -/
inductive ClaudeEvent where
  | messageStart (inputTokens : Int)
  | contentBlockStart (index : Int) (block : ClaudeBlock)
  | contentBlockDelta (index : Int) (delta : ClaudeDelta)
  | contentBlockStop (index : Int)
  | messageDelta (stopReason : String) (usage : ClaudeUsage)
  | messageStop
  deriving DecidableEq, Repr

inductive LastMessageType where
  | none
  | text
  | tools
  | thinking
  deriving DecidableEq, Repr

/-- `ClaudeConvertInfo`, with the other fields of `RelayInfo` that the conversion reads. -/
structure ClaudeConvertInfo where
  sendResponseCount : Nat
  lastMessagesType : LastMessageType
  index : Int
  usage : Option TextUsage
  finishReason : String
  done : Bool
  toolCallBaseIndex : Int
  toolCallMaxIndexOffset : Int
  deriving DecidableEq, Repr

def ClaudeConvertInfo.initial : ClaudeConvertInfo := ⟨0, .none, 0, none, "", false, 0, 0⟩

/-- `strings.ToLower`, for a comparison with ASCII text: two other letters have an ASCII letter as lower case. -/
def lowerReason (reason : String) : String :=
  String.ofList (reason.toList.map fun c => if c.toNat = 0x212a then 'k' else if c.toNat = 0x130 then 'i' else c.toLower)

def openAIFinishReasonToClaudeStopReason (finishReason : String) : String :=
  match lowerReason finishReason with
  | "stop" => "end_turn"
  | "stop_sequence" => "stop_sequence"
  | "length" => "max_tokens"
  | "max_tokens" => "max_tokens"
  | "content_filter" => "refusal"
  | "tool_calls" => "tool_use"
  | _ => finishReason

def normalizeCacheCreationSplit (totalTokens tokens5m tokens1h : Int) : Int × Int :=
  (tokens5m + max (totalTokens - tokens5m - tokens1h) 0, tokens1h)

def buildClaudeUsageFromOpenAIUsage (u : TextUsage) : ClaudeUsage :=
  let split := normalizeCacheCreationSplit u.promptTokensDetails.cachedCreationTokens u.claudeCacheCreation5mTokens
    u.claudeCacheCreation1hTokens
  { inputTokens := u.promptTokens
    outputTokens := u.completionTokens
    cacheCreationInputTokens := u.promptTokensDetails.cachedCreationTokens
    cacheReadInputTokens := u.promptTokensDetails.cachedTokens
    cacheCreation := if 0 < split.1 ∨ 0 < split.2 then some ⟨split.1, split.2⟩ else none }

/-! ### There and back -/

def cacheCreationTokensForOpenAIUsage (u : TextUsage) : Int :=
  let splitCacheCreationTokens := u.claudeCacheCreation5mTokens + u.claudeCacheCreation1hTokens
  if splitCacheCreationTokens = 0 then u.promptTokensDetails.cachedCreationTokens
  else if u.promptTokensDetails.cachedCreationTokens > splitCacheCreationTokens then
    u.promptTokensDetails.cachedCreationTokens
  else splitCacheCreationTokens

def buildOpenAIStyleUsageFromClaudeUsage (u : TextUsage) : TextUsage :=
  let split := normalizeCacheCreationSplit u.promptTokensDetails.cachedCreationTokens u.claudeCacheCreation5mTokens
    u.claudeCacheCreation1hTokens
  let totalInputTokens := u.promptTokens + u.promptTokensDetails.cachedTokens + cacheCreationTokensForOpenAIUsage u
  { u with
    claudeCacheCreation5mTokens := split.1
    claudeCacheCreation1hTokens := split.2
    promptTokens := totalInputTokens
    inputTokens := totalInputTokens
    totalTokens := totalInputTokens + u.completionTokens
    usageSemantic := "openai"
    usageSource := "anthropic" }

theorem getCacheCreation_build {u : TextUsage} (h5m : 0 ≤ u.claudeCacheCreation5mTokens)
    (h1h : 0 ≤ u.claudeCacheCreation1hTokens) :
    let v := buildClaudeUsageFromOpenAIUsage u
    (v.getCacheCreation5mTokens, v.getCacheCreation1hTokens) = normalizeCacheCreationSplit
      u.promptTokensDetails.cachedCreationTokens u.claudeCacheCreation5mTokens u.claudeCacheCreation1hTokens := by
  unfold buildClaudeUsageFromOpenAIUsage ClaudeUsage.getCacheCreation5mTokens ClaudeUsage.getCacheCreation1hTokens
  dsimp only
  split_ifs with hpos
  · rfl
  · simp only [normalizeCacheCreationSplit, Option.map_none, Option.getD_none, Prod.mk.injEq] at hpos ⊢
    omega

/-- **There and back**: the counts of the cache and of the output return, the first with the tokens of five minutes completed
to the total. The count of the input returns only if there was no cache, since it comes back with the tokens of the cache. -/
theorem usage_returns_iff (u : TextUsage)
    (h : 0 ≤ u.promptTokensDetails.cachedTokens ∧ 0 ≤ u.promptTokensDetails.cachedCreationTokens ∧
      0 ≤ u.claudeCacheCreation5mTokens ∧ 0 ≤ u.claudeCacheCreation1hTokens) :
    let v := buildClaudeUsageFromOpenAIUsage (buildOpenAIStyleUsageFromClaudeUsage u)
    let total := u.promptTokensDetails.cachedCreationTokens
    (v.cacheReadInputTokens = u.promptTokensDetails.cachedTokens ∧ v.cacheCreationInputTokens = total ∧
      v.getCacheCreation5mTokens = max u.claudeCacheCreation5mTokens (total - u.claudeCacheCreation1hTokens) ∧
      v.getCacheCreation1hTokens = u.claudeCacheCreation1hTokens ∧ v.outputTokens = u.completionTokens) ∧
    (v.inputTokens = u.promptTokens ↔ u.promptTokensDetails.cachedTokens = 0 ∧ total = 0 ∧
      u.claudeCacheCreation5mTokens = 0 ∧ u.claudeCacheCreation1hTokens = 0) := by
  obtain ⟨hread, htotal, h5m, h1h⟩ := h
  intro v total
  have hsplit := getCacheCreation_build (u := buildOpenAIStyleUsageFromClaudeUsage u) (add_nonneg h5m (le_max_right _ _)) h1h
  simp only [normalizeCacheCreationSplit, buildOpenAIStyleUsageFromClaudeUsage, Prod.mk.injEq] at hsplit
  refine ⟨⟨rfl, rfl, hsplit.1.trans ?_, hsplit.2, rfl⟩, ?_⟩
  · omega
  · simp only [v, total, buildClaudeUsageFromOpenAIUsage, buildOpenAIStyleUsageFromClaudeUsage,
      cacheCreationTokensForOpenAIUsage]
    split_ifs <;> omega

theorem usage_returns_uncached :
    let u : TextUsage := { TextUsage.empty with promptTokens := 7 }
    (buildClaudeUsageFromOpenAIUsage (buildOpenAIStyleUsageFromClaudeUsage u)).inputTokens = 7 :=
  (usage_returns_iff { TextUsage.empty with promptTokens := 7 } (by decide)).2.2 (by decide)

/-- Five tokens of the cache come back as input. -/
theorem usage_returns_cached :
    let u : TextUsage := { TextUsage.empty with promptTokens := 7, promptTokensDetails := ⟨5, 0, 0, 0, 0, 0⟩ }
    (buildClaudeUsageFromOpenAIUsage (buildOpenAIStyleUsageFromClaudeUsage u)).inputTokens = 12 := by
  decide

/-! ## `StreamResponseOpenAI2Claude` -/

section Convert

variable (info : ClaudeConvertInfo)

def stopOpenBlocks : List ClaudeEvent :=
  match info.lastMessagesType with
  | .none => []
  | .text | .thinking => [.contentBlockStop info.index]
  | .tools =>
    (List.range (info.toolCallMaxIndexOffset + 1).toNat).map fun offset : Nat =>
      .contentBlockStop (info.toolCallBaseIndex + offset)

/-- What `stopOpenBlocksAndAdvance` leaves. -/
def advanceIndex : ClaudeConvertInfo :=
  match info.lastMessagesType with
  | .none => info
  | .tools =>
    { info with
      index := info.toolCallBaseIndex + info.toolCallMaxIndexOffset + 1
      toolCallBaseIndex := 0
      toolCallMaxIndexOffset := 0
      lastMessagesType := .none }
  | .text | .thinking => { info with index := info.index + 1, lastMessagesType := .none }

inductive TextKind where
  | thinking
  | text
  deriving DecidableEq, Repr

namespace TextKind

def messagesType : TextKind → LastMessageType
  | .thinking => .thinking
  | .text => .text

def block : TextKind → ClaudeBlock
  | .thinking => .thinking
  | .text => .text

def delta : TextKind → String → ClaudeDelta
  | .thinking => .thinking
  | .text => .text

end TextKind

def ChatStreamDelta.textContent (d : ChatStreamDelta) : Option (TextKind × String) :=
  if d.getReasoningContent ≠ "" then some (.thinking, d.getReasoningContent)
  else if d.getContentString ≠ "" then some (.text, d.getContentString)
  else none

/-- The block for a text; the first chunk starts one (`always`) even if a block of the kind is open. -/
def openTextBlock (always : Bool) (kind : TextKind) : List ClaudeEvent × ClaudeConvertInfo :=
  if info.lastMessagesType = kind.messagesType then
    (if always then [.contentBlockStart info.index kind.block] else [], info)
  else (stopOpenBlocks info ++ [.contentBlockStart (advanceIndex info).index kind.block], advanceIndex info)

def convertText (always : Bool) (content : TextKind × String) : List ClaudeEvent × ClaudeConvertInfo :=
  let opened := openTextBlock info always content.1
  (opened.1 ++ [.contentBlockDelta opened.2.index (content.1.delta content.2)],
    { opened.2 with lastMessagesType := content.1.messagesType })

def convertTextContent (always : Bool) (d : ChatStreamDelta) : List ClaudeEvent × ClaudeConvertInfo :=
  match d.textContent with
  | none => ([], info)
  | some content => convertText info always content

/-- The events of the tool call of the block `index`; the first chunk starts the block (`always`) even without a name. -/
def toolCallEvents (always : Bool) (index : Int) (call : ToolCallResponse) : List ClaudeEvent :=
  (if always ∨ call.name ≠ "" then [.contentBlockStart index (.toolUse call.id call.name)] else []) ++
    if call.arguments ≠ "" then [.contentBlockDelta index (.inputJson call.arguments)] else []

def toolOffsets (calls : List ToolCallResponse) : List (Int × ToolCallResponse) :=
  calls.zipIdx.map fun call => (call.1.index.getD call.2, call.1)

/-- The state in which the tool calls of a chunk are converted. -/
def openTools : ClaudeConvertInfo :=
  if info.lastMessagesType = .tools then info
  else
    { advanceIndex info with
      toolCallBaseIndex := (advanceIndex info).index
      toolCallMaxIndexOffset := 0
      lastMessagesType := .tools }

def convertTools (calls : List ToolCallResponse) : List ClaudeEvent × ClaudeConvertInfo :=
  let opened := openTools info
  let maxOffset := (toolOffsets calls).foldl (fun m call => max m call.1) opened.toolCallMaxIndexOffset
  ((if info.lastMessagesType = .tools then [] else stopOpenBlocks info) ++
      (toolOffsets calls).flatMap (fun call => toolCallEvents false (opened.toolCallBaseIndex + call.1) call.2),
    { opened with toolCallMaxIndexOffset := maxOffset, index := opened.toolCallBaseIndex + maxOffset })

/-- The content of a chunk after the first one: tool calls, else reasoning, else text. -/
def convertDelta (d : ChatStreamDelta) : List ClaudeEvent × ClaudeConvertInfo :=
  match d.calls with
  | [] => convertTextContent info false d
  | call :: calls => convertTools info (call :: calls)

def convertFirstTool (d : ChatStreamDelta) : List ClaudeEvent × ClaudeConvertInfo :=
  match d.calls with
  | [] => ([], info)
  | call :: _ =>
    (toolCallEvents true 0 call,
      { info with lastMessagesType := .tools, toolCallBaseIndex := 0, toolCallMaxIndexOffset := 0 })

def closeMessage (usage : Option TextUsage) (stopReason : String) : List ClaudeEvent × ClaudeConvertInfo :=
  (stopOpenBlocks info ++
      (usage.map fun u => ClaudeEvent.messageDelta stopReason (buildClaudeUsageFromOpenAIUsage u)).toList ++ [.messageStop],
    { info with done := true })

/-- The content of the first chunk: a tool call and then reasoning, else text. -/
def convertFirstContent (d : ChatStreamDelta) : List ClaudeEvent × ClaudeConvertInfo :=
  let tool := convertFirstTool info d
  let text := convertTextContent tool.2 true d
  (tool.1 ++ text.1, text.2)

/-- The chunk that is converted while `SendResponseCount` is 1. -/
def convertFirst (inputTokens : Int) (r : ChatStreamResponse) : List ClaudeEvent × ClaudeConvertInfo :=
  let content := convertFirstContent info r.delta
  match r.finished with
  | none => (.messageStart inputTokens :: content.1, content.2)
  | some reason =>
    let closed := closeMessage { content.2 with finishReason := reason } (r.usage.or info.usage)
      (openAIFinishReasonToClaudeStopReason reason)
    (.messageStart inputTokens :: (content.1 ++ closed.1), closed.2)

/-- A chunk without choices ends the message once there is a usage. -/
def convertUsage (r : ChatStreamResponse) : List ClaudeEvent × ClaudeConvertInfo :=
  match r.usage.or info.usage with
  | none => ([], info)
  | some u =>
    let stopReason := openAIFinishReasonToClaudeStopReason info.finishReason
    closeMessage info (some u) (if stopReason = "" then "end_turn" else stopReason)

/-- A chunk that finishes choice 0 is left to a later chunk if it has no usage. -/
def convertFinish (r : ChatStreamResponse) (reason : String) : List ClaudeEvent × ClaudeConvertInfo :=
  match r.usage with
  | none => ([], { info with finishReason := reason })
  | some u =>
    let content := convertDelta { info with finishReason := reason } r.delta
    let closed := closeMessage content.2 (some u) (openAIFinishReasonToClaudeStopReason reason)
    (content.1 ++ closed.1, closed.2)

/-- `inputTokens` is the estimate of the prompt. -/
def streamResponseOpenAI2Claude (inputTokens : Int) (r : ChatStreamResponse) : List ClaudeEvent × ClaudeConvertInfo :=
  if info.done then ([], info)
  else if info.sendResponseCount = 1 then convertFirst info inputTokens r
  else if r.choices = [] then convertUsage info r
  else
    match r.finished with
    | none => convertDelta info r.delta
    | some reason => convertFinish info r reason

end Convert

/-! ## `StreamResponseOpenAI2Gemini` -/

inductive GeminiPart where
  | text (text : String)
  | functionCall (name : String) (args : Json)

structure GeminiChatCandidate where
  index : Int
  finishReason : Option String
  parts : List GeminiPart

structure GeminiUsageMetadata where
  promptTokenCount : Int
  candidatesTokenCount : Int
  totalTokenCount : Int
  deriving DecidableEq, Repr

structure GeminiChatResponse where
  candidates : List GeminiChatCandidate
  usageMetadata : GeminiUsageMetadata

def openAIFinishReasonToGemini : String → String
  | "stop" => "STOP"
  | "length" => "MAX_TOKENS"
  | "content_filter" => "SAFETY"
  | "tool_calls" => "STOP"
  | _ => "STOP"

variable (parseArgs : String → Option Json)

/-- `parseArgs` decodes an object. -/
def geminiParts (d : ChatStreamDelta) : List GeminiPart :=
  match d.toolCalls with
  | some calls =>
    calls.map fun call =>
      .functionCall call.name
        (if call.arguments = "" then .object []
          else (parseArgs call.arguments).getD (.object [("arguments", .string call.arguments)]))
  | none => if d.getContentString = "" then [] else [.text d.getContentString]

def geminiCandidate (c : ChatStreamChoice) : GeminiChatCandidate :=
  ⟨c.index, c.finishReason.map openAIFinishReasonToGemini, geminiParts parseArgs c.delta⟩

def streamResponseOpenAI2Gemini (promptTokens : Int) (r : ChatStreamResponse) :
    Option GeminiChatResponse :=
  let hasContent := r.choices.any fun c => c.delta.getContentString ≠ "" || !c.delta.calls.isEmpty
  let hasFinishReason := r.choices.any fun c => c.finishReason.isSome
  if !hasContent && !hasFinishReason then none
  else
    some
      { candidates := r.choices.map (geminiCandidate parseArgs)
        usageMetadata :=
          match r.usage with
          | none => ⟨promptTokens, 0, promptTokens⟩
          | some u => ⟨u.promptTokens, u.completionTokens, u.totalTokens⟩ }

/-! ## `OaiStreamHandler` -/

/-- A piece of data: the chunk, if it can be decoded, and the error of the upstream that it reports. -/
structure StreamFrame where
  chunk : Option ChatStreamResponse
  autoRouteError : Option String
  deriving DecidableEq, Repr

/-- The data are converted at once. -/
def forwarded (chunk : Option ChatStreamResponse) : Bool := !chunk.any fun r => r.usageOnly || r.isFinished

/-- What a client's format does with a chunk. -/
structure StreamFormat (ε : Type) where
  /-- `handleClaudeFormat`, `handleGeminiFormat` -/
  handle : ClaudeConvertInfo → ChatStreamResponse → List ε × ClaudeConvertInfo
  /-- `HandleFinalResponse`, with the usage that is billed. -/
  final : TextUsage → ClaudeConvertInfo → ChatStreamResponse → List ε × ClaudeConvertInfo

/-- `handleClaudeFormat` stores the usage of the chunk before it is converted. -/
def storeUsage (info : ClaudeConvertInfo) (r : ChatStreamResponse) : ClaudeConvertInfo :=
  { info with usage := r.usage.or info.usage }

def claudeFormat (inputTokens : Int) : StreamFormat ClaudeEvent where
  handle info r := streamResponseOpenAI2Claude (storeUsage info r) inputTokens r
  final usage info r :=
    let converted := streamResponseOpenAI2Claude { info with usage := some usage } inputTokens r
    (converted.1, { converted.2 with done := true })

def geminiFormat (parseArgs : String → Option Json) (promptTokens : Int) : StreamFormat GeminiChatResponse where
  handle info r := ((streamResponseOpenAI2Gemini parseArgs promptTokens r).toList, info)
  final _ info r := ((streamResponseOpenAI2Gemini parseArgs promptTokens r).toList, info)

/-- The variables of `OaiStreamHandler`. -/
structure OaiStreamState (ε : Type) where
  info : ClaudeConvertInfo
  sent : List ε
  lastStreamData : Option StreamFrame
  streamErr : Option String

structure OaiSite extends ClaudeSite where
  applyUsagePostProcessing : TextUsage → Option StreamFrame → TextUsage

structure OaiRelay where
  upstreamModelName : String
  estimatePromptTokens : Int
  /-- The relay mode is that of chat completions. -/
  chatCompletions : Bool

/-- `ProcessStreamResponse`: the text, and the number of tool calls. -/
def processStreamResponse (acc : String × Nat) (r : ChatStreamResponse) : String × Nat :=
  r.choices.foldl (fun acc c =>
    (acc.1 ++ c.delta.getContentString ++ c.delta.getReasoningContent ++
      String.join (c.delta.calls.map fun call => call.name ++ call.arguments), max acc.2 c.delta.calls.length)) acc

def streamUsage (site : OaiSite) (relay : OaiRelay) (frames : List StreamFrame) : TextUsage :=
  let reported (f : Option StreamFrame) :=
    (f.bind (·.chunk)).bind fun r =>
      (r.usage.filter fun u => validUsage (some u)).map fun u => { u with serviceTier := r.serviceTier }
  let secondLast :=
    if strContains (toLower relay.upstreamModelName) "audio" then
      (frames.dropLast.getLast?.bind (·.chunk)).bind fun r => r.usage.filter fun u => validUsage (some u)
    else none
  let read := if relay.chatCompletions then (frames.filterMap (·.chunk)).foldl processStreamResponse ("", 0) else ("", 0)
  let text := responseText2Usage site.toClaudeSite read.1 relay.upstreamModelName relay.estimatePromptTokens
  site.applyUsagePostProcessing
    (((reported frames.getLast?).or secondLast).getD { text with completionTokens := text.completionTokens + read.2 * 7 })
    frames.getLast?

section Handler

variable {ε : Type} (format : StreamFormat ε)

/-- What is sent for data that are converted at once. -/
def handleStreamFormat (info : ClaudeConvertInfo) (chunk : Option ChatStreamResponse) : List ε × ClaudeConvertInfo :=
  let info := { info with sendResponseCount := info.sendResponseCount + 1 }
  match chunk with
  | none => ([], info)
  | some r => format.handle info r

def oaiDataHandler (s : OaiStreamState ε) (f : StreamFrame) : OaiStreamState ε × StreamResult :=
  let s := { s with lastStreamData := some f }
  match f.autoRouteError with
  | some err => ({ s with streamErr := some err }, .stop err)
  | none =>
    if forwarded f.chunk then
      let converted := handleStreamFormat format s.info f.chunk
      ({ s with info := converted.2, sent := s.sent ++ converted.1 }, .next)
    else (s, .next)

def handleFinalResponse (usage : TextUsage) (s : OaiStreamState ε) : OaiStreamState ε :=
  match s.lastStreamData.bind (·.chunk) with
  | none => s
  | some r => { s with info := (format.final usage s.info r).2, sent := s.sent ++ (format.final usage s.info r).1 }

/-- `newUpstreamStreamFailure`: the stream did not end as it should. -/
def upstreamStreamFailure (status : StreamStatus) : Bool :=
  match status.endReason with
  | .scannerErr | .timeout | .pingFail | .panic | .eof => true
  | .done | .clientGone | .handlerStop => false

/-- What is sent, and the usage, if there is no error. -/
def oaiStreamHandler (site : OaiSite) (relay : OaiRelay) (ending : StreamStatus) (frames : List StreamFrame) :
    List ε × Option TextUsage :=
  let scan := streamScannerHandler (oaiDataHandler format) ending ⟨.initial, [], none, none⟩ frames
  match scan.1.streamErr with
  | some _ => (scan.1.sent, if scan.2.endReason = .clientGone then some .empty else none)
  | none =>
    if upstreamStreamFailure scan.2 then (scan.1.sent, none)
    else
      let usage := streamUsage site relay frames
      ((handleFinalResponse format usage scan.1).sent, some usage)

/-- What is sent for a list of data, all of them converted at once. -/
def convertFrames (info : ClaudeConvertInfo) : List (Option ChatStreamResponse) → List ε × ClaudeConvertInfo
  | [] => ([], info)
  | chunk :: chunks =>
    let converted := handleStreamFormat format info chunk
    let rest := convertFrames converted.2 chunks
    (converted.1 ++ rest.1, rest.2)

@[simp] theorem convertFrames_nil (info : ClaudeConvertInfo) : convertFrames format info [] = ([], info) := rfl

@[simp] theorem convertFrames_cons (info : ClaudeConvertInfo) (chunk : Option ChatStreamResponse)
    (chunks : List (Option ChatStreamResponse)) :
    convertFrames format info (chunk :: chunks) =
      ((handleStreamFormat format info chunk).1 ++ (convertFrames format (handleStreamFormat format info chunk).2 chunks).1,
        (convertFrames format (handleStreamFormat format info chunk).2 chunks).2) := rfl

/-- What is sent for the last data, once the stream has ended. -/
def finalEvents (usage : TextUsage) (info : ClaudeConvertInfo) (last : Option ChatStreamResponse) : List ε :=
  match last with
  | none => []
  | some r => (format.final usage info r).1

/-- The frames of a stream in which the upstream reports no error; `none` cannot be decoded. -/
def plainFrames (stream : List (Option ChatStreamResponse)) : List StreamFrame := stream.map (⟨·, none⟩)

/-- What a client gets from a stream that ends with `[DONE]`. -/
def streamEvents (site : OaiSite) (relay : OaiRelay) (stream : List (Option ChatStreamResponse)) : List ε :=
  (oaiStreamHandler format site relay ⟨.done, none⟩ (plainFrames stream)).1

theorem oaiDataHandler_plain (s : OaiStreamState ε) (chunk : Option ChatStreamResponse) :
    oaiDataHandler format s ⟨chunk, none⟩ =
      ({ s with
          info := (convertFrames format s.info ([chunk].filter forwarded)).2
          sent := s.sent ++ (convertFrames format s.info ([chunk].filter forwarded)).1
          lastStreamData := some ⟨chunk, none⟩ }, .next) := by
  unfold oaiDataHandler
  cases hforward : forwarded chunk with
  | true => simp [hforward]
  | false => simp [hforward]

theorem convertFrames_append (info : ClaudeConvertInfo) (chunks rest : List (Option ChatStreamResponse)) :
    convertFrames format info (chunks ++ rest) =
      ((convertFrames format info chunks).1 ++ (convertFrames format (convertFrames format info chunks).2 rest).1,
        (convertFrames format (convertFrames format info chunks).2 rest).2) := by
  induction chunks generalizing info with
  | nil => simp
  | cons chunk chunks ih => simp [ih]

/-- The whole stream is read. -/
theorem scan_plain (ending : StreamStatus) (stream : List (Option ChatStreamResponse)) (s : OaiStreamState ε) :
    streamScannerHandler (oaiDataHandler format) ending s (plainFrames stream) =
      ({ s with
          info := (convertFrames format s.info (stream.filter forwarded)).2
          sent := s.sent ++ (convertFrames format s.info (stream.filter forwarded)).1
          lastStreamData := ((plainFrames stream).getLast?).or s.lastStreamData }, ending) := by
  induction stream generalizing s with
  | nil => simp [plainFrames, streamScannerHandler]
  | cons chunk stream ih =>
    have hcons : plainFrames (chunk :: stream) = ⟨chunk, none⟩ :: plainFrames stream := rfl
    have hfilter : (chunk :: stream).filter forwarded = [chunk].filter forwarded ++ stream.filter forwarded := by
      rw [← List.filter_append]
      rfl
    rw [hcons, streamScannerHandler, oaiDataHandler_plain]
    rw [ih, hfilter, convertFrames_append, List.getLast?_cons]
    simp only [List.append_assoc]
    cases (plainFrames stream).getLast? with
    | none => rfl
    | some f => rfl

/-- **What is sent depends on the data that are converted at once, and on the last ones.** -/
theorem oaiStream_sent (site : OaiSite) (relay : OaiRelay) (stream : List (Option ChatStreamResponse)) :
    streamEvents format site relay stream =
      (convertFrames format .initial (stream.filter forwarded)).1 ++
        finalEvents format (streamUsage site relay (plainFrames stream))
          (convertFrames format .initial (stream.filter forwarded)).2 stream.getLast?.join := by
  have hlast : (plainFrames stream).getLast?.bind (·.chunk) = stream.getLast?.join := by
    rw [plainFrames, List.getLast?_map]
    cases stream.getLast? with
    | none => rfl
    | some chunk => rfl
  unfold streamEvents oaiStreamHandler
  simp only [scan_plain, upstreamStreamFailure, handleFinalResponse, Option.or_none, hlast,
    finalEvents]
  cases stream.getLast?.join with
  | none => simp
  | some r => rfl

end Handler

end SynthApi
