import SynthApi.Dto.ClaudeRequest
import SynthApi.Relay.OpenAIStream

/-!
# Answers of the Chat API for clients of Claude and Gemini

`ResponseOpenAI2Claude` sends either the text or the tool calls, by the finish reason; `ResponseOpenAI2Gemini` sends the text
only if there are no tool calls (`answer_kept_iff`). In a stream, each fragment of a tool call is sent as a call of its own
(`gemini_calls_iff`): Gemini has no parts of arguments.
-/

namespace SynthApi

open Dto Lib List

structure OpenAITextResponseChoice where
  index : Int
  message : Message
  finishReason : String

structure OpenAITextResponse where
  id : String
  model : String
  choices : List OpenAITextResponseChoice
  usage : TextUsage

/-- `ClaudeResponse`, as a whole answer. -/
structure ClaudeAnswer where
  id : String
  type : String := "message"
  role : String := "assistant"
  model : String
  content : List Dto.ClaudeMediaMessage
  stopReason : String
  usage : ClaudeUsage

def GeminiPart.text? : GeminiPart → Option String
  | .text s => some s
  | .functionCall _ _ => none

def GeminiPart.call? : GeminiPart → Option (String × Json)
  | .text _ => none
  | .functionCall name args => some (name, args)

def GeminiChatResponse.parts (r : GeminiChatResponse) : List GeminiPart := r.candidates.flatMap (·.parts)

/-- The arguments of a call; `parseArgs` decodes an object. -/
def argumentsValue (parseArgs : String → Option Json) (arguments : String) : Json :=
  if arguments = "" then .object [] else (parseArgs arguments).getD (.object [("arguments", .string arguments)])

/-! ## Whole answers -/

section Whole

variable (text : JsonText)

/-- `json.Unmarshal` into a map. -/
def unmarshalArgs (arguments : String) : Option Json :=
  match text.parse arguments with
  | some (.object fields) => some (.object fields)
  | some .null => some .null
  | _ => none

def toolUse (call : ToolCallRequest) : Dto.ClaudeMediaMessage where
  type := "tool_use"
  id := call.id
  name := call.function.name
  input :=
    match unmarshalArgs text call.function.arguments with
    | some .null => .held ()
    | some v => .json v
    | none => .json (.string call.function.arguments)

def claudeBlocks (c : OpenAITextResponseChoice) : List Dto.ClaudeMediaMessage :=
  if c.finishReason = "tool_calls" then (c.message.parseToolCalls text).map (toolUse text)
  else [.ofText c.message.stringContent]

def responseOpenAI2Claude (r : OpenAITextResponse) : ClaudeAnswer where
  id := r.id
  model := r.model
  content := r.choices.flatMap (claudeBlocks text)
  stopReason := (r.choices.getLast?.map fun c => openAIFinishReasonToClaudeStopReason c.finishReason).getD ""
  usage := buildClaudeUsageFromOpenAIUsage r.usage

def geminiContent (m : Message) : List GeminiPart :=
  match m.parseToolCalls text with
  | [] => if m.stringContent = "" then [] else [.text m.stringContent]
  | calls =>
    calls.map fun call => .functionCall call.function.name (argumentsValue (unmarshalArgs text) call.function.arguments)

def responseOpenAI2Gemini (r : OpenAITextResponse) : GeminiChatResponse where
  candidates := r.choices.map fun c =>
    ⟨c.index, some (openAIFinishReasonToGemini c.finishReason), geminiContent text c.message⟩
  usageMetadata := ⟨r.usage.promptTokens, r.usage.completionTokens, r.usage.promptTokens + r.usage.completionTokens⟩

def toolName? (block : Dto.ClaudeMediaMessage) : Option String := if block.type = "tool_use" then some block.name else none

/-- The text of a message, if there is one, is among the parts of an answer, and its tools are called in order. -/
def KeepsMessage {α : Type} (m : Message) (text? name? : α → Option String) (parts : List α) : Prop :=
  (m.stringContent ≠ "" → m.stringContent ∈ parts.filterMap text?) ∧
    (m.parseToolCalls text).map (·.function.name) = parts.filterMap name?

theorem claude_keeps_iff (c : OpenAITextResponseChoice) :
    KeepsMessage text c.message (·.text) toolName? (claudeBlocks text c) ↔
      if c.finishReason = "tool_calls" then c.message.stringContent = "" else c.message.parseToolCalls text = [] := by
  unfold KeepsMessage claudeBlocks
  split
  · simp [filterMap_map, Function.comp_def, toolUse, toolName?]
  · simp [Dto.ClaudeMediaMessage.ofText, toolName?]

theorem gemini_keeps_iff (m : Message) :
    KeepsMessage text m (·.text?) (·.call?.map Prod.fst) (geminiContent text m) ↔
      m.parseToolCalls text = [] ∨ m.stringContent = "" := by
  unfold KeepsMessage geminiContent
  cases m.parseToolCalls text with
  | nil => by_cases hempty : m.stringContent = "" <;> simp [hempty, GeminiPart.text?, GeminiPart.call?]
  | cons call calls => simp [GeminiPart.text?, GeminiPart.call?, filterMap_map]

/-- **An answer with one choice keeps its text and its tools in both formats exactly if** it has no text and ends with
`tool_calls`, or has no tool calls and ends otherwise. -/
theorem answer_kept_iff (r : OpenAITextResponse) (c : OpenAITextResponseChoice) :
    (let r := { r with choices := [c] }
     KeepsMessage text c.message (·.text) toolName? (responseOpenAI2Claude text r).content ∧
       KeepsMessage text c.message (·.text?) (·.call?.map Prod.fst) (responseOpenAI2Gemini text r).parts) ↔
    if c.finishReason = "tool_calls" then c.message.stringContent = "" else c.message.parseToolCalls text = [] := by
  simp only [responseOpenAI2Claude, responseOpenAI2Gemini, GeminiChatResponse.parts, flatMap_singleton, map_singleton]
  rw [claude_keeps_iff, gemini_keeps_iff, and_iff_left_iff_imp]
  split
  · exact .inr
  · exact .inl

/-- A text with a tool call. -/
theorem answer_text_lost :
    let text : JsonText := ⟨fun s => if s = "[\x7b\x7d]" then some (.array [.object []]) else none, fun _ => ""⟩
    let m : Message := { role := "assistant", content := .json (.string "hi"), toolCalls := some "[\x7b\x7d]" }
    let r : OpenAITextResponse := ⟨"1", "m", [⟨0, m, "tool_calls"⟩], .empty⟩
    ¬ KeepsMessage text m (·.text) toolName? (responseOpenAI2Claude text r).content ∧
      ¬ KeepsMessage text m (·.text?) (·.call?.map Prod.fst) (responseOpenAI2Gemini text r).parts :=
  ⟨fun h => not_mem_nil (h.1 (by decide)), fun h => not_mem_nil (h.1 (by decide))⟩

end Whole

/-! ## Tool calls of a stream -/

section Stream

/-- The fragments of tool calls in a chunk, with the choice and the index of their call. -/
def callFragments (r : ChatStreamResponse) : List ((Int × Int) × ToolCallResponse) :=
  r.choices.flatMap fun c => (toolOffsets c.delta.calls).map fun p => ((c.index, p.1), p.2)

/-- The tool calls of a stream, by their fragments: the name and the arguments are put together. -/
def assembledCalls (fragments : List ((Int × Int) × ToolCallResponse)) : List (String × String) :=
  (fragments.map (·.1)).dedup.map fun key =>
    let own := (fragments.filter (·.1 = key)).map (·.2)
    (String.join (own.map (·.name)), String.join (own.map (·.arguments)))

variable (parseArgs : String → Option Json) (promptTokens : Int)

def sentCalls (responses : List GeminiChatResponse) : List (String × Json) :=
  responses.flatMap fun r => r.parts.filterMap (·.call?)

/-- The chunks that `OaiStreamHandler` converts: at once, and the last one at the end. -/
def convertedChunks (stream : List (Option ChatStreamResponse)) : List ChatStreamResponse :=
  (stream.filter forwarded).filterMap id ++ stream.getLast?.join.toList

/-- There is one call in the responses for each call of the chunks, with its name and all its arguments. -/
def SendsOnce (chunks : List ChatStreamResponse) (responses : List GeminiChatResponse) : Prop :=
  (sentCalls responses).Perm
    ((assembledCalls (chunks.flatMap callFragments)).map fun call => (call.1, argumentsValue parseArgs call.2))

theorem chunk_calls (r : ChatStreamResponse) :
    sentCalls (streamResponseOpenAI2Gemini parseArgs promptTokens r).toList =
      (callFragments r).map fun f => (f.2.name, argumentsValue parseArgs f.2.arguments) := by
  have hchoice : ∀ c : ChatStreamChoice, (geminiParts parseArgs c.delta).filterMap (·.call?) =
      (toolOffsets c.delta.calls).map fun p => (p.2.name, argumentsValue parseArgs p.2.arguments) := by
    intro c
    unfold geminiParts ChatStreamDelta.calls toolOffsets
    cases c.delta.toolCalls with
    | none => by_cases hempty : c.delta.getContentString = "" <;> simp [hempty, GeminiPart.call?]
    | some calls =>
      rw [Option.getD_some, map_map, filterMap_map]
      conv_lhs => rw [← zipIdx_map_fst 0 calls, filterMap_map]
      simp [Function.comp_def, GeminiPart.call?, argumentsValue]
  unfold sentCalls streamResponseOpenAI2Gemini callFragments
  simp only
  split
  · next hnone =>
    -- nothing is sent for a chunk without content
    have hcalls : ∀ c ∈ r.choices, c.delta.calls = [] := by simp_all
    symm
    simpa [toolOffsets] using hcalls
  · simp [GeminiChatResponse.parts, geminiCandidate, flatMap_map, filterMap_flatMap, hchoice, map_flatMap, Function.comp_def]

theorem sentCalls_append (a b : List GeminiChatResponse) : sentCalls (a ++ b) = sentCalls a ++ sentCalls b := flatMap_append

theorem frames_calls (info : ClaudeConvertInfo) (stream : List (Option ChatStreamResponse)) :
    sentCalls (convertFrames (geminiFormat parseArgs promptTokens) info stream).1 =
      ((stream.filterMap id).flatMap callFragments).map fun f => (f.2.name, argumentsValue parseArgs f.2.arguments) := by
  induction stream generalizing info with
  | nil => rfl
  | cons chunk stream ih =>
    rw [convertFrames_cons, sentCalls_append, ih]
    cases chunk with
    | none => rfl
    | some r =>
      simp only [filterMap_cons, id_eq, flatMap_cons, map_append, ← chunk_calls parseArgs promptTokens]
      rfl

theorem stream_calls (site : OaiSite) (relay : OaiRelay) (stream : List (Option ChatStreamResponse)) :
    sentCalls (streamEvents (geminiFormat parseArgs promptTokens) site relay stream) =
      ((convertedChunks stream).flatMap callFragments).map fun f => (f.2.name, argumentsValue parseArgs f.2.arguments) := by
  rw [oaiStream_sent, sentCalls_append, frames_calls, convertedChunks, flatMap_append, map_append]
  congr 1
  cases stream.getLast?.join with
  | none => rfl
  | some r => simpa [finalEvents, geminiFormat] using chunk_calls parseArgs promptTokens r

theorem assembled_perm_iff (fragments : List ((Int × Int) × ToolCallResponse)) :
    (fragments.map fun f => (f.2.name, argumentsValue parseArgs f.2.arguments)).Perm
        ((assembledCalls fragments).map fun call => (call.1, argumentsValue parseArgs call.2)) ↔
      (fragments.map (·.1)).Nodup := by
  constructor
  · intro hperm
    have hlength := hperm.length_eq
    simp only [length_map, assembledCalls] at hlength
    rw [← dedup_eq_self]
    exact (dedup_sublist _).eq_of_length (by rw [← hlength, length_map])
  · intro hnodup
    rw [assembledCalls, dedup_eq_self.2 hnodup, map_map, map_map]
    refine Perm.of_eq (map_congr_left fun f hf => ?_)
    have hkey : ∀ g ∈ fragments, g.1 = f.1 ↔ g = f := fun g hg => ⟨inj_on_of_nodup_map hnodup hg hf, congrArg _⟩
    have hown : fragments.filter (·.1 = f.1) = [f] := by
      rw [filter_congr fun g hg => decide_eq_decide.2 (hkey g hg), filter_eq, count_eq_one_of_mem hnodup.of_map hf]
      rfl
    simp [hown, String.join]

/-- **Each tool call is sent once exactly if** no call comes in two fragments: with every chunk converted, and with those that
the handler converts. -/
theorem gemini_calls_iff (chunks : List ChatStreamResponse) (site : OaiSite) (relay : OaiRelay)
    (stream : List (Option ChatStreamResponse)) :
    let format := geminiFormat parseArgs promptTokens
    (SendsOnce parseArgs chunks (convertFrames format .initial (chunks.map some)).1 ↔
      ((chunks.flatMap callFragments).map (·.1)).Nodup) ∧
    (SendsOnce parseArgs (convertedChunks stream) (streamEvents format site relay stream) ↔
      (((convertedChunks stream).flatMap callFragments).map (·.1)).Nodup) := by
  refine ⟨?_, ?_⟩
  · rw [SendsOnce, frames_calls, filterMap_map, Function.id_comp, filterMap_some]
    exact assembled_perm_iff parseArgs _
  · rw [SendsOnce, stream_calls]
    exact assembled_perm_iff parseArgs _

/-- One call in two fragments. -/
theorem split_call_sent_twice :
    let chunk := fun name arguments => ⟨[⟨⟨none, none, none, some [⟨some 0, "1", name, arguments⟩]⟩, none, 0⟩], none, ""⟩
    let chunks : List ChatStreamResponse := [chunk "f" "\x7b", chunk "" "\x7d"]
    let parseArgs := fun s => if s = "\x7b\x7d" then some (.object []) else none
    ¬ SendsOnce parseArgs chunks (convertFrames (geminiFormat parseArgs 0) .initial (chunks.map some)).1 :=
  fun hperm => absurd hperm.length_eq (by decide)

end Stream

end SynthApi
