import SynthApi.Dto.ClaudeRequest
import SynthApi.Lib.Transaction

/-!
# Requests for upstreams with the Chat API

`ClaudeToOpenAIRequest` (`service/convert.go`) makes a request of the Chat API of one of Claude. It drops the texts of a message
that has tool calls (`claude_text_kept_iff`).
-/

namespace SynthApi.Dto

open Lib Lib.Go

/-- Of the `RelayInfo` of a request. -/
structure RelayInfo where
  channelType : Int
  originModelName : String
  upstreamModelName : String
  isStream : Bool
  deriving DecidableEq, Repr

def channelTypeOpenRouter : Int := 20

def RelayInfo.isOpenRouter (info : RelayInfo) : Bool := info.channelType = channelTypeOpenRouter

/-- The formats of the standard library. -/
structure Formats where
  text : JsonText
  /-- The verb `%s` for a value that is not a string. -/
  sprint : Json → String

variable (fmt : Formats) (info : RelayInfo)

/-- `fmt.Sprintf("%s", v)` -/
def Formats.show : Json → String
  | .string s => s
  | v => fmt.sprint v

/-- `toJSONString` of an `interface{}`. -/
def toJSONString : Any NilMap → String
  | .json v => fmt.text.marshal v
  | .held _ => fmt.text.marshal .null

/-- The message, unless it is empty. -/
def appendMessage (messages : List Message) (m : Message) : List Message :=
  if m.parseContent.isEmpty && m.toolCalls.getD "" = "" then messages else messages ++ [m]

/-! ## Requests of Claude -/

section Claude

variable (r : ClaudeRequest)

def openRouterReasoning (thinking : Thinking) : RequestReasoning :=
  if thinking.type = "enabled" then { enabled := true, maxTokens := thinking.getBudgetTokens }
  else if thinking.type = "adaptive" then { enabled := true }
  else {}

def convertThinking (o : GeneralOpenAIRequest) : GeneralOpenAIRequest :=
  if info.isOpenRouter then
    let effort := r.getEfforts fmt.text
    let o := if effort = "" then o else { o with verbosity := some (fmt.text.marshal (.string effort)) }
    match r.thinking with
    | some thinking => { o with reasoning := some (fmt.text.marshal (openRouterReasoning thinking).toJson) }
    | none => o
  else if hasSuffix info.originModelName "-thinking" && !hasSuffix o.model "-thinking" then
    { o with model := o.model ++ "-thinking" }
  else o

def convertStopSequences : List String → Any (List String)
  | [] => .json .null
  | [stop] => .json (.string stop)
  | stops => .held stops

def convertClaudeTool (tool : Tool) : ToolCallRequest where
  type := "function"
  function := {
    name := tool.name
    description := tool.description
    parameters := match tool.inputSchema with
      | some fields => .json (.object fields)
      | none => .held () }

def systemMessage : Option Message :=
  if r.system.isNil then none
  else if (r.stringSystem?).getD "" ≠ "" then
    some (({ role := "system" } : Message).setStringContent (r.stringSystem?.getD ""))
  else
    match r.parseSystem fmt.text with
    | [] => none
    | systems =>
      if info.isOpenRouter && hasPrefix info.upstreamModelName "anthropic/claude" then
        some (({ role := "system" } : Message).setMediaContent (systems.map fun system =>
          { type := "text", text := system.getText, cacheControl := system.cacheControl }))
      else some (({ role := "system" } : Message).setStringContent (String.join (systems.map (·.getText))))

/-- The messages that are done, and what the blocks of the present one have given. -/
structure BlockState where
  messages : List Message
  toolCalls : List ToolCallRequest
  mediaMessages : List MediaContent

/-- One turn of the loop over the blocks of a message. -/
def convertBlock (s : BlockState) (block : ClaudeMediaMessage) : Converted BlockState :=
  match block.type with
  | "text" | "input_text" =>
    let media : MediaContent := { type := "text", text := block.getText, cacheControl := block.cacheControl }
    pure { s with mediaMessages := s.mediaMessages ++ [media] }
  | "image" => do
    let source ← deref block.source
    let imageData := "data:" ++ source.mediaType ++ ";base64," ++ fmt.show source.data
    let media : MediaContent := { type := "image_url", imageUrl := some { url := imageData } }
    pure { s with mediaMessages := s.mediaMessages ++ [media] }
  | "tool_use" =>
    let toolCall : ToolCallRequest := {
      id := block.id
      type := "function"
      function := { name := block.name, arguments := toJSONString fmt block.input } }
    pure { s with toolCalls := s.toolCalls ++ [toolCall] }
  | "tool_result" =>
    let toolName := if block.name = "" then r.searchToolNameByToolCallId fmt.text block.toolUseId else block.name
    let content :=
      match block.stringContent? with
      | some content => content
      | none =>
        let media := block.parseMediaContent fmt.text
        fmt.text.marshal ((media.map fun blocks => Json.array (blocks.map (·.toJson fmt.text))).getD .null)
    let message : Message := { role := "tool", name := some toolName, toolCallId := block.toolUseId }
    pure { s with messages := s.messages ++ [message.setStringContent content] }
  | _ => pure s

def finishMessage (role : String) (s : BlockState) : Message :=
  let m : Message := { role := role }
  if s.toolCalls.isEmpty then
    if s.mediaMessages.isEmpty then m else m.setMediaContent s.mediaMessages
  else m.setToolCalls fmt.text s.toolCalls

/-- One turn of the loop over the messages. -/
def convertClaudeMessage (messages : List Message) (m : ClaudeMessage) : Converted (List Message) :=
  match m.stringContent? with
  | some content => pure (appendMessage messages (({ role := m.role } : Message).setStringContent content))
  | none =>
    match m.parseContent fmt.text with
    | none => .error (.error .unmarshal)
    | some blocks => do
      let s ← blocks.foldlM (convertBlock fmt r) ⟨messages, [], []⟩
      pure (appendMessage s.messages (finishMessage fmt m.role s))

def claudeToOpenAIRequest : Converted GeneralOpenAIRequest := do
  let o := convertThinking fmt info r {
    model := r.model
    temperature := r.temperature
    maxTokens := r.maxTokens
    topP := r.topP
    topK := r.topK
    stream := r.stream }
  let messages ← r.messages.foldlM (convertClaudeMessage fmt r) (systemMessage fmt info r).toList
  pure { o with
    stop := convertStopSequences r.stopSequences
    tools := r.parseTools.map convertClaudeTool
    messages := messages }

end Claude

/-! ### What is kept of the messages -/

namespace ClaudeMediaMessage

variable (b : ClaudeMediaMessage)

def texts : List String := if b.type = "text" ∨ b.type = "input_text" then [b.getText] else []

def calls : List ToolCallRequest :=
  if b.type = "tool_use" then
    [{ id := b.id, type := "function", function := { name := b.name, arguments := toJSONString fmt b.input } }]
  else []

/-- The role and the id of the message for a result. -/
def results : List (String × String) := if b.type = "tool_result" then [("tool", b.toolUseId)] else []

end ClaudeMediaMessage

/-- The blocks of a message; a string is one text. -/
def ClaudeMessage.blocks (text : JsonText) (m : ClaudeMessage) : List ClaudeMediaMessage :=
  match m.stringContent? with
  | some s => [.ofText s]
  | none => (m.parseContent text).getD []

def mediaTexts (media : List MediaContent) : List String := (media.filter (·.type = "text")).map (·.text)

def Message.texts (m : Message) : List String := mediaTexts m.parseContent

def Message.result (m : Message) : String × String := (m.role, m.toolCallId)

/-- The tool calls of a message are encoded as one list, if there are any. -/
def encodedCalls (calls : List ToolCallRequest) : List String :=
  if calls = [] then [] else [fmt.text.marshal (.array (calls.map (·.toJson fmt.text)))]

/-- The messages have the results of the blocks, and after them all the texts and the calls. -/
def Keeps (blocks : List ClaudeMediaMessage) (group : List Message) : Prop :=
  let results := blocks.flatMap (·.results)
  let rest := group.drop results.length
  (group.take results.length).map (·.result) = results ∧ rest.flatMap (·.texts) = blocks.flatMap (·.texts) ∧
    rest.filterMap (·.toolCalls) = encodedCalls fmt (blocks.flatMap (·.calls fmt))

/-- What blocks add to the state of the loop. -/
structure Adds (s : BlockState) (blocks : List ClaudeMediaMessage) (s' : BlockState) : Prop where
  messages : ∃ tools, s'.messages = s.messages ++ tools ∧ tools.map (·.result) = blocks.flatMap (·.results)
  texts : mediaTexts s'.mediaMessages = mediaTexts s.mediaMessages ++ blocks.flatMap (·.texts)
  toolCalls : s'.toolCalls = s.toolCalls ++ blocks.flatMap (·.calls fmt)

section Kept

variable {fmt} {r : ClaudeRequest} {s s' : BlockState} {blocks : List ClaudeMediaMessage}

open ClaudeMediaMessage List

theorem convertBlock_adds {b : ClaudeMediaMessage} (h : convertBlock fmt r s b = .ok s') : Adds fmt s [b] s' := by
  unfold convertBlock at h
  split at h
  case h_3 htype =>
    obtain ⟨source, -, h⟩ := bind_ok h
    cases h
    constructor <;> simp [mediaTexts, texts, calls, results, htype]
  all_goals
    cases h
    constructor <;> simp_all [mediaTexts, texts, calls, results, Message.result, Message.setStringContent]

theorem foldlM_convertBlock_adds (h : blocks.foldlM (convertBlock fmt r) s = .ok s') : Adds fmt s blocks s' := by
  induction blocks generalizing s with
  | nil =>
    cases h
    exact ⟨⟨[], by simp⟩, by simp, by simp⟩
  | cons b blocks ih =>
    rw [foldlM_cons] at h
    obtain ⟨t, hb, h⟩ := bind_ok h
    obtain ⟨⟨tools, ht, htools⟩, htexts, hcalls⟩ := convertBlock_adds hb
    obtain ⟨⟨tools', ht', htools'⟩, htexts', hcalls'⟩ := ih h
    simp only [flatMap_singleton] at htools htexts hcalls
    refine ⟨⟨tools ++ tools', ?_, ?_⟩, ?_, ?_⟩
    · rw [ht', ht, append_assoc]
    · rw [map_append, htools, htools', flatMap_cons]
    · rw [htexts', htexts, append_assoc, flatMap_cons]
    · rw [hcalls', hcalls, append_assoc, flatMap_cons]

theorem finishMessage_kept (hmarshal : ∀ v, fmt.text.marshal v ≠ "") (role : String) (s : BlockState) :
    ∃ last, (∀ messages, appendMessage messages (finishMessage fmt role s) = messages ++ last) ∧
      last.flatMap (·.texts) = (if s.toolCalls = [] then mediaTexts s.mediaMessages else []) ∧
      last.filterMap (·.toolCalls) = encodedCalls fmt s.toolCalls := by
  obtain ⟨messages, _ | ⟨c, calls⟩, _ | ⟨m, media⟩⟩ := s
  · exact ⟨[], by simp [appendMessage, finishMessage, Message.parseContent, Any.isNil], rfl, rfl⟩
  · exact ⟨[_], fun _ => rfl, flatMap_singleton .., rfl⟩
  all_goals exact ⟨[_], fun _ => if_neg (by simp [finishMessage, Message.setToolCalls, hmarshal]), rfl, rfl⟩

theorem convertClaudeMessage_kept (hmarshal : ∀ v, fmt.text.marshal v ≠ "") {done out : List Message} {m : ClaudeMessage}
    (h : convertClaudeMessage fmt r done m = .ok out) : ∃ group, out = done ++ group ∧
      (Keeps fmt (m.blocks fmt.text) group ↔
        (m.blocks fmt.text).flatMap (·.calls fmt) = [] ∨ (m.blocks fmt.text).flatMap (·.texts) = []) := by
  unfold convertClaudeMessage at h
  unfold ClaudeMessage.blocks
  cases hstring : m.stringContent? with
  | some content =>
    rw [hstring] at h
    cases h
    exact ⟨[_], rfl, iff_of_true ⟨rfl, rfl, rfl⟩ (.inl rfl)⟩
  | none =>
    rw [hstring] at h
    cases hparse : m.parseContent fmt.text with
    | none =>
      rw [hparse] at h
      cases h
    | some blocks =>
      rw [hparse] at h
      obtain ⟨s, hs, h⟩ := bind_ok h
      cases h
      obtain ⟨⟨tools, ht, htools⟩, htexts, hcalls⟩ := foldlM_convertBlock_adds hs
      obtain ⟨last, hlast, hlastTexts, hlastCalls⟩ := finishMessage_kept hmarshal m.role s
      refine ⟨tools ++ last, by rw [hlast, ht, append_assoc], ?_⟩
      have hlen : (blocks.flatMap (·.results)).length = tools.length := by rw [← htools, length_map]
      rw [Option.getD_some, Keeps, hlen, take_left, drop_left, hlastTexts, hlastCalls, hcalls, htexts,
        and_iff_right htools]
      by_cases hnone : blocks.flatMap (·.calls fmt) = []
      · exact iff_of_true ⟨if_pos hnone, rfl⟩ (.inl hnone)
      · refine (and_iff_left rfl).trans ?_
        rw [nil_append, if_neg hnone, eq_comm]
        exact (or_iff_right hnone).symm

/-- **Texts beside tool calls**: a turn of the loop over the messages adds to those that are done. What it adds has all the
texts, the calls and the results of its message exactly if the message has no calls or no texts. -/
theorem claude_text_kept_iff (fmt : Formats) (info : RelayInfo) (r : ClaudeRequest) (o : GeneralOpenAIRequest)
    (hmarshal : ∀ v, fmt.text.marshal v ≠ "") (h : claudeToOpenAIRequest fmt info r = .ok o) :
    let start := (systemMessage fmt info r).toList
    r.messages.foldlM (convertClaudeMessage fmt r) start = .ok o.messages ∧
    ∀ before m after, r.messages = before ++ m :: after → ∃ done group,
      before.foldlM (convertClaudeMessage fmt r) start = .ok done ∧
      convertClaudeMessage fmt r done m = .ok (done ++ group) ∧
      (Keeps fmt (m.blocks fmt.text) group ↔
        (m.blocks fmt.text).flatMap (·.calls fmt) = [] ∨ (m.blocks fmt.text).flatMap (·.texts) = []) := by
  obtain ⟨messages, hfold, h⟩ := bind_ok h
  cases h
  refine ⟨hfold, ?_⟩
  intro before m after hsplit
  rw [hsplit, foldlM_append] at hfold
  obtain ⟨done, hdone, hfold⟩ := bind_ok hfold
  rw [foldlM_cons] at hfold
  obtain ⟨out, hout, -⟩ := bind_ok hfold
  obtain ⟨group, rfl, hkept⟩ := convertClaudeMessage_kept hmarshal hout
  exact ⟨done, group, hdone, hout, hkept⟩

/-- A text beside the result of a tool. -/
theorem claude_text_kept_alone :
    let fmt : Formats := ⟨⟨fun _ => none, fun _ => "[]"⟩, fun _ => ""⟩
    let m : ClaudeMessage := ⟨"user", .json (.array [.object [("type", .string "text"), ("text", .string "hi")],
      .object [("type", .string "tool_result"), ("tool_use_id", .string "1"), ("content", .string "done")]])⟩
    ∃ done group, convertClaudeMessage fmt { messages := [m] } done m = .ok (done ++ group) ∧
      Keeps fmt (m.blocks fmt.text) group := by
  intro fmt m
  have h := claude_text_kept_iff fmt ⟨0, "", "", false⟩ { messages := [m] } _ (fun _ => by simp [fmt]) rfl
  obtain ⟨done, group, -, hturn, hkept⟩ := h.2 [] m [] rfl
  exact ⟨done, group, hturn, hkept.2 (.inl rfl)⟩

/-- A text with a tool call. -/
theorem claude_text_lost :
    let fmt : Formats := ⟨⟨fun _ => none, fun _ => "[]"⟩, fun _ => ""⟩
    let m : ClaudeMessage := ⟨"assistant", .json (.array [.object [("type", .string "text"), ("text", .string "hi")],
      .object [("type", .string "tool_use")]])⟩
    ∃ o, claudeToOpenAIRequest fmt ⟨0, "", "", false⟩ { messages := [m] } = .ok o ∧
      ¬ Keeps fmt (m.blocks fmt.text) o.messages :=
  ⟨_, rfl, fun h => by cases h.2.1⟩

end Kept

end SynthApi.Dto
