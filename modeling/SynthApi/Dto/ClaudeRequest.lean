import SynthApi.Dto.OpenAIRequest

/-!
# Requests of the Messages API

The request of Claude and its content blocks (`dto/claude.go`). A block has the fields of all kinds of blocks, which one type
holds in the source; a block of a wrong shape in any of them cannot be decoded.
-/

namespace SynthApi.Dto

open Lib Lib.Go

/-! ## Blocks -/

structure ClaudeMessageSource where
  type : String := ""
  mediaType : String := ""
  data : Json := .null
  url : String := ""

namespace ClaudeMessageSource

def decoder : Decoder ClaudeMessageSource :=
  .struct [
    .of "type" .string (·.type) fun s v => { s with type := v },
    .of "media_type" .string (·.mediaType) fun s v => { s with mediaType := v },
    .of "data" .any (·.data) fun s v => { s with data := v },
    .of "url" .string (·.url) fun s v => { s with url := v }]

/-- As `json.Marshal` writes it. -/
def toJson (s : ClaudeMessageSource) : Json :=
  .ofFields [("type", some (.string s.type)), ("media_type", Json.ofText s.mediaType), ("data", Json.ofAny s.data),
    ("url", Json.ofText s.url)]

end ClaudeMessageSource

structure ClaudeCacheCreationUsage where
  ephemeral5mInputTokens : Int := 0
  ephemeral1hInputTokens : Int := 0

structure ClaudeUsage where
  inputTokens : Int := 0
  cacheCreationInputTokens : Int := 0
  cacheReadInputTokens : Int := 0
  outputTokens : Int := 0
  cacheCreation : Option ClaudeCacheCreationUsage := none
  claudeCacheCreation5mTokens : Int := 0
  claudeCacheCreation1hTokens : Int := 0
  /-- `WebSearchRequests` of `ServerToolUse`. -/
  serverToolUse : Option Int := none

namespace ClaudeUsage

def cacheCreationDecoder : Decoder ClaudeCacheCreationUsage :=
  .struct [
    .of "ephemeral_5m_input_tokens" .int (·.ephemeral5mInputTokens) fun u v => { u with ephemeral5mInputTokens := v },
    .of "ephemeral_1h_input_tokens" .int (·.ephemeral1hInputTokens) fun u v => { u with ephemeral1hInputTokens := v }]

def decoder : Decoder ClaudeUsage :=
  .struct [
    .of "input_tokens" .int (·.inputTokens) fun u v => { u with inputTokens := v },
    .of "cache_creation_input_tokens" .int (·.cacheCreationInputTokens) fun u v => { u with cacheCreationInputTokens := v },
    .of "cache_read_input_tokens" .int (·.cacheReadInputTokens) fun u v => { u with cacheReadInputTokens := v },
    .of "output_tokens" .int (·.outputTokens) fun u v => { u with outputTokens := v },
    .of "cache_creation" (.pointer {} cacheCreationDecoder) (·.cacheCreation) fun u v => { u with cacheCreation := v },
    .of "claude_cache_creation_5_m_tokens" .int (·.claudeCacheCreation5mTokens) fun u v =>
      { u with claudeCacheCreation5mTokens := v },
    .of "claude_cache_creation_1_h_tokens" .int (·.claudeCacheCreation1hTokens) fun u v =>
      { u with claudeCacheCreation1hTokens := v },
    .of "server_tool_use" (.pointer 0 (.struct [.of "web_search_requests" .int id fun _ v => v])) (·.serverToolUse) fun u v =>
      { u with serverToolUse := v }]

def toJson (u : ClaudeUsage) : Json :=
  .ofFields [("input_tokens", some (.number u.inputTokens)),
    ("cache_creation_input_tokens", some (.number u.cacheCreationInputTokens)),
    ("cache_read_input_tokens", some (.number u.cacheReadInputTokens)), ("output_tokens", some (.number u.outputTokens)),
    ("cache_creation", u.cacheCreation.map fun c =>
      .ofFields [("ephemeral_5m_input_tokens", Json.ofCount c.ephemeral5mInputTokens),
        ("ephemeral_1h_input_tokens", Json.ofCount c.ephemeral1hInputTokens)]),
    ("claude_cache_creation_5_m_tokens", some (.number u.claudeCacheCreation5mTokens)),
    ("claude_cache_creation_1_h_tokens", some (.number u.claudeCacheCreation1hTokens)),
    ("server_tool_use", u.serverToolUse.map fun n => .ofFields [("web_search_requests", some (.number n))])]

end ClaudeUsage

structure ClaudeMediaMessage where
  type : String := ""
  text : Option String := none
  model : String := ""
  source : Option ClaudeMessageSource := none
  usage : Option ClaudeUsage := none
  stopReason : Option String := none
  partialJson : Option String := none
  role : String := ""
  thinking : Option String := none
  signature : String := ""
  delta : String := ""
  cacheControl : RawMessage := none
  id : String := ""
  name : String := ""
  input : Any NilMap := .json .null
  content : Any (List MediaContent) := .json .null
  toolUseId : String := ""

namespace ClaudeMediaMessage

def decoder (text : JsonText) : Decoder ClaudeMediaMessage :=
  .struct [
    .of "type" .string (·.type) fun m v => { m with type := v },
    .of "text" (.pointer "" .string) (·.text) fun m v => { m with text := v },
    .of "model" .string (·.model) fun m v => { m with model := v },
    .of "source" (.pointer {} ClaudeMessageSource.decoder) (·.source) fun m v => { m with source := v },
    .of "usage" (.pointer {} ClaudeUsage.decoder) (·.usage) fun m v => { m with usage := v },
    .of "stop_reason" (.pointer "" .string) (·.stopReason) fun m v => { m with stopReason := v },
    .of "partial_json" (.pointer "" .string) (·.partialJson) fun m v => { m with partialJson := v },
    .of "role" .string (·.role) fun m v => { m with role := v },
    .of "thinking" (.pointer "" .string) (·.thinking) fun m v => { m with thinking := v },
    .of "signature" .string (·.signature) fun m v => { m with signature := v },
    .of "delta" .string (·.delta) fun m v => { m with delta := v },
    .of "cache_control" (.raw text) (·.cacheControl) fun m v => { m with cacheControl := v },
    .of "id" .string (·.id) fun m v => { m with id := v },
    .of "name" .string (·.name) fun m v => { m with name := v },
    .of "input" .any (fun _ => .null) fun m v => { m with input := .json v },
    .of "content" .any (fun _ => .null) fun m v => { m with content := .json v },
    .of "tool_use_id" .string (·.toolUseId) fun m v => { m with toolUseId := v }]

def toJson (text : JsonText) (m : ClaudeMediaMessage) : Json :=
  .ofFields [("type", Json.ofText m.type), ("text", m.text.map .string), ("model", Json.ofText m.model),
    ("source", m.source.map (·.toJson)), ("usage", m.usage.map (·.toJson)), ("stop_reason", m.stopReason.map .string),
    ("partial_json", m.partialJson.map .string), ("role", Json.ofText m.role), ("thinking", m.thinking.map .string),
    ("signature", Json.ofText m.signature), ("delta", Json.ofText m.delta), ("cache_control", m.cacheControl.bind text.parse),
    ("id", Json.ofText m.id), ("name", Json.ofText m.name),
    ("input", match m.input with
      | .json v => Json.ofAny v
      | .held _ => some .null),
    ("content", match m.content with
      | .json v => Json.ofAny v
      | .held media => some (.array (media.map (·.toJson text)))),
    ("tool_use_id", Json.ofText m.toolUseId)]

def getText (m : ClaudeMediaMessage) : String := m.text.getD ""

def ofText (text : String) : ClaudeMediaMessage := { type := "text", text := some text }

end ClaudeMediaMessage

/-- A list of blocks in an `interface{}`: as the client sent it, or made by the code. -/
abbrev ClaudeContent := Any (List ClaudeMediaMessage)

/-- `common.Any2Type[[]ClaudeMediaMessage]`; `none` is an error, and a slice may be nil. -/
def ClaudeContent.any2Type (text : JsonText) (content : ClaudeContent) : Option (Option (List ClaudeMediaMessage)) :=
  let v : Json :=
    match content with
    | .json v => v
    | .held blocks => .array (blocks.map (·.toJson text))
  decoded (Decoder.slice {} (ClaudeMediaMessage.decoder text) v)

namespace ClaudeMediaMessage

/-- The content of a block, if it is a string: `IsStringContent` and `GetStringContent`. -/
def stringContent? (m : ClaudeMediaMessage) : Option String :=
  match m.content with
  | .json (.string s) => some s
  | _ => none

/-- `nil` also after an error. -/
def parseMediaContent (text : JsonText) (m : ClaudeMediaMessage) : Option (List ClaudeMediaMessage) :=
  let v : Json :=
    match m.content with
    | .json v => v
    | .held media => .array (media.map (·.toJson text))
  (decoded (Decoder.slice {} (ClaudeMediaMessage.decoder text) v)).getD none

end ClaudeMediaMessage

/-! ## Requests -/

structure ClaudeMessage where
  role : String
  content : ClaudeContent := .json .null

namespace ClaudeMessage

/-- The content, if it is a string: `IsStringContent` and `GetStringContent`. -/
def stringContent? (m : ClaudeMessage) : Option String :=
  match m.content with
  | .json (.string s) => some s
  | _ => none

/-- The blocks; `none` is an error. -/
def parseContent (text : JsonText) (m : ClaudeMessage) : Option (List ClaudeMediaMessage) :=
  (m.content.any2Type text).map (·.getD [])

end ClaudeMessage

/-- `Tool` of Claude; a schema that is `none` is a nil map. -/
structure Tool where
  name : String := ""
  description : String := ""
  inputSchema : Option (List (String × Json)) := none

def Tool.decoder : Decoder Tool :=
  .struct [
    .of "name" .string (·.name) fun t v => { t with name := v },
    .of "description" .string (·.description) fun t v => { t with description := v },
    .of "input_schema" .map (·.inputSchema) fun t v => { t with inputSchema := v }]

def Tool.toJson (t : Tool) : Json :=
  .ofFields [("name", some (.string t.name)), ("description", Json.ofText t.description),
    ("input_schema", some ((t.inputSchema.map Json.object).getD .null))]

structure ClaudeWebSearchUserLocation where
  type : String
  timezone : String := ""
  country : String := ""
  region : String := ""
  city : String := ""
  deriving DecidableEq, Repr

structure ClaudeWebSearchTool where
  type : String
  name : String
  maxUses : Int := 0
  userLocation : Option ClaudeWebSearchUserLocation := none
  deriving DecidableEq, Repr

def ClaudeWebSearchTool.toJson (t : ClaudeWebSearchTool) : Json :=
  .ofFields [("type", some (.string t.type)), ("name", some (.string t.name)), ("max_uses", Json.ofCount t.maxUses),
    ("user_location", t.userLocation.map fun l =>
      .ofFields [("type", some (.string l.type)), ("timezone", Json.ofText l.timezone), ("country", Json.ofText l.country),
        ("region", Json.ofText l.region), ("city", Json.ofText l.city)])]

structure ClaudeToolChoice where
  type : String
  name : String := ""
  disableParallelToolUse : Bool := false
  deriving DecidableEq, Repr

structure Thinking where
  type : String
  budgetTokens : Option Int := none
  display : String := ""
  deriving DecidableEq, Repr

def Thinking.getBudgetTokens (t : Thinking) : Int := t.budgetTokens.getD 0

structure ClaudeRequest where
  model : String := ""
  prompt : String := ""
  system : ClaudeContent := .json .null
  messages : List ClaudeMessage := []
  maxTokens : Option Nat := none
  stopSequences : List String := []
  temperature : Option ℚ := none
  topP : Option ℚ := none
  topK : Option Int := none
  stream : Option Bool := none
  tools : Any (List (Tool ⊕ ClaudeWebSearchTool)) := .json .null
  outputConfig : RawMessage := none
  toolChoice : Any ClaudeToolChoice := .json .null
  thinking : Option Thinking := none

namespace ClaudeRequest

variable (text : JsonText) (r : ClaudeRequest)

/-- The system prompt, if it is a string: `IsStringSystem` and `GetStringSystem`. -/
def stringSystem? : Option String :=
  match r.system with
  | .json (.string s) => some s
  | _ => none

def parseSystem : List ClaudeMediaMessage := ((r.system.any2Type text).bind id).getD []

/-- `common.Any2Type[[]dto.Tool]` of the tools; none after an error. -/
def parseTools : List Tool :=
  let v : Json :=
    match r.tools with
    | .json v => v
    | .held tools => .array (tools.map (Sum.elim Tool.toJson ClaudeWebSearchTool.toJson))
  ((decoded (Decoder.slice {} Tool.decoder v)).bind id).getD []

def searchToolNameByToolCallId (toolCallId : String) : String :=
  let blocks := r.messages.flatMap fun m => (m.parseContent text).getD []
  match blocks.find? fun b => b.id = toolCallId with
  | some b => b.name
  | none => ""

def getEfforts : String :=
  match r.outputConfig.bind text.parse with
  | some v => (decoded (Decoder.struct [Decoder.Field.of "effort" .string id fun _ e => e] v "")).getD ""
  | none => ""

end ClaudeRequest

end SynthApi.Dto
