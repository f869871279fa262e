import SynthApi.Lib.Panic
import SynthApi.Lib.Unmarshal

/-!
# Requests of the Chat API

The request and its messages (`dto/openai_request.go`), with the fields that the converters between the formats read or set.

The content of a message is an `interface{}`: a string, a list of maps as the client sent it, or a list of `MediaContent`
that the code made. `parseContent` reads the first two into the third. It keeps what it has read in `parsedContent` of its
receiver, which is a copy in all the loops that are modelled; here it only returns it.
-/

namespace SynthApi.Dto

open Lib Lib.Go

/-- An `interface{}`: what the decoder of JSON puts there, or a value that the code itself puts there. -/
inductive Any (α : Type) where
  | json (v : Json)
  | held (x : α)

def Any.isNil {α : Type} : Any α → Bool
  | .json .null => true
  | _ => false

/-- A `json.RawMessage`; `none` is nil. -/
abbrev RawMessage := Option String

/-- A `map[string]any` that is nil, in an `interface{}` that is not. -/
abbrev NilMap := Unit

/-! ## Contents -/

structure MessageImageUrl where
  url : String
  detail : String := ""
  mimeType : String := ""
  deriving DecidableEq, Repr

structure MessageInputAudio where
  data : String
  format : String
  deriving DecidableEq, Repr

structure MessageFile where
  fileName : String := ""
  fileData : String := ""
  fileId : String := ""
  mimeType : String := ""
  deriving DecidableEq, Repr

structure MessageVideoUrl where
  url : String
  deriving DecidableEq, Repr

/-- A part of a content; its media are the pointers that `ParseContent` and the converters set. -/
structure MediaContent where
  type : String
  text : String := ""
  imageUrl : Option MessageImageUrl := none
  inputAudio : Option MessageInputAudio := none
  file : Option MessageFile := none
  videoUrl : Option MessageVideoUrl := none
  cacheControl : RawMessage := none
  deriving DecidableEq, Repr

namespace MediaContent

/-- As `json.Marshal` writes it. -/
def toJson (text : JsonText) (m : MediaContent) : Json :=
  .ofFields [("type", some (.string m.type)), ("text", Json.ofText m.text),
    ("image_url", m.imageUrl.map fun img =>
      .ofFields [("url", some (.string img.url)), ("detail", Json.ofText img.detail),
        ("MimeType", some (.string img.mimeType))]),
    ("input_audio", m.inputAudio.map fun audio =>
      .ofFields [("data", some (.string audio.data)), ("format", some (.string audio.format))]),
    ("file", m.file.map fun file =>
      .ofFields [("filename", Json.ofText file.fileName), ("file_data", Json.ofText file.fileData),
        ("file_id", Json.ofText file.fileId), ("mime_type", Json.ofText file.mimeType)]),
    ("video_url", m.videoUrl.map fun video => .ofFields [("url", some (.string video.url))]),
    ("cache_control", m.cacheControl.bind text.parse)]

end MediaContent

/-! ## Tools -/

structure FunctionRequest where
  description : String := ""
  name : String := ""
  parameters : Any NilMap := .json .null
  arguments : String := ""

structure ToolCallRequest where
  id : String := ""
  type : String := ""
  function : FunctionRequest := {}
  custom : RawMessage := none

namespace FunctionRequest

def decoder : Decoder FunctionRequest :=
  .struct [
    .of "description" .string (·.description) fun f v => { f with description := v },
    .of "name" .string (·.name) fun f v => { f with name := v },
    .of "parameters" .any (fun _ => .null) fun f v => { f with parameters := .json v },
    .of "arguments" .string (·.arguments) fun f v => { f with arguments := v }]

def toJson (f : FunctionRequest) : Json :=
  .ofFields [("description", Json.ofText f.description), ("name", some (.string f.name)),
    ("parameters", match f.parameters with
      | .json v => Json.ofAny v
      | .held _ => some .null),
    ("arguments", Json.ofText f.arguments)]

end FunctionRequest

namespace ToolCallRequest

def decoder (text : JsonText) : Decoder ToolCallRequest :=
  .struct [
    .of "id" .string (·.id) fun t v => { t with id := v },
    .of "type" .string (·.type) fun t v => { t with type := v },
    .of "function" FunctionRequest.decoder (·.function) fun t v => { t with function := v },
    .of "custom" (.raw text) (·.custom) fun t v => { t with custom := v }]

def toJson (text : JsonText) (t : ToolCallRequest) : Json :=
  .ofFields [("id", Json.ofText t.id), ("type", some (.string t.type)), ("function", some t.function.toJson),
    ("custom", t.custom.bind text.parse)]

end ToolCallRequest

/-! ## Messages -/

structure Message where
  role : String
  content : Any (List MediaContent) := .json .null
  name : Option String := none
  toolCalls : RawMessage := none
  toolCallId : String := ""
  parsedContent : List MediaContent := []

/-- The texts among the parts of a content, in one string. -/
def joinTexts (items : List Json) : String :=
  String.join (items.map fun item =>
    match item with
    | .object fields => if Json.stringField fields "type" = some "text" then (Json.stringField fields "text").getD "" else ""
    | _ => "")

/-- A part of a content as the client sent it; `none` for one that is left out. -/
def parseMediaContent (item : Json) : Option MediaContent :=
  match item with
  | .object fields =>
    match Json.stringField fields "type" with
    | some "text" => (Json.stringField fields "text").map fun text => { type := "text", text := text }
    | some "image_url" =>
      let image : MessageImageUrl :=
        match fields.lookup "image_url" with
        | some (.string url) => { url := url, detail := "high" }
        | some (.object image) =>
          { url := (Json.stringField image "url").getD "", detail := (Json.stringField image "detail").getD "high" }
        | _ => { url := "", detail := "high" }
      some { type := "image_url", imageUrl := some image }
    | some "input_audio" =>
      match Json.objectField fields "input_audio" with
      | some audio =>
        match Json.stringField audio "data", Json.stringField audio "format" with
        | some data, some format => some { type := "input_audio", inputAudio := some ⟨data, format⟩ }
        | _, _ => none
      | none => none
    | some "file" =>
      match Json.objectField fields "file" with
      | some file =>
        match Json.stringField file "file_id" with
        | some fileId => some { type := "file", file := some { fileId := fileId } }
        | none =>
          match Json.stringField file "filename", Json.stringField file "file_data" with
          | some fileName, some fileData =>
            some { type := "file", file := some {
              fileName := fileName, fileData := fileData, mimeType := (Json.stringField file "mime_type").getD "" } }
          | _, _ => none
      | none => none
    | some "video_url" =>
      (Json.stringField fields "video_url").map fun url => { type := "video_url", videoUrl := some ⟨url⟩ }
    | _ => none
  | _ => none

namespace Message

def stringContent (m : Message) : String :=
  match m.content with
  | .json (.string s) => s
  | .json (.array items) => joinTexts items
  | _ => ""

def setStringContent (m : Message) (content : String) : Message :=
  { m with content := .json (.string content), parsedContent := [] }

def setMediaContent (m : Message) (content : List MediaContent) : Message :=
  { m with content := .held content, parsedContent := content }

def parseContent (m : Message) : List MediaContent :=
  if m.content.isNil then []
  else if m.parsedContent.isEmpty then
    match m.content with
    | .json (.string s) => [{ type := "text", text := s }]
    | .json (.array items) => items.filterMap parseMediaContent
    | _ => []
  else m.parsedContent

/-- What could be decoded, also if there was an error. -/
def parseToolCalls (text : JsonText) (m : Message) : List ToolCallRequest :=
  match m.toolCalls.bind text.parse with
  | some v => (Decoder.slice {} (ToolCallRequest.decoder text) v).1.getD []
  | none => []

def setToolCalls (text : JsonText) (m : Message) (toolCalls : List ToolCallRequest) : Message :=
  { m with toolCalls := some (text.marshal (.array (toolCalls.map (·.toJson text)))) }

end Message

/-! ## Requests -/

structure WebSearchOptions where
  searchContextSize : String := ""
  userLocation : RawMessage := none

structure GeneralOpenAIRequest where
  model : String := ""
  messages : List Message := []
  stream : Option Bool := none
  maxTokens : Option Nat := none
  maxCompletionTokens : Option Nat := none
  reasoningEffort : String := ""
  verbosity : RawMessage := none
  temperature : Option ℚ := none
  topP : Option ℚ := none
  topK : Option Int := none
  stop : Any (List String) := .json .null
  n : Option Int := none
  parallelTooCalls : Option Bool := none
  tools : List ToolCallRequest := []
  toolChoice : Json := .null
  webSearchOptions : Option WebSearchOptions := none
  reasoning : RawMessage := none

structure RequestReasoning where
  enabled : Bool := false
  effort : String := ""
  maxTokens : Int := 0
  exclude : Bool := false
  deriving DecidableEq, Repr

def RequestReasoning.toJson (r : RequestReasoning) : Json :=
  .ofFields [("enabled", some (.bool r.enabled)), ("effort", Json.ofText r.effort),
    ("max_tokens", Json.ofCount r.maxTokens),
    ("exclude", if r.exclude then some (.bool true) else none)]

/-! ## Errors -/

inductive ConvertError where
  | unmarshal
  | text (message : String)
  deriving DecidableEq, Repr

abbrev Converted := Except (Stop ConvertError)

end SynthApi.Dto
