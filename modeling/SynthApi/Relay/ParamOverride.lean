import SynthApi.Lib.Value

/-!
# Parameter overrides

A channel may override parameters of the requests that are relayed to it (`relay/common/override.go`): fields of the
JSON body, or operations on the body and on the headers that the request to the upstream gets. The operations run on a
context that `buildParamOverrideContext` makes of the request; `applyParamOverrideWithRelayInfo` stores the headers of
the context in the request when they are done, and `getEffectiveHeaderOverride` gives these then instead of the headers
of the channel.

The operations on the body are parameters (`OverrideSite.editBody`), as are gjson, sjson and the formats of numbers.
-/

namespace SynthApi

open Lib Lib.Go

/-- A `map[string]interface{}`. -/
abbrev JsonMap := AList fun _ : String => Json

abbrev StringMap := AList fun _ : String => String

/-! ## Operations -/

structure ConditionOperation where
  path : String
  mode : String
  value : Json
  invert : Bool
  passMissingKey : Bool

inductive BodyMode where
  | delete
  | set
  | move
  | copy
  | prepend
  | append
  | trimPrefix
  | trimSuffix
  | ensurePrefix
  | ensureSuffix
  | trimSpace
  | toLower
  | toUpper
  | replace
  | regexReplace
  | pruneObjects
  deriving DecidableEq, Repr

inductive ParamMode where
  | body (mode : BodyMode)
  | returnError
  | setHeader
  | deleteHeader
  | copyHeader
  | moveHeader
  | passHeaders
  | syncFields
  | unknown (text : String)
  deriving DecidableEq, Repr

def ParamMode.ofText (text : String) : ParamMode :=
  match text with
  | "delete" => .body .delete
  | "set" => .body .set
  | "move" => .body .move
  | "copy" => .body .copy
  | "prepend" => .body .prepend
  | "append" => .body .append
  | "trim_prefix" => .body .trimPrefix
  | "trim_suffix" => .body .trimSuffix
  | "ensure_prefix" => .body .ensurePrefix
  | "ensure_suffix" => .body .ensureSuffix
  | "trim_space" => .body .trimSpace
  | "to_lower" => .body .toLower
  | "to_upper" => .body .toUpper
  | "replace" => .body .replace
  | "regex_replace" => .body .regexReplace
  | "prune_objects" => .body .pruneObjects
  | "return_error" => .returnError
  | "set_header" => .setHeader
  | "delete_header" => .deleteHeader
  | "copy_header" => .copyHeader
  | "move_header" => .moveHeader
  | "pass_headers" => .passHeaders
  | "sync_fields" => .syncFields
  | text => .unknown text

/-- An operation; a `value` that is missing is `null`. -/
structure ParamOperation where
  path : String
  mode : ParamMode
  value : Json
  keepOrigin : Bool
  fromSpec : String
  toSpec : String
  conditions : List ConditionOperation
  logic : String

/-- A key that gjson and sjson take as it is. -/
def IsPlainKey (key : String) : Prop := key ≠ "" ∧ key.toList.all fun c => c.isAlpha || c = '_'

instance (key : String) : Decidable (IsPlainKey key) := inferInstanceAs (Decidable (_ ∧ _))

/-- What the overrides use of other code. -/
structure OverrideSite where
  get : Json → String → Option Json
  get_field : ∀ fields key, IsPlainKey key → get (.object fields) key = fields.lookup key
  /-- `sjson.SetBytes`. -/
  set : Json → String → Json → Except String Json
  editBody : BodyMode → ParamOperation → Json → Json → Except String Json
  returnError : Json → String
  /-- The verb `%v` for a number, an array or an object. -/
  sprint : Json → String
  /-- `Result.String` of gjson for a number, an array or an object. -/
  resultText : Json → String
  /-- The verb `%q`. -/
  quote : String → String
  /-- `common.UnmarshalJsonStr`. -/
  unmarshal : String → Option Json
  unmarshal_weight : ∀ text v, unmarshal text = some v → v.weight ≤ text.length
  /-- `regexp.Compile`; a regular expression is the names that it matches. -/
  compile : String → Except String (String → Bool)

variable (site : OverrideSite)

/-- `fmt.Sprintf("%v", value)`. -/
def formatValue : Json → String
  | .null => "<nil>"
  | .bool b => if b then "true" else "false"
  | .string s => s
  | v => site.sprint v

/-! ## Header overrides -/

def normalizeHeaderContextKey (key : String) : String := trimSpace (toLower key)

def isHeaderPassthroughRuleKeyForOverride (key : String) : Bool :=
  let key := trimSpace (toLower key)
  decide (key = "*") || hasPrefix key "re:" || hasPrefix key "regex:"

/-- One turn of the loop of `sanitizeHeaderOverrideMap`. -/
def sanitizeEntry (target : JsonMap) (e : Σ _ : String, Json) : JsonMap :=
  let key := normalizeHeaderContextKey e.1
  let value := trimSpace (formatValue site e.2)
  if key = "" then target
  else if value = "" then
    if isHeaderPassthroughRuleKeyForOverride key then target.insert key (.string "") else target
  else target.insert key (.string value)

def sanitizeHeaderOverrideMap (order : MapOrder String) (source : JsonMap) : JsonMap :=
  (order.visit source).foldl (sanitizeEntry site) ∅

/-! ## The request -/

structure LastError where
  statusCode : Int
  message : String
  code : String
  type : String
  skipRetry : Bool

/-- The fields of `ChannelMeta` that the overrides use. -/
structure ChannelMeta where
  apiKey : String
  upstreamModelName : String
  paramOverride : JsonMap
  headersOverride : JsonMap

/-- What the `RelayInfo` of a request, and the request itself, keep from one channel to the next. -/
structure SharedInfo where
  originModelName : String
  requestURLPath : String
  requestHeaders : StringMap
  isChannelTest : Bool
  header : Header
  runtimeHeadersOverride : JsonMap
  useRuntimeHeadersOverride : Bool

structure RequestInfo extends SharedInfo where
  retryIndex : Int
  lastError : Option LastError
  channelMeta : ChannelMeta

structure RangeOrders where
  effective : MapOrder String
  context : MapOrder String
  requestHeaders : MapOrder String
  legacy : MapOrder String
  sync : MapOrder String
  upstream : MapOrder String
  patterns : MapOrder String
  client : MapOrder String
  headers : MapOrder String

def getEffectiveHeaderOverride (order : MapOrder String) (info : RequestInfo) : JsonMap :=
  if info.useRuntimeHeadersOverride then sanitizeHeaderOverrideMap site order info.runtimeHeadersOverride
  else sanitizeHeaderOverrideMap site order info.channelMeta.headersOverride

/-! ## The context -/

/-- The map that the operations work on. -/
structure OverrideContext where
  upstreamModelName : String
  originModelName : String
  requestPath : String
  requestHeaders : JsonMap
  headerOverride : JsonMap
  retryIndex : Int
  lastError : Option LastError
  isChannelTest : Bool

def buildRequestHeadersContext (order : MapOrder String) (headers : StringMap) : JsonMap :=
  (order.visit headers).foldl
    (fun target e =>
      let key := normalizeHeaderContextKey e.1
      let value := trimSpace e.2
      if key = "" ∨ value = "" then target else target.insert key (.string value))
    ∅

def buildParamOverrideContext (orders : RangeOrders) (info : RequestInfo) : OverrideContext where
  upstreamModelName := info.channelMeta.upstreamModelName
  originModelName := info.originModelName
  requestPath := info.requestURLPath
  requestHeaders := buildRequestHeadersContext orders.requestHeaders info.requestHeaders
  headerOverride := sanitizeHeaderOverrideMap site orders.context (getEffectiveHeaderOverride site orders.effective info)
  retryIndex := info.retryIndex
  lastError := info.lastError
  isChannelTest := info.isChannelTest

def mapJSON (m : JsonMap) : Json := .object (m.entries.map fun e => (e.1, e.2))

def textField (key text : String) : List (String × Json) := if text = "" then [] else [(key, .string text)]

def LastError.fields (e : LastError) : List (String × Json) :=
  [("last_error", .object
      [("status_code", .number e.statusCode), ("message", .string e.message), ("code", .string e.code),
        ("error_code", .string e.code), ("type", .string e.type), ("error_type", .string e.type),
        ("skip_retry", .bool e.skipRetry)]),
    ("last_error_status_code", .number e.statusCode), ("last_error_message", .string e.message),
    ("last_error_code", .string e.code), ("last_error_type", .string e.type)]

/-- `marshalContextJSON`; `model` is the original model if there is no other. -/
def contextJSON (ctx : OverrideContext) : Json :=
  .object (textField "original_model" ctx.originModelName ++ (textField "request_path" ctx.requestPath ++
    (textField "upstream_model" ctx.upstreamModelName ++
      textField "model" (if ctx.upstreamModelName = "" then ctx.originModelName else ctx.upstreamModelName) ++
      [("request_headers", mapJSON ctx.requestHeaders), ("header_override", mapJSON ctx.headerOverride),
        ("retry_index", .number ctx.retryIndex), ("is_retry", .bool (decide (0 < ctx.retryIndex))),
        ("retry", .object [("index", .number ctx.retryIndex), ("is_retry", .bool (decide (0 < ctx.retryIndex)))])] ++
      (ctx.lastError.elim [] LastError.fields) ++ [("is_channel_test", .bool ctx.isChannelTest)])))

/-! ## Reading the configuration -/

def stringField (fields : List (String × Json)) (key : String) : Option String :=
  match fields.lookup key with
  | some (.string s) => some s
  | _ => none

def flagField (fields : List (String × Json)) (key : String) : Bool :=
  match fields.lookup key with
  | some (.bool b) => b
  | _ => false

def parseCondition : Json → Except String ConditionOperation
  | .object fields =>
    let path := (stringField fields "path").getD ""
    let mode := (stringField fields "mode").getD ""
    if trimSpace path = "" ∨ trimSpace mode = "" then .error "condition path/mode is required"
    else
      .ok
        { path := path
          mode := mode
          value := (fields.lookup "value").getD .null
          invert := flagField fields "invert"
          passMissingKey := flagField fields "pass_missing_key" }
  | _ => .error "condition must be object"

def parseConditionOperations : Json → Except String (List ConditionOperation)
  | .object fields =>
    let conditions := fields.filterMap fun (key, value) =>
      if trimSpace key = "" then none else some ⟨trimSpace key, "full", value, false, false⟩
    if conditions = [] then .error "conditions object must contain at least one key" else .ok conditions
  | .array items => items.mapM parseCondition
  | _ => .error "conditions must be an array or object"

def parseOperation : Json → Option ParamOperation
  | .object fields => do
    let mode ← stringField fields "mode"
    let conditions ←
      match fields.lookup "conditions" with
      | none => some []
      | some raw => (parseConditionOperations raw).toOption
    return {
      path := (stringField fields "path").getD ""
      mode := ParamMode.ofText mode
      value := (fields.lookup "value").getD .null
      keepOrigin := flagField fields "keep_origin"
      fromSpec := (stringField fields "from").getD ""
      toSpec := (stringField fields "to").getD ""
      conditions := conditions
      logic := (stringField fields "logic").getD "OR" }
  | _ => none

def tryParseOperations (paramOverride : JsonMap) : Option (List ParamOperation) :=
  match paramOverride.lookup "operations" with
  | some (.array ops) => ops.mapM parseOperation
  | _ => none

/-! ## Conditions -/

/-- What stands for the digits and the sign of every `.-12` in a path. -/
def negativeIndices (path : List Char) : List (List Char) :=
  path.tails.filterMap fun
    | '.' :: '-' :: rest =>
      let digits := rest.takeWhile Char.isDigit
      if digits = [] then none else some digits
    | _ => none

def digitsValue (digits : List Char) : Nat := digits.foldl (fun n c => 10 * n + (c.toNat - '0'.toNat)) 0

/-- One turn of the loop of `processNegativeIndex`. -/
def replaceNegativeIndex (data : Json) (path : String) (result : String) (digits : List Char) : String :=
  let negIndex := String.ofList ('-' :: digits)
  -- the path up to the index, without the dot
  let arrayPath := trimSuffix (((path.toList.tails.zip path.toList.inits).find?
    fun (rest, _) => negIndex.toList <+: rest).elim path fun (_, start) => String.ofList start) "."
  match site.get data arrayPath with
  | some (.array items) =>
    if digitsValue digits ≤ items.length ∧ digitsValue digits ≠ 0 then
      replaceOne result ("." ++ negIndex) ("." ++ toString (items.length - digitsValue digits))
    else result
  | _ => result

def processNegativeIndex (data : Json) (path : String) : String :=
  (negativeIndices path.toList).foldl (replaceNegativeIndex site data path) path

/-- `Result.String` of gjson. -/
def resultString : Json → String
  | .null => ""
  | .bool b => if b then "true" else "false"
  | .string s => s
  | v => site.resultText v

def resultType : Json → String
  | .null => "Null"
  | .bool b => if b then "True" else "False"
  | .number _ => "Number"
  | .string _ => "String"
  | .array _ => "JSON"
  | .object _ => "JSON"

def compareEqual (jsonValue targetValue : Json) : Except String Bool :=
  match jsonValue, targetValue with
  | .null, .null => .ok true
  | .null, _ => .ok false
  | _, .null => .ok false
  | .bool a, .bool b => .ok (a == b)
  | .number a, .number b => .ok (decide (a = b))
  | a, b =>
    if resultType a = resultType b then .ok (decide (resultString site a = resultString site b))
    else .error ("compare for different types, got " ++ resultType a ++ " and " ++ resultType b)

def compareNumeric (compare : ℚ → ℚ → Bool) (jsonValue targetValue : Json) : Except String Bool :=
  match jsonValue, targetValue with
  | .number a, .number b => .ok (compare a b)
  | a, b => .error ("numeric comparison requires both values to be numbers, got " ++ resultType a ++ " and " ++ resultType b)

def compareGjsonValues (jsonValue targetValue : Json) (mode : String) : Except String Bool :=
  match mode with
  | "full" => compareEqual site jsonValue targetValue
  | "prefix" => .ok (hasPrefix (resultString site jsonValue) (resultString site targetValue))
  | "suffix" => .ok (hasSuffix (resultString site jsonValue) (resultString site targetValue))
  | "contains" => .ok (strContains (resultString site jsonValue) (resultString site targetValue))
  | "gt" => compareNumeric (fun a b => decide (b < a)) jsonValue targetValue
  | "gte" => compareNumeric (fun a b => decide (b ≤ a)) jsonValue targetValue
  | "lt" => compareNumeric (fun a b => decide (a < b)) jsonValue targetValue
  | "lte" => compareNumeric (fun a b => decide (a ≤ b)) jsonValue targetValue
  | mode => .error ("unsupported comparison mode: " ++ mode)

def checkSingleCondition (data context : Json) (c : ConditionOperation) : Except String Bool :=
  match (site.get data (processNegativeIndex site data c.path)).or (site.get context c.path) with
  | none => .ok c.passMissingKey
  | some value =>
    match compareGjsonValues site value c.value (toLower c.mode) with
    | .error err => .error ("comparison failed for path " ++ c.path ++ ": " ++ err)
    | .ok result => .ok (if c.invert then !result else result)

def checkConditions (data context : Json) (conditions : List ConditionOperation) (logic : String) : Except String Bool :=
  if conditions = [] then .ok true
  else do
    let results ← conditions.mapM (checkSingleCondition site data context)
    return if toUpper logic = "AND" then results.all id else results.any id

/-! ## Operations on headers -/

def getHeaderValueFromContext (ctx : OverrideContext) (headerName : String) : Option String :=
  let name := normalizeHeaderContextKey headerName
  let read (m : JsonMap) : Option String := (m.lookup name).bind fun raw =>
    let value := trimSpace (formatValue site raw)
    if value = "" then none else some value
  if name = "" then none else (read ctx.headerOverride).or (read ctx.requestHeaders)

def splitHeaderListValue (raw : String) : List String :=
  (split raw ',').filterMap fun item => if trimSpace item = "" then none else some (trimSpace item)

mutual

def parseHeaderReplacementTokens : Json → Except String (List String)
  | .null => .ok []
  | .string raw => .ok (splitHeaderListValue raw)
  | .array items => (replacementTokensOfItems items).map List.eraseDups
  | .object _ => .error "header replacement value must be string, array or null"
  | .bool b => .ok [formatValue site (.bool b)]
  | .number x =>
    let token := trimSpace (formatValue site (.number x))
    .ok (if token = "" then [] else [token])

def replacementTokensOfItems : List Json → Except String (List String)
  | [] => .ok []
  | item :: items =>
    match parseHeaderReplacementTokens item with
    | .error err => .error err
    | .ok tokens => (replacementTokensOfItems items).map (tokens ++ ·)

end

def replaceToken (mapping : List (String × Json)) (keepOnlyDeclared : Bool) (token : String) :
    Except String (List String) :=
  match mapping.lookup token, mapping.lookup "*", keepOnlyDeclared with
  | some raw, _, _ => parseHeaderReplacementTokens site raw
  | none, some raw, false => parseHeaderReplacementTokens site raw
  | none, _, true => .ok []
  | none, none, false => .ok [token]

section Mapping

variable (ctx : OverrideContext)

def resolveHeaderOverrideValueByMapping (headerName : String) (mapping : List (String × Json)) :
    Except String (Option String) :=
  if mapping = [] then .error "header value mapping cannot be empty"
  else do
    let appendTokens ← (mapping.lookup "$append").elim (.ok []) (parseHeaderReplacementTokens site)
    let keepOnlyDeclared := flagField mapping "$keep_only_declared"
    let sourceTokens := (getHeaderValueFromContext site ctx headerName).elim [] splitHeaderListValue
    let replaced ← sourceTokens.mapM (replaceToken site mapping keepOnlyDeclared)
    let resultTokens := (replaced.flatten ++ appendTokens).eraseDups
    return if resultTokens = [] then none else some (String.intercalate "," resultTokens)

/-- The value to be set; `none` if the header is to be removed. -/
def resolveHeaderOverrideValue (headerName : String) (value : Json) :
    Except String (Option String) :=
  match value with
  | .null => .error "header value is required"
  | .object mapping => resolveHeaderOverrideValueByMapping site ctx headerName mapping
  | value =>
    let text := trimSpace (formatValue site value)
    .ok (if text = "" then none else some text)

def hasHeaderOverride (name : String) : Bool :=
  (ctx.headerOverride.lookup name).any fun existing => decide (trimSpace (formatValue site existing) ≠ "")

def setHeaderOverrideInContext (headerName : String) (value : Json) (keepOrigin : Bool) :
    Except String OverrideContext :=
  let name := normalizeHeaderContextKey headerName
  if name = "" then .error "header name is required"
  else if keepOrigin ∧ hasHeaderOverride site ctx name then .ok ctx
  else
    match resolveHeaderOverrideValue site ctx name value with
    | .error err => .error err
    | .ok none => .ok { ctx with headerOverride := ctx.headerOverride.erase name }
    | .ok (some text) => .ok { ctx with headerOverride := ctx.headerOverride.insert name (.string text) }

def deleteHeaderOverrideInContext (headerName : String) : Except String OverrideContext :=
  let name := normalizeHeaderContextKey headerName
  if name = "" then .error "header name is required"
  else .ok { ctx with headerOverride := ctx.headerOverride.erase name }

/-- Why a header is not copied. -/
inductive HeaderError where
  /-- `errSourceHeaderNotFound`, which the operations pass over. -/
  | sourceNotFound (name : String)
  | other (text : String)
  deriving DecidableEq, Repr

def copyHeaderInContext (fromHeader toHeader : String) (keepOrigin : Bool) :
    Except HeaderError OverrideContext :=
  let source := normalizeHeaderContextKey fromHeader
  let target := normalizeHeaderContextKey toHeader
  if source = "" ∨ target = "" then .error (.other "copy_header from/to is required")
  else
    match getHeaderValueFromContext site ctx source with
    | none => .error (.sourceNotFound source)
    | some value => (setHeaderOverrideInContext site ctx target (.string value) keepOrigin).mapError .other

def moveHeaderInContext (fromHeader toHeader : String) (keepOrigin : Bool) :
    Except HeaderError OverrideContext :=
  let source := normalizeHeaderContextKey fromHeader
  let target := normalizeHeaderContextKey toHeader
  if source = "" ∨ target = "" then .error (.other "move_header from/to is required")
  else
    match copyHeaderInContext site ctx source target keepOrigin with
    | .error err => .error err
    | .ok ctx =>
      if source = target then .ok ctx else (deleteHeaderOverrideInContext ctx source).mapError .other

/-- A header that is not found is passed over. -/
def orUnchanged : Except HeaderError OverrideContext → Except String OverrideContext
  | .ok ctx' => .ok ctx'
  | .error (.sourceNotFound _) => .ok ctx
  | .error (.other text) => .error text

end Mapping

/-- The names, normalized and without repetition, if there are any. -/
def passThroughNames (names : List String) : Except String (List String) :=
  let names := ((names.map normalizeHeaderContextKey).filter (· ≠ "")).eraseDups
  if names = [] then .error "pass_headers value is invalid" else .ok names

def parseHeaderPassThroughNames (value : Json) : Except String (List String) :=
  match value with
  | .null => .error "pass_headers value is required"
  | .string raw =>
    let trimmed := trimSpace raw
    if trimmed = "" then .error "pass_headers value is required"
    else if hasPrefix trimmed "[" || hasPrefix trimmed "\x7b" then
      match _h : site.unmarshal trimmed with
      | some parsed => parseHeaderPassThroughNames parsed
      | none => passThroughNames (split trimmed ',')
    else passThroughNames (split trimmed ',')
  | .array items => passThroughNames (items.map (formatValue site))
  | .object fields =>
    passThroughNames (["headers", "names", "header"].flatMap fun key =>
      match _h : fields.lookup key with
      | some v => (parseHeaderPassThroughNames v).toOption.getD []
      | none => [])
  | _ => .error "pass_headers value must be string, array or object"
termination_by value.weight
decreasing_by
  · have hlength : trimmed.length ≤ raw.length := trimSpace_length_le raw
    have hweight := site.unmarshal_weight _ _ _h
    rw [Json.weight]
    omega
  · exact Json.weight_lt_of_lookup _h

/-! ## `sync_fields` -/

inductive SyncTarget where
  | json (path : String)
  | header (name : String)
  deriving DecidableEq, Repr

def parseSyncTarget (spec : String) : Except String SyncTarget :=
  let raw := trimSpace spec
  if raw = "" then .error "sync_fields target is required"
  else
    match cutAt raw ':' with
    | (_, []) => .ok (.json raw)
    | (start, _ :: rest) =>
      let key := trimSpace (String.ofList rest)
      if key = "" then .error ("sync_fields target key is required: " ++ raw)
      else
        match toLower (trimSpace start) with
        | "json" => .ok (.json key)
        | "body" => .ok (.json key)
        | "header" => .ok (.header key)
        | _ => .error ("sync_fields target prefix is invalid: " ++ raw)

/-- The value, unless it is missing, `null` or blank. -/
def readSyncTargetValue (data : Json) (ctx : OverrideContext) : SyncTarget → Option Json
  | .json path =>
    match site.get data (processNegativeIndex site data path) with
    | none => none
    | some .null => none
    | some (.string s) => if trimSpace s = "" then none else some (.string s)
    | some value => some value
  | .header name => (getHeaderValueFromContext site ctx name).map .string

/-- What the operations have made of the body and of the context. -/
structure Working where
  body : Json
  context : OverrideContext

def writeSyncTargetValue (w : Working) (value : Json) : SyncTarget → Except String Working
  | .json path => (site.set w.body (processNegativeIndex site w.body path) value).map fun body => { w with body := body }
  | .header name => (setHeaderOverrideInContext site w.context name value false).map fun ctx => { w with context := ctx }

def syncFieldsBetweenTargets (w : Working) (fromSpec toSpec : String) : Except String Working := do
  let source ← parseSyncTarget fromSpec
  let target ← parseSyncTarget toSpec
  match readSyncTargetValue site w.body w.context source, readSyncTargetValue site w.body w.context target with
  | some value, none => writeSyncTargetValue site w value target
  | none, some value => writeSyncTargetValue site w value source
  | _, _ => return w

/-! ## Applying an override -/

def headerOperand (spec path : String) : String := if trimSpace spec = "" then trimSpace path else trimSpace spec

/-- The operation, if its conditions hold. -/
def runOperation (w : Working) (op : ParamOperation) : Except String Working :=
  let onHeaders (name : String) (result : Except String OverrideContext) : Except String Working :=
    (result.mapError fun err => "operation " ++ name ++ " failed: " ++ err).map fun ctx => { w with context := ctx }
  match op.mode with
  | .body mode => (site.editBody mode op (contextJSON w.context) w.body).map fun body => { w with body := body }
  | .returnError => .error (site.returnError op.value)
  | .setHeader => onHeaders "set_header" (setHeaderOverrideInContext site w.context op.path op.value op.keepOrigin)
  | .deleteHeader => onHeaders "delete_header" (deleteHeaderOverrideInContext w.context op.path)
  | .copyHeader =>
    onHeaders "copy_header" (orUnchanged w.context (copyHeaderInContext site w.context
      (headerOperand op.fromSpec op.path) (headerOperand op.toSpec op.path) op.keepOrigin))
  | .moveHeader =>
    onHeaders "move_header" (orUnchanged w.context (moveHeaderInContext site w.context
      (headerOperand op.fromSpec op.path) (headerOperand op.toSpec op.path) op.keepOrigin))
  | .passHeaders =>
    match parseHeaderPassThroughNames site op.value with
    | .error err => .error err
    | .ok names =>
      onHeaders "pass_headers" (names.foldlM
        (fun ctx name => orUnchanged ctx (copyHeaderInContext site ctx name name op.keepOrigin)) w.context)
  | .syncFields => (syncFieldsBetweenTargets site w op.fromSpec op.toSpec).mapError ("operation sync_fields failed: " ++ ·)
  | .unknown text => .error ("unknown operation: " ++ text)

/-- One turn of the loop of `applyOperations`. -/
def applyOperation (w : Working) (op : ParamOperation) : Except String Working := do
  let holds ← checkConditions site w.body (contextJSON w.context) op.conditions op.logic
  if holds then runOperation site w op else return w

def applyOperations (w : Working) (operations : List ParamOperation) : Except String Working :=
  operations.foldlM (applyOperation site) w

/-- The entries besides the operations. -/
def buildLegacyParamOverride (paramOverride : JsonMap) : JsonMap :=
  ⟨paramOverride.entries.filter fun e => toLower (trimSpace e.1) ≠ "operations",
    paramOverride.nodupKeys.sublist List.filter_sublist⟩

/-- The key with the characters escaped that sjson gives a meaning. -/
def escapeSjsonLiteralKey (key : String) : String :=
  String.ofList (key.toList.flatMap fun c => if c = '.' ∨ c = '*' ∨ c = '?' ∨ c = '\\' then ['\\', c] else [c])

def applyOperationsLegacy (order : MapOrder String) (body : Json) (paramOverride : JsonMap) : Except String Json :=
  (order.visit paramOverride).foldlM (fun body e => site.set body (escapeSjsonLiteralKey e.1) e.2) body

def applyParamOverride (order : MapOrder String) (w : Working) (paramOverride : JsonMap) : Except String Working :=
  if paramOverride.entries = [] then .ok w
  else
    match tryParseOperations paramOverride with
    | some operations => do
      let body ← applyOperationsLegacy site order w.body (buildLegacyParamOverride paramOverride)
      applyOperations site { w with body := body } operations
    | none => (applyOperationsLegacy site order w.body paramOverride).map fun body => { w with body := body }

def RequestInfo.withRuntimeHeaders (info : RequestInfo) (headers : JsonMap) : RequestInfo :=
  { info with runtimeHeadersOverride := headers, useRuntimeHeadersOverride := true }

/-- The headers of the context become those of the request. -/
def syncRuntimeHeaderOverrideFromContext (order : MapOrder String) (info : RequestInfo) (ctx : OverrideContext) :
    RequestInfo :=
  info.withRuntimeHeaders (sanitizeHeaderOverrideMap site order ctx.headerOverride)

def applyParamOverrideWithRelayInfo (orders : RangeOrders) (jsonData : Json) (info : RequestInfo) :
    Except String (Json × RequestInfo) :=
  if info.channelMeta.paramOverride.entries = [] then .ok (jsonData, info)
  else
    (applyParamOverride site orders.legacy ⟨jsonData, buildParamOverrideContext site orders info⟩
      info.channelMeta.paramOverride).map fun w =>
        (w.body, syncRuntimeHeaderOverrideFromContext site orders.sync info w.context)

end SynthApi
