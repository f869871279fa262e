import SynthApi.Relay.OpenAIStream

/-!
# The shape of a Claude stream

What `StreamResponseOpenAI2Claude` does to the blocks depends on the deltas only, not on the fields of the message: how many
chunks there were, the usage, the finish reason (`convertDelta_setMessage`). So a stream has a shape (`claude_stream_shape`):
a `message_start`, the blocks of the first chunk, those of the deltas of the later chunks (`convertDeltas`), what the last
chunk adds (`lastBlocks`), and the end of the message, if there is one (`streamReason`). What is said of the events of whole
streams is proved about this shape.
-/

namespace SynthApi

open List ChatStreamResponse ClaudeEvent ClaudeConvertInfo Option

/-! ## Kinds of events -/

/-- `message_delta` and `message_stop` -/
def ClaudeEvent.endsMessage : ClaudeEvent → Bool
  | .messageDelta _ _ | .messageStop => true
  | _ => false

def ClaudeEvent.ofBlock : ClaudeEvent → Bool
  | .contentBlockStart _ _ | .contentBlockDelta _ _ | .contentBlockStop _ => true
  | _ => false

def ContentOnly (events : List ClaudeEvent) : Prop := ∀ e ∈ events, e.endsMessage = false

def BlockOnly (events : List ClaudeEvent) : Prop := ∀ e ∈ events, e.ofBlock = true

theorem BlockOnly.content {events : List ClaudeEvent} (h : BlockOnly events) : ContentOnly events := by
  intro e he
  have hblock := h e he
  cases e <;> first | rfl | cases hblock

section Blocks

variable (info : ClaudeConvertInfo)

theorem stopOpenBlocks_blocks : BlockOnly (stopOpenBlocks info) := by
  unfold stopOpenBlocks
  cases info.lastMessagesType with
  | tools =>
    intro e he
    obtain ⟨offset, -, rfl⟩ := mem_map.1 he
    rfl
  | _ => simp [BlockOnly, ofBlock]

theorem toolCallEvents_blocks (always : Bool) (index : Int) (call : ToolCallResponse) :
    BlockOnly (toolCallEvents always index call) := by
  refine forall_mem_append.2 ⟨?_, ?_⟩
  · split <;> simp [ofBlock]
  · split <;> simp [ofBlock]

theorem convertTextContent_blocks (always : Bool) (d : ChatStreamDelta) : BlockOnly (convertTextContent info always d).1 := by
  have hstop := stopOpenBlocks_blocks info
  unfold convertTextContent
  cases d.textContent with
  | none => exact nofun
  | some content =>
    unfold convertText openTextBlock
    by_cases htype : info.lastMessagesType = content.1.messagesType
    · simp only [if_pos htype]
      cases always <;> simp [BlockOnly, ofBlock]
    · simp only [if_neg htype]
      exact forall_mem_append.2 ⟨forall_mem_append.2 ⟨hstop, by simp [ofBlock]⟩, by simp [ofBlock]⟩

theorem convertTools_blocks (calls : List ToolCallResponse) : BlockOnly (convertTools info calls).1 := by
  refine forall_mem_append.2 ⟨?_, ?_⟩
  · split
    · exact nofun
    · exact stopOpenBlocks_blocks info
  · intro e he
    obtain ⟨call, -, hmem⟩ := mem_flatMap.1 he
    exact toolCallEvents_blocks false _ _ e hmem

theorem convertDelta_blocks (d : ChatStreamDelta) : BlockOnly (convertDelta info d).1 := by
  unfold convertDelta
  cases d.calls with
  | nil => exact convertTextContent_blocks info false d
  | cons call calls => exact convertTools_blocks info (call :: calls)

theorem convertFirstContent_blocks (d : ChatStreamDelta) : BlockOnly (convertFirstContent info d).1 := by
  refine forall_mem_append.2 ⟨?_, convertTextContent_blocks _ true d⟩
  unfold convertFirstTool
  cases d.calls with
  | nil => exact nofun
  | cons call calls => exact toolCallEvents_blocks true 0 call

end Blocks

/-! ## The fields of the message -/

namespace ClaudeConvertInfo

variable (info : ClaudeConvertInfo)

/-- The state with other fields of the message. -/
def setMessage (count : Nat) (usage : Option TextUsage) (reason : String) (done : Bool) : ClaudeConvertInfo :=
  { info with sendResponseCount := count, usage := usage, finishReason := reason, done := done }

/-- The state in which a chunk is converted. -/
def received (usage : Option TextUsage) : ClaudeConvertInfo :=
  { info with sendResponseCount := info.sendResponseCount + 1, usage := usage.or info.usage }

end ClaudeConvertInfo

section SetMessage

variable {info : ClaudeConvertInfo} {count : Nat} {usage : Option TextUsage} {reason : String} {done : Bool}
  {d : ChatStreamDelta}

@[simp] theorem stopOpenBlocks_setMessage : stopOpenBlocks (info.setMessage count usage reason done) = stopOpenBlocks info :=
  rfl

theorem setMessage_type : (info.setMessage count usage reason done).lastMessagesType = info.lastMessagesType := rfl

theorem advanceIndex_setMessage :
    advanceIndex (info.setMessage count usage reason done) = (advanceIndex info).setMessage count usage reason done := by
  unfold advanceIndex
  rw [setMessage_type]
  cases info.lastMessagesType <;> rfl

theorem convertTextContent_setMessage {always : Bool} :
    convertTextContent (info.setMessage count usage reason done) always d =
      ((convertTextContent info always d).1, (convertTextContent info always d).2.setMessage count usage reason done) := by
  unfold convertTextContent
  cases d.textContent with
  | none => rfl
  | some content =>
    unfold convertText openTextBlock
    rw [advanceIndex_setMessage, setMessage_type]
    by_cases htype : info.lastMessagesType = content.1.messagesType
    · simp only [if_pos htype]
      rfl
    · simp only [if_neg htype]
      rfl

theorem convertTools_setMessage {calls : List ToolCallResponse} :
    convertTools (info.setMessage count usage reason done) calls =
      ((convertTools info calls).1, (convertTools info calls).2.setMessage count usage reason done) := by
  unfold convertTools openTools
  rw [advanceIndex_setMessage, setMessage_type]
  by_cases htype : info.lastMessagesType = .tools
  · simp only [if_pos htype]
    rfl
  · simp only [if_neg htype]
    rfl

variable (info count usage reason done d)

theorem convertDelta_setMessage :
    convertDelta (info.setMessage count usage reason done) d =
      ((convertDelta info d).1, (convertDelta info d).2.setMessage count usage reason done) := by
  unfold convertDelta
  cases d.calls with
  | nil => exact convertTextContent_setMessage
  | cons call calls => exact convertTools_setMessage

theorem convertFirstContent_setMessage :
    convertFirstContent (info.setMessage count usage reason done) d =
      ((convertFirstContent info d).1, (convertFirstContent info d).2.setMessage count usage reason done) := by
  have htool : convertFirstTool (info.setMessage count usage reason done) d =
      ((convertFirstTool info d).1, (convertFirstTool info d).2.setMessage count usage reason done) := by
    unfold convertFirstTool
    cases d.calls <;> rfl
  unfold convertFirstContent
  rw [htool]
  simp only [convertTextContent_setMessage]

end SetMessage

/-! ## Chunks that are converted at once -/

def chunkDelta (chunk : Option ChatStreamResponse) : ChatStreamDelta := (chunk.map (·.delta)).getD .empty

def chunkUsage (chunk : Option ChatStreamResponse) : Option TextUsage := chunk.bind (·.usage)

theorem getLast?_join (chunks : List ChatStreamResponse) : (chunks.map some).getLast?.join = chunks.getLast? := by
  rw [getLast?_map]
  cases chunks.getLast? <;> rfl

/-- A chunk without choices, once a usage was `seen`. -/
def closesEarly (seen : Bool) (chunk : Option ChatStreamResponse) : Bool :=
  chunk.any fun r => r.choices.isEmpty && (seen || r.usage.isSome)

/-- The data before the first chunk that closes the stream early, if there is one. -/
def earlyClose (seen : Bool) : List (Option ChatStreamResponse) → Option (List (Option ChatStreamResponse))
  | [] => none
  | chunk :: chunks =>
    if closesEarly seen chunk then some []
    else (earlyClose (seen || (chunkUsage chunk).isSome) chunks).map (chunk :: ·)

theorem earlyClose_isPrefix {seen : Bool} {chunks before : List (Option ChatStreamResponse)}
    (h : earlyClose seen chunks = some before) : before <+: chunks := by
  induction chunks generalizing seen before with
  | nil => cases h
  | cons chunk chunks ih =>
    rw [earlyClose] at h
    split at h
    · cases h
      exact nil_prefix
    · obtain ⟨rest, hrest, rfl⟩ := map_eq_some_iff.1 h
      exact prefix_cons_inj chunk |>.2 (ih hrest)

/-- `message_delta` and `message_stop` -/
def messageEnd (reason : Option String) (usage : ClaudeUsage) : List ClaudeEvent :=
  match reason with
  | none => []
  | some reason => [.messageDelta reason usage, .messageStop]

/-- The message is open: no chunk has ended it. -/
structure MessageOpen (info : ClaudeConvertInfo) : Prop where
  done : info.done = false
  reason : info.finishReason = ""

/-- What is sent for the deltas of chunks after the first. -/
def convertDeltas (info : ClaudeConvertInfo) : List ChatStreamDelta → List ClaudeEvent × ClaudeConvertInfo
  | [] => ([], info)
  | d :: deltas =>
    ((convertDelta info d).1 ++ (convertDeltas (convertDelta info d).2 deltas).1,
      (convertDeltas (convertDelta info d).2 deltas).2)

theorem convertDeltas_setMessage (info : ClaudeConvertInfo) (count : Nat) (usage : Option TextUsage) (reason : String)
    (done : Bool) (deltas : List ChatStreamDelta) :
    convertDeltas (info.setMessage count usage reason done) deltas =
      ((convertDeltas info deltas).1, (convertDeltas info deltas).2.setMessage count usage reason done) := by
  induction deltas generalizing info with
  | nil => rfl
  | cons d deltas ih => simp only [convertDeltas, convertDelta_setMessage, ih]

theorem convertDeltas_blocks (info : ClaudeConvertInfo) (deltas : List ChatStreamDelta) :
    BlockOnly (convertDeltas info deltas).1 := by
  induction deltas generalizing info with
  | nil => exact nofun
  | cons d deltas ih => exact forall_mem_append.2 ⟨convertDelta_blocks info d, ih _⟩

section Forwarded

variable (inputTokens : Int) {info : ClaudeConvertInfo} {chunk : Option ChatStreamResponse} {r : ChatStreamResponse}

@[simp] theorem convertDelta_empty : convertDelta info .empty = ([], info) := rfl

theorem forwarded_finished (h : forwarded (some r)) : r.finished = none := by
  have hnot : r.usageOnly = false ∧ r.isFinished = false := by simpa [forwarded] using h
  simpa [isFinished] using hnot.2

theorem delta_of_nil (h : r.choices = []) : r.delta = .empty := by
  simp [delta, h]

theorem closeMessage_some (u : TextUsage) (reason : String) :
    (closeMessage info (some u) reason).1 =
      stopOpenBlocks info ++ messageEnd (some reason) (buildClaudeUsageFromOpenAIUsage u) := by
  simp [closeMessage, messageEnd]

/-- **One chunk after the first**: it closes the stream, or its delta is converted. -/
theorem handle_eq (hopen : MessageOpen info) (hcount : 1 ≤ info.sendResponseCount) (hforward : forwarded chunk) :
    handleStreamFormat (claudeFormat inputTokens) info chunk =
      if closesEarly info.usage.isSome chunk then
        closeMessage (info.received (chunkUsage chunk)) (info.received (chunkUsage chunk)).usage "end_turn"
      else convertDelta (info.received (chunkUsage chunk)) (chunkDelta chunk) := by
  cases chunk with
  | none => rfl
  | some r =>
    let state := info.received r.usage
    have hconvert : handleStreamFormat (claudeFormat inputTokens) info (some r) =
        streamResponseOpenAI2Claude state inputTokens r := rfl
    have hdone : state.done = false := hopen.done
    have hfirst : state.sendResponseCount ≠ 1 := by
      simp only [state, received]
      omega
    rw [hconvert, streamResponseOpenAI2Claude, if_neg (by simp [hdone]), if_neg hfirst]
    show _ = if closesEarly info.usage.isSome (some r) then closeMessage state state.usage "end_turn"
      else convertDelta state r.delta
    by_cases hchoices : r.choices = []
    · have hor : r.usage.or state.usage = state.usage := by
        cases hu : r.usage <;> simp [state, received, hu]
      have hsome : state.usage.isSome = closesEarly info.usage.isSome (some r) := by
        cases hu : r.usage <;> simp [state, received, closesEarly, hu, hchoices]
      rw [if_pos hchoices, convertUsage, hor, ← hsome]
      cases hu : state.usage with
      | none =>
        rw [if_neg (by simp), delta_of_nil hchoices, convertDelta_empty]
      | some u =>
        have hstop : openAIFinishReasonToClaudeStopReason state.finishReason = "" := by
          have hreason : state.finishReason = "" := hopen.reason
          rw [hreason]
          decide
        simp only [hstop, if_true, isSome_some]
    · have hclose : closesEarly info.usage.isSome (some r) = false := by simp [closesEarly, hchoices]
      rw [if_neg hchoices, forwarded_finished hforward, hclose]
      rfl

theorem handle_done (hdone : info.done) (chunk : Option ChatStreamResponse) :
    (handleStreamFormat (claudeFormat inputTokens) info chunk).1 = [] ∧
      (handleStreamFormat (claudeFormat inputTokens) info chunk).2.done := by
  cases chunk with
  | none => exact ⟨rfl, hdone⟩
  | some r => simp [handleStreamFormat, claudeFormat, streamResponseOpenAI2Claude, storeUsage, hdone]

/-- Nothing is sent after the end of the message. -/
theorem convertFrames_done (hdone : info.done) (chunks : List (Option ChatStreamResponse)) :
    (convertFrames (claudeFormat inputTokens) info chunks).1 = [] ∧
      (convertFrames (claudeFormat inputTokens) info chunks).2.done := by
  induction chunks generalizing info with
  | nil => exact ⟨rfl, hdone⟩
  | cons chunk chunks ih =>
    obtain ⟨hsent, hnext⟩ := handle_done inputTokens hdone chunk
    obtain ⟨hrest, hend⟩ := ih hnext
    simp only [convertFrames_cons, hsent, hrest]
    exact ⟨rfl, hend⟩

theorem received_usage (h : closesEarly info.usage.isSome chunk) :
    ∃ u, (info.received (chunkUsage chunk)).usage = some u := by
  refine isSome_iff_exists.1 ?_
  cases chunk with
  | none => cases h
  | some r =>
    have husage : info.usage.isSome ∨ r.usage.isSome := by
      simp only [closesEarly, any_some, Bool.and_eq_true, Bool.or_eq_true] at h
      exact h.2
    simpa [received, chunkUsage, Or.comm] using husage

/-- What `chunks` after the first come to, `close` being those before the one that closes the stream early. -/
def LaterChunks (info : ClaudeConvertInfo) (chunks : List (Option ChatStreamResponse))
    (sent : List ClaudeEvent × ClaudeConvertInfo) : Option (List (Option ChatStreamResponse)) → Prop
  | none =>
    sent.1 = (convertDeltas info (chunks.map chunkDelta)).1 ∧ ∃ usage,
      sent.2 = (convertDeltas info (chunks.map chunkDelta)).2.setMessage (info.sendResponseCount + chunks.length) usage ""
        false
  | some before =>
    sent.2.done = true ∧ ∃ u, sent.1 = (convertDeltas info (before.map chunkDelta)).1 ++
      stopOpenBlocks (convertDeltas info (before.map chunkDelta)).2 ++ messageEnd (some "end_turn") u

/-- **The chunks after the first**: their deltas are converted until one of them closes the stream. -/
theorem convertFrames_later (hopen : MessageOpen info) (hcount : 1 ≤ info.sendResponseCount)
    {chunks : List (Option ChatStreamResponse)} (hforward : ∀ chunk ∈ chunks, forwarded chunk) :
    LaterChunks info chunks (convertFrames (claudeFormat inputTokens) info chunks)
      (earlyClose info.usage.isSome chunks) := by
  induction chunks generalizing info with
  | nil =>
    refine ⟨rfl, info.usage, ?_⟩
    have hself : info.setMessage info.sendResponseCount info.usage info.finishReason info.done = info := rfl
    rw [hopen.reason, hopen.done] at hself
    exact hself.symm
  | cons chunk chunks ih =>
    have hhandle := handle_eq inputTokens hopen hcount (hforward chunk mem_cons_self)
    rw [convertFrames_cons, earlyClose]
    by_cases hclose : closesEarly info.usage.isSome chunk
    · rw [if_pos hclose] at hhandle ⊢
      obtain ⟨u, hu⟩ := received_usage hclose
      rw [hhandle, hu]
      obtain ⟨hrest, hdone⟩ := convertFrames_done inputTokens
        (show (closeMessage (info.received (chunkUsage chunk)) (some u) "end_turn").2.done from rfl) chunks
      refine ⟨hdone, buildClaudeUsageFromOpenAIUsage u, ?_⟩
      rw [hrest, closeMessage_some]
      exact append_nil _
    · rw [if_neg hclose] at hhandle ⊢
      -- the delta is converted as it would be with the fields of the message as they were
      let usage := (chunkUsage chunk).or info.usage
      have hset : info.received (chunkUsage chunk) = info.setMessage (info.sendResponseCount + 1) usage "" false := by
        rw [← hopen.reason, ← hopen.done]
        rfl
      rw [hset, convertDelta_setMessage] at hhandle
      rw [hhandle]
      let next := (convertDelta info (chunkDelta chunk)).2
      have husage : (next.setMessage (info.sendResponseCount + 1) usage "" false).usage.isSome =
          (info.usage.isSome || (chunkUsage chunk).isSome) := by
        show ((chunkUsage chunk).or info.usage).isSome = _
        cases chunkUsage chunk <;> simp
      have hopen' : MessageOpen (next.setMessage (info.sendResponseCount + 1) usage "" false) := ⟨rfl, rfl⟩
      have hlater := ih hopen' (Nat.le_add_left 1 _) (forall_mem_cons.1 hforward).2
      rw [husage] at hlater
      cases hearly : earlyClose (info.usage.isSome || (chunkUsage chunk).isSome) chunks with
      | none =>
        rw [hearly] at hlater
        obtain ⟨hsent, last, hinfo⟩ := hlater
        rw [convertDeltas_setMessage] at hsent hinfo
        refine ⟨?_, last, ?_⟩
        · rw [hsent]
          rfl
        · have hlength : info.sendResponseCount + (chunk :: chunks).length = info.sendResponseCount + 1 + chunks.length := by
            rw [length_cons]
            omega
          rw [hlength, hinfo]
          rfl
      | some before =>
        rw [hearly] at hlater
        obtain ⟨hdone, u, hsent⟩ := hlater
        rw [convertDeltas_setMessage] at hsent
        refine ⟨hdone, u, ?_⟩
        rw [hsent]
        simp only [map_cons, convertDeltas, append_assoc]
        rfl

end Forwarded

/-! ## The shape -/

def firstUsage (chunks : List (Option ChatStreamResponse)) : Bool := chunks.head?.any fun c => (chunkUsage c).isSome

/-- The stop reason with which the last chunk ends the message, if it does; `count` chunks were converted before. -/
def finalReason (count : Nat) (r : ChatStreamResponse) : Option String :=
  if count = 1 then r.finished.map openAIFinishReasonToClaudeStopReason
  else if r.choices = [] then some "end_turn"
  else if r.usage.isSome then r.finished.map openAIFinishReasonToClaudeStopReason
  else none

/-- What the last chunk does to the blocks: after a single chunk, it is converted as the first one again. -/
def lastBlocks (inputTokens : Int) (count : Nat) (info : ClaudeConvertInfo) (r : ChatStreamResponse) : List ClaudeEvent :=
  if count = 1 then
    .messageStart inputTokens :: ((convertFirstContent info r.delta).1 ++
      if r.isFinished then stopOpenBlocks (convertFirstContent info r.delta).2 else [])
  else if r.isFinished ∧ r.usage = none then []
  else
    (convertDelta info r.delta).1 ++
      if (finalReason count r).isSome then stopOpenBlocks (convertDelta info r.delta).2 else []

section Shape

variable (handled : List (Option ChatStreamResponse)) (last : Option ChatStreamResponse)

/-- The data before the one that closes the stream early, if there is one; `handled` are the data that are converted at
once. -/
def closedEarly : Option (List (Option ChatStreamResponse)) := earlyClose (firstUsage handled) handled.tail

/-- The data after the first whose deltas are converted. -/
def laterData : List (Option ChatStreamResponse) := (closedEarly handled).getD handled.tail

def firstBlocks : List ClaudeEvent × ClaudeConvertInfo :=
  convertFirstContent .initial (chunkDelta handled.head?.join)

def laterBlocks : List ClaudeEvent × ClaudeConvertInfo :=
  convertDeltas (firstBlocks handled).2 ((laterData handled).map chunkDelta)

def streamReason : Option String :=
  if (closedEarly handled).isSome then some "end_turn" else last.bind (finalReason handled.length)

/-- What is sent before the end of the message. -/
def streamBody (inputTokens : Int) : List ClaudeEvent :=
  (handled.head?.join.map fun _ => ClaudeEvent.messageStart inputTokens).toList ++ (firstBlocks handled).1 ++
    (laterBlocks handled).1 ++
    if (closedEarly handled).isSome then stopOpenBlocks (laterBlocks handled).2
    else (last.map (lastBlocks inputTokens handled.length (laterBlocks handled).2)).getD []

theorem laterData_isPrefix : laterData handled <+: handled.tail := by
  unfold laterData
  cases hclosed : closedEarly handled with
  | none => exact prefix_rfl
  | some before => exact earlyClose_isPrefix hclosed

end Shape

section ShapeOf

variable (inputTokens : Int) (usage : TextUsage) (info : ClaudeConvertInfo)

theorem handle_first {chunk : Option ChatStreamResponse} (hforward : forwarded chunk) :
    handleStreamFormat (claudeFormat inputTokens) .initial chunk =
      ((chunk.map fun _ => messageStart inputTokens).toList ++
          (convertFirstContent .initial (chunkDelta chunk)).1,
        (convertFirstContent .initial (chunkDelta chunk)).2.setMessage 1 (chunkUsage chunk) "" false) := by
  cases chunk with
  | none => rfl
  | some r =>
    have hconvert : handleStreamFormat (claudeFormat inputTokens) .initial (some r) =
        convertFirst (initial.setMessage 1 (r.usage.or none) "" false) inputTokens r := rfl
    rw [hconvert, or_none, convertFirst, forwarded_finished hforward, convertFirstContent_setMessage]
    rfl

theorem final_done {info : ClaudeConvertInfo} (hdone : info.done) (last : Option ChatStreamResponse) :
    finalEvents (claudeFormat inputTokens) usage info last = [] := by
  cases last with
  | none => rfl
  | some r => simp [finalEvents, claudeFormat, streamResponseOpenAI2Claude, hdone]

/-- The last chunk after several others, or as the only one. -/
theorem final_later {count : Nat} (hcount : count ≠ 1) (seen : Option TextUsage) (r : ChatStreamResponse) :
    ∃ u, finalEvents (claudeFormat inputTokens) usage (info.setMessage count seen "" false) (some r) =
      lastBlocks inputTokens count info r ++ messageEnd (finalReason count r) u := by
  let state := info.setMessage count (some usage) "" false
  have hfinal : finalEvents (claudeFormat inputTokens) usage (info.setMessage count seen "" false) (some r) =
      (streamResponseOpenAI2Claude state inputTokens r).1 := rfl
  have hdone : state.done = false := rfl
  have hlater : state.sendResponseCount ≠ 1 := hcount
  rw [hfinal, streamResponseOpenAI2Claude, if_neg (by simp [hdone]), if_neg hlater, lastBlocks, if_neg hcount]
  by_cases hchoices : r.choices = []
  · have hreason : finalReason count r = some "end_turn" := by rw [finalReason, if_neg hcount, if_pos hchoices]
    have hfinished : r.isFinished = false := by simp [isFinished, finished, hchoices]
    obtain ⟨u, hu⟩ : ∃ u, r.usage.or (some usage) = some u := by cases r.usage <;> simp
    have hor : r.usage.or state.usage = some u := hu
    have hstop : openAIFinishReasonToClaudeStopReason state.finishReason = "" := show openAIFinishReasonToClaudeStopReason "" = "" by decide
    refine ⟨buildClaudeUsageFromOpenAIUsage u, ?_⟩
    rw [if_pos hchoices, convertUsage, hor, if_neg (by simp [hfinished]), hreason, delta_of_nil hchoices]
    simp only [hstop, closeMessage_some]
    rfl
  · rw [if_neg hchoices]
    cases hfinished : r.finished with
    | none =>
      have hreason : finalReason count r = none := by simp [finalReason, hchoices, hfinished]
      have hnot : r.isFinished = false := by simp [isFinished, hfinished]
      refine ⟨⟨0, 0, 0, 0, none⟩, ?_⟩
      rw [if_neg (by simp [hnot]), hreason, convertDelta_setMessage]
      simp [messageEnd]
    | some reason =>
      have his : r.isFinished := by simp [isFinished, hfinished]
      simp only [convertFinish]
      cases hu : r.usage with
      | none =>
        have hreason : finalReason count r = none := by simp [finalReason, hcount, hchoices, hu]
        exact ⟨⟨0, 0, 0, 0, none⟩, by simp [his, hreason, messageEnd]⟩
      | some u =>
        have hreason : finalReason count r = some (openAIFinishReasonToClaudeStopReason reason) := by
          simp [finalReason, hchoices, hu, hfinished]
        have hset : convertDelta { state with finishReason := reason } r.delta =
            ((convertDelta info r.delta).1, (convertDelta info r.delta).2.setMessage count (some usage) reason false) :=
          convertDelta_setMessage info count (some usage) reason false r.delta
        refine ⟨buildClaudeUsageFromOpenAIUsage u, ?_⟩
        rw [if_neg (by simp), hreason]
        simp only [hset, closeMessage_some, stopOpenBlocks_setMessage, isSome_some, if_true, append_assoc]

/-- The last chunk after a single one. -/
theorem final_first (seen : Option TextUsage) (r : ChatStreamResponse) :
    ∃ u, finalEvents (claudeFormat inputTokens) usage (info.setMessage 1 seen "" false) (some r) =
      lastBlocks inputTokens 1 info r ++ messageEnd (finalReason 1 r) u := by
  have hfinal : finalEvents (claudeFormat inputTokens) usage (info.setMessage 1 seen "" false) (some r) =
      (convertFirst (info.setMessage 1 (some usage) "" false) inputTokens r).1 := rfl
  rw [hfinal, convertFirst, finalReason, lastBlocks, isFinished, convertFirstContent_setMessage]
  obtain ⟨u, hu⟩ : ∃ u, r.usage.or (some usage) = some u := by cases r.usage <;> simp
  have hor : r.usage.or (info.setMessage 1 (some usage) "" false).usage = some u := hu
  refine ⟨buildClaudeUsageFromOpenAIUsage u, ?_⟩
  cases r.finished with
  | none => simp [messageEnd]
  | some reason =>
    have hstop : stopOpenBlocks { (convertFirstContent info r.delta).2.setMessage 1 (some usage) "" false with
        finishReason := reason } = stopOpenBlocks (convertFirstContent info r.delta).2 := rfl
    simp only [hor, closeMessage_some, hstop, map_some, isSome_some, if_true, cons_append,
      append_assoc]

theorem final_eq (count : Nat) (seen : Option TextUsage) (last : Option ChatStreamResponse) :
    ∃ u, finalEvents (claudeFormat inputTokens) usage (info.setMessage count seen "" false) last =
      (last.map (lastBlocks inputTokens count info)).getD [] ++ messageEnd (last.bind (finalReason count)) u := by
  cases last with
  | none => exact ⟨⟨0, 0, 0, 0, none⟩, rfl⟩
  | some r =>
    by_cases hcount : count = 1
    · subst hcount
      exact final_first inputTokens usage info seen r
    · exact final_later inputTokens usage info hcount seen r

/-- **The shape of a Claude stream.** -/
theorem claude_stream_shape (site : OaiSite) (relay : OaiRelay) (stream : List (Option ChatStreamResponse)) :
    ∃ u, streamEvents (claudeFormat inputTokens) site relay stream =
      streamBody (stream.filter forwarded) stream.getLast?.join inputTokens ++
        messageEnd (streamReason (stream.filter forwarded) stream.getLast?.join) u := by
  rw [oaiStream_sent]
  have hforward : ∀ chunk ∈ stream.filter forwarded, forwarded chunk := fun c hc => (mem_filter.1 hc).2
  generalize stream.filter forwarded = handled at hforward
  generalize streamUsage site relay (plainFrames stream) = usage
  generalize stream.getLast?.join = last
  unfold streamBody streamReason laterBlocks laterData firstBlocks
  cases handled with
  | nil =>
    obtain ⟨u, hfinal⟩ := final_eq inputTokens usage .initial 0 none last
    exact ⟨u, hfinal⟩
  | cons chunk chunks =>
    let first := convertFirstContent .initial (chunkDelta chunk)
    let start := first.2.setMessage 1 (chunkUsage chunk) "" false
    have hlater : LaterChunks start chunks (convertFrames (claudeFormat inputTokens) start chunks)
        (closedEarly (chunk :: chunks)) :=
      convertFrames_later inputTokens ⟨rfl, rfl⟩ le_rfl (forall_mem_cons.1 hforward).2
    rw [convertFrames_cons, handle_first inputTokens (hforward chunk mem_cons_self)]
    obtain hearly | ⟨before, hearly⟩ := eq_none_or_eq_some (closedEarly (chunk :: chunks))
    · rw [hearly] at hlater
      obtain ⟨hsent, seen, hinfo⟩ := hlater
      rw [convertDeltas_setMessage] at hsent hinfo
      have hset : (convertFrames (claudeFormat inputTokens) start chunks).2 =
          (convertDeltas first.2 (chunks.map chunkDelta)).2.setMessage (chunk :: chunks).length seen "" false := by
        rw [hinfo, length_cons, Nat.add_comm chunks.length]
        rfl
      obtain ⟨u, hfinal⟩ := final_eq inputTokens usage (convertDeltas first.2 (chunks.map chunkDelta)).2
        (chunk :: chunks).length seen last
      rw [hset, hfinal, hsent]
      simp [first, hearly]
    · rw [hearly] at hlater
      obtain ⟨hdone, u, hsent⟩ := hlater
      rw [convertDeltas_setMessage] at hsent
      rw [hsent, final_done inputTokens usage hdone]
      simp [first, hearly]

end ShapeOf

/-- Nothing ends the message before its end. -/
theorem streamBody_content (handled : List (Option ChatStreamResponse)) (last : Option ChatStreamResponse)
    (inputTokens : Int) : ContentOnly (streamBody handled last inputTokens) := by
  have hstart : ContentOnly (handled.head?.join.map fun _ => messageStart inputTokens).toList := by
    cases handled.head?.join with
    | none => exact nofun
    | some r => exact forall_mem_cons.2 ⟨rfl, nofun⟩
  have hfirst : ContentOnly (firstBlocks handled).1 := (convertFirstContent_blocks _ _).content
  have hlater : ContentOnly (laterBlocks handled).1 := (convertDeltas_blocks _ _).content
  have hstop : ∀ info : ClaudeConvertInfo, ContentOnly (stopOpenBlocks info) := fun info => (stopOpenBlocks_blocks info).content
  have hlast : ∀ (count : Nat) (info : ClaudeConvertInfo) (r : ChatStreamResponse),
      ContentOnly (lastBlocks inputTokens count info r) := by
    intro count info r
    unfold lastBlocks
    split
    · refine forall_mem_cons.2 ⟨rfl, forall_mem_append.2 ⟨(convertFirstContent_blocks _ _).content, ?_⟩⟩
      split
      · exact hstop _
      · exact nofun
    · split
      · exact nofun
      · refine forall_mem_append.2 ⟨(convertDelta_blocks _ _).content, ?_⟩
        split
        · exact hstop _
        · exact nofun
  refine forall_mem_append.2 ⟨forall_mem_append.2 ⟨forall_mem_append.2 ⟨hstart, hfirst⟩, hlater⟩, ?_⟩
  split
  · exact hstop _
  · cases last with
    | none => exact nofun
    | some r => exact hlast _ _ r

end SynthApi
