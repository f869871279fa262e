import SynthApi.Relay.StreamBlocks

/-!
# The content of a Claude stream

The client puts an answer together from the deltas of the blocks: the text, the reasoning, and the arguments of each tool
call (`ContentPreserved`). Content is lost where a chunk is not converted (`sentDeltas`) or has content of several kinds, is
sent twice where the last chunk was converted before, and the arguments of one tool call end up in two blocks where a text
comes in between. `preserving` excludes all this: then the pieces that are sent are those of the chunks, with the
arguments in a block for each tool call (`stream_pieces`).
-/

namespace SynthApi

open Lib List ClaudeConvertInfo

/-! ## Pieces of content -/

/-- A piece of content; arguments are those of a block or, before they are converted, of a tool call. -/
inductive ContentPiece where
  | text (text : String)
  | thinking (text : String)
  | arguments (index : Int) (text : String)
  deriving DecidableEq, Repr

namespace ContentPiece

def textPart : ContentPiece → String
  | .text s => s
  | _ => ""

def thinkingPart : ContentPiece → String
  | .thinking s => s
  | _ => ""

def argumentsPart (i : Int) : ContentPiece → String
  | .arguments j s => if j = i then s else ""
  | _ => ""

end ContentPiece

open ContentPiece

def ClaudeEvent.piece : ClaudeEvent → Option ContentPiece
  | .contentBlockDelta _ (.text s) => some (.text s)
  | .contentBlockDelta _ (.thinking s) => some (.thinking s)
  | .contentBlockDelta i (.inputJson s) => some (.arguments i s)
  | _ => none

def pieces (events : List ClaudeEvent) : List ContentPiece := events.filterMap (·.piece)

def blockArguments (i : Int) (events : List ClaudeEvent) : String :=
  String.join ((pieces events).map (argumentsPart i))

def toolArguments (k : Int) (chunks : List ChatStreamResponse) : String :=
  String.join ((chunks.flatMap fun r => toolOffsets r.delta.calls).map fun call =>
    if call.1 = k then call.2.arguments else "")

/-- The client gets the text, the reasoning, and the arguments of each tool call, in a block of its own. -/
structure ContentPreserved (chunks : List ChatStreamResponse) (events : List ClaudeEvent) : Prop where
  text : String.join ((pieces events).map textPart) = String.join (chunks.map (·.delta.getContentString))
  thinking :
    String.join ((pieces events).map thinkingPart) = String.join (chunks.map (·.delta.getReasoningContent))
  tools : ∃ block : Int → Int,
    Set.InjOn block {k | toolArguments k chunks ≠ ""} ∧
    (∀ k, toolArguments k chunks ≠ "" → blockArguments (block k) events = toolArguments k chunks) ∧
    ∀ i, blockArguments i events ≠ "" → ∃ k, toolArguments k chunks ≠ "" ∧ block k = i

def argumentPieces (calls : List ToolCallResponse) : List (Int × String) :=
  (toolOffsets calls).filterMap fun call => if call.2.arguments = "" then none else some (call.1, call.2.arguments)

/-- The content of a delta, with the arguments of tool call `k` in the block `block k`. -/
def deltaPieces (block : Int → Int) (d : ChatStreamDelta) : List ContentPiece :=
  (argumentPieces d.calls).map (fun a => .arguments (block a.1) a.2) ++
    (if d.getReasoningContent = "" then [] else [.thinking d.getReasoningContent]) ++
    if d.getContentString = "" then [] else [.text d.getContentString]

/-! ## Streams that keep their content -/

def hasContent (d : ChatStreamDelta) : Bool :=
  d.getContentString ≠ "" || d.getReasoningContent ≠ "" || !(argumentPieces d.calls).isEmpty

/-- A delta after the first chunk. `s` are the tool calls with arguments, of earlier runs and of the one that is open: there
is content of one kind, and no arguments for a tool call of an earlier run. -/
def cleanDelta (s : List Int × List Int) (d : ChatStreamDelta) : Option (List Int × List Int) :=
  match d.calls with
  | [] =>
    if d.getReasoningContent ≠ "" ∧ d.getContentString ≠ "" then none
    else if d.textContent.isSome then some (s.1 ++ s.2, [])
    else some s
  | call :: calls =>
    if d.textContent = none ∧ ∀ a ∈ argumentPieces (call :: calls), 0 ≤ a.1 ∧ a.1 ∉ s.1 then
      some (s.1, (argumentPieces (call :: calls)).map (·.1) ++ s.2)
    else none

/-- The first chunk: of the tool calls only the first has arguments, and it has offset 0. -/
def cleanFirst (d : ChatStreamDelta) : Option (List Int × List Int) :=
  if (d.getReasoningContent = "" ∨ d.getContentString = "") ∧ argumentPieces d.calls = argumentPieces (d.calls.take 1) ∧
      ∀ a ∈ argumentPieces d.calls, a.1 = 0 then
    some (if d.textContent.isSome then ((argumentPieces d.calls).map (·.1), []) else ([], (argumentPieces d.calls).map (·.1)))
  else none

/-- The last chunk is converted, after the stream has ended. -/
def lastSent (count : Nat) (r : ChatStreamResponse) : Bool := count = 1 || !(r.isFinished && r.usage.isNone)

section Condition

variable (handled : List (Option ChatStreamResponse)) (last : Option ChatStreamResponse)

def finalChunk : Option ChatStreamResponse :=
  if (closedEarly handled).isSome then none else last.filter (lastSent handled.length)

def sentDeltas : List ChatStreamDelta :=
  chunkDelta handled.head?.join :: (laterData handled).map chunkDelta ++ ((finalChunk handled last).map (·.delta)).toList

def cleanStream : Bool :=
  ((cleanFirst (chunkDelta handled.head?.join)).bind (watch cleanDelta · ((laterData handled).map chunkDelta))).any fun s =>
    (finalChunk handled last).all fun r =>
      if handled.length = 1 then (cleanFirst r.delta).isSome else (cleanDelta s r.delta).isSome

end Condition

/-- **The streams whose content is kept**: the deltas with content are converted, each of them once, and they are clean. -/
def preserving (chunks : List ChatStreamResponse) : Bool :=
  decide ((chunks.map (·.delta)).filter hasContent =
    (sentDeltas ((chunks.map some).filter forwarded) chunks.getLast?).filter hasContent) &&
  cleanStream ((chunks.map some).filter forwarded) chunks.getLast?

/-! ## What is sent -/

section Pieces

@[simp] theorem pieces_nil : pieces [] = [] := rfl

@[simp] theorem pieces_append (events rest : List ClaudeEvent) : pieces (events ++ rest) = pieces events ++ pieces rest :=
  filterMap_append

variable (info : ClaudeConvertInfo)

@[simp] theorem pieces_stop : pieces (stopOpenBlocks info) = [] := by
  unfold stopOpenBlocks
  cases info.lastMessagesType with
  | tools => simp [pieces, ClaudeEvent.piece]
  | _ => rfl

def textPiece (content : TextKind × String) : ContentPiece :=
  match content.1 with
  | .thinking => .thinking content.2
  | .text => .text content.2

theorem pieces_textContent (always : Bool) (d : ChatStreamDelta) :
    pieces (convertTextContent info always d).1 = (d.textContent.map textPiece).toList := by
  unfold convertTextContent
  cases d.textContent with
  | none => rfl
  | some content =>
    obtain ⟨kind, text⟩ := content
    have hdelta : ∀ i, pieces [.contentBlockDelta i (kind.delta text)] = [textPiece (kind, text)] := by
      intro i
      cases kind <;> rfl
    have hopen : pieces (openTextBlock info always kind).1 = [] := by
      unfold openTextBlock
      split
      · split <;> rfl
      · simp only [pieces_append, pieces_stop]
        rfl
    simp only [convertText, pieces_append, hopen, hdelta]
    rfl

theorem pieces_toolCall (always : Bool) (i : Int) (call : ToolCallResponse) :
    pieces (toolCallEvents always i call) = if call.arguments = "" then [] else [.arguments i call.arguments] := by
  unfold toolCallEvents
  by_cases hargs : call.arguments = "" <;> simp [hargs, pieces, ClaudeEvent.piece]

theorem pieces_tools (calls : List ToolCallResponse) :
    pieces (convertTools info calls).1 =
      (argumentPieces calls).map fun a => .arguments ((openTools info).toolCallBaseIndex + a.1) a.2 := by
  have hcalls : ∀ (base : Int) (calls : List (Int × ToolCallResponse)),
      pieces (calls.flatMap fun call => toolCallEvents false (base + call.1) call.2) =
        (calls.filterMap fun call => if call.2.arguments = "" then none else some (call.1, call.2.arguments)).map
          fun a => .arguments (base + a.1) a.2 := by
    intro base calls
    induction calls with
    | nil => rfl
    | cons call calls ih =>
      rw [flatMap_cons, pieces_append, pieces_toolCall, ih]
      by_cases hargs : call.2.arguments = "" <;> simp [hargs]
  have hstop : pieces (if info.lastMessagesType = .tools then [] else stopOpenBlocks info) = [] := by
    split
    · rfl
    · exact pieces_stop info
  unfold convertTools
  rw [pieces_append, hstop, hcalls]
  rfl

end Pieces

/-! ## One block for each tool call -/

/-- The blocks of the tool calls with arguments: those of earlier runs are below the open blocks, those of the run that is
open are at their offsets. -/
structure KeysAt (info : ClaudeConvertInfo) (block : Int → Int) (s : List Int × List Int) : Prop where
  le : info.low ≤ info.high
  inj : Set.InjOn block {k | k ∈ s.1 ++ s.2}
  closed : ∀ k ∈ s.1, block k < info.low
  current : ∀ k ∈ s.2, 0 ≤ k ∧ block k = info.low + k ∧ block k < info.high
  tools : s.2 ≠ [] → info.lastMessagesType = .tools

section Keys

variable {info : ClaudeConvertInfo} {block : Int → Int} {s s' : List Int × List Int} {d : ChatStreamDelta}

theorem deltaPieces_congr {block' : Int → Int}
    (h : ∀ a ∈ argumentPieces d.calls, block a.1 = block' a.1) : deltaPieces block d = deltaPieces block' d := by
  have hmap : (argumentPieces d.calls).map (fun a => arguments (block a.1) a.2) =
      (argumentPieces d.calls).map fun a => .arguments (block' a.1) a.2 :=
    map_congr_left fun a ha => by rw [h a ha]
  rw [deltaPieces, deltaPieces, hmap]

theorem textContent_pieces (hone : d.getReasoningContent = "" ∨ d.getContentString = "") :
    (d.textContent.map textPiece).toList =
      (if d.getReasoningContent = "" then [] else [.thinking d.getReasoningContent]) ++
        if d.getContentString = "" then [] else [.text d.getContentString] := by
  unfold ChatStreamDelta.textContent
  by_cases hreason : d.getReasoningContent = ""
  · by_cases hcontent : d.getContentString = "" <;> simp [hreason, hcontent, textPiece]
  · simp [hreason, hone.resolve_left hreason, textPiece]

theorem deltaPieces_tools (h : d.textContent = none) :
    deltaPieces block d = (argumentPieces d.calls).map fun a => .arguments (block a.1) a.2 := by
  unfold ChatStreamDelta.textContent at h
  by_cases hreason : d.getReasoningContent = ""
  · by_cases hcontent : d.getContentString = ""
    · simp [deltaPieces, hreason, hcontent]
    · simp [hreason, hcontent] at h
  · simp [hreason] at h

/-- Where the block of a text is. -/
theorem convertText_low (info : ClaudeConvertInfo) (always : Bool) (content : TextKind × String) :
    (convertText info always content).2.low =
        (if info.lastMessagesType = content.1.messagesType then info.low else info.high) ∧
      (convertText info always content).2.high = (convertText info always content).2.low + 1 := by
  obtain ⟨kind, text⟩ := content
  simp only [convertText, openTextBlock, withText_low, withText_high]
  by_cases htype : info.lastMessagesType = kind.messagesType
  · have hlow : info.low = info.index := by cases kind <;> simp [low, htype, TextKind.messagesType]
    simp [htype, hlow]
  · simp [htype]

/-- A text ends the run of tool calls. -/
theorem KeysAt.text (h : KeysAt info block s) (always : Bool) (content : TextKind × String) :
    KeysAt (convertText info always content).2 block (s.1 ++ s.2, []) := by
  obtain ⟨hlow, hhigh⟩ := convertText_low info always content
  refine ⟨by omega, by simpa using h.inj, fun k hk => ?_, nofun, fun hne => absurd rfl hne⟩
  have hle := h.le
  rw [hlow]
  rcases mem_append.1 hk with hk | hk
  · have hclosed := h.closed k hk
    split <;> omega
  · have htype : info.lastMessagesType ≠ content.1.messagesType := by
      rw [h.tools (ne_nil_of_mem hk)]
      cases content.1 <;> exact nofun
    rw [if_neg htype]
    exact (h.current k hk).2.2

theorem KeysAt.textContent (h : KeysAt info block s) (always : Bool) (d : ChatStreamDelta) :
    KeysAt (convertTextContent info always d).2 block (if d.textContent.isSome then (s.1 ++ s.2, []) else s) := by
  unfold convertTextContent
  cases d.textContent with
  | none => exact h
  | some content => exact h.text always content

theorem le_foldl_max (calls : List (Int × ToolCallResponse)) (m : Int) :
    let top := calls.foldl (fun m call => max m call.1) m
    m ≤ top ∧ ∀ call ∈ calls, call.1 ≤ top := by
  induction calls generalizing m with
  | nil => exact ⟨le_rfl, nofun⟩
  | cons call calls ih =>
    obtain ⟨hle, hcalls⟩ := ih (max m call.1)
    refine ⟨(le_max_left _ _).trans hle, ?_⟩
    exact forall_mem_cons.2 ⟨(le_max_right _ _).trans hle, hcalls⟩

theorem mem_argumentPieces {calls : List ToolCallResponse} {a : Int × String} (h : a ∈ argumentPieces calls) :
    ∃ call ∈ toolOffsets calls, call.1 = a.1 := by
  obtain ⟨call, hcall, heq⟩ := mem_filterMap.1 h
  split at heq
  · cases heq
  · exact ⟨call, hcall, by rw [← Option.some.inj heq]⟩

theorem openTools_base (info : ClaudeConvertInfo) :
    (openTools info).toolCallBaseIndex = if info.lastMessagesType = .tools then info.low else info.high := by
  unfold openTools
  split
  next htools => simp [low, htools]
  · exact advanceIndex_index

section Tools

variable (info : ClaudeConvertInfo) (calls : List ToolCallResponse)

theorem convertTools_type : (convertTools info calls).2.lastMessagesType = .tools := by
  unfold convertTools openTools
  split <;> first | assumption | rfl

theorem convertTools_low : (convertTools info calls).2.low = (openTools info).toolCallBaseIndex := by
  rw [low, convertTools_type]
  rfl

theorem convertTools_high : (convertTools info calls).2.high = (openTools info).toolCallBaseIndex +
    (toolOffsets calls).foldl (fun m call => max m call.1) (openTools info).toolCallMaxIndexOffset + 1 := by
  rw [high, convertTools_type]
  rfl

/-- What was open stays open. -/
theorem convertTools_le {info : ClaudeConvertInfo} (htools : info.lastMessagesType = .tools) :
    info.high ≤ (convertTools info calls).2.high := by
  have hopen : openTools info = info := by rw [openTools, if_pos htools]
  have hmax := (le_foldl_max (toolOffsets calls) info.toolCallMaxIndexOffset).1
  rw [convertTools_high, hopen, high, htools]
  show info.toolCallBaseIndex + info.toolCallMaxIndexOffset + 1 ≤ _
  omega

theorem convertTools_low_le (hle : info.low ≤ info.high) :
    (convertTools info calls).2.low ≤ (convertTools info calls).2.high := by
  by_cases htools : info.lastMessagesType = .tools
  · have hhigh := convertTools_le calls htools
    rw [convertTools_low, openTools_base]
    omega
  · have hmax := (le_foldl_max (toolOffsets calls) (openTools info).toolCallMaxIndexOffset).1
    have hzero : (openTools info).toolCallMaxIndexOffset = 0 := by rw [openTools, if_neg htools]
    rw [convertTools_low, convertTools_high]
    omega

theorem argument_lt {a : Int × String} (ha : a ∈ argumentPieces calls) :
    (openTools info).toolCallBaseIndex + a.1 < (convertTools info calls).2.high := by
  obtain ⟨call, hcall, heq⟩ := mem_argumentPieces ha
  have hmax := (le_foldl_max (toolOffsets calls) (openTools info).toolCallMaxIndexOffset).2 call hcall
  rw [convertTools_high]
  omega

end Tools

/-- Blocks below `base` for some keys, and from `base` on, at their offsets, for others. -/
theorem injOn_run {closed run : List Int} {base : Int} (hinj : Set.InjOn block {k | k ∈ closed})
    (hclosed : ∀ k ∈ closed, block k < base) (hrun : ∀ k ∈ run, 0 ≤ k ∧ block k = base + k) :
    Set.InjOn block {k | k ∈ closed ++ run} := by
  intro k hk j hj heq
  rcases mem_append.1 hk with hk | hk
  · have hbelow := hclosed k hk
    rcases mem_append.1 hj with hj | hj
    · exact hinj hk hj heq
    · have hat := hrun j hj
      omega
  · have hat := hrun k hk
    rcases mem_append.1 hj with hj | hj
    · have hbelow := hclosed j hj
      omega
    · have hat' := hrun j hj
      omega

/-- Tool calls: those that are new get blocks of their own, at their offsets. -/
theorem KeysAt.calls (h : KeysAt info block s) {calls : List ToolCallResponse}
    (hnew : ∀ a ∈ argumentPieces calls, 0 ≤ a.1 ∧ a.1 ∉ s.1) :
    ∃ block', KeysAt (convertTools info calls).2 block' (s.1, (argumentPieces calls).map (·.1) ++ s.2) ∧
      (∀ k ∈ s.1 ++ s.2, block' k = block k) ∧
      ∀ a ∈ argumentPieces calls, block' a.1 = (openTools info).toolCallBaseIndex + a.1 := by
  have hle := h.le
  have hbase := openTools_base info
  have hlow := convertTools_low info calls
  generalize hdef : (openTools info).toolCallBaseIndex = base at hbase hlow
  let block' : Int → Int := fun k => if k ∈ s.1 ++ s.2 then block k else base + k
  have hold : ∀ k ∈ s.1 ++ s.2, block' k = block k := fun k hk => if_pos hk
  have hcurrent : ∀ k ∈ s.2, block' k = base + k := by
    intro k hk
    rw [hold k (mem_append_right _ hk), (h.current k hk).2.1, hbase, if_pos (h.tools (ne_nil_of_mem hk))]
  have hargs : ∀ a ∈ argumentPieces calls, block' a.1 = base + a.1 := by
    intro a ha
    by_cases hmem : a.1 ∈ s.2
    · exact hcurrent _ hmem
    · exact if_neg fun hk => (mem_append.1 hk).elim (hnew a ha).2 hmem
  have hrun : ∀ k ∈ (argumentPieces calls).map (·.1) ++ s.2, 0 ≤ k ∧ block' k = base + k := by
    intro k hk
    rcases mem_append.1 hk with hk | hk
    · obtain ⟨a, ha, rfl⟩ := mem_map.1 hk
      exact ⟨(hnew a ha).1, hargs a ha⟩
    · exact ⟨(h.current k hk).1, hcurrent k hk⟩
  have hclosed : ∀ k ∈ s.1, block' k < base := by
    intro k hk
    have hbelow := h.closed k hk
    rw [hold k (mem_append_left _ hk), hbase]
    split <;> omega
  have hinj : Set.InjOn block' {k | k ∈ s.1} := by
    intro k hk j hj heq
    rw [hold k (mem_append_left _ hk), hold j (mem_append_left _ hj)] at heq
    exact h.inj (mem_append_left _ hk) (mem_append_left _ hj) heq
  refine ⟨block', ⟨convertTools_low_le info calls h.le, injOn_run hinj hclosed hrun, fun k hk => ?_, fun k hk => ?_,
    fun _ => convertTools_type info calls⟩, hold, hargs⟩
  · rw [hlow]
    exact hclosed k hk
  · obtain ⟨hnonneg, hblock⟩ := hrun k hk
    refine ⟨hnonneg, hlow ▸ hblock, ?_⟩
    rcases mem_append.1 hk with hk | hk
    · obtain ⟨a, ha, rfl⟩ := mem_map.1 hk
      rw [hblock, ← hdef]
      exact argument_lt info calls ha
    · rw [hold k (mem_append_right _ hk)]
      exact (h.current k hk).2.2.trans_le (convertTools_le calls (h.tools (ne_nil_of_mem hk)))

/-- What a clean delta, or several, come to: `s'` are the tool calls then, `sent` what was sent. -/
def SentClean (block : Int → Int) (s s' : List Int × List Int) (deltas : List ChatStreamDelta)
    (sent : List ClaudeEvent × ClaudeConvertInfo) : Prop :=
  ∃ block', KeysAt sent.2 block' s' ∧ (∀ k ∈ s.1 ++ s.2, block' k = block k ∧ k ∈ s'.1 ++ s'.2) ∧
    pieces sent.1 = deltas.flatMap (deltaPieces block') ∧ ∀ d ∈ deltas, ∀ a ∈ argumentPieces d.calls, a.1 ∈ s'.1 ++ s'.2

/-- **One delta.** Its pieces are sent. -/
theorem clean_delta (h : KeysAt info block s) (hclean : cleanDelta s d = some s') :
    SentClean block s s' [d] (convertDelta info d) := by
  unfold cleanDelta at hclean
  unfold convertDelta SentClean
  simp only [flatMap_singleton, forall_mem_singleton]
  cases hcalls : d.calls with
  | nil =>
    rw [hcalls] at hclean
    obtain ⟨hone, hnext⟩ := Option.ite_none_left_eq_some.1 hclean
    have hkeys := h.textContent false d
    have hs' : (if d.textContent.isSome then (s.1 ++ s.2, []) else s) = s' := by
      rw [← Option.some_inj, ← hnext]
      split <;> rfl
    rw [hs'] at hkeys
    refine ⟨block, hkeys, fun k hk => ⟨rfl, ?_⟩, ?_, nofun⟩
    · rw [← hs']
      split
      · simpa using hk
      · exact hk
    · rw [pieces_textContent, textContent_pieces (by tauto), deltaPieces, hcalls]
      rfl
  | cons call calls =>
    rw [hcalls] at hclean
    obtain ⟨⟨htext, hnew⟩, ⟨⟩⟩ := Option.ite_none_right_eq_some.1 hclean
    obtain ⟨block', hkeys, hold, hargs⟩ := h.calls hnew
    refine ⟨block', hkeys, fun k hk => ⟨hold k hk, ?_⟩, ?_, fun a ha => ?_⟩
    · rcases mem_append.1 hk with hk | hk
      · exact mem_append_left _ hk
      · exact mem_append_right _ (mem_append_right _ hk)
    · rw [pieces_tools, deltaPieces_tools htext, hcalls]
      exact map_congr_left fun a ha => by rw [hargs a ha]
    · exact mem_append_right _ (mem_append_left _ (mem_map_of_mem ha))

variable {deltas : List ChatStreamDelta} {sent : List ClaudeEvent × ClaudeConvertInfo}

/-- One delta after others. -/
theorem SentClean.trans {s'' : List Int × List Int} {rest : List ChatStreamDelta} (h : SentClean block s s' deltas sent)
    (next : ClaudeConvertInfo → List ClaudeEvent × ClaudeConvertInfo)
    (hnext : ∀ block', KeysAt sent.2 block' s' → SentClean block' s' s'' rest (next sent.2)) :
    SentClean block s s'' (deltas ++ rest) (sent.1 ++ (next sent.2).1, (next sent.2).2) := by
  obtain ⟨block', hkeys, hold, hpieces, hargs⟩ := h
  obtain ⟨block'', hkeys', hold', hpieces', hargs'⟩ := hnext block' hkeys
  refine ⟨block'', hkeys', fun k hk => ?_, ?_, fun d hd a ha => ?_⟩
  · obtain ⟨heq, hmem⟩ := hold k hk
    exact ⟨(hold' k hmem).1.trans heq, (hold' k hmem).2⟩
  · -- the tool calls of the first deltas keep their blocks
    have hsame : deltas.flatMap (deltaPieces block') = deltas.flatMap (deltaPieces block'') :=
      flatMap_congr fun d hd => deltaPieces_congr fun a ha => ((hold' a.1 (hargs d hd a ha)).1).symm
    rw [pieces_append, hpieces, hpieces', hsame, flatMap_append]
  · rcases mem_append.1 hd with hd | hd
    · exact (hold' a.1 (hargs d hd a ha)).2
    · exact hargs' d hd a ha

def argumentKeys (deltas : List ChatStreamDelta) : Set Int := {k | ∃ d ∈ deltas, ∃ a ∈ argumentPieces d.calls, a.1 = k}

theorem SentClean.pieces (h : SentClean block s s' deltas sent) :
    ∃ block' : Int → Int, Set.InjOn block' (argumentKeys deltas) ∧
      SynthApi.pieces sent.1 = deltas.flatMap (deltaPieces block') := by
  obtain ⟨block', hkeys, -, hpieces, hargs⟩ := h
  refine ⟨block', hkeys.inj.mono ?_, hpieces⟩
  rintro k ⟨d, hd, a, ha, rfl⟩
  exact hargs d hd a ha

/-- **All the deltas.** -/
theorem clean_deltas (h : KeysAt info block s) (hclean : watch cleanDelta s deltas = some s') :
    SentClean block s s' deltas (convertDeltas info deltas) := by
  induction deltas generalizing info block s with
  | nil =>
    cases hclean
    exact ⟨block, h, fun k hk => ⟨rfl, hk⟩, rfl, nofun⟩
  | cons d deltas ih =>
    rw [watch_cons, Option.bind_eq_some_iff] at hclean
    obtain ⟨next, hstep, hrest⟩ := hclean
    exact (clean_delta h hstep).trans (convertDeltas · deltas) fun block' hkeys => ih hkeys hrest

/-- The arguments of the first tool call go to block 0. -/
theorem pieces_first (info : ClaudeConvertInfo) (hclean : cleanFirst d = some s) :
    pieces (convertFirstContent info d).1 = deltaPieces id d := by
  obtain ⟨⟨hone, hrest, hzero⟩, -⟩ := Option.ite_none_right_eq_some.1 hclean
  have htool : pieces (convertFirstTool info d).1 =
      (argumentPieces d.calls).map fun a => arguments (id a.1) a.2 := by
    have hzeros : ((argumentPieces d.calls).map fun a => arguments (id a.1) a.2) =
        (argumentPieces d.calls).map fun a => .arguments 0 a.2 :=
      map_congr_left fun a ha => by rw [hzero a ha, id]
    rw [hzeros, hrest]
    unfold convertFirstTool
    cases d.calls with
    | nil => rfl
    | cons call calls =>
      rw [pieces_toolCall]
      by_cases hargs : call.arguments = "" <;> simp [argumentPieces, toolOffsets, hargs]
  unfold convertFirstContent
  rw [pieces_append, htool, pieces_textContent, textContent_pieces hone, deltaPieces, append_assoc]

/-- **The first chunk.** -/
theorem clean_first (hclean : cleanFirst d = some s) :
    SentClean id ([], []) s [d] (convertFirstContent .initial d) := by
  obtain ⟨⟨-, hrest, hzero⟩, hnext⟩ := Option.ite_none_right_eq_some.1 hclean
  have htool : KeysAt (convertFirstTool .initial d).2 id ([], (argumentPieces d.calls).map (·.1)) := by
    unfold convertFirstTool
    cases hcalls : d.calls with
    | nil => exact ⟨le_rfl, Function.injective_id.injOn, nofun, nofun, fun hne => absurd rfl hne⟩
    | cons call calls =>
      have hbounds : (0 : Int) < 1 := by decide
      refine ⟨hbounds.le, Function.injective_id.injOn, nofun, fun k hk => ?_, fun _ => rfl⟩
      rw [hcalls] at hzero
      obtain ⟨a, ha, rfl⟩ := mem_map.1 hk
      have ha0 : a.1 = 0 := hzero a ha
      show 0 ≤ a.1 ∧ a.1 = 0 + a.1 ∧ a.1 < 0 + 0 + 1
      omega
  have hkeys := htool.textContent true d
  have hs : (if d.textContent.isSome then ([] ++ (argumentPieces d.calls).map (·.1), [])
      else ([], (argumentPieces d.calls).map (·.1))) = s := Option.some.inj hnext
  rw [hs] at hkeys
  refine ⟨id, hkeys, nofun, ?_, forall_mem_singleton.2 fun a ha => ?_⟩
  · rw [flatMap_singleton]
    exact pieces_first .initial hclean
  · rw [← hs]
    split <;> simpa using ⟨a.2, ha⟩

end Keys

/-! ## The stream -/

section Stream

variable {handled : List (Option ChatStreamResponse)} {last : Option ChatStreamResponse}

theorem pieces_last (inputTokens : Int) (count : Nat) (info : ClaudeConvertInfo) (r : ChatStreamResponse) :
    pieces (lastBlocks inputTokens count info r) =
      if lastSent count r then
        pieces (if count = 1 then (convertFirstContent info r.delta).1 else (convertDelta info r.delta).1)
      else [] := by
  have hstop : ∀ (b : Bool) (info : ClaudeConvertInfo), pieces (if b then stopOpenBlocks info else []) = [] := by
    intro b info
    cases b
    · rfl
    · exact pieces_stop info
  unfold lastBlocks lastSent
  by_cases hcount : count = 1
  · have hstart : ∀ events, pieces (.messageStart inputTokens :: events) = pieces events := fun _ => rfl
    simp [hcount, hstart, hstop]
  · by_cases hheld : r.isFinished ∧ r.usage = none
    · simp [hcount, hheld]
    · have hsent : (r.isFinished && r.usage.isNone) = false := by
        rwa [Bool.eq_false_iff, ne_eq, Bool.and_eq_true, Option.isNone_iff_eq_none]
      simp only [if_neg hcount, if_neg hheld, pieces_append, hstop]
      simp [hsent]

theorem pieces_body (inputTokens : Int) :
    pieces (streamBody handled last inputTokens) = pieces (firstBlocks handled).1 ++ pieces (laterBlocks handled).1 ++
      ((finalChunk handled last).map fun r =>
        pieces (if handled.length = 1 then (convertFirstContent (laterBlocks handled).2 r.delta).1
          else (convertDelta (laterBlocks handled).2 r.delta).1)).getD [] := by
  have hstart : pieces (handled.head?.join.map fun _ => ClaudeEvent.messageStart inputTokens).toList = [] := by
    cases handled.head?.join <;> rfl
  unfold streamBody finalChunk
  rw [pieces_append, pieces_append, pieces_append, hstart]
  congr 1
  cases (closedEarly handled).isSome with
  | true => exact pieces_stop _
  | false =>
    cases last with
    | none => rfl
    | some r =>
      simp only [Bool.false_eq_true, if_false, Option.map_some, Option.getD_some, pieces_last]
      cases hsent : lastSent handled.length r <;> simp [Option.filter_some, hsent]

/-- **The pieces of a clean stream**, with the arguments of each tool call in a block of its own. -/
theorem stream_pieces (inputTokens : Int) (h : cleanStream handled last) :
    ∃ block : Int → Int, Set.InjOn block (argumentKeys (sentDeltas handled last)) ∧
      pieces (streamBody handled last inputTokens) = (sentDeltas handled last).flatMap (deltaPieces block) := by
  obtain ⟨s, hs, hfinal⟩ := (Option.any_eq_true _ _).1 h
  obtain ⟨s₀, hfirst, hlater⟩ := Option.bind_eq_some_iff.1 hs
  have hsent : SentClean id ([], []) s
      ([chunkDelta handled.head?.join] ++ (laterData handled).map chunkDelta)
      ((firstBlocks handled).1 ++ (laterBlocks handled).1, (laterBlocks handled).2) :=
    (clean_first hfirst).trans (convertDeltas · ((laterData handled).map chunkDelta)) fun _ hkeys => clean_deltas hkeys hlater
  rw [pieces_body, ← pieces_append, sentDeltas]
  cases hlast : finalChunk handled last with
  | none =>
    obtain ⟨block, hinj, hpieces⟩ := hsent.pieces
    exact ⟨block, by simpa using hinj, by simpa using hpieces⟩
  | some r =>
    rw [hlast] at hfinal
    by_cases hone : handled.length = 1
    · -- both chunks are converted as first ones, and their arguments go to block 0
      simp only [if_pos hone] at hfinal
      obtain ⟨s', hs'⟩ := Option.isSome_iff_exists.1 hfinal
      have hnone : (laterData handled).map chunkDelta = [] := by
        obtain ⟨chunk, rfl⟩ := length_eq_one_iff.1 hone
        rfl
      have hblocks : (laterBlocks handled).1 = [] := by rw [laterBlocks, hnone]; rfl
      refine ⟨id, Function.injective_id.injOn, ?_⟩
      rw [hnone, hblocks, append_nil, firstBlocks, pieces_first _ hfirst]
      simp [hone, pieces_first _ hs']
    · simp only [if_neg hone] at hfinal
      obtain ⟨s', hs'⟩ := Option.isSome_iff_exists.1 hfinal
      obtain ⟨block, hinj, hpieces⟩ :=
        (hsent.trans (convertDelta · r.delta) fun _ hkeys => clean_delta hkeys hs').pieces
      refine ⟨block, by simpa using hinj, ?_⟩
      simpa [hone] using hpieces

end Stream

/-! ## The whole answer -/

section Whole

variable {block : Int → Int} {d : ChatStreamDelta} {parts : List String}

theorem deltaPieces_nil (h : hasContent d = false) : deltaPieces block d = [] := by
  obtain ⟨⟨hcontent, hreason⟩, hargs⟩ : (d.getContentString = "" ∧ d.getReasoningContent = "") ∧ argumentPieces d.calls = [] := by
    simpa [hasContent] using h
  simp [deltaPieces, hcontent, hreason, hargs]

theorem flatMap_hasContent (deltas : List ChatStreamDelta) :
    deltas.flatMap (deltaPieces block) = (deltas.filter hasContent).flatMap (deltaPieces block) := by
  induction deltas with
  | nil => rfl
  | cons d deltas ih =>
    cases h : hasContent d with
    | true => simp [h, ih]
    | false => simp [h, ih, deltaPieces_nil]

theorem argumentKeys_hasContent (deltas : List ChatStreamDelta) :
    argumentKeys (deltas.filter hasContent) = argumentKeys deltas := by
  ext k
  refine exists_congr fun d => ?_
  rw [mem_filter]
  refine ⟨fun h => ⟨h.1.1, h.2⟩, fun h => ⟨⟨h.1, ?_⟩, h.2⟩⟩
  obtain ⟨a, ha, -⟩ := h.2
  have hne : (argumentPieces d.calls).isEmpty = false := by
    rw [isEmpty_eq_false_iff]
    exact ne_nil_of_mem ha
  simp [hasContent, hne]

theorem join_empty (h : ∀ part ∈ parts, part = "") : String.join parts = "" := by
  induction parts with
  | nil => rfl
  | cons part parts ih =>
    obtain ⟨hpart, hparts⟩ := forall_mem_cons.1 h
    rw [String.join_cons, hpart, ih hparts]
    rfl

theorem exists_of_join (h : String.join parts ≠ "") : ∃ part ∈ parts, part ≠ "" := by
  by_contra hnone
  push Not at hnone
  exact h (join_empty hnone)

theorem join_flatMap {α β : Type*} (f : α → List β) (part : β → String) (l : List α) :
    String.join ((l.flatMap f).map part) = String.join (l.map fun x => String.join ((f x).map part)) := by
  induction l with
  | nil => rfl
  | cons x l ih => rw [flatMap_cons, map_append, String.join_append, ih, map_cons, String.join_cons]

theorem join_part {part : ContentPiece → String} (d : ChatStreamDelta) (hargs : ∀ i text, part (.arguments i text) = "")
    (hthinking : part (.thinking "") = "") (htext : part (.text "") = "") :
    String.join ((deltaPieces block d).map part) =
      part (.thinking d.getReasoningContent) ++ part (.text d.getContentString) := by
  have hnone : String.join (((argumentPieces d.calls).map fun a => arguments (block a.1) a.2).map part) = "" :=
    join_empty (by simp [hargs])
  rw [deltaPieces, append_assoc, map_append, String.join_append, hnone]
  by_cases hreason : d.getReasoningContent = "" <;> by_cases hcontent : d.getContentString = "" <;>
    simp [hreason, hcontent, hthinking, htext]

theorem map_argumentsPart (i : Int) (d : ChatStreamDelta) :
    String.join ((deltaPieces block d).map (argumentsPart i)) =
      String.join ((argumentPieces d.calls).map fun a => if block a.1 = i then a.2 else "") := by
  have htext : String.join (((if d.getReasoningContent = "" then [] else [thinking d.getReasoningContent]) ++
      if d.getContentString = "" then [] else [text d.getContentString]).map
        (argumentsPart i)) = "" := by
    by_cases hreason : d.getReasoningContent = "" <;> by_cases hcontent : d.getContentString = "" <;>
      simp [hreason, hcontent, argumentsPart]
  rw [deltaPieces, append_assoc, map_append, String.join_append, htext, String.append_empty, map_map]
  rfl

theorem join_arguments {keys : Set Int} (hinj : Set.InjOn block keys) {k : Int} (hk : k ∈ keys)
    (hd : ∀ a ∈ argumentPieces d.calls, a.1 ∈ keys) :
    String.join ((deltaPieces block d).map (argumentsPart (block k))) =
      String.join ((toolOffsets d.calls).map fun call => if call.1 = k then call.2.arguments else "") := by
  rw [map_argumentsPart]
  unfold argumentPieces at hd ⊢
  generalize toolOffsets d.calls = calls at hd ⊢
  induction calls with
  | nil => rfl
  | cons call calls ih =>
    by_cases hargs : call.2.arguments = ""
    · rw [filterMap_cons_none (by simp [hargs])] at hd ⊢
      rw [ih hd]
      simp [hargs]
    · rw [filterMap_cons_some (b := (call.1, call.2.arguments)) (by simp [hargs])] at hd ⊢
      obtain ⟨hcall, hcalls⟩ := forall_mem_cons.1 hd
      have hiff : block call.1 = block k ↔ call.1 = k := hinj.eq_iff hcall hk
      simp only [map_cons, String.join_cons, ih hcalls, hiff]

/-- Pieces in which each tool call has its own block are the whole answer. -/
theorem preserved_of_pieces {chunks : List ChatStreamResponse} {events : List ClaudeEvent}
    (hinj : Set.InjOn block (argumentKeys (chunks.map (·.delta))))
    (hpieces : pieces events = (chunks.map (·.delta)).flatMap (deltaPieces block)) : ContentPreserved chunks events := by
  have hparts : ∀ part : ContentPiece → String, String.join ((pieces events).map part) =
      String.join (chunks.map fun r => String.join ((deltaPieces block r.delta).map part)) := by
    intro part
    rw [hpieces, join_flatMap, map_map]
    rfl
  let keys := argumentKeys (chunks.map (·.delta))
  have hblock : ∀ k ∈ keys, blockArguments (block k) events = toolArguments k chunks := by
    intro k hk
    rw [blockArguments, hparts, toolArguments, join_flatMap]
    refine congrArg String.join (map_congr_left fun r hr => join_arguments hinj hk fun a ha => ?_)
    exact ⟨r.delta, mem_map_of_mem hr, a, ha, rfl⟩
  have hkey : ∀ k, toolArguments k chunks ≠ "" → k ∈ keys := by
    intro k hk
    obtain ⟨part, hpart, hne⟩ := exists_of_join hk
    obtain ⟨call, hcall, rfl⟩ := mem_map.1 hpart
    obtain ⟨r, hr, hcall⟩ := mem_flatMap.1 hcall
    by_cases heq : call.1 = k
    · rw [if_pos heq] at hne
      refine ⟨r.delta, mem_map_of_mem hr, (call.1, call.2.arguments), ?_, heq⟩
      exact mem_filterMap.2 ⟨call, hcall, by simp [hne]⟩
    · exact absurd (if_neg heq) hne
  refine ⟨?_, ?_, block, hinj.mono hkey, fun k hk => hblock k (hkey k hk), fun i hi => ?_⟩
  · rw [hparts]
    exact congrArg String.join (map_congr_left fun r _ =>
      (join_part r.delta (fun _ _ => rfl) rfl rfl).trans String.empty_append)
  · rw [hparts]
    exact congrArg String.join (map_congr_left fun r _ =>
      (join_part r.delta (fun _ _ => rfl) rfl rfl).trans String.append_empty)
  · rw [blockArguments, hparts] at hi
    obtain ⟨part, hpart, hne⟩ := exists_of_join hi
    obtain ⟨r, hr, rfl⟩ := mem_map.1 hpart
    rw [map_argumentsPart] at hne
    obtain ⟨part, hpart, hne⟩ := exists_of_join hne
    obtain ⟨a, ha, rfl⟩ := mem_map.1 hpart
    have heq : block a.1 = i := by
      by_contra hother
      exact hne (if_neg hother)
    have hk : a.1 ∈ keys := ⟨r.delta, mem_map_of_mem hr, a, ha, rfl⟩
    refine ⟨a.1, ?_, heq⟩
    rw [← hblock a.1 hk, heq, blockArguments, hparts]
    exact hi

end Whole

/-- **The content of a stream is kept** if the deltas with content are converted once each and are clean: then a Claude
client gets the text, the reasoning, and the arguments of each tool call. -/
theorem content_preserved (site : OaiSite) (relay : OaiRelay) (chunks : List ChatStreamResponse)
    (h : preserving chunks = true) :
    ContentPreserved chunks (streamEvents (claudeFormat relay.estimatePromptTokens) site relay (chunks.map some)) := by
  rw [preserving, Bool.and_eq_true, decide_eq_true_eq] at h
  obtain ⟨hsame, hclean⟩ := h
  obtain ⟨u, hshape⟩ := claude_stream_shape relay.estimatePromptTokens site relay (chunks.map some)
  have hend : ∀ reason, pieces (messageEnd reason u) = [] := by
    intro reason
    cases reason <;> rfl
  rw [getLast?_join] at hshape
  obtain ⟨block, hinj, hpieces⟩ := stream_pieces relay.estimatePromptTokens hclean
  have hkeys : Set.InjOn block (argumentKeys (chunks.map (·.delta))) := by
    rwa [← argumentKeys_hasContent, hsame, argumentKeys_hasContent]
  refine preserved_of_pieces hkeys ?_
  rw [hshape, pieces_append, hend, append_nil, hpieces, flatMap_hasContent, ← hsame, ← flatMap_hasContent]

namespace Sample

/-- The last word comes with the finish reason, and the usage in a chunk of its own. -/
def lateWordStream : List ChatStreamResponse :=
  [roleChunk, textChunk "Hi", ⟨[⟨⟨some "!", none, none, none⟩, some "stop", 0⟩], none, ""⟩, usageChunk]

end Sample

open Sample in
theorem content_preserved_tools :
    preserving toolStream = true ∧ ContentPreserved toolStream
      (streamEvents (claudeFormat 10) oaiSite oaiRelay (toolStream.map some)) :=
  ⟨by decide, content_preserved oaiSite oaiRelay toolStream (by decide)⟩

open Sample in
/-- The last word is lost. -/
theorem late_word_lost :
    ¬ ContentPreserved lateWordStream (streamEvents (claudeFormat 10) oaiSite oaiRelay (lateWordStream.map some)) := by
  intro h
  exact absurd h.text (by decide)

end SynthApi
