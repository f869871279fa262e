import SynthApi.Relay.StreamShape

/-!
# The end of a Claude stream

A Claude client expects each block that was started to be stopped once, and then one `message_delta` and one
`message_stop` (`StreamClosed`). The converter stops the blocks from `low` to `high`, those which it believes to be open, so
what it keeps in order is said with these two bounds (`Tidy`); a tool call with a name and a negative index starts a block
below them, which nothing stops any more (`Stuck`).

`keeps_delta` says what one delta does to this, `keeps_deltas` what all of them do, `keeps_first` what the first chunk does;
`chat_closed_iff` is about the whole stream.
-/

namespace SynthApi

open List ClaudeConvertInfo ClaudeEvent

/-! ## Starts and stops of a block -/

/-- What an event does to the block `i`: `true` for its start, `false` for its stop. -/
def ClaudeEvent.mark (i : Int) : ClaudeEvent → Option Bool
  | .contentBlockStart index _ => if index = i then some true else none
  | .contentBlockStop index => if index = i then some false else none
  | _ => none

def blockMarks (i : Int) (events : List ClaudeEvent) : List Bool := events.filterMap (·.mark i)

/-- A block that was started is stopped once, and not started again. -/
def BlockSettled (marks : List Bool) : Prop := true ∈ marks → ∃ k, marks = replicate k true ++ [false]

/-- The stream is closed: one `content_block_stop` for every block that was started, then one `message_delta` and one
`message_stop`, and nothing after it. -/
def StreamClosed (events : List ClaudeEvent) : Prop :=
  ∃ body reason usage, events = body ++ [.messageDelta reason usage, .messageStop] ∧
    ContentOnly body ∧ ∀ i, BlockSettled (blockMarks i body)

section Marks

variable {i : Int} {events : List ClaudeEvent}

@[simp] theorem blockMarks_nil : blockMarks i [] = [] := rfl

@[simp] theorem blockMarks_append (rest : List ClaudeEvent) :
    blockMarks i (events ++ rest) = blockMarks i events ++ blockMarks i rest :=
  filterMap_append

theorem stop_marks (index : Int) : blockMarks i [.contentBlockStop index] = if index = i then [false] else [] := by
  by_cases heq : index = i <;> simp [blockMarks, mark, heq]

variable {marks : List Bool}

theorem replicate_of_not_mem (h : false ∉ marks) : ∃ k, marks = replicate k true :=
  ⟨marks.length, eq_replicate_iff.2 ⟨rfl, fun b hb => by cases b with
    | true => rfl
    | false => exact absurd hb h⟩⟩

theorem BlockSettled.of_stop (h : false ∉ marks) : BlockSettled (marks ++ [false]) := by
  intro _
  obtain ⟨k, rfl⟩ := replicate_of_not_mem h
  exact ⟨k, rfl⟩

theorem BlockSettled.getLast (h : BlockSettled marks) : marks.getLast? ≠ some true := by
  intro hlast
  obtain ⟨k, rfl⟩ := h (mem_of_getLast? hlast)
  simp at hlast

theorem restarted_not_settled : ¬ BlockSettled (true :: false :: true :: marks) := by
  intro h
  obtain ⟨k, hk⟩ := h (by simp)
  rcases k with _ | _ | k <;> simp [replicate_succ] at hk

end Marks

/-! ## The open blocks -/

namespace ClaudeConvertInfo

variable (info : ClaudeConvertInfo)

/-- The first block that is open. -/
def low : Int :=
  match info.lastMessagesType with
  | .tools => info.toolCallBaseIndex
  | _ => info.index

/-- The block after the last one that is open. -/
def high : Int :=
  match info.lastMessagesType with
  | .none => info.index
  | .tools => info.toolCallBaseIndex + info.toolCallMaxIndexOffset + 1
  | _ => info.index + 1

end ClaudeConvertInfo

/-- The blocks below `lo` are settled, the others were not stopped, and none from `hi` on was started. -/
structure Tidy (lo hi : Int) (events : List ClaudeEvent) : Prop where
  le : lo ≤ hi
  settled : ∀ i, i < lo → BlockSettled (blockMarks i events)
  running : ∀ i, lo ≤ i → false ∉ blockMarks i events
  within : ∀ i, lo ≤ i → true ∈ blockMarks i events → i < hi

/-- A block below `lo` was started last. -/
structure Stuck (lo hi : Int) (events : List ClaudeEvent) : Prop where
  le : lo ≤ hi
  last : ∃ i, i < lo ∧ (blockMarks i events).getLast? = some true

def Kept (bad : Bool) (lo hi : Int) (events : List ClaudeEvent) : Prop :=
  if bad then Stuck lo hi events else Tidy lo hi events

section Kept

variable {bad : Bool} {lo hi : Int} {events rest : List ClaudeEvent}

variable (h : Kept bad lo hi events)

include h

theorem Kept.le : lo ≤ hi := by
  cases bad with
  | true => exact Stuck.le h
  | false => exact Tidy.le h

/-- Events that neither start nor stop a block. -/
theorem Kept.plain (hrest : ∀ i, blockMarks i rest = []) : Kept bad lo hi (events ++ rest) := by
  cases bad with
  | true =>
    obtain ⟨hle, i, hi, hlast⟩ : Stuck lo hi events := h
    exact ⟨hle, i, hi, by rw [blockMarks_append, hrest, append_nil]; exact hlast⟩
  | false =>
    obtain ⟨hle, hsettled, hrunning, hwithin⟩ : Tidy lo hi events := h
    refine ⟨hle, fun i => ?_, fun i => ?_, fun i => ?_⟩
    all_goals rw [blockMarks_append, hrest, append_nil]
    · exact hsettled i
    · exact hrunning i
    · exact hwithin i

theorem Kept.stop
    (hrest : ∀ i, blockMarks i rest = if lo ≤ i ∧ i < hi then [false] else []) : Kept bad hi hi (events ++ rest) := by
  have hbelow : ∀ i, i < lo → blockMarks i rest = [] := fun i hi => by rw [hrest, if_neg (by omega)]
  cases bad with
  | true =>
    obtain ⟨hle, i, hlo, hlast⟩ : Stuck lo hi events := h
    refine ⟨le_rfl, i, by omega, ?_⟩
    rw [blockMarks_append, hbelow i hlo, append_nil]
    exact hlast
  | false =>
    obtain ⟨hle, hsettled, hrunning, hwithin⟩ : Tidy lo hi events := h
    have habove : ∀ i, hi ≤ i → blockMarks i events = [] := by
      intro i hi'
      refine eq_nil_iff_forall_not_mem.2 fun b hb => ?_
      cases b with
      | true => exact absurd (hwithin i (by omega) hb) (by omega)
      | false => exact hrunning i (by omega) hb
    refine ⟨le_rfl, fun i hi' => ?_, fun i hi' => ?_, fun i hi' => ?_⟩
    · rw [blockMarks_append]
      by_cases hlo : i < lo
      · rw [hbelow i hlo, append_nil]
        exact hsettled i hlo
      · rw [hrest, if_pos (by omega)]
        exact .of_stop (hrunning i (by omega))
    all_goals
      rw [blockMarks_append, habove i hi', hrest, if_neg (by omega)]
      simp

/-- A block is started: it is bad if it is not one of the open ones. -/
theorem Kept.start (index : Int) (block : ClaudeBlock) (hi' : Int) (hhi : hi ≤ hi') (hindex : index < hi') :
    Kept (bad || decide (index < lo)) lo hi' (events ++ [.contentBlockStart index block]) := by
  have hmarks : ∀ i, blockMarks i [.contentBlockStart index block] = if index = i then [true] else [] := by
    intro i
    by_cases heq : index = i <;> simp [blockMarks, mark, heq]
  have hle := h.le
  cases bad with
  | true =>
    obtain ⟨-, i, hlo, hlast⟩ : Stuck lo hi events := h
    refine ⟨by omega, i, hlo, ?_⟩
    rw [blockMarks_append, hmarks]
    split
    · simp
    · rw [append_nil]
      exact hlast
  | false =>
    obtain ⟨-, hsettled, hrunning, hwithin⟩ : Tidy lo hi events := h
    by_cases hlow : index < lo
    · rw [decide_eq_true hlow]
      refine ⟨by omega, index, hlow, ?_⟩
      rw [blockMarks_append, hmarks]
      simp
    · rw [decide_eq_false hlow]
      refine ⟨by omega, fun i hi => ?_, fun i hi => ?_, fun i hi => ?_⟩
      · rw [blockMarks_append, hmarks, if_neg (by omega), append_nil]
        exact hsettled i hi
      · rw [blockMarks_append, hmarks]
        split <;> simpa using hrunning i hi
      · rw [blockMarks_append, hmarks]
        intro hmem
        split at hmem
        · omega
        · exact (hwithin i hi (by simpa using hmem)).trans_le hhi

theorem Kept.widen {hi' : Int} (hhi : hi ≤ hi') : Kept bad lo hi' events := by
  cases bad with
  | true =>
    obtain ⟨hle, hlast⟩ : Stuck lo hi events := h
    exact ⟨hle.trans hhi, hlast⟩
  | false =>
    obtain ⟨hle, hsettled, hrunning, hwithin⟩ : Tidy lo hi events := h
    exact ⟨hle.trans hhi, hsettled, hrunning, fun i hi hmem => (hwithin i hi hmem).trans_le hhi⟩

/-- Once the open blocks are stopped, all blocks are settled unless something was bad. -/
theorem Kept.settled_iff
    (hrest : ∀ i, blockMarks i rest = if lo ≤ i ∧ i < hi then [false] else []) :
    (∀ i, BlockSettled (blockMarks i (events ++ rest))) ↔ bad = false := by
  have hstop := h.stop hrest
  cases bad with
  | true =>
    obtain ⟨-, i, -, hlast⟩ : Stuck hi hi (events ++ rest) := hstop
    exact ⟨fun hsettled => absurd hlast (hsettled i).getLast, nofun⟩
  | false =>
    obtain ⟨-, hsettled, hrunning, hwithin⟩ : Tidy hi hi (events ++ rest) := hstop
    refine ⟨fun _ => rfl, fun _ i => ?_⟩
    by_cases hi' : i < hi
    · exact hsettled i hi'
    · exact fun hmem => absurd (hwithin i (by omega) hmem) hi'

end Kept

/-! ## The converter -/

theorem mark_range (base : Int) (i : Int) (n : Nat) :
    blockMarks i ((range n).map fun offset : Nat => contentBlockStop (base + offset)) =
      if base ≤ i ∧ i < base + n then [false] else [] := by
  induction n with
  | zero => simp [blockMarks]
  | succ n ih =>
    rw [range_succ, map_append, blockMarks_append, ih]
    rw [map_singleton, stop_marks]
    by_cases heq : base + n = i
    · rw [if_pos heq, if_neg (by omega), if_pos (by omega)]
      rfl
    · rw [if_neg heq, append_nil]
      by_cases hin : base ≤ i ∧ i < base + n
      · rw [if_pos hin, if_pos (by omega)]
      · rw [if_neg hin, if_neg (by omega)]

section Converter

variable {info : ClaudeConvertInfo} {bad : Bool} {events : List ClaudeEvent}

/-- The state keeps the blocks of the events. -/
abbrev ClaudeConvertInfo.Keeps (info : ClaudeConvertInfo) (bad : Bool) (events : List ClaudeEvent) : Prop :=
  Kept bad info.low info.high events

theorem stopOpenBlocks_marks (hle : info.low ≤ info.high) (i : Int) :
    blockMarks i (stopOpenBlocks info) = if info.low ≤ i ∧ i < info.high then [false] else [] := by
  unfold stopOpenBlocks low high at *
  cases htype : info.lastMessagesType with
  | none =>
    simp only [blockMarks_nil]
    rw [if_neg (by omega)]
  | tools =>
    simp only [htype] at hle ⊢
    rw [mark_range]
    have hnat : ((info.toolCallMaxIndexOffset + 1).toNat : Int) = info.toolCallMaxIndexOffset + 1 := by omega
    rw [hnat]
    simp only [← Int.add_assoc]
  | _ =>
    simp only [stop_marks]
    by_cases heq : info.index = i
    · rw [if_pos heq, if_pos (by omega)]
    · rw [if_neg heq, if_neg (by omega)]

@[simp] theorem advanceIndex_low : (advanceIndex info).low = info.high := by
  unfold advanceIndex low high
  cases htype : info.lastMessagesType <;> simp [htype]

@[simp] theorem advanceIndex_high : (advanceIndex info).high = info.high := by
  unfold advanceIndex high
  cases htype : info.lastMessagesType <;> simp [htype]

@[simp] theorem advanceIndex_index : (advanceIndex info).index = info.high := by
  unfold advanceIndex high
  cases htype : info.lastMessagesType <;> simp

theorem keeps_stop (h : info.Keeps bad events) : (advanceIndex info).Keeps bad (events ++ stopOpenBlocks info) := by
  have hstop := h.stop (stopOpenBlocks_marks h.le)
  rwa [Keeps, advanceIndex_low, advanceIndex_high]

@[simp] theorem withText_low (kind : TextKind) :
    low { info with lastMessagesType := kind.messagesType } = info.index := by
  cases kind <;> rfl

@[simp] theorem withText_high (kind : TextKind) :
    high { info with lastMessagesType := kind.messagesType } = info.index + 1 := by
  cases kind <;> rfl

/-- A text starts no block but the one after the open blocks. -/
theorem keeps_text (h : info.Keeps bad events) (always : Bool) (content : TextKind × String) :
    (convertText info always content).2.Keeps bad (events ++ (convertText info always content).1) := by
  obtain ⟨kind, text⟩ := content
  have hdelta : ∀ (index i : Int), blockMarks i [.contentBlockDelta index (kind.delta text)] = [] := fun _ _ => rfl
  unfold convertText openTextBlock Keeps
  by_cases htype : info.lastMessagesType = kind.messagesType
  · have hself : { info with lastMessagesType := kind.messagesType } = info := by rw [← htype]
    have hlow : info.low = info.index := by rw [← hself, withText_low]
    have hhigh : info.high = info.index + 1 := by rw [← hself, withText_high]
    simp only [if_pos htype, withText_low, withText_high]
    rw [Keeps, hlow, hhigh] at h
    cases always with
    | true =>
      have hstart := h.start info.index kind.block (info.index + 1) le_rfl (by omega)
      simp only [lt_irrefl, decide_false, Bool.or_false] at hstart
      rw [← append_assoc]
      exact hstart.plain (hdelta info.index)
    | false => exact h.plain (hdelta info.index)
  · simp only [if_neg htype, withText_low, withText_high]
    have hstop := keeps_stop h
    rw [Keeps, advanceIndex_low, advanceIndex_high] at hstop
    have hstart := hstop.start info.high kind.block (info.high + 1) (by omega) (by omega)
    simp only [lt_irrefl, decide_false, Bool.or_false] at hstart
    rw [advanceIndex_index, ← append_assoc, ← append_assoc]
    exact hstart.plain (hdelta info.high)

theorem keeps_textContent (h : info.Keeps bad events) (always : Bool) (d : ChatStreamDelta) :
    (convertTextContent info always d).2.Keeps bad (events ++ (convertTextContent info always d).1) := by
  unfold convertTextContent
  cases d.textContent with
  | none => simpa using h
  | some content => exact keeps_text h always content

/-- A tool call with a name and a negative offset starts a block below the open ones. -/
def negativeTool (call : Int × ToolCallResponse) : Bool := decide (call.1 < 0 ∧ call.2.name ≠ "")

theorem toolCallEvents_start (index : Int) (call : ToolCallResponse) :
    ∃ rest, (∀ i, blockMarks i rest = []) ∧ toolCallEvents false index call =
      (if call.name ≠ "" then [.contentBlockStart index (.toolUse call.id call.name)] else []) ++ rest := by
  refine ⟨if call.arguments ≠ "" then [.contentBlockDelta index (.inputJson call.arguments)] else [], fun i => ?_, ?_⟩
  · split <;> rfl
  · simp [toolCallEvents]

/-- The tool calls of a chunk, from the first open block `base` on. -/
theorem keeps_calls {base m : Int} (h : Kept bad base (base + m + 1) events) (calls : List (Int × ToolCallResponse)) :
    Kept (bad || calls.any negativeTool) base (base + calls.foldl (fun m call => max m call.1) m + 1)
      (events ++ calls.flatMap fun call => toolCallEvents false (base + call.1) call.2) := by
  induction calls generalizing bad m events with
  | nil => simpa using h
  | cons call calls ih =>
    obtain ⟨rest, hrest, hevents⟩ := toolCallEvents_start (base + call.1) call.2
    have hcall : Kept (bad || negativeTool call) base (base + max m call.1 + 1)
        (events ++ toolCallEvents false (base + call.1) call.2) := by
      rw [hevents, ← append_assoc]
      refine Kept.plain ?_ hrest
      by_cases hname : call.2.name = ""
      · have hgood : negativeTool call = false := by simp [negativeTool, hname]
        rw [hgood, Bool.or_false, if_neg (not_not.2 hname), append_nil]
        exact h.widen (by omega)
      · have hstart := h.start (base + call.1) (.toolUse call.2.id call.2.name) (base + max m call.1 + 1) (by omega)
          (by omega)
        have hneg : decide (base + call.1 < base) = negativeTool call := by
          simp [negativeTool, hname]
        rwa [hneg, ← if_pos hname (t := [_])] at hstart
    have hcalls := ih hcall
    rw [any_cons, ← Bool.or_assoc, flatMap_cons, ← append_assoc]
    exact hcalls

def negativeDelta (d : ChatStreamDelta) : Bool := (toolOffsets d.calls).any negativeTool

variable (h : info.Keeps bad events)

include h

theorem keeps_tools (calls : List ToolCallResponse) :
    (convertTools info calls).2.Keeps (bad || (toolOffsets calls).any negativeTool)
      (events ++ (convertTools info calls).1) := by
  unfold convertTools openTools
  by_cases htype : info.lastMessagesType = .tools
  · have hlow : info.low = info.toolCallBaseIndex := by simp [low, htype]
    have hhigh : info.high = info.toolCallBaseIndex + info.toolCallMaxIndexOffset + 1 := by
      simp [high, htype]
    rw [Keeps, hlow, hhigh] at h
    have hcalls := keeps_calls h (toolOffsets calls)
    simpa [Keeps, low, high, htype] using hcalls
  · have hstop := keeps_stop h
    rw [Keeps, advanceIndex_low, advanceIndex_high] at hstop
    have hopen : Kept bad info.high (info.high + 0 + 1) (events ++ stopOpenBlocks info) := hstop.widen (by omega)
    have hcalls := keeps_calls hopen (toolOffsets calls)
    simpa [Keeps, low, high, htype] using hcalls

theorem keeps_delta (d : ChatStreamDelta) :
    (convertDelta info d).2.Keeps (bad || negativeDelta d) (events ++ (convertDelta info d).1) := by
  unfold convertDelta negativeDelta
  cases d.calls with
  | nil => simpa [toolOffsets] using keeps_textContent h false d
  | cons call calls => exact keeps_tools h (call :: calls)

theorem keeps_deltas (deltas : List ChatStreamDelta) :
    (convertDeltas info deltas).2.Keeps (bad || deltas.any negativeDelta) (events ++ (convertDeltas info deltas).1) := by
  induction deltas generalizing info bad events with
  | nil => simpa [convertDeltas] using h
  | cons d deltas ih =>
    have hlater := ih (keeps_delta h d)
    rwa [append_assoc, Bool.or_assoc] at hlater

theorem keeps_first (d : ChatStreamDelta) (hcalls : d.calls ≠ [] → Kept bad 0 1 events) :
    (convertFirstContent info d).2.Keeps bad (events ++ (convertFirstContent info d).1) := by
  have htool : (convertFirstTool info d).2.Keeps bad (events ++ (convertFirstTool info d).1) := by
    unfold convertFirstTool
    cases hd : d.calls with
    | nil => simpa using h
    | cons call calls =>
      have hstart := (hcalls (by simp [hd])).start 0 (.toolUse call.id call.name) 1 le_rfl (by omega)
      have hdelta : ∀ i, blockMarks i
          (if call.arguments ≠ "" then [.contentBlockDelta 0 (.inputJson call.arguments)] else []) = [] := by
        intro i
        split <;> rfl
      simpa [toolCallEvents, Keeps, low, high] using
        hstart.plain hdelta
  have htext := keeps_textContent htool true d
  rwa [append_assoc] at htext

end Converter

/-! ## The first chunk, and the last one after it -/

/-- One of the blocks that a chunk starts is below the open ones. -/
def negativeChunk (chunk : Option ChatStreamResponse) : Bool := negativeDelta (chunkDelta chunk)

/-- There is a tool call, and reasoning or text as well. -/
def mixedDelta (d : ChatStreamDelta) : Bool := !d.calls.isEmpty && d.textContent.isSome

def mixedChunk (chunk : Option ChatStreamResponse) : Bool := mixedDelta (chunkDelta chunk)

section First

variable {events : List ClaudeEvent} {d : ChatStreamDelta}

/-- The first chunk, after events that have nothing to do with blocks. -/
theorem initial_keeps (hevents : ∀ i, blockMarks i events = []) (d : ChatStreamDelta) :
    (convertFirstContent .initial d).2.Keeps false (events ++ (convertFirstContent .initial d).1) := by
  have hkept : Kept false 0 0 events := by
    refine ⟨le_rfl, fun i _ => ?_, fun i _ => ?_, fun i _ => ?_⟩
    all_goals simp [hevents, BlockSettled]
  exact keeps_first hkept d fun _ => hkept.widen (by omega)

/-- A first chunk with a tool call or a text, but not both, leaves block 0 at most. -/
theorem initial_zero (hevents : ∀ i, blockMarks i events = []) (hmixed : mixedDelta d = false) :
    Kept false 0 1 (events ++ (convertFirstContent .initial d).1) := by
  have hkeeps := initial_keeps hevents d
  have hbounds : (convertFirstContent .initial d).2.low = 0 ∧ (convertFirstContent .initial d).2.high ≤ 1 := by
    unfold mixedDelta at hmixed
    unfold convertFirstContent convertFirstTool convertTextContent
    cases hcalls : d.calls with
    | nil =>
      cases d.textContent with
      | none => exact ⟨rfl, show (0 : Int) ≤ 1 by decide⟩
      | some content =>
        obtain ⟨kind, text⟩ := content
        cases kind <;> exact ⟨rfl, le_of_eq rfl⟩
    | cons call calls =>
      cases htext : d.textContent with
      | none => exact ⟨rfl, le_of_eq rfl⟩
      | some content => simp [hcalls, htext] at hmixed
  rw [Keeps, hbounds.1] at hkeeps
  exact hkeeps.widen hbounds.2

theorem firstTool_marks (call : ToolCallResponse) : blockMarks 0 (toolCallEvents true 0 call) = [true] := by
  by_cases hargs : call.arguments = "" <;> simp [toolCallEvents, blockMarks, mark]

theorem initial_mixed (hmixed : mixedDelta d) :
    blockMarks 0 (convertFirstContent .initial d).1 = [true, false] := by
  obtain ⟨hcalls, htext⟩ : d.calls ≠ [] ∧ d.textContent.isSome := by simpa [mixedDelta] using hmixed
  obtain ⟨call, calls, hcalls⟩ := exists_cons_of_ne_nil hcalls
  obtain ⟨content, htext⟩ := Option.isSome_iff_exists.1 htext
  -- the tool call opens block 0, which the text stops
  let opened : ClaudeConvertInfo :=
    { initial with lastMessagesType := .tools, toolCallBaseIndex := 0, toolCallMaxIndexOffset := 0 }
  have htype : opened.lastMessagesType ≠ content.1.messagesType := by
    cases content.1 <;> exact nofun
  have htool : convertFirstTool .initial d = (toolCallEvents true 0 call, opened) := by
    rw [convertFirstTool, hcalls]
  have hstop : blockMarks 0 (stopOpenBlocks opened) = [false] := rfl
  rw [convertFirstContent, htool, convertTextContent, htext]
  simp only [blockMarks_append, firstTool_marks, convertText, openTextBlock, if_neg htype, hstop]
  rfl

theorem again_settled_iff (hevents : ∀ i, blockMarks i events = []) (d : ChatStreamDelta) (inputTokens : Int)
    (last : ChatStreamDelta) :
    let first := convertFirstContent .initial d
    let again := convertFirstContent first.2 last
    (∀ i, BlockSettled (blockMarks i (events ++ first.1 ++ .messageStart inputTokens :: (again.1 ++ stopOpenBlocks again.2)))) ↔
      (mixedDelta d && !last.calls.isEmpty) = false := by
  intro first again
  have hkeeps := initial_keeps hevents d
  have hzero := initial_zero (d := d) hevents
  have hmixed := initial_mixed (d := d)
  have hstart : ∀ i, blockMarks i [.messageStart inputTokens] = [] := fun _ => rfl
  have hsplit : events ++ first.1 ++ .messageStart inputTokens :: (again.1 ++ stopOpenBlocks again.2) =
      events ++ first.1 ++ [.messageStart inputTokens] ++ again.1 ++ stopOpenBlocks again.2 := by simp
  rw [hsplit]
  by_cases hagain : mixedDelta d ∧ last.calls ≠ []
  · obtain ⟨call, calls, hcalls⟩ := exists_cons_of_ne_nil hagain.2
    have hbad : (mixedDelta d && !last.calls.isEmpty) := by simp [hagain.1, hcalls]
    rw [hbad]
    refine iff_of_false (fun hsettled => ?_) nofun
    -- block 0 is started a second time
    obtain ⟨rest, hrest⟩ : ∃ rest, blockMarks 0 again.1 = true :: rest := by
      simp only [again, convertFirstContent, convertFirstTool, hcalls, blockMarks_append]
      exact ⟨_, rfl⟩
    have hmarks := hsettled 0
    rw [blockMarks_append, blockMarks_append, blockMarks_append, blockMarks_append, hevents, hmixed hagain.1, hrest] at hmarks
    exact restarted_not_settled hmarks
  · have hgood : (mixedDelta d && !last.calls.isEmpty) = false := by simpa using hagain
    have hcontent := keeps_first (hkeeps.plain hstart) last fun hcalls =>
      (hzero (by simpa [hcalls] using hagain)).plain hstart
    rw [hgood]
    exact hcontent.settled_iff (stopOpenBlocks_marks hcontent.le)

end First

/-! ## When the stream is closed -/

theorem not_closed {events : List ClaudeEvent} (h : ContentOnly events) : ¬ StreamClosed events := by
  rintro ⟨body, reason, usage, rfl, -⟩
  exact absurd (h .messageStop (by simp)) (by decide)

theorem closed_iff {body : List ClaudeEvent} (hbody : ContentOnly body) (reason : Option String) (usage : ClaudeUsage) :
    StreamClosed (body ++ messageEnd reason usage) ↔ reason.isSome ∧ ∀ i, BlockSettled (blockMarks i body) := by
  cases reason with
  | none =>
    rw [messageEnd, append_nil]
    exact iff_of_false (not_closed hbody) fun h => Bool.false_ne_true h.1
  | some reason =>
    constructor
    · rintro ⟨body', reason', usage', heq, -, hsettled⟩
      obtain ⟨rfl, -⟩ := append_inj' heq rfl
      exact ⟨rfl, hsettled⟩
    · exact fun h => ⟨body, reason, usage, rfl, hbody, h.2⟩

/-- The condition under which a stream is closed whose last chunk `r` finishes choice 0 or only has the usage; `handled`
are the data that are converted at once. -/
def ClosesStream (handled : List (Option ChatStreamResponse)) (r : ChatStreamResponse) : Prop :=
  match earlyClose (firstUsage handled) handled.tail with
  | some before => before.any negativeChunk = false
  | none =>
    handled.tail.any negativeChunk = false ∧
      if handled.length = 1 then r.isFinished = true ∧ ¬ (handled.any mixedChunk = true ∧ r.delta.calls ≠ [])
      else r.usage.isSome = true ∧ negativeDelta r.delta = false

section ClosedStream

variable (site : OaiSite) (relay : OaiRelay) {handled stream : List (Option ChatStreamResponse)} {r : ChatStreamResponse}

theorem finalReason_isSome {count : Nat} (hcount : count ≠ 1)
    (hr : r.isFinished ∨ r.choices = [] ∧ r.usage.isSome) :
    (finalReason count r).isSome = r.usage.isSome := by
  rw [finalReason, if_neg hcount]
  by_cases hchoices : r.choices = []
  · have husage : r.usage.isSome := by
      rcases hr with hr | hr
      · simp [ChatStreamResponse.isFinished, ChatStreamResponse.finished, hchoices] at hr
      · exact hr.2
    rw [if_pos hchoices, husage]
    rfl
  · have hfinished : r.finished.isSome := hr.resolve_right fun h => hchoices h.1
    rw [if_neg hchoices]
    cases r.usage with
    | none => rfl
    | some u => simpa using hfinished

theorem start_marks (inputTokens i : Int) (chunk : Option ChatStreamResponse) :
    blockMarks i (chunk.map fun _ => messageStart inputTokens).toList = [] := by
  cases chunk <;> rfl

/-- The blocks of the chunks that are converted at once. -/
theorem handled_keeps (inputTokens : Int) (handled : List (Option ChatStreamResponse)) :
    (laterBlocks handled).2.Keeps ((laterData handled).any negativeChunk)
      ((handled.head?.join.map fun _ => messageStart inputTokens).toList ++ (firstBlocks handled).1 ++
        (laterBlocks handled).1) := by
  have hkeeps := keeps_deltas (initial_keeps (start_marks inputTokens · handled.head?.join) (chunkDelta handled.head?.join))
    ((laterData handled).map chunkDelta)
  rw [any_map] at hkeeps
  exact hkeeps

theorem last_settled_iff (inputTokens : Int) (hopen : closedEarly handled = none)
    (hr : r.isFinished ∨ r.choices = [] ∧ r.usage.isSome) :
    ((finalReason handled.length r).isSome ∧
        ∀ i, BlockSettled (blockMarks i (streamBody handled (some r) inputTokens))) ↔
      handled.tail.any negativeChunk = false ∧
        if handled.length = 1 then r.isFinished ∧ ¬ (handled.any mixedChunk ∧ r.delta.calls ≠ [])
        else r.usage.isSome ∧ negativeDelta r.delta = false := by
  have hkeeps := handled_keeps inputTokens handled
  rw [laterData, hopen] at hkeeps
  by_cases hone : handled.length = 1
  · obtain ⟨chunk, rfl⟩ := length_eq_one_iff.1 hone
    have hreason : (finalReason [chunk].length r).isSome = r.isFinished := by
      rw [finalReason, if_pos hone, Option.isSome_map]
      rfl
    rw [hreason]
    cases hfinished : r.isFinished with
    | false => simp
    | true =>
      let first := convertFirstContent .initial (chunkDelta chunk)
      let again := convertFirstContent first.2 r.delta
      have hbody : streamBody [chunk] (some r) inputTokens = (chunk.map fun _ => messageStart inputTokens).toList ++
          first.1 ++ .messageStart inputTokens :: (again.1 ++ stopOpenBlocks again.2) := by
        simp only [streamBody, hopen, laterBlocks, laterData, firstBlocks]
        simp [first, again, convertDeltas, lastBlocks, hfinished]
      rw [hbody]
      have hsettled := again_settled_iff (start_marks inputTokens · chunk) (chunkDelta chunk) inputTokens r.delta
      exact (and_congr_right fun _ => hsettled).trans (by simp [mixedChunk])
  · have hsome := finalReason_isSome hone hr
    rw [hsome, if_neg hone]
    cases husage : r.usage with
    | none => simp
    | some u =>
      have hbody : streamBody handled (some r) inputTokens =
          (handled.head?.join.map fun _ => messageStart inputTokens).toList ++ (firstBlocks handled).1 ++
            (laterBlocks handled).1 ++ (convertDelta (laterBlocks handled).2 r.delta).1 ++
            stopOpenBlocks (convertDelta (laterBlocks handled).2 r.delta).2 := by
        simp [streamBody, hopen, lastBlocks, hone, husage, hsome]
      have hdelta := keeps_delta hkeeps r.delta
      rw [hbody, hdelta.settled_iff (stopOpenBlocks_marks hdelta.le)]
      simp

/-- **A chat stream is closed if and only if `ClosesStream` holds.** -/
theorem chat_closed_iff (hlast : stream.getLast? = some (some r))
    (hr : r.isFinished ∨ r.choices = [] ∧ r.usage.isSome) :
    StreamClosed (streamEvents (claudeFormat relay.estimatePromptTokens) site relay stream) ↔
      ClosesStream (stream.filter forwarded) r := by
  obtain ⟨u, hshape⟩ := claude_stream_shape relay.estimatePromptTokens site relay stream
  rw [hshape, hlast, Option.join_some, closed_iff (streamBody_content _ _ _)]
  generalize stream.filter forwarded = handled
  generalize relay.estimatePromptTokens = inputTokens
  rw [ClosesStream, ← closedEarly]
  have hkeeps := handled_keeps inputTokens handled
  obtain hopen | ⟨before, hclosed⟩ := Option.eq_none_or_eq_some (closedEarly handled)
  · have hreason : streamReason handled (some r) = finalReason handled.length r := by simp [streamReason, hopen]
    rw [hreason, hopen]
    exact last_settled_iff inputTokens hopen hr
  · rw [laterData, hclosed] at hkeeps
    have hsettled := hkeeps.settled_iff (stopOpenBlocks_marks hkeeps.le)
    simp only [streamReason, streamBody, hclosed, Option.isSome_some, if_true, true_and]
    exact hsettled

end ClosedStream

end SynthApi
