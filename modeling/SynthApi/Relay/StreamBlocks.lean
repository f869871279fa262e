import SynthApi.Lib.Monitor
import SynthApi.Relay.ResponsesToChat

/-!
# The blocks of a Claude stream

A Claude client expects a `message_start` first, each index to be started once at most, and every delta and every stop to
be about a block that is open, a delta about one of its type (`Disciplined`, with the machine `blockStep`).

The converter gives the tool call with offset `k` the block `base + k`, where `base` is where the run of tool calls began.
A text in between ends the run, and the next one has another base. Whether the client is content can be told from the
deltas: `BlockPhase` is what the converter is in the middle of, and `phaseDelta` says which deltas it may get then. The two
machines agree on every delta (`watch_delta`), so they agree on the stream (`disciplined_iff`).
-/

namespace SynthApi

open Lib Function List

/-! ## The client -/

inductive BlockType where
  | thinking
  | text
  | toolUse
  deriving DecidableEq, Repr

def ClaudeBlock.blockType : ClaudeBlock → BlockType
  | .thinking => .thinking
  | .text => .text
  | .toolUse _ _ => .toolUse

def ClaudeDelta.blockType : ClaudeDelta → BlockType
  | .thinking _ => .thinking
  | .text _ => .text
  | .inputJson _ => .toolUse

inductive BlockStatus where
  | unused
  | opened (type : BlockType)
  | stopped
  deriving DecidableEq, Repr

open BlockStatus

def BlockStatus.isOpened : BlockStatus → Bool
  | .opened _ => true
  | _ => false

/-- What a client knows of the blocks. -/
abbrev BlockView := Int → BlockStatus

/-- An event is rejected if it starts an index again, or is about a block that is not open or of another type. -/
def blockStep (view : BlockView) : ClaudeEvent → Option BlockView
  | .contentBlockStart i block =>
    if view i = .unused then some (update view i (.opened block.blockType)) else none
  | .contentBlockDelta i delta => if view i = .opened delta.blockType then some view else none
  | .contentBlockStop i => if (view i).isOpened then some (update view i .stopped) else none
  | _ => some view

def ClaudeEvent.startsMessage : ClaudeEvent → Bool
  | .messageStart _ => true
  | _ => false

/-- The events begin with `message_start`, and none of them is rejected. -/
def Disciplined (events : List ClaudeEvent) : Prop :=
  events.head?.any ClaudeEvent.startsMessage = true ∧ (watch blockStep (fun _ => .unused) events).isSome = true

/-! ## What the deltas tell -/

/-- What the converter is in the middle of: nothing so far, a text, or a run of tool calls, `named` being the offsets of the
calls with a name and `top` the largest offset of all, at least 0. -/
inductive BlockPhase where
  | idle
  | text (kind : TextKind)
  | tools (named : List Int) (top : Int)
  deriving DecidableEq, Repr

namespace BlockPhase

/-- All offsets up to the largest have a name, so that all blocks which are going to be stopped were started. -/
def closable : BlockPhase → Bool
  | .tools named top => (range (top + 1).toNat).all fun offset => decide ((offset : Int) ∈ named)
  | _ => true

/-- The run of tool calls that the next one belongs to. -/
def toolRun : BlockPhase → List Int × Int
  | .tools named top => (named, top)
  | _ => ([], 0)

end BlockPhase

/-- The first chunk always starts a block (`always`), so it must not be of the kind that is open. -/
def phaseText (always : Bool) (p : BlockPhase) (kind : TextKind) : Option BlockPhase :=
  if p = .text kind then if always then none else some p
  else if p.closable then some (.text kind) else none

def phaseTextContent (always : Bool) (p : BlockPhase) (d : ChatStreamDelta) : Option BlockPhase :=
  match d.textContent with
  | none => some p
  | some content => phaseText always p content.1

/-- A name must be new to the run, and arguments must belong to a call that has a name. -/
def phaseCall (run : List Int × Int) (call : Int × ToolCallResponse) : Option (List Int × Int) :=
  if call.2.name ≠ "" then
    if call.1 ∈ run.1 then none else some (call.1 :: run.1, max run.2 call.1)
  else if call.2.arguments ≠ "" ∧ call.1 ∉ run.1 then none
  else some (run.1, max run.2 call.1)

def phaseDelta (p : BlockPhase) (d : ChatStreamDelta) : Option BlockPhase :=
  match d.calls with
  | [] => phaseTextContent false p d
  | call :: calls => (watch phaseCall p.toolRun (toolOffsets (call :: calls))).map fun run => .tools run.1 run.2

/-- The first chunk puts its first tool call into block 0, and drops the others. -/
def phaseFirst (p : BlockPhase) (d : ChatStreamDelta) : Option BlockPhase :=
  if d.calls = [] then phaseTextContent true p d
  else if p = .idle then phaseTextContent true (.tools [0] 0) d
  else none

/-- The last chunk, after `count` others. -/
def phaseLast (count : Nat) (p : BlockPhase) (r : ChatStreamResponse) : Bool :=
  if count = 1 then (phaseFirst p r.delta).any fun q => !r.isFinished || q.closable
  else if r.isFinished ∧ r.usage = none then true
  else (phaseDelta p r.delta).any fun q => !(finalReason count r).isSome || q.closable

/-- **The streams whose blocks are in order**; `handled` are the chunks that are converted at once. -/
def orderly (handled : List (Option ChatStreamResponse)) (last : Option ChatStreamResponse) : Bool :=
  !handled.isEmpty &&
    ((phaseFirst .idle (chunkDelta handled.head?.join)).bind
      (watch phaseDelta · ((laterData handled).map chunkDelta))).any fun p =>
        if (closedEarly handled).isSome then p.closable else last.all (phaseLast handled.length p)

/-! ## The machines agree -/

/-- The blocks of a run of tool calls: those with a name are open, and nothing was started beyond. -/
structure ToolView (view : BlockView) (base : Int) (run : List Int × Int) : Prop where
  top : 0 ≤ run.2
  within : ∀ offset ∈ run.1, offset ≤ run.2
  status : ∀ offset, 0 ≤ offset → view (base + offset) = if offset ∈ run.1 then .opened .toolUse else .unused

/-- The client's view, the converter's state and the phase fit together. -/
def Fits (info : ClaudeConvertInfo) (view : BlockView) : BlockPhase → Prop
  | .idle => info.lastMessagesType = .none ∧ ∀ i, info.index ≤ i → view i = .unused
  | .text kind =>
    info.lastMessagesType = kind.messagesType ∧ view info.index = .opened kind.block.blockType ∧
      ∀ i, info.index < i → view i = .unused
  | .tools named top =>
    info.lastMessagesType = .tools ∧ info.toolCallMaxIndexOffset = top ∧ ToolView view info.toolCallBaseIndex (named, top)

section Agree

variable {info : ClaudeConvertInfo} {view : BlockView} {p : BlockPhase} {base : Int} {n : Nat} {always : Bool}
  {d : ChatStreamDelta}

def stopRange (view : BlockView) (base : Int) (n : Nat) : BlockView :=
  fun i => if base ≤ i ∧ i < base + n then .stopped else view i

theorem stopRange_zero : stopRange view base 0 = view := by
  funext i
  rw [stopRange, if_neg (by omega)]

theorem stopRange_next : stopRange view base n (base + n) = view (base + n) := by
  rw [stopRange, if_neg (by omega)]

theorem stopRange_succ :
    update (stopRange view base n) (base + n) .stopped = stopRange view base (n + 1) := by
  funext i
  by_cases hi : i = base + n
  · rw [hi, update_self, stopRange, if_pos (by omega)]
  · rw [update_of_ne hi, stopRange, stopRange]
    by_cases hin : base ≤ i ∧ i < base + n
    · rw [if_pos hin, if_pos (by omega)]
    · rw [if_neg hin, if_neg (by omega)]

theorem watch_stops :
    watch blockStep view ((range n).map fun offset : Nat => .contentBlockStop (base + offset)) =
      if ∀ offset < n, (view (base + offset)).isOpened then some (stopRange view base n) else none := by
  induction n with
  | zero => simp [stopRange_zero]
  | succ n ih =>
    have hsplit : (∀ offset < n + 1, (view (base + (offset : Nat))).isOpened) ↔
        (∀ offset < n, (view (base + (offset : Nat))).isOpened) ∧ (view (base + n)).isOpened :=
      Nat.forall_lt_succ_right
    have hstop : watch blockStep (stopRange view base n) [.contentBlockStop (base + n)] =
        if (view (base + n)).isOpened then some (stopRange view base (n + 1)) else none := by
      rw [watch_cons, blockStep, stopRange_next, stopRange_succ]
      cases (view (base + n)).isOpened <;> rfl
    rw [range_succ, map_append, watch_append, ih, map_singleton]
    simp only [hsplit]
    by_cases hbelow : ∀ offset < n, (view (base + (offset : Nat))).isOpened
    · rw [if_pos hbelow, Option.bind_some, hstop]
      by_cases hlast : (view (base + n)).isOpened
      · rw [if_pos hlast, if_pos ⟨hbelow, hlast⟩]
      · rw [if_neg hlast, if_neg (fun h => hlast h.2)]
    · rw [if_neg hbelow, if_neg (fun h => hbelow h.1)]
      rfl

variable {run : List Int × Int} {base i : Int}

theorem tools_closable (h : ToolView view base run) :
    BlockPhase.closable (.tools run.1 run.2) ↔
      ∀ offset < (run.2 + 1).toNat, (view (base + (offset : Nat))).isOpened := by
  simp only [BlockPhase.closable, all_eq_true, mem_range]
  refine forall₂_congr fun offset _ => ?_
  rw [h.status offset (by omega)]
  by_cases hmem : (offset : Int) ∈ run.1 <;> simp [hmem, isOpened]

/-- **The open blocks are stopped** if the phase is closable; then nothing is started from `high` on. -/
theorem watch_stop (h : Fits info view p) :
    Option.Rel (fun view' _ => ∀ i, info.high ≤ i → view' i = .unused) (watch blockStep view (stopOpenBlocks info))
      (if p.closable then some p else none) := by
  unfold stopOpenBlocks ClaudeConvertInfo.high
  cases p with
  | idle =>
    obtain ⟨htype, hunused⟩ := h
    simp only [htype]
    exact .some hunused
  | text kind =>
    obtain ⟨htype, hopen, hunused⟩ := h
    have hstop : watch blockStep view [.contentBlockStop info.index] =
        some (update view info.index .stopped) := by
      simp [blockStep, hopen, isOpened]
    have hafter : ∀ i, info.index + 1 ≤ i → update view info.index stopped i = .unused := by
      intro i hi
      rw [update_of_ne (by omega)]
      exact hunused i (by omega)
    cases kind <;>
      simp only [htype, TextKind.messagesType, hstop, BlockPhase.closable] <;>
      exact .some hafter
  | tools named top =>
    obtain ⟨htype, rfl, htools⟩ := h
    simp only [htype, watch_stops]
    have hclosable := tools_closable htools
    by_cases hall : BlockPhase.closable (.tools named info.toolCallMaxIndexOffset)
    · rw [if_pos (hclosable.1 hall), if_pos hall]
      refine .some fun i hi => ?_
      have htop := htools.top
      have hi' : i = info.toolCallBaseIndex + (i - info.toolCallBaseIndex) := by omega
      rw [stopRange, if_neg (by omega), hi', htools.status _ (by omega), if_neg]
      intro hmem
      have := htools.within _ hmem
      omega
    · rw [if_neg (fun hopen => hall (hclosable.2 hopen)), if_neg hall]
      exact .none

theorem Fits.type (h : Fits info view p) : info.lastMessagesType =
    match p with
    | .idle => .none
    | .text kind => kind.messagesType
    | .tools _ _ => .tools := by
  cases p <;> exact h.1

theorem Fits.text_iff (h : Fits info view p) (kind : TextKind) :
    info.lastMessagesType = kind.messagesType ↔ p = .text kind := by
  rw [h.type]
  cases p with
  | idle | tools named top => cases kind <;> simp [TextKind.messagesType]
  | text other => cases kind <;> cases other <;> simp [TextKind.messagesType]

@[simp] theorem delta_blockType (kind : TextKind) (text : String) : (kind.delta text).blockType = kind.block.blockType := by
  cases kind <;> rfl

theorem watch_start (kind : TextKind) (text : String) (hunused : view i = .unused) :
    watch blockStep view [.contentBlockStart i kind.block, .contentBlockDelta i (kind.delta text)] =
      some (update view i (.opened kind.block.blockType)) := by
  simp [blockStep, hunused]

/-- The client gets the events and the converter has the state, or the client and the phase `q` reject them. -/
def Follows (view : BlockView) (out : List ClaudeEvent × ClaudeConvertInfo) (q : Option BlockPhase) : Prop :=
  Option.Rel (Fits out.2) (watch blockStep view out.1) q

variable (h : Fits info view p)

include h

theorem watch_text (content : TextKind × String) :
    Follows view (convertText info always content) (phaseText always p content.1) := by
  obtain ⟨kind, text⟩ := content
  unfold Follows convertText openTextBlock phaseText
  by_cases hkind : info.lastMessagesType = kind.messagesType
  · have hp := (h.text_iff kind).1 hkind
    subst hp
    obtain ⟨htype, hopen, hunused⟩ := h
    cases always with
    | true =>
      simp only [if_pos hkind, if_true]
      have hreject : watch blockStep view
          ([.contentBlockStart info.index kind.block] ++ [.contentBlockDelta info.index (kind.delta text)]) = none := by
        simp [blockStep, hopen]
      rw [hreject]
      exact .none
    | false =>
      simp only [if_pos hkind, Bool.false_eq_true, if_false, nil_append]
      have haccept : watch blockStep view [.contentBlockDelta info.index (kind.delta text)] = some view := by
        simp [blockStep, hopen]
      rw [haccept]
      exact .some ⟨rfl, hopen, hunused⟩
  · have hp : p ≠ .text kind := fun hp => hkind ((h.text_iff kind).2 hp)
    simp only [if_neg hkind, if_neg hp]
    have hstop := watch_stop h
    rw [append_assoc, watch_append, advanceIndex_index]
    have hphase : (if p.closable then some (BlockPhase.text kind) else none) =
        (if p.closable then some p else none).bind fun _ => some (.text kind) := by
      cases p.closable <;> rfl
    rw [hphase]
    refine rel_bind hstop fun view' _ hunused => ?_
    rw [singleton_append, watch_start kind text (hunused info.high le_rfl)]
    refine .some ⟨rfl, ?_, fun i hi => ?_⟩
    · simp
    · have hi' : info.high < i := by simpa using hi
      rw [update_of_ne (by omega)]
      exact hunused i (by omega)

theorem watch_textContent : Follows view (convertTextContent info always d) (phaseTextContent always p d) := by
  unfold convertTextContent phaseTextContent
  cases d.textContent with
  | none => exact .some h
  | some content => exact watch_text h content

omit h

theorem watch_arguments (hopen : view i = .opened .toolUse) (arguments : String) :
    watch blockStep view (if arguments ≠ "" then [.contentBlockDelta i (.inputJson arguments)] else []) = some view := by
  split
  · simp [blockStep, hopen, ClaudeDelta.blockType]
  · rfl

theorem watch_call (h : ToolView view base run) {call : Int × ToolCallResponse} (hoffset : 0 ≤ call.1) :
    Option.Rel (fun view' run' => ToolView view' base run' ∧ run'.2 = max run.2 call.1)
      (watch blockStep view (toolCallEvents false (base + call.1) call.2)) (phaseCall run call) := by
  have hstatus := h.status call.1 hoffset
  have hsame : ToolView view base (run.1, max run.2 call.1) :=
    ⟨le_max_of_le_left h.top, fun o ho => le_max_of_le_left (h.within o ho), h.status⟩
  unfold toolCallEvents phaseCall
  by_cases hname : call.2.name = ""
  · rw [if_neg (by simp [hname]), if_neg (not_not.2 hname), nil_append]
    by_cases hmem : call.1 ∈ run.1
    · rw [if_pos hmem] at hstatus
      rw [watch_arguments hstatus, if_neg (by simp [hmem])]
      exact .some ⟨hsame, rfl⟩
    · rw [if_neg hmem] at hstatus
      by_cases hempty : call.2.arguments = ""
      · rw [if_neg (not_not.2 hempty), if_neg (by simp [hempty])]
        exact .some ⟨hsame, rfl⟩
      · rw [if_pos hempty, if_pos ⟨hempty, hmem⟩]
        have hreject : watch blockStep view [.contentBlockDelta (base + call.1) (.inputJson call.2.arguments)] = none := by
          simp [blockStep, hstatus]
        rw [hreject]
        exact .none
  · rw [if_pos (Or.inr hname), if_pos hname, watch_append]
    by_cases hmem : call.1 ∈ run.1
    · rw [if_pos hmem] at hstatus ⊢
      have hreject : watch blockStep view [.contentBlockStart (base + call.1) (.toolUse call.2.id call.2.name)] = none := by
        simp [blockStep, hstatus]
      rw [hreject]
      exact .none
    · rw [if_neg hmem] at hstatus ⊢
      have hstart : watch blockStep view [.contentBlockStart (base + call.1) (.toolUse call.2.id call.2.name)] =
          some (update view (base + call.1) (.opened .toolUse)) := by
        simp [blockStep, hstatus, ClaudeBlock.blockType]
      rw [hstart, Option.bind_some, watch_arguments (update_self ..)]
      refine .some ⟨⟨hsame.top, fun o ho => ?_, fun o ho => ?_⟩, rfl⟩
      · rcases mem_cons.1 ho with rfl | ho
        · exact le_max_right _ _
        · exact hsame.within o ho
      · by_cases heq : o = call.1
        · simp [heq]
        · rw [update_of_ne (by omega), h.status o ho]
          simp [heq]

theorem watch_calls (h : ToolView view base run) {calls : List (Int × ToolCallResponse)}
    (hoffsets : ∀ call ∈ calls, 0 ≤ call.1) :
    Option.Rel (fun view' run' => ToolView view' base run' ∧ run'.2 = calls.foldl (fun m call => max m call.1) run.2)
      (watch blockStep view (calls.flatMap fun call => toolCallEvents false (base + call.1) call.2))
      (watch phaseCall run calls) := by
  induction calls generalizing view run with
  | nil => exact .some ⟨h, rfl⟩
  | cons call calls ih =>
    rw [flatMap_cons, watch_append]
    refine rel_bind (watch_call h (hoffsets call mem_cons_self)) fun view' run' hnext => ?_
    have hrest := ih hnext.1 (forall_mem_cons.1 hoffsets).2
    rwa [hnext.2] at hrest

def NonnegCalls (d : ChatStreamDelta) : Prop := ∀ call ∈ toolOffsets d.calls, 0 ≤ call.1

include h

theorem watch_tools {calls : List ToolCallResponse} (hoffsets : ∀ call ∈ toolOffsets calls, 0 ≤ call.1) :
    Follows view (convertTools info calls)
      ((watch phaseCall p.toolRun (toolOffsets calls)).map fun run => .tools run.1 run.2) := by
  unfold Follows convertTools openTools
  by_cases htype : info.lastMessagesType = .tools
  · simp only [if_pos htype]
    obtain ⟨named, top, rfl⟩ : ∃ named top, p = .tools named top := by
      have := h.type
      cases p with
      | idle => rw [htype] at this; cases this
      | text kind => rw [htype] at this; cases kind <;> cases this
      | tools named top => exact ⟨named, top, rfl⟩
    obtain ⟨-, rfl, htools⟩ := h
    exact rel_map_right (watch_calls htools hoffsets) fun view' run' hnext => ⟨htype, hnext.2.symm, hnext.1⟩
  · obtain ⟨hrun, hclosable⟩ : p.toolRun = ([], 0) ∧ p.closable := by
      cases p with
      | idle | text kind => exact ⟨rfl, rfl⟩
      | tools named top => exact absurd h.1 htype
    simp only [if_neg htype, hrun]
    rw [watch_append]
    have hstop := watch_stop h
    rw [if_pos hclosable] at hstop
    obtain ⟨view', hview, hunused⟩ := exists_of_rel_some hstop
    have hfresh : ToolView view' info.high ([], 0) := by
      refine ⟨le_rfl, nofun, fun offset hoffset => ?_⟩
      rw [hunused _ (by omega)]
      simp
    rw [hview, advanceIndex_index]
    exact rel_map_right (watch_calls hfresh hoffsets) fun view'' run' hnext => ⟨rfl, hnext.2.symm, hnext.1⟩

/-- **One delta**: the client rejects one of its events exactly when the phase does not allow it. -/
theorem watch_delta (hoffsets : NonnegCalls d) : Follows view (convertDelta info d) (phaseDelta p d) := by
  unfold NonnegCalls at hoffsets
  unfold convertDelta phaseDelta
  cases hcalls : d.calls with
  | nil => exact watch_textContent h
  | cons call calls =>
    rw [hcalls] at hoffsets
    exact watch_tools h hoffsets

theorem watch_deltas {deltas : List ChatStreamDelta} (hoffsets : ∀ d ∈ deltas, NonnegCalls d) :
    Follows view (convertDeltas info deltas) (watch phaseDelta p deltas) := by
  induction deltas generalizing info view p with
  | nil => exact .some h
  | cons d deltas ih =>
    rw [Follows, convertDeltas, watch_append]
    exact rel_bind (watch_delta h (hoffsets d mem_cons_self)) fun view' p' hnext =>
      ih hnext (forall_mem_cons.1 hoffsets).2

omit h

theorem watch_used {events : List ClaudeEvent} {view' : BlockView} (h : watch blockStep view events = some view')
    (hi : view i ≠ .unused) : view' i ≠ .unused := by
  induction events generalizing view with
  | nil =>
    cases h
    exact hi
  | cons e events ih =>
    rw [watch_cons, Option.bind_eq_some_iff] at h
    obtain ⟨next, hstep, hrest⟩ := h
    refine ih hrest ?_
    have hupdate : ∀ (j : Int) (status : BlockStatus), status ≠ .unused → update view j status i ≠ .unused := by
      intro j status hstatus
      by_cases hij : i = j
      · rw [hij, update_self]
        exact hstatus
      · rw [update_of_ne hij]
        exact hi
    cases e with
    | contentBlockStart j block | contentBlockStop j =>
      obtain ⟨-, ⟨⟩⟩ := Option.ite_none_right_eq_some.1 hstep
      exact hupdate j _ nofun
    | contentBlockDelta j delta =>
      obtain ⟨-, ⟨⟩⟩ := Option.ite_none_right_eq_some.1 hstep
      exact hi
    | _ => cases hstep; exact hi

/-- Nothing was started, or block 0 was. -/
def ZeroUsed (view : BlockView) (p : BlockPhase) : Prop :=
  if p = .idle then ∀ i, 0 ≤ i → view i = .unused else view 0 ≠ .unused

theorem watch_firstTool (call : ToolCallResponse) :
    watch blockStep view (toolCallEvents true 0 call) =
      if view 0 = .unused then some (update view 0 (.opened .toolUse)) else none := by
  rw [toolCallEvents, if_pos (Or.inl rfl), watch_append, watch_cons, blockStep]
  split
  · exact watch_arguments (update_self ..) _
  · rfl

/-- **The first chunk**, or the last one that is converted as the first. -/
theorem watch_first (h : Fits info view p) (hzero : ZeroUsed view p) :
    Follows view (convertFirstContent info d) (phaseFirst p d) := by
  unfold Follows convertFirstContent phaseFirst convertFirstTool
  cases hcalls : d.calls with
  | nil => exact watch_textContent h
  | cons call calls =>
    rw [watch_append, watch_firstTool]
    by_cases hidle : p = .idle
    · rw [ZeroUsed, if_pos hidle] at hzero
      rw [if_pos hidle, if_pos (hzero 0 le_rfl)]
      refine watch_textContent (p := .tools [0] 0) ⟨rfl, rfl, le_rfl, fun o ho => ?_, fun o ho => ?_⟩
      · exact (mem_singleton.1 ho).le
      · by_cases heq : o = 0
        · simp [heq]
        · rw [show (0 : Int) + o = o by omega, update_of_ne heq, hzero o ho]
          simp [heq]
    · rw [ZeroUsed, if_neg hidle] at hzero
      rw [if_neg hidle, if_neg hzero]
      exact .none

theorem initial_fits : Fits .initial (fun _ => .unused) .idle := ⟨rfl, fun _ _ => rfl⟩

/-- After the first chunk block 0 was started, unless there was nothing to start. -/
theorem first_zeroUsed (d : ChatStreamDelta)
    (hview : watch blockStep (fun _ => .unused) (convertFirstContent .initial d).1 = some view)
    (hp : phaseFirst .idle d = some p) : ZeroUsed view p := by
  unfold convertFirstContent convertFirstTool at hview
  unfold phaseFirst at hp
  cases hcalls : d.calls with
  | nil =>
    rw [hcalls] at hview hp
    unfold convertTextContent at hview
    unfold phaseTextContent at hp
    cases htext : d.textContent with
    | none =>
      rw [htext] at hview hp
      obtain rfl : BlockPhase.idle = p := Option.some.inj hp
      obtain rfl : (fun _ => unused) = view := Option.some.inj hview
      exact fun _ _ => rfl
    | some content =>
      obtain ⟨kind, text⟩ := content
      rw [htext] at hview hp
      obtain rfl : BlockPhase.text kind = p := Option.some.inj hp
      have hstart : (convertText .initial true (kind, text)).1 =
          [.contentBlockStart 0 kind.block, .contentBlockDelta 0 (kind.delta text)] := by
        cases kind <;> rfl
      simp only [nil_append, hstart] at hview
      rw [watch_start kind text rfl] at hview
      rw [← Option.some.inj hview]
      exact nofun
  | cons call calls =>
    rw [hcalls] at hp
    simp only [hcalls] at hview
    rw [watch_append, watch_firstTool] at hview
    have hused : view 0 ≠ .unused := watch_used hview (by simp)
    have hbusy : p ≠ .idle := by
      rintro rfl
      unfold phaseTextContent at hp
      cases htext : d.textContent with
      | none | some content => rw [htext] at hp; cases hp
    rw [ZeroUsed, if_neg hbusy]
    exact hused

end Agree

/-! ## The stream -/

/-- Tool call `m` is the next to be introduced: a call has a name and the next index, or an index that was introduced. -/
def introduce (m : Int) (call : Int × ToolCallResponse) : Option Int :=
  if call.1 = m ∧ call.2.name ≠ "" then some (m + 1) else if 0 ≤ call.1 ∧ call.1 < m then some m else none

/-- Each index appears first with a name, and the indices are introduced in order without gaps. -/
def Introduces (chunks : List ChatStreamResponse) : Prop :=
  (watch introduce 0 (chunks.flatMap fun r => toolOffsets r.delta.calls)).isSome = true

theorem introduce_nonneg {m : Int} (hm : 0 ≤ m) {calls : List (Int × ToolCallResponse)}
    (h : (watch introduce m calls).isSome) : ∀ call ∈ calls, 0 ≤ call.1 := by
  induction calls generalizing m with
  | nil => exact nofun
  | cons call calls ih =>
    obtain ⟨final, hfinal⟩ := Option.isSome_iff_exists.1 h
    rw [watch_cons, Option.bind_eq_some_iff] at hfinal
    obtain ⟨next, hstep, hrest⟩ := hfinal
    have hcall : 0 ≤ call.1 ∧ 0 ≤ next := by
      unfold introduce at hstep
      split at hstep
      next hnew =>
        cases hstep
        omega
      · obtain ⟨hold, ⟨⟩⟩ := Option.ite_none_right_eq_some.1 hstep
        omega
    exact forall_mem_cons.2 ⟨hcall.1, ih hcall.2 (by rw [hrest]; rfl)⟩

theorem Introduces.nonneg {chunks : List ChatStreamResponse} (h : Introduces chunks) {r : ChatStreamResponse}
    (hr : r ∈ chunks) : NonnegCalls r.delta :=
  fun call hcall => introduce_nonneg le_rfl h call (mem_flatMap.2 ⟨r, hr, hcall⟩)

section Stream

variable {info : ClaudeConvertInfo} {view : BlockView} {p : BlockPhase}

theorem watch_stop_isSome (h : Fits info view p) :
    (watch blockStep view (stopOpenBlocks info)).isSome = p.closable := by
  have hstop := watch_stop h
  generalize watch blockStep view (stopOpenBlocks info) = stopped at hstop ⊢
  generalize p.closable = closable at hstop ⊢
  cases closable <;> cases hstop <;> rfl

/-- Blocks and then, in some cases, their stops. -/
theorem watch_close {events : List ClaudeEvent} {q : Option BlockPhase} (h : Follows view (events, info) q)
    (closes : Bool) :
    (watch blockStep view (events ++ if closes then stopOpenBlocks info else [])).isSome =
      q.any fun q => !closes || q.closable := by
  rw [watch_append, Option.isSome_bind]
  refine any_of_rel h fun view' q' hfits => ?_
  cases closes with
  | true => exact watch_stop_isSome hfits
  | false => rfl

theorem watch_last (inputTokens : Int) (count : Nat) (h : Fits info view p) (hzero : count = 1 → ZeroUsed view p)
    {r : ChatStreamResponse} (hoffsets : NonnegCalls r.delta) :
    (watch blockStep view (lastBlocks inputTokens count info r)).isSome = phaseLast count p r := by
  unfold lastBlocks phaseLast
  by_cases hcount : count = 1
  · rw [if_pos hcount, if_pos hcount]
    exact watch_close (watch_first h (hzero hcount)) r.isFinished
  · rw [if_neg hcount, if_neg hcount]
    by_cases hheld : r.isFinished ∧ r.usage = none
    · rw [if_pos hheld, if_pos hheld]
      rfl
    · rw [if_neg hheld, if_neg hheld]
      exact watch_close (watch_delta h hoffsets) (finalReason count r).isSome

variable {handled : List (Option ChatStreamResponse)}

theorem watch_handled
    (hoffsets : ∀ chunk ∈ handled, NonnegCalls (chunkDelta chunk)) :
    Option.Rel (fun view p => Fits (laterBlocks handled).2 view p ∧ (handled.length = 1 → ZeroUsed view p))
      (watch blockStep (fun _ => .unused) ((firstBlocks handled).1 ++ (laterBlocks handled).1))
      ((phaseFirst .idle (chunkDelta handled.head?.join)).bind
        (watch phaseDelta · ((laterData handled).map chunkDelta))) := by
  have hzero : ZeroUsed (fun _ => .unused) .idle := by
    exact fun _ _ => rfl
  have hfirst := watch_first (d := chunkDelta handled.head?.join) initial_fits hzero
  have hlater : ∀ d ∈ (laterData handled).map chunkDelta, NonnegCalls d := by
    intro d hd
    obtain ⟨chunk, hchunk, rfl⟩ := mem_map.1 hd
    exact hoffsets chunk (mem_of_mem_tail ((laterData_isPrefix handled).subset hchunk))
  rw [watch_append]
  refine rel_bind (rel_imp hfirst fun view p hview hp hfits => And.intro hfits (first_zeroUsed _ hview hp)) ?_
  rintro view p ⟨hfits, hused⟩
  by_cases hone : handled.length = 1
  · obtain ⟨chunk, rfl⟩ := length_eq_one_iff.1 hone
    exact .some ⟨hfits, fun _ => hused⟩
  · exact rel_imp (watch_deltas hfits hlater) fun view' p' _ _ hfits' => ⟨hfits', fun h => absurd h hone⟩

/-- **The blocks of the whole stream.** -/
theorem watch_stream (inputTokens : Int) {last : Option ChatStreamResponse}
    (hhandled : ∀ chunk ∈ handled, NonnegCalls (chunkDelta chunk)) (hlast : ∀ r ∈ last, NonnegCalls r.delta)
    (reason : Option String) (u : ClaudeUsage) :
    (watch blockStep (fun _ => .unused) (streamBody handled last inputTokens ++ messageEnd reason u)).isSome =
      ((phaseFirst .idle (chunkDelta handled.head?.join)).bind
        (watch phaseDelta · ((laterData handled).map chunkDelta))).any fun p =>
          if (closedEarly handled).isSome then p.closable else last.all (phaseLast handled.length p) := by
  have hstart : ∀ events : List ClaudeEvent, watch blockStep (fun _ => .unused)
      ((handled.head?.join.map fun _ => ClaudeEvent.messageStart inputTokens).toList ++ events) =
        watch blockStep (fun _ => .unused) events := by
    intro events
    cases handled.head?.join <;> rfl
  have hend : ∀ view : BlockView, (watch blockStep view (messageEnd reason u)).isSome := by
    intro view
    cases reason <;> rfl
  rw [streamBody, append_assoc, append_assoc, append_assoc, hstart, ← append_assoc, watch_append,
    Option.isSome_bind]
  refine any_of_rel (watch_handled hhandled) fun view p hfits => ?_
  rw [watch_append, Option.isSome_bind]
  simp only [hend]
  split
  · exact watch_stop_isSome hfits.1
  · cases last with
    | none => rfl
    | some r => exact watch_last inputTokens handled.length hfits.1 hfits.2 (hlast r rfl)

end Stream

theorem not_begun (inputTokens : Int) (last : Option ChatStreamResponse) (reason : Option String) (u : ClaudeUsage) :
    (streamBody [] last inputTokens ++ messageEnd reason u).head?.any ClaudeEvent.startsMessage = false := by
  have hblocks : BlockOnly (streamBody [] last inputTokens) := by
    cases last with
    | none => exact nofun
    | some r =>
      show BlockOnly (lastBlocks inputTokens 0 .initial r)
      unfold lastBlocks
      rw [if_neg (by decide)]
      split
      · exact nofun
      · refine forall_mem_append.2 ⟨convertDelta_blocks _ _, ?_⟩
        split
        · exact stopOpenBlocks_blocks _
        · exact nofun
  cases hbody : streamBody [] last inputTokens with
  | nil => cases reason <;> rfl
  | cons e events =>
    have he := hblocks e (by rw [hbody]; exact mem_cons_self)
    cases e with
    | messageStart tokens => cases he
    | _ => rfl

/-- **The block discipline.** If the indices of the tool calls are introduced in order and with a name, a Claude client gets
events in which every block is used as it should be if and only if `orderly` holds. -/
theorem block_discipline_iff (site : OaiSite) (relay : OaiRelay) (chunks : List ChatStreamResponse)
    (h : Introduces chunks) :
    Disciplined (streamEvents (claudeFormat relay.estimatePromptTokens) site relay (chunks.map some)) ↔
      orderly ((chunks.map some).filter forwarded) chunks.getLast? = true := by
  obtain ⟨u, hshape⟩ := claude_stream_shape relay.estimatePromptTokens site relay (chunks.map some)
  have hmem : ∀ chunk ∈ (chunks.map some).filter forwarded, ∃ r ∈ chunks, chunk = some r := by
    intro chunk hchunk
    obtain ⟨r, hr, heq⟩ := mem_map.1 (mem_filter.1 hchunk).1
    exact ⟨r, hr, heq.symm⟩
  rw [getLast?_join] at hshape
  rw [hshape, Disciplined, orderly]
  generalize (chunks.map some).filter forwarded = handled at hmem
  generalize relay.estimatePromptTokens = inputTokens
  rw [watch_stream inputTokens
    (fun chunk hchunk => by
      obtain ⟨r, hr, rfl⟩ := hmem chunk hchunk
      exact h.nonneg hr)
    (fun r hr => h.nonneg (mem_of_getLast? hr))]
  cases handled with
  | nil =>
    rw [not_begun]
    simp
  | cons chunk rest =>
    obtain ⟨r, -, rfl⟩ := hmem chunk mem_cons_self
    have hbegun : (streamBody (some r :: rest) chunks.getLast? inputTokens ++
        messageEnd (streamReason (some r :: rest) chunks.getLast?) u).head?.any ClaudeEvent.startsMessage := rfl
    rw [hbegun]
    simp

namespace Sample

def thinkingChunk (text : String) : ChatStreamResponse := deltaChunk ⟨none, some text, none, none⟩

def toolChunk (index : Int) (name arguments : String) : ChatStreamResponse :=
  deltaChunk ⟨none, none, none, some [⟨some index, "call", name, arguments⟩]⟩

def endChunk (reason : String) : ChatStreamResponse := { finishChunk reason with usage := usageChunk.usage }

def toolStream : List ChatStreamResponse :=
  [roleChunk, thinkingChunk "so", textChunk "Hi", toolChunk 0 "f" "1", toolChunk 1 "g" "", toolChunk 0 "" "2", toolChunk 1 "" "3",
    endChunk "tool_calls"]

def interruptedStream : List ChatStreamResponse :=
  [roleChunk, toolChunk 0 "f" "1", textChunk "Hi", toolChunk 1 "g" "2", endChunk "tool_calls"]

end Sample

open Sample in
theorem block_discipline_tools :
    Introduces toolStream ∧ Disciplined (streamEvents (claudeFormat 10) oaiSite oaiRelay (toolStream.map some)) :=
  ⟨rfl, (block_discipline_iff oaiSite oaiRelay toolStream rfl).2 rfl⟩

open Sample in
/-- The second tool call is given block 3, and block 2, which was never started, is stopped. -/
theorem block_discipline_broken :
    Introduces interruptedStream ∧ ¬ Disciplined (streamEvents (claudeFormat 10) oaiSite oaiRelay (interruptedStream.map some)) := by
  refine ⟨rfl, ?_⟩
  rintro ⟨-, hwatch⟩
  revert hwatch
  decide

end SynthApi
