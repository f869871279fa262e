import SynthApi.Relay.ResponsesToChat

/-!
# The stop reason of a stream

The chunk that finishes choice 0 reaches the client only as the last chunk, through `HandleFinalResponse`. After it an
upstream may send the usage in a chunk of its own; then the reason is lost, for Claude (`claude_reason_iff`) as for Gemini
(`gemini_reason_iff`).
-/

namespace SynthApi

/-! ## Claude -/

section Claude

variable {reason : String} {events body : List ClaudeEvent}

def SendsReason (reason : String) (events : List ClaudeEvent) : Prop := ∃ usage, .messageDelta reason usage ∈ events

theorem not_sendsReason (h : ContentOnly events) : ¬ SendsReason reason events := by
  rintro ⟨usage, hmem⟩
  exact absurd (h _ hmem) nofun

theorem sendsReason_end (h : ContentOnly body) (found : Option String) (usage : ClaudeUsage) :
    SendsReason reason (body ++ messageEnd found usage) ↔ found = some reason := by
  constructor
  · rintro ⟨u, hmem⟩
    rcases List.mem_append.1 hmem with hmem | hmem
    · exact absurd ⟨u, hmem⟩ (not_sendsReason h)
    · cases found with
      | none => cases hmem
      | some r =>
        simp only [messageEnd, List.mem_cons, ClaudeEvent.messageDelta.injEq, reduceCtorEq, List.not_mem_nil,
          or_false] at hmem
        rw [hmem.1]
  · rintro rfl
    exact ⟨usage, by simp [messageEnd]⟩

end Claude

/-! ## Gemini -/

section Gemini

variable (parseArgs : String → Option Lib.Json) (promptTokens : Int) {reason : String}

def SendsCandidate (reason : String) (responses : List GeminiChatResponse) : Prop :=
  ∃ response ∈ responses, ∃ c ∈ response.candidates, c.finishReason = some reason

/-- A choice of the chunk, any of them, has a reason that maps to `reason`. -/
def Finishes (reason : String) (r : ChatStreamResponse) : Prop :=
  ∃ c ∈ r.choices, c.finishReason.map openAIFinishReasonToGemini = some reason

theorem sendsCandidate_append (responses rest : List GeminiChatResponse) :
    SendsCandidate reason (responses ++ rest) ↔ SendsCandidate reason responses ∨ SendsCandidate reason rest := by
  simp only [SendsCandidate, List.mem_append, or_and_right, exists_or]

theorem sendsCandidate_chunk (r : ChatStreamResponse) :
    SendsCandidate reason (streamResponseOpenAI2Gemini parseArgs promptTokens r).toList ↔ Finishes reason r := by
  unfold streamResponseOpenAI2Gemini
  extract_lets hasContent hasFinishReason
  split
  next hempty =>
    refine iff_of_false (by rintro ⟨_, hmem, -⟩; cases hmem) ?_
    rintro ⟨c, hc, hreason⟩
    have hnone : hasFinishReason = false := by simp_all
    have hall : c.finishReason.isSome = false := by
      simp only [hasFinishReason, List.any_eq_false, Bool.not_eq_true] at hnone
      exact hnone c hc
    rw [Option.isSome_eq_false_iff, Option.isNone_iff_eq_none] at hall
    simp [hall] at hreason
  · simp only [SendsCandidate, Option.toList_some, List.mem_singleton, exists_eq_left, List.mem_map]
    constructor
    · rintro ⟨_, ⟨c, hc, rfl⟩, hreason⟩
      exact ⟨c, hc, hreason⟩
    · rintro ⟨c, hc, hreason⟩
      exact ⟨_, ⟨c, hc, rfl⟩, hreason⟩

theorem sendsCandidate_frames (info : ClaudeConvertInfo) (chunks : List (Option ChatStreamResponse)) :
    SendsCandidate reason (convertFrames (geminiFormat parseArgs promptTokens) info chunks).1 ↔
      ∃ r, some r ∈ chunks ∧ Finishes reason r := by
  induction chunks generalizing info with
  | nil => simp [SendsCandidate]
  | cons chunk chunks ih =>
    rw [convertFrames_cons, sendsCandidate_append, ih]
    cases chunk with
    | none => simp [handleStreamFormat, SendsCandidate]
    | some r =>
      simp only [handleStreamFormat, geminiFormat, sendsCandidate_chunk, List.mem_cons, Option.some.injEq, or_and_right,
        exists_or, exists_eq_left]

end Gemini

/-- **Stop reasons reach the client** with the last chunk. A Claude client gets a `message_delta` with the stop reason of
`reason` if and only if the last chunk finishes choice 0 with a reason of the same stop reason, and has a usage or comes
after a single chunk; `end_turn` is also what a stream ends with that is closed early, or by a chunk without choices. A
Gemini client gets a candidate with the finish reason of `reason` if and only if the last chunk, or one that does not finish
choice 0, has a choice with a reason of the same finish reason. -/
theorem stop_reason_iff (site : OaiSite) (relay : OaiRelay) (parseArgs : String → Option Lib.Json)
    (stream : List (Option ChatStreamResponse)) (reason : String) :
    (SendsReason (openAIFinishReasonToClaudeStopReason reason)
        (streamEvents (claudeFormat relay.estimatePromptTokens) site relay stream) ↔
      if (earlyClose (firstUsage (stream.filter forwarded)) (stream.filter forwarded).tail).isSome then
        openAIFinishReasonToClaudeStopReason reason = "end_turn"
      else
        ∃ r, stream.getLast? = some (some r) ∧
          finalReason (stream.filter forwarded).length r = some (openAIFinishReasonToClaudeStopReason reason)) ∧
    (SendsCandidate (openAIFinishReasonToGemini reason)
        (streamEvents (geminiFormat parseArgs relay.estimatePromptTokens) site relay stream) ↔
      ∃ r, (some r ∈ stream.filter forwarded ∨ stream.getLast? = some (some r)) ∧
        Finishes (openAIFinishReasonToGemini reason) r) := by
  constructor
  · -- `end_turn` if the stream was closed early, else what the last chunk makes it
    obtain ⟨u, hshape⟩ := claude_stream_shape relay.estimatePromptTokens site relay stream
    rw [hshape, sendsReason_end (streamBody_content _ _ _), streamReason, closedEarly]
    split
    · exact ⟨fun h => (Option.some.inj h).symm, fun h => h ▸ rfl⟩
    · rw [Option.bind_eq_some_iff]
      simp only [Option.join_eq_some_iff]
  · -- that of a chunk that is converted at once, or of the last one
    generalize openAIFinishReasonToGemini reason = reason'
    have hfinal : ∀ usage info, SendsCandidate reason'
        (finalEvents (geminiFormat parseArgs relay.estimatePromptTokens) usage info stream.getLast?.join) ↔
          ∃ r, stream.getLast? = some (some r) ∧ Finishes reason' r := by
      intro usage info
      cases hlast : stream.getLast?.join with
      | none =>
        refine iff_of_false (by rintro ⟨_, hmem, -⟩; cases hmem) ?_
        rintro ⟨r, hr, -⟩
        simp [hr] at hlast
      | some r =>
        rw [Option.join_eq_some_iff] at hlast
        simp only [finalEvents, geminiFormat, sendsCandidate_chunk, hlast, Option.some.injEq, exists_eq_left']
    rw [oaiStream_sent, sendsCandidate_append, sendsCandidate_frames, hfinal]
    simp only [or_and_right, exists_or]

namespace Sample

/-- An answer that was cut off, with its usage in a chunk of its own. -/
def cutStream : List (Option ChatStreamResponse) :=
  [some roleChunk, some (textChunk "Hi"), some (finishChunk "length"), some usageChunk]

end Sample

open Sample in
/-- The stop reason of an answer that was cut off is lost. -/
theorem cut_reason_lost :
    ¬ (SendsReason (openAIFinishReasonToClaudeStopReason "length") (streamEvents (claudeFormat 10) oaiSite oaiRelay cutStream) ∧
      SendsCandidate (openAIFinishReasonToGemini "length")
        (streamEvents (geminiFormat (fun _ => none) 10) oaiSite oaiRelay cutStream)) := by
  rintro ⟨⟨usage, hmem⟩, -⟩
  have hother : ∀ e ∈ streamEvents (claudeFormat 10) oaiSite oaiRelay cutStream,
      (match e with | .messageDelta reason _ => reason | _ => "") ≠ "max_tokens" := by decide
  exact hother _ hmem rfl

end SynthApi
