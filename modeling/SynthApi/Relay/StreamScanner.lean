import Mathlib.Data.List.Basic

/-!
# Reading a stream from the upstream

`StreamScannerHandler` (`relay/helper/stream_scanner.go`) hands the data of an event stream to a handler, one after the
other, until the handler stops it or the stream ends. A panic of the handler is recovered and ends the stream too. What
the handler has done up to then is what the rest of the relay goes on with.
-/

namespace SynthApi

inductive StreamEndReason where
  | done
  | timeout
  | clientGone
  | scannerErr
  | handlerStop
  | eof
  | panic
  | pingFail
  deriving DecidableEq, Repr

/-- `StreamStatus`, without the soft errors, which are only logged. -/
structure StreamStatus where
  endReason : StreamEndReason
  endError : Option String
  deriving DecidableEq, Repr

/-- What a handler makes of one piece of data. -/
inductive StreamResult where
  /-- The stream goes on, perhaps after a soft error. -/
  | next
  | stop (err : String)
  | done
  | panic
  deriving DecidableEq, Repr

namespace StreamResult

def status : StreamResult → Option StreamStatus
  | .next => none
  | .stop err => some ⟨.handlerStop, some err⟩
  | .done => some ⟨.done, none⟩
  | .panic => some ⟨.panic, some "handler panic"⟩

end StreamResult

section Scanner

variable {σ α : Type*} (handler : σ → α → σ × StreamResult) (ending : StreamStatus)

/-- The state that the handler leaves, and the status; `ending` is the status of a stream that the handler does not end. -/
def streamScannerHandler : σ → List α → σ × StreamStatus
  | s, [] => (s, ending)
  | s, d :: ds =>
    match (handler s d).2.status with
    | none => streamScannerHandler (handler s d).1 ds
    | some status => ((handler s d).1, status)

variable {handler ending} {ds : List α}

/-- What the handler keeps holds at the end. -/
theorem streamScanner_inv {I : σ → Prop} (hstep : ∀ s, ∀ d ∈ ds, I s → I (handler s d).1) {s : σ} (hs : I s) :
    I (streamScannerHandler handler ending s ds).1 := by
  induction ds generalizing s with
  | nil => exact hs
  | cons d ds ih =>
    have hd := hstep s d List.mem_cons_self hs
    rw [streamScannerHandler]
    cases (handler s d).2.status with
    | none => exact ih (fun s e he => hstep s e (List.mem_cons_of_mem d he)) hd
    | some status => exact hd

/-- Data at which the handler brings about `Q` and stops, in a stream whose other data keep it going or do the same:
at the end there is `Q`. -/
theorem streamScanner_of_mem {Q : σ → Prop}
    (hstep : ∀ s, ∀ d ∈ ds, (handler s d).2 = .next ∨ Q (handler s d).1) {d : α} (hd : d ∈ ds)
    (hstop : ∀ s, (handler s d).2 ≠ .next) (s : σ) : Q (streamScannerHandler handler ending s ds).1 := by
  induction ds generalizing s with
  | nil => cases hd
  | cons e ds ih =>
    rw [streamScannerHandler]
    by_cases hnext : (handler s e).2 = .next
    · rw [hnext]
      rcases List.mem_cons.1 hd with rfl | hd
      · exact absurd hnext (hstop s)
      · exact ih (fun s e he => hstep s e (List.mem_cons_of_mem _ he)) hd _
    · have hQ := (hstep s e List.mem_cons_self).resolve_left hnext
      cases hres : (handler s e).2 with
      | next => exact absurd hres hnext
      | stop err | done | panic => exact hQ

end Scanner

end SynthApi
