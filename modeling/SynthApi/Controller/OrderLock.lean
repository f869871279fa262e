import SynthApi.Lib.Interleave
import SynthApi.Lib.KeyedLock

/-!
# Locks by trade number

`LockOrder` and `UnlockOrder` of `controller/topup.go`. The map and the reference counts change under `createLock`, so each
of these sections is one statement; the lookup of `UnlockOrder` stands before them. A goroutine locks an order, unlocks
it, and goes on to any order.
-/

namespace SynthApi

open Lib

/-- Which statement a goroutine executes next; `rcm` is the entry that the call has looked up. -/
inductive OrderLockPlace where
  | idle
  | waiting (tradeNo : String) (rcm : Nat)
  | holding (tradeNo : String) (rcm : Nat)
  | unlocking (tradeNo : String) (rcm : Nat)
  | releasing (tradeNo : String) (rcm : Nat)

def OrderLockPlace.phase : OrderLockPlace → Phase String
  | .idle => .outside
  | .waiting tradeNo rcm => .waiting tradeNo rcm
  | .holding tradeNo rcm | .unlocking tradeNo rcm => .inside tradeNo rcm
  | .releasing tradeNo rcm => .leaving tradeNo rcm

/-- One statement of `LockOrder`, for the trade number of the action, or of `UnlockOrder`. -/
def orderLockProg (place : OrderLockPlace) (tradeNo : String) (orderLocks : LockMap String) :
    OrderLockPlace × LockMap String :=
  match place with
  | .idle => (.waiting tradeNo (orderLocks.retain tradeNo).1, (orderLocks.retain tradeNo).2)
  | .waiting tradeNo rcm =>
    if (orderLocks.entries rcm).locked then (.waiting tradeNo rcm, orderLocks)
    else (.holding tradeNo rcm, orderLocks.setLocked rcm true)
  | .holding tradeNo _ =>
    match orderLocks.table tradeNo with
    | none => (.idle, orderLocks)
    | some rcm => (.unlocking tradeNo rcm, orderLocks)
  | .unlocking tradeNo rcm => (.releasing tradeNo rcm, orderLocks.setLocked rcm false)
  | .releasing tradeNo rcm => (.idle, orderLocks.release tradeNo rcm)

section Goroutines

variable {ι : Type}

/-- At most one goroutine has the lock of an order, whoever waits does so at the entry in the map, and the entries in the
map are those with a positive count, which counts the goroutines with a reference. -/
structure OrderLocksSafe (c : Sys ι (LockMap String) OrderLockPlace) : Prop where
  exclusive : ∀ {i j tradeNo rcm rcm'}, (c.procs i).phase = .inside tradeNo rcm →
    (c.procs j).phase = .inside tradeNo rcm' → i = j
  waits : ∀ {i tradeNo rcm}, c.procs i = .waiting tradeNo rcm → c.shared.table tradeNo = some rcm
  live : ∀ rcm, 0 < (c.shared.entries rcm).refCount ↔ ∃ tradeNo, c.shared.table tradeNo = some rcm
  counted : ∀ {tradeNo rcm}, c.shared.table tradeNo = some rcm → ∃ refs : Finset ι,
    (∀ i, i ∈ refs ↔ (c.procs i).phase.ref = some (tradeNo, rcm)) ∧ (c.shared.entries rcm).refCount = refs.card

structure OrderLocksInv (c : Sys ι (LockMap String) OrderLockPlace) : Prop where
  locks : c.shared.Ok fun i => (c.procs i).phase
  live : c.shared.Live

theorem OrderLocksInv.safe {c : Sys ι (LockMap String) OrderLockPlace} (h : OrderLocksInv c) : OrderLocksSafe c where
  exclusive hi hj := h.locks.exclusive hi hj
  waits hi := h.locks.current (by rw [hi]; rfl)
  live := h.live
  counted ht := h.locks.counted ht

variable [DecidableEq ι] {m : LockMap String} {phase : ι → Phase String} {i : ι} {place : OrderLockPlace}

/-- **One statement keeps the invariant.** A goroutine that unlocks finds the entry that it has locked. -/
theorem orderLockProg_ok (tradeNo : String) (h : m.Ok phase) (hlive : m.Live) (hi : phase i = place.phase) :
    (orderLockProg place tradeNo m).2.Ok (Function.update phase i (orderLockProg place tradeNo m).1.phase) ∧
      (orderLockProg place tradeNo m).2.Live := by
  have hstay : m.Ok (Function.update phase i place.phase) ∧ m.Live := by
    rw [← hi, Function.update_eq_self]
    exact ⟨h, hlive⟩
  cases place with
  | idle => exact ⟨h.retain hi tradeNo, hlive.retain tradeNo⟩
  | waiting tradeNo rcm =>
    rw [orderLockProg]
    split
    · exact hstay
    · rename_i hfree
      exact ⟨h.lock hi (Bool.eq_false_iff.2 hfree), hlive.setLocked rcm true⟩
  | holding tradeNo rcm =>
    have hcur : m.table tradeNo = some rcm := h.current (by rw [hi]; rfl)
    simp only [orderLockProg, hcur]
    exact hstay
  | unlocking tradeNo rcm => exact ⟨h.unlock hi, hlive.setLocked rcm false⟩
  | releasing tradeNo rcm =>
    have hcur : m.table tradeNo = some rcm := h.current (by rw [hi]; rfl)
    exact ⟨h.release hi, hlive.release h hcur⟩

/-- **The locks of orders are safe** in every state of every interleaving of any number of goroutines. -/
theorem orderLocks_safe (actions : List (ι × String)) :
    Always (Sys.step orderLockProg) OrderLocksSafe ⟨LockMap.empty, fun _ : ι => .idle⟩ actions := by
  refine always_of_inv (I := OrderLocksInv) (fun c a _ h => ?_) (fun _ h => h.safe)
    (along_of_forall fun _ _ => trivial) ⟨LockMap.ok_empty, LockMap.live_empty⟩
  obtain ⟨hok, hlive⟩ := orderLockProg_ok a.2 h.locks h.live rfl
  refine ⟨?_, hlive⟩
  rw [Sys.step_map_procs]
  exact hok

end Goroutines

end SynthApi
