import Mathlib.Data.Finset.Card

/-!
# Locks by key, with reference counts

A map holds one lock for each key that is in use. A process takes a reference to the entry of its key, which creates the
entry if there is none, then locks the entry, unlocks it, and gives the reference back; the last reference removes the entry
from the map. The map itself is only touched under a lock of its own, so that `retain` and `release` are single steps.
Entries live on a heap: `release` takes an entry out of the map, but a process that still has it keeps its own.

`Phase` says where a process stands, and `LockMap.Ok` relates the map to the phases of all processes. The four operations
keep it (`Ok.retain`, `Ok.lock`, `Ok.unlock`, `Ok.release`), and it gives mutual exclusion for each key (`Ok.exclusive`).
The map has exactly the entries with references (`Live`).
-/

namespace Lib

open Function

structure LockEntry where
  locked : Bool
  refCount : Int
  deriving DecidableEq, Repr

/-- The map of the entries in use, and the heap of all entries that were ever made. -/
structure LockMap (κ : Type*) where
  table : κ → Option Nat
  entries : Nat → LockEntry
  next : Nat

/-- Where a process stands: with the key and the entry to which it has a reference. -/
inductive Phase (κ : Type*) where
  | outside
  | waiting (k : κ) (e : Nat)
  | inside (k : κ) (e : Nat)
  | leaving (k : κ) (e : Nat)

namespace Phase

variable {κ : Type*}

/-- The reference of the process. -/
def ref : Phase κ → Option (κ × Nat)
  | .outside => none
  | .waiting k e | .inside k e | .leaving k e => some (k, e)

end Phase

namespace LockMap

variable {κ : Type*}

def empty : LockMap κ := ⟨fun _ => none, fun _ => ⟨false, 0⟩, 0⟩

/-- A reference to the entry of `k`. -/
def retain [DecidableEq κ] (m : LockMap κ) (k : κ) : Nat × LockMap κ :=
  match m.table k with
  | some e =>
    (e, { m with entries := update m.entries e { m.entries e with refCount := (m.entries e).refCount + 1 } })
  | none =>
    (m.next, ⟨update m.table k (some m.next), update m.entries m.next ⟨false, 1⟩, m.next + 1⟩)

def setLocked (m : LockMap κ) (e : Nat) (locked : Bool) : LockMap κ :=
  { m with entries := update m.entries e { m.entries e with locked := locked } }

/-- Give the reference back. -/
def release [DecidableEq κ] (m : LockMap κ) (k : κ) (e : Nat) : LockMap κ :=
  let refCount := (m.entries e).refCount - 1
  { m with table := if refCount = 0 then update m.table k none else m.table
           entries := update m.entries e { m.entries e with refCount := refCount } }

variable {ι : Type*}

structure Ok (m : LockMap κ) (phase : ι → Phase κ) : Prop where
  /-- Who has a reference has it to the entry in the map. -/
  current : ∀ {i k e}, (phase i).ref = some (k, e) → m.table k = some e
  /-- An entry counts its references. -/
  counted : ∀ {k e}, m.table k = some e →
    ∃ refs : Finset ι, (∀ i, i ∈ refs ↔ (phase i).ref = some (k, e)) ∧ (m.entries e).refCount = refs.card
  /-- No entry serves two keys. -/
  own : ∀ {k k' e}, m.table k = some e → m.table k' = some e → k = k'
  allocated : ∀ {k e}, m.table k = some e → e < m.next
  locked : ∀ {i k e}, phase i = .inside k e → (m.entries e).locked = true
  alone : ∀ {i j k e}, phase i = .inside k e → phase j = .inside k e → i = j

section Rules

variable {m : LockMap κ} {phase : ι → Phase κ} {i : ι} {k : κ} {e : Nat}

theorem ok_empty : Ok (empty : LockMap κ) fun _ : ι => .outside :=
  ⟨nofun, nofun, nofun, nofun, nofun, nofun⟩

variable {e' : Nat} {j : ι} {p : Phase κ} {k' : κ}

/-- **Mutual exclusion**: no two processes are inside with the same key. -/
theorem Ok.exclusive (h : Ok m phase) (hi : phase i = .inside k e) (hj : phase j = .inside k e') : i = j := by
  have hcur := h.current (by rw [hi]; rfl)
  have hcur' := h.current (by rw [hj]; rfl)
  rw [hcur, Option.some.injEq] at hcur'
  subst hcur'
  exact h.alone hi hj

variable [DecidableEq ι]

theorem update_cases {β : Type*} (f : Phase κ → β) {b : β}
    (h : f (update phase i p j) = b) : j = i ∧ f p = b ∨ j ≠ i ∧ f (phase j) = b := by
  by_cases hj : j = i
  · exact .inl ⟨hj, by rwa [hj, update_self] at h⟩
  · exact .inr ⟨hj, by rwa [update_of_ne hj] at h⟩

theorem ref_update (hp : p.ref = (phase i).ref) : (update phase i p j).ref = (phase j).ref := by
  by_cases hj : j = i
  · subst hj
    rw [update_self, hp]
  · rw [update_of_ne hj]

theorem Ok.setLocked (h : Ok m phase) {locked : Bool} (hp : p.ref = (phase i).ref)
    (hlocked : ∀ {j k' e'}, update phase i p j = .inside k' e' →
      ((m.setLocked e locked).entries e').locked)
    (halone : ∀ {j j' k' e'}, update phase i p j = .inside k' e' → update phase i p j' = .inside k' e' →
      j = j') : Ok (m.setLocked e locked) (update phase i p) := by
  refine ⟨fun {j k' e'} hj => ?_, fun {k' e'} ht => ?_, h.own, h.allocated, hlocked, halone⟩
  · rw [ref_update hp] at hj
    exact h.current hj
  · obtain ⟨refs, hrefs, hcount⟩ := h.counted ht
    refine ⟨refs, fun j => by rw [ref_update hp, hrefs], ?_⟩
    rw [← hcount]
    by_cases he : e' = e <;> simp [LockMap.setLocked, he]

theorem Ok.lock (h : Ok m phase) (hi : phase i = .waiting k e) (hfree : (m.entries e).locked = false) :
    Ok (m.setLocked e true) (update phase i (.inside k e)) := by
  have hnobody : ∀ {j k'}, phase j ≠ .inside k' e := by
    intro j k' hj
    rw [h.locked hj] at hfree
    cases hfree
  refine h.setLocked (by rw [hi]; rfl) (fun {j k' e'} hj => ?_) fun {j j' k' e'} hj hj' => ?_
  · by_cases he : e' = e
    · subst he
      simp [LockMap.setLocked]
    · rcases update_cases id hj with ⟨-, hj⟩ | ⟨-, hj⟩
      · cases hj
        exact absurd rfl he
      · simpa [LockMap.setLocked, he] using h.locked hj
  · rcases update_cases id hj with ⟨hji, hj⟩ | ⟨-, hj⟩ <;> rcases update_cases id hj' with ⟨hji', hj'⟩ | ⟨-, hj'⟩
    · rw [hji, hji']
    · -- the other one is inside with an entry that was free
      cases hj
      exact absurd hj' hnobody
    · cases hj'
      exact absurd hj hnobody
    · exact h.alone hj hj'

theorem Ok.unlock (h : Ok m phase) (hi : phase i = .inside k e) :
    Ok (m.setLocked e false) (update phase i (.leaving k e)) := by
  have hwas : ∀ {j k' e'}, update phase i (.leaving k e) j = .inside k' e' → j ≠ i ∧ phase j = .inside k' e' := by
    intro j k' e' hj
    exact (update_cases id hj).resolve_left fun hj => by cases hj.2
  refine h.setLocked (by rw [hi]; rfl) (fun {j k' e'} hj => ?_) fun hj hj' => h.alone (hwas hj).2 (hwas hj').2
  obtain ⟨hji, hin⟩ := hwas hj
  have he : e' ≠ e := by
    rintro rfl
    have hkey := h.own (h.current (by rw [hin]; rfl)) (h.current (by rw [hi]; rfl))
    subst hkey
    exact hji (h.alone hin hi)
  simpa [LockMap.setLocked, he] using h.locked hin

theorem inside_update (hp : ∀ k' e', p ≠ .inside k' e')
    (hj : update phase i p j = .inside k' e') : phase j = .inside k' e' :=
  ((update_cases id hj).resolve_left fun hj => hp k' e' hj.2).2

theorem ref_waiting (hj : (update phase i (.waiting k e) j).ref = some (k', e')) :
    j = i ∧ k' = k ∧ e' = e ∨ (phase j).ref = some (k', e') := by
  rcases update_cases Phase.ref hj with ⟨hji, hj⟩ | ⟨-, hj⟩
  · cases hj
    exact .inl ⟨hji, rfl, rfl⟩
  · exact .inr hj

theorem inside_waiting (hj : update phase i (.waiting k e) j = .inside k' e') :
    phase j = .inside k' e' :=
  inside_update (fun _ _ hc => by cases hc) hj

theorem refs_waiting (hi : phase i = .outside) (hne : (k', e') ≠ (k, e)) {refs : Finset ι}
    (hrefs : ∀ j, j ∈ refs ↔ (phase j).ref = some (k', e')) (j : ι) :
    j ∈ refs ↔ (update phase i (.waiting k e) j).ref = some (k', e') := by
  rw [hrefs]
  by_cases hji : j = i
  · subst hji
    simp [hi, Phase.ref, Ne.symm hne]
  · rw [update_of_ne hji]

variable [DecidableEq κ]

variable (h : Ok m phase)

include h

variable (hi : phase i = .outside)

include hi

theorem Ok.retain_some (ht : m.table k = some e) :
    Ok (m.retain k).2 (update phase i (.waiting k (m.retain k).1)) := by
  unfold LockMap.retain
  rw [ht]
  refine ⟨fun {j k' e'} hj => ?_, fun {k' e'} ht' => ?_, h.own, h.allocated, fun {j k' e'} hj => ?_,
    fun hj hj' => h.alone (inside_waiting hj) (inside_waiting hj')⟩
  · rcases ref_waiting hj with ⟨-, rfl, rfl⟩ | hj
    · exact ht
    · exact h.current hj
  · obtain ⟨refs, hrefs, hcount⟩ := h.counted ht'
    by_cases he : e' = e
    · -- one more reference
      subst he
      have hk : k' = k := h.own ht' ht
      subst hk
      have hnew : i ∉ refs := by
        rw [hrefs, hi]
        simp [Phase.ref]
      refine ⟨insert i refs, fun j => ?_, ?_⟩
      · by_cases hji : j = i
        · subst hji
          simp [Phase.ref]
        · simp [hji, hrefs]
      · rw [Finset.card_insert_of_notMem hnew]
        simp [hcount]
    · exact ⟨refs, refs_waiting hi (by simp [he]) hrefs, by simp [he, hcount]⟩
  · have hlocked := h.locked (inside_waiting hj)
    by_cases he : e' = e
    · subst he
      simpa using hlocked
    · simpa [he] using hlocked

theorem Ok.retain_none (ht : m.table k = none) :
    Ok (m.retain k).2 (update phase i (.waiting k (m.retain k).1)) := by
  unfold LockMap.retain
  rw [ht]
  have hold : ∀ {k' e'}, update m.table k (some m.next) k' = some e' →
      k' = k ∧ e' = m.next ∨ k' ≠ k ∧ m.table k' = some e' ∧ e' < m.next := by
    intro k' e' ht'
    by_cases hk : k' = k
    · subst hk
      rw [update_self, Option.some.injEq] at ht'
      exact .inl ⟨rfl, ht'.symm⟩
    · rw [update_of_ne hk] at ht'
      exact .inr ⟨hk, ht', h.allocated ht'⟩
  -- nobody has a reference with this key yet
  have hnobody : ∀ {j e'}, (phase j).ref ≠ some (k, e') := by
    intro j e' hj
    have hcur := h.current hj
    rw [ht] at hcur
    cases hcur
  refine ⟨fun {j k' e'} hj => ?_, fun {k' e'} ht' => ?_, fun {k₁ k₂ e'} h₁ h₂ => ?_, fun {k' e'} ht' => ?_,
    fun {j k' e'} hj => ?_, fun hj hj' => h.alone (inside_waiting hj) (inside_waiting hj')⟩
  · rcases ref_waiting hj with ⟨-, rfl, rfl⟩ | hold'
    · simp
    · have hk : k' ≠ k := by
        rintro rfl
        exact hnobody hold'
      exact (update_of_ne hk _ _).trans (h.current hold')
  · rcases hold ht' with ⟨rfl, rfl⟩ | ⟨hk, htab, hlt⟩
    · refine ⟨{i}, fun j => ?_, by simp⟩
      by_cases hji : j = i
      · subst hji
        simp [Phase.ref]
      · rw [update_of_ne hji]
        simp only [Finset.mem_singleton, hji, false_iff]
        exact hnobody
    · obtain ⟨refs, hrefs, hcount⟩ := h.counted htab
      exact ⟨refs, refs_waiting hi (by simp [hk]) hrefs, by simp [hlt.ne, hcount]⟩
  · rcases hold h₁ with ⟨rfl, rfl⟩ | ⟨-, h₁, hlt⟩
    · rcases hold h₂ with ⟨rfl, -⟩ | ⟨-, -, hlt⟩
      · rfl
      · exact absurd hlt (lt_irrefl _)
    · rcases hold h₂ with ⟨-, rfl⟩ | ⟨-, h₂, -⟩
      · exact absurd hlt (lt_irrefl _)
      · exact h.own h₁ h₂
  · rcases hold ht' with ⟨-, rfl⟩ | ⟨-, -, hlt⟩
    · exact Nat.lt_succ_self _
    · exact Nat.lt_succ_of_lt hlt
  · have hin := inside_waiting hj
    have hlt := h.allocated (h.current (by rw [hin]; rfl))
    simpa [hlt.ne] using h.locked hin

theorem Ok.retain (k : κ) :
    Ok (m.retain k).2 (update phase i (.waiting k (m.retain k).1)) := by
  cases ht : m.table k with
  | some e => exact h.retain_some hi ht
  | none => exact h.retain_none hi ht

omit hi

theorem Ok.release (hi : phase i = .leaving k e) : Ok (m.release k e) (update phase i .outside) := by
  have hin : ∀ {j k' e'}, update phase i .outside j = .inside k' e' → phase j = .inside k' e' :=
    fun hj => inside_update (fun _ _ hc => by cases hc) hj
  have href : ∀ {j k' e'}, (update phase i .outside j).ref = some (k', e') →
      j ≠ i ∧ (phase j).ref = some (k', e') := by
    intro j k' e' hj
    exact (update_cases Phase.ref hj).resolve_left fun hj => by cases hj.2
  have hmine : (phase i).ref = some (k, e) := by rw [hi]; rfl
  have htab := h.current hmine
  obtain ⟨refs, hrefs, hcount⟩ := h.counted htab
  have hmem : i ∈ refs := (hrefs i).2 hmine
  -- what is left in the map was there before
  have hold : ∀ {k' e'}, (m.release k e).table k' = some e' → m.table k' = some e' := by
    intro k' e' ht'
    unfold LockMap.release at ht'
    dsimp only at ht'
    split at ht'
    · by_cases hk : k' = k
      · subst hk
        rw [update_self] at ht'
        cases ht'
      · rwa [update_of_ne hk] at ht'
    · exact ht'
  refine ⟨fun {j k' e'} hj => ?_, fun {k' e'} ht' => ?_, fun h₁ h₂ => h.own (hold h₁) (hold h₂),
    fun ht' => h.allocated (hold ht'), fun {j k' e'} hj => ?_, fun hj hj' => h.alone (hin hj) (hin hj')⟩
  · obtain ⟨hji, hj⟩ := href hj
    have hcur := h.current hj
    unfold LockMap.release
    dsimp only
    split
    · -- the last reference was that of `i`
      have hcard : refs.card = 1 := by omega
      have hk : k' ≠ k := by
        rintro rfl
        rw [htab, Option.some.injEq] at hcur
        subst hcur
        have hj' : j ∈ refs := (hrefs j).2 hj
        exact hji (Finset.card_le_one.1 hcard.le j hj' i hmem)
      rwa [update_of_ne hk]
    · exact hcur
  · have hcur := hold ht'
    obtain ⟨refs', hrefs', hcount'⟩ := h.counted hcur
    by_cases he : e' = e
    · subst he
      have hk : k' = k := h.own hcur htab
      subst hk
      have hmem' : i ∈ refs' := (hrefs' i).2 hmine
      refine ⟨refs'.erase i, fun j => ?_, ?_⟩
      · by_cases hji : j = i
        · subst hji
          simp [Phase.ref]
        · simp [hji, hrefs']
      · have hpos := Finset.card_pos.2 ⟨i, hmem'⟩
        rw [Finset.card_erase_of_mem hmem']
        simp only [LockMap.release, update_self]
        omega
    · refine ⟨refs', fun j => ?_, by simp [LockMap.release, he, hcount']⟩
      rw [hrefs']
      by_cases hji : j = i
      · subst hji
        simp [hi, Phase.ref, Ne.symm he]
      · rw [update_of_ne hji]
  · have hlocked := h.locked (hin hj)
    by_cases he : e' = e
    · subst he
      simpa [LockMap.release] using hlocked
    · simpa [LockMap.release, he] using hlocked

end Rules

/-! ## Entries in use -/

/-- The entries in the map are those with a positive reference count. -/
def Live (m : LockMap κ) : Prop := ∀ e, 0 < (m.entries e).refCount ↔ ∃ k, m.table k = some e

section Live

variable {m : LockMap κ} {phase : ι → Phase κ} {k : κ} {e : Nat}

theorem live_empty : Live (empty : LockMap κ) := fun e => by simp [empty]

theorem Live.setLocked (h : Live m) (e : Nat) (locked : Bool) : Live (m.setLocked e locked) := by
  intro e'
  rw [show (m.setLocked e locked).table = m.table from rfl, ← h e']
  by_cases he : e' = e <;> simp [LockMap.setLocked, he]

variable [DecidableEq κ]

theorem Live.retain (h : Live m) (k : κ) : Live (m.retain k).2 := by
  intro e'
  unfold LockMap.retain
  cases ht : m.table k with
  | some e =>
    by_cases he : e' = e
    · have hpos := (h e).2 ⟨k, ht⟩
      simp only [he, update_self]
      exact ⟨fun _ => ⟨k, ht⟩, fun _ => by omega⟩
    · simpa [he] using h e'
  | none =>
    by_cases he : e' = m.next
    · subst he
      simp only [update_self]
      exact ⟨fun _ => ⟨k, update_self ..⟩, fun _ => Int.one_pos⟩
    · simp only [update_of_ne he, h e']
      refine exists_congr fun k' => ?_
      by_cases hk : k' = k
      · subst hk
        simp [ht, Ne.symm he]
      · rw [update_of_ne hk]

theorem Live.release (h : Live m) (hok : Ok m phase) (ht : m.table k = some e) : Live (m.release k e) := by
  intro e'
  have hpos := (h e).2 ⟨k, ht⟩
  by_cases he : e' = e
  · subst he
    simp only [LockMap.release, update_self]
    split
    · rename_i hzero
      simp only [hzero, Int.lt_irrefl, false_iff, not_exists]
      intro k' ht'
      by_cases hk : k' = k
      · simp [hk] at ht'
      · rw [update_of_ne hk] at ht'
        exact hk (hok.own ht' ht)
    · exact ⟨fun _ => ⟨k, ht⟩, fun _ => by omega⟩
  · simp only [LockMap.release, update_of_ne he, h e']
    refine exists_congr fun k' => ?_
    split
    · by_cases hk : k' = k
      · simp [hk, ht, Ne.symm he]
      · rw [update_of_ne hk]
    · rfl

end Live

end LockMap

end Lib
