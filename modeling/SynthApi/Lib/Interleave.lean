import SynthApi.Lib.Run

/-!
# Interleaved processes over a shared state

A process is run by a function `prog : π → α → σ → π × σ`: from the place where it stands, with an input, it executes
one atomic statement on the shared state. A system has one process for each index, any number of them; an action
`(i, a)` lets process `i` execute its next statement with the input `a`. The runs of `Sys.step` are all interleavings.

The rule is the one for annotated programs: give every place of a process an assertion about the shared state. If a
statement leads from the assertion of its place to the assertion of the next place, and disturbs no assertion at which
another process stands, then all assertions hold together throughout (`Sys.step_asserts`).

For a section of the processes that a lock of the shared state guards, `Sys.step_exclusive` says that at most one
process is inside, and `Sys.step_locked` that the assertions hold as well. `Sys.step_guarded` is the rule for what such
a section protects: the process inside has an assertion of its own about the shared state, and while nobody is inside
the shared state is at rest.
-/

namespace Lib

/-- The shared state and the places of the processes. -/
structure Sys (ι σ π : Type*) where
  shared : σ
  procs : ι → π

namespace Sys

variable {ι σ π α : Type*} [DecidableEq ι] (prog : π → α → σ → π × σ)

/-- Process `a.1` executes its next statement. -/
def step (c : Sys ι σ π) (a : ι × α) : Sys ι σ π :=
  ⟨(prog (c.procs a.1) a.2 c.shared).2, Function.update c.procs a.1 (prog (c.procs a.1) a.2 c.shared).1⟩

/-- The place and the shared state after the statement. -/
abbrev moved (c : Sys ι σ π) (a : ι × α) : π × σ := prog (c.procs a.1) a.2 c.shared

/-- The assertions of all processes hold. -/
def Asserts (A : ι → π → σ → Prop) (c : Sys ι σ π) : Prop := ∀ i, A i (c.procs i) c.shared

variable {prog} {c : Sys ι σ π} {a : ι × α} {A : ι → π → σ → Prop}

@[simp] theorem step_shared : (step prog c a).shared = (prog (c.procs a.1) a.2 c.shared).2 := rfl

@[simp] theorem step_procs_self : (step prog c a).procs a.1 = (prog (c.procs a.1) a.2 c.shared).1 := by simp [step]

theorem step_procs_ne {j : ι} (h : j ≠ a.1) : (step prog c a).procs j = c.procs j := by simp [step, h]

theorem step_map_procs {β : Type*} (f : π → β) : (fun j => f ((step prog c a).procs j)) =
    Function.update (fun j => f (c.procs j)) a.1 (f (prog (c.procs a.1) a.2 c.shared).1) :=
  Function.comp_update f c.procs a.1 _

/-- The places after a step: the one of the process that moved, and the others. -/
theorem step_procs_of {P : ι → π → Prop} (hown : P a.1 (moved prog c a).1)
    (hother : ∀ j, j ≠ a.1 → P j (c.procs j)) (j : ι) : P j ((step prog c a).procs j) := by
  by_cases hj : j = a.1
  · subst hj
    rw [step_procs_self]
    exact hown
  · rw [step_procs_ne hj]
    exact hother j hj

/-- The statements of a process that nobody interrupts. -/
def solo (prog : π → α → σ → π × σ) (p : π) (s : σ) (as : List α) : π × σ :=
  as.foldl (fun x a => prog x.1 a x.2) (p, s)

theorem run_solo (i : ι) (as : List α) :
    run (step prog) c (as.map fun a => (i, a)) =
      ⟨(solo prog (c.procs i) c.shared as).2, Function.update c.procs i (solo prog (c.procs i) c.shared as).1⟩ := by
  induction as generalizing c with
  | nil => simp [solo]
  | cons a as ih =>
    rw [List.map_cons, run_cons, ih]
    simp [step, solo]

/-- **The rule for annotated processes.** -/
theorem step_asserts
    (hown : A a.1 (moved prog c a).1 (moved prog c a).2)
    (hother : ∀ j, j ≠ a.1 → A j (c.procs j) (moved prog c a).2) : Asserts A (step prog c a) :=
  step_procs_of (P := fun j p => A j p (moved prog c a).2) hown hother

/-! ## Locked sections -/

/-- At most one process is inside the section, and the lock is taken while one is. -/
structure Exclusive (inside : π → Prop) (locked : σ → Prop) (c : Sys ι σ π) : Prop where
  unique : ∀ {i j}, inside (c.procs i) → inside (c.procs j) → i = j
  taken : ∀ {i}, inside (c.procs i) → locked c.shared

variable {inside : π → Prop} {locked R : σ → Prop}

/-- If a process enters only while nobody is inside, at most one is inside after the step. -/
theorem step_unique (h : ∀ {i j}, inside (c.procs i) → inside (c.procs j) → i = j)
    (henter : ¬ inside (c.procs a.1) → inside (moved prog c a).1 → ∀ j, ¬ inside (c.procs j))
    {i j : ι} (hi : inside ((step prog c a).procs i)) (hj : inside ((step prog c a).procs j)) : i = j := by
  -- if the process that moved is inside, nobody else is
  have halone : ∀ {j}, inside (moved prog c a).1 → j ≠ a.1 → ¬ inside (c.procs j) := by
    intro j hin hj hj'
    by_cases hwas : inside (c.procs a.1)
    · exact hj (h hj' hwas)
    · exact henter hwas hin j hj'
  by_cases hia : i = a.1
  · by_contra hne
    have hja : j ≠ a.1 := fun e => hne (hia.trans e.symm)
    rw [hia, step_procs_self] at hi
    rw [step_procs_ne hja] at hj
    exact halone hi hja hj
  · rw [step_procs_ne hia] at hi
    by_cases hja : j = a.1
    · rw [hja, step_procs_self] at hj
      exact absurd hi (halone hj hia)
    · rw [step_procs_ne hja] at hj
      exact h hi hj

/-- **The rule for locked sections**: a process enters when the lock is free and takes it, and nobody else frees it. -/
theorem step_exclusive (h : Exclusive inside locked c)
    (henter : ¬ inside (c.procs a.1) → inside (moved prog c a).1 → ¬ locked c.shared)
    (htakes : inside (moved prog c a).1 → locked (moved prog c a).2)
    (hkeeps : ¬ inside (c.procs a.1) → locked c.shared → locked (moved prog c a).2) :
    Exclusive inside locked (step prog c a) := by
  refine ⟨step_unique h.unique fun hno hin j hj => henter hno hin (h.taken hj), fun {i} hi => ?_⟩
  by_cases hia : i = a.1
  · subst hia
    rw [step_procs_self] at hi
    exact htakes hi
  · rw [step_procs_ne hia] at hi
    exact hkeeps (fun hwas => hia (h.unique hi hwas)) (h.taken hi)

/-- **The rule for what a lock protects**: whoever is outside the section waits while the lock is taken, and its
assertion says nothing about the shared state. -/
theorem step_locked (h : Exclusive inside locked c) (hA : Asserts A c)
    (hout : ∀ {j p s s'}, ¬ inside p → A j p s → A j p s')
    (hown : A a.1 (moved prog c a).1 (moved prog c a).2)
    (henter : ¬ inside (c.procs a.1) → inside (moved prog c a).1 → ¬ locked c.shared)
    (htakes : inside (moved prog c a).1 → locked (moved prog c a).2)
    (hwaits : ¬ inside (c.procs a.1) → locked c.shared → (moved prog c a).2 = c.shared) :
    Exclusive inside locked (step prog c a) ∧ Asserts A (step prog c a) := by
  refine ⟨step_exclusive h henter htakes fun hno hlock => ?_, step_asserts hown fun j hj => ?_⟩
  · rw [hwaits hno hlock]
    exact hlock
  · by_cases hin : inside (c.procs j)
    · -- the other process has the lock, so this one has waited
      rw [hwaits (fun hin' => hj (h.unique hin hin')) (h.taken hin)]
      exact hA j
    · exact hout hin (hA j)

/-! ## Guarded sections -/

/-- At most one process is inside the section, every process has the assertion of its place, and `R` holds of the shared
state while nobody is inside. -/
structure Guarded (inside : π → Prop) (A : π → σ → Prop) (R : σ → Prop) (c : Sys ι σ π) : Prop where
  unique : ∀ {i j}, inside (c.procs i) → inside (c.procs j) → i = j
  asserts : ∀ i, A (c.procs i) c.shared
  rest : (∀ i, ¬ inside (c.procs i)) → R c.shared

omit [DecidableEq ι] in
/-- Nobody else is inside with the process that is. -/
theorem Guarded.alone {A : π → σ → Prop} (h : Guarded inside A R c) {i j : ι} (hi : inside (c.procs i))
    (hj : j ≠ i) : ¬ inside (c.procs j) :=
  fun hin => hj (h.unique hin hi)

/-- **The rule for guarded sections.** -/
theorem step_guarded {A : π → σ → Prop} (h : Guarded inside A R c)
    (henter : ¬ inside (c.procs a.1) → inside (moved prog c a).1 → ∀ j, ¬ inside (c.procs j))
    (hown : A (moved prog c a).1 (moved prog c a).2)
    (hother : ∀ j, j ≠ a.1 → A (c.procs j) (moved prog c a).2)
    (hrest : ¬ inside (moved prog c a).1 → (∀ j, j ≠ a.1 → ¬ inside (c.procs j)) →
      R (moved prog c a).2) : Guarded inside A R (step prog c a) := by
  refine ⟨step_unique h.unique henter, fun i => step_asserts hown hother i, fun hout => ?_⟩
  have hself := hout a.1
  rw [step_procs_self] at hself
  refine hrest hself fun j hj => ?_
  have := hout j
  rwa [step_procs_ne hj] at this

end Sys

end Lib
