import SynthApi.Lib.Run

/-!
# Components that hand out leases

A component admits a request or rejects it with a reason; an admitted request gets a release function that takes effect
once. `Leasing.step` runs such a component over a sequence of calls, in which a release names the request by its place
among the requests so far. Two components give the same answers to every sequence of calls if a relation between their
states gives equal answers and is kept by admitting and by releasing (`Leasing.agree`).
-/

namespace Lib

/-- A component with requests `α` and reasons `ρ` for a rejection. -/
structure Leasing (σ α ρ : Type*) where
  acquire : σ → α → Option ρ × σ
  release : σ → α → σ

inductive LeaseCall (α : Type*) where
  | acquire (a : α)
  /-- The release function of the request at this place is called. -/
  | release (place : Nat)
  deriving DecidableEq, Repr

/-- The component, the release functions that have not taken effect, and the answers so far. -/
structure Leases (σ α ρ : Type*) where
  state : σ
  handles : List (Option α)
  answers : List (Option ρ)

namespace Leasing

variable {σ τ α ρ : Type*} (m : Leasing σ α ρ) (m' : Leasing τ α ρ)

def start (s : σ) : Leases σ α ρ := ⟨s, [], []⟩

def step (l : Leases σ α ρ) : LeaseCall α → Leases σ α ρ
  | .acquire a =>
    ⟨(m.acquire l.state a).2, l.handles ++ [if (m.acquire l.state a).1.isNone then some a else none],
      l.answers ++ [(m.acquire l.state a).1]⟩
  | .release place =>
    match l.handles[place]?.join with
    | some a => ⟨m.release l.state a, l.handles.set place none, l.answers⟩
    | none => l

variable {m m'} {R : σ → τ → Prop} {P : α → Prop} {l : Leases σ α ρ} {place : Nat}

theorem step_release_none (h : l.handles[place]?.join = none) : m.step l (.release place) = l := by
  simp only [step, h]

theorem step_release_some {a : α} (h : l.handles[place]?.join = some a) :
    m.step l (.release place) = ⟨m.release l.state a, l.handles.set place none, l.answers⟩ := by
  simp only [step, h]

/-- The states of two components are related, they have handed out the same leases, all of the kind `P`, and have given
the same answers. -/
structure Agree (R : σ → τ → Prop) (P : α → Prop) (l : Leases σ α ρ) (l' : Leases τ α ρ) : Prop where
  related : R l.state l'.state
  handles : l.handles = l'.handles
  kind : ∀ a, some a ∈ l.handles → P a
  answers : l.answers = l'.answers

def CallOf (P : α → Prop) (c : LeaseCall α) : Prop := ∀ a, c = .acquire a → P a

variable (hacquire : ∀ {s s'} (a : α), P a → R s s' → (m.acquire s a).1 = (m'.acquire s' a).1 ∧ R (m.acquire s a).2 (m'.acquire s' a).2)

include hacquire

theorem agree_step
    (hrelease : ∀ {s s'} (a : α), P a → R s s' → R (m.release s a) (m'.release s' a))
    {l' : Leases τ α ρ} {c : LeaseCall α} (hc : CallOf P c) (h : Agree R P l l') : Agree R P (m.step l c) (m'.step l' c) := by
  cases c with
  | acquire a =>
    obtain ⟨hans, hrel⟩ := hacquire a (hc a rfl) h.related
    refine ⟨hrel, ?_, ?_, ?_⟩
    · simp only [step, hans, h.handles]
    · intro b hb
      simp only [step, List.mem_append, List.mem_singleton] at hb
      rcases hb with hb | hb
      · exact h.kind b hb
      · split at hb
        · cases hb
          exact hc a rfl
        · cases hb
    · simp only [step, hans, h.answers]
  | release place =>
    cases hplace : l.handles[place]?.join with
    | none =>
      rw [step_release_none hplace, step_release_none (h.handles ▸ hplace)]
      exact h
    | some a =>
      have hmem : some a ∈ l.handles := by
        rw [Option.join_eq_some_iff] at hplace
        exact List.mem_of_getElem? hplace
      rw [step_release_some hplace, step_release_some (h.handles ▸ hplace)]
      refine ⟨hrelease a (h.kind a hmem) h.related, congrArg (List.set · place none) h.handles, ?_, h.answers⟩
      intro b hb
      rcases List.mem_or_eq_of_mem_set hb with hb | hb
      · exact h.kind b hb
      · cases hb

/-- **The rule for equal answers.** -/
theorem agree
    (hrelease : ∀ {s s'} (a : α), P a → R s s' → R (m.release s a) (m'.release s' a)) {s : σ} {s' : τ} (h : R s s')
    {calls : List (LeaseCall α)} (hcalls : ∀ c ∈ calls, CallOf P c) :
    (run m.step (start s) calls).answers = (run m'.step (start s') calls).answers := by
  suffices hagree : ∀ {l l'}, Agree R P l l' → Agree R P (run m.step l calls) (run m'.step l' calls) from
    (hagree ⟨h, rfl, by simp [start], rfl⟩ : Agree R P (run m.step (start s) calls) (run m'.step (start s') calls)).answers
  induction calls with
  | nil => exact fun h => h
  | cons c calls ih =>
    intro l l' hl
    exact ih (fun d hd => hcalls d (List.mem_cons_of_mem c hd))
      (agree_step hacquire hrelease (hcalls c List.mem_cons_self) hl)

end Leasing

end Lib
