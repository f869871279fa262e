import SynthApi.Lib.Run

/-!
# Loops that the environment drives

`ForLoop` is a loop `for ; guard; post { body }` whose body reads at each turn what the environment answers. `step` makes
it a machine: an action is the answers of one turn. A `Spec` gives an invariant of the loop's head and a measure that every
turn that goes on makes smaller; then the loop is over after at most as many turns as the measure is at the start
(`turns_le`, `ended_of_length`), and it ends in a state as the spec says (`ends`).

The body reports events. `trace_check` is the rule for protocols that every turn begins and ends at rest, `trace_count_le`
the rule for events that are paid from a potential.
-/

namespace Lib

/-- What a turn of a loop leaves. -/
structure Turn (σ ε : Type*) where
  state : σ
  /-- The turn ends with `continue`, not with `break` or `return`. -/
  again : Bool
  events : List ε

/-- `for ; guard; post { body }`; the body is told the number of its turn. -/
structure ForLoop (σ α ε : Type*) where
  guard : σ → Bool
  post : σ → σ
  body : Nat → σ → α → Turn σ ε

structure LoopState (σ : Type*) where
  state : σ
  turns : Nat
  ended : Bool

namespace ForLoop

variable {σ α ε : Type*} (l : ForLoop σ α ε)

def start (s : σ) : LoopState σ := ⟨s, 0, false⟩

def step (s : LoopState σ) (a : α) : LoopState σ :=
  if s.ended then s
  else if l.guard s.state then
    let t := l.body s.turns s.state a
    if t.again then ⟨l.post t.state, s.turns + 1, false⟩ else ⟨t.state, s.turns + 1, true⟩
  else { s with ended := true }

/-- What the next turn reports. -/
def events (s : LoopState σ) (a : α) : List ε :=
  if s.ended then [] else if l.guard s.state then (l.body s.turns s.state a).events else []

/-- What a step is: the loop is over, its guard fails, or a turn goes on or stops. -/
theorem step_cases (s : LoopState σ) (a : α) :
    let turn := l.body s.turns s.state a
    (s.ended ∧ l.step s a = s ∧ l.events s a = []) ∨
    (s.ended = false ∧ l.guard s.state = false ∧ l.step s a = { s with ended := true } ∧ l.events s a = []) ∨
    (s.ended = false ∧ l.guard s.state ∧ l.events s a = turn.events ∧
      (turn.again ∧ l.step s a = ⟨l.post turn.state, s.turns + 1, false⟩ ∨
        turn.again = false ∧ l.step s a = ⟨turn.state, s.turns + 1, true⟩)) := by
  unfold step events
  generalize l.body s.turns s.state a = turn
  cases hover : s.ended with
  | true => exact .inl ⟨rfl, by simp⟩
  | false =>
    cases hguard : l.guard s.state with
    | false => exact .inr (.inl ⟨rfl, rfl, by simp⟩)
    | true =>
      refine .inr (.inr ⟨rfl, rfl, by simp, ?_⟩)
      cases hagain : turn.again with
      | true => exact .inl ⟨rfl, by simp [hagain]⟩
      | false => exact .inr ⟨rfl, by simp [hagain]⟩

/-- An invariant `I` of the head of the loop, with a measure `left` of the turns to come, and what holds at the end. -/
structure Spec (I : σ → Prop) (left : σ → Nat) (Q : σ → Prop) : Prop where
  guard : ∀ {s}, I s → l.guard s = true
  pos : ∀ {s}, I s → 0 < left s
  again : ∀ {n s a}, I s → (l.body n s a).again = true →
    I (l.post (l.body n s a).state) ∧ left (l.post (l.body n s a).state) < left s
  stop : ∀ {n s a}, I s → (l.body n s a).again = false → Q (l.body n s a).state

variable {l} {I Q : σ → Prop} {left : σ → Nat} {s : LoopState σ}

/-- Where a loop stands that started with `bound` turns to come. -/
def Within (I : σ → Prop) (left : σ → Nat) (Q : σ → Prop) (bound : Nat) (s : LoopState σ) : Prop :=
  s.ended = false ∧ I s.state ∧ s.turns + left s.state ≤ bound ∨ s.ended = true ∧ Q s.state ∧ s.turns ≤ bound

theorem Spec.step_within (h : l.Spec I left Q) {bound : Nat} (s : LoopState σ) (a : α) (hs : Within I left Q bound s) :
    Within I left Q bound (l.step s a) := by
  rcases hs with ⟨hover, hI, hle⟩ | hend
  · rcases l.step_cases s a with ⟨hover', -⟩ | ⟨-, hguard, -⟩ | ⟨-, -, -, ⟨hagain, hstep⟩ | ⟨hstop, hstep⟩⟩
    · rw [hover] at hover'
      cases hover'
    · rw [h.guard hI] at hguard
      cases hguard
    · obtain ⟨hI', hlt⟩ := h.again hI hagain
      rw [hstep]
      exact .inl ⟨rfl, hI', by simp only; omega⟩
    · have hpos := h.pos hI
      rw [hstep]
      exact .inr ⟨rfl, h.stop hI hstop, by simp only; omega⟩
  · rcases l.step_cases s a with ⟨-, hstep, -⟩ | ⟨hover, -⟩ | ⟨hover, -⟩
    · rw [hstep]
      exact .inr hend
    · rw [hend.1] at hover
      cases hover
    · rw [hend.1] at hover
      cases hover

theorem within_start {s : σ} (hs : I s) : Within I left Q (left s) (start s) :=
  .inl ⟨rfl, hs, Nat.le_of_eq (Nat.zero_add _)⟩

/-- A loop that is over stays as it is. -/
theorem run_ended (h : s.ended) (as : List α) : (run l.step s as).ended :=
  run_inv (I := fun s : LoopState σ => s.ended) (fun s a hs => by simp [step, hs]) as h

theorem turns_eq {as : List α} (h : (run l.step s as).ended = false) :
    (run l.step s as).turns = s.turns + as.length := by
  induction as generalizing s with
  | nil => rfl
  | cons a as ih =>
    rw [run_cons] at h ⊢
    rw [ih h, List.length_cons]
    have hstep : (l.step s a).ended = false := by
      by_contra hne
      rw [run_ended (Bool.not_eq_false _ ▸ hne)] at h
      cases h
    rcases l.step_cases s a with ⟨ho, hs, -⟩ | ⟨-, -, hs, -⟩ | ⟨-, -, -, ⟨-, hs⟩ | ⟨-, hs⟩⟩
    · rw [hs, ho] at hstep
      cases hstep
    · rw [hs] at hstep
      cases hstep
    · rw [hs]
      simp only
      omega
    · rw [hs] at hstep
      cases hstep

section Bounds

variable (h : l.Spec I left Q) {s : σ} (hs : I s) (as : List α)

include h hs

theorem Spec.run_within : Within I left Q (left s) (run l.step (start s) as) :=
  run_inv h.step_within as (within_start hs)

/-- **The number of turns is bounded.** -/
theorem Spec.turns_le : (run l.step (start s) as).turns ≤ left s := by
  rcases h.run_within hs as with ⟨-, -, hle⟩ | ⟨-, -, hle⟩
  · omega
  · exact hle

/-- **The loop ends**, whatever the environment answers. -/
theorem Spec.ended_of_length (hlen : left s ≤ as.length) : (run l.step (start s) as).ended := by
  rcases h.run_within hs as with ⟨hover, hI, hle⟩ | ⟨hover, -, -⟩
  · have hturns : (run l.step (start s) as).turns = 0 + as.length := turns_eq hover
    have hpos := h.pos hI
    omega
  · exact hover

theorem Spec.ends (hover : (run l.step (start s) as).ended) : Q (run l.step (start s) as).state := by
  rcases h.run_within hs as with ⟨hover', -, -⟩ | ⟨-, hQ, -⟩
  · rw [hover] at hover'
    cases hover'
  · exact hQ

/-- **The rule for protocols**: if every turn takes `check` from rest to rest, so does the whole loop. -/
theorem Spec.trace_check {κ : Type*} {check : κ → ε → Option κ} {rest : κ}
    (hcheck : ∀ n s a, I s → (l.body n s a).events.foldlM check rest = some rest) :
    (trace l.step l.events (start s) as).foldlM check rest = some rest := by
  refine trace_foldlM h.step_within (fun s a hs => ?_) (within_start hs)
  rcases l.step_cases s a with ⟨-, -, he⟩ | ⟨-, -, -, he⟩ | ⟨hover, -, he, -⟩
  · rw [he]
    rfl
  · rw [he]
    rfl
  · rw [he]
    rcases hs with ⟨-, hI, -⟩ | ⟨hover', -, -⟩
    · exact hcheck _ _ _ hI
    · rw [hover] at hover'
      cases hover'

/-- **The rule for events that are paid for**: if every turn pays for its events of a kind from the potential `m`, there
are at most as many in the whole loop as the potential is at the start. -/
theorem Spec.trace_count_le {p : ε → Bool} {m : σ → Nat} (hpost : ∀ s, m (l.post s) = m s)
    (hpay : ∀ n s a, I s → (l.body n s a).events.countP p + m (l.body n s a).state ≤ m s) :
    (trace l.step l.events (start s) as).countP p ≤ m s := by
  refine Nat.le_of_add_right_le (trace_countP_le (m := fun s : LoopState σ => m s.state) h.step_within
    (fun s a hs => ?_) (within_start hs))
  rcases l.step_cases s a with ⟨-, hstep, he⟩ | ⟨-, -, hstep, he⟩ | ⟨hover, -, he, hturn⟩
  · simp [hstep, he]
  · simp [hstep, he]
  · rcases hs with ⟨-, hI, -⟩ | ⟨hover', -, -⟩
    · have := hpay s.turns s.state a hI
      rcases hturn with ⟨-, hstep⟩ | ⟨-, hstep⟩
      · rw [he, hstep]
        simpa [hpost] using this
      · rw [he, hstep]
        exact this
    · rw [hover] at hover'
      cases hover'

end Bounds

/-- **Events that carry the number of their turn are all different**, if those of a turn are. -/
theorem trace_nodup_of_number {number : ε → Nat} (hnumber : ∀ n s a, ∀ e ∈ (l.body n s a).events, number e = n)
    (hone : ∀ n s a, (l.body n s a).events.Nodup) (s : LoopState σ) (as : List α) :
    (trace l.step l.events s as).Nodup := by
  have hevents : ∀ s a, ∀ e ∈ l.events s a, number e = s.turns ∧ (l.step s a).turns = s.turns + 1 := by
    intro s a e he
    rcases l.step_cases s a with ⟨-, -, hnil⟩ | ⟨-, -, -, hnil⟩ | ⟨-, -, heq, hturn⟩
    · simp [hnil] at he
    · simp [hnil] at he
    · rw [heq] at he
      refine ⟨hnumber _ _ _ e he, ?_⟩
      rcases hturn with ⟨-, hstep⟩ | ⟨-, hstep⟩ <;> rw [hstep]
  have hmono : ∀ s a, s.turns ≤ (l.step s a).turns := by
    intro s a
    rcases l.step_cases s a with ⟨-, hstep, -⟩ | ⟨-, -, hstep, -⟩ | ⟨-, -, -, ⟨-, hstep⟩ | ⟨-, hstep⟩⟩ <;>
      simp [hstep]
  refine (trace_once (fun s e => number e < s.turns) (fun s a e he => Nat.lt_of_lt_of_le he (hmono s a))
    (fun s a => ?_) (fun s a e he => ?_) s as).1
  · unfold events
    split
    · exact List.nodup_nil
    · split
      · exact hone _ _ _
      · exact List.nodup_nil
  · obtain ⟨hnum, hturns⟩ := hevents s a e he
    exact ⟨by omega, by omega⟩

end ForLoop

end Lib
