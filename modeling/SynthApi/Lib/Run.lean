import Mathlib.Algebra.BigOperators.Group.List.Basic

/-!
# Runs of a state machine

A machine is a step function `σ → α → σ`. `run step s as` is the state after the actions `as`; `Along step C s as`
says that every action of the run meets `C` in the state it is taken in; `Always step P s as` says that `P` holds in
every state of the run, the first and the last included; `trace step f s as` collects what `f` observes at the actions.

The two rules that the developments use are `run_inv` (an invariant of every step) and `run_inv_along` (an invariant
of the steps that meet a condition); `always_of_inv` turns them into statements about all states of a run.
-/

namespace Lib

open List

section Runs

variable {σ α : Type*} (step : σ → α → σ)

/-- The state after the actions `as`. -/
def run (s : σ) (as : List α) : σ := as.foldl step s

@[simp] theorem run_nil (s : σ) : run step s [] = s := rfl

@[simp] theorem run_cons (s : σ) (a : α) (as : List α) : run step s (a :: as) = run step (step s a) as := rfl

@[simp] theorem run_append (s : σ) (as bs : List α) : run step s (as ++ bs) = run step (run step s as) bs :=
  foldl_append

/-- Every action of the run meets `C` in the state it is taken in. -/
def Along (C : σ → α → Prop) : σ → List α → Prop
  | _, [] => True
  | s, a :: as => C s a ∧ Along C (step s a) as

instance Along.decidable (C : σ → α → Prop) [∀ s a, Decidable (C s a)] : ∀ s as, Decidable (Along step C s as)
  | _, [] => isTrue trivial
  | s, a :: as =>
    have := Along.decidable C (step s a) as
    inferInstanceAs (Decidable (C s a ∧ Along step C (step s a) as))

def Always (P : σ → Prop) (s : σ) (as : List α) : Prop := ∀ bs, bs <+: as → P (run step s bs)

/-- What the actions of the run give rise to, in order. -/
def trace {β : Type*} (f : σ → α → List β) : σ → List α → List β
  | _, [] => []
  | s, a :: as => f s a ++ trace f (step s a) as

variable {step} {C : σ → α → Prop} {I P : σ → Prop} {s : σ}

theorem along_append {as bs : List α} :
    Along step C s (as ++ bs) ↔ Along step C s as ∧ Along step C (run step s as) bs := by
  induction as generalizing s with
  | nil => simp [Along]
  | cons a as ih => simp [Along, ih, and_assoc]

theorem Along.of_prefix {as bs : List α} (h : Along step C s as) (hp : bs <+: as) : Along step C s bs := by
  obtain ⟨cs, rfl⟩ := hp
  exact (along_append.1 h).1

variable {as : List α} {D : σ → α → Prop}

theorem along_and (h : Along step C s as) (h' : Along step D s as) : Along step (fun s a => C s a ∧ D s a) s as := by
  induction as generalizing s with
  | nil => trivial
  | cons a as ih => exact ⟨⟨h.1, h'.1⟩, ih h.2 h'.2⟩

theorem along_imp {p : Prop} (h : p → Along step C s as) : Along step (fun s a => p → C s a) s as := by
  induction as generalizing s with
  | nil => trivial
  | cons a as ih => exact ⟨fun hp => (h hp).1, ih fun hp => (h hp).2⟩

/-- A condition on the actions alone holds along every run of such actions. -/
theorem along_of_forall {C : α → Prop} (h : ∀ a ∈ as, C a) : Along step (fun _ a => C a) s as := by
  induction as generalizing s with
  | nil => trivial
  | cons a as ih => exact ⟨h a (by simp), ih fun b hb => h b (by simp [hb])⟩

theorem along_iff_forall {C : α → Prop} : Along step (fun _ a => C a) s as ↔ ∀ a ∈ as, C a := by
  refine ⟨fun h => ?_, fun h => along_of_forall h⟩
  induction as generalizing s with
  | nil => intro a ha; cases ha
  | cons b as ih =>
    intro a ha
    rcases mem_cons.1 ha with rfl | ha
    · exact h.1
    · exact ih h.2 a ha

/-- **The invariant rule under a condition on the steps.** -/
theorem run_inv_along (hstep : ∀ s a, C s a → I s → I (step s a))
    (ha : Along step C s as) (hs : I s) : I (run step s as) := by
  induction as generalizing s with
  | nil => exact hs
  | cons a as ih => exact ih ha.2 (hstep s a ha.1 hs)

/-- **The invariant rule.** -/
theorem run_inv (hstep : ∀ s a, I s → I (step s a)) (as : List α) (hs : I s) : I (run step s as) :=
  run_inv_along (fun s a _ h => hstep s a h) (along_of_forall fun _ _ => trivial) hs

/-- An invariant that implies `P` gives `P` in every state of a run along which the steps keep it. -/
theorem always_of_inv (hstep : ∀ s a, C s a → I s → I (step s a)) (hP : ∀ s, I s → P s)
    (ha : Along step C s as) (hs : I s) : Always step P s as :=
  fun _ hb => hP _ (run_inv_along hstep (ha.of_prefix hb) hs)

theorem along_of_inv (hstep : ∀ s a, C s a → I s → I (step s a)) (hD : ∀ s a, C s a → I s → D s a)
    (ha : Along step C s as) (hs : I s) : Along step D s as := by
  induction as generalizing s with
  | nil => trivial
  | cons a as ih => exact ⟨hD s a ha.1 hs, ih ha.2 (hstep s a ha.1 hs)⟩

theorem along_of_forall_of {C : α → Prop} (h : ∀ a ∈ as, C a) (hD : ∀ s a, C a → D s a) (s : σ) : Along step D s as :=
  along_of_inv (I := fun _ => True) (fun _ _ _ h => h) (fun s a ha _ => hD s a ha) (along_of_forall h) trivial

variable {β γ : Type*} {f : σ → α → List β}

/-- A part of the state to which every step adds what is observed there has all that is observed in the run. -/
theorem run_eq_foldl_trace {g : γ → β → γ} {p : σ → γ}
    (h : ∀ s a, p (step s a) = (f s a).foldl g (p s)) : p (run step s as) = (trace step f s as).foldl g (p s) := by
  induction as generalizing s with
  | nil => rfl
  | cons a as ih => rw [run_cons, trace, foldl_append, ih, h]

/-- **The rule for balances**: what every step changes by the sum over what is observed there has changed by the sum
over all that is observed in the run. -/
theorem run_eq_add_sum [AddMonoid γ] {d : β → γ} {p : σ → γ} (hinv : ∀ s a, C s a → I s → I (step s a))
    (h : ∀ s a, C s a → I s → p (step s a) = p s + ((f s a).map d).sum) (ha : Along step C s as)
    (hs : I s) : p (run step s as) = p s + ((trace step f s as).map d).sum := by
  induction as generalizing s with
  | nil => simp [trace]
  | cons a as ih =>
    rw [run_cons, trace, map_append, sum_append, ih ha.2 (hinv s a ha.1 hs), h s a ha.1 hs, add_assoc]

/-- **At most once**: an action that takes effect only while `P` fails and then establishes it, where every step keeps
`P`, takes effect at most once in a run. -/
theorem at_most_once {E : σ → α → Prop} (hkeep : ∀ s a, P s → P (step s a)) (hset : ∀ s a, E s a → P (step s a))
    (honly : ∀ s a, E s a → ¬ P s) {as bs : List α} {a b : α} (ha : E (run step s as) a) :
    ¬ E (run step s (as ++ a :: bs)) b := by
  intro hb
  have hP : P (run step s (as ++ a :: bs)) := by
    rw [run_append]
    exact run_inv hkeep bs (hset _ _ ha)
  exact honly _ _ hb hP

/-- **At most once, counted**: if whatever is observed spends `P` and nothing gives it back, at most one thing is
observed in the whole run. -/
theorem trace_length_le_one (hinv : ∀ s a, C s a → I s → I (step s a))
    (hkeep : ∀ s a, C s a → I s → P s → f s a = [] ∧ P (step s a))
    (hspend : ∀ s a, C s a → I s → f s a = [] ∨ (f s a).length = 1 ∧ P (step s a))
    (ha : Along step C s as) (hs : I s) : (trace step f s as).length ≤ 1 := by
  have hnone : ∀ (as : List α) (s : σ), Along step C s as → I s → P s → trace step f s as = [] := by
    intro as
    induction as with
    | nil => intros; rfl
    | cons a as ih =>
      intro s ha hs hP
      obtain ⟨hf, hP'⟩ := hkeep s a ha.1 hs hP
      rw [trace, hf, ih _ ha.2 (hinv s a ha.1 hs) hP', append_nil]
  induction as generalizing s with
  | nil => simp [trace]
  | cons a as ih =>
    rcases hspend s a ha.1 hs with hf | ⟨hf, hP⟩
    · rw [trace, hf]
      exact ih ha.2 (hinv s a ha.1 hs)
    · rw [trace, hnone as _ ha.2 (hinv s a ha.1 hs) hP, append_nil]
      omega

theorem trace_map (g : β → γ) :
    (trace step f s as).map g = trace step (fun s a => (f s a).map g) s as := by
  induction as generalizing s with
  | nil => rfl
  | cons a as ih => rw [trace, map_append, ih]; rfl

theorem trace_filter (p : β → Bool) :
    (trace step f s as).filter p = trace step (fun s a => (f s a).filter p) s as := by
  induction as generalizing s with
  | nil => rfl
  | cons a as ih => rw [trace, filter_append, ih]; rfl

/-- **At most once for each key**: if whatever is observed was not spent and is spent from then on, and nothing is given
back, no key is observed twice, nor one that is spent. -/
theorem trace_once (spent : σ → β → Prop)
    (hkeep : ∀ s a k, spent s k → spent (step s a) k) (hone : ∀ s a, (f s a).Nodup)
    (hspend : ∀ s a k, k ∈ f s a → ¬ spent s k ∧ spent (step s a) k) (s : σ) (as : List α) :
    (trace step f s as).Nodup ∧ ∀ k, spent s k → k ∉ trace step f s as := by
  induction as generalizing s with
  | nil => exact ⟨nodup_nil, fun _ _ => not_mem_nil⟩
  | cons a as ih =>
    obtain ⟨hnodup, hnot⟩ := ih (step s a)
    refine ⟨nodup_append.2 ⟨hone s a, hnodup, fun k hk l hl heq => ?_⟩, fun k hk h => ?_⟩
    · exact hnot k (hspend s a k hk).2 (heq ▸ hl)
    · rcases mem_append.1 h with hnow | hlater
      · exact (hspend s a k hnow).1 hk
      · exact hnot k (hkeep s a k hk) hlater

theorem forall_mem_trace {Q : β → Prop} (h : ∀ s a, ∀ b ∈ f s a, Q b) :
    ∀ b ∈ trace step f s as, Q b := by
  induction as generalizing s with
  | nil => intro b hb; cases hb
  | cons a as ih =>
    intro b hb
    rcases mem_append.1 hb with hnow | hlater
    · exact h s a b hnow
    · exact ih b hlater

theorem mem_trace_of_mem {x y : β} (h : ∀ s a, x ∈ f s a → y ∈ f s a)
    (hx : x ∈ trace step f s as) : y ∈ trace step f s as := by
  induction as generalizing s with
  | nil => cases hx
  | cons a as ih =>
    rcases mem_append.1 hx with hnow | hlater
    · exact mem_append_left _ (h s a hnow)
    · exact mem_append_right _ (ih hlater)

theorem trace_foldlM {check : γ → β → Option γ} {c : γ}
    (hinv : ∀ s a, I s → I (step s a)) (h : ∀ s a, I s → (f s a).foldlM check c = some c)
    (hs : I s) : (trace step f s as).foldlM check c = some c := by
  induction as generalizing s with
  | nil => rfl
  | cons a as ih =>
    rw [trace, foldlM_append, h s a hs]
    exact ih (hinv s a hs)

/-- **The rule for potentials**: what every step pays for from `m` is observed at most `m` times. -/
theorem trace_countP_le {p : β → Bool} {m : σ → Nat}
    (hinv : ∀ s a, I s → I (step s a)) (h : ∀ s a, I s → (f s a).countP p + m (step s a) ≤ m s)
    (hs : I s) : (trace step f s as).countP p + m (run step s as) ≤ m s := by
  induction as generalizing s with
  | nil => simp [trace]
  | cons a as ih =>
    have hnow := h s a hs
    have hlater := ih (hinv s a hs)
    rw [trace, countP_append, run_cons]
    omega

theorem always_cons {a : α} : Always step P s (a :: as) ↔ P s ∧ Always step P (step s a) as := by
  constructor
  · intro h
    exact ⟨h [] nil_prefix, fun bs hb => h (a :: bs) ((prefix_cons_inj a).2 hb)⟩
  · rintro ⟨hs, h⟩ bs hb
    cases bs with
    | nil => exact hs
    | cons b bs =>
      obtain ⟨rfl, hbs⟩ := cons_prefix_cons.1 hb
      exact h bs hbs

/-- **What holds always, step by step**: if, where `P` holds, a step keeps it exactly if it meets `C`, then `P` holds always
exactly along the runs whose steps meet `C`. -/
theorem always_iff_along {A : α → Prop} (hinv : ∀ s a, A a → I s → I (step s a))
    (hstep : ∀ s a, A a → I s → P s → (P (step s a) ↔ C s a)) (hA : ∀ a ∈ as, A a) (hI : I s)
    (hP : P s) : Always step P s as ↔ Along step C s as := by
  induction as generalizing s with
  | nil =>
    refine ⟨fun _ => trivial, fun _ bs hb => ?_⟩
    rw [prefix_nil.1 hb]
    exact hP
  | cons a as ih =>
    have ha := hA a mem_cons_self
    have hrest := fun hP' => ih (fun b hb => hA b (mem_cons_of_mem a hb)) (hinv s a ha hI) hP'
    rw [always_cons, Along, ← hstep s a ha hI hP]
    constructor
    · rintro ⟨-, h⟩
      have hP' := h [] nil_prefix
      exact ⟨hP', (hrest hP').1 h⟩
    · rintro ⟨hP', h⟩
      exact ⟨hP, (hrest hP').2 h⟩

theorem Always.last (h : Always step P s as) : P (run step s as) := h as (prefix_refl _)

end Runs

end Lib
