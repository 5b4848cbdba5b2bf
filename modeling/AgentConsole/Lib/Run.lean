import Mathlib

/-! # Properties along a run

A deterministic system with states `σ` and inputs `ι` is given by its step
function.  `Along step C s inputs` says that `C` holds of every state the run
reaches and the input it takes there.  Assumptions about a run and the
properties proved of it are both of this form, so that one rule,
`Along.of_invariant`, carries a step lemma to whole runs. -/

namespace AgentConsole.Lib

variable {σ ι : Type*} {step : σ → ι → σ} {C D : σ → ι → Prop}

/-- What no step changes, a run does not change. -/
theorem foldl_unchanged {α : Type*} (step : σ → ι → σ) (view : σ → α)
    (same : ∀ s i, view (step s i) = view s) (inputs : List ι) (s : σ) : view (inputs.foldl step s) = view s := by
  induction inputs generalizing s with
  | nil => rfl
  | cons i rest inductionHypothesis => exact (inductionHypothesis _).trans (same s i)

/-- `C` holds at every step of the run from `s`. -/
def Along (step : σ → ι → σ) (C : σ → ι → Prop) : σ → List ι → Prop
  | _, [] => True
  | s, i :: rest => C s i ∧ Along step C (step s i) rest

theorem Along.and {s : σ} {inputs : List ι} (left : Along step C s inputs)
    (right : Along step D s inputs) : Along step (fun s i => C s i ∧ D s i) s inputs := by
  induction inputs generalizing s with
  | nil => trivial
  | cons i rest inductionHypothesis =>
    exact ⟨⟨left.1, right.1⟩, inductionHypothesis left.2 right.2⟩

/-- An invariant that every step satisfying `C` preserves turns `C` along a run
into whatever follows from both at one step. -/
theorem Along.of_invariant {I : σ → Prop} (preserved : ∀ s i, I s → C s i → I (step s i))
    (conclude : ∀ s i, I s → C s i → D s i) {s : σ} {inputs : List ι} (start : I s)
    (along : Along step C s inputs) : Along step D s inputs := by
  induction inputs generalizing s with
  | nil => trivial
  | cons i rest inductionHypothesis =>
    obtain ⟨now, later⟩ := along
    exact ⟨conclude s i start now, inductionHypothesis (preserved s i start now) later⟩

/-- An invariant that every step satisfying `C` preserves holds where the run
ends. -/
theorem Along.reached {I : σ → Prop} (preserved : ∀ s i, I s → C s i → I (step s i)) {s : σ}
    {inputs : List ι} (start : I s) (along : Along step C s inputs) :
    I (inputs.foldl step s) := by
  induction inputs generalizing s with
  | nil => exact start
  | cons i rest inductionHypothesis =>
    obtain ⟨now, later⟩ := along
    exact inductionHypothesis (preserved s i start now) later

/-- An invariant that every step preserves gives whatever follows from it at one
step. -/
theorem Along.of_preserved {I : σ → Prop} (preserved : ∀ s i, I s → I (step s i))
    (conclude : ∀ s i, I s → D s i) {s : σ} (inputs : List ι) (start : I s) :
    Along step D s inputs := by
  induction inputs generalizing s with
  | nil => trivial
  | cons i rest inductionHypothesis =>
    exact ⟨conclude s i start, inductionHypothesis (preserved s i start)⟩

/-- When a step that meets `A` keeps `P` exactly under the condition `C`, a run of such steps
keeps `P` in every state exactly when its steps meet `C`. -/
theorem Along.iff_reached_of {A : σ → ι → Prop} {I P : σ → Prop}
    (preserved : ∀ s i, I s → I (step s i))
    (exact_ : ∀ s i, I s → A s i → P s → (P (step s i) ↔ C s i)) {s : σ} {inputs : List ι}
    (assumed : Along step A s inputs) (start : I s) (holds : P s) :
    (∀ before after, inputs = before ++ after → P (before.foldl step s)) ↔
      Along step C s inputs := by
  induction inputs generalizing s with
  | nil =>
    constructor
    · intro _
      trivial
    · intro _ before after split
      obtain ⟨rfl, -⟩ := List.append_eq_nil_iff.mp split.symm
      exact holds
  | cons i rest inductionHypothesis =>
    have next := exact_ s i start assumed.1 holds
    constructor
    · intro every
      have after := every [i] rest rfl
      refine ⟨next.mp after,
        (inductionHypothesis assumed.2 (preserved s i start) after).mp ?_⟩
      intro before later split
      exact every (i :: before) later (by rw [split]; rfl)
    · rintro ⟨now, later⟩ before after split
      cases before with
      | nil => exact holds
      | cons first before =>
        obtain ⟨rfl, tail⟩ := List.cons.inj split
        exact (inductionHypothesis assumed.2 (preserved s i start) (next.mpr now)).mpr later
          before after tail

theorem Along.of_true (s : σ) (inputs : List ι) : Along step (fun _ _ => True) s inputs := by
  induction inputs generalizing s with
  | nil => exact True.intro
  | cons i rest inductionHypothesis => exact ⟨True.intro, inductionHypothesis _⟩

/-- When a step keeps `P` exactly under the condition `C`, a run keeps `P` in every state
exactly when its steps meet `C`. -/
theorem Along.iff_reached {I P : σ → Prop} (preserved : ∀ s i, I s → I (step s i))
    (exact_ : ∀ s i, I s → P s → (P (step s i) ↔ C s i)) {s : σ} {inputs : List ι} (start : I s)
    (holds : P s) :
    (∀ before after, inputs = before ++ after → P (before.foldl step s)) ↔
      Along step C s inputs :=
  Along.iff_reached_of (A := fun _ _ => True) preserved (fun s i inv _ => exact_ s i inv)
    (Along.of_true s inputs) start holds

/-- Two conditions on steps that agree where an invariant holds agree along a run, if the steps
that meet them preserve the invariant. -/
theorem Along.iff_of_invariant {I : σ → Prop} (preserved : ∀ s i, I s → C s i → I (step s i))
    (exact_ : ∀ s i, I s → (D s i ↔ C s i)) {s : σ} {inputs : List ι} (start : I s) :
    Along step D s inputs ↔ Along step C s inputs := by
  induction inputs generalizing s with
  | nil => exact Iff.rfl
  | cons i rest inductionHypothesis =>
    have now := exact_ s i start
    constructor
    · intro ⟨here, later⟩
      have meets := now.mp here
      exact ⟨meets, (inductionHypothesis (preserved s i start meets)).mp later⟩
    · intro ⟨meets, later⟩
      exact ⟨now.mpr meets, (inductionHypothesis (preserved s i start meets)).mpr later⟩

theorem Along.append_iff {s : σ} {front back : List ι} : Along step C s (front ++ back) ↔
    Along step C s front ∧ Along step C (front.foldl step s) back := by
  induction front generalizing s with
  | nil => simp [Along]
  | cons i rest inductionHypothesis =>
    show (C s i ∧ Along step C (step s i) (rest ++ back)) ↔ _
    rw [inductionHypothesis]
    exact and_assoc.symm

/-- The first part of a run. -/
theorem Along.before {before after : List ι} {s : σ} (along : Along step C s (before ++ after)) :
    Along step C s before :=
  (Along.append_iff.mp along).1

/-- The step of a run after a prefix of its inputs. -/
theorem Along.at_step {before after : List ι} {i : ι} {s : σ}
    (along : Along step C s (before ++ i :: after)) : C (before.foldl step s) i := by
  induction before generalizing s with
  | nil => exact along.1
  | cons first rest inductionHypothesis => exact inductionHypothesis along.2

/-! ## Products

A family of systems, indexed by `κ`, in which every input moves one member. -/

section Product

variable {κ : Type*} [DecidableEq κ]

/-- The member an input names takes its step. -/
def stepAt (step : σ → ι → σ) (m : κ → σ) (input : κ × ι) : κ → σ :=
  Function.update m input.1 (step (m input.1) input.2)

/-- What every member satisfies, and the moved one after its step, every member
satisfies afterwards. -/
theorem stepAt_forall {P : σ → Prop} {m : κ → σ} {input : κ × ι} (before : ∀ k, P (m k))
    (moved : P (step (m input.1) input.2)) (k : κ) : P (stepAt step m input k) := by
  unfold stepAt
  by_cases same : k = input.1
  · subst same
    simpa using moved
  · simpa [Function.update_of_ne same] using before k

end Product

instance Along.decidable [∀ s i, Decidable (C s i)] :
    ∀ (s : σ) (inputs : List ι), Decidable (Along step C s inputs)
  | _, [] => isTrue trivial
  | s, i :: rest => @instDecidableAnd _ _ inferInstance (Along.decidable (step s i) rest)

end AgentConsole.Lib
