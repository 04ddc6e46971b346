import Mathlib.Data.List.Basic

/-! Finite labelled runs of a step relation, and the rules that carry a fact
from one step to a whole run. Nothing here is specific to one machine. -/

set_option autoImplicit false

namespace Westonite.Library

variable {State Label : Type}

/-- The states a step relation reaches, with the labels taken in order. -/
inductive Run (step : State → Label → State → Prop) :
    State → List Label → State → Prop where
  | nil {state} : Run step state [] state
  | snoc {start middle final labels label} :
      Run step start labels middle → step middle label final →
      Run step start (labels ++ [label]) final

namespace Run

variable {step : State → Label → State → Prop}

theorem single {start final : State} {label : Label}
    (taken : step start label final) : Run step start [label] final := by
  simpa only [List.nil_append] using Run.snoc .nil taken

theorem append {start middle final : State} {first second : List Label}
    (left : Run step start first middle) (right : Run step middle second final) :
    Run step start (first ++ second) final := by
  induction right with
  | nil => simpa only [List.append_nil] using left
  | snoc _ taken ih =>
      simpa only [List.append_assoc] using Run.snoc ih taken

theorem cons {start middle final : State} {label : Label} {labels : List Label}
    (taken : step start label middle) (rest : Run step middle labels final) :
    Run step start (label :: labels) final := by
  simpa only [List.singleton_append] using (single taken).append rest

/-- A run can be cut wherever its label list can. -/
theorem split {start final : State} {first second : List Label}
    (run : Run step start (first ++ second) final) :
    ∃ middle, Run step start first middle ∧ Run step middle second final := by
  generalize whole : first ++ second = labels at run
  induction run generalizing second with
  | nil =>
      obtain ⟨rfl, rfl⟩ := List.append_eq_nil_iff.mp whole
      exact ⟨_, .nil, .nil⟩
  | @snoc middle final labels label before taken ih =>
      rcases List.eq_nil_or_concat second with rfl | ⟨rest, last, rfl⟩
      · rw [List.append_nil] at whole
        subst whole
        exact ⟨final, .snoc before taken, .nil⟩
      · rw [List.concat_eq_append, ← List.append_assoc] at whole
        obtain ⟨same, lastSame⟩ := List.append_inj' whole rfl
        cases lastSame
        obtain ⟨cut, left, right⟩ := ih same
        exact ⟨cut, left, by simpa only [List.concat_eq_append] using right.snoc taken⟩

theorem of_nil {start final : State} (run : Run step start [] final) : final = start := by
  generalize empty : ([] : List Label) = labels at run
  cases run with
  | nil => rfl
  | snoc _ _ => simp at empty

theorem of_single {start final : State} {label : Label}
    (run : Run step start [label] final) : step start label final := by
  generalize whole : [label] = labels at run
  cases run with
  | nil => simp at whole
  | @snoc middle _ before last earlier taken =>
      have shape : [] ++ [label] = before ++ [last] := whole
      obtain ⟨none, same⟩ := List.append_inj' shape rfl
      cases same
      cases none
      exact earlier.of_nil ▸ taken

/-- A run is empty or begins with a step. -/
theorem uncons {start final : State} {labels : List Label}
    (run : Run step start labels final) :
    (labels = [] ∧ final = start) ∨
    ∃ label rest middle, labels = label :: rest ∧ step start label middle ∧
      Run step middle rest final := by
  cases labels with
  | nil => exact .inl ⟨rfl, run.of_nil⟩
  | cons label rest =>
      have shape : Run step start ([label] ++ rest) final := run
      obtain ⟨middle, first, remaining⟩ := shape.split
      exact .inr ⟨label, rest, middle, rfl, first.of_single, remaining⟩

/-- What every step keeps holds at the end of every run. -/
theorem invariant {invariant : State → Prop}
    (keeps : ∀ state label next, invariant state → step state label next →
      invariant next)
    {start final : State} {labels : List Label}
    (initial : invariant start) (run : Run step start labels final) :
    invariant final := by
  induction run with
  | nil => exact initial
  | snoc _ taken ih => exact keeps _ _ _ ih taken

/-- A run of a step relation is a run of every larger one. -/
theorem mono {other : State → Label → State → Prop}
    (included : ∀ state label next, step state label next → other state label next)
    {start final : State} {labels : List Label} (run : Run step start labels final) :
    Run other start labels final := by
  induction run with
  | nil => exact .nil
  | snoc _ taken ih => exact .snoc ih (included _ _ _ taken)

end Run

/-- A fact of every state on the way along `labels`. -/
def Always (step : State → Label → State → Prop) (start : State) (labels : List Label)
    (holds : State → Prop) : Prop :=
  ∀ taken state, taken <+: labels → Run step start taken state → holds state

/-- A condition on every step along `labels`, on the state before it. -/
def EachStep (step : State → Label → State → Prop) (start : State) (labels : List Label)
    (meets : State → Label → Prop) : Prop :=
  ∀ taken state label next, taken ++ [label] <+: labels → Run step start taken state →
    step state label next → meets state label

theorem Always.of_eachStep {step : State → Label → State → Prop} {start : State}
    {labels : List Label} {invariant : State → Prop} {meets : State → Label → Prop}
    (initial : invariant start)
    (keeps : ∀ state label next, invariant state → meets state label → step state label next →
      invariant next)
    (each : EachStep step start labels meets) : Always step start labels invariant := by
  intro taken state short run
  induction run with
  | nil => exact initial
  | snoc before taken ih =>
      apply keeps _ _ _ (ih ((List.prefix_append _ _).trans short)) _ taken
      exact each _ _ _ _ short before taken

theorem EachStep.of_always {step : State → Label → State → Prop} {start : State}
    {labels : List Label} {invariant holds : State → Prop} {meets : State → Label → Prop}
    (initial : invariant start)
    (keeps : ∀ state label next, invariant state → step state label next → invariant next)
    (forces : ∀ state label next, invariant state → step state label next → holds next →
      meets state label)
    (always : Always step start labels holds) : EachStep step start labels meets := by
  intro taken state label next short run moved
  exact forces _ _ _ (run.invariant keeps initial) moved (always _ _ short (run.snoc moved))

/-- The state a partial step function reaches along given labels. -/
def follow (next : State → Label → Option State) : State → List Label → Option State
  | state, [] => some state
  | state, label :: labels => (next state label).bind fun after => follow next after labels

theorem run_of_follow {next : State → Label → Option State} {state final : State}
    {labels : List Label} (reached : follow next state labels = some final) :
    Run (fun state label after => next state label = some after) state labels final := by
  induction labels generalizing state with
  | nil =>
      obtain rfl := Option.some.inj reached
      exact .nil
  | cons label labels ih =>
      obtain ⟨after, taken, rest⟩ := Option.bind_eq_some_iff.mp reached
      exact .cons taken (ih rest)

end Westonite.Library
