import Mathlib.Data.Prod.Lex
import Westonite.Library.Run

/-! Runs of a machine whose next step is a partial function of its state. -/

set_option autoImplicit false

namespace Westonite.Library

variable {State Label : Type}

/-- The step relation of a partial step function. -/
def Moves (next : State → Option (Label × State)) (state : State) (label : Label)
    (after : State) : Prop :=
  next state = some (label, after)

/-- At most `fuel` steps, with the labels they take. -/
def advance (next : State → Option (Label × State)) : Nat → State → List Label × State
  | 0, state => ([], state)
  | fuel + 1, state =>
      match next state with
      | none => ([], state)
      | some (label, after) =>
          let (labels, final) := advance next fuel after
          (label :: labels, final)

variable {next : State → Option (Label × State)}

theorem run_advance (fuel : Nat) (state : State) :
    Run (Moves next) state (advance next fuel state).1 (advance next fuel state).2 := by
  induction fuel generalizing state with
  | zero => exact .nil
  | succ fuel ih =>
      unfold advance
      cases moved : next state with
      | none => exact .nil
      | some pair => exact Run.cons moved (ih pair.2)

theorem Moves.unique {state first second : State} {label other : Label}
    (left : Moves next state label first) (right : Moves next state other second) :
    label = other ∧ first = second := by
  have same := left.symm.trans right
  simp only [Option.some.injEq, Prod.mk.injEq] at same
  exact same

theorem run_unique {start first second : State} {labels : List Label}
    (left : Run (Moves next) start labels first)
    (right : Run (Moves next) start labels second) : first = second := by
  induction left generalizing second with
  | nil => exact right.of_nil.symm
  | snoc _ taken ih =>
      obtain ⟨middle, before, last⟩ := right.split
      obtain rfl := ih before
      exact (taken.unique last.of_single).2

/-- Every run is a first part of the one that has come to its end. -/
theorem prefix_of_stuck {start final state : State} {labels taken : List Label}
    (complete : Run (Moves next) start labels final) (stuck : next final = none)
    (run : Run (Moves next) start taken state) : taken <+: labels := by
  induction run with
  | nil => exact List.nil_prefix
  | @snoc middle after taken label earlier moved ih =>
      obtain ⟨rest, rfl⟩ := ih
      obtain ⟨cut, before, remaining⟩ := complete.split
      obtain rfl := run_unique earlier before
      cases rest with
      | nil =>
          obtain rfl := remaining.of_nil
          rw [Moves, stuck] at moved
          cases moved
      | cons head tail =>
          rcases remaining.uncons with ⟨shape, _⟩ | ⟨_, _, _, shape, first, _⟩
          · cases shape
          · cases shape
            obtain ⟨rfl, _⟩ := moved.unique first
            exact ⟨tail, by simp⟩

/-- When `fuel` steps reach the end, they are every run there is. -/
theorem prefix_of_advance {fuel : Nat} {start state : State} {taken : List Label}
    (ended : next (advance next fuel start).2 = none)
    (run : Run (Moves next) start taken state) : taken <+: (advance next fuel start).1 :=
  prefix_of_stuck (run_advance fuel start) ended run

/-- A run whose steps lower a well-founded measure comes to its end. -/
theorem exists_stuck {Rank : Type} {below : Rank → Rank → Prop}
    (wellFounded : WellFounded below) (measure : List Label → State → Rank) {start : State}
    (lowers : ∀ labels state label after, Run (Moves next) start labels state →
      Moves next state label after →
      below (measure (labels ++ [label]) after) (measure labels state)) :
    ∃ labels final, Run (Moves next) start labels final ∧ next final = none := by
  have reach : ∀ rank labels state, Run (Moves next) start labels state →
      measure labels state = rank →
      ∃ labels final, Run (Moves next) start labels final ∧ next final = none := by
    intro rank
    induction rank using wellFounded.induction with
    | _ rank ih =>
        intro labels state run exact
        cases moved : next state with
        | none => exact ⟨labels, state, run, moved⟩
        | some pair =>
            have lower := lowers labels state pair.1 pair.2 run moved
            rw [exact] at lower
            exact ih _ lower _ _ (run.snoc moved) rfl
  exact reach _ [] start .nil rfl

end Westonite.Library
