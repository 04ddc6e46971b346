import Mathlib.Data.Finset.Basic

/-! Stages that may fail, and resources that are acquired, used and released in the order
of a log. A resource may need others: it is acquired after them, and they are not
released before it. -/

set_option autoImplicit false

namespace Westonite.Library

/-! ### Stages -/

variable {State Error Resource : Type}

/-- One stage after the other, up to the first that fails. -/
def stages : List (State → Option Error × State) → State → Option Error × State
  | [], state => (none, state)
  | stage :: rest, state =>
      match stage state with
      | (some error, state) => (some error, state)
      | (none, state) => stages rest state

/-- A stage with the resources it may add. -/
structure Stage (State Error Resource : Type) where
  run : State → Option Error × State
  adds : List Resource

/-- A stage keeps the accounts where nothing it adds is held yet, also when it fails. -/
def Stage.Sound (stage : Stage State Error Resource) (invariant : State → Prop)
    (held : State → Resource → Prop) : Prop :=
  ∀ state, invariant state → (∀ resource ∈ stage.adds, ¬ held state resource) →
    invariant (stage.run state).2 ∧
      ∀ resource, held (stage.run state).2 resource → held state resource ∨ resource ∈ stage.adds

/-- Stages that add different resources keep the accounts, wherever they stop. -/
theorem stages_sound {list : List (Stage State Error Resource)} {invariant : State → Prop}
    {held : State → Resource → Prop} {state : State}
    (sound : ∀ stage ∈ list, stage.Sound invariant held)
    (apart : (list.flatMap Stage.adds).Nodup) (initial : invariant state)
    (fresh : ∀ resource ∈ list.flatMap Stage.adds, ¬ held state resource) :
    invariant (stages (list.map Stage.run) state).2 := by
  induction list generalizing state with
  | nil => exact initial
  | cons stage rest ih =>
      rw [List.flatMap_cons] at apart fresh
      obtain ⟨_, later, others⟩ := List.nodup_append.mp apart
      obtain ⟨kept, gained⟩ := sound stage List.mem_cons_self state initial
        fun resource adds => fresh resource (List.mem_append_left _ adds)
      rw [List.map_cons, stages]
      cases taken : stage.run state with
      | mk failure next =>
          rw [taken] at kept gained
          cases failure with
          | some error => exact kept
          | none =>
              apply ih (fun other member => sound other (List.mem_cons_of_mem stage member))
                later kept
              intro resource adds held
              rcases gained resource held with before | new
              · exact fresh resource (List.mem_append_right _ adds) before
              · exact others resource new resource adds rfl

/-! ### Logs -/

inductive Action (Resource : Type) where
  | acquire (resource : Resource)
  | use (resource : Resource)
  | release (resource : Resource)
  deriving DecidableEq, Repr

variable [DecidableEq Resource]

/-- What is live after an action, where the action is allowed. -/
def Action.act (needs : Resource → List Resource) (live : Finset Resource) :
    Action Resource → Option (Finset Resource)
  | .acquire resource =>
      if resource ∉ live ∧ ∀ needed ∈ needs resource, needed ∈ live then
        some (insert resource live)
      else none
  | .use resource => if resource ∈ live then some live else none
  | .release resource =>
      if resource ∈ live ∧ ∀ other ∈ live, resource ∉ needs other then
        some (live.erase resource)
      else none

/-- What is live after all of a log. -/
def replay (needs : Resource → List Resource) :
    Finset Resource → List (Action Resource) → Option (Finset Resource)
  | live, [] => some live
  | live, action :: actions => (action.act needs live).bind fun next => replay needs next actions

variable {needs : Resource → List Resource}

@[simp] theorem replay_nil (live : Finset Resource) : replay needs live [] = some live := rfl

@[simp] theorem replay_cons (live : Finset Resource) (action : Action Resource)
    (actions : List (Action Resource)) :
    replay needs live (action :: actions) =
      (action.act needs live).bind fun next => replay needs next actions := rfl

theorem replay_append (live : Finset Resource) (first second : List (Action Resource)) :
    replay needs live (first ++ second) =
      (replay needs live first).bind fun next => replay needs next second := by
  induction first generalizing live with
  | nil => rfl
  | cons action first ih =>
      rw [List.cons_append, replay_cons, replay_cons, Option.bind_assoc]
      congr 1
      funext next
      exact ih next

/-- What is live stays so until it is released. -/
theorem mem_of_replay {live final : Finset Resource} {log : List (Action Resource)}
    {resource : Resource} (there : resource ∈ live) (kept : .release resource ∉ log)
    (replayed : replay needs live log = some final) : resource ∈ final := by
  induction log generalizing live with
  | nil =>
      cases replayed
      exact there
  | cons action log ih =>
      rw [List.mem_cons, not_or] at kept
      obtain ⟨next, acted, replayed⟩ := Option.bind_eq_some_iff.mp replayed
      apply ih _ kept.2 replayed
      cases action with
      | acquire new =>
          obtain ⟨_, same⟩ := Option.ite_none_right_eq_some.mp acted
          rw [← Option.some.inj same]
          exact Finset.mem_insert_of_mem there
      | use used =>
          obtain ⟨_, same⟩ := Option.ite_none_right_eq_some.mp acted
          rw [← Option.some.inj same]
          exact there
      | release old =>
          obtain ⟨_, same⟩ := Option.ite_none_right_eq_some.mp acted
          rw [← Option.some.inj same]
          apply Finset.mem_erase_of_ne_of_mem _ there
          rintro rfl
          exact kept.1 rfl

/-! ### Accounts -/

/-- The log is allowed, and what is live after it is what is held. -/
def Tallied (needs : Resource → List Resource) (log : List (Action Resource))
    (held : Resource → Prop) : Prop :=
  ∃ live, replay needs ∅ log = some live ∧ ∀ resource, resource ∈ live ↔ held resource

namespace Tallied

variable {log middle more : List (Action Resource)} {held after : Resource → Prop}

theorem congr (tallied : Tallied needs log held)
    (same : ∀ resource, held resource ↔ after resource) : Tallied needs log after := by
  obtain ⟨live, replayed, holds⟩ := tallied
  exact ⟨live, replayed, fun resource => (holds resource).trans (same resource)⟩

/-- One more action. -/
theorem snoc {action : Action Resource} {live : Finset Resource}
    (replayed : replay needs ∅ log = some live) :
    replay needs ∅ (log ++ [action]) = action.act needs live := by
  rw [replay_append, replayed, Option.bind_some, replay_cons]
  cases action.act needs live with
  | none => rfl
  | some next => rfl

theorem acquire (tallied : Tallied needs log held) (new : Resource) (fresh : ¬ held new)
    (needed : ∀ other ∈ needs new, held other)
    (gained : ∀ resource, after resource ↔ resource = new ∨ held resource) :
    Tallied needs (log ++ [.acquire new]) after := by
  obtain ⟨live, replayed, holds⟩ := tallied
  have allowed : new ∉ live ∧ ∀ other ∈ needs new, other ∈ live := by
    constructor
    · exact fun there => fresh ((holds new).mp there)
    · exact fun other member => (holds other).mpr (needed other member)
  refine ⟨insert new live, (snoc replayed).trans (if_pos allowed), ?_⟩
  intro resource
  rw [Finset.mem_insert, holds, gained]

theorem use (tallied : Tallied needs log held) (resource : Resource) (there : held resource) :
    Tallied needs (log ++ [.use resource]) held := by
  obtain ⟨live, replayed, holds⟩ := tallied
  exact ⟨live, (snoc replayed).trans (if_pos ((holds resource).mpr there)), holds⟩

theorem useAll (tallied : Tallied needs log held) (uses : List (Action Resource))
    (there : ∀ action ∈ uses, ∃ resource, action = .use resource ∧ held resource) :
    Tallied needs (log ++ uses) held := by
  induction uses generalizing log with
  | nil =>
      rw [List.append_nil]
      exact tallied
  | cons action uses ih =>
      obtain ⟨resource, same, holds⟩ := there action List.mem_cons_self
      rw [List.append_cons]
      apply ih
      · rw [same]
        exact tallied.use resource holds
      · exact fun other member => there other (List.mem_cons_of_mem action member)

theorem release (tallied : Tallied needs log held) (old : Resource) (there : held old)
    (free : ∀ other, held other → old ∉ needs other)
    (lost : ∀ resource, after resource ↔ resource ≠ old ∧ held resource) :
    Tallied needs (log ++ [.release old]) after := by
  obtain ⟨live, replayed, holds⟩ := tallied
  have allowed : old ∈ live ∧ ∀ other ∈ live, old ∉ needs other := by
    constructor
    · exact (holds old).mpr there
    · exact fun other member => free other ((holds other).mp member)
  refine ⟨live.erase old, (snoc replayed).trans (if_pos allowed), ?_⟩
  intro resource
  rw [Finset.mem_erase, holds, lost]

/-- Several in a row, that need only what is held before. -/
theorem acquireAll (tallied : Tallied needs log held) (news : List Resource)
    (once : news.Nodup) (fresh : ∀ new ∈ news, ¬ held new)
    (needed : ∀ new ∈ news, ∀ other ∈ needs new, held other)
    (gained : ∀ resource, after resource ↔ resource ∈ news ∨ held resource) :
    Tallied needs (log ++ news.map .acquire) after := by
  induction news generalizing log held with
  | nil =>
      rw [List.map_nil, List.append_nil]
      exact tallied.congr fun resource => by simp [gained]
  | cons new news ih =>
      obtain ⟨apart, once⟩ := List.nodup_cons.mp once
      have first := tallied.acquire new (fresh new List.mem_cons_self)
        (needed new List.mem_cons_self) (fun resource => Iff.rfl)
      rw [List.map_cons, List.append_cons]
      apply ih first once
      · intro other member holds
        rcases holds with same | before
        · exact apart (same ▸ member)
        · exact fresh other (List.mem_cons_of_mem new member) before
      · intro other member resource needs
        exact .inr (needed other (List.mem_cons_of_mem new member) resource needs)
      · intro resource
        rw [gained, List.mem_cons, or_assoc, or_left_comm]

/-- Several in a row, none of which is needed by what is held. -/
theorem releaseAll (tallied : Tallied needs log held) (olds : List Resource)
    (once : olds.Nodup) (there : ∀ old ∈ olds, held old)
    (free : ∀ old ∈ olds, ∀ other, held other → old ∉ needs other)
    (lost : ∀ resource, after resource ↔ resource ∉ olds ∧ held resource) :
    Tallied needs (log ++ olds.map .release) after := by
  induction olds generalizing log held with
  | nil =>
      rw [List.map_nil, List.append_nil]
      exact tallied.congr fun resource => by simp [lost]
  | cons old olds ih =>
      obtain ⟨apart, once⟩ := List.nodup_cons.mp once
      have first := tallied.release old (there old List.mem_cons_self)
        (free old List.mem_cons_self) (fun resource => Iff.rfl)
      rw [List.map_cons, List.append_cons]
      apply ih first once
      · intro other member
        refine ⟨?_, there other (List.mem_cons_of_mem old member)⟩
        intro same
        exact apart (same ▸ member)
      · intro other member resource holds
        exact free other (List.mem_cons_of_mem old member) resource holds.2
      · intro resource
        rw [lost, List.mem_cons, not_or, and_assoc, and_left_comm]

/-- What is needed cannot be released while the other is kept, whatever follows. -/
theorem replay_release_needed {old other : Resource} (tallied : Tallied needs log held)
    (holds : held other) (needed : old ∈ needs other) (kept : .release other ∉ middle) :
    replay needs ∅ (log ++ (middle ++ .release old :: more)) = none := by
  obtain ⟨live, replayed, same⟩ := tallied
  rw [replay_append, replayed, Option.bind_some, replay_append]
  cases later : replay needs live middle with
  | none => rfl
  | some final =>
      have there : other ∈ final := mem_of_replay ((same other).mpr holds) kept later
      have refused : ¬ (old ∈ final ∧ ∀ other ∈ final, old ∉ needs other) :=
        fun allowed => allowed.2 other there needed
      rw [Option.bind_some, replay_cons, Action.act, if_neg refused, Option.bind_none]

end Tallied

end Westonite.Library
