import Mathlib.Data.Option.Basic

/-! Trees that are walked step by step: what is found along a path, what storing
at the end of a path does, and what it leaves alone. -/

set_option autoImplicit false

namespace Westonite.Library

/-- Nodes with children under steps. A child is put under any step of any node;
what is not there yet starts as the blank node. -/
structure Walk (Node Step : Type) where
  child : Node → Step → Option Node
  put : Node → Step → Node → Node
  blank : Node

namespace Walk

variable {Node Step : Type}

def get (walk : Walk Node Step) : Node → List Step → Option Node
  | node, [] => some node
  | node, step :: path => (walk.child node step).bind fun next => walk.get next path

def store (walk : Walk Node Step) (value : Node) : Node → List Step → Node
  | _, [] => value
  | node, step :: path =>
      walk.put node step (walk.store value ((walk.child node step).getD walk.blank) path)

/-- Laws of the children. `fits` says that a node has the kind of a step: then the
other children stay, but for those the node has `grown` to reach the step. -/
structure Lawful (walk : Walk Node Step) (fits : Node → Step → Prop)
    (grown : Node → Step → Step → Prop) : Prop where
  child_put : ∀ node step item, walk.child (walk.put node step item) step = some item
  put_put : ∀ node step first second,
    walk.put (walk.put node step first) step second = walk.put node step second
  child_put_other : ∀ {node step other} item, fits node step → other ≠ step →
    walk.child (walk.put node step item) other = walk.child node other ∨
      grown node step other ∧ walk.child (walk.put node step item) other = some walk.blank

variable {walk : Walk Node Step} {fits : Node → Step → Prop} {grown : Node → Step → Step → Prop}

@[simp] theorem get_nil (node : Node) : walk.get node [] = some node := rfl

@[simp] theorem get_cons (node : Node) (step : Step) (path : List Step) :
    walk.get node (step :: path) = (walk.child node step).bind fun next => walk.get next path :=
  rfl

@[simp] theorem store_nil (value node : Node) : walk.store value node [] = value := rfl

@[simp] theorem store_cons (value node : Node) (step : Step) (path : List Step) :
    walk.store value node (step :: path) =
      walk.put node step (walk.store value ((walk.child node step).getD walk.blank) path) :=
  rfl

theorem get_append (walk : Walk Node Step) (node : Node) (first second : List Step) :
    walk.get node (first ++ second) =
      (walk.get node first).bind fun next => walk.get next second := by
  induction first generalizing node with
  | nil => rfl
  | cons step first ih =>
      rw [List.cons_append, get_cons, get_cons, Option.bind_assoc]
      congr 1
      funext next
      exact ih next

theorem get_store (lawful : walk.Lawful fits grown) (value node : Node) (path : List Step) :
    walk.get (walk.store value node path) path = some value := by
  induction path generalizing node with
  | nil => rfl
  | cons step path ih =>
      rw [get_cons, store_cons, lawful.child_put, Option.bind_some]
      exact ih _

/-- The second of two values stored at one place is what stays. -/
theorem store_store (lawful : walk.Lawful fits grown) (first second node : Node)
    (path : List Step) :
    walk.store second (walk.store first node path) path = walk.store second node path := by
  induction path generalizing node with
  | nil => rfl
  | cons step path ih =>
      rw [store_cons, store_cons, store_cons, lawful.child_put, Option.getD_some, ih,
        lawful.put_put]

/-- Below a node that exists, storing is storing below that node. -/
theorem get_store_below (lawful : walk.Lawful fits grown) (value : Node) {node found : Node}
    {before : List Step} (reached : walk.get node before = some found) (path : List Step) :
    walk.get (walk.store value node (before ++ path)) before =
      some (walk.store value found path) := by
  induction before generalizing node with
  | nil =>
      cases reached
      rfl
  | cons step before ih =>
      rw [get_cons] at reached
      obtain ⟨next, here, rest⟩ := Option.bind_eq_some_iff.mp reached
      rw [List.cons_append, store_cons, get_cons, here, lawful.child_put, Option.bind_some,
        Option.getD_some]
      exact ih rest

/-- A path that leaves the stored one at a node of its kind leads to what it led to,
unless it goes through a child that was grown. -/
theorem get_store_other (lawful : walk.Lawful fits grown) (value : Node) {node found : Node}
    {before rest : List Step} {step other : Step} (reached : walk.get node before = some found)
    (kind : fits found step) (apart : other ≠ step) (path : List Step) :
    walk.get (walk.store value node (before ++ step :: rest)) (before ++ other :: path) =
        walk.get node (before ++ other :: path) ∨
      grown found step other ∧
        walk.get (walk.store value node (before ++ step :: rest)) (before ++ [other]) =
          some walk.blank := by
  have below := get_store_below lawful value reached (step :: rest)
  simp only [get_append, reached, below, Option.bind_some, get_cons, store_cons]
  rcases lawful.child_put_other (walk.store value ((walk.child found step).getD walk.blank) rest)
    kind apart with same | ⟨new, blank⟩
  · left
    rw [same]
  · right
    rw [blank]
    exact ⟨new, rfl⟩

end Walk

end Westonite.Library
