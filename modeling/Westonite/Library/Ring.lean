import Mathlib.Data.List.Chain
import Mathlib.Data.List.Nodup
import Mathlib.Logic.Function.Basic

/-! Circular lists through pointers that the nodes themselves carry. A ring is a
head and the nodes behind it, each joined to the next in both directions. -/

set_option autoImplicit false

namespace Westonite.Library

structure Links (Node : Type) where
  next : Node → Node
  prev : Node → Node

namespace Links

variable {Node : Type} [DecidableEq Node]

/-- `right` comes right after `left`, whichever way one looks. -/
def Joined (links : Links Node) (left right : Node) : Prop :=
  links.next left = right ∧ links.prev right = left

def Ring (links : Links Node) (head : Node) (nodes : List Node) : Prop :=
  List.IsChain links.Joined (head :: nodes ++ [head])

def join (links : Links Node) (left right : Node) : Links Node where
  next := Function.update links.next left right
  prev := Function.update links.prev right left

/-- A node on its own. -/
def init (links : Links Node) (node : Node) : Links Node := links.join node node

/-- Put a node right after another one. -/
def insert (links : Links Node) (list elm : Node) : Links Node :=
  (links.join elm (links.next list)).join list elm

/-- Join the neighbours of a node. -/
def remove (links : Links Node) (elm : Node) : Links Node :=
  links.join (links.prev elm) (links.next elm)

variable {links : Links Node} {left right head elm : Node} {nodes : List Node}

private theorem joined_join : (links.join left right).Joined left right := by
  constructor
  · exact Function.update_self ..
  · exact Function.update_self ..

theorem Joined.join {before after : Node} (joined : links.Joined before after)
    (keepsNext : before ≠ left) (keepsPrev : after ≠ right) :
    (links.join left right).Joined before after := by
  constructor
  · exact (Function.update_of_ne keepsNext ..).trans joined.1
  · exact (Function.update_of_ne keepsPrev ..).trans joined.2

/-- A chain stays one when its last node gets a new successor or its first one a new
predecessor. -/
theorem isChain_join {chain : List Node} (linked : chain.IsChain links.Joined)
    (keepsNext : left ∉ chain.dropLast) (keepsPrev : right ∉ chain.tail) :
    chain.IsChain (links.join left right).Joined := by
  induction chain with
  | nil => exact .nil
  | cons first chain ih =>
      cases chain with
      | nil => exact .singleton first
      | cons second rest =>
          rw [List.isChain_cons_cons] at linked ⊢
          rw [List.dropLast_cons_cons, List.mem_cons, not_or] at keepsNext
          rw [List.tail_cons, List.mem_cons, not_or] at keepsPrev
          exact ⟨linked.1.join (Ne.symm keepsNext.1) (Ne.symm keepsPrev.1),
            ih linked.2 keepsNext.2 keepsPrev.2⟩

theorem Ring.frame (ring : links.Ring head nodes) (leftApart : left ∉ head :: nodes)
    (rightApart : right ∉ head :: nodes) : (links.join left right).Ring head nodes := by
  apply isChain_join ring
  · rwa [List.dropLast_concat]
  · intro member
    rcases List.mem_append.mp (List.mem_of_mem_tail member) with inside | closing
    · exact rightApart inside
    · exact rightApart (List.mem_singleton.mp closing ▸ List.mem_cons_self)

/-! ### The ends -/

omit [DecidableEq Node] in
private theorem exists_last (head : Node) (nodes : List Node) :
    ∃ front last, head :: nodes = front ++ [last] ∧ last ∈ head :: nodes := by
  have some : head :: nodes ≠ [] := List.cons_ne_nil head nodes
  exact ⟨_, _, (List.dropLast_append_getLast some).symm, List.getLast_mem some⟩

omit [DecidableEq Node] in
private theorem exists_first (nodes : List Node) (head : Node) :
    ∃ first rest, nodes ++ [head] = first :: rest ∧ first ∈ nodes ++ [head] := by
  have some : nodes ++ [head] ≠ [] :=
    List.append_ne_nil_of_right_ne_nil nodes (List.cons_ne_nil head [])
  obtain ⟨first, rest, shape⟩ := List.exists_cons_of_ne_nil some
  refine ⟨first, rest, shape, ?_⟩
  rw [shape]
  exact List.mem_cons_self

/-! ### Walking -/

omit [DecidableEq Node] in
theorem Ring.first (ring : links.Ring head nodes) :
    links.next head = nodes.head?.getD head := by
  cases nodes with
  | nil => exact (List.isChain_pair.mp ring).1
  | cons first rest => exact (List.isChain_cons_cons.mp ring).1.1

omit [DecidableEq Node] in
theorem Ring.next {before after : List Node} (ring : links.Ring head (before ++ elm :: after)) :
    links.next elm = after.head?.getD head := by
  have behind : List.IsChain links.Joined (elm :: (after ++ [head])) := by
    have whole : head :: (before ++ elm :: after) ++ [head] =
        (head :: before) ++ elm :: (after ++ [head]) := by simp
    rw [Ring, whole, List.isChain_split] at ring
    exact ring.2
  cases after with
  | nil => exact (List.isChain_pair.mp behind).1
  | cons first rest => exact (List.isChain_cons_cons.mp behind).1.1

omit [DecidableEq Node] in
theorem Ring.next_mem (ring : links.Ring head nodes) (member : elm ∈ head :: nodes) :
    links.next elm ∈ head :: nodes := by
  obtain ⟨before, after, shape⟩ := List.append_of_mem member
  obtain ⟨right, rest, later, there⟩ := exists_first after head
  rw [Ring, shape, List.append_assoc, List.cons_append, later, List.isChain_append_cons_cons]
    at ring
  rw [ring.2.1.1]
  rcases List.mem_append.mp there with inside | closing
  · rw [shape]
    exact List.mem_append_right _ (List.mem_cons_of_mem elm inside)
  · rw [List.mem_singleton.mp closing]
    exact List.mem_cons_self

omit [DecidableEq Node] in
theorem Ring.prev_mem (ring : links.Ring head nodes) (member : elm ∈ head :: nodes) :
    links.prev elm ∈ head :: nodes := by
  have there : elm ∈ nodes ++ [head] := by
    rcases List.mem_cons.mp member with rfl | inside
    · exact List.mem_append_right _ List.mem_cons_self
    · exact List.mem_append_left _ inside
  obtain ⟨before, after, shape⟩ := List.append_of_mem there
  obtain ⟨front, left, earlier, here⟩ := exists_last head before
  have whole : head :: nodes ++ [head] = front ++ left :: elm :: after := by
    rw [List.cons_append, shape, ← List.cons_append, earlier]
    simp
  rw [Ring, whole, List.isChain_append_cons_cons] at ring
  rw [ring.2.1.2]
  rcases List.mem_cons.mp here with rfl | inside
  · exact List.mem_cons_self
  · have early : left ∈ nodes ++ [head] := by
      rw [shape]
      exact List.mem_append_left _ inside
    rcases List.mem_append.mp early with inner | closing
    · exact List.mem_cons_of_mem head inner
    · rw [List.mem_singleton.mp closing]
      exact List.mem_cons_self

/-! ### Insertion and removal -/

/-- A node inserted before the head is the last one. -/
theorem Ring.insert_last (ring : links.Ring head nodes) (unique : (head :: nodes).Nodup)
    (fresh : elm ∉ head :: nodes) :
    (links.insert (links.prev head) elm).Ring head (nodes ++ [elm]) := by
  obtain ⟨front, last, shape, _⟩ := exists_last head nodes
  have headFirst : head ∉ (front ++ [last]).tail := by
    rw [← shape]
    exact (List.nodup_cons.mp unique).1
  have headHere : head ∈ front ++ [last] := by
    rw [← shape]
    exact List.mem_cons_self
  rw [Ring, shape, List.append_assoc, List.singleton_append, List.isChain_append_cons_cons] at ring
  obtain ⟨before, ⟨closing, opening⟩, _⟩ := ring
  rw [shape] at unique fresh
  have lastOnce : last ∉ front := by
    rw [← List.concat_eq_append, List.nodup_concat] at unique
    exact unique.1
  have elmFront : elm ∉ front := fun member => fresh (List.mem_append_left _ member)
  have elmLast : elm ≠ last := by
    rintro rfl
    exact fresh (List.mem_append_right _ List.mem_cons_self)
  have elmHead : elm ≠ head := by
    rintro rfl
    exact fresh headHere
  have chain : (front ++ [last]).IsChain ((links.join elm head).join last elm).Joined := by
    apply isChain_join (isChain_join before _ headFirst)
    · rwa [List.dropLast_concat]
    · exact fun member => fresh (List.mem_of_mem_tail member)
    · rwa [List.dropLast_concat]
  have whole : head :: (nodes ++ [elm]) ++ [head] = front ++ last :: elm :: [head] := by
    rw [← List.cons_append, shape]
    simp
  unfold insert
  rw [opening, closing, Ring, whole, List.isChain_append_cons_cons, List.isChain_pair]
  exact ⟨chain, joined_join, joined_join.join elmLast (Ne.symm elmHead)⟩

/-- A removed node leaves the others in place. -/
theorem Ring.remove {before after : List Node}
    (ring : links.Ring head (before ++ elm :: after))
    (unique : (head :: (before ++ elm :: after)).Nodup) :
    (links.remove elm).Ring head (before ++ after) := by
  obtain ⟨front, left, shape, leftHere⟩ := exists_last head before
  obtain ⟨right, rest, later, rightThere⟩ := exists_first after head
  have around : head :: (before ++ elm :: after) ++ [head] =
      front ++ left :: elm :: right :: rest := by
    rw [← List.cons_append, shape, ← later]
    simp
  rw [Ring, around, List.isChain_append_cons_cons, List.isChain_cons_cons] at ring
  obtain ⟨chainBefore, ⟨_, opening⟩, ⟨closing, _⟩, chainAfter⟩ := ring
  have parts : (head :: before ++ elm :: after).Nodup := unique
  obtain ⟨uniqueBefore, uniqueAfter, disjoint⟩ := List.nodup_append.mp parts
  have apart : ∀ node ∈ head :: before, node ∉ after := by
    intro node here there
    exact disjoint node here node (List.mem_cons_of_mem elm there) rfl
  have headOnce : head ∉ before := (List.nodup_cons.mp uniqueBefore).1
  have ends : (right :: rest).Nodup := by
    rw [← later, List.nodup_append]
    refine ⟨(List.nodup_cons.mp uniqueAfter).2, List.pairwise_singleton _ head, ?_⟩
    intro node there closing closed same
    rw [same, List.mem_singleton.mp closed] at there
    exact apart head List.mem_cons_self there
  have leftOnce : left ∉ front := by
    rw [shape, ← List.concat_eq_append, List.nodup_concat] at uniqueBefore
    exact uniqueBefore.1
  have rightBefore : right ∉ before := by
    intro here
    rcases List.mem_append.mp rightThere with there | closed
    · exact apart right (List.mem_cons_of_mem head here) there
    · exact headOnce (List.mem_singleton.mp closed ▸ here)
  have chainLeft : (front ++ [left]).IsChain (links.join left right).Joined := by
    apply isChain_join chainBefore
    · rwa [List.dropLast_concat]
    · rwa [← shape]
  have chainRight : (right :: rest).IsChain (links.join left right).Joined := by
    apply isChain_join chainAfter
    · rw [← later, List.dropLast_concat]
      exact apart left leftHere
    · exact (List.nodup_cons.mp ends).1
  have whole : head :: (before ++ after) ++ [head] = front ++ left :: right :: rest := by
    rw [← List.cons_append, shape, ← later]
    simp
  unfold Links.remove
  rw [opening, closing, Ring, whole, List.isChain_append_cons_cons]
  exact ⟨chainLeft, joined_join, chainRight⟩

end Links

end Westonite.Library
