import Mathlib.Data.List.Nodup
import Mathlib.Data.Sum.Basic
import Westonite.Library.Ring
import Westonite.Listeners.Machine

/-! The lists of libwayland by their pointers: a ring for each signal, whose head is
the signal and whose nodes are listeners. -/

set_option autoImplicit false

namespace Westonite.Listeners

open Library

variable {Signal Listener : Type}

/-- No walk is longer than what was ever added. -/
structure Pointers (Signal Listener : Type) where
  links : Links (Signal ⊕ Listener)
  added : Nat

namespace Pointers

def listener : Signal ⊕ Listener → Option Listener
  | .inl _ => none
  | .inr l => some l

/-- The listeners behind a node, up to the head. -/
def walk (links : Links (Signal ⊕ Listener)) : Nat → Signal ⊕ Listener → List Listener
  | 0, _ => []
  | fuel + 1, node =>
      match links.next node with
      | .inl _ => []
      | .inr l => l :: walk links fuel (.inr l)

variable [DecidableEq Signal] [DecidableEq Listener]

def lists : WlLists (Pointers Signal Listener) Signal Listener where
  new := ⟨⟨id, id⟩, 0⟩
  signalAdd p s l := ⟨p.links.insert (p.links.prev (.inl s)) (.inr l), p.added + 1⟩
  listRemove p l := { p with links := p.links.remove (.inr l) }
  listInit p l := { p with links := p.links.init (.inr l) }
  first p s := listener (p.links.next (.inl s))
  next p _ l := listener (p.links.next (.inr l))
  nodes p s := walk p.links p.added (.inl s)

/-- The ring of a signal, with its head. -/
def ringOf (members : Signal → List Listener) (s : Signal) : List (Signal ⊕ Listener) :=
  .inl s :: (members s).map .inr

/-- The pointers make up these lists. -/
structure Represents (p : Pointers Signal Listener) (members : Signal → List Listener) : Prop where
  ring : ∀ s, p.links.Ring (.inl s) ((members s).map .inr)
  nodup : ∀ s, (members s).Nodup
  apart : ∀ s t l, l ∈ members s → l ∈ members t → s = t
  short : ∀ s, (members s).length ≤ p.added

omit [DecidableEq Signal] [DecidableEq Listener] in
private theorem walk_eq {links : Links (Signal ⊕ Listener)} {s : Signal} {ls : List Listener}
    {node : Signal ⊕ Listener} {fuel : Nat}
    (chain : List.IsChain links.Joined (node :: ls.map .inr ++ [.inl s]))
    (enough : ls.length ≤ fuel) : walk links fuel node = ls := by
  induction ls generalizing node fuel with
  | nil =>
      have last : links.next node = .inl s := (List.isChain_pair.mp chain).1
      cases fuel with
      | zero => rfl
      | succ fuel =>
          unfold walk
          rw [last]
  | cons l ls ih =>
      obtain ⟨joined, rest⟩ := List.isChain_cons_cons.mp chain
      cases fuel with
      | zero => cases enough
      | succ fuel =>
          unfold walk
          rw [joined.1]
          exact congrArg _ (ih rest (Nat.le_of_succ_le_succ enough))

namespace Represents

variable {p : Pointers Signal Listener} {members : Signal → List Listener}

private theorem nodes_eq (shape : Represents p members) (s : Signal) :
    lists.nodes p s = members s :=
  walk_eq (shape.ring s) (shape.short s)

omit [DecidableEq Signal] [DecidableEq Listener] in
private theorem ring_apart (shape : Represents p members) {s t : Signal} {node : Signal ⊕ Listener}
    (here : node ∈ ringOf members s) (there : node ∈ ringOf members t) : s = t := by
  rcases List.mem_cons.mp here with rfl | inside
  · rcases List.mem_cons.mp there with same | other
    · exact Sum.inl.inj same
    · obtain ⟨l, _, impossible⟩ := List.mem_map.mp other
      cases impossible
  · obtain ⟨l, member, rfl⟩ := List.mem_map.mp inside
    rcases List.mem_cons.mp there with impossible | other
    · cases impossible
    · obtain ⟨k, also, same⟩ := List.mem_map.mp other
      cases same
      exact shape.apart s t l member also

omit [DecidableEq Signal] [DecidableEq Listener] in
private theorem ring_nodup (shape : Represents p members) (s : Signal) :
    (ringOf members s).Nodup := by
  unfold ringOf
  rw [List.nodup_cons]
  constructor
  · intro member
    obtain ⟨l, _, impossible⟩ := List.mem_map.mp member
    cases impossible
  · exact (shape.nodup s).map Sum.inr_injective

omit [DecidableEq Signal] [DecidableEq Listener] in
private theorem unlinked_ring {l : Listener} (unlinked : ∀ s, l ∉ members s) (s : Signal) :
    .inr l ∉ ringOf members s := by
  intro member
  rcases List.mem_cons.mp member with impossible | inside
  · cases impossible
  · obtain ⟨k, there, same⟩ := List.mem_map.mp inside
    cases same
    exact unlinked s there

/-- Joining nodes of one ring leaves the others alone. -/
private theorem join_other (shape : Represents p members) {s t : Signal} (other : t ≠ s)
    {left right : Signal ⊕ Listener} {links : Links (Signal ⊕ Listener)}
    (ring : links.Ring (.inl t) ((members t).map .inr))
    (leftHere : left ∈ ringOf members s ∨ left ∉ ringOf members t)
    (rightHere : right ∈ ringOf members s ∨ right ∉ ringOf members t) :
    (links.join left right).Ring (.inl t) ((members t).map .inr) := by
  have outside : ∀ node, node ∈ ringOf members s ∨ node ∉ ringOf members t →
      node ∉ ringOf members t := by
    intro node place there
    rcases place with here | absent
    · exact other (shape.ring_apart there here)
    · exact absent there
  exact ring.frame (outside left leftHere) (outside right rightHere)

theorem new : Represents (lists.new : Pointers Signal Listener) fun _ => [] where
  ring _ := List.isChain_pair.mpr ⟨rfl, rfl⟩
  nodup _ := .nil
  apart _ _ _ := nofun
  short _ := Nat.le_refl 0

theorem init (shape : Represents p members) {l : Listener} (unlinked : ∀ s, l ∉ members s) :
    Represents (lists.listInit p l) members where
  ring s := (shape.ring s).frame (unlinked_ring unlinked s) (unlinked_ring unlinked s)
  nodup := shape.nodup
  apart := shape.apart
  short := shape.short

theorem add (shape : Represents p members) {l : Listener} (unlinked : ∀ s, l ∉ members s)
    (s : Signal) :
    Represents (lists.signalAdd p s l) (Function.update members s (members s ++ [l])) where
  ring t := by
    by_cases same : t = s
    · subst same
      rw [Function.update_self, List.map_append, List.map_singleton]
      exact (shape.ring t).insert_last (shape.ring_nodup t) (unlinked_ring unlinked t)
    · rw [Function.update_of_ne same]
      have last : p.links.prev (.inl s) ∈ ringOf members s :=
        (shape.ring s).prev_mem List.mem_cons_self
      have head : p.links.next (p.links.prev (.inl s)) ∈ ringOf members s :=
        (shape.ring s).next_mem last
      have fresh := unlinked_ring unlinked t
      exact shape.join_other same
        (shape.join_other same (shape.ring t) (.inr fresh) (.inl head)) (.inl last) (.inr fresh)
  nodup t := by
    by_cases same : t = s
    · subst same
      rw [Function.update_self]
      refine List.nodup_append.mpr ⟨shape.nodup t, List.nodup_singleton l, ?_⟩
      intro k member other last same
      exact unlinked t (List.mem_singleton.mp last ▸ same ▸ member)
    · rw [Function.update_of_ne same]
      exact shape.nodup t
  apart t u k here there := by
    have place : ∀ v, k ∈ Function.update members s (members s ++ [l]) v →
        k ∈ members v ∨ v = s ∧ k = l := by
      intro v member
      by_cases same : v = s
      · rw [same, Function.update_self] at member
        rcases List.mem_append.mp member with before | last
        · exact .inl (same ▸ before)
        · exact .inr ⟨same, List.mem_singleton.mp last⟩
      · rw [Function.update_of_ne same] at member
        exact .inl member
    rcases place t here with before | ⟨rfl, rfl⟩
    · rcases place u there with also | ⟨_, rfl⟩
      · exact shape.apart t u k before also
      · exact absurd before (unlinked t)
    · rcases place u there with also | ⟨same, _⟩
      · exact absurd also (unlinked u)
      · exact same.symm
  short t := by
    by_cases same : t = s
    · subst same
      rw [Function.update_self, List.length_append]
      exact Nat.succ_le_succ (shape.short t)
    · rw [Function.update_of_ne same]
      exact Nat.le_succ_of_le (shape.short t)

theorem remove (shape : Represents p members) {l : Listener} {s : Signal} (linked : l ∈ members s) :
    Represents (lists.listRemove p l) fun t => (members t).erase l where
  ring t := by
    by_cases same : t = s
    · subst same
      obtain ⟨before, after, split⟩ := List.append_of_mem linked
      have first : l ∉ before := by
        have unique := shape.nodup t
        rw [split] at unique
        exact fun member =>
          (List.nodup_append.mp unique).2.2 l member l List.mem_cons_self rfl
      have ring := shape.ring t
      have unique := shape.ring_nodup t
      unfold ringOf at unique
      rw [split, List.map_append, List.map_cons] at ring unique
      rw [split, List.erase_append_right _ first, List.erase_cons_head, List.map_append]
      exact ring.remove unique
    · have absent : l ∉ members t := fun there => same (shape.apart t s l there linked)
      have here : .inr l ∈ ringOf members s :=
        List.mem_cons_of_mem _ (List.mem_map_of_mem linked)
      rw [List.erase_of_not_mem absent]
      exact shape.join_other same (shape.ring t) (.inl ((shape.ring s).prev_mem here))
        (.inl ((shape.ring s).next_mem here))
  nodup t := (shape.nodup t).erase l
  apart t u k here there :=
    shape.apart t u k (List.mem_of_mem_erase here) (List.mem_of_mem_erase there)
  short t := Nat.le_trans (List.erase_sublist.length_le) (shape.short t)

theorem unlinked (shape : Represents p members) {l : Listener} (outside : lists.Unlinked p l)
    (s : Signal) : l ∉ members s := by
  rw [← shape.nodes_eq s]
  exact outside s

omit [DecidableEq Signal] [DecidableEq Listener] in
private theorem listener_head (ls : List Listener) (s : Signal) :
    listener ((ls.map .inr).head?.getD (.inl s)) = ls.head? := by
  cases ls <;> rfl

end Represents

/-- The pointers keep what the documentation says of the lists. -/
theorem lists_documented :
    (lists : WlLists (Pointers Signal Listener) Signal Listener).Documented
      fun p => ∃ members, Represents p members where
  newValid := ⟨_, .new⟩
  new _ := Represents.new.nodes_eq _
  addValid _ s _ := fun ⟨_, shape⟩ outside => ⟨_, shape.add (shape.unlinked outside) s⟩
  add _ s _ t := fun ⟨_, shape⟩ outside => by
    rw [(shape.add (shape.unlinked outside) s).nodes_eq, shape.nodes_eq, shape.nodes_eq,
      Function.update_apply]
  removeValid _ s _ := fun ⟨_, shape⟩ linked => ⟨_, shape.remove (shape.nodes_eq s ▸ linked)⟩
  remove _ s _ t := fun ⟨_, shape⟩ linked => by
    rw [(shape.remove (shape.nodes_eq s ▸ linked)).nodes_eq, shape.nodes_eq]
  initValid _ _ := fun ⟨_, shape⟩ outside => ⟨_, shape.init (shape.unlinked outside)⟩
  init _ _ _ := fun ⟨_, shape⟩ outside => by
    rw [(shape.init (shape.unlinked outside)).nodes_eq, shape.nodes_eq]
  nodup _ s := fun ⟨_, shape⟩ => by
    rw [shape.nodes_eq]
    exact shape.nodup s
  apart _ s t l := fun ⟨_, shape⟩ => by
    rw [shape.nodes_eq, shape.nodes_eq]
    exact shape.apart s t l
  first p s := fun ⟨_, shape⟩ => by
    change listener (p.links.next (.inl s)) = _
    rw [(shape.ring s).first, Represents.listener_head, shape.nodes_eq]
  next p s l before after := fun ⟨_, shape⟩ split => by
    have ring := shape.ring s
    rw [← shape.nodes_eq, split, List.map_append, List.map_cons] at ring
    change listener (p.links.next (.inr l)) = _
    rw [ring.next, Represents.listener_head]

end Pointers

end Westonite.Listeners
