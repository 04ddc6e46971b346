import Mathlib.Data.Option.Basic

/-! Forests given by a parent function: paths towards a root, and what moving
or removing one node does to them. -/

set_option autoImplicit false

namespace Westonite.Library

variable {Node : Type}

/-- `steps` parent links lead from the first node to the second. -/
inductive Path (parent : Node → Option Node) : Nat → Node → Node → Prop where
  | refl (node : Node) : Path parent 0 node node
  | up {steps node above top} : parent node = some above → Path parent steps above top →
      Path parent (steps + 1) node top

/-- The second node is the first or one of its ancestors. -/
def Below (parent : Node → Option Node) (node top : Node) : Prop :=
  ∃ steps, Path parent steps node top

/-- Every node reaches a root within a bound. -/
def Shallow (parent : Node → Option Node) (bound : Nat) : Prop :=
  ∀ node, ∃ steps root, steps ≤ bound ∧ Path parent steps node root ∧ parent root = none

variable {parent other : Node → Option Node}

namespace Path

variable {first second : Nat} {node middle top root : Node}

theorem trans (lower : Path parent first node middle) (upper : Path parent second middle top) :
    Path parent (first + second) node top := by
  induction lower with
  | refl => simpa using upper
  | up link _ ih =>
      have extended := Path.up link (ih upper)
      rw [Nat.add_right_comm] at extended
      exact extended

/-- Of two paths from one node the shorter is the beginning of the longer. -/
theorem rest (lower : Path parent first node middle) (whole : Path parent second node root)
    (isRoot : parent root = none) :
    ∃ left, second = first + left ∧ Path parent left middle root := by
  induction lower generalizing second with
  | refl => exact ⟨second, by simp, whole⟩
  | up link _ ih =>
      cases whole with
      | refl => rw [isRoot] at link; cases link
      | up otherLink remaining =>
          obtain rfl := Option.some.inj (link.symm.trans otherLink)
          obtain ⟨left, length, path⟩ := ih remaining
          exact ⟨left, by omega, path⟩

/-- A path that is not empty ends with a link to its top. -/
theorem last (path : Path parent (first + 1) node top) :
    ∃ child, Path parent first node child ∧ parent child = some top := by
  induction first generalizing node with
  | zero =>
      cases path with
      | up link rest =>
          cases rest with
          | refl => exact ⟨node, .refl node, link⟩
  | succ first ih =>
      cases path with
      | up link rest =>
          obtain ⟨child, path, top⟩ := ih rest
          exact ⟨child, .up link path, top⟩

theorem of_root (isRoot : parent node = none) (path : Path parent first node top) :
    top = node ∧ first = 0 := by
  cases path with
  | refl => exact ⟨rfl, rfl⟩
  | up link _ => rw [isRoot] at link; cases link

end Path

namespace Below

variable {node middle top root second : Node}

theorem refl (node : Node) : Below parent node node := ⟨0, .refl node⟩

theorem trans (lower : Below parent node middle) (upper : Below parent middle top) :
    Below parent node top := by
  obtain ⟨_, lower⟩ := lower
  obtain ⟨_, upper⟩ := upper
  exact ⟨_, lower.trans upper⟩

theorem up (link : parent node = some middle) (upper : Below parent middle top) :
    Below parent node top := by
  obtain ⟨_, upper⟩ := upper
  exact ⟨_, .up link upper⟩

/-- What lies above a node lies below every root above that node. -/
theorem rest (lower : Below parent node middle) (whole : Below parent node root)
    (isRoot : parent root = none) : Below parent middle root := by
  obtain ⟨_, lower⟩ := lower
  obtain ⟨_, whole⟩ := whole
  obtain ⟨left, _, path⟩ := lower.rest whole isRoot
  exact ⟨left, path⟩

theorem root_unique (left : Below parent node root) (right : Below parent node second)
    (isRoot : parent root = none) (alsoRoot : parent second = none) : root = second := by
  obtain ⟨_, path⟩ := left.rest right alsoRoot
  exact (path.of_root isRoot).1.symm

end Below

/-- Whether a node reaches a root within a bound. -/
def reachesRoot (parent : Node → Option Node) : Nat → Node → Bool
  | 0, node => (parent node).isNone
  | bound + 1, node =>
      match parent node with
      | none => true
      | some above => reachesRoot parent bound above

theorem reachesRoot_path {bound : Nat} {node : Node} (reaches : reachesRoot parent bound node) :
    ∃ steps root, steps ≤ bound ∧ Path parent steps node root ∧ parent root = none := by
  induction bound generalizing node with
  | zero => exact ⟨0, node, Nat.le_refl 0, .refl node, Option.isNone_iff_eq_none.mp reaches⟩
  | succ bound ih =>
      unfold reachesRoot at reaches
      cases link : parent node with
      | none => exact ⟨0, node, by omega, .refl node, link⟩
      | some above =>
          simp only [link] at reaches
          obtain ⟨steps, root, within, path, isRoot⟩ := ih reaches
          exact ⟨steps + 1, root, by omega, .up link path, isRoot⟩

theorem Shallow.root {bound : Nat} (shallow : Shallow parent bound) (node : Node) :
    ∃ root, Below parent node root ∧ parent root = none := by
  obtain ⟨steps, root, _, path, isRoot⟩ := shallow node
  exact ⟨root, ⟨steps, path⟩, isRoot⟩

theorem Shallow.length_le {bound steps : Nat} {node top : Node}
    (shallow : Shallow parent bound) (path : Path parent steps node top) : steps ≤ bound := by
  obtain ⟨length, root, within, whole, isRoot⟩ := shallow node
  obtain ⟨left, sum, _⟩ := path.rest whole isRoot
  omega

/-- A forest has no cycles. -/
theorem Shallow.acyclic {bound steps : Nat} {node : Node} (shallow : Shallow parent bound)
    (cycle : Path parent steps node node) : steps = 0 := by
  obtain ⟨root, ⟨length, whole⟩, isRoot⟩ := shallow.root node
  induction length using Nat.strongRecOn with
  | ind length ih =>
      obtain ⟨left, sum, path⟩ := cycle.rest whole isRoot
      cases steps with
      | zero => rfl
      | succ steps => exact ih left (by omega) path

/-! ### Two forests that differ at one node -/

section Moved

variable {moved : Node} (same : ∀ node, node ≠ moved → other node = parent node)

include same

private theorem Path.avoid {steps : Nat} {node top : Node} (path : Path parent steps node top)
    (apart : ¬ Below parent node moved) : Path other steps node top := by
  induction path with
  | refl node => exact .refl node
  | @up steps node above top link _ ih =>
      have different : node ≠ moved := fun equal => apart (equal ▸ Below.refl node)
      have linkOther := (same node different).trans link
      exact .up linkOther (ih fun below => apart (below.up link))

theorem Path.reach {steps : Nat} {node : Node} (path : Path parent steps node moved) :
    Below other node moved := by
  generalize target : moved = top at path
  induction path with
  | refl node => exact target ▸ Below.refl _
  | @up steps node above top link _ ih =>
      by_cases equal : node = moved
      · rw [equal]
        exact target ▸ Below.refl _
      · exact (ih target).up ((same node equal).trans link)

theorem below_moved_iff {node : Node} : Below other node moved ↔ Below parent node moved := by
  constructor
  · intro below
    obtain ⟨_, path⟩ := below
    exact path.reach fun node different => (same node different).symm
  · intro below
    obtain ⟨_, path⟩ := below
    exact path.reach same

/-- The roots after the move: those of the nodes left in place, and the new
root of the moved node. -/
theorem below_root_iff {node root : Node} (isRoot : other root = none) :
    Below other node root ↔
      (¬ Below parent node moved ∧ Below parent node root) ∨
      (Below parent node moved ∧ Below other moved root) := by
  have back : ∀ node, node ≠ moved → parent node = other node :=
    fun node different => (same node different).symm
  constructor
  · intro below
    by_cases under : Below parent node moved
    · exact .inr ⟨under, ((below_moved_iff same).mpr under).rest below isRoot⟩
    · obtain ⟨_, path⟩ := below
      have apart : ¬ Below other node moved := fun reached =>
        under ((below_moved_iff same).mp reached)
      exact .inl ⟨under, _, path.avoid back apart⟩
  · rintro (⟨apart, _, path⟩ | ⟨under, top⟩)
    · exact ⟨_, path.avoid same apart⟩
    · exact ((below_moved_iff same).mpr under).trans top

end Moved

/-! ### A forest without one node -/

/-- The links that neither start nor end at a node. -/
def without (parent : Node → Option Node) [DecidableEq Node] (removed : Node) (node : Node) :
    Option Node :=
  if node = removed ∨ parent node = some removed then none else parent node

section Removed

variable [DecidableEq Node] {removed : Node}

private theorem without_link {node above : Node} (link : without parent removed node = some above) :
    parent node = some above ∧ node ≠ removed ∧ above ≠ removed := by
  unfold without at link
  split at link
  · cases link
  · rename_i kept
    simp only [not_or] at kept
    exact ⟨link, kept.1, fun equal => kept.2 (equal ▸ link)⟩

private theorem without_of_link {node above : Node} (link : parent node = some above)
    (different : node ≠ removed) (apart : above ≠ removed) :
    without parent removed node = some above := by
  unfold without
  rw [if_neg, link]
  rintro (equal | equal)
  · exact different equal
  · exact apart (Option.some.inj (link.symm.trans equal))

private theorem Below.of_without {node top : Node}
    (below : Below (without parent removed) node top) :
    Below parent node top := by
  obtain ⟨steps, path⟩ := below
  induction path with
  | refl node => exact .refl node
  | up link _ ih => exact ih.up (without_link link).1

private theorem Below.without_of_apart {node top : Node} (below : Below parent node top)
    (apart : ¬ Below parent node removed) : Below (without parent removed) node top := by
  obtain ⟨steps, path⟩ := below
  induction path with
  | refl node => exact .refl node
  | @up steps node above top link _ ih =>
      have aboveApart : ¬ Below parent above removed := fun reached => apart (reached.up link)
      have different : node ≠ removed := fun equal => apart (equal ▸ Below.refl node)
      have next : above ≠ removed := fun equal => aboveApart (equal ▸ Below.refl above)
      exact (ih aboveApart).up (without_of_link link different next)

private theorem Below.without_of_top {node top : Node} (below : Below parent node top)
    (apart : ¬ Below parent removed top) : Below (without parent removed) node top := by
  obtain ⟨steps, path⟩ := below
  induction path with
  | refl node => exact .refl node
  | @up steps node above top link rest ih =>
      have different : node ≠ removed := by
        rintro rfl
        exact apart ⟨_, .up link rest⟩
      have next : above ≠ removed := by
        rintro rfl
        exact apart ⟨_, rest⟩
      exact (ih apart).up (without_of_link link different next)

/-- No path of the smaller forest leads from below the node to above it. -/
theorem Below.not_without {node root : Node} (below : Below parent node removed)
    (isRoot : parent root = none) (different : root ≠ removed) :
    ¬ Below (without parent removed) node root := by
  obtain ⟨steps, path⟩ := below
  generalize target : removed = top at path
  induction path with
  | refl node =>
      subst target
      rintro ⟨_, path⟩
      cases path with
      | refl => exact different rfl
      | up link _ => exact (without_link link).2.1 rfl
  | @up steps node above top link _ ih =>
      rintro ⟨_, path⟩
      cases path with
      | refl => rw [isRoot] at link; cases link
      | up otherLink rest =>
          obtain rfl := Option.some.inj ((without_link otherLink).1.symm.trans link)
          exact ih target ⟨_, rest⟩

/-- A child of the removed node keeps what was below it. -/
theorem below_without_child_iff {bound : Nat} (shallow : Shallow parent bound)
    {node child : Node} (link : parent child = some removed) :
    Below (without parent removed) node child ↔ Below parent node child := by
  constructor
  · exact Below.of_without
  · intro below
    refine below.without_of_top ?_
    rintro ⟨steps, path⟩
    have cycle := shallow.acyclic (path.trans (.up link (.refl removed)))
    omega

/-- A root keeps what was below it and not below the removed node. -/
theorem below_without_root_iff {node root : Node} (isRoot : parent root = none)
    (different : root ≠ removed) :
    Below (without parent removed) node root ↔
      Below parent node root ∧ ¬ Below parent node removed := by
  constructor
  · intro below
    exact ⟨below.of_without, fun under => under.not_without isRoot different below⟩
  · rintro ⟨below, apart⟩
    exact below.without_of_apart apart

end Removed

end Westonite.Library
