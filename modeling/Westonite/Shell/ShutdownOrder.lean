import Mathlib.Data.List.Induction
import Westonite.Shell.Policy

/-! The order in which the shutdown destroys the surfaces. -/

set_option autoImplicit false

namespace Westonite

open Library

namespace Shell

instance : Std.Total idLe where
  total left right := by
    unfold idLe
    omega

instance : IsTrans DesktopSurfaceId idLe where
  trans first second third := by
    unfold idLe
    omega

private theorem idLe_antisymm {left right : DesktopSurfaceId} (below : idLe left right)
    (above : idLe right left) : left = right := by
  obtain ⟨⟨slot, generation⟩⟩ := left
  obtain ⟨⟨other, later⟩⟩ := right
  unfold idLe at below above
  dsimp only at below above
  obtain rfl : slot = other := by omega
  obtain rfl : generation = later := by omega
  rfl

/-- An id before another one: a lower slot, or in the same slot an older generation. -/
def idLt (left right : DesktopSurfaceId) : Prop :=
  left.raw.slot < right.raw.slot ∨
    left.raw.slot = right.raw.slot ∧ left.raw.generation < right.raw.generation

private theorem idLt_of_idLe {left right : DesktopSurfaceId} (below : idLe left right)
    (different : left ≠ right) : idLt left right := by
  rcases below with lower | ⟨same, older⟩
  · exact .inl lower
  · refine .inr ⟨same, Nat.lt_of_le_of_ne older ?_⟩
    intro equal
    exact different (idLe_antisymm (.inr ⟨same, older⟩) (.inr ⟨same.symm, equal.ge⟩))

variable (shell : Shell)

/-- One view more of the snapshot. -/
private theorem stackedIds_snoc (views : List DesktopSurfaceId) (v : DesktopSurfaceId) :
    shell.stackedIds (views ++ [v]) =
      if shell.known v ∧ v ∉ shell.stackedIds views then shell.stackedIds views ++ [v]
      else shell.stackedIds views := by
  unfold stackedIds
  rw [List.foldl_append]
  rfl

theorem mem_stackedIds {views : List DesktopSurfaceId} {id : DesktopSurfaceId} :
    id ∈ shell.stackedIds views ↔ shell.known id ∧ id ∈ views := by
  induction views using List.reverseRecOn with
  | nil => simp [stackedIds]
  | append_singleton views v ih =>
      rw [stackedIds_snoc]
      split
      · rename_i added
        rw [List.mem_append, ih, List.mem_append, List.mem_singleton]
        constructor
        · intro member
          rcases member with ⟨known, before⟩ | rfl
          · exact ⟨known, .inl before⟩
          · exact ⟨added.1, .inr rfl⟩
        · intro member
          exact member.2.imp_left fun before => ⟨member.1, before⟩
      · rename_i passed
        rw [ih, List.mem_append, List.mem_singleton]
        constructor
        · exact fun member => ⟨member.1, .inl member.2⟩
        · intro member
          obtain ⟨known, before | rfl⟩ := member
          · exact ⟨known, before⟩
          · have listed : id ∈ shell.stackedIds views := by
              by_contra absent
              exact passed ⟨known, absent⟩
            exact ih.mp listed

/-- The stacked surfaces follow each other as their first occurrences do. -/
theorem stackedIds_pairwise (views : List DesktopSurfaceId) :
    (shell.stackedIds views).Pairwise fun left right => views.idxOf left < views.idxOf right := by
  induction views using List.reverseRecOn with
  | nil => exact .nil
  | append_singleton views v ih =>
      have first : ∀ id, id ∈ shell.stackedIds views →
          (views ++ [v]).idxOf id = views.idxOf id := by
        intro id member
        rw [List.idxOf_append, if_pos (shell.mem_stackedIds.mp member).2]
      have kept : (shell.stackedIds views).Pairwise fun left right =>
          (views ++ [v]).idxOf left < (views ++ [v]).idxOf right := by
        apply ih.imp_of_mem
        intro left right leftMember rightMember before
        rw [first left leftMember, first right rightMember]
        exact before
      rw [stackedIds_snoc]
      split
      · rename_i added
        have unseen : v ∉ views := fun seen => added.2 (shell.mem_stackedIds.mpr ⟨added.1, seen⟩)
        rw [List.pairwise_append]
        refine ⟨kept, List.pairwise_singleton _ _, ?_⟩
        intro id member other last
        obtain rfl := List.mem_singleton.mp last
        rw [first id member, List.idxOf_append, if_neg unseen, List.idxOf_cons_self]
        exact Nat.lt_add_left 0 (List.idxOf_lt_length_of_mem (shell.mem_stackedIds.mp member).2)
      · exact kept

/-- The known surfaces that the snapshot does not show, lowest id first. -/
def unstackedIds (views : List DesktopSurfaceId) : List DesktopSurfaceId :=
  (shell.surfaces.keys.filter fun id => id ∉ shell.stackedIds views).insertionSort idLe

theorem mem_unstackedIds {views : List DesktopSurfaceId} {id : DesktopSurfaceId} :
    id ∈ shell.unstackedIds views ↔ shell.known id ∧ id ∉ views := by
  have keys : id ∈ shell.surfaces.keys ↔ shell.known id := by
    unfold known
    rw [AList.lookup_isSome]
    rfl
  unfold unstackedIds
  rw [List.mem_insertionSort, List.mem_filter, keys, decide_eq_true_iff, mem_stackedIds]
  constructor
  · exact fun member => ⟨member.1, fun seen => member.2 ⟨member.1, seen⟩⟩
  · exact fun member => ⟨member.1, fun listed => member.2 listed.2⟩

theorem unstackedIds_pairwise (views : List DesktopSurfaceId) :
    (shell.unstackedIds views).Pairwise idLt := by
  have distinct : (shell.unstackedIds views).Nodup :=
    (List.perm_insertionSort idLe _).nodup_iff.mpr (shell.surfaces.keys_nodup.filter _)
  have sorted : (shell.unstackedIds views).Pairwise idLe := List.pairwise_insertionSort idLe _
  exact (sorted.and distinct).imp fun both => idLt_of_idLe both.1 both.2

end Shell

end Westonite
