import Mathlib.Data.List.Perm.Basic

/-! Operations of a growable array whose effect on the order of the elements
matters, on lists. -/

set_option autoImplicit false

namespace Westonite.Library

variable {Item : Type}

/-- The last element takes the place of the one removed. -/
def swapRemove (items : List Item) (i : Nat) : List Item :=
  match items.getLast? with
  | none => items
  | some last => (items.set i last).dropLast

private theorem swapRemove_concat_last (front : List Item) (last : Item) :
    swapRemove (front ++ [last]) front.length = front := by
  simp [swapRemove, List.set_append_right]

private theorem swapRemove_concat_front {front : List Item} {last : Item} {i : Nat}
    (inside : i < front.length) :
    swapRemove (front ++ [last]) i = front.set i last := by
  simp [swapRemove, List.set_append_left i last inside]

private theorem perm_set_concat {items : List Item} {i : Nat} {old new : Item}
    (found : items[i]? = some old) : (old :: items.set i new).Perm (items ++ [new]) := by
  obtain ⟨inside, rfl⟩ := List.getElem?_eq_some_iff.mp found
  have split : items = items.take i ++ items[i] :: items.drop (i + 1) := by simp
  have replaced : items.set i new = items.take i ++ new :: items.drop (i + 1) :=
    List.set_eq_take_append_cons_drop.trans (if_pos inside)
  have out : (items[i] :: (items.take i ++ items.drop (i + 1))).Perm items := by
    conv_rhs => rw [split]
    exact List.perm_middle.symm
  have into : (items.set i new).Perm (new :: (items.take i ++ items.drop (i + 1))) := by
    rw [replaced]
    exact List.perm_middle
  have exchanged := (into.cons items[i]).trans (List.Perm.swap _ _ _)
  have appended := (out.cons new).trans (List.perm_append_singleton new items).symm
  exact exchanged.trans appended

/-- `swapRemove` loses the element at its position and no other. -/
theorem swapRemove_perm {items : List Item} {i : Nat} {item : Item}
    (found : items[i]? = some item) : (item :: swapRemove items i).Perm items := by
  rcases List.eq_nil_or_concat items with rfl | ⟨front, last, rfl⟩
  · simp at found
  · rw [List.concat_eq_append] at found ⊢
    rcases Nat.lt_or_ge i front.length with inside | outside
    · rw [List.getElem?_append_left inside] at found
      rw [swapRemove_concat_front inside]
      exact perm_set_concat found
    · obtain ⟨bound, value⟩ := List.getElem?_eq_some_iff.mp found
      have exact : i = front.length := by
        rw [List.length_append, List.length_singleton] at bound
        omega
      subst exact
      rw [swapRemove_concat_last]
      have last : last = item := by simpa using value
      rw [last]
      exact (List.perm_append_singleton item front).symm

end Westonite.Library
