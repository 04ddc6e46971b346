import Mathlib.Data.List.TakeWhile

/-! The fields of a text: what stands between its separators, once the empty
pieces are dropped. -/

set_option autoImplicit false

namespace Westonite.Library

variable {Item : Type} {sep : Item → Bool}

/-- The non-empty pieces between the separators. -/
def fields (sep : Item → Bool) (text : List Item) : List (List Item) :=
  (text.splitOnP sep).filter fun piece => !piece.isEmpty

/-- A field that stands by itself. -/
structure IsField (sep : Item → Bool) (piece : List Item) : Prop where
  nonempty : piece ≠ []
  clear : ∀ item ∈ piece, sep item = false

private theorem fields_nil : fields sep [] = [] := rfl

private theorem fields_cons_sep {item : Item} (separates : sep item = true) (text : List Item) :
    fields sep (item :: text) = fields sep text := by
  unfold fields
  rw [List.splitOnP_cons_eq_if_modifyHead, if_pos separates, List.filter_cons_of_neg (by simp)]

private theorem fields_append_sep (front : List Item) {item : Item} (separates : sep item = true)
    (text : List Item) :
    fields sep (front ++ item :: text) = fields sep front ++ fields sep text := by
  unfold fields
  rw [List.splitOnP_append_cons _ _ separates, List.filter_append]

namespace IsField

private theorem fields_self {piece : List Item} (field : IsField sep piece) :
    fields sep piece = [piece] := by
  unfold fields
  rw [List.splitOnP_eq_singleton field.clear, List.filter_cons_of_pos (by simp [field.nonempty]),
    List.filter_nil]

/-- A field that is followed by the end or by a separator is the first one. -/
theorem fields_append {piece : List Item} (field : IsField sep piece) {rest : List Item}
    (ends : ∀ item, rest.head? = some item → sep item = true) :
    fields sep (piece ++ rest) = piece :: fields sep rest := by
  cases rest with
  | nil => rw [List.append_nil, field.fields_self, fields_nil]
  | cons item text =>
      have separates := ends item rfl
      rw [fields_append_sep _ separates, field.fields_self, fields_cons_sep separates,
        List.singleton_append]

end IsField

private theorem mem_splitOnP_clear {text piece : List Item} (member : piece ∈ text.splitOnP sep) :
    ∀ item ∈ piece, sep item = false := by
  induction text generalizing piece with
  | nil =>
      rw [List.splitOnP_nil, List.mem_singleton] at member
      rw [member]
      intro item inside
      cases inside
  | cons first rest ih =>
      rw [List.splitOnP_cons_eq_if_modifyHead] at member
      by_cases separates : sep first = true
      · rw [if_pos separates, List.mem_cons] at member
        cases member with
        | inl empty =>
            rw [empty]
            intro item inside
            cases inside
        | inr later => exact ih later
      · rw [if_neg separates] at member
        cases split : rest.splitOnP sep with
        | nil => exact absurd split (List.splitOnP_ne_nil sep rest)
        | cons head tail =>
            rw [split, List.modifyHead_cons, List.mem_cons] at member
            cases member with
            | inl joined =>
                rw [joined]
                intro item inside
                cases List.mem_cons.mp inside with
                | inl same => rw [same]; simpa using separates
                | inr behind => exact ih (by rw [split]; exact List.mem_cons_self) item behind
            | inr later => exact ih (by rw [split]; exact List.mem_cons_of_mem _ later)

theorem mem_fields {text piece : List Item} (member : piece ∈ fields sep text) :
    IsField sep piece where
  nonempty := by simpa using (List.mem_filter.mp member).2
  clear := mem_splitOnP_clear (List.mem_filter.mp member).1

/-- Fields with separators between them are read back. -/
theorem fields_intercalate {item : Item} (separates : sep item = true)
    {pieces : List (List Item)} (each : ∀ piece ∈ pieces, IsField sep piece) :
    fields sep ([item].intercalate pieces) = pieces := by
  induction pieces with
  | nil => rfl
  | cons piece rest ih =>
      have field := each piece List.mem_cons_self
      have others := ih fun other member => each other (List.mem_cons_of_mem _ member)
      cases rest with
      | nil => simpa using field.fields_self
      | cons next rest =>
          rw [List.intercalate_cons_cons, List.append_assoc, List.singleton_append,
            fields_append_sep _ separates, field.fields_self, others, List.singleton_append]

/-- The scan from the left: a field reaches up to the next separator. -/
theorem fields_cons_clear {first : Item} (clear : sep first = false) (text : List Item) :
    fields sep (first :: text) =
      (first :: text.takeWhile fun item => !sep item) ::
        fields sep (text.dropWhile fun item => !sep item) := by
  have field : IsField sep (first :: text.takeWhile fun item => !sep item) := by
    constructor
    · exact List.cons_ne_nil _ _
    · intro item member
      cases List.mem_cons.mp member with
      | inl same => rw [same, clear]
      | inr behind =>
          have inside := List.all_takeWhile (p := fun item => !sep item) (l := text)
          simpa using List.all_eq_true.mp inside item behind
  have ends : ∀ item, (text.dropWhile fun item => !sep item).head? = some item →
      sep item = true := by
    intro item head
    have found := (List.find?_eq_head?_dropWhile_not (p := sep) (l := text)).trans head
    exact List.find?_some found
  have joined := List.takeWhile_append_dropWhile (p := fun item => !sep item) (l := text)
  calc fields sep (first :: text)
      = fields sep ((first :: text.takeWhile fun item => !sep item) ++
          text.dropWhile fun item => !sep item) := by rw [List.cons_append, joined]
    _ = _ := field.fields_append ends

/-- Separators that agree on a text make the same fields. -/
theorem fields_congr {other : Item → Bool} {text : List Item}
    (agree : ∀ item ∈ text, sep item = other item) : fields sep text = fields other text := by
  have pieces : text.splitOnP sep = text.splitOnP other := by
    induction text with
    | nil => rfl
    | cons first rest ih =>
        have later := ih fun item member => agree item (List.mem_cons_of_mem _ member)
        rw [List.splitOnP_cons_eq_if_modifyHead, List.splitOnP_cons_eq_if_modifyHead, later,
          agree first List.mem_cons_self]
  rw [fields, pieces, fields]

/-- Separators in front do not count. -/
theorem fields_dropWhile (text : List Item) :
    fields sep (text.dropWhile sep) = fields sep text := by
  induction text with
  | nil => rfl
  | cons first rest ih =>
      cases separates : sep first with
      | true => rw [List.dropWhile_cons_of_pos separates, ih, fields_cons_sep separates]
      | false => rw [List.dropWhile_cons_of_neg (by simp [separates])]

end Westonite.Library
