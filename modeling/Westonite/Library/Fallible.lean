import Mathlib.Data.List.Forall2
import Mathlib.Data.Option.Basic

/-! Steps that may fail, one after the other. -/

set_option autoImplicit false

namespace Westonite.Library

variable {Error Item Value Result : Type}

theorem bind_eq_ok {first : Except Error Value} {next : Value → Except Error Result}
    {result : Result} :
    (first >>= next) = .ok result ↔ ∃ value, first = .ok value ∧ next value = .ok result := by
  cases first with
  | error e =>
      constructor
      · intro impossible
        cases impossible
      · rintro ⟨value, impossible, _⟩
        cases impossible
  | ok value =>
      constructor
      · intro done
        exact ⟨value, rfl, done⟩
      · rintro ⟨_, same, done⟩
        cases same
        exact done

/-- A check that reports what is wrong, before the rest is done. -/
def ensure (wrong : Option Error) : Except Error Unit :=
  match wrong with
  | some e => .error e
  | none => .ok ()

theorem ensure_eq_ok {wrong : Option Error} {done : Unit} :
    ensure wrong = .ok done ↔ wrong = none := by
  cases wrong with
  | none => exact ⟨fun _ => rfl, fun _ => rfl⟩
  | some e => simp [ensure]

private theorem mapM_eq_ok {read : Item → Except Error Value} {items : List Item}
    {values : List Value} :
    items.mapM read = .ok values ↔
      List.Forall₂ (fun item value => read item = .ok value) items values := by
  induction items generalizing values with
  | nil =>
      rw [List.mapM_nil]
      constructor
      · intro done
        cases done
        exact .nil
      · intro each
        cases each
        rfl
  | cons item rest ih =>
      rw [List.mapM_cons, bind_eq_ok]
      constructor
      · rintro ⟨value, first, others⟩
        obtain ⟨later, tail, same⟩ := bind_eq_ok.mp others
        cases same
        exact .cons first (ih.mp tail)
      · intro each
        cases each with
        | @cons _ value _ later first others =>
            exact ⟨value, first, bind_eq_ok.mpr ⟨later, ih.mpr others, rfl⟩⟩

/-- The partner of an item on the right. -/
theorem forall₂_mem_right {Left Right : Type} {R : Left → Right → Prop} {lefts : List Left}
    {rights : List Right} (each : List.Forall₂ R lefts rights) {right : Right}
    (member : right ∈ rights) : ∃ left ∈ lefts, R left right := by
  induction each with
  | nil => cases member
  | cons first others ih =>
      cases List.mem_cons.mp member with
      | inl same => exact ⟨_, List.mem_cons_self, same ▸ first⟩
      | inr behind =>
          obtain ⟨left, listed, related⟩ := ih behind
          exact ⟨left, List.mem_cons_of_mem _ listed, related⟩

/-- A search that partners answer alike finds partners. -/
theorem forall₂_find? {Left Right : Type} {R : Left → Right → Prop} {lefts : List Left}
    {rights : List Right} (each : List.Forall₂ R lefts rights) {p : Left → Bool} {q : Right → Bool}
    (alike : ∀ left right, R left right → p left = q right) :
    Option.Rel R (lefts.find? p) (rights.find? q) := by
  induction each with
  | nil => exact .none
  | @cons left right lefts rights first others ih =>
      have answer := alike left right first
      cases found : q right with
      | true =>
          rw [List.find?_cons_of_pos (answer.trans found), List.find?_cons_of_pos found]
          exact .some first
      | false =>
          rw [List.find?_cons_of_neg (by simp [answer, found]),
            List.find?_cons_of_neg (by simp [found])]
          exact ih

/-- A reading that is a check and a function. -/
theorem mapM_eq_ok_map {read : Item → Except Error Value} {Good : Item → Prop} {into : Item → Value}
    (one : ∀ item value, read item = .ok value ↔ Good item ∧ value = into item)
    {items : List Item} {values : List Value} :
    items.mapM read = .ok values ↔ (∀ item ∈ items, Good item) ∧ values = items.map into := by
  rw [mapM_eq_ok]
  constructor
  · intro each
    induction each with
    | nil => exact ⟨fun item member => absurd member List.not_mem_nil, rfl⟩
    | @cons item value rest values first others ih =>
        obtain ⟨good, same⟩ := (one item value).mp first
        obtain ⟨later, tail⟩ := ih
        exact ⟨List.forall_mem_cons.mpr ⟨good, later⟩, by rw [same, tail, List.map_cons]⟩
  · intro all
    obtain ⟨good, same⟩ := all
    rw [same, List.forall₂_map_right_iff, List.forall₂_same]
    intro item member
    exact (one item (into item)).mpr ⟨good item member, rfl⟩

/-- A text that may be absent, read by a parser. -/
def readName (parse : String → Option Value) (wrong : String → String) :
    Option String → Except String (Option Value)
  | none => .ok none
  | some text =>
      match parse text with
      | some value => .ok (some value)
      | none => .error (wrong text)

/-- A name that is given is one that is known. -/
def Named (parse : String → Option Value) (text : Option String)
    (value : Option Value) : Prop :=
  (text = none ∧ value = none) ∨ ∃ name known, text = some name ∧ value = some known ∧
    parse name = some known

theorem readName_eq_ok {parse : String → Option Value} {wrong : String → String}
    {text : Option String} {value : Option Value} :
    readName parse wrong text = .ok value ↔ Named parse text value := by
  cases text with
  | none =>
      constructor
      · intro read
        cases read
        exact .inl ⟨rfl, rfl⟩
      · intro read
        cases read with
        | inl absent => rw [absent.2]; rfl
        | inr given =>
            obtain ⟨name, known, impossible, _⟩ := given
            cases impossible
  | some name =>
      cases known : parse name with
      | none =>
          constructor
          · intro read
            rw [readName, known] at read
            cases read
          · intro read
            cases read with
            | inl absent => cases absent.1
            | inr given =>
                obtain ⟨_, found, same, _, is⟩ := given
                cases same
                rw [known] at is
                cases is
      | some found =>
          constructor
          · intro read
            rw [readName, known] at read
            cases read
            exact .inr ⟨name, found, rfl, rfl, known⟩
          · intro read
            cases read with
            | inl absent => cases absent.1
            | inr given =>
                obtain ⟨_, other, same, rfl, is⟩ := given
                cases same
                rw [known] at is
                cases is
                rw [readName, known]

theorem Named.isSome {parse : String → Option Value} {text : Option String}
    {value : Option Value} (named : Named parse text value) : value.isSome = text.isSome := by
  cases named with
  | inl absent => rw [absent.1, absent.2]; rfl
  | inr given =>
      obtain ⟨name, known, rfl, rfl, _⟩ := given
      rfl

end Westonite.Library
