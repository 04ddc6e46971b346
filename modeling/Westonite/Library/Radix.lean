import Mathlib.Data.List.Basic
import Mathlib.Tactic.Ring

/-! Numbers in a radix, read and printed. What is read has an optional plus sign,
at least one digit, and a limit to stay below; what is printed may be padded. -/

set_option autoImplicit false

namespace Westonite.Library.Radix

/-- The value of a character as a digit, letters of either case from ten on. -/
def toDigit (radix : Nat) (c : Char) : Option Nat :=
  let digit :=
    if 48 ≤ c.toNat ∧ c.toNat ≤ 57 then some (c.toNat - 48)
    else if 97 ≤ c.toNat ∧ c.toNat ≤ 122 then some (c.toNat - 87)
    else if 65 ≤ c.toNat ∧ c.toNat ≤ 90 then some (c.toNat - 55)
    else none
  digit.filter fun d => d < radix

/-- The digits from the left, onto the value of those before. -/
def readDigits (radix limit : Nat) : Nat → List Char → Option Nat
  | value, [] => some value
  | value, c :: cs =>
      match toDigit radix c with
      | none => none
      | some d =>
          if value * radix + d < limit then readDigits radix limit (value * radix + d) cs
          else none

def fromStrRadix (radix limit : Nat) : List Char → Option Nat
  | [] | ['+'] | ['-'] => none
  | '+' :: cs => readDigits radix limit 0 cs
  | cs => readDigits radix limit 0 cs

/-- What the digits stand for, after a value that was read before them. -/
def valueFrom (radix : Nat) : Nat → List Char → Nat
  | value, [] => value
  | value, c :: cs => valueFrom radix (value * radix + (toDigit radix c).getD 0) cs

def value (radix : Nat) (digits : List Char) : Nat := valueFrom radix 0 digits

def Digits (radix : Nat) (cs : List Char) : Prop := ∀ c ∈ cs, (toDigit radix c).isSome = true

instance (radix : Nat) (cs : List Char) : Decidable (Digits radix cs) :=
  inferInstanceAs (Decidable (∀ c ∈ cs, _))

variable {radix limit : Nat}

@[simp] theorem digits_cons {c : Char} {cs : List Char} :
    Digits radix (c :: cs) ↔ (toDigit radix c).isSome = true ∧ Digits radix cs :=
  List.forall_mem_cons

private theorem toDigit_lt {c : Char} {d : Nat} (digit : toDigit radix c = some d) : d < radix := by
  unfold toDigit at digit
  exact of_decide_eq_true (Option.filter_eq_some_iff.mp digit).2

/-- Digits are ASCII: letters and the digits themselves. -/
theorem toDigit_toNat {c : Char} (digit : (toDigit radix c).isSome = true) :
    48 ≤ c.toNat ∧ c.toNat ≤ 122 := by
  obtain ⟨d, found⟩ := Option.isSome_iff_exists.mp digit
  have some := (Option.filter_eq_some_iff.mp found).1
  split at some
  · omega
  · split at some
    · omega
    · split at some
      · omega
      · cases some

theorem toDigit_plus : toDigit radix '+' = none := rfl

private theorem toDigit_minus : toDigit radix '-' = none := rfl

/-! ### Values -/

private theorem valueFrom_eq (start : Nat) (cs : List Char) :
    valueFrom radix start cs = start * radix ^ cs.length + value radix cs := by
  unfold value
  induction cs generalizing start with
  | nil => simp [valueFrom]
  | cons c cs ih =>
      unfold valueFrom
      rw [ih, ih (0 * radix + _), List.length_cons, pow_succ]
      ring

theorem value_cons (c : Char) (cs : List Char) :
    value radix (c :: cs) = (toDigit radix c).getD 0 * radix ^ cs.length + value radix cs := by
  have split := @valueFrom_eq radix (0 * radix + (toDigit radix c).getD 0) cs
  rw [Nat.zero_mul, Nat.zero_add] at split
  unfold value at split ⊢
  rw [valueFrom, Nat.zero_mul, Nat.zero_add, split]

theorem value_lt {cs : List Char} (digits : Digits radix cs) :
    value radix cs < radix ^ cs.length := by
  induction cs with
  | nil => exact Nat.one_pos
  | cons c cs ih =>
      obtain ⟨first, rest⟩ := digits_cons.mp digits
      obtain ⟨d, digit⟩ := Option.isSome_iff_exists.mp first
      rw [value_cons, digit, Option.getD_some, List.length_cons, pow_succ]
      have low : value radix cs < radix ^ cs.length := ih rest
      have high : d + 1 ≤ radix := toDigit_lt digit
      calc d * radix ^ cs.length + value radix cs
          < d * radix ^ cs.length + radix ^ cs.length := Nat.add_lt_add_left low _
        _ = (d + 1) * radix ^ cs.length := by ring
        _ ≤ radix * radix ^ cs.length := Nat.mul_le_mul_right _ high
        _ = radix ^ cs.length * radix := Nat.mul_comm ..

private theorem le_valueFrom (positive : 0 < radix) (start : Nat) (cs : List Char) :
    start ≤ valueFrom radix start cs := by
  rw [valueFrom_eq]
  have room : 0 < radix ^ cs.length := Nat.pow_pos positive
  exact Nat.le_add_right_of_le (Nat.le_mul_of_pos_right start room)

/-! ### What is read -/

private theorem readDigits_eq_some_iff (positive : 0 < radix) {start : Nat} (below : start < limit)
    {cs : List Char} {v : Nat} :
    readDigits radix limit start cs = some v ↔
      Digits radix cs ∧ v = valueFrom radix start cs ∧ v < limit := by
  induction cs generalizing start with
  | nil =>
      simp only [readDigits, valueFrom, Option.some.injEq, Digits, List.not_mem_nil,
        false_implies, implies_true, true_and]
      constructor
      · intro same
        exact ⟨same.symm, same ▸ below⟩
      · intro same
        exact same.1.symm
  | cons c cs ih =>
      rw [digits_cons]
      unfold readDigits valueFrom
      cases digit : toDigit radix c with
      | none => simp
      | some d =>
          dsimp only
          rw [Option.getD_some]
          split
          · rename_i fits
            rw [ih fits]
            simp
          · rename_i overflows
            have grows := le_valueFrom positive (start * radix + d) cs
            constructor
            · intro impossible
              cases impossible
            · intro read
              omega

theorem fromStrRadix_eq_some_iff (positive : 0 < radix) (room : 0 < limit) {cs : List Char}
    {v : Nat} :
    fromStrRadix radix limit cs = some v ↔
      ∃ digits, digits ≠ [] ∧ (cs = digits ∨ cs = '+' :: digits) ∧ Digits radix digits ∧
        v = value radix digits ∧ v < limit := by
  have read : ∀ digits, readDigits radix limit 0 digits = some v ↔
      Digits radix digits ∧ v = value radix digits ∧ v < limit :=
    fun digits => readDigits_eq_some_iff positive room
  unfold fromStrRadix
  split
  · simp
  · constructor
    · intro impossible
      cases impossible
    · rintro ⟨digits, some, rfl | plus, known, _⟩
      · simp [toDigit_plus] at known
      · simp_all
  · constructor
    · intro impossible
      cases impossible
    · rintro ⟨digits, some, rfl | plus, known, _⟩
      · simp [toDigit_minus] at known
      · simp at plus
  · rename_i rest lone
    rw [read]
    constructor
    · intro found
      refine ⟨rest, ?_, .inr rfl, found⟩
      rintro rfl
      exact lone rfl
    · rintro ⟨digits, some, rfl | plus, known, valued⟩
      · simp [toDigit_plus] at known
      · cases plus
        exact ⟨known, valued⟩
  · rename_i other
    rw [read]
    constructor
    · intro found
      refine ⟨cs, ?_, .inl rfl, found⟩
      rintro rfl
      simp_all
    · rintro ⟨digits, some, rfl | plus, known, valued⟩
      · exact ⟨known, valued⟩
      · exact absurd plus (other digits)

/-! ### What is printed -/

/-- The digits of a number, with zeros in front of them up to a width. -/
def zeroPadded (radix width n : Nat) : List Char := (Nat.toDigits radix n).leftpad width '0'

private theorem digits_append {cs ds : List Char} :
    Digits radix (cs ++ ds) ↔ Digits radix cs ∧ Digits radix ds :=
  List.forall_mem_append

private theorem value_append (cs ds : List Char) :
    value radix (cs ++ ds) = value radix cs * radix ^ ds.length + value radix ds := by
  induction cs with
  | nil => simp [value, valueFrom]
  | cons c cs ih =>
      rw [List.cons_append, value_cons, ih, value_cons, List.length_append, pow_add]
      ring

private theorem value_singleton {c : Char} {d : Nat} (digit : toDigit radix c = some d) :
    value radix [c] = d := by
  simp [value, valueFrom, digit]

private theorem toDigit_digitChar (letters : radix ≤ 16) {d : Nat} (below : d < radix) :
    toDigit radix d.digitChar = some d := by
  have bound : d < 16 := Nat.lt_of_lt_of_le below letters
  have digit : ∀ e < 16, toDigit 16 e.digitChar = some e := by decide
  have same := (Option.filter_eq_some_iff.mp (digit d bound)).1
  unfold toDigit
  exact Option.filter_eq_some_iff.mpr ⟨same, decide_eq_true below⟩

section Printed

variable (base : 1 < radix) (letters : radix ≤ 16)

include base letters

theorem digits_toDigits (n : Nat) : Digits radix (Nat.toDigits radix n) := by
  induction n using Nat.strong_induction_on with
  | _ n ih =>
      have last : Digits radix [(n % radix).digitChar] := by
        have digit := toDigit_digitChar letters (Nat.mod_lt n (by omega))
        simp [Digits, digit]
      rw [Nat.toDigits_eq_if base]
      split
      · rename_i small
        rwa [Nat.mod_eq_of_lt small] at last
      · rename_i large
        have smaller : n / radix < n := Nat.div_lt_self (by omega) base
        exact digits_append.mpr ⟨ih _ smaller, last⟩

theorem value_toDigits (n : Nat) : value radix (Nat.toDigits radix n) = n := by
  induction n using Nat.strong_induction_on with
  | _ n ih =>
      rw [Nat.toDigits_eq_if base]
      split
      · rename_i small
        exact value_singleton (toDigit_digitChar letters small)
      · rename_i large
        have smaller : n / radix < n := Nat.div_lt_self (by omega) base
        have digit := toDigit_digitChar letters (Nat.mod_lt n (by omega))
        rw [value_append, ih _ smaller, value_singleton digit, List.length_singleton, pow_one]
        exact Nat.div_add_mod' n radix

private theorem toDigit_zero : toDigit radix '0' = some 0 :=
  toDigit_digitChar letters (show 0 < radix by omega)

theorem digits_zeroPadded (width n : Nat) : Digits radix (zeroPadded radix width n) := by
  refine digits_append.mpr ⟨?_, digits_toDigits base letters n⟩
  intro c member
  rw [List.eq_of_mem_replicate member, toDigit_zero base letters]
  rfl

/-- The zeros in front do not change what is read. -/
theorem value_zeroPadded (width n : Nat) : value radix (zeroPadded radix width n) = n := by
  have zeros : ∀ count, value radix (List.replicate count '0') = 0 := by
    intro count
    induction count with
    | zero => rfl
    | succ count ih =>
        rw [List.replicate_succ, value_cons, toDigit_zero base letters, ih, Option.getD_some,
          Nat.zero_mul]
  unfold zeroPadded List.leftpad
  rw [value_append, zeros, Nat.zero_mul, Nat.zero_add, value_toDigits base letters]

omit letters in
theorem length_zeroPadded {width n : Nat} (some : 0 < width) (fits : n < radix ^ width) :
    (zeroPadded radix width n).length = width := by
  have short := (Nat.length_toDigits_le_iff base some).mpr fits
  unfold zeroPadded List.leftpad
  rw [List.length_append, List.length_replicate]
  omega

omit letters in
theorem lt_length_zeroPadded {width n : Nat} (some : 0 < width) (large : radix ^ width ≤ n) :
    width < (zeroPadded radix width n).length := by
  have long : ¬ (Nat.toDigits radix n).length ≤ width := by
    rw [Nat.length_toDigits_le_iff base some]
    omega
  unfold zeroPadded List.leftpad
  rw [List.length_append]
  omega

end Printed

end Westonite.Library.Radix
