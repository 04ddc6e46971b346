import Mathlib.Algebra.Ring.Nat

/-! Binary floating point on the bits of the numbers: the order of the doubles, and
their rounding to single precision. -/

set_option autoImplicit false

namespace Westonite.Library.Binary

/-- A double, by its bits. -/
abbrev F64 := UInt64

/-- A single, by its bits. -/
abbrev F32 := UInt32

namespace F64

def negative (x : F64) : Bool := decide (2 ^ 63 ≤ x.toNat)

/-- Everything but the sign. -/
def magnitude (x : F64) : Nat := x.toNat % 2 ^ 63

def isNan (x : F64) : Bool := decide (2047 * 2 ^ 52 < magnitude x)

/-- The place of a number among the others; the two zeros share one. -/
def key (x : F64) : Int := if negative x then -(magnitude x : Int) else magnitude x

/-- `<` of the numbers, false when one of them is none. -/
def lt (x y : F64) : Bool := !isNan x && !isNan y && decide (key x < key y)

def le (x y : F64) : Bool := !isNan x && !isNan y && decide (key x ≤ key y)

end F64

namespace F32

def negative (x : F32) : Bool := decide (2 ^ 31 ≤ x.toNat)

def magnitude (x : F32) : Nat := x.toNat % 2 ^ 31

def isNan (x : F32) : Bool := decide (255 * 2 ^ 23 < magnitude x)

def key (x : F32) : Int := if negative x then -(magnitude x : Int) else magnitude x

def le (x y : F32) : Bool := !isNan x && !isNan y && decide (key x ≤ key y)

end F32

/-- Division by a power of two to the nearest, half-way to the even. -/
def roundShift (value shift : Nat) : Nat :=
  let quotient := value / 2 ^ shift
  let rest := value % 2 ^ shift
  if 2 ^ shift < 2 * rest ∨ (2 ^ shift = 2 * rest ∧ quotient % 2 = 1) then quotient + 1
  else quotient

/-- The multiple of the least double that a magnitude below infinity stands for. -/
def units (magnitude : Nat) : Nat :=
  let exponent := magnitude / 2 ^ 52
  if exponent = 0 then magnitude
  else (2 ^ 52 + magnitude % 2 ^ 52) * 2 ^ (exponent - 1)

/-- The magnitude of the single next to a double: above the least normal single the
bits are rounded, exponent and all, below it the number. -/
def narrowMagnitude (magnitude : Nat) : Nat :=
  if 2047 * 2 ^ 52 < magnitude then 0x7fc00000
  else if 897 * 2 ^ 52 ≤ magnitude then
    min (roundShift magnitude 29 - 896 * 2 ^ 23) 0x7f800000
  else roundShift (units magnitude) 925

/-- The `as f32` of a double. -/
def narrow (x : F64) : F32 :=
  UInt32.ofNat ((if F64.negative x then 2 ^ 31 else 0) + narrowMagnitude (F64.magnitude x))

/-! ### Rounding keeps the order -/

private theorem F64.le_iff {x y : F64} :
    F64.le x y = true ↔ F64.isNan x = false ∧ F64.isNan y = false ∧ F64.key x ≤ F64.key y := by
  simp [F64.le, and_assoc]

private theorem F32.le_iff {x y : F32} :
    F32.le x y = true ↔ F32.isNan x = false ∧ F32.isNan y = false ∧ F32.key x ≤ F32.key y := by
  simp [F32.le, and_assoc]

private theorem roundShift_mono {a b : Nat} (shift : Nat) (le : a ≤ b) :
    roundShift a shift ≤ roundShift b shift := by
  have quotients : a / 2 ^ shift ≤ b / 2 ^ shift := Nat.div_le_div_right le
  have place : 0 < 2 ^ shift := Nat.two_pow_pos shift
  unfold roundShift
  dsimp only
  cases Nat.lt_or_eq_of_le quotients with
  | inl less =>
      split
      · split <;> omega
      · split <;> omega
  | inr same =>
      have parts := Nat.div_add_mod a (2 ^ shift)
      have others := Nat.div_add_mod b (2 ^ shift)
      rw [same] at parts ⊢
      split
      · rename_i up
        rw [if_pos (by omega)]
      · split <;> omega

/-- What the exponent alone says. -/
theorem units_bounds (m : Nat) :
    units m < 2 ^ 52 * 2 ^ (m / 2 ^ 52) ∧
      (m / 2 ^ 52 ≠ 0 → 2 ^ 52 * 2 ^ (m / 2 ^ 52 - 1) ≤ units m) := by
  have fraction : m % 2 ^ 52 < 2 ^ 52 := Nat.mod_lt _ (Nat.two_pow_pos 52)
  unfold units
  dsimp only
  by_cases subnormal : m / 2 ^ 52 = 0
  · have small : m < 2 ^ 52 := by omega
    rw [if_pos subnormal, subnormal]
    exact ⟨by omega, fun normal => absurd rfl normal⟩
  · obtain ⟨e, exponent⟩ := Nat.exists_eq_succ_of_ne_zero subnormal
    rw [if_neg subnormal, exponent]
    have double : 2 ^ 52 * 2 ^ (e + 1) = (2 ^ 52 + 2 ^ 52) * 2 ^ e := by
      rw [Nat.pow_succ]
      omega
    constructor
    · rw [Nat.succ_eq_add_one, double, Nat.add_sub_cancel]
      exact Nat.mul_lt_mul_of_pos_right (by omega) (Nat.two_pow_pos e)
    · intro _
      exact Nat.mul_le_mul_right _ (Nat.le_add_right _ _)

private theorem units_mono {a b : Nat} (le : a ≤ b) : units a ≤ units b := by
  have exponents : a / 2 ^ 52 ≤ b / 2 ^ 52 := Nat.div_le_div_right le
  cases Nat.lt_or_eq_of_le exponents with
  | inl less =>
      have above := (units_bounds b).2 (by omega)
      have power : 2 ^ (a / 2 ^ 52) ≤ 2 ^ (b / 2 ^ 52 - 1) :=
        Nat.pow_le_pow_right (by decide) (by omega)
      calc units a ≤ 2 ^ 52 * 2 ^ (a / 2 ^ 52) := Nat.le_of_lt (units_bounds a).1
        _ ≤ 2 ^ 52 * 2 ^ (b / 2 ^ 52 - 1) := Nat.mul_le_mul_left _ power
        _ ≤ units b := above
  | inr same =>
      unfold units
      dsimp only
      rw [same]
      split
      · exact le
      · exact Nat.mul_le_mul_right _ (by omega)

private theorem two_pow_mul {a b c d : Nat} (same : a + b = c + d) :
    2 ^ a * 2 ^ b = 2 ^ c * 2 ^ d := by
  rw [← Nat.pow_add, ← Nat.pow_add, same]

private theorem units_normal : units (897 * 2 ^ 52) = 2 ^ 23 * 2 ^ 925 := by
  have exponent : 897 * 2 ^ 52 / 2 ^ 52 = 897 := by decide
  have fraction : 897 * 2 ^ 52 % 2 ^ 52 = 0 := by decide
  unfold units
  dsimp only
  rw [exponent, fraction, if_neg (by decide), Nat.add_zero]
  exact two_pow_mul (by decide)

private theorem roundShift_mul (n shift : Nat) : roundShift (n * 2 ^ shift) shift = n := by
  have place : 0 < 2 ^ shift := Nat.two_pow_pos shift
  unfold roundShift
  dsimp only
  rw [Nat.mul_mod_left, Nat.mul_div_cancel _ place, if_neg (by omega)]

private theorem narrowMagnitude_normal {m : Nat} (finite : m ≤ 2047 * 2 ^ 52)
    (normal : 897 * 2 ^ 52 ≤ m) :
    narrowMagnitude m = min (roundShift m 29 - 896 * 2 ^ 23) 0x7f800000 := by
  unfold narrowMagnitude
  rw [if_neg (Nat.not_lt.mpr finite), if_pos normal]

private theorem narrowMagnitude_small {m : Nat} (small : m < 897 * 2 ^ 52) :
    narrowMagnitude m = roundShift (units m) 925 := by
  unfold narrowMagnitude
  rw [if_neg (by omega), if_neg (Nat.not_le.mpr small)]

private theorem narrowMagnitude_zero : narrowMagnitude 0 = 0 := by
  have none : units 0 = 0 * 2 ^ 925 := by rw [Nat.zero_mul]; rfl
  rw [narrowMagnitude_small (by decide), none, roundShift_mul]

theorem narrow_zero : narrow 0 = 0 := by
  have positive : F64.negative 0 = false := rfl
  have none : F64.magnitude 0 = 0 := rfl
  unfold narrow
  rw [positive, none, narrowMagnitude_zero]
  rfl

private theorem narrowMagnitude_mono {a b : Nat} (le : a ≤ b) (finite : b ≤ 2047 * 2 ^ 52) :
    narrowMagnitude a ≤ narrowMagnitude b := by
  by_cases normal : 897 * 2 ^ 52 ≤ a
  · have rounded := roundShift_mono 29 le
    rw [narrowMagnitude_normal (Nat.le_trans le finite) normal,
      narrowMagnitude_normal finite (Nat.le_trans normal le)]
    omega
  · have small := Nat.not_le.mp normal
    by_cases above : 897 * 2 ^ 52 ≤ b
    · -- the two ranges meet at the least normal single
      have low := roundShift_mono 925 (units_mono (Nat.le_of_lt small))
      have high := roundShift_mono 29 above
      have meets : roundShift (897 * 2 ^ 52) 29 = 897 * 2 ^ 23 := by decide
      rw [units_normal, roundShift_mul] at low
      rw [meets] at high
      rw [narrowMagnitude_small small, narrowMagnitude_normal finite above]
      omega
    · rw [narrowMagnitude_small small, narrowMagnitude_small (Nat.not_le.mp above)]
      exact roundShift_mono 925 (units_mono le)

private theorem narrowMagnitude_le {m : Nat} (finite : m ≤ 2047 * 2 ^ 52) :
    narrowMagnitude m ≤ 255 * 2 ^ 23 := by
  have most := narrowMagnitude_mono finite Nat.le.refl
  have infinity : narrowMagnitude (2047 * 2 ^ 52) = 255 * 2 ^ 23 := by decide
  rwa [infinity] at most

/-- What is left of a number in single precision. -/
theorem narrow_parts {x : F64} (number : F64.isNan x = false) :
    F32.negative (narrow x) = F64.negative x ∧
      F32.magnitude (narrow x) = narrowMagnitude (F64.magnitude x) := by
  have finite : F64.magnitude x ≤ 2047 * 2 ^ 52 := by simpa [F64.isNan] using number
  have small := narrowMagnitude_le finite
  cases sign : F64.negative x with
  | true =>
      have bits : (narrow x).toNat = 2 ^ 31 + narrowMagnitude (F64.magnitude x) := by
        unfold narrow
        rw [sign, if_pos rfl, UInt32.toNat_ofNat_of_lt']
        exact Nat.lt_of_le_of_lt (Nat.add_le_add_left small _) (by decide)
      constructor
      · simp [F32.negative, bits]
      · unfold F32.magnitude
        omega
  | false =>
      have bits : (narrow x).toNat = narrowMagnitude (F64.magnitude x) := by
        unfold narrow
        rw [sign, if_neg Bool.false_ne_true, Nat.zero_add, UInt32.toNat_ofNat_of_lt']
        exact Nat.lt_of_le_of_lt small (by decide)
      constructor
      · unfold F32.negative
        rw [bits, decide_eq_false]
        omega
      · unfold F32.magnitude
        omega

private theorem narrow_isNan {x : F64} (number : F64.isNan x = false) :
    F32.isNan (narrow x) = false := by
  have finite : F64.magnitude x ≤ 2047 * 2 ^ 52 := by simpa [F64.isNan] using number
  unfold F32.isNan
  rw [(narrow_parts number).2, decide_eq_false]
  exact Nat.not_lt.mpr (narrowMagnitude_le finite)

/-- Rounding to single precision keeps the order. -/
theorem narrow_le {x y : F64} (le : F64.le x y = true) : F32.le (narrow x) (narrow y) = true := by
  obtain ⟨left, right, keys⟩ := F64.le_iff.mp le
  have leftFinite : F64.magnitude x ≤ 2047 * 2 ^ 52 := by simpa [F64.isNan] using left
  have rightFinite : F64.magnitude y ≤ 2047 * 2 ^ 52 := by simpa [F64.isNan] using right
  refine F32.le_iff.mpr ⟨narrow_isNan left, narrow_isNan right, ?_⟩
  unfold F64.key at keys
  unfold F32.key
  rw [(narrow_parts left).1, (narrow_parts left).2, (narrow_parts right).1, (narrow_parts right).2]
  cases first : F64.negative x with
  | true =>
      cases second : F64.negative y with
      | true =>
          simp only [first, second, if_true] at keys ⊢
          have below : F64.magnitude y ≤ F64.magnitude x := by omega
          have reversed := narrowMagnitude_mono below leftFinite
          omega
      | false => simp only [if_true, Bool.false_eq_true, if_false]; omega
  | false =>
      cases second : F64.negative y with
      | true =>
          simp only [first, second, if_true, Bool.false_eq_true, if_false] at keys ⊢
          have none : F64.magnitude x = 0 ∧ F64.magnitude y = 0 := by omega
          rw [none.1, none.2, narrowMagnitude_zero]
          decide
      | false =>
          simp only [first, second, Bool.false_eq_true, if_false] at keys ⊢
          have below : F64.magnitude x ≤ F64.magnitude y := by omega
          have same := narrowMagnitude_mono below rightFinite
          omega

end Westonite.Library.Binary
