import Mathlib.Data.List.DropRight
import Westonite.Library.Radix

/-! Colors of the configuration: the grammar they are documented with, and what
the parser reads besides. -/

set_option autoImplicit false

namespace Westonite.Config

open Library.Radix

inductive ConfigError where
  | invalid (message : String)
  deriving DecidableEq, Repr

/-- The white space that `str::trim` removes. -/
def isWhiteSpace (c : Char) : Bool :=
  (9 ≤ c.toNat && c.toNat ≤ 13) || c.toNat == 0x20 || c.toNat == 0x85 || c.toNat == 0xa0 ||
    c.toNat == 0x1680 || (0x2000 ≤ c.toNat && c.toNat ≤ 0x200a) || c.toNat == 0x2028 ||
    c.toNat == 0x2029 || c.toNat == 0x202f || c.toNat == 0x205f || c.toNat == 0x3000

def trim (cs : List Char) : List Char := (cs.dropWhile isWhiteSpace).rdropWhile isWhiteSpace

/-- `str::len`, in bytes. -/
def byteLen (cs : List Char) : Nat := (cs.map Char.utf8Size).sum

def stripHexPrefix : List Char → List Char
  | '0' :: 'x' :: hex => hex
  | '0' :: 'X' :: hex => hex
  | t => t

def invalidColor (s what : String) : ConfigError :=
  .invalid (what ++ ": invalid color '" ++ s ++ "'")

def parseColor (s what : String) : Except ConfigError Nat :=
  let t := trim s.toList
  if t = ['0'] then .ok 0
  else if byteLen t ≠ 8 ∧ byteLen t ≠ 10 then .error (invalidColor s what)
  else
    match fromStrRadix 16 4294967296 (stripHexPrefix t) with
    | some v => .ok v
    | none => .error (invalidColor s what)

/-! ### The grammar -/

/-- The two characters that announce base 16. -/
def HexMark (x : Char) : Prop := x = 'x' ∨ x = 'X'

/-- The documented colors, and what they stand for. -/
inductive ColorSyntax : List Char → Nat → Prop where
  | zero : ColorSyntax ['0'] 0
  | plain {digits : List Char} : digits.length = 8 → Digits 16 digits →
      ColorSyntax digits (value 16 digits)
  | prefixed {x : Char} {digits : List Char} : HexMark x → digits.length = 8 →
      Digits 16 digits → ColorSyntax ('0' :: x :: digits) (value 16 digits)

/-- What passes for a color although it is none: the length is counted with the
prefix, and the conversion takes a sign and leading zeros. -/
inductive Misread : List Char → Prop where
  | prefixedSix {x : Char} {digits : List Char} : HexMark x → digits.length = 6 →
      Digits 16 digits → Misread ('0' :: x :: digits)
  | signed {digits : List Char} : digits.length = 7 → Digits 16 digits → Misread ('+' :: digits)
  | prefixedSigned {x : Char} {digits : List Char} : HexMark x →
      digits.length = 5 ∨ digits.length = 7 → Digits 16 digits →
      Misread ('0' :: x :: '+' :: digits)
  | padded {digits : List Char} : digits.length = 8 → Digits 16 digits →
      Misread ('0' :: '0' :: digits)
  | signedPadded {digits : List Char} : digits.length = 8 → Digits 16 digits →
      Misread ('+' :: '0' :: digits)

/-! ### Digits -/

private theorem HexMark.not_digit {x : Char} (mark : HexMark x) : toDigit 16 x = none := by
  rcases mark with rfl | rfl <;> rfl

private theorem byteLen_cons (c : Char) (cs : List Char) :
    byteLen (c :: cs) = c.utf8Size + byteLen cs := by
  unfold byteLen
  rw [List.map_cons, List.sum_cons]

theorem byteLen_digits {cs : List Char} (digits : Digits 16 cs) : byteLen cs = cs.length := by
  induction cs with
  | nil => rfl
  | cons c cs ih =>
      obtain ⟨first, rest⟩ := digits_cons.mp digits
      have ascii : c.utf8Size = 1 := by
        have low := (toDigit_toNat first).2
        unfold Char.utf8Size
        rw [if_pos]
        exact UInt32.le_iff_toNat_le.mpr (show c.toNat ≤ 127 by omega)
      rw [byteLen_cons, ascii, ih rest, List.length_cons, Nat.add_comm]

theorem byteLen_prefixed {x : Char} (mark : HexMark x) (cs : List Char) :
    byteLen ('0' :: x :: cs) = byteLen cs + 2 := by
  have one : x.utf8Size = 1 := by
    rcases mark with rfl | rfl <;> rfl
  rw [byteLen_cons, byteLen_cons, one]
  change 1 + (1 + byteLen cs) = byteLen cs + 2
  omega

private theorem byteLen_signed (cs : List Char) : byteLen ('+' :: cs) = byteLen cs + 1 := by
  rw [byteLen_cons]
  exact Nat.add_comm ..

private theorem stripHexPrefix_prefixed {x : Char} (mark : HexMark x) (cs : List Char) :
    stripHexPrefix ('0' :: x :: cs) = cs := by
  rcases mark with rfl | rfl <;> rfl

/-- A prefix is taken off or there is none. -/
private theorem stripHexPrefix_cases (t : List Char) :
    stripHexPrefix t = t ∨ ∃ x, HexMark x ∧ t = '0' :: x :: stripHexPrefix t := by
  unfold stripHexPrefix
  split
  · exact .inr ⟨'x', .inl rfl, rfl⟩
  · exact .inr ⟨'X', .inr rfl, rfl⟩
  · exact .inl rfl

private theorem stripHexPrefix_digits {cs : List Char} (digits : Digits 16 cs) :
    stripHexPrefix cs = cs := by
  rcases stripHexPrefix_cases cs with same | ⟨x, mark, shape⟩
  · exact same
  · rw [shape] at digits
    simp [mark.not_digit] at digits

private theorem stripHexPrefix_signed (cs : List Char) :
    stripHexPrefix ('+' :: cs) = '+' :: cs := by
  rcases stripHexPrefix_cases ('+' :: cs) with same | ⟨x, _, shape⟩
  · exact same
  · cases shape

private theorem eq_zero_of_toDigit {c : Char} (zero : toDigit 16 c = some 0) : c = '0' := by
  have digit := (Option.filter_eq_some_iff.mp zero).1
  have code : c.toNat = 48 := by
    split at digit
    · have same := Option.some.inj digit
      omega
    · split at digit
      · have same := Option.some.inj digit
        omega
      · split at digit
        · have same := Option.some.inj digit
          omega
        · cases digit
  exact Char.toNat_inj.mp code

/-- A number of more than eight digits that fits into 32 bits begins with a zero. -/
private theorem leading_zero {c : Char} {cs : List Char} (digits : Digits 16 (c :: cs))
    (long : 8 ≤ cs.length) (small : value 16 (c :: cs) < 4294967296) : c = '0' := by
  obtain ⟨d, digit⟩ := Option.isSome_iff_exists.mp (digits_cons.mp digits).1
  have power : 16 ^ 8 ≤ 16 ^ cs.length := Nat.pow_le_pow_right (by decide) long
  rw [value_cons, digit, Option.getD_some] at small
  have zero : d = 0 := by
    by_contra some
    have once : 1 * 16 ^ cs.length ≤ d * 16 ^ cs.length :=
      Nat.mul_le_mul_right _ (Nat.one_le_iff_ne_zero.mpr some)
    omega
  exact eq_zero_of_toDigit (zero ▸ digit)

private theorem value_zero_cons (cs : List Char) : value 16 ('0' :: cs) = value 16 cs := by
  rw [value_cons]
  change 0 * _ + _ = _
  rw [Nat.zero_mul, Nat.zero_add]

private theorem value_fits {cs : List Char} (digits : Digits 16 cs) (short : cs.length ≤ 8) :
    value 16 cs < 4294967296 := by
  have power : 16 ^ cs.length ≤ 16 ^ 8 := Nat.pow_le_pow_right (by decide) short
  have below := value_lt digits
  omega

/-! ### What the parser reads -/

private theorem parseColor_eq_ok {s what : String} {v : Nat} (long : trim s.toList ≠ ['0'])
    (length : byteLen (trim s.toList) = 8 ∨ byteLen (trim s.toList) = 10)
    {digits : List Char} (some : digits ≠ [])
    (stripped : stripHexPrefix (trim s.toList) = digits ∨
      stripHexPrefix (trim s.toList) = '+' :: digits)
    (known : Digits 16 digits) (same : v = value 16 digits) (fits : v < 4294967296) :
    parseColor s what = .ok v := by
  have read : fromStrRadix 16 4294967296 (stripHexPrefix (trim s.toList)) = .some v :=
    (fromStrRadix_eq_some_iff (by decide) (by decide)).mpr
      ⟨digits, some, stripped, known, same, fits⟩
  unfold parseColor
  dsimp only
  rw [if_neg long, if_neg (by omega), read]

/-- Every documented color is read as what it stands for. -/
theorem parseColor_of_syntax {s what : String} {v : Nat}
    (color : ColorSyntax (trim s.toList) v) : parseColor s what = .ok v := by
  generalize text : trim s.toList = t at color
  cases color with
  | zero =>
      unfold parseColor
      exact if_pos text
  | plain length digits =>
      subst text
      have bytes := byteLen_digits digits
      refine parseColor_eq_ok ?_ (by omega) ?_ (.inl (stripHexPrefix_digits digits)) digits rfl
        (value_fits digits (by omega))
      · intro short
        rw [short] at length
        cases length
      · intro empty
        rw [empty] at length
        cases length
  | @prefixed x digits mark length known =>
      have bytes := byteLen_prefixed mark digits
      rw [byteLen_digits known, length, ← text] at bytes
      refine parseColor_eq_ok ?_ (.inr bytes) ?_
        (.inl (text ▸ stripHexPrefix_prefixed mark digits)) known rfl (value_fits known (by omega))
      · rw [text]
        intro short
        cases short
      · rintro rfl
        cases length

theorem Misread.parsed {s : String} (misread : Misread (trim s.toList)) (what : String) :
    ∃ v, parseColor s what = .ok v := by
  generalize text : trim s.toList = t at misread
  have nonempty : ∀ {digits : List Char} {n : Nat}, digits.length = n + 1 → digits ≠ [] := by
    rintro digits n length rfl
    cases length
  cases misread with
  | @prefixedSix x digits mark length known =>
      refine ⟨value 16 digits, parseColor_eq_ok ?_ ?_ (nonempty length) ?_ known rfl
        (value_fits known (by omega))⟩
      · simp [text]
      · rw [text, byteLen_prefixed mark, byteLen_digits known]
        omega
      · exact .inl (text ▸ stripHexPrefix_prefixed mark digits)
  | @signed digits length known =>
      refine ⟨value 16 digits, parseColor_eq_ok ?_ ?_ (nonempty length) ?_ known rfl
        (value_fits known (by omega))⟩
      · simp [text]
      · rw [text, byteLen_signed, byteLen_digits known]
        omega
      · exact .inr (text ▸ stripHexPrefix_signed digits)
  | @prefixedSigned x digits mark length known =>
      refine ⟨value 16 digits, parseColor_eq_ok ?_ ?_ ?_ ?_ known rfl
        (value_fits known (by omega))⟩
      · simp [text]
      · rw [text, byteLen_prefixed mark, byteLen_signed, byteLen_digits known]
        omega
      · rintro rfl
        simp at length
      · exact .inr (text ▸ stripHexPrefix_prefixed mark _)
  | @padded digits length known =>
      have all : Digits 16 ('0' :: '0' :: digits) :=
        digits_cons.mpr ⟨rfl, digits_cons.mpr ⟨rfl, known⟩⟩
      refine ⟨value 16 ('0' :: '0' :: digits), parseColor_eq_ok ?_ ?_ (List.cons_ne_nil _ _) ?_ all
        rfl ?_⟩
      · simp [text]
      · rw [text, byteLen_digits all]
        simp [length]
      · exact .inl (text.symm ▸ stripHexPrefix_digits all)
      · rw [value_zero_cons, value_zero_cons]
        exact value_fits known (by omega)
  | @signedPadded digits length known =>
      have all : Digits 16 ('0' :: digits) := digits_cons.mpr ⟨rfl, known⟩
      refine ⟨value 16 ('0' :: digits), parseColor_eq_ok ?_ ?_ (List.cons_ne_nil _ _) ?_ all
        rfl ?_⟩
      · simp [text]
      · rw [text, byteLen_signed, byteLen_digits all]
        simp [length]
      · exact .inr (text ▸ stripHexPrefix_signed _)
      · rw [value_zero_cons]
        exact value_fits known (by omega)

/-- What is read is a documented color or one of the near misses. -/
private theorem syntax_or_misread {s what : String} {v : Nat} (read : parseColor s what = .ok v) :
    ColorSyntax (trim s.toList) v ∨ Misread (trim s.toList) := by
  unfold parseColor at read
  generalize trim s.toList = t at read ⊢
  dsimp only at read
  split at read
  · rename_i zero
    cases read
    exact .inl (zero ▸ .zero)
  · split at read
    · cases read
    · rename_i length
      split at read
      · rename_i found
        cases read
        obtain ⟨digits, _, stripped, known, rfl, fits⟩ :=
          (fromStrRadix_eq_some_iff (by decide) (by decide)).mp found
        have bytes := byteLen_digits known
        rcases stripHexPrefix_cases t with bare | ⟨x, mark, shape⟩
        · rw [bare] at stripped
          rcases stripped with rfl | rfl
          · have length : t.length = 8 ∨ t.length = 10 := by omega
            rcases length with eight | ten
            · exact .inl (.plain eight known)
            · -- ten digits that fit begin with two zeros
              obtain _ | ⟨a, _ | ⟨b, rest⟩⟩ := t
              · cases ten
              · cases ten
              · obtain rfl := leading_zero known (by simp at ten ⊢; omega) fits
                rw [value_zero_cons] at fits
                have later := (digits_cons.mp known).2
                obtain rfl := leading_zero later (by simp at ten; omega) fits
                exact .inr (.padded (by simpa using ten) (digits_cons.mp later).2)
          · rw [byteLen_signed] at length
            have length : digits.length = 7 ∨ digits.length = 9 := by omega
            rcases length with seven | nine
            · exact .inr (.signed seven known)
            · obtain _ | ⟨a, rest⟩ := digits
              · cases nine
              · obtain rfl := leading_zero known (by simp at nine; omega) fits
                exact .inr (.signedPadded (by simpa using nine) (digits_cons.mp known).2)
        · rw [shape, byteLen_prefixed mark] at length
          rw [shape]
          rcases stripped with plain | plus
          · rw [plain] at length ⊢
            have length : digits.length = 6 ∨ digits.length = 8 := by omega
            rcases length with six | eight
            · exact .inr (.prefixedSix mark six known)
            · exact .inl (.prefixed mark eight known)
          · rw [plus] at length ⊢
            rw [byteLen_signed] at length
            exact .inr (.prefixedSigned mark (by omega) known)
      · cases read

private theorem Misread.not_syntax {t : List Char} (misread : Misread t) (v : Nat) :
    ¬ ColorSyntax t v := by
  have plus : ∀ cs, ¬ Digits 16 ('+' :: cs) := by
    intro cs known
    simp [toDigit_plus] at known
  have unmarked : ∀ {x : Char} {cs : List Char}, HexMark x → ¬ Digits 16 ('0' :: x :: cs) := by
    intro x cs mark known
    simp [mark.not_digit] at known
  intro color
  cases color with
  | zero => cases misread
  | plain length known =>
      cases misread with
      | prefixedSix mark _ _ => exact unmarked mark known
      | signed _ _ => exact plus _ known
      | prefixedSigned mark _ _ => exact unmarked mark known
      | padded eight _ => simp [eight] at length
      | signedPadded _ _ => exact plus _ known
  | prefixed mark length known =>
      cases misread with
      | prefixedSix _ six _ => omega
      | prefixedSigned _ _ _ => exact plus _ known
      | padded _ _ => rcases mark with same | same <;> cases same

/-- The parser reads just the documented colors, as what they stand for, if and only
if the text is none of the near misses. -/
theorem parseColor_documented_iff (s what : String) :
    (∀ v, parseColor s what = .ok v ↔ ColorSyntax (trim s.toList) v) ↔
      ¬ Misread (trim s.toList) := by
  constructor
  · intro documented misread
    obtain ⟨v, read⟩ := misread.parsed what
    exact misread.not_syntax v ((documented v).mp read)
  · intro clear v
    constructor
    · intro read
      exact (syntax_or_misread read).resolve_right clear
    · exact parseColor_of_syntax

/-- Ten characters without a prefix that pass. -/
theorem parseColor_padded :
    parseColor "00ff002244" "shell.background-color" = .ok 0xff002244 ∧
      ¬ ColorSyntax (trim "00ff002244".toList) 0xff002244 := by
  refine ⟨by decide +kernel, ?_⟩
  intro color
  have text : trim "00ff002244".toList =
      ['0', '0', 'f', 'f', '0', '0', '2', '2', '4', '4'] := by decide +kernel
  rw [text] at color
  cases color with
  | plain length _ => cases length
  | prefixed mark _ _ => rcases mark with same | same <;> cases same

end Westonite.Config
