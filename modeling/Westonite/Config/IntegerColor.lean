import Westonite.Config.Color
import Westonite.Config.Overrides

/-! Colors given as a bare TOML integer: the deserializer hands them on as
hexadecimal text, which the color parser reads back. -/

set_option autoImplicit false

namespace Westonite.Config

open Library.Radix

/-! ### The deserializer -/

/-- What a visitor was handed instead of what it expects. -/
inductive Unexpected where
  | bool (flag : Bool)
  | signed (number : Int)
  | float (bits : UInt64)
  | seq
  | map
  deriving DecidableEq, Repr

inductive DeError where
  | invalidType (unexpected : Unexpected) (expected : String)
  | invalidValue (unexpected : Unexpected) (expected : String)
  deriving DecidableEq, Repr

/-- `format!("0x{v:08x}")` -/
def colorText (v : Nat) : String := String.ofList ('0' :: 'x' :: zeroPadded 16 8 v)

def visitU64 (v : Nat) : Except DeError (Option String) := .ok (some (colorText v))

def visitI64 (v : Int) : Except DeError (Option String) :=
  if 0 ≤ v then visitU64 v.toNat
  else .error (.invalidValue (.signed v) "a non-negative color value")

def visitUnexpected (unexpected : Unexpected) : Except DeError (Option String) :=
  .error (.invalidType unexpected "a color string or a non-negative number")

/-- `deserialize_any` of a TOML value, which calls the visitor by the value's kind;
a date is handed over as a map. -/
def deOptColorString : Value → Except DeError (Option String)
  | .string text => .ok (some text)
  | .integer number => visitI64 number
  | .float bits => visitUnexpected (.float bits)
  | .boolean flag => visitUnexpected (.bool flag)
  | .datetime _ => visitUnexpected .map
  | .array _ => visitUnexpected .seq
  | .table _ => visitUnexpected .map

/-! ### The resolved setting -/

def defaultBackgroundColor : Nat := 0xff002244

/-- How `resolve_from` announces an error of the deserializer, whose own text is `e`. -/
def deserializeError (configPath : Option String) (e : String) : ConfigError :=
  match configPath with
  | some path => .invalid ("config file '" ++ path ++ "': " ++ e)
  | none => .invalid ("config overrides: " ++ e)

/-- The deserializer's share in the key, which may be missing. -/
def shellBackgroundColor (shell : Table) : Except DeError (Option String) :=
  match shell.find "background-color" with
  | none => .ok none
  | some value => deOptColorString value

/-- The part of `resolve_from` that is about `[shell] background-color`; the texts
of the deserializer's errors are its own. -/
def backgroundColor (display : DeError → String) (configPath : Option String) (shell : Table) :
    Except ConfigError Nat :=
  match shellBackgroundColor shell with
  | .error e => .error (deserializeError configPath (display e))
  | .ok none => .ok defaultBackgroundColor
  | .ok (some s) => parseColor s "[shell] background-color"

/-! ### The text in between -/

private theorem not_isWhiteSpace {c : Char} (low : 48 ≤ c.toNat) (high : c.toNat ≤ 122) :
    isWhiteSpace c = false := by
  unfold isWhiteSpace
  simp
  omega

private theorem trim_eq_self {cs : List Char} (clear : ∀ c ∈ cs, isWhiteSpace c = false) :
    trim cs = cs := by
  have front : cs.dropWhile isWhiteSpace = cs := by
    rw [List.dropWhile_eq_self_iff]
    intro some
    simp [clear _ (List.getElem_mem some)]
  unfold trim
  rw [front, List.rdropWhile_eq_self_iff]
  intro some
  simp [clear _ (List.getLast_mem some)]

private theorem digits_hex (v : Nat) : Digits 16 (zeroPadded 16 8 v) :=
  digits_zeroPadded (by decide) (by decide) 8 v

private theorem trim_colorText (v : Nat) :
    trim (colorText v).toList = '0' :: 'x' :: zeroPadded 16 8 v := by
  unfold colorText
  rw [String.toList_ofList]
  apply trim_eq_self
  intro c member
  rcases List.mem_cons.mp member with rfl | rest
  · rfl
  · rcases List.mem_cons.mp rest with rfl | digit
    · rfl
    · obtain ⟨low, high⟩ := toDigit_toNat (digits_hex v c digit)
      exact not_isWhiteSpace low high

/-- Eight digits make a documented color. -/
private theorem colorText_documented {v : Nat} (fits : v < 4294967296) :
    ColorSyntax (trim (colorText v).toList) v := by
  have length : (zeroPadded 16 8 v).length = 8 :=
    length_zeroPadded (by decide) (by decide) (by simpa using fits)
  have color := ColorSyntax.prefixed (.inl rfl) length (digits_hex v)
  rw [value_zeroPadded (by decide) (by decide)] at color
  rwa [trim_colorText]

private theorem parseColor_too_long {s : String} (what : String)
    (long : 10 < byteLen (trim s.toList)) : parseColor s what = .error (invalidColor s what) := by
  unfold parseColor
  dsimp only
  rw [if_neg, if_pos]
  · omega
  · intro zero
    rw [zero] at long
    exact absurd long (by decide)

private theorem parseColor_colorText (v : Nat) (what : String) :
    parseColor (colorText v) what =
      if v < 4294967296 then .ok v else .error (invalidColor (colorText v) what) := by
  split
  · rename_i fits
    exact parseColor_of_syntax (colorText_documented fits)
  · rename_i large
    apply parseColor_too_long
    have long : 8 < (zeroPadded 16 8 v).length :=
      lt_length_zeroPadded (by decide) (by decide) (by simpa using large)
    rw [trim_colorText, byteLen_prefixed (.inl rfl), byteLen_digits (digits_hex v)]
    omega

/-! ### Integers -/

section Integers

variable (display : DeError → String) (configPath : Option String) (shell : Table)

private theorem shellBackgroundColor_insert (value : Value) :
    shellBackgroundColor (shell.insert "background-color" value) = deOptColorString value := by
  unfold shellBackgroundColor
  rw [Table.find_insert, if_pos rfl]

private theorem backgroundColor_negative {v : Int} (negative : v < 0) :
    backgroundColor display configPath (shell.insert "background-color" (.integer v)) =
      .error (deserializeError configPath
        (display (.invalidValue (.signed v) "a non-negative color value"))) := by
  have refused : deOptColorString (.integer v) =
      .error (.invalidValue (.signed v) "a non-negative color value") :=
    if_neg (by omega)
  unfold backgroundColor
  rw [shellBackgroundColor_insert, refused]

private theorem backgroundColor_natural (v : Nat) :
    backgroundColor display configPath (shell.insert "background-color" (.integer v)) =
      parseColor (colorText v) "[shell] background-color" := by
  have handed : deOptColorString (.integer v) = .ok (some (colorText v)) := by
    change visitI64 v = _
    unfold visitI64
    rw [if_pos (Int.natCast_nonneg v), Int.toNat_natCast]
    rfl
  unfold backgroundColor
  rw [shellBackgroundColor_insert, handed]

private theorem backgroundColor_inside {v : Int} (inside : 0 ≤ v ∧ v < 4294967296) :
    backgroundColor display configPath (shell.insert "background-color" (.integer v)) =
      .ok v.toNat := by
  obtain ⟨n, rfl⟩ := Int.eq_ofNat_of_zero_le inside.1
  have fits : n < 4294967296 := by omega
  rw [backgroundColor_natural, parseColor_colorText, if_pos fits, Int.toNat_natCast]

private theorem backgroundColor_outside {v : Int} (outside : ¬ (0 ≤ v ∧ v < 4294967296)) :
    ∃ error, backgroundColor display configPath
      (shell.insert "background-color" (.integer v)) = .error error := by
  rcases lt_or_ge v 0 with negative | nonnegative
  · exact ⟨_, backgroundColor_negative display configPath shell negative⟩
  · obtain ⟨n, rfl⟩ := Int.eq_ofNat_of_zero_le nonnegative
    have large : ¬ n < 4294967296 := by omega
    rw [backgroundColor_natural, parseColor_colorText, if_neg large]
    exact ⟨_, rfl⟩

/-- An integer resolves to itself if 32 bits hold it, and to an error otherwise. -/
theorem backgroundColor_integer (v : Int) :
    (∀ color : Nat,
      backgroundColor display configPath (shell.insert "background-color" (.integer v)) =
          .ok color ↔ (0 ≤ v ∧ v < 4294967296) ∧ (color : Int) = v) ∧
      ((∃ error,
        backgroundColor display configPath (shell.insert "background-color" (.integer v)) =
          .error error) ↔ ¬ (0 ≤ v ∧ v < 4294967296)) := by
  by_cases inside : 0 ≤ v ∧ v < 4294967296
  · rw [backgroundColor_inside display configPath shell inside]
    constructor
    · intro color
      simp only [Except.ok.injEq]
      omega
    · constructor
      · intro failed
        obtain ⟨_, impossible⟩ := failed
        cases impossible
      · intro outside
        exact absurd inside outside
  · obtain ⟨error, refused⟩ := backgroundColor_outside display configPath shell inside
    rw [refused]
    constructor
    · intro color
      constructor
      · intro impossible
        cases impossible
      · intro resolved
        exact absurd resolved.1 inside
    · constructor
      · intro _
        exact inside
      · intro _
        exact ⟨error, rfl⟩

end Integers

/-- Padding to eight digits is what the parser's length gate asks for. -/
example : colorText 0x1ff = "0x000001ff" := by decide +kernel

end Westonite.Config
