import Westonite.Library.Radix
import Westonite.Output.Policy

/-! The simple mode `WxH` of an output: what the configuration takes for one, and
that C's conversion reads the same size from it. -/

set_option autoImplicit false

namespace Westonite.Output

open Library.Radix

/-- The part before the first `@`. -/
def modeCore (mode : List Char) : List Char := mode.takeWhile fun c => c != '@'

/-- `str::split_once` -/
def splitOnceAt (sep : Char) (cs : List Char) : Option (List Char × List Char) :=
  match cs.dropWhile fun c => c != sep with
  | [] => none
  | _ :: after => some (cs.takeWhile fun c => c != sep, after)

/-- `parse::<i32>` -/
def parseI32 : List Char → Option Int
  | '-' :: digits =>
      if digits = [] then none
      else (readDigits 10 2147483649 0 digits).map fun v : Nat => -(v : Int)
  | cs => (fromStrRadix 10 2147483648 cs).map Int.ofNat

def parseMode (mode : String) : Option (Int × Int) :=
  match splitOnceAt 'x' (modeCore mode.toList) with
  | none => none
  | some (w, h) =>
      match parseI32 w, parseI32 h with
      | some w, some h => if 0 < w ∧ 0 < h then some (w, h) else none
      | _, _ => none

def invalidMode (name : String) : String :=
  "Invalid mode for output " ++ name ++ ". Using defaults."

/-- What the `mode` of a section does to its rule, and what is logged. -/
def OutputRule.setMode (rule : OutputRule) : Option String → OutputRule × List String
  | none => (rule, [])
  | some mode =>
      if mode = "off" then ({ rule with off := true }, [])
      else
        match parseMode mode with
        | some size => ({ rule with size := some size }, [])
        | none =>
            if mode = "preferred" ∨ mode = "current" then (rule, [])
            else (rule, [invalidMode rule.name])

/-! ### C's conversion -/

/-- `isspace` -/
def isSpace (c : Char) : Bool := c == ' ' || (9 ≤ c.toNat && c.toNat ≤ 13)

def isDecimal (c : Char) : Bool := (toDigit 10 c).isSome

def scanSign : List Char → Bool × List Char
  | '-' :: cs => (true, cs)
  | '+' :: cs => (false, cs)
  | cs => (false, cs)

/-- What `%d` stores, which is not defined for a number that no `int` holds. -/
def storedInt (negative : Bool) (v : Nat) : Option Int :=
  let n : Int := if negative then -v else v
  if -2147483648 ≤ n ∧ n < 2147483648 then some n else none

/-- `%d`, and what is left behind it. -/
def scanInt (cs : List Char) : Option (Option Int × List Char) :=
  let signed := scanSign (cs.dropWhile isSpace)
  let digits := signed.2.takeWhile isDecimal
  if digits = [] then none
  else some (storedInt signed.1 (value 10 digits), signed.2.dropWhile isDecimal)

/-- The conversions of `%dx%d`, as many as there are. -/
def scanPair (cs : List Char) : List (Option Int) :=
  match scanInt cs with
  | none => []
  | some (w, 'x' :: rest) =>
      match scanInt rest with
      | none => [w]
      | some (h, _) => [w, h]
  | some (w, _) => [w]

/-- `sscanf(mode, "%dx%d", …)`, on the text up to its terminator. -/
def sscanfMode (mode : String) : List (Option Int) :=
  scanPair (mode.toList.takeWhile fun c => c.toNat != 0)

/-- C's counterpart: the section, if there is one, with its `mode`; the sizes of the
command line are `0` where they are not given. -/
def parseSimpleMode (name : String) (found : Option (Option String))
    (defaults parsedOptions : Int × Int) : (Option Int × Option Int) × List String :=
  let fallback : Option Int × Option Int := (some defaults.1, some defaults.2)
  let read :=
    match found with
    | none => (fallback, [])
    | some mode =>
        match mode.elim [] sscanfMode with
        | [w, h] => ((w, h), [])
        | _ => (fallback, [invalidMode name])
  ((if parsedOptions.1 ≠ 0 then some parsedOptions.1 else read.1.1,
    if parsedOptions.2 ≠ 0 then some parsedOptions.2 else read.1.2), read.2)

/-! ### The grammar -/

/-- Digits, with an optional plus sign, and what they stand for. -/
def NumberSyntax (cs : List Char) (v : Nat) : Prop :=
  ∃ digits, digits ≠ [] ∧ (cs = digits ∨ cs = '+' :: digits) ∧ Digits 10 digits ∧
    v = value 10 digits

/-- A simple mode, without a refresh rate. -/
inductive ModeSyntax : List Char → Int → Int → Prop where
  | size {ws hs : List Char} {w h : Nat} : NumberSyntax ws w → NumberSyntax hs h →
      1 ≤ w ∧ w ≤ 2147483647 → 1 ≤ h ∧ h ≤ 2147483647 → ModeSyntax (ws ++ 'x' :: hs) w h

/-! ### Numbers -/

private theorem isDecimal_iff {c : Char} : isDecimal c = true ↔ 48 ≤ c.toNat ∧ c.toNat ≤ 57 := by
  unfold isDecimal toDigit
  dsimp only
  constructor
  · intro digit
    by_contra other
    rw [if_neg other] at digit
    split at digit
    · rename_i lower
      have large : ¬ c.toNat - 87 < 10 := by omega
      simp [large] at digit
    · split at digit
      · rename_i upper
        have large : ¬ c.toNat - 55 < 10 := by omega
        simp [large] at digit
      · cases digit
  · intro digit
    have small : c.toNat - 48 < 10 := by omega
    rw [if_pos digit]
    simp [small]

/-- A number is a plus sign or a digit, and digits. -/
theorem NumberSyntax.code {cs : List Char} {v : Nat} (number : NumberSyntax cs v) {c : Char}
    (member : c ∈ cs) : 43 ≤ c.toNat ∧ c.toNat ≤ 57 := by
  obtain ⟨digits, _, rfl | rfl, known, _⟩ := number
  · have bounds := isDecimal_iff.mp (known c member)
    omega
  · rcases List.mem_cons.mp member with rfl | later
    · decide
    · have bounds := isDecimal_iff.mp (known c later)
      omega

private theorem NumberSyntax.not_mem {cs : List Char} {v : Nat} (number : NumberSyntax cs v)
    {c : Char}
    (other : c.toNat < 43 ∨ 57 < c.toNat) : c ∉ cs := by
  intro member
  have bounds := number.code member
  omega

private theorem parseI32_eq_some_iff {cs : List Char} {v : Int} :
    (parseI32 cs = some v ∧ 0 < v) ↔
      ∃ n : Nat, v = n ∧ NumberSyntax cs n ∧ 1 ≤ n ∧ n ≤ 2147483647 := by
  have sign : ∀ rest n, ¬ NumberSyntax ('-' :: rest) n := by
    rintro rest n ⟨digits, _, rfl | plus, known, _⟩
    · cases known '-' List.mem_cons_self
    · cases plus
  unfold parseI32
  split
  · rename_i rest
    constructor
    · rintro ⟨read, positive⟩
      split at read
      · cases read
      · obtain ⟨n, _, rfl⟩ := Option.map_eq_some_iff.mp read
        have negated : 0 < -(n : Int) := positive
        omega
    · rintro ⟨n, _, number, _⟩
      exact absurd number (sign rest n)
  · rw [Option.map_eq_some_iff]
    constructor
    · rintro ⟨⟨n, read, rfl⟩, positive⟩
      obtain ⟨digits, some, shape, known, valued, fits⟩ :=
        (fromStrRadix_eq_some_iff (by decide) (by decide)).mp read
      have positive : 0 < (n : Int) := positive
      exact ⟨n, rfl, ⟨digits, some, shape, known, valued⟩, by omega, by omega⟩
    · rintro ⟨n, rfl, ⟨digits, some, shape, known, valued⟩, positive, fits⟩
      have read := (fromStrRadix_eq_some_iff (by decide) (by decide)).mpr
        ⟨digits, some, shape, known, valued, show n < 2147483648 by omega⟩
      exact ⟨⟨n, read, rfl⟩, by omega⟩

/-- Behind what is skipped there is nothing or the separator. -/
private theorem dropWhile_ne (sep : Char) (cs : List Char) :
    (cs.dropWhile fun c => c != sep) = [] ∨
      ∃ after, (cs.dropWhile fun c => c != sep) = sep :: after := by
  have stopped := List.head?_dropWhile_not (fun c => c != sep) cs
  generalize (cs.dropWhile fun c => c != sep) = rest at stopped ⊢
  cases rest with
  | nil => exact .inl rfl
  | cons c after =>
      have same : c = sep := by simpa using stopped
      exact .inr ⟨after, same ▸ rfl⟩

private theorem ne_of_clear {sep : Char} {cs : List Char} (clear : sep ∉ cs) :
    ∀ c ∈ cs, (c != sep) = true := by
  intro c member
  exact bne_iff_ne.mpr fun same => clear (same ▸ member)

theorem splitOnceAt_append {sep : Char} {before : List Char} (clear : sep ∉ before)
    (after : List Char) : splitOnceAt sep (before ++ sep :: after) = some (before, after) := by
  have passed := ne_of_clear clear
  unfold splitOnceAt
  rw [List.dropWhile_append_of_pos passed, List.takeWhile_append_of_pos passed,
    List.dropWhile_cons_of_neg (by simp), List.takeWhile_cons_of_neg (by simp), List.append_nil]

theorem splitOnceAt_eq_some {sep : Char} {cs before after : List Char}
    (split : splitOnceAt sep cs = some (before, after)) : cs = before ++ sep :: after := by
  unfold splitOnceAt at split
  have whole := List.takeWhile_append_dropWhile (p := fun c => c != sep) (l := cs)
  rcases dropWhile_ne sep cs with nothing | ⟨later, rest⟩
  · rw [nothing] at split
    cases split
  · rw [rest] at split whole
    cases split
    exact whole.symm

/-! ### The parser -/

theorem parseMode_eq_some_iff (mode : String) (w h : Int) :
    parseMode mode = some (w, h) ↔ ModeSyntax (modeCore mode.toList) w h := by
  unfold parseMode
  constructor
  · intro read
    cases split : splitOnceAt 'x' (modeCore mode.toList) with
    | none =>
        rw [split] at read
        cases read
    | some pair =>
        obtain ⟨ws, hs⟩ := pair
        simp only [split] at read
        cases width : parseI32 ws with
        | none =>
            rw [width] at read
            cases read
        | some a =>
            cases height : parseI32 hs with
            | none =>
                rw [width, height] at read
                cases read
            | some b =>
                rw [width, height] at read
                dsimp only at read
                split at read
                · rename_i positive
                  cases read
                  obtain ⟨m, rfl, left, large, small⟩ := parseI32_eq_some_iff.mp ⟨width, positive.1⟩
                  obtain ⟨n, rfl, right, high, low⟩ := parseI32_eq_some_iff.mp ⟨height, positive.2⟩
                  rw [splitOnceAt_eq_some split]
                  exact .size left right ⟨large, small⟩ ⟨high, low⟩
                · cases read
  · intro known
    generalize modeCore mode.toList = core at known
    cases known with
    | @size ws hs m n left right large high =>
        obtain ⟨width, wide⟩ := parseI32_eq_some_iff.mpr ⟨m, rfl, left, large⟩
        obtain ⟨height, tall⟩ := parseI32_eq_some_iff.mpr ⟨n, rfl, right, high⟩
        rw [splitOnceAt_append (left.not_mem (.inr (by decide)))]
        dsimp only
        rw [width, height]
        exact if_pos ⟨wide, tall⟩

/-! ### Printed modes -/

theorem numberSyntax_toDigits (n : Nat) : NumberSyntax (Nat.toDigits 10 n) n :=
  ⟨Nat.toDigits 10 n, Nat.toDigits_ne_nil, .inl rfl, digits_toDigits (by decide) (by decide) n,
    (value_toDigits (by decide) (by decide) n).symm⟩

theorem toList_toString_natCast (n : Nat) : (toString (n : Int)).toList = Nat.toDigits 10 n := by
  rw [Int.toString_eq_repr, Int.repr_eq_if, if_pos (Int.natCast_nonneg n), Int.toNat_natCast,
    Nat.toList_repr]

private theorem modeCore_of_clear {core : List Char} (clear : '@' ∉ core) {rest : List Char}
    (tail : rest = [] ∨ ∃ r, rest = '@' :: r) : modeCore (core ++ rest) = core := by
  unfold modeCore
  rw [List.takeWhile_append_of_pos (ne_of_clear clear)]
  rcases tail with rfl | ⟨r, rfl⟩
  · rw [List.takeWhile_nil, List.append_nil]
  · rw [List.takeWhile_cons_of_neg (by simp), List.append_nil]

theorem ModeSyntax.code {core : List Char} {w h : Int} (known : ModeSyntax core w h) {c : Char}
    (member : c ∈ core) : 43 ≤ c.toNat ∧ c.toNat ≤ 57 ∨ c = 'x' := by
  cases known with
  | size left right _ _ =>
      rcases List.mem_append.mp member with before | after
      · exact .inl (left.code before)
      · rcases List.mem_cons.mp after with rfl | later
        · exact .inr rfl
        · exact .inl (right.code later)

private theorem ModeSyntax.not_mem_at {core : List Char} {w h : Int} (known : ModeSyntax core w h) :
    '@' ∉ core := by
  intro member
  rcases known.code member with bounds | same
  · exact absurd bounds (by decide)
  · exact absurd same (by decide)

/-- A printed size is read back, with any refresh rate behind it. -/
theorem parseMode_printed {w h : Int} (width : 1 ≤ w ∧ w ≤ 2147483647)
    (height : 1 ≤ h ∧ h ≤ 2147483647) {rate : List Char} (tail : rate = [] ∨ ∃ r, rate = '@' :: r)
    {mode : String} (text : mode.toList = (toString w ++ "x" ++ toString h).toList ++ rate) :
    parseMode mode = some (w, h) := by
  obtain ⟨m, rfl⟩ := Int.eq_ofNat_of_zero_le (show 0 ≤ w by omega)
  obtain ⟨n, rfl⟩ := Int.eq_ofNat_of_zero_le (show 0 ≤ h by omega)
  have known : ModeSyntax (toString (m : Int) ++ "x" ++ toString (n : Int)).toList m n := by
    rw [String.toList_append, String.toList_append, toList_toString_natCast,
      toList_toString_natCast, List.append_assoc]
    exact .size (numberSyntax_toDigits m) (numberSyntax_toDigits n) (by omega) (by omega)
  rw [parseMode_eq_some_iff, text, modeCore_of_clear known.not_mem_at tail]
  exact known

/-! ### What C reads -/

private theorem scanSign_number {cs : List Char} {v : Nat} (number : NumberSyntax cs v)
    (rest : List Char) :
    ∃ digits, digits ≠ [] ∧ scanSign (cs ++ rest) = (false, digits ++ rest) ∧
      Digits 10 digits ∧ v = value 10 digits := by
  obtain ⟨digits, some, rfl | rfl, known, valued⟩ := number
  · refine ⟨cs, some, ?_, known, valued⟩
    cases cs with
    | nil => exact absurd rfl some
    | cons c cs =>
        have digit := isDecimal_iff.mp (known c List.mem_cons_self)
        unfold scanSign
        split
        · rename_i minus
          cases minus
          exact absurd digit.1 (by decide)
        · rename_i plus
          cases plus
          exact absurd digit.1 (by decide)
        · rfl
  · exact ⟨digits, some, rfl, known, valued⟩

/-- Nothing blank stands before a number. -/
private theorem dropWhile_isSpace_number {cs : List Char} {v : Nat} (number : NumberSyntax cs v)
    (rest : List Char) : (cs ++ rest).dropWhile isSpace = cs ++ rest := by
  cases cs with
  | nil =>
      obtain ⟨digits, some, shape, _⟩ := number
      rcases shape with rfl | impossible
      · exact absurd rfl some
      · cases impossible
  | cons c cs =>
      have bounds := number.code (c := c) List.mem_cons_self
      have visible : isSpace c = false := by
        unfold isSpace
        have blank : c ≠ ' ' := by
          rintro rfl
          exact absurd bounds.1 (by decide)
        simp [blank]
        omega
      exact List.dropWhile_cons_of_neg (by simp [visible])

/-- Digits are taken up to a character that is none. -/
theorem span_digits {digits rest : List Char} (known : Digits 10 digits)
    (stop : ∀ c ∈ rest.head?, isDecimal c = false) :
    (digits ++ rest).takeWhile isDecimal = digits ∧
      (digits ++ rest).dropWhile isDecimal = rest := by
  have decimal : ∀ c ∈ digits, isDecimal c = true := known
  rw [List.takeWhile_append_of_pos decimal, List.dropWhile_append_of_pos decimal]
  cases rest with
  | nil => exact ⟨List.append_nil digits, rfl⟩
  | cons c rest =>
      have ends : ¬ isDecimal c = true := by
        rw [stop c rfl]
        exact Bool.false_ne_true
      rw [List.takeWhile_cons_of_neg ends, List.append_nil, List.dropWhile_cons_of_neg ends]
      exact ⟨rfl, rfl⟩

/-- A number is converted, as far as it goes. -/
theorem scanInt_number {cs : List Char} {v : Nat} (number : NumberSyntax cs v)
    (small : v ≤ 2147483647) {rest : List Char} (stop : ∀ c ∈ rest.head?, isDecimal c = false) :
    scanInt (cs ++ rest) = some (some (v : Int), rest) := by
  obtain ⟨digits, some, signed, known, valued⟩ := scanSign_number number rest
  obtain ⟨taken, dropped⟩ := span_digits known stop
  have stored : storedInt false v = .some (v : Int) := by
    unfold storedInt
    rw [if_neg Bool.false_ne_true]
    exact if_pos ⟨by omega, by omega⟩
  unfold scanInt
  rw [dropWhile_isSpace_number number, signed]
  dsimp only
  rw [taken, dropped, if_neg some, ← valued, stored]

private theorem scanPair_mode {core : List Char} {w h : Int} (known : ModeSyntax core w h)
    {rest : List Char} (tail : rest = [] ∨ ∃ r, rest = '@' :: r) :
    scanPair (core ++ rest) = [some w, some h] := by
  cases known with
  | @size ws hs m n left right large high =>
      have between : ∀ c ∈ ('x' :: (hs ++ rest)).head?, isDecimal c = false := by
        intro c first
        cases first
        rfl
      have behind : ∀ c ∈ rest.head?, isDecimal c = false := by
        intro c first
        rcases tail with rfl | ⟨r, rfl⟩
        · cases first
        · cases first
          rfl
      have width := scanInt_number left large.2 between
      have height := scanInt_number right high.2 behind
      unfold scanPair
      rw [List.append_assoc, List.cons_append, width]
      simp only [height]

/-- Behind the core there is nothing or a refresh rate. -/
private theorem modeCore_append (mode : List Char) :
    ∃ rest, mode = modeCore mode ++ rest ∧ (rest = [] ∨ ∃ r, rest = '@' :: r) :=
  ⟨_, List.takeWhile_append_dropWhile.symm, dropWhile_ne '@' mode⟩

private theorem sscanfMode_of_parseMode {mode : String} {w h : Int}
    (read : parseMode mode = some (w, h)) :
    sscanfMode mode = [some w, some h] := by
  have known := (parseMode_eq_some_iff mode w h).mp read
  obtain ⟨rest, whole, tail⟩ := modeCore_append mode.toList
  generalize modeCore mode.toList = core at known whole
  have text : ∀ c ∈ core, (c.toNat != 0) = true := by
    intro c member
    rcases known.code member with bounds | rfl
    · exact bne_iff_ne.mpr (by omega)
    · rfl
  have ended : (rest.takeWhile fun c => c.toNat != 0) = [] ∨
      ∃ r, (rest.takeWhile fun c => c.toNat != 0) = '@' :: r := by
    rcases tail with rfl | ⟨r, rfl⟩
    · exact .inl rfl
    · exact .inr ⟨_, List.takeWhile_cons_of_pos rfl⟩
  unfold sscanfMode
  rw [whole, List.takeWhile_append_of_pos text]
  exact scanPair_mode known ended

/-- The rule takes the size over that C takes, and neither logs anything. -/
theorem setMode_of_parseMode {mode : String} {w h : Int} (read : parseMode mode = some (w, h))
    (rule : OutputRule) (defaults : Int × Int) :
    rule.setMode (some mode) = ({ rule with size := some (w, h) }, []) ∧
      parseSimpleMode rule.name (some (some mode)) defaults (0, 0) = ((some w, some h), []) := by
  constructor
  · have given : mode ≠ "off" := by
      rintro rfl
      have off : parseMode "off" = none := by decide +kernel
      rw [off] at read
      cases read
    unfold OutputRule.setMode
    simp only [if_neg given, read]
  · unfold parseSimpleMode
    simp only [Option.elim_some, sscanfMode_of_parseMode read]
    rfl

/-- The parser reads the grammar and what is printed, and C reads the same from it. -/
theorem parseMode_spec (mode : String) (w h : Int) :
    (parseMode mode = some (w, h) ↔ ModeSyntax (modeCore mode.toList) w h) ∧
      ((1 ≤ w ∧ w ≤ 2147483647) ∧ (1 ≤ h ∧ h ≤ 2147483647) →
        parseMode (toString w ++ "x" ++ toString h) = some (w, h) ∧
          ∀ r : String, parseMode (toString w ++ "x" ++ toString h ++ "@" ++ r) = some (w, h)) ∧
      (parseMode mode = some (w, h) → sscanfMode mode = [some w, some h]) := by
  refine ⟨parseMode_eq_some_iff mode w h, ?_, sscanfMode_of_parseMode⟩
  rintro ⟨width, height⟩
  constructor
  · exact parseMode_printed width height (.inl rfl) (List.append_nil _).symm
  · intro r
    refine parseMode_printed width height (.inr ⟨r.toList, rfl⟩) ?_
    rw [String.toList_append, String.toList_append, List.append_assoc]
    rfl

theorem parseMode_spec_rate :
    (parseMode ("800" ++ "x" ++ "500") = some (800, 500) ∧
      ∀ r : String, parseMode ("800" ++ "x" ++ "500" ++ "@" ++ r) = some (800, 500)) ∧
      sscanfMode "800x500@" = [some 800, some 500] := by
  have printed := (parseMode_spec "800x500@" 800 500).2.1 ⟨by decide, by decide⟩
  exact ⟨printed, (parseMode_spec "800x500@" 800 500).2.2 (by decide +kernel)⟩

/-- Shapes that only C takes. -/
example : parseMode "1024x640junk" = none ∧ sscanfMode "1024x640junk" = [some 1024, some 640] := by
  decide +kernel

end Westonite.Output
