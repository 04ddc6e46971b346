import Westonite.Output.SimpleMode

/-! C's option parser: each loader takes the options of its own table out of the
command line, and what is left over at the end is an error. -/

set_option autoImplicit false

namespace Westonite.Frontend

open Westonite.Output (scanInt)

inductive OptionType where
  | integer
  | string
  | boolean
  deriving DecidableEq, Repr

structure WestonOption where
  type : OptionType
  name : List Char
  shortName : Option Char
  deriving DecidableEq, Repr

/-- `safe_strtoint` -/
def safeStrtoint (text : List Char) : Option Int :=
  match scanInt text with
  | some (some n, []) => some n
  | _ => none

/-- Whether the value is taken. -/
def handleOption (option : WestonOption) (value : List Char) : Bool :=
  match option.type with
  | .integer => (safeStrtoint value).isSome
  | .string => true
  | .boolean => false

/-- An argument behind its two dashes. -/
def longOption : List WestonOption → List Char → Bool
  | [], _ => false
  | option :: rest, arg =>
      if option.name <+: arg then
        match option.type, arg.drop option.name.length with
        | .boolean, [] => true
        | .boolean, _ => longOption rest arg
        | _, '=' :: value => handleOption option value
        | _, _ => longOption rest arg
      else longOption rest arg

/-- The value in the argument behind; `none` where the assertion on the type fails. -/
def longOptionWithArg : List WestonOption → List Char → List Char → Option Bool
  | [], _, _ => some false
  | option :: rest, arg, param =>
      if option.name <+: arg then
        if option.type = .boolean then none else some (handleOption option param)
      else longOptionWithArg rest arg param

/-- An argument behind its one dash. -/
def shortOption (options : List WestonOption) : List Char → Bool
  | [] => false
  | letter :: tail =>
      match options with
      | [] => false
      | option :: rest =>
          if option.shortName = some letter then
            match option.type, tail with
            | .boolean, [] => true
            | .boolean, _ => shortOption rest (letter :: tail)
            | _, [] => false
            | _, _ => handleOption option tail
          else shortOption rest (letter :: tail)

def shortOptionWithArg (options : List WestonOption) (arg param : List Char) : Bool :=
  match arg with
  | [] => false
  | letter :: _ =>
      match options.find? fun option =>
          option.shortName == some letter && option.type != .boolean with
      | some option => handleOption option param
      | none => false

/-- What is left of the arguments, `none` where an assertion fails; behind a `--`
everything is. -/
def parseOptions (options : List WestonOption) : Bool → List (List Char) → Option (List (List Char))
  | _, [] => some []
  | true, arg :: rest => (parseOptions options true rest).map (arg :: ·)
  | false, arg :: rest =>
      let keep := (parseOptions options false rest).map (arg :: ·)
      match arg with
      | '-' :: '-' :: [] => (parseOptions options true rest).map (arg :: ·)
      | '-' :: '-' :: long =>
          if longOption options long then parseOptions options false rest
          else
            match rest with
            | [] => keep
            | param :: behind =>
                match longOptionWithArg options long param with
                | none => none
                | some true => parseOptions options false behind
                | some false => keep
      | '-' :: short =>
          if shortOption options short then parseOptions options false rest
          else
            match rest with
            | [] => keep
            | param :: behind =>
                if shortOptionWithArg options short param then parseOptions options false behind
                else keep
      | _ => keep

/-! ### Long options, each in one argument -/

/-- `--name` or `--name=value` -/
structure Word where
  name : List Char
  value : Option (List Char)
  deriving DecidableEq, Repr

namespace Word

/-- The argument behind its two dashes. -/
def long (word : Word) : List Char := word.name ++ word.value.elim [] ('=' :: ·)

def text (word : Word) : List Char := '-' :: '-' :: word.long

/-- A word that a table may know: no option's name is the front of a longer name, and
what the table says of the name suits the value. -/
structure Fits (options : List WestonOption) (word : Word) : Prop where
  named : word.name ≠ []
  clear : ∀ option ∈ options, '=' ∉ option.name
  whole : ∀ option ∈ options, option.name <+: word.name → option.name = word.name
  typed : ∀ option ∈ options, option.name = word.name →
    match word.value with
    | none => option.type = .boolean
    | some value => option.type ≠ .boolean ∧ handleOption option value = true

end Word

/-- Whether a table has an option of the word's name. -/
def known (options : List WestonOption) (word : Word) : Bool :=
  options.any fun option => option.name == word.name

private theorem Word.name_prefix (word : Word) : word.name <+: word.long := List.prefix_append _ _

/-- What is behind the name in the argument. -/
private theorem Word.drop_long (word : Word) :
    word.long.drop word.name.length = word.value.elim [] ('=' :: ·) := List.drop_left

private theorem Word.Fits.prefix_name {options : List WestonOption} {word : Word}
    (fits : word.Fits options) {option : WestonOption} (member : option ∈ options)
    (front : option.name <+: word.long) : option.name = word.name := by
  apply fits.whole option member
  cases Nat.lt_or_ge word.name.length option.name.length with
  | inr short => exact List.prefix_of_prefix_length_le front word.name_prefix short
  | inl long =>
      cases value : word.value with
      | none =>
          have bound := front.length_le
          simp only [Word.long, value, Option.elim_none, List.append_nil] at bound
          omega
      | some text =>
          have marked : word.name ++ ['='] <+: word.long := by
            simp [Word.long, value]
          have reaches := List.prefix_of_prefix_length_le marked front (by simp; omega)
          have inside : '=' ∈ option.name := reaches.subset (by simp)
          exact absurd inside (fits.clear option member)

theorem Word.Fits.tail {option : WestonOption} {rest : List WestonOption} {word : Word}
    (fits : word.Fits (option :: rest)) : word.Fits rest where
  named := fits.named
  clear other member := fits.clear other (List.mem_cons_of_mem _ member)
  whole other member := fits.whole other (List.mem_cons_of_mem _ member)
  typed other member := fits.typed other (List.mem_cons_of_mem _ member)

/-- A word is taken by the table that knows its name. -/
private theorem longOption_long {options : List WestonOption} {word : Word}
    (fits : word.Fits options) :
    longOption options word.long = known options word := by
  induction options with
  | nil => rfl
  | cons option rest ih =>
      have later := ih fits.tail
      by_cases same : option.name = word.name
      · have typed := fits.typed option List.mem_cons_self same
        have front : option.name <+: word.long := same ▸ word.name_prefix
        have yes : known (option :: rest) word = true := by simp [known, same]
        have behind : word.long.drop option.name.length = word.value.elim [] ('=' :: ·) := by
          rw [same, word.drop_long]
        rw [yes, longOption, if_pos front, behind]
        cases value : word.value with
        | none =>
            rw [value] at typed
            have boolean : option.type = .boolean := typed
            rw [boolean]
            rfl
        | some text =>
            rw [value] at typed
            obtain ⟨other, taken⟩ := typed
            cases kind : option.type with
            | boolean => exact absurd kind other
            | integer => exact taken
            | string => exact taken
      · have front : ¬ option.name <+: word.long :=
          fun front => same (fits.prefix_name List.mem_cons_self front)
        have skipped : known (option :: rest) word = known rest word := by simp [known, same]
        rw [longOption, if_neg front, skipped, later]

private theorem longOptionWithArg_long {options : List WestonOption} {word : Word}
    (fits : word.Fits options) (unknown : known options word = false) (param : List Char) :
    longOptionWithArg options word.long param = some false := by
  induction options with
  | nil => rfl
  | cons option rest ih =>
      have other : option.name ≠ word.name ∧ known rest word = false := by
        simpa [known] using unknown
      have front : ¬ option.name <+: word.long :=
        fun front => other.1 (fits.prefix_name List.mem_cons_self front)
      rw [longOptionWithArg, if_neg front, ih fits.tail other.2]

private theorem parseOptions_taken {options : List WestonOption} {first : Char} {tail : List Char}
    (taken : longOption options (first :: tail) = true) (rest : List (List Char)) :
    parseOptions options false (('-' :: '-' :: first :: tail) :: rest) =
      parseOptions options false rest := by
  rw [parseOptions.eq_def]
  simp only [taken, if_true]

private theorem parseOptions_kept {options : List WestonOption} {first : Char} {tail : List Char}
    (untaken : longOption options (first :: tail) = false)
    (alone : ∀ param, longOptionWithArg options (first :: tail) param = some false)
    (rest : List (List Char)) :
    parseOptions options false (('-' :: '-' :: first :: tail) :: rest) =
      (parseOptions options false rest).map (('-' :: '-' :: first :: tail) :: ·) := by
  rw [parseOptions.eq_def]
  simp only [untaken]
  cases rest with
  | nil => rfl
  | cons param behind => simp only [alone param]; rfl

/-- A loader takes the words of its table and leaves the others. -/
theorem parseOptions_words {options : List WestonOption} {words : List Word}
    (fits : ∀ word ∈ words, word.Fits options) :
    parseOptions options false (words.map Word.text) =
      some ((words.filter fun word => !known options word).map Word.text) := by
  induction words with
  | nil => rfl
  | cons word rest ih =>
      have fit := fits word List.mem_cons_self
      have later := ih fun other member => fits other (List.mem_cons_of_mem _ member)
      obtain ⟨first, tail, long⟩ : ∃ first tail, word.long = first :: tail := by
        cases name : word.name with
        | nil => exact absurd name fit.named
        | cons first tail => exact ⟨first, tail ++ _, by rw [Word.long, name, List.cons_append]⟩
      have taken := longOption_long fit
      have untaken := longOptionWithArg_long fit
      rw [long] at taken untaken
      rw [List.map_cons, Word.text, long]
      cases yes : known options word with
      | true =>
          rw [yes] at taken
          rw [parseOptions_taken taken, later, List.filter_cons_of_neg (by simp [yes])]
      | false =>
          rw [yes] at taken
          rw [parseOptions_kept taken (untaken yes), later, List.filter_cons_of_pos (by simp [yes]),
            List.map_cons, Word.text, long, Option.map_some]

end Westonite.Frontend
