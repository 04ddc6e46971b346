import Westonite.Config.Color
import Westonite.Library.Fields
import Westonite.Output.SimpleMode

/-! Exec strings: words of the environment, a program and its arguments, without any
quoting. -/

set_option autoImplicit false

namespace Westonite.Spawn

open Library
open Westonite.Config (isWhiteSpace)
open Westonite.Output (isSpace splitOnceAt splitOnceAt_append splitOnceAt_eq_some)

/-- An argument or a variable. -/
abbrev Text := List Char

abbrev Entry := Text × Text

/-- Without the descriptors that are passed on. -/
structure Command where
  program : Text
  args : List Text
  env : List Entry
  deriving DecidableEq, Repr

/-! ### The reader -/

/-- A word of the environment; a path with a `=` in it is none. -/
def assignment (word : Text) : Option Entry :=
  match splitOnceAt '=' word with
  | some (k, v) => if !k.contains '/' && !k.isEmpty then some (k, v) else none
  | none => none

/-- The words of the environment in front, and the others. -/
def leadingEnv : List Text → List Entry × List Text
  | [] => ([], [])
  | word :: rest =>
      match assignment word with
      | some entry => (entry :: (leadingEnv rest).1, (leadingEnv rest).2)
      | none => ([], word :: rest)

def fromExecString (s : Text) : Option Command :=
  match leadingEnv (fields isWhiteSpace s) with
  | (_, []) => none
  | (env, program :: args) => some ⟨program, args, env⟩

/-- The command as a string. -/
def Command.render (cmd : Command) : Text :=
  [' '].intercalate
    (cmd.env.map (fun entry => entry.1 ++ '=' :: entry.2) ++ cmd.program :: cmd.args)

/-! ### C's scanner -/

/-- `custom_env`: the environment in its order, by names, and the arguments. -/
structure CustomEnv where
  envp : List Entry
  argp : List Text
  deriving DecidableEq, Repr

/-- Replaced in its place, or added at the end. -/
def setEnvVar : List Entry → Text → Text → List Entry
  | [], name, value => [(name, value)]
  | entry :: rest, name, value =>
      if entry.1 = name then (name, value) :: rest else entry :: setEnvVar rest name value

/-- The loop up to the first `=` of the word at hand: the name, and all that is behind. -/
def scanKey : Text → Option (Text × Text)
  | [] => none
  | c :: cs =>
      if isSpace c then none
      else if c = '=' then some ([], cs)
      else (scanKey cs).map fun found => (c :: found.1, found.2)

/-- The word at hand. -/
def word (start : Text) : Text := start.takeWhile fun c => !isSpace c

/-- Behind the word and the spaces that follow it. -/
def next (start : Text) : Text := (start.dropWhile fun c => !isSpace c).dropWhile isSpace

private theorem next_length_le (start : Text) : (next start).length ≤ start.length :=
  Nat.le_trans (List.dropWhile_suffix _).length_le (List.dropWhile_suffix _).length_le

private theorem scanKey_length {start : Text} {found : Text × Text}
    (is : scanKey start = some found) :
    found.2.length < start.length := by
  induction start generalizing found with
  | nil => cases is
  | cons c cs ih =>
      unfold scanKey at is
      split at is
      · cases is
      · split at is
        · cases is
          exact Nat.lt_succ_self _
        · obtain ⟨later, read, rfl⟩ := Option.map_eq_some_iff.mp is
          have shorter : later.2.length < cs.length := ih read
          exact Nat.lt_succ_of_lt shorter

/-- The words of the environment, and where the loop stops. -/
def envLoop (start : Text) : List Entry × Text :=
  match found : scanKey start with
  | none => ([], start)
  | some (k, v) =>
      have : (next v).length < start.length :=
        Nat.lt_of_le_of_lt (next_length_le v) (scanKey_length found)
      ((k, word v) :: (envLoop (next v)).1, (envLoop (next v)).2)
termination_by start.length

/-- A word that is empty ends the arguments. -/
def argLoop (start : Text) : List Text :=
  if valid : word start = [] then []
  else
    have : (next start).length < start.length := by
      cases start with
      | nil => exact absurd rfl valid
      | cons c cs =>
          cases space : isSpace c with
          | true => exact absurd (by simp [word, space]) valid
          | false =>
              have rest := next_length_le cs
              have same : next (c :: cs) = next cs := by simp [next, space]
              rw [same]
              exact Nat.lt_succ_of_le rest
    word start :: argLoop (next start)
termination_by start.length

def addFromExecString (env : CustomEnv) (execStr : Text) : CustomEnv :=
  let (pairs, start) := envLoop execStr
  { envp := pairs.foldl (fun envp entry => setEnvVar envp entry.1 entry.2) env.envp
    argp := env.argp ++ argLoop start }

/-! ### Commands that are read -/

/-- What the reader promises of a command. -/
structure Command.WellFormed (cmd : Command) : Prop where
  program : IsField isWhiteSpace cmd.program ∧ assignment cmd.program = none
  args : ∀ arg ∈ cmd.args, IsField isWhiteSpace arg
  env : ∀ entry ∈ cmd.env, IsField isWhiteSpace (entry.1 ++ '=' :: entry.2) ∧
    assignment (entry.1 ++ '=' :: entry.2) = some entry

private theorem assignment_joined {text : Text} {entry : Entry}
    (is : assignment text = some entry) :
    entry.1 ++ '=' :: entry.2 = text := by
  unfold assignment at is
  cases split : splitOnceAt '=' text with
  | none =>
      rw [split] at is
      cases is
  | some pair =>
      rw [split] at is
      dsimp only at is
      split at is
      · cases is
        exact (splitOnceAt_eq_some split).symm
      · cases is

private theorem leadingEnv_spec (words : List Text) :
    (leadingEnv words).1.map (fun entry => entry.1 ++ '=' :: entry.2) ++ (leadingEnv words).2 =
      words ∧
      (∀ entry ∈ (leadingEnv words).1, assignment (entry.1 ++ '=' :: entry.2) = some entry) ∧
      ∀ other, (leadingEnv words).2.head? = some other → assignment other = none := by
  induction words with
  | nil =>
      refine ⟨rfl, fun entry member => (List.not_mem_nil member).elim, fun other => ?_⟩
      simp [leadingEnv]
  | cons first rest ih =>
      unfold leadingEnv
      cases is : assignment first with
      | none =>
          refine ⟨rfl, fun entry member => (List.not_mem_nil member).elim, fun other same => ?_⟩
          cases same
          exact is
      | some entry =>
          obtain ⟨joined, each, ends⟩ := ih
          refine ⟨?_, ?_, ends⟩
          · simp only [List.map_cons, List.cons_append]
            rw [assignment_joined is, joined]
          · intro other member
            cases List.mem_cons.mp member with
            | inl same => rw [same, assignment_joined is, is]
            | inr behind => exact each other behind

private theorem leadingEnv_append {env : List Entry} {others : List Text}
    (each : ∀ entry ∈ env, assignment (entry.1 ++ '=' :: entry.2) = some entry)
    (ends : ∀ other, others.head? = some other → assignment other = none) :
    leadingEnv (env.map (fun entry => entry.1 ++ '=' :: entry.2) ++ others) = (env, others) := by
  induction env with
  | nil =>
      cases others with
      | nil => rfl
      | cons other rest => simp [leadingEnv, ends other rfl]
  | cons entry rest ih =>
      have later := ih fun other member => each other (List.mem_cons_of_mem _ member)
      rw [List.map_cons, List.cons_append, leadingEnv, each entry List.mem_cons_self]
      dsimp only
      rw [later]

private theorem fromExecString_wellFormed {s : Text} {cmd : Command}
    (read : fromExecString s = some cmd) :
    cmd.WellFormed := by
  have spec := leadingEnv_spec (fields isWhiteSpace s)
  unfold fromExecString at read
  cases parts : leadingEnv (fields isWhiteSpace s) with
  | mk env others =>
      rw [parts] at read spec
      cases others with
      | nil => cases read
      | cons program args =>
          cases read
          obtain ⟨joined, each, ends⟩ := spec
          have fieldOf : ∀ text ∈ env.map (fun entry => entry.1 ++ '=' :: entry.2) ++
              program :: args, IsField isWhiteSpace text := by
            rw [joined]
            exact fun text member => mem_fields member
          exact
            { program := ⟨fieldOf program (by simp), ends program rfl⟩
              args := fun arg member => fieldOf arg (by simp [member])
              env := fun entry member => ⟨fieldOf _ (List.mem_append_left _
                (List.mem_map.mpr ⟨entry, member, rfl⟩)), each entry member⟩ }

private theorem fromExecString_render {cmd : Command} (wellFormed : cmd.WellFormed) :
    fromExecString cmd.render = some cmd := by
  have words : fields isWhiteSpace cmd.render =
      cmd.env.map (fun entry => entry.1 ++ '=' :: entry.2) ++ cmd.program :: cmd.args := by
    refine fields_intercalate (by decide) fun piece member => ?_
    cases List.mem_append.mp member with
    | inl inside =>
        obtain ⟨entry, listed, rfl⟩ := List.mem_map.mp inside
        exact (wellFormed.env entry listed).1
    | inr behind =>
        cases List.mem_cons.mp behind with
        | inl same => rw [same]; exact wellFormed.program.1
        | inr listed => exact wellFormed.args piece listed
  have ends : ∀ other, (cmd.program :: cmd.args).head? = some other → assignment other = none := by
    intro other same
    cases same
    exact wellFormed.program.2
  have parts := leadingEnv_append (fun entry member => (wellFormed.env entry member).2) ends
  unfold fromExecString
  rw [words, parts]

/-- The commands that some string reads as are those that their own string reads as. -/
theorem fromExecString_round_trip {cmd : Command} :
    (∃ s, fromExecString s = some cmd) ↔ fromExecString cmd.render = some cmd := by
  constructor
  · intro some_string
    obtain ⟨s, read⟩ := some_string
    exact fromExecString_render (fromExecString_wellFormed read)
  · intro read
    exact ⟨_, read⟩

/-! ### The scanner by words -/

/-- No space in front. -/
def Starts (start : Text) : Prop := ∀ c, start.head? = some c → isSpace c = false

private theorem next_starts (start : Text) : Starts (next start) := by
  intro c head
  have found := List.head?_dropWhile_not isSpace (start.dropWhile fun c => !isSpace c)
  unfold next at head
  rw [head] at found
  simpa using found

private theorem fields_word {start : Text} (starts : Starts start) (there : start ≠ []) :
    fields isSpace start = word start :: fields isSpace (next start) := by
  cases start with
  | nil => exact absurd rfl there
  | cons c cs =>
      have visible := starts c rfl
      have first : word (c :: cs) = c :: cs.takeWhile fun c => !isSpace c := by
        simp [word, visible]
      have behind : next (c :: cs) = (cs.dropWhile fun c => !isSpace c).dropWhile isSpace := by
        simp [next, visible]
      rw [fields_cons_clear visible, first, behind, fields_dropWhile]

private theorem word_ne_nil {start : Text} (starts : Starts start) (there : start ≠ []) :
    word start ≠ [] := by
  cases start with
  | nil => exact absurd rfl there
  | cons c cs => simp [word, starts c rfl]

/-- The scan of the name stays within the word. -/
private theorem scanKey_word (start : Text) :
    match splitOnceAt '=' (word start) with
    | none => scanKey start = none
    | some (k, v) => ∃ after, scanKey start = some (k, after) ∧ word after = v ∧
        next after = next start := by
  induction start with
  | nil => rfl
  | cons c cs ih =>
      unfold scanKey
      cases space : isSpace c with
      | true => simp [word, space, splitOnceAt]
      | false =>
          have first : word (c :: cs) = c :: word cs := by simp [word, space]
          have behind : next (c :: cs) = next cs := by simp [next, space]
          rw [first, behind]
          by_cases equals : c = '='
          · have split : splitOnceAt '=' (c :: word cs) = some ([], word cs) := by
              simp [splitOnceAt, equals]
            rw [split]
            exact ⟨cs, by simp [equals], rfl, rfl⟩
          · have split : splitOnceAt '=' (c :: word cs) =
                (splitOnceAt '=' (word cs)).map fun found => (c :: found.1, found.2) := by
              unfold splitOnceAt
              rw [List.dropWhile_cons_of_pos (by simpa using equals),
                List.takeWhile_cons_of_pos (by simpa using equals)]
              cases List.dropWhile (fun c => c != '=') (word cs) <;> rfl
            rw [split]
            cases inside : splitOnceAt '=' (word cs) with
            | none =>
                rw [inside] at ih
                have none : scanKey cs = none := ih
                simp [equals, none]
            | some found =>
                rw [inside] at ih
                obtain ⟨after, read, same, rest⟩ := ih
                exact ⟨after, by simp [equals, read], same, rest⟩

/-- Whether C takes a word for the environment. -/
def hasEquals (text : Text) : Bool := (splitOnceAt '=' text).isSome

private theorem argLoop_fields {start : Text} (starts : Starts start) :
    argLoop start = fields isSpace start := by
  induction length : start.length using Nat.strongRecOn generalizing start with
  | ind size ih =>
      unfold argLoop
      by_cases there : start = []
      · rw [there]
        rfl
      · rw [dif_neg (word_ne_nil starts there), fields_word starts there]
        congr 1
        have shorter : (next start).length < size := by
          cases start with
          | nil => exact absurd rfl there
          | cons c cs =>
              have same : next (c :: cs) = next cs := by simp [next, starts c rfl]
              have rest := next_length_le cs
              rw [same, ← length]
              exact Nat.lt_succ_of_le rest
        exact ih _ shorter (next_starts start) rfl

/-- The loops read the fields of a string that starts with none of its spaces. -/
private theorem envLoop_fields {start : Text} (starts : Starts start) :
    (envLoop start).1 =
      ((fields isSpace start).takeWhile hasEquals).filterMap (splitOnceAt '=') ∧
      argLoop (envLoop start).2 = (fields isSpace start).dropWhile hasEquals := by
  induction length : start.length using Nat.strongRecOn generalizing start with
  | ind size ih =>
      have inWord := scanKey_word start
      by_cases there : start = []
      · have none : envLoop [] = ([], []) := by
          rw [envLoop]
          rfl
        rw [there, none, argLoop_fields fun c head => by cases head]
        exact ⟨rfl, rfl⟩
      · have fieldsOf := fields_word starts there
        cases split : splitOnceAt '=' (word start) with
        | none =>
            rw [split] at inWord
            have stops : scanKey start = none := inWord
            have plain : hasEquals (word start) = false := by simp [hasEquals, split]
            have stopped : envLoop start = ([], start) := by
              rw [envLoop]
              split
              · rfl
              · rename_i found
                rw [stops] at found
                cases found
            rw [stopped]
            constructor
            · rw [fieldsOf, List.takeWhile_cons_of_neg (by simp [plain])]
              rfl
            · rw [argLoop_fields starts, fieldsOf, List.dropWhile_cons_of_neg (by simp [plain])]
        | some found =>
            rw [split] at inWord
            obtain ⟨after, read, value, rest⟩ := inWord
            have pair : hasEquals (word start) = true := by simp [hasEquals, split]
            have stepped : envLoop start =
                ((found.1, word after) :: (envLoop (next after)).1, (envLoop (next after)).2) := by
              rw [envLoop]
              split
              · rename_i none
                rw [read] at none
                cases none
              · rename_i k v same
                rw [read] at same
                cases same
                rfl
            have shorter : (next start).length < size := by
              rw [← rest, ← length]
              exact Nat.lt_of_le_of_lt (next_length_le after) (scanKey_length read)
            obtain ⟨pairs, args⟩ := ih _ shorter (next_starts start) rfl
            rw [stepped, rest, fieldsOf, List.takeWhile_cons_of_pos pair,
              List.dropWhile_cons_of_pos pair]
            refine ⟨?_, args⟩
            rw [List.filterMap_cons, split, pairs, value]

/-! ### Both readers -/

/-- The environment of the child: of the entries for a name the last one counts, then
the one that is inherited. -/
def childEnv (base : List Entry) (cmd : Command) (name : Text) : Option Text :=
  (cmd.env.reverse.lookup name).or (base.lookup name)

theorem lookup_entry (entry : Entry) (rest : List Entry) (name : Text) :
    (entry :: rest).lookup name = if name = entry.1 then some entry.2 else rest.lookup name := by
  obtain ⟨key, value⟩ := entry
  rw [List.lookup_cons]
  by_cases same : name = key
  · simp [same]
  · have different : (name == key) = false := by simpa using same
    simp [same, different]

theorem lookup_setEnvVar (envp : List Entry) (name value other : Text) :
    (setEnvVar envp name value).lookup other =
      if other = name then some value else envp.lookup other := by
  induction envp with
  | nil => exact lookup_entry (name, value) [] other
  | cons entry rest ih =>
      unfold setEnvVar
      by_cases there : entry.1 = name
      · rw [if_pos there, lookup_entry, lookup_entry, there]
        split <;> rfl
      · rw [if_neg there, lookup_entry, lookup_entry, ih]
        by_cases here : other = entry.1
        · have apart : other ≠ name := fun is => there (here.symm.trans is)
          rw [if_pos here, if_neg apart, if_pos here]
        · rw [if_neg here, if_neg here]

private theorem lookup_setEnvVars (pairs base : List Entry) (name : Text) :
    (pairs.foldl (fun envp entry => setEnvVar envp entry.1 entry.2) base).lookup name =
      (pairs.reverse.lookup name).or (base.lookup name) := by
  induction pairs generalizing base with
  | nil => rfl
  | cons entry rest ih =>
      rw [List.foldl_cons, ih, lookup_setEnvVar, List.reverse_cons, List.lookup_append,
        Option.or_assoc, lookup_entry]
      congr 1
      split <;> rfl

/-- Where the frontend takes every word for the environment that C does. -/
def SameKeys (s : Text) : Prop :=
  ∀ text ∈ (fields isSpace s).takeWhile hasEquals, (assignment text).isSome = true

instance (s : Text) : Decidable (SameKeys s) := inferInstanceAs (Decidable (∀ _ ∈ _, _))

private theorem assignment_hasEquals {text : Text} (is : (assignment text).isSome = true) :
    hasEquals text = true := by
  unfold assignment at is
  unfold hasEquals
  cases split : splitOnceAt '=' text with
  | none =>
      rw [split] at is
      cases is
  | some pair => rfl

private theorem assignment_eq {text : Text} (is : (assignment text).isSome = true) :
    assignment text = splitOnceAt '=' text := by
  unfold assignment at is ⊢
  cases split : splitOnceAt '=' text with
  | none => rfl
  | some pair =>
      rw [split] at is
      dsimp only at is ⊢
      split
      · rfl
      · rename_i refused
        rw [if_neg refused] at is
        cases is

private theorem leadingEnv_snd (words : List Text) :
    (leadingEnv words).2 = words.dropWhile fun text => (assignment text).isSome := by
  induction words with
  | nil => rfl
  | cons first rest ih =>
      unfold leadingEnv
      cases is : assignment first with
      | none => rw [List.dropWhile_cons_of_neg (by simp [is])]
      | some entry => rw [List.dropWhile_cons_of_pos (by simp [is]), ← ih]

private theorem leadingEnv_fst {words : List Text}
    (same : ∀ text ∈ words.takeWhile hasEquals, (assignment text).isSome = true) :
    (leadingEnv words).1 = (words.takeWhile hasEquals).filterMap (splitOnceAt '=') := by
  induction words with
  | nil => rfl
  | cons first rest ih =>
      unfold leadingEnv
      cases pair : hasEquals first with
      | false =>
          have refused : assignment first = none := by
            cases is : assignment first with
            | none => rfl
            | some entry => simp [assignment_hasEquals (by rw [is]; rfl)] at pair
          rw [refused, List.takeWhile_cons_of_neg (by simp [pair])]
          rfl
      | true =>
          rw [List.takeWhile_cons_of_pos pair] at same ⊢
          have first_same := same first List.mem_cons_self
          have later := ih fun text member => same text (List.mem_cons_of_mem _ member)
          obtain ⟨entry, is⟩ := Option.isSome_iff_exists.mp first_same
          have split := (assignment_eq first_same).symm.trans is
          rw [is, List.filterMap_cons, split]
          dsimp only
          rw [later]

/-- Two scans from the left stop in one place when what the longer one passes is passed
by the shorter one. -/
private theorem dropWhile_eq_iff {Item : Type} {p q : Item → Bool}
    (weaker : ∀ item, p item → q item)
    (items : List Item) :
    items.dropWhile q = items.dropWhile p ↔ ∀ item ∈ items.takeWhile q, p item = true := by
  induction items with
  | nil => simp
  | cons first rest ih =>
      cases long : q first with
      | false =>
          have short : p first = false := by
            cases passed : p first with
            | false => rfl
            | true => simp [weaker first passed] at long
          simp [long, short]
      | true =>
          rw [List.dropWhile_cons_of_pos long, List.takeWhile_cons_of_pos long,
            List.forall_mem_cons]
          cases short : p first with
          | true => rw [List.dropWhile_cons_of_pos short, ih]; simp
          | false =>
              rw [List.dropWhile_cons_of_neg (by simp [short])]
              have shorter : (rest.dropWhile q).length ≤ rest.length :=
                (List.dropWhile_suffix q).length_le
              constructor
              · intro same
                rw [same, List.length_cons] at shorter
                omega
              · intro passed
                cases passed.1

private theorem fromExecString_words (s : Text) :
    (fromExecString s).elim [] (fun cmd => cmd.program :: cmd.args) =
      (leadingEnv (fields isWhiteSpace s)).2 := by
  unfold fromExecString
  cases parts : leadingEnv (fields isWhiteSpace s) with
  | mk env others => cases others <;> rfl

/-- C reads nothing at all behind a space in front. -/
theorem addFromExecString_space {c : Char} (space : isSpace c = true) (s : Text)
    (env : CustomEnv) : addFromExecString env (c :: s) = env := by
  have stops : scanKey (c :: s) = none := by simp [scanKey, space]
  have stopped : envLoop (c :: s) = ([], c :: s) := by
    rw [envLoop]
    split
    · rfl
    · rename_i found
      rw [stops] at found
      cases found
  have none : argLoop (c :: s) = [] := by
    rw [argLoop, dif_pos (by simp [word, space])]
  unfold addFromExecString
  rw [stopped]
  simp [none]

end Westonite.Spawn
