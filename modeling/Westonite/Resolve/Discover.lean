import Westonite.Library.Fields

/-! Where the configuration file is looked for. -/

set_option autoImplicit false

namespace Westonite.Resolve

open Library

abbrev Env := String → Option String

/-! ### Paths -/

/-- What paths are compared by: repeated and trailing separators do not count, nor
does a `.` that is not the first component. -/
structure Components where
  rooted : Bool
  names : List (List Char)
  deriving DecidableEq, Repr

def components (path : String) : Components :=
  let names := fields (fun c => c == '/') path.toList
  if path.toList.head? = some '/' then ⟨true, names.filter fun name => name != ['.']⟩
  else
    match names with
    | [] => ⟨false, []⟩
    | first :: rest => ⟨false, first :: rest.filter fun name => name != ['.']⟩

/-- `Path::join` -/
def join (dir name : String) : String :=
  if name.toList.head? = some '/' then name
  else if dir.toList.getLast?.all fun c => c == '/' then dir ++ name
  else dir ++ "/" ++ name

/-! ### The search -/

/-- A variable that is set to something. -/
def Env.nonEmpty (env : Env) (key : String) : Option String :=
  (env key).filter fun value => value != ""

/-- Both places of the home, in order, without the same one twice. -/
def homeDirs (env : Env) : List String :=
  let dirs := (env.nonEmpty "XDG_CONFIG_HOME").toList
  match env.nonEmpty "HOME" with
  | none => dirs
  | some home =>
      let homeConfig := join home ".config"
      if dirs.any fun dir => components dir == components homeConfig then dirs
      else dirs ++ [homeConfig]

def systemDirs (env : Env) : List String :=
  match env.nonEmpty "XDG_CONFIG_DIRS" with
  | some list => (fields (fun c => c == ':') list.toList).map String.ofList
  | none => ["/etc/xdg"]

def searchDirs (env : Env) : List String := homeDirs env ++ systemDirs env

def tomlIn (dir : String) : String := join dir "westonite.toml"

def iniIn (dir : String) : String := join dir "westonite.ini"

/-- The first ini file seen stays the one that is reported. -/
def legacyAfter (isFile : String → Bool) (dir : String) : Option String → Option String
  | some ini => some ini
  | none => if isFile (iniIn dir) then some (iniIn dir) else none

/-- The loop over the directories, with the ini file seen so far. -/
def discoverFrom (isFile : String → Bool) : List String → Option String →
    Option String × Option String
  | [], legacy => (none, legacy)
  | dir :: rest, legacy =>
      if isFile (tomlIn dir) then (some (tomlIn dir), legacy)
      else discoverFrom isFile rest (legacyAfter isFile dir legacy)

def discover (isFile : String → Bool) (env : Env) : Option String × Option String :=
  discoverFrom isFile (searchDirs env) none

/-! ### What the search finds -/

private theorem discoverFrom_found (isFile : String → Bool) (dirs : List String)
    (legacy : Option String) :
    (discoverFrom isFile dirs legacy).1 =
      (dirs.find? fun dir => isFile (tomlIn dir)).map tomlIn := by
  induction dirs generalizing legacy with
  | nil => rfl
  | cons dir rest ih =>
      cases there : isFile (tomlIn dir) with
      | true => simp [discoverFrom, there]
      | false => simpa [discoverFrom, there] using ih (legacyAfter isFile dir legacy)

/-- An ini file seen before the loop stays; otherwise it comes from a directory
before the one with the TOML file. -/
private theorem discoverFrom_legacy (isFile : String → Bool) (dirs : List String)
    (legacy : Option String) :
    (discoverFrom isFile dirs legacy).2 =
      legacy.or (((dirs.takeWhile fun dir => !isFile (tomlIn dir)).find?
        fun dir => isFile (iniIn dir)).map iniIn) := by
  induction dirs generalizing legacy with
  | nil => simp [discoverFrom]
  | cons dir rest ih =>
      cases there : isFile (tomlIn dir) with
      | true => simp [discoverFrom, there]
      | false =>
          have continued := ih (legacyAfter isFile dir legacy)
          cases legacy with
          | some ini => simpa [discoverFrom, legacyAfter, there] using continued
          | none =>
              cases old : isFile (iniIn dir) with
              | true => simpa [discoverFrom, legacyAfter, there, old] using continued
              | false => simpa [discoverFrom, legacyAfter, there, old] using continued

/-- A directory of the search, with those that are searched before it. -/
structure Reached (isFile : String → Bool) (dirs before : List String) (dir : String) : Prop where
  place : ∃ after, dirs = before ++ dir :: after
  passed : ∀ other ∈ before, isFile (tomlIn other) = false

theorem discover_found_iff {isFile : String → Bool} {env : Env} {path : String} :
    (discover isFile env).1 = some path ↔
      ∃ before dir, Reached isFile (searchDirs env) before dir ∧ isFile (tomlIn dir) = true ∧
        path = tomlIn dir := by
  unfold discover
  rw [discoverFrom_found, Option.map_eq_some_iff]
  constructor
  · rintro ⟨dir, found, rfl⟩
    obtain ⟨there, before, after, split, passed⟩ := List.find?_eq_some_iff_append.mp found
    exact ⟨before, dir, ⟨⟨after, split⟩, fun other member => by simpa using passed other member⟩,
      there, rfl⟩
  · rintro ⟨before, dir, ⟨⟨after, split⟩, passed⟩, there, rfl⟩
    refine ⟨dir, List.find?_eq_some_iff_append.mpr ⟨there, before, after, split, ?_⟩, rfl⟩
    intro other member
    simp [passed other member]

/-- The ini file that is reported lies in front of the TOML file that is read, and no
other one before it. -/
theorem discover_legacy_iff {isFile : String → Bool} {env : Env} {path : String} :
    (discover isFile env).2 = some path ↔
      ∃ before dir, Reached isFile (searchDirs env) before dir ∧ isFile (tomlIn dir) = false ∧
        isFile (iniIn dir) = true ∧ (∀ other ∈ before, isFile (iniIn other) = false) ∧
        path = iniIn dir := by
  unfold discover
  rw [discoverFrom_legacy, Option.none_or, Option.map_eq_some_iff]
  constructor
  · rintro ⟨dir, found, rfl⟩
    obtain ⟨old, before, after, split, none⟩ := List.find?_eq_some_iff_append.mp found
    have whole := List.takeWhile_append_dropWhile (p := fun dir => !isFile (tomlIn dir))
      (l := searchDirs env)
    rw [split, List.append_assoc, List.cons_append] at whole
    have passed : ∀ other ∈ before ++ dir :: after, isFile (tomlIn other) = false := by
      intro other member
      rw [← split] at member
      have all := List.all_eq_true.mp (List.all_takeWhile (p := fun dir => !isFile (tomlIn dir))
        (l := searchDirs env)) other member
      simpa using all
    refine ⟨before, dir, ⟨⟨_, whole.symm⟩, fun other member => ?_⟩, ?_, old, ?_, rfl⟩
    · exact passed other (List.mem_append_left _ member)
    · exact passed dir (List.mem_append_right _ List.mem_cons_self)
    · intro other member
      simpa using none other member
  · rintro ⟨before, dir, ⟨⟨after, split⟩, passed⟩, clear, old, none, rfl⟩
    refine ⟨dir, List.find?_eq_some_iff_append.mpr ⟨old, before,
      after.takeWhile fun dir => !isFile (tomlIn dir), ?_, ?_⟩, rfl⟩
    · rw [split, List.takeWhile_append_of_pos, List.takeWhile_cons_of_pos (by simp [clear])]
      intro other member
      simp [passed other member]
    · intro other member
      simp [none other member]

theorem discover_none_iff {isFile : String → Bool} {env : Env} :
    (discover isFile env).1 = none ↔ ∀ dir ∈ searchDirs env, isFile (tomlIn dir) = false := by
  unfold discover
  rw [discoverFrom_found, Option.map_eq_none_iff, List.find?_eq_none]
  simp

end Westonite.Resolve
