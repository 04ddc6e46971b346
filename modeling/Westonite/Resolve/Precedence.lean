import Westonite.Resolve.Resolved

/-! Which file is read, and the overrides of the command line in front of it: what the
tree holds that the settings are made of. -/

set_option autoImplicit false

namespace Westonite.Resolve

open Library
open Westonite.Config (ConfigError Step Value splitOnce segments pathSteps parseValue KeyShaped
  apply_cases apply_keyShaped)

/-! ### The file -/

/-- A flag decides on the file; without one it is the first TOML file of the search. An
ini file is reported only from a directory in front of that, and never read. -/
theorem resolveFrom_file {host : Host} {cli : Cli} {env : Env} {settings : Settings}
    (resolved : resolveFrom host cli env = .ok settings) :
    (cli.noConfig = true → settings.configPath = none ∧ settings.legacyIniFound = none) ∧
    (cli.noConfig = false → ∀ path, cli.config = some path →
      settings.configPath = some path ∧ settings.legacyIniFound = none) ∧
    (cli.noConfig = false → cli.config = none →
      (∀ path, settings.configPath = some path ↔
        ∃ before dir, Reached host.isFile (searchDirs env) before dir ∧
          host.isFile (tomlIn dir) = true ∧ path = tomlIn dir) ∧
      (settings.configPath = none ↔
        ∀ dir ∈ searchDirs env, host.isFile (tomlIn dir) = false) ∧
      ∀ path, settings.legacyIniFound = some path ↔
        ∃ before dir, Reached host.isFile (searchDirs env) before dir ∧
          host.isFile (tomlIn dir) = false ∧ host.isFile (iniIn dir) = true ∧
          (∀ other ∈ before, host.isFile (iniIn other) = false) ∧ path = iniIn dir) := by
  obtain ⟨tree, steps⟩ := resolveFrom_steps resolved
  have file := steps.file
  unfold configFile at file
  refine ⟨?_, ?_, ?_⟩
  · intro disabled
    rw [if_pos disabled] at file
    exact ⟨(congrArg Prod.fst file).symm, (congrArg Prod.snd file).symm⟩
  · intro enabled path given
    rw [if_neg (by simp [enabled]), given] at file
    exact ⟨(congrArg Prod.fst file).symm, (congrArg Prod.snd file).symm⟩
  · intro enabled absent
    rw [if_neg (by simp [enabled]), absent] at file
    have found : (discover host.isFile env).1 = settings.configPath := congrArg Prod.fst file
    have legacy : (discover host.isFile env).2 = settings.legacyIniFound :=
      congrArg Prod.snd file
    rw [← found, ← legacy]
    exact ⟨fun path => discover_found_iff, discover_none_iff, fun path => discover_legacy_iff⟩

def searchHost : Host where
  isFile path := path = "/root/.config/westonite.ini" ∨ path = "/etc/xdg/westonite.toml"
  readToString _ := .ok ""
  parse _ := .ok []
  tryInto _ := .ok {}

def searchEnv : Env := fun key => if key = "HOME" then some "/root" else none

/-- The old file of the home, and the new one of the system. -/
theorem resolveFrom_file_search :
    ∃ settings, resolveFrom searchHost {} searchEnv = .ok settings ∧
      settings.configPath = some "/etc/xdg/westonite.toml" ∧
      settings.legacyIniFound = some "/root/.config/westonite.ini" := by
  have resolved : resolveFrom searchHost {} searchEnv = .ok _ := rfl
  have dirs : searchDirs searchEnv = ["/root/.config", "/etc/xdg"] := by decide +kernel
  obtain ⟨_, _, search⟩ := resolveFrom_file resolved
  obtain ⟨found, _, legacy⟩ := search rfl rfl
  refine ⟨_, resolved, ?_, ?_⟩
  · refine (found _).mpr ⟨["/root/.config"], "/etc/xdg", ⟨⟨[], dirs⟩, ?_⟩, ?_, ?_⟩
    · simp only [List.mem_singleton, forall_eq]
      decide +kernel
    · decide +kernel
    · decide +kernel
  · refine (legacy _).mpr ⟨[], "/root/.config", ⟨⟨["/etc/xdg"], dirs⟩, ?_⟩, ?_, ?_, ?_, ?_⟩
    · simp
    · decide +kernel
    · decide +kernel
    · simp
    · decide +kernel

/-! ### Paths apart -/

/-- Both steps are names, or both are places. -/
inductive Alike : Step → Step → Prop where
  | key (name other : String) : Alike (.key name) (.key other)
  | index (position other : Nat) : Alike (.index position) (.index other)

/-- Two paths with the same first steps, up to two steps of one kind that differ. -/
inductive Apart : List Step → List Step → Prop where
  | fork (before : List Step) {step other : Step} (rest tail : List Step) :
      Alike step other → other ≠ step → Apart (before ++ step :: rest) (before ++ other :: tail)

/-- Where an override stores its value. -/
def place (spec : String) : Option (List Step) :=
  (splitOnce spec).map fun parts => pathSteps (segments parts.1)

/-- An array that has one of two places is not extended up to it. -/
private theorem fits_of_child {node item : Value} {step other : Step} (alike : Alike step other)
    (found : node.child other = some item) :
    Value.Fits node step ∧ ¬ Value.Grown node step other := by
  cases alike with
  | key name other =>
      cases node with
      | table entries =>
          constructor
          · exact .table entries name
          · intro grown
            cases grown
      | _ => cases found
  | index position other =>
      cases node with
      | array items =>
          constructor
          · exact .array items position
          · intro grown
            cases grown with
            | array short _ =>
                have missing : items[other]? = none := List.getElem?_eq_none short
                cases missing.symm.trans found
      | _ => cases found

private theorem get_store_apart {value root item : Value} {stored steps : List Step}
    (apart : Apart stored steps) (found : Value.walk.get root steps = some item) :
    Value.walk.get (Value.walk.store value root stored) steps = some item := by
  cases apart with
  | @fork before step other rest tail alike different =>
      have whole := found
      rw [Walk.get_append] at found
      obtain ⟨node, reached, below⟩ := Option.bind_eq_some_iff.mp found
      rw [Walk.get_cons] at below
      obtain ⟨next, there, _⟩ := Option.bind_eq_some_iff.mp below
      obtain ⟨fits, old⟩ := fits_of_child alike there
      have kept : Value.walk.get (Value.walk.store value root (before ++ step :: rest))
            (before ++ other :: tail) = Value.walk.get root (before ++ other :: tail) ∨
          Value.Grown node step other ∧ _ :=
        Walk.get_store_other Value.walk_lawful value reached fits different tail
      rcases kept with same | ⟨grown, _⟩
      · exact same.trans whole
      · exact absurd grown old

/-! ### One override, and all of them -/

private theorem applyOverride_stores {host : Host} {tree next : Westonite.Config.Table}
    {spec : String}
    (done : applyOverride host tree spec = .ok next) :
    ∃ path raw, splitOnce spec = some (path, raw) ∧ KeyShaped path ∧
      Value.table next = Value.walk.store (parseValue host.parseTable raw) (.table tree)
        (pathSteps (segments path)) := by
  unfold applyOverride at done
  rcases apply_cases host.parseTable tree spec with ⟨message, rejected⟩ | ⟨path, raw, cut, shaped⟩
  · rw [rejected] at done
    cases done
  · obtain ⟨accepted, stored⟩ := apply_keyShaped host.parseTable tree cut shaped
    refine ⟨path, raw, cut, shaped, ?_⟩
    cases applied : Westonite.Config.apply host.parseTable tree spec with
    | mk result after =>
        rw [applied] at accepted stored done
        cases accepted
        cases done
        exact stored

private theorem applyOverride_keeps {host : Host} {tree next : Westonite.Config.Table}
    {spec : String}
    {steps : List Step} {item : Value} (done : applyOverride host tree spec = .ok next)
    (apart : ∀ stored, place spec = some stored → Apart stored steps)
    (found : Value.walk.get (.table tree) steps = some item) :
    Value.walk.get (.table next) steps = some item := by
  obtain ⟨path, raw, cut, _, stored⟩ := applyOverride_stores done
  rw [stored]
  refine get_store_apart (apart _ ?_) found
  rw [place, cut]
  rfl

private theorem overrides_keep {host : Host} {specs : List String}
    {start tree : Westonite.Config.Table}
    {steps : List Step} {item : Value}
    (done : specs.foldlM (applyOverride host) start = .ok tree)
    (apart : ∀ spec ∈ specs, ∀ stored, place spec = some stored → Apart stored steps)
    (found : Value.walk.get (.table start) steps = some item) :
    Value.walk.get (.table tree) steps = some item := by
  induction specs generalizing start with
  | nil =>
      cases done
      exact found
  | cons spec specs ih =>
      rw [List.foldlM_cons] at done
      obtain ⟨next, first, rest⟩ := bind_eq_ok.mp done
      have now := applyOverride_keeps first (apart spec List.mem_cons_self) found
      exact ih rest (fun other member => apart other (List.mem_cons_of_mem spec member)) now

private theorem overrides_last {host : Host} {earlier later : List String} {spec : String}
    {start tree : Westonite.Config.Table}
    (done : (earlier ++ spec :: later).foldlM (applyOverride host) start = .ok tree) :
    ∃ path raw, splitOnce spec = some (path, raw) ∧ KeyShaped path ∧
      ((∀ other ∈ later, ∀ stored, place other = some stored →
          Apart stored (pathSteps (segments path))) →
        Value.walk.get (.table tree) (pathSteps (segments path)) =
          some (parseValue host.parseTable raw)) := by
  rw [List.foldlM_append] at done
  obtain ⟨patched, _, done⟩ := bind_eq_ok.mp done
  rw [List.foldlM_cons] at done
  obtain ⟨next, first, rest⟩ := bind_eq_ok.mp done
  obtain ⟨path, raw, cut, shaped, stored⟩ := applyOverride_stores first
  refine ⟨path, raw, cut, shaped, fun apart => overrides_keep rest apart ?_⟩
  rw [stored]
  exact Walk.get_store Value.walk_lawful ..

/-! ### The tree of the settings -/

/-- The settings are made of the file's tree, in which every override has stored its
value: it is found there unless a later override reaches its path, and so is what the
file has at a path that none of them reaches. -/
theorem resolveFrom_overrides {host : Host} {cli : Cli} {env : Env} {settings : Settings}
    (resolved : resolveFrom host cli env = .ok settings) :
    ∃ start tree, loadTree host settings.configPath = .ok start ∧
      host.tryInto tree = .ok settings.config ∧
      (∀ earlier spec later, cli.set = earlier ++ spec :: later →
        ∃ path raw, splitOnce spec = some (path, raw) ∧ KeyShaped path ∧
          ((∀ other ∈ later, ∀ stored, place other = some stored →
              Apart stored (pathSteps (segments path))) →
            Value.walk.get (.table tree) (pathSteps (segments path)) =
              some (parseValue host.parseTable raw))) ∧
      ∀ steps item, Value.walk.get (.table start) steps = some item →
        (∀ spec ∈ cli.set, ∀ stored, place spec = some stored → Apart stored steps) →
        Value.walk.get (.table tree) steps = some item := by
  obtain ⟨tree, steps⟩ := resolveFrom_steps resolved
  obtain ⟨start, loaded, patched⟩ := steps.loaded
  refine ⟨start, tree, loaded, steps.config, ?_, ?_⟩
  · intro earlier spec later split
    rw [split] at patched
    exact overrides_last patched
  · intro path item found apart
    exact overrides_keep patched apart found

def textAt (tree : Westonite.Config.Table) (path : List Step) : Option String :=
  match Value.walk.get (.table tree) path with
  | some (.string text) => some text
  | _ => none

def coreHost : Host where
  isFile _ := false
  readToString _ := .ok ""
  parse text :=
    if text = "" then
      .ok [("core", .table [("backend", .string "drm"), ("gbm-format", .string "xrgb8888")])]
    else .error ""
  tryInto tree := .ok
    { core :=
        { backend := textAt tree [.key "core", .key "backend"]
          gbmFormat := textAt tree [.key "core", .key "gbm-format"] } }

def coreCli : Cli :=
  { config := some "westonite.toml", set := ["core.backend=x11", "core.renderer=gl"] }

/-- One key of the file is replaced, another one stays. -/
theorem resolveFrom_overrides_core :
    ∃ settings start tree, resolveFrom coreHost coreCli (fun _ => none) = .ok settings ∧
      loadTree coreHost settings.configPath = .ok start ∧
      coreHost.tryInto tree = .ok settings.config ∧
      Value.walk.get (.table tree) [.key "core", .key "backend"] = some (.string "x11") ∧
      Value.walk.get (.table tree) [.key "core", .key "gbm-format"] =
        some (.string "xrgb8888") := by
  have resolved : resolveFrom coreHost coreCli (fun _ => none) = .ok _ := rfl
  have first : place "core.backend=x11" = some [.key "core", .key "backend"] := by decide +kernel
  have second : place "core.renderer=gl" = some [.key "core", .key "renderer"] := by
    decide +kernel
  obtain ⟨start, tree, loaded, config, stored, kept⟩ := resolveFrom_overrides resolved
  refine ⟨_, start, tree, resolved, loaded, config, ?_, ?_⟩
  · obtain ⟨path, raw, cut, _, value⟩ := stored [] _ _ rfl
    have given : splitOnce "core.backend=x11" = some ("core.backend", "x11") := by decide +kernel
    cases cut.symm.trans given
    have steps : pathSteps (segments "core.backend") = [.key "core", .key "backend"] := by
      decide +kernel
    rw [steps] at value
    refine (value ?_).trans ?_
    · intro other member there found
      cases List.mem_singleton.mp member
      cases found.symm.trans second
      exact .fork [.key "core"] [] [] (.key _ _) (by decide)
    · rfl
  · cases loaded
    refine kept _ _ rfl ?_
    intro spec member there found
    rcases List.mem_cons.mp member with same | member
    · cases same
      cases found.symm.trans first
      exact .fork [.key "core"] [] [] (.key _ _) (by decide)
    · cases List.mem_singleton.mp member
      cases found.symm.trans second
      exact .fork [.key "core"] [] [] (.key _ _) (by decide)

end Westonite.Resolve
