import Mathlib.Data.List.Forall2
import Westonite.Output.GroupSetup

/-! The section that controls a DRM head: the loop of the C frontend over its
configuration file, and the rules built from the same sections. -/

set_option autoImplicit false

namespace Westonite.Output

/-- The `output` sections of a configuration file, and the queries of the C
frontend on them. -/
structure IniConfig (Section : Type) where
  sections : List Section
  /-- `weston_config_section_get_string` with no default. -/
  getString : Section → String → Option String
  /-- `weston_config_get_section` for the `name` of an `output`. -/
  getSection : String → Option Section

namespace IniConfig

variable {Section : Type} (config : IniConfig Section)

/-- The body of the loop: what was logged, and the section that is returned. -/
def findControllingFrom (headName cloneOf : String) (depth : Nat) :
    List String × Option Section :=
  match config.getSection cloneOf with
  | none =>
      if depth > 0 then
        (["Configuration error: output section referred to with 'clone-of=" ++ cloneOf ++
          "' not found.\n"], none)
      else ([], none)
  | some found =>
      if depth + 1 > 10 then
        (["Configuration error: 'clone-of' nested too deep for output '" ++ headName ++ "'.\n"],
          none)
      else
        match config.getString found "clone-of" with
        | some next => findControllingFrom headName next (depth + 1)
        | none => ([], some found)
termination_by 11 - depth

/-- `drm_config_find_controlling_output_section`. -/
def findControllingOutputSection (headName : String) : List String × Option Section :=
  config.findControllingFrom headName headName 0

/-- `drm_head_prepare_enable`: what was logged, and the arguments of
`wet_compositor_layoutput_add_head`. -/
def drmHeadPrepareEnable (headName : String) (nonDesktop : Bool) :
    List String × Option (String × Option Section) :=
  match config.findControllingOutputSection headName with
  | (logs, some found) =>
      let mode := config.getString found "mode"
      if mode = some "off" then (logs, none)
      else if mode = none ∧ nonDesktop then (logs, none)
      -- the name is asserted to be there
      else (logs, (config.getString found "name").map fun name => (name, some found))
  | (logs, none) => (logs, some (headName, none))

/-- The section of a name is the first one that has it. -/
def FirstMatch : Prop :=
  ∀ name, config.getSection name =
    config.sections.find? fun found => config.getString found "name" == some name

/-- A rule says what its section says. -/
structure Describes (found : Section) (rule : OutputRule) : Prop where
  name : config.getString found "name" = some rule.name
  mode : config.getString found "mode" = rule.modeString
  off : rule.off = decide (rule.modeString = some "off")
  cloneOf : config.getString found "clone-of" = rule.cloneOf

/-- The rules are built from the sections, one of each, in order. -/
def Built (rules : List OutputRule) : Prop := List.Forall₂ config.Describes config.sections rules

/-- One answer in two languages: a section and the rule in its place, nothing, or an
error that was logged. -/
inductive SameAnswer (rules : List OutputRule) :
    List String × Option Section → Except String (Option OutputRule) → Prop where
  | controlled {index : Nat} {found : Section} {rule : OutputRule} :
      config.sections[index]? = some found → rules[index]? = some rule →
      config.Describes found rule → SameAnswer rules ([], some found) (.ok (some rule))
  | uncontrolled : SameAnswer rules ([], none) (.ok none)
  | misconfigured {line message : String} : line = message ++ "\n" →
      SameAnswer rules ([line], none) (.error message)

variable {config}

/-- The first section of a name and the first rule of that name stand in one place. -/
private theorem find_together {sections : List Section} {rules : List OutputRule}
    (built : List.Forall₂ config.Describes sections rules) (name : String) :
    (sections.find? (fun found => config.getString found "name" == some name) = none ∧
        rules.find? (fun rule => rule.name == name) = none) ∨
      ∃ (index : Nat) (found : Section) (rule : OutputRule),
        sections[index]? = some found ∧ rules[index]? = some rule ∧ config.Describes found rule ∧
        sections.find? (fun found => config.getString found "name" == some name) = some found ∧
        rules.find? (fun rule => rule.name == name) = some rule := by
  induction built with
  | nil => exact .inl ⟨rfl, rfl⟩
  | @cons found rule sections rules described _ ih =>
      rw [List.find?_cons, List.find?_cons, described.name]
      by_cases here : rule.name = name
      · rw [here, beq_self_eq_true, beq_self_eq_true]
        exact .inr ⟨0, found, rule, rfl, rfl, described, rfl, rfl⟩
      · have other : (some rule.name == some name) = false :=
          beq_eq_false_iff_ne.mpr fun same => here (Option.some.inj same)
        rw [beq_eq_false_iff_ne.mpr here, other]
        rcases ih with none | ⟨index, found, rule, later, laterRule, rest⟩
        · exact .inl none
        · exact .inr ⟨index + 1, found, rule, later, laterRule, rest⟩

variable {policy : OutputPolicy}

theorem logged (front name : String) {back line : String} (ended : line = back ++ "\n") :
    front ++ name ++ line = front ++ name ++ back ++ "\n" := by
  rw [ended]
  exact (String.append_assoc ..).symm

private theorem sameAnswer_from (first : config.FirstMatch) (built : config.Built policy.rules)
    (headName cloneOf : String) {depth left : Nat} (hops : depth + left = 10) :
    config.SameAnswer policy.rules (config.findControllingFrom headName cloneOf depth)
      (policy.drmControllingFrom headName cloneOf left) := by
  induction left generalizing cloneOf depth with
  | zero =>
      unfold findControllingFrom OutputPolicy.drmControllingFrom OutputPolicy.ruleFor
      rw [first cloneOf]
      rcases find_together built cloneOf with ⟨none, noRule⟩ | ⟨_, found, rule, _, _, _, is, isRule⟩
      · rw [none, noRule]
        dsimp only
        rw [if_pos (by omega), if_pos (by omega)]
        exact .misconfigured (logged _ _ (by decide))
      · rw [is, isRule]
        dsimp only
        rw [if_pos (by omega)]
        exact .misconfigured (logged _ _ (by decide))
  | succ left ih =>
      unfold findControllingFrom OutputPolicy.drmControllingFrom OutputPolicy.ruleFor
      rw [first cloneOf]
      rcases find_together built cloneOf with
        ⟨none, noRule⟩ | ⟨index, found, rule, there, thereRule, described, is, isRule⟩
      · rw [none, noRule]
        dsimp only
        by_cases start : depth > 0
        · rw [if_pos start, if_pos (by omega)]
          exact .misconfigured (logged _ _ (by decide))
        · rw [if_neg start, if_neg (by omega)]
          exact .uncontrolled
      · rw [is, isRule]
        dsimp only
        rw [if_neg (by omega), described.cloneOf]
        cases rule.cloneOf with
        | some next => exact ih next (by omega)
        | none => exact .controlled there thereRule described

/-- The rules lead to the section the file leads to, and a head is staged under the
name it would be staged under. -/
theorem clone_of_resolved (first : config.FirstMatch) (built : config.Built policy.rules)
    (headName : String) :
    config.SameAnswer policy.rules (config.findControllingOutputSection headName)
        (policy.drmControllingRule headName) ∧
      ∀ (w : World) (listener : Config) (head : HeadPtr) (value : WestonHead),
        listener.policy = policy → value.name = headName →
        (∀ group found,
          (config.drmHeadPrepareEnable headName value.nonDesktop).2 = some (group, found) →
          w.drmPrepareEnable listener head value = w.addHead group headName head) ∧
        ((config.drmHeadPrepareEnable headName value.nonDesktop).2 = none →
          w.drmPrepareEnable listener head value = w) := by
  have same : config.SameAnswer policy.rules (config.findControllingOutputSection headName)
      (policy.drmControllingRule headName) :=
    sameAnswer_from first built headName headName (by decide)
  refine ⟨same, ?_⟩
  rintro w listener head value rfl rfl
  unfold drmHeadPrepareEnable World.drmPrepareEnable OutputPolicy.decideDrm
  generalize config.findControllingOutputSection value.name = answer at same ⊢
  generalize listener.policy.drmControllingRule value.name = ruled at same ⊢
  cases same with
  | uncontrolled =>
      refine ⟨?_, nofun⟩
      intro group found staged
      cases staged
      rfl
  | misconfigured _ =>
      refine ⟨?_, nofun⟩
      intro group found staged
      cases staged
      rfl
  | @controlled index found rule _ _ described =>
      dsimp only
      rw [described.mode, described.name, described.off]
      by_cases off : rule.modeString = some "off"
      · rw [if_pos off, decide_eq_true off]
        exact ⟨nofun, fun _ => rfl⟩
      · rw [if_neg off, decide_eq_false off]
        by_cases skipped : rule.modeString = none ∧ value.nonDesktop = true
        · rw [if_pos skipped, skipped.1, skipped.2]
          exact ⟨nofun, fun _ => rfl⟩
        · have enabled : (value.nonDesktop && rule.modeString.isNone) = false := by
            rw [Bool.and_eq_false_iff]
            by_contra both
            simp only [not_or, Bool.not_eq_false, Option.isNone_iff_eq_none] at both
            exact skipped ⟨both.2, both.1⟩
          rw [if_neg skipped, enabled]
          refine ⟨?_, nofun⟩
          intro group section' staged
          cases staged
          rfl

/-- Sections as lists of keys. -/
def ofKeys (sections : List (List (String × String))) : IniConfig (List (String × String)) where
  sections := sections
  getString found key := found.lookup key
  getSection name := sections.find? fun found => found.lookup "name" == some name

/-- Two sections that are clones of each other: the error is that of the file. -/
theorem clone_of_resolved_cycle :
    ∃ policy : OutputPolicy,
      policy.drmControllingRule "A" =
        .error "Configuration error: 'clone-of' nested too deep for output 'A'." ∧
      (ofKeys [[("name", "A"), ("clone-of", "B")], [("name", "B"), ("clone-of", "A")]]).SameAnswer
        policy.rules
        ((ofKeys [[("name", "A"), ("clone-of", "B")],
          [("name", "B"), ("clone-of", "A")]]).findControllingOutputSection "A")
        (policy.drmControllingRule "A") := by
  let policy : OutputPolicy :=
    { OutputPolicy.defaults 1024 640 with
      rules :=
        [{ OutputRule.named "A" with cloneOf := some "B" },
          { OutputRule.named "B" with cloneOf := some "A" }] }
  have built : (ofKeys [[("name", "A"), ("clone-of", "B")],
      [("name", "B"), ("clone-of", "A")]]).Built policy.rules :=
    .cons ⟨rfl, rfl, rfl, rfl⟩ (.cons ⟨rfl, rfl, rfl, rfl⟩ .nil)
  exact ⟨policy, by rfl, (clone_of_resolved (fun _ => rfl) built "A").1⟩

end IniConfig

end Westonite.Output
