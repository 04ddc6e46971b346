import Westonite.Frontend.OutputRules

/-! What an accepted configuration promises to the outputs: a configuration that
resolves, passes the gate and builds a policy. -/

set_option autoImplicit false

namespace Westonite.Frontend

open Library Library.Binary
open Resolve (Backend Settings Host Cli Env resolveFrom resolveFrom_steps notPositive)
open Westonite.Output (OutputRule OutputPolicy World HeadSetup BackendKind EotfMode ColorimetryMode
  parseMode parseMode_eq_some_iff ModeSyntax DrmHeadPlan)

/-! ### What passes the gate -/

/-- A section that passes. -/
structure OutputPassed (settings : Settings) (out : Resolve.Output) : Prop where
  cloneOf : Backend.drm ∉ settings.backends → out.cloneOf = none
  mirrorOf : ∀ src, out.mirrorOf = some src → Backend.vnc ∈ settings.backends ∧
    out.name.getD "<unnamed>" = "vnc" ∧ src ≠ out.name.getD "<unnamed>"
  maxBpc : Backend.drm ∉ settings.backends → out.maxBpc = none
  color : Backend.drm ∉ settings.backends →
    out.eotfMode = none ∧ out.colorimetryMode = none ∧ out.colorCharacteristics = none
  iccProfile : settings.colorManagement = false → out.iccProfile = none

private theorem rejectOutput_passed {settings : Settings} {out : Resolve.Output}
    (passed : rejectOutput settings out = none) : OutputPassed settings out := by
  unfold rejectOutput at passed
  dsimp only at passed
  simp only [orElse_eq_none, refuse_eq_none] at passed
  obtain ⟨cloneOf, mirrorOf, maxBpc, color, iccProfile⟩ := passed
  refine ⟨fun noDrm => ?_, fun src given => ?_, fun noDrm => ?_, fun noDrm => ?_, fun off => ?_⟩
  · simpa [noDrm] using cloneOf
  · unfold rejectMirrorOf at mirrorOf
    rw [given] at mirrorOf
    simp only [orElse_eq_none, refuse_eq_none] at mirrorOf
    simpa [and_assoc] using mirrorOf
  · simpa [noDrm] using maxBpc
  · simpa [noDrm, and_assoc] using color
  · simpa [off] using iccProfile

private theorem rejectUnported_outputs {cli : Cli} {settings : Settings}
    (passed : rejectUnported cli settings = none) :
    ∀ out ∈ settings.config.output, OutputPassed settings out := by
  unfold rejectUnported at passed
  simp only [orElse_eq_none] at passed
  obtain ⟨_, _, _, _, _, _, _, outputs, _⟩ := passed
  intro out member
  exact rejectOutput_passed (List.findSome?_eq_none_iff.mp outputs out member)

/-! ### Positive sizes -/

def HeadSetup.size : HeadSetup → Int × Int
  | .windowed setup _ => (setup.width, setup.height)
  | .vnc setup => (setup.width, setup.height)
  | .pipewire setup => (setup.width, setup.height)

/-- Every number that an output may be given is positive. -/
structure Positive (policy : OutputPolicy) : Prop where
  validated : policy.Validated
  sizes : ∀ rule ∈ policy.rules, ∀ size, rule.size = some size → 0 < size.1 ∧ 0 < size.2
  width : ∀ width, policy.cli.width = some width → 0 < width
  height : ∀ height, policy.cli.height = some height → 0 < height
  defaultSize : 0 < policy.defaultSize.1 ∧ 0 < policy.defaultSize.2

private theorem getD_positive {value : Option Int} {fallback : Int}
    (given : ∀ n, value = some n → 0 < n) (otherwise : 0 < fallback) : 0 < value.getD fallback := by
  cases found : value with
  | none => exact otherwise
  | some n => exact given n found

namespace Positive

variable {policy : OutputPolicy}

private theorem ruleFor_member {name : String} {rule : OutputRule}
    (found : policy.ruleFor name = some rule) : rule ∈ policy.rules :=
  List.mem_of_find?_eq_some found

private theorem size_for (positive : Positive policy) (name : String) {fallback : Int × Int}
    (otherwise : 0 < fallback.1 ∧ 0 < fallback.2) :
    0 < (((policy.ruleFor name).bind OutputRule.size).getD fallback).1 ∧
      0 < (((policy.ruleFor name).bind OutputRule.size).getD fallback).2 := by
  cases found : policy.ruleFor name with
  | none => exact otherwise
  | some rule =>
      cases sized : rule.size with
      | none => simpa [sized] using otherwise
      | some size => simpa [sized] using positive.sizes rule (ruleFor_member found) size sized

private theorem scale_for (positive : Positive policy) (name : String) {fallback : Int}
    (otherwise : 0 < fallback) :
    0 < ((policy.ruleFor name).bind OutputRule.scale).getD fallback := by
  refine getD_positive (fun n given => ?_) otherwise
  obtain ⟨rule, found, scaled⟩ := Option.bind_eq_some_iff.mp given
  exact positive.validated.rules rule (ruleFor_member found) n scaled

theorem decideSized (positive : Positive policy) {name : String} {size : Int × Int}
    (otherwise : 0 < size.1 ∧ 0 < size.2) {setup : Westonite.Output.OutputSetup}
    (decided : policy.decideSized name size = some setup) :
    0 < setup.width ∧ 0 < setup.height ∧ 0 < setup.scale := by
  unfold OutputPolicy.decideSized at decided
  dsimp only at decided
  split at decided
  · cases decided
  · cases decided
    have sized := positive.size_for name otherwise
    have scaled := positive.scale_for name positive.validated.default
    exact ⟨getD_positive positive.width sized.1, getD_positive positive.height sized.2,
      getD_positive positive.validated.cli scaled⟩

theorem headSetupFor (positive : Positive policy) {kind : BackendKind} {name : String}
    {setup : HeadSetup} (decided : World.headSetupFor policy kind name = some setup) :
    0 < (HeadSetup.size setup).1 ∧ 0 < (HeadSetup.size setup).2 ∧ 0 < setup.scale := by
  cases kind with
  | headless =>
      obtain ⟨sized, found, rfl⟩ := Option.map_eq_some_iff.mp decided
      exact positive.decideSized positive.defaultSize found
  | x11 =>
      obtain ⟨sized, found, rfl⟩ := Option.map_eq_some_iff.mp decided
      exact positive.decideSized (by decide) found
  | wayland =>
      obtain ⟨sized, found, rfl⟩ := Option.map_eq_some_iff.mp decided
      exact positive.decideSized (by decide) found
  | vnc =>
      obtain ⟨sized, found, rfl⟩ := Option.map_eq_some_iff.mp decided
      unfold OutputPolicy.decideVnc at found
      dsimp only at found
      split at found
      · cases found
      · cases found
        have standard : 0 < ((640, 480) : Int × Int).1 ∧ 0 < ((640, 480) : Int × Int).2 := by decide
        have size := positive.size_for name standard
        exact ⟨getD_positive positive.width size.1, getD_positive positive.height size.2,
          positive.scale_for name (by decide)⟩
  | pipewire =>
      obtain ⟨sized, found, rfl⟩ := Option.map_eq_some_iff.mp decided
      unfold OutputPolicy.decidePipewire at found
      dsimp only at found
      split at found
      · cases found
      · cases found
        have standard : 0 < ((640, 480) : Int × Int).1 ∧ 0 < ((640, 480) : Int × Int).2 := by decide
        have size := positive.size_for name standard
        exact ⟨getD_positive positive.width size.1, getD_positive positive.height size.2,
          positive.scale_for name (by decide)⟩
  | drm => cases decided

end Positive

private theorem parseMode_positive {mode : String} {size : Int × Int}
    (read : parseMode mode = some size) :
    0 < size.1 ∧ 0 < size.2 := by
  obtain ⟨w, h⟩ := size
  have syntactic := (parseMode_eq_some_iff mode w h).mp read
  generalize Westonite.Output.modeCore mode.toList = core at syntactic
  cases syntactic with
  | size _ _ width height => exact ⟨by omega, by omega⟩

private theorem notPositive_eq_none {message : Int → String} {value : Option Int} :
    notPositive message value = none ↔ ∀ n, value = some n → 0 < n := by
  cases value with
  | none => simp [notPositive]
  | some n => simp [notPositive]

/-- What a resolution says of the numbers. -/
private theorem resolveFrom_positive {host : Host} {cli : Cli} {env : Env} {settings : Settings}
    (resolved : resolveFrom host cli env = .ok settings) :
    (∀ n, settings.width = some n → 0 < n) ∧ (∀ n, settings.height = some n → 0 < n) ∧
      (∀ n, settings.scale = some n → 0 < n) ∧
      ∀ out ∈ settings.config.output, ∀ n, out.scale = some n → 0 < n := by
  obtain ⟨tree, steps⟩ := resolveFrom_steps resolved
  have geometry := List.findSome?_eq_none_iff.mp steps.geometry
  have scales := List.findSome?_eq_none_iff.mp steps.scales
  simp only [List.forall_mem_cons, notPositive_eq_none] at geometry
  have width : settings.width = cli.width := congrArg Settings.width steps.settled
  have height : settings.height = cli.height := congrArg Settings.height steps.settled
  have scale : settings.scale = cli.scale := congrArg Settings.scale steps.settled
  rw [width, height, scale]
  exact ⟨geometry.1, geometry.2.1, geometry.2.2.1,
    fun out member => notPositive_eq_none.mp (scales out member)⟩

private theorem positive_of_resolved {display : F64 → String} {host : Host} {cli : Cli} {env : Env}
    {settings : Settings} {policy : OutputPolicy}
    (resolved : resolveFrom host cli env = .ok settings)
    (built : PolicyBuilt display settings policy) : Positive policy := by
  obtain ⟨width, height, scale, scales⟩ := resolveFrom_positive resolved
  constructor
  · constructor
    · intro rule member n scaled
      obtain ⟨out, listed, from_out⟩ := forall₂_mem_right built.rules member
      exact scales out listed n (from_out.scale ▸ scaled)
    · intro n given
      exact scale n (built.scale ▸ given)
    · rw [built.defaultScale]
      decide
  · intro rule member size sized
    obtain ⟨out, listed, from_out⟩ := forall₂_mem_right built.rules member
    rw [from_out.size] at sized
    obtain ⟨mode, _, read⟩ := Option.bind_eq_some_iff.mp sized
    exact parseMode_positive read
  · intro n given
    exact width n (built.width ▸ given)
  · intro n given
    exact height n (built.height ▸ given)
  · rw [built.defaultSize]
    decide

/-! ### Mirrors -/

/-- A rule that mirrors is the one of the vnc head. -/
private theorem mirror_of_passed {display : F64 → String} {cli : Cli} {settings : Settings}
    {policy : OutputPolicy} (passed : rejectUnported cli settings = none)
    (built : PolicyBuilt display settings policy) {rule : OutputRule} (member : rule ∈ policy.rules)
    {src : String} (mirrors : rule.mirrorOf = some src) :
    Backend.vnc ∈ settings.backends ∧ rule.name = "vnc" ∧ src ≠ "vnc" := by
  obtain ⟨out, listed, from_out⟩ := forall₂_mem_right built.rules member
  have given : out.mirrorOf = some src := from_out.mirrorOf ▸ mirrors
  obtain ⟨loaded, named, other⟩ := (rejectUnported_outputs passed out listed).mirrorOf src given
  rw [from_out.name, Option.getD_some] at named other
  exact ⟨loaded, named, named ▸ other⟩

/-- Every output that an accepted configuration sizes has a positive size and scale, and
a mirror has no mirror of its own. -/
theorem accepted_outputs {display : F64 → String} {host : Host} {cli : Cli} {env : Env}
    {settings : Settings} {policy : OutputPolicy}
    (resolved : resolveFrom host cli env = .ok settings)
    (passed : rejectUnported cli settings = none)
    (accepted : (buildOutputPolicy display settings).2 = .ok policy) :
    policy.Validated ∧
      (∀ kind name setup, World.headSetupFor policy kind name = some setup →
        0 < (HeadSetup.size setup).1 ∧ 0 < (HeadSetup.size setup).2 ∧ 0 < setup.scale) ∧
      ∀ source rule, policy.mirrorRuleForSource source = some rule →
        Backend.vnc ∈ settings.backends ∧ rule.name = "vnc" ∧ source ≠ "vnc" ∧
          policy.mirrorRuleForSource rule.name = none := by
  have built := buildOutputPolicy_built accepted
  have positive := positive_of_resolved resolved built
  refine ⟨positive.validated, fun kind name setup => positive.headSetupFor, ?_⟩
  intro source rule found
  have member := List.mem_of_find?_eq_some found
  have mirrors : rule.mirrorOf = some source := by simpa using List.find?_some found
  obtain ⟨loaded, named, other⟩ := mirror_of_passed passed built member mirrors
  refine ⟨loaded, named, other, ?_⟩
  rw [named]
  refine List.find?_eq_none.mpr fun second listed again => ?_
  have chained : second.mirrorOf = some "vnc" := by simpa using again
  exact (mirror_of_passed passed built listed chained).2.2 rfl

/-- A host whose file mirrors the headless output over vnc. -/
def mirrorHost : Host where
  isFile _ := false
  readToString _ := .error ""
  parse _ := .ok []
  tryInto _ := .ok { output := [{ name := some "vnc", mirrorOf := some "headless" }] }

def mirrorCli : Cli := { backend := some "headless,vnc", width := some 800 }

/-- One mirror, and none of the mirror. -/
theorem accepted_outputs_mirror :
    ∃ settings policy, resolveFrom mirrorHost mirrorCli (fun _ => none) = .ok settings ∧
      (buildOutputPolicy (fun _ => "") settings).2 = .ok policy ∧
      ∃ rule, policy.mirrorRuleForSource "headless" = some rule ∧
        policy.mirrorRuleForSource rule.name = none := by
  have resolved : resolveFrom mirrorHost mirrorCli (fun _ => none) = .ok _ := rfl
  refine ⟨_, _, resolved, rfl, _, rfl, ?_⟩
  exact ((@accepted_outputs (fun _ => "") _ _ _ _ _ resolved rfl rfl).2.2 "headless" _ rfl).2.2.2

/-! ### Nothing without effect -/

/-- A rule without the keys that the gate keeps for drm. -/
structure WithoutDrm (rule : OutputRule) : Prop where
  cloneOf : rule.cloneOf = none
  maxBpc : rule.maxBpc = none
  eotfMode : rule.color.eotfMode = none
  colorimetryMode : rule.color.colorimetryMode = none
  characteristics : rule.color.characteristics = none

/-- A rule without a key that only the color manager reads. -/
structure WithoutManager (rule : OutputRule) : Prop where
  iccProfile : rule.color.iccProfile = none
  eotfMode : ∀ mode, rule.color.eotfMode = some mode → mode = .sdr
  colorimetryMode : ∀ mode, rule.color.colorimetryMode = some mode → mode = .default

/-- A rule without the keys that only drm reads and the gate lets through. -/
def withoutUngated (rule : OutputRule) : OutputRule :=
  { rule with contentType := none, seat := none, forceOn := false }

/-- The policy whose rules have none of them. -/
def policyWithoutUngated (policy : OutputPolicy) : OutputPolicy :=
  { policy with rules := policy.rules.map withoutUngated }

private theorem ruleFor_withoutUngated (policy : OutputPolicy) (name : String) :
    (policyWithoutUngated policy).ruleFor name =
      (policy.ruleFor name).map withoutUngated := by
  unfold OutputPolicy.ruleFor policyWithoutUngated
  rw [List.find?_map]
  rfl

/-- Whatever a head that is not of drm is configured by is the same without them. -/
private theorem configured_withoutUngated (policy : OutputPolicy) (name : String) :
    (∀ kind, World.headSetupFor (policyWithoutUngated policy) kind name =
        World.headSetupFor policy kind name) ∧
      (policyWithoutUngated policy).decideColor name = policy.decideColor name ∧
      (policyWithoutUngated policy).hasMirrorOf name = policy.hasMirrorOf name ∧
      (policyWithoutUngated policy).mirrorRuleForSource name =
        (policy.mirrorRuleForSource name).map withoutUngated := by
  have found := ruleFor_withoutUngated policy name
  refine ⟨fun kind => ?_, ?_, ?_, ?_⟩
  · unfold World.headSetupFor OutputPolicy.decide OutputPolicy.decideSized OutputPolicy.decideVnc
      OutputPolicy.decidePipewire
    rw [found]
    cases policy.ruleFor name with
    | none => rfl
    | some rule => rfl
  · unfold OutputPolicy.decideColor
    rw [found]
    cases policy.ruleFor name with
    | none => rfl
    | some rule => rfl
  · unfold OutputPolicy.hasMirrorOf policyWithoutUngated
    rw [List.any_map]
    rfl
  · unfold OutputPolicy.mirrorRuleForSource policyWithoutUngated
    rw [List.find?_map]
    rfl

private theorem isSome_none {Value Text : Type} {value : Option Value} {text : Option Text}
    (alike : value.isSome = text.isSome) (absent : text = none) : value = none := by
  rw [absent] at alike
  simpa using alike

/-- The rule of a head is made of the first section of its name; no rule has a key that
the gate keeps for drm or for the color manager where they are not there, and the keys of drm
that it lets through configure no head of another backend. -/
theorem accepted_rules {display : F64 → String} {cli : Cli} {settings : Settings}
    {policy : OutputPolicy} (passed : rejectUnported cli settings = none)
    (accepted : (buildOutputPolicy display settings).2 = .ok policy) :
    (∀ name, Option.Rel (RuleBuilt display settings)
        (settings.config.output.find? fun out => out.name == some name) (policy.ruleFor name)) ∧
      (Backend.drm ∉ settings.backends → ∀ rule ∈ policy.rules, WithoutDrm rule) ∧
      (settings.colorManagement = false → ∀ rule ∈ policy.rules, WithoutManager rule) ∧
      ∀ name,
        (∀ kind, World.headSetupFor (policyWithoutUngated policy) kind name =
          World.headSetupFor policy kind name) ∧
        (policyWithoutUngated policy).decideColor name = policy.decideColor name ∧
        (policyWithoutUngated policy).hasMirrorOf name = policy.hasMirrorOf name ∧
        (policyWithoutUngated policy).mirrorRuleForSource name =
          (policy.mirrorRuleForSource name).map withoutUngated := by
  have built := buildOutputPolicy_built accepted
  have outputs := rejectUnported_outputs passed
  refine ⟨fun name => ?_, fun noDrm rule member => ?_, fun off rule member => ?_,
    configured_withoutUngated policy⟩
  · refine forall₂_find? built.rules fun out rule from_out => ?_
    rw [from_out.name]
    simp
  · obtain ⟨out, listed, from_out⟩ := forall₂_mem_right built.rules member
    have clear := outputs out listed
    obtain ⟨eotf, colorimetry, characteristics⟩ := clear.color noDrm
    exact
      { cloneOf := from_out.cloneOf.trans (clear.cloneOf noDrm)
        maxBpc := from_out.maxBpc.trans (clear.maxBpc noDrm)
        eotfMode := isSome_none from_out.color.eotfMode.isSome eotf
        colorimetryMode := isSome_none from_out.color.colorimetryMode.isSome colorimetry
        characteristics := isSome_none from_out.color.characteristics characteristics }
  · obtain ⟨out, listed, from_out⟩ := forall₂_mem_right built.rules member
    have clear := outputs out listed
    refine ⟨from_out.color.iccProfile.trans (clear.iccProfile off), fun mode given => ?_,
      fun mode given => ?_⟩
    · simpa [given] using from_out.color.managedEotf off
    · simpa [given] using from_out.color.managedColorimetry off

/-- Two sections of one name on an x11 session, the first with a key of drm. -/
def twiceSettings : Settings :=
  Resolve.assemble {}
    { output := [{ name := some "screen0", scale := some 2, forceOn := some true },
        { name := some "screen0" }] }
    [.x11] .auto 0xff002244 none none

/-- The first one counts, and its key of drm is without effect. -/
theorem accepted_rules_twice :
    ∃ policy, (buildOutputPolicy (fun _ => "") twiceSettings).2 = .ok policy ∧
      (∀ rule ∈ policy.rules, WithoutDrm rule) ∧
      World.headSetupFor (policyWithoutUngated policy) .x11 "screen0" =
        World.headSetupFor policy .x11 "screen0" ∧
      ∃ out rule, policy.ruleFor "screen0" = some rule ∧ out.scale = some 2 ∧
        rule.forceOn = true ∧ RuleBuilt (fun _ => "") twiceSettings out rule := by
  refine ⟨_, rfl, ?_⟩
  have built := @accepted_rules (fun _ => "") {} twiceSettings _ rfl rfl
  refine ⟨built.2.1 (by decide), (built.2.2.2 "screen0").1 .x11, ?_⟩
  have first := built.1 "screen0"
  generalize named : OutputPolicy.ruleFor _ "screen0" = rule at first
  cases first with
  | some related => exact ⟨_, _, rfl, rfl, related.forceOn, related⟩

end Westonite.Frontend
