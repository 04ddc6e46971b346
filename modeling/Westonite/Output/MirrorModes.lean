import Westonite.Output.MirrorRuns

/-! The mode a mirror is given: that of its source at the scale the mirror has
when it is set. -/

set_option autoImplicit false

namespace Westonite.Output

open Library

/-- The mode of a source that a mirror takes over. -/
def WestonOutput.usableMode (src : WestonOutput) : Option Mode :=
  if src.nativeModeCopy.width > 0 then some src.nativeModeCopy else src.currentMode

/-- A mode at a scale. -/
def Mode.scaled (mode : Mode) (scale : Int) : Mode :=
  ⟨mode.width.tdiv scale, mode.height.tdiv scale, mode.refresh⟩

structure Mode.Positive (mode : Mode) : Prop where
  width : 1 ≤ mode.width
  height : 1 ≤ mode.height

def HeadSetup.scale : HeadSetup → Int
  | .windowed setup _ => setup.scale
  | .vnc setup => setup.scale
  | .pipewire setup => setup.scale

/-- The scale a head is configured with. On the windowed backends the command line
goes before the rule. -/
def OutputPolicy.headScale (policy : OutputPolicy) (kind : BackendKind) (name : String) : Int :=
  let ruled := (policy.ruleFor name).bind OutputRule.scale
  match kind with
  | .headless | .x11 | .wayland => policy.cli.scale.getD (ruled.getD policy.defaultScale)
  | .vnc | .pipewire | .drm => ruled.getD 1

/-- The validation of the scales. -/
structure OutputPolicy.Validated (policy : OutputPolicy) : Prop where
  rules : ∀ rule ∈ policy.rules, ∀ scale, rule.scale = some scale → 0 < scale
  cli : ∀ scale, policy.cli.scale = some scale → 0 < scale
  default : 0 < policy.defaultScale

/-- No output is there yet of those to come. -/
def World.Allocated (w : World) : Prop := ∀ output, w.nextOutput ≤ output → w.outputs output = none

/-! ### Scales -/

private theorem headSetupFor_scale {policy : OutputPolicy} {kind : BackendKind} {name : String}
    {setup : HeadSetup} (decided : World.headSetupFor policy kind name = some setup) :
    setup.scale = policy.headScale kind name := by
  have sized : ∀ (size : Int × Int) (api : WindowedApi),
      (policy.decideSized name size).map (fun setup => HeadSetup.windowed setup api) = some setup →
        setup.scale = policy.cli.scale.getD
          (((policy.ruleFor name).bind OutputRule.scale).getD policy.defaultScale) := by
    intro size api decided
    unfold OutputPolicy.decideSized at decided
    dsimp only at decided
    split at decided
    · cases decided
    · cases decided
      rfl
  cases kind with
  | headless => exact sized policy.defaultSize .headless decided
  | x11 => exact sized _ .x11 decided
  | wayland => exact sized _ .wayland decided
  | vnc =>
      unfold World.headSetupFor OutputPolicy.decideVnc at decided
      dsimp only at decided
      split at decided
      · cases decided
      · cases decided
        rfl
  | pipewire =>
      unfold World.headSetupFor OutputPolicy.decidePipewire at decided
      dsimp only at decided
      split at decided
      · cases decided
      · cases decided
        rfl
  | drm => cases decided

private theorem OutputPolicy.Validated.headScale {policy : OutputPolicy}
    (validated : policy.Validated)
    (kind : BackendKind) (name : String) : 0 < policy.headScale kind name := by
  have ruled : ∀ {default : Int}, 0 < default →
      0 < ((policy.ruleFor name).bind OutputRule.scale).getD default := by
    intro default positive
    cases found : (policy.ruleFor name).bind OutputRule.scale with
    | none => exact positive
    | some scale =>
        obtain ⟨rule, named, scaled⟩ := Option.bind_eq_some_iff.mp found
        exact validated.rules rule (List.mem_of_find?_eq_some named) scale scaled
  have windowed : 0 < policy.cli.scale.getD
      (((policy.ruleFor name).bind OutputRule.scale).getD policy.defaultScale) := by
    cases given : policy.cli.scale with
    | none => exact ruled validated.default
    | some scale => exact validated.cli scale given
  cases kind with
  | headless | x11 | wayland => exact windowed
  | vnc | pipewire | drm => exact ruled Int.one_pos

private theorem Mode.scaled_positive {mode : Mode} (positive : mode.Positive) {scale : Int}
    (divides : 0 < scale) :
    (mode.scaled scale).Positive ↔ scale ≤ mode.width ∧ scale ≤ mode.height := by
  have axis : ∀ {size : Int}, 1 ≤ size → (1 ≤ size.tdiv scale ↔ scale ≤ size) := by
    intro size large
    rw [Int.tdiv_eq_ediv_of_nonneg (by omega), Int.le_ediv_iff_mul_le divides, Int.one_mul]
  constructor
  · intro scaled
    exact ⟨(axis positive.width).mp scaled.width, (axis positive.height).mp scaled.height⟩
  · intro room
    exact ⟨(axis positive.width).mpr room.1, (axis positive.height).mpr room.2⟩

/-! ### One call -/

/-- A mirror of a source in a mode. -/
def WestonOutput.mirroring (value src : WestonOutput) (mode : Mode) : WestonOutput :=
  { value with
    nativeModeCopy := mode.scaled (max value.currentScale 1)
    currentMode := some (mode.scaled (max value.currentScale 1))
    currentScale := src.currentScale
    width := (mode.scaled (max value.currentScale 1)).width.tdiv src.currentScale
    height := (mode.scaled (max value.currentScale 1)).height.tdiv src.currentScale }

private theorem applyMirrorModeline_outputs {w : World} {source : OutputPtr} {src : WestonOutput}
    (there : w.outputs source = some src) {mode : Mode} (usable : src.usableMode = some mode)
    (output : OutputPtr) :
    (w.applyMirrorModeline source output).outputs output =
      (w.outputs output).map fun value => value.mirroring src mode := by
  unfold WestonOutput.usableMode at usable
  unfold World.applyMirrorModeline
  rw [there]
  dsimp only
  rw [usable]
  exact Function.update_self ..

private theorem registerHead_outputs (w : World) (head : HeadPtr) :
    (w.registerHead head).outputs = w.outputs := by
  unfold World.registerHead
  split <;> rfl

private theorem registerOutput_outputs (w : World) (output : OutputPtr) :
    (w.registerOutput output).outputs = w.outputs := by
  unfold World.registerOutput
  split <;> rfl

private theorem configureHead_outputs (w : World) (answers : Answers) (output : OutputPtr)
    (setup : HeadSetup) (mirrors : Bool) (color : ColorSetup) :
    (w.configureHead answers output setup mirrors color).2.outputs =
        (w.setOutput output (World.configureSetup setup mirrors)).outputs ∧
      (w.configureHead answers output setup mirrors color).2.nextOutput = w.nextOutput := by
  unfold World.configureHead
  dsimp only
  split
  · exact ⟨rfl, rfl⟩
  · split
    · exact ⟨rfl, rfl⟩
    · obtain ⟨calls, same⟩ := applyColor_calls answers
        (((w.setOutput output (World.configureSetup setup mirrors)).call answers).2.call
          answers).2 color false
      rw [same]
      exact ⟨rfl, rfl⟩

/-! ### Enabling -/

private theorem destroyOutput_outputs_self (w : World) (output : OutputPtr) :
    (w.destroyOutput output).outputs output = none :=
  Function.update_self ..

/-- A new output is placed over its source and configured; the source stays. -/
private theorem configured_outputs {w : World} {source output : OutputPtr} {src : WestonOutput}
    (there : w.outputs source = some src) (old : source < output) (fresh : w.nextOutput = output)
    (answers : Answers) (head : HeadPtr) (name : String) (backend : BackendPtr)
    (setup : HeadSetup) (color : ColorSetup) :
    let after := (((w.addOutput head name backend).placeOutput output
      (some source)).configureHead answers output setup true color).2
    after.outputs source = some src ∧ after.nextOutput = output + 1 ∧
      ∃ value, after.outputs output = some value ∧ value.scale = setup.scale := by
  dsimp only
  obtain ⟨outputs, nextOutput⟩ := configureHead_outputs ((w.addOutput head name
    backend).placeOutput output (some source)) answers output setup true color
  have apart : source ≠ output := Nat.ne_of_lt old
  have added := addOutput_outputs w head name backend
  rw [outputs, nextOutput]
  refine ⟨?_, congrArg Nat.succ fresh, ?_⟩
  · change Function.update (Function.update (w.addOutput head name backend).outputs
      output _) output _ source = _
    rw [Function.update_of_ne apart, Function.update_of_ne apart, added,
      if_neg (fresh ▸ apart), there]
  · obtain ⟨placed, found⟩ : ∃ placed, ((w.addOutput head name backend).placeOutput output
        (some source)).outputs output = some placed := by
      apply Option.isSome_iff_exists.mp
      change (Function.update (w.addOutput head name backend).outputs output _
        output).isSome = true
      rw [Function.update_self, Option.isSome_map, added, if_pos fresh.symm, Option.isSome_some]
    refine ⟨World.configureSetup setup true placed, ?_, ?_⟩
    · exact (Function.update_self ..).trans (congrArg (Option.map _) found)
    · cases setup <;> rfl

/-- A mirror that is up has the mode of its source at the scale of its setup. -/
private theorem enableHead_mirror {w : World} (allocated : w.Allocated) {source : OutputPtr}
    {src : WestonOutput} (there : w.outputs source = some src) {mode : Mode}
    (usable : src.usableMode = some mode) {created : OutputPtr → World → World}
    (listens : Around.Listens created) (answers : Answers) (head : HeadPtr) (setup : HeadSetup)
    (color : ColorSetup) {out : WestonOutput}
    (up : (w.enableHead answers created head setup (some source) color).outputs w.nextOutput =
      some out) :
    out.nativeModeCopy = mode.scaled (max setup.scale 1) ∧ out.currentScale = src.currentScale := by
  have old : source < w.nextOutput := by
    by_contra new
    rw [allocated source (Nat.le_of_not_lt new)] at there
    cases there
  unfold World.enableHead at up
  rcases createOutput_cases w answers head (w.headName head) with failed | ⟨value, _, _, made⟩
  · rw [failed] at up
    exact absurd ((allocated w.nextOutput (Nat.le_refl _)).symm.trans up) nofun
  · rw [made] at up
    obtain ⟨sourceStays, nextOutput, configuredValue, new, scaled⟩ :=
      @configured_outputs (w.call answers).2 source w.nextOutput src there old rfl answers head
        (w.headName head) value.backend setup color
    dsimp only [Option.isSome_some] at up
    generalize ((((w.call answers).2.addOutput head (w.headName head) value.backend).placeOutput
      w.nextOutput (some source)).configureHead answers w.nextOutput setup true color) =
        configured at up sourceStays nextOutput new
    split at up
    · exact absurd ((destroyOutput_outputs_self _ _).symm.trans up) nofun
    · rcases enable_cases configured.2 answers created w.nextOutput with
        ⟨down, _⟩ | ⟨enabled, found, thereNew, _, after⟩
      · rw [down] at up
        exact absurd ((destroyOutput_outputs_self _ _).symm.trans up) nofun
      · rw [enabled, after] at up
        have around := listens w.nextOutput ((configured.2.call answers).2.markEnabled
          w.nextOutput (answers.geometry configured.2.calls))
        generalize created w.nextOutput ((configured.2.call answers).2.markEnabled
          w.nextOutput (answers.geometry configured.2.calls)) = announced at around up
        have marked := markEnabled_outputs (configured.2.call answers).2 w.nextOutput
        have sourceAfter : announced.outputs source = some src := by
          have known : source < configured.2.nextOutput :=
            nextOutput ▸ Nat.lt_succ_of_lt old
          rw [around.outputs source known, marked, if_neg (Nat.ne_of_lt old)]
          exact sourceStays
        have knownNew : w.nextOutput < configured.2.nextOutput := nextOutput ▸ Nat.lt_succ_self _
        have newAfter := around.outputs w.nextOutput knownNew
        rw [marked, if_pos rfl] at newAfter
        change announced.outputs w.nextOutput = (configured.2.outputs w.nextOutput).map _ at newAfter
        rw [new, Option.map_some] at newAfter
        unfold World.settleOutput at up
        dsimp only at up
        rw [if_neg (by decide), applyMirrorModeline_outputs (by
          rw [registerOutput_outputs, registerHead_outputs]
          exact sourceAfter) usable, registerOutput_outputs, registerHead_outputs, newAfter] at up
        cases up
        rw [← scaled]
        exact ⟨rfl, rfl⟩

/-- The head that the listener of a created output enables as its mirror. -/
structure MirrorHead (policy : OutputPolicy) (w : World) (src : WestonOutput) (rule : OutputRule)
    (kind : BackendKind) : Prop where
  ruled : policy.mirrorRuleForSource src.name = some rule
  head : ∃ head value, w.findHeadByName rule.name = some head ∧ w.heads head = some value ∧
    w.backendKind value.backend = some kind

private theorem mirrorWith_mirror {policy : OutputPolicy} {w : World} (allocated : w.Allocated)
    {source : OutputPtr} {src : WestonOutput} (there : w.outputs source = some src) {mode : Mode}
    (usable : src.usableMode = some mode) {created : OutputPtr → World → World}
    (listens : Around.Listens created) (answers : Answers) {out : WestonOutput}
    (up : (w.mirrorWith answers policy created source).outputs w.nextOutput = some out) :
    ∃ rule kind, MirrorHead policy w src rule kind ∧
      out.nativeModeCopy = mode.scaled (max (policy.headScale kind rule.name) 1) ∧
      out.currentScale = src.currentScale := by
  have absent : w.outputs w.nextOutput ≠ some out := by
    rw [allocated w.nextOutput (Nat.le_refl _)]
    exact nofun
  unfold World.mirrorWith at up
  rw [there] at up
  dsimp only at up
  split at up
  · exact absurd up absent
  · split at up
    · exact absurd up absent
    · rename_i rule ruled
      split at up
      · exact absurd up absent
      · rename_i head named
        split at up
        · exact absurd up absent
        · split at up
          · exact absurd up absent
          · rename_i setup decided
            obtain ⟨kind, onKind, decided⟩ := Option.bind_eq_some_iff.mp decided
            obtain ⟨value, found, isKind⟩ := Option.bind_eq_some_iff.mp onKind
            obtain ⟨native, scale⟩ := enableHead_mirror allocated there usable listens answers head
              setup (policy.decideColor rule.name) up
            rw [headSetupFor_scale decided] at native
            exact ⟨rule, kind, ⟨ruled, head, value, named, found, isKind⟩, native, scale⟩

/-! ### Resizing -/

private theorem mirrorOnOutputResized_mirror {policy : OutputPolicy} {w : World}
    {source : OutputPtr}
    {src : WestonOutput} (there : w.outputs source = some src) {mode : Mode}
    (usable : src.usableMode = some mode) {rule : OutputRule}
    (ruled : policy.mirrorRuleForSource src.name = some rule) {head : HeadPtr}
    (named : w.findHeadByName rule.name = some head) {remote : OutputPtr}
    (on : w.outputOf head = some remote) {value : WestonOutput}
    (found : w.outputs remote = some value) (mirrors : value.mirrorOf = some source) :
    ∃ out, (w.mirrorOnOutputResized policy source).outputs remote = some out ∧
      out.nativeModeCopy = mode.scaled (max value.currentScale 1) ∧
      out.currentScale = src.currentScale := by
  have name : w.outputName source = src.name := by
    unfold World.outputName
    rw [there]
    rfl
  unfold World.mirrorOnOutputResized
  rw [name, ruled]
  dsimp only
  rw [named, Option.bind_some, on]
  dsimp only
  rw [found, Option.any_some, mirrors, beq_self_eq_true, if_pos rfl]
  -- the source may have been moved too, with the same mode
  let moved := w.setOutput remote fun value =>
    { value with pos := ((w.outputs source).map WestonOutput.pos).getD (0, 0) }
  obtain ⟨after, thereAfter, sameMode, sameScale⟩ : ∃ after, moved.outputs source = some after ∧
      after.usableMode = some mode ∧ after.currentScale = src.currentScale := by
    by_cases self : source = remote
    · subst self
      refine ⟨_, (Function.update_self ..).trans (congrArg (Option.map _) there), ?_, rfl⟩
      exact usable
    · exact ⟨src, (Function.update_of_ne self ..).trans there, usable, rfl⟩
  have movedRemote : moved.outputs remote = some { value with
      pos := ((w.outputs source).map WestonOutput.pos).getD (0, 0) } :=
    (Function.update_self ..).trans (congrArg (Option.map _) found)
  have set := applyMirrorModeline_outputs thereAfter sameMode remote
  rw [movedRemote, Option.map_some] at set
  exact ⟨_, set, rfl, sameScale⟩

/-! ### Empty modes -/

/-- The mode a mirror is given is not empty if and only if its scale fits into the mode
of the source: the configured scale when it is enabled, its current scale when the
source is resized. -/
theorem mirror_mode_positive_iff {policy : OutputPolicy} (validated : policy.Validated)
    (answers : Answers) {w : World} {source : OutputPtr} {src : WestonOutput}
    (there : w.outputs source = some src) {mode : Mode} (usable : src.usableMode = some mode)
    (positive : mode.Positive) :
    (∀ created out, Around.Listens created → w.Allocated →
      (w.mirrorWith answers policy created source).outputs w.nextOutput = some out →
      ∃ rule kind, MirrorHead policy w src rule kind ∧ out.currentScale = src.currentScale ∧
        (out.nativeModeCopy.Positive ↔
          policy.headScale kind rule.name ≤ mode.width ∧
            policy.headScale kind rule.name ≤ mode.height)) ∧
    ∀ rule head remote value, policy.mirrorRuleForSource src.name = some rule →
      w.findHeadByName rule.name = some head → w.outputOf head = some remote →
      w.outputs remote = some value → value.mirrorOf = some source →
      ∃ out, (w.mirrorOnOutputResized policy source).outputs remote = some out ∧
        out.currentScale = src.currentScale ∧
        (out.nativeModeCopy.Positive ↔
          max value.currentScale 1 ≤ mode.width ∧ max value.currentScale 1 ≤ mode.height) := by
  constructor
  · intro created out listens allocated up
    obtain ⟨rule, kind, is, native, scale⟩ :=
      mirrorWith_mirror allocated there usable listens answers up
    have divides := validated.headScale kind rule.name
    refine ⟨rule, kind, is, scale, ?_⟩
    rw [native, Int.max_eq_left (by omega)]
    exact Mode.scaled_positive positive divides
  · intro rule head remote value ruled named on found mirrors
    obtain ⟨out, shown, native, scale⟩ :=
      mirrorOnOutputResized_mirror there usable ruled named on found mirrors
    refine ⟨out, shown, scale, ?_⟩
    rw [native]
    exact Mode.scaled_positive positive (by omega)

/-- A remote head at a scale above the size of the panel it mirrors. -/
def hugeConfig : Config where
  policy :=
    { OutputPolicy.defaults 1024 640 with
      rules := [{ OutputRule.named "vnc" with mirrorOf := some "eDP-1", scale := some 2000 }] }
  currentMode := false
  requireOutputs := .any

private theorem hugeConfig_validated : hugeConfig.policy.Validated where
  rules rule member scale scaled := by
    obtain rfl := List.mem_singleton.mp member
    cases scaled
    decide
  cli _ given := by cases given
  default := by decide

/-- A mirror that is up takes the scale of its source, so that a resize gives it a size. -/
theorem mirror_mode_positive_iff_resized :
    ∃ (w : World) (out : WestonOutput),
      (w.mirrorOnOutputResized hugeConfig.policy 0).outputs 1 = some out ∧
      out.nativeModeCopy.Positive := by
  let src : WestonOutput :=
    { WestonOutput.created "eDP-1" 0 with
      enabled := true
      currentScale := 1
      nativeModeCopy := ⟨1280, 720, 60000⟩ }
  let value : WestonOutput :=
    { WestonOutput.created "vnc" 1 with enabled := true, mirrorOf := some 0, currentScale := 1 }
  let w : World :=
    { World.new [(0, .drm), (1, .vnc)] false with
      heads := fun head => if head = 1 then some ⟨"vnc", 1, true, false, false, .normal, some 1⟩
        else none
      headList := [1]
      outputs := fun output => if output = 0 then some src else if output = 1 then some value
        else none
      nextOutput := 2 }
  obtain ⟨_, resized⟩ := mirror_mode_positive_iff hugeConfig_validated .panel
    (show w.outputs 0 = some src from rfl)
    (show src.usableMode = some ⟨1280, 720, 60000⟩ from rfl) ⟨by decide, by decide⟩
  obtain ⟨out, shown, _, fits⟩ := resized _ 1 1 value rfl rfl rfl rfl rfl
  exact ⟨w, out, shown, fits.mpr (by decide)⟩

/-- The mirror of a panel of 1920 by 1080 comes up without a size. -/
theorem mirror_mode_empty :
    ∃ (labels : List Label) (final : Machine), hugeConfig.policy.Validated ∧
      Run (Machine.Step .panel hugeConfig) (.start [(0, .drm), (1, .vnc)] false) labels final ∧
      (final.world.outputs 1).bind WestonOutput.mirrorOf = some 0 ∧
      (final.world.outputs 0).bind WestonOutput.usableMode = some ⟨1920, 1080, 60000⟩ ∧
      (final.world.outputs 1).map WestonOutput.nativeModeCopy = some ⟨0, 0, 60000⟩ := by
  let labels : List Label :=
    [.headAdded 0 "eDP-1" 0 .normal, .headAdded 1 "vnc" 1 .normal, .headChanged 0 true false,
      .headChanged 1 true false, .flush, .next, .next, .next]
  have reached : (follow (Machine.step .panel hugeConfig)
      (.start [(0, .drm), (1, .vnc)] false) labels).map (fun m =>
        ((m.world.outputs 1).bind WestonOutput.mirrorOf,
          (m.world.outputs 0).bind WestonOutput.usableMode,
          (m.world.outputs 1).map WestonOutput.nativeModeCopy)) =
      some (some 0, some ⟨1920, 1080, 60000⟩, some ⟨0, 0, 60000⟩) := by
    decide +kernel
  obtain ⟨final, found, same⟩ := Option.map_eq_some_iff.mp reached
  obtain ⟨mirrors, same⟩ := Prod.mk.inj same
  obtain ⟨usable, native⟩ := Prod.mk.inj same
  exact ⟨labels, final, hugeConfig_validated, run_of_follow found, mirrors, usable, native⟩

end Westonite.Output
