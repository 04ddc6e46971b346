import Westonite.Output.World

/-! One head, one output: the enabling of a head outside the DRM path, and the
mirrors that the creation and the resize of a source bring about. -/

set_option autoImplicit false

namespace Westonite.Output

namespace World

/-- `head_setup_for`: `none` leaves the head disabled. -/
def headSetupFor (policy : OutputPolicy) (kind : BackendKind) (name : String) :
    Option HeadSetup :=
  match kind with
  | .headless => (policy.decide name).map fun setup => .windowed setup .headless
  | .x11 => (policy.decideSized name (1024, 600)).map fun setup => .windowed setup .x11
  | .wayland => (policy.decideSized name (1024, 640)).map fun setup => .windowed setup .wayland
  | .vnc => (policy.decideVnc name).map .vnc
  | .pipewire => (policy.decidePipewire name).map .pipewire
  | .drm => none

/-- `apply_mirror_modeline`: the mode of the source at the scale of the mirror. -/
def applyMirrorModeline (w : World) (source output : OutputPtr) : World :=
  match w.outputs source with
  | none => w
  | some src =>
      let mode : Option Mode :=
        if src.nativeModeCopy.width > 0 then some src.nativeModeCopy else src.currentMode
      match mode with
      | none => w.fail
      | some mode =>
          w.setOutput output fun value =>
            let remoteScale := max value.currentScale 1
            let width := mode.width.tdiv remoteScale
            let height := mode.height.tdiv remoteScale
            { value with
              nativeModeCopy := ⟨width, height, mode.refresh⟩
              currentMode := some ⟨width, height, mode.refresh⟩
              currentScale := src.currentScale
              width := width.tdiv src.currentScale
              height := height.tdiv src.currentScale }

/-- The scale and the transform a configurator sets on an output; a mirror is not
resizeable. -/
def configureSetup (setup : HeadSetup) (mirrors : Bool) (value : WestonOutput) : WestonOutput :=
  match setup with
  | .windowed s _ =>
      { value with scale := s.scale, transform := s.transform, configured := some (.inl setup) }
  | .vnc s =>
      let s := { s with resizeable := s.resizeable && !mirrors }
      { value with scale := s.scale, transform := .normal, configured := some (.inl (.vnc s)) }
  | .pipewire s =>
      { value with scale := s.scale, transform := .normal, configured := some (.inl setup) }

variable (answers : Answers) (policy : OutputPolicy)

/-- The configurator of a backend: the lookup of its API and `output_set_size`. -/
def configureHead (w : World) (output : OutputPtr) (setup : HeadSetup) (mirrors : Bool)
    (color : ColorSetup) : Bool × World :=
  let w := w.setOutput output (configureSetup setup mirrors)
  let (api, w) := w.call answers
  if !api then (false, w)
  else
    let (sized, w) := w.call answers
    if !sized then (false, w) else w.applyColor answers color false

/-- A mirror goes over its source, before the backend reads what it mirrors. -/
def placeOutput (w : World) (output : OutputPtr) (mirrorOf : Option OutputPtr) : World :=
  match mirrorOf with
  | some source =>
      let pos := ((w.outputs source).map WestonOutput.pos).getD (0, 0)
      w.setOutput output fun value => { value with mirrorOf := some source, pos }
  | none => w.lazyAlign output

/-- The end of `enable_head`, for an output that is up. -/
def settleOutput (w : World) (head : HeadPtr) (output : OutputPtr)
    (mirrorOf : Option OutputPtr) : World :=
  let w := (w.registerHead head).registerOutput output
  match mirrorOf with
  | some source => w.applyMirrorModeline source output
  | none => w

/-- `enable_head`; with a source, the new output mirrors it. -/
def enableHead (created : OutputPtr → World → World) (w : World) (head : HeadPtr)
    (setup : HeadSetup) (mirrorOf : Option OutputPtr) (color : ColorSetup) : World :=
  match w.createOutput answers head (w.headName head) with
  | (none, w) => w.fail
  | (some output, w) =>
      let w := w.placeOutput output mirrorOf
      let (configured, w) := w.configureHead answers output setup mirrorOf.isSome color
      if !configured then w.fail.destroyOutput output
      else
        let (enabled, w) := w.enable answers created output
        if !enabled then w.fail.destroyOutput output
        else w.settleOutput head output mirrorOf

/-- `mirror_on_output_created`, with the creation of the mirror by `created`. -/
def mirrorWith (created : OutputPtr → World → World) (output : OutputPtr) (w : World) : World :=
  match w.outputs output with
  | none => w
  | some source =>
      if w.backendKind source.backend = some .vnc then w
      else
        match policy.mirrorRuleForSource source.name with
        | none => w
        | some rule =>
            match w.findHeadByName rule.name with
            | none => w
            | some head =>
                if w.headEnabled head then w
                else
                  match ((w.heads head).bind fun value => w.backendKind value.backend).bind
                      fun kind => headSetupFor policy kind rule.name with
                  | none => w
                  | some setup =>
                      (w.enableHead answers created head setup (some output)
                        (policy.decideColor rule.name)).resetDeviceChanged head

/-- `mirror_on_output_created`. A mirror that is no remote output can be a source
in turn; every such turn enables one more head. -/
def mirrorOnOutputCreated : Nat → OutputPtr → World → World
  | 0, _, w => w
  | left + 1, output, w => w.mirrorWith answers policy (mirrorOnOutputCreated left) output

/-- The listeners of `output_created_signal`. -/
def outputCreated (output : OutputPtr) (w : World) : World :=
  mirrorOnOutputCreated answers policy (w.headList.length + 1) output w

/-- `mirror_on_output_resized`. -/
def mirrorOnOutputResized (w : World) (resized : OutputPtr) : World :=
  match policy.mirrorRuleForSource (w.outputName resized) with
  | none => w
  | some rule =>
      match (w.findHeadByName rule.name).bind w.outputOf with
      | none => w
      | some remote =>
          if (w.outputs remote).any fun value => value.mirrorOf == some resized then
            let pos := ((w.outputs resized).map WestonOutput.pos).getD (0, 0)
            (w.setOutput remote fun value => { value with pos }).applyMirrorModeline resized remote
          else w

/-- `disable_head`. -/
def disableHead (w : World) (head : HeadPtr) : World :=
  match w.outputOf head with
  | none => w
  | some output => w.destroyOutput output

end World

end Westonite.Output
