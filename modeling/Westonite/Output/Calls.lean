import Westonite.Output.Layoutput

/-! The calls on heads and outputs: what each one changes, and what holds after
the functions made of them once it holds after every call. -/

set_option autoImplicit false

namespace Westonite.Output

/-! ### Reading back -/

theorem setHead_heads (w : World) (head other : HeadPtr) (change : WestonHead → WestonHead) :
    (w.setHead head change).heads other =
      if other = head then (w.heads head).map change else w.heads other :=
  Function.update_apply w.heads head _ other

theorem setHead_outputOf (w : World) (head other : HeadPtr) (change : WestonHead → WestonHead) :
    (w.setHead head change).outputOf other =
      if other = head then (w.heads head).bind fun value => (change value).output
      else w.outputOf other := by
  unfold World.outputOf
  rw [setHead_heads]
  split
  · cases w.heads head <;> rfl
  · rfl

theorem resetDeviceChanged_outputOf (w : World) (head other : HeadPtr) :
    (w.resetDeviceChanged head).outputOf other = w.outputOf other := by
  unfold World.resetDeviceChanged
  rw [setHead_outputOf]
  split
  · rename_i here
    rw [here]
    rfl
  · rfl

theorem destroyOutput_outputs (w : World) (output other : OutputPtr) :
    (w.destroyOutput output).outputs other = if other = output then none else w.outputs other :=
  Function.update_apply ..

theorem destroyOutput_outputOf (w : World) (output : OutputPtr) (head : HeadPtr) :
    (w.destroyOutput output).outputOf head =
      if w.outputOf head = some output then none else w.outputOf head := by
  unfold World.outputOf World.destroyOutput
  dsimp only
  cases w.heads head with
  | none => rfl
  | some value =>
      rw [Option.map_some, Option.bind_some, Option.bind_some]
      split <;> rfl

/-- The colour slice only makes calls. -/
theorem applyColor_calls (answers : Answers) (w : World) (color : ColorSetup) (full : Bool) :
    ∃ calls, (w.applyColor answers color full).2 = { w with calls } := by
  have profile : ∃ calls, (w.applyProfile answers color).2 = { w with calls } := by
    unfold World.applyProfile
    split
    · exact ⟨_, rfl⟩
    · split
      · exact ⟨_, rfl⟩
      · split
        · exact ⟨_, rfl⟩
        · dsimp only
          split <;> exact ⟨_, rfl⟩
  obtain ⟨calls, same⟩ := profile
  unfold World.applyColor
  dsimp only
  rw [same]
  split
  · exact ⟨_, rfl⟩
  · split
    · exact ⟨_, rfl⟩
    · split <;> exact ⟨_, rfl⟩

/-- No output is created, or a new one for a head that was free. -/
theorem createOutput_cases (w : World) (answers : Answers) (head : HeadPtr) (name : String) :
    w.createOutput answers head name = (none, (w.call answers).2) ∨
    ∃ value, w.heads head = some value ∧ value.output = none ∧
      w.createOutput answers head name =
        (some w.nextOutput, (w.call answers).2.addOutput head name value.backend) := by
  unfold World.createOutput
  dsimp only
  cases found : (w.call answers).2.heads head with
  | none => exact .inl rfl
  | some value =>
      dsimp only
      split
      · rename_i granted
        simp only [Bool.and_eq_true, Option.isNone_iff_eq_none] at granted
        exact .inr ⟨value, found, granted.2, rfl⟩
      · exact .inl rfl

theorem addOutput_outputOf {w : World} {head : HeadPtr} {value : WestonHead}
    (found : w.heads head = some value) (name : String) (other : HeadPtr) :
    (w.addOutput head name value.backend).outputOf other =
      if other = head then some w.nextOutput else w.outputOf other := by
  refine (setHead_outputOf w head other _).trans ?_
  rw [found]
  rfl

theorem addOutput_outputs (w : World) (head : HeadPtr) (name : String) (backend : BackendPtr)
    (other : OutputPtr) :
    (w.addOutput head name backend).outputs other =
      if other = w.nextOutput then some (.created name backend) else w.outputs other :=
  Function.update_apply w.outputs w.nextOutput _ other

theorem markEnabled_outputs (w : World) (output other : OutputPtr) (geometry : Geometry) :
    (w.markEnabled output geometry).outputs other =
      if other = output then (w.outputs output).map fun value =>
        { value with
          enabled := true
          currentScale := value.scale
          nativeModeCopy := geometry.nativeModeCopy
          currentMode := geometry.currentMode
          width := geometry.width
          height := geometry.height }
      else w.outputs other :=
  Function.update_apply w.outputs output _ other

/-- An output does not come up, or it was down, has heads and is announced. -/
theorem enable_cases (w : World) (answers : Answers) (created : OutputPtr → World → World)
    (output : OutputPtr) :
    ((w.enable answers created output).1 = false ∧
      (w.enable answers created output).2 = (w.call answers).2) ∨
    ((w.enable answers created output).1 = true ∧
      ∃ value, w.outputs output = some value ∧ value.enabled = false ∧
        (w.enable answers created output).2 =
          created output ((w.call answers).2.markEnabled output (answers.geometry w.calls))) := by
  unfold World.enable
  dsimp only
  cases found : (w.call answers).2.outputs output with
  | none => exact .inl ⟨rfl, rfl⟩
  | some value =>
      dsimp only
      split
      · rename_i granted
        simp only [Bool.and_eq_true, Bool.not_eq_true'] at granted
        exact .inr ⟨rfl, value, found, granted.1.2, rfl⟩
      · exact .inl ⟨rfl, rfl⟩

/-- What the listener of a created output does: nothing, or a mirror of the output
on the head that its rule names. -/
inductive World.MirrorMade (answers : Answers) (policy : OutputPolicy)
    (created : OutputPtr → World → World) (output : OutputPtr) (w : World) : World → Prop where
  | none : MirrorMade answers policy created output w w
  | enabled (source : WestonOutput) (rule : OutputRule) (head : HeadPtr) (setup : HeadSetup)
      (there : w.outputs output = some source)
      (ruled : policy.mirrorRuleForSource source.name = some rule)
      (named : w.findHeadByName rule.name = some head) (down : w.headEnabled head = false)
      (other : ∀ value, w.heads head = some value → w.backendKind value.backend ≠ some .drm) :
      MirrorMade answers policy created output w
        ((w.enableHead answers created head setup (some output)
          (policy.decideColor rule.name)).resetDeviceChanged head)

theorem mirrorWith_made (answers : Answers) (policy : OutputPolicy)
    (created : OutputPtr → World → World) (output : OutputPtr) (w : World) :
    w.MirrorMade answers policy created output (w.mirrorWith answers policy created output) := by
  unfold World.mirrorWith
  cases there : w.outputs output with
  | none => exact .none
  | some source =>
      dsimp only
      split
      · exact .none
      · split
        · exact .none
        · rename_i rule ruled
          split
          · exact .none
          · rename_i head named
            split
            · exact .none
            · rename_i down
              split
              · exact .none
              · rename_i setup found
                refine .enabled source rule head setup there ruled named (by simpa using down) ?_
                intro value isHead drm
                rw [isHead, Option.bind_some, drm, Option.bind_some] at found
                cases found

/-! ### From the calls to the functions -/

/-- The parts of the world that calls on heads and outputs are about. -/
structure SameParts (w after : World) : Prop where
  outputs : after.outputs = w.outputs
  nextOutput : after.nextOutput = w.nextOutput
  heads : after.heads = w.heads
  cells : after.cells = w.cells
  nextCell : after.nextCell = w.nextCell
  headList : after.headList = w.headList
  backends : after.backends = w.backends
  layoutputs : after.layoutputs = w.layoutputs

/-- Every call keeps the property, when outputs change or go only from `bound` on. -/
structure CallRules (bound : OutputPtr) (kept : World → Prop) : Prop where
  bounded : ∀ {w}, kept w → bound ≤ w.nextOutput
  same : ∀ {w after}, kept w → SameParts w after → kept after
  setOutput : ∀ {w output}, kept w → bound ≤ output →
    ∀ change, kept (w.setOutput output change)
  resetDeviceChanged : ∀ {w}, kept w → ∀ head, kept (w.resetDeviceChanged head)
  addOutput : ∀ {w head value}, kept w → w.heads head = some value → value.output = none →
    ∀ name, kept (w.addOutput head name value.backend)
  destroyOutput : ∀ {w output}, kept w → bound ≤ output → kept (w.destroyOutput output)

namespace CallRules

variable {bound : OutputPtr} {kept : World → Prop} {w : World}

theorem call (rules : CallRules bound kept) (holds : kept w) (answers : Answers) :
    kept (w.call answers).2 :=
  rules.same holds ⟨rfl, rfl, rfl, rfl, rfl, rfl, rfl, rfl⟩

theorem fail (rules : CallRules bound kept) (holds : kept w) : kept w.fail :=
  rules.same holds ⟨rfl, rfl, rfl, rfl, rfl, rfl, rfl, rfl⟩

theorem registerHead (rules : CallRules bound kept) (holds : kept w) (head : HeadPtr) :
    kept (w.registerHead head) := by
  unfold World.registerHead
  split
  · exact holds
  · exact rules.same holds ⟨rfl, rfl, rfl, rfl, rfl, rfl, rfl, rfl⟩

theorem registerOutput (rules : CallRules bound kept) (holds : kept w) (output : OutputPtr) :
    kept (w.registerOutput output) := by
  unfold World.registerOutput
  split
  · exact holds
  · exact rules.same holds ⟨rfl, rfl, rfl, rfl, rfl, rfl, rfl, rfl⟩

theorem applyColor (rules : CallRules bound kept) (holds : kept w) (answers : Answers)
    (color : ColorSetup) (full : Bool) : kept (w.applyColor answers color full).2 := by
  obtain ⟨calls, same⟩ := applyColor_calls answers w color full
  rw [same]
  exact rules.same holds ⟨rfl, rfl, rfl, rfl, rfl, rfl, rfl, rfl⟩

theorem createOutput (rules : CallRules bound kept) (holds : kept w) (answers : Answers)
    (head : HeadPtr) (name : String) : kept (w.createOutput answers head name).2 := by
  have called := rules.call holds answers
  rcases createOutput_cases w answers head name with none | ⟨value, found, free, made⟩
  · rw [none]
    exact called
  · rw [made]
    exact rules.addOutput called found free name

theorem markEnabled (rules : CallRules bound kept) (holds : kept w) {output : OutputPtr}
    (new : bound ≤ output) (geometry : Geometry) : kept (w.markEnabled output geometry) :=
  rules.same (rules.setOutput holds new _) ⟨rfl, rfl, rfl, rfl, rfl, rfl, rfl, rfl⟩

theorem enable (rules : CallRules bound kept) (holds : kept w) {output : OutputPtr}
    (new : bound ≤ output) {created : OutputPtr → World → World}
    (listens : ∀ output w, kept w → kept (created output w)) (answers : Answers) :
    kept (w.enable answers created output).2 := by
  have called := rules.call holds answers
  rcases enable_cases w answers created output with ⟨_, down⟩ | ⟨_, _, _, _, up⟩
  · rw [down]
    exact called
  · rw [up]
    exact listens output _ (rules.markEnabled called new _)

theorem configureHead (rules : CallRules bound kept) (holds : kept w) {output : OutputPtr}
    (new : bound ≤ output) (answers : Answers) (setup : HeadSetup) (mirrors : Bool)
    (color : ColorSetup) : kept (w.configureHead answers output setup mirrors color).2 := by
  have api := rules.call (rules.setOutput holds new (World.configureSetup setup mirrors)) answers
  have sized := rules.call api answers
  unfold World.configureHead
  dsimp only
  split
  · exact api
  · split
    · exact sized
    · exact rules.applyColor sized answers color false

theorem applyMirrorModeline (rules : CallRules bound kept) (holds : kept w)
    {output : OutputPtr} (new : bound ≤ output) (source : OutputPtr) :
    kept (w.applyMirrorModeline source output) := by
  unfold World.applyMirrorModeline
  split
  · exact holds
  · dsimp only
    split
    · exact rules.fail holds
    · exact rules.setOutput holds new _

theorem placeOutput (rules : CallRules bound kept) (holds : kept w) {output : OutputPtr}
    (new : bound ≤ output) (mirrorOf : Option OutputPtr) :
    kept (w.placeOutput output mirrorOf) := by
  cases mirrorOf with
  | none => exact rules.setOutput holds new _
  | some source => exact rules.setOutput holds new _

theorem settleOutput (rules : CallRules bound kept) (holds : kept w) {output : OutputPtr}
    (new : bound ≤ output) (head : HeadPtr) (mirrorOf : Option OutputPtr) :
    kept (w.settleOutput head output mirrorOf) := by
  have registered := rules.registerOutput (rules.registerHead holds head) output
  cases mirrorOf with
  | none => exact registered
  | some source => exact rules.applyMirrorModeline registered new source

theorem enableHead (rules : CallRules bound kept) (holds : kept w)
    {created : OutputPtr → World → World}
    (listens : ∀ output w, kept w → kept (created output w)) (answers : Answers)
    (head : HeadPtr) (setup : HeadSetup) (mirrorOf : Option OutputPtr) (color : ColorSetup) :
    kept (w.enableHead answers created head setup mirrorOf color) := by
  have new := rules.bounded holds
  have made := rules.createOutput holds answers head (w.headName head)
  unfold World.enableHead
  rcases createOutput_cases w answers head (w.headName head) with none | ⟨value, _, _, some⟩
  · rw [none] at made ⊢
    exact rules.fail made
  · rw [some] at made ⊢
    have placed := rules.placeOutput made new mirrorOf
    have configured := rules.configureHead placed new answers setup mirrorOf.isSome color
    dsimp only at configured ⊢
    split
    · exact rules.destroyOutput (rules.fail configured) new
    · have enabled := rules.enable configured new listens answers
      split
      · exact rules.destroyOutput (rules.fail enabled) new
      · exact rules.settleOutput enabled new head mirrorOf

theorem mirrorWith (rules : CallRules bound kept) (holds : kept w)
    {created : OutputPtr → World → World}
    (listens : ∀ output w, kept w → kept (created output w)) (answers : Answers)
    (policy : OutputPolicy) (output : OutputPtr) :
    kept (w.mirrorWith answers policy created output) := by
  have made := mirrorWith_made answers policy created output w
  generalize w.mirrorWith answers policy created output = after at made ⊢
  cases made with
  | none => exact holds
  | enabled _ _ head _ _ _ _ _ _ =>
      exact rules.resetDeviceChanged (rules.enableHead holds listens answers head _ _ _) head

theorem mirrorOnOutputCreated (rules : CallRules bound kept) (answers : Answers)
    (policy : OutputPolicy) (left : Nat) :
    ∀ output w, kept w → kept (World.mirrorOnOutputCreated answers policy left output w) := by
  induction left with
  | zero => exact fun _ _ holds => holds
  | succ left ih => exact fun output _ holds => rules.mirrorWith holds ih answers policy output

end CallRules

end Westonite.Output
