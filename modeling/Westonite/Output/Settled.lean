import Westonite.Output.AttachEnable
import Westonite.Output.Mirrors
import Westonite.Output.Verdict

/-! Where heads are: on outputs that are up, but for one that is being brought up;
and a DRM head on no output stays so until the turn of its own group. -/

set_option autoImplicit false

namespace Westonite.Output

/-- A DRM head on no output. -/
def World.Idle (w : World) (head : HeadPtr) : Prop := w.IsDrm head ∧ w.outputOf head = none

/-- Heads are on outputs that are up, or on the one that is pending. -/
def World.Settled (w : World) (pending : Option OutputPtr) : Prop :=
  ∀ head output, w.outputOf head = some output → w.isEnabled output = true ∨ pending = some output

/-- Every head is settled, of the idle heads only those of `mine` may have moved, and
no head came or went. -/
structure Quiet (mine : HeadPtr → Prop) (pending : Option OutputPtr) (base now : World) :
    Prop where
  settled : now.Settled pending
  idle : ∀ head, ¬ mine head → base.Idle head → now.Idle head
  headList : now.headList = base.headList
  known : ∀ head, (now.heads head).isSome = (base.heads head).isSome

variable {mine : HeadPtr → Prop} {pending : Option OutputPtr} {base w after : World}

private theorem setHead_known (w : World) (head other : HeadPtr)
    (change : WestonHead → WestonHead) :
    ((w.setHead head change).heads other).isSome = (w.heads other).isSome := by
  rw [setHead_heads]
  split
  · rename_i here
    rw [here, Option.isSome_map]
  · rfl

namespace Quiet

/-! ### Single calls -/

theorem refl (settled : w.Settled pending) : Quiet mine pending w w where
  settled := settled
  idle _ _ idle := idle
  headList := rfl
  known _ := rfl

theorem trans {before : Option OutputPtr} (first : Quiet mine before base w)
    (second : Quiet mine pending w after) : Quiet mine pending base after where
  settled := second.settled
  idle head others idle := second.idle head others (first.idle head others idle)
  headList := second.headList.trans first.headList
  known head := (second.known head).trans (first.known head)

/-- More heads may have moved. -/
theorem widen {more : HeadPtr → Prop} (quiet : Quiet mine pending base w)
    (wider : ∀ head, mine head → more head) : Quiet more pending base w where
  settled := quiet.settled
  idle head others idle := quiet.idle head (fun isMine => others (wider head isMine)) idle
  headList := quiet.headList
  known := quiet.known

/-- An output that is up is pending no more. -/
theorem raised {output : OutputPtr} (quiet : Quiet mine (some output) base w)
    (up : w.isEnabled output = true) : Quiet mine none base w where
  settled head other on := by
    rcases quiet.settled head other on with isUp | same
    · exact .inl isUp
    · obtain rfl := Option.some.inj same
      exact .inl up
  idle := quiet.idle
  headList := quiet.headList
  known := quiet.known

theorem of_same (quiet : Quiet mine pending base w) (heads : after.heads = w.heads)
    (outputs : after.outputs = w.outputs) (backends : after.backends = w.backends)
    (headList : after.headList = w.headList) : Quiet mine pending base after where
  settled := by
    unfold World.Settled World.outputOf World.isEnabled
    rw [heads, outputs]
    exact quiet.settled
  idle head others idle := by
    have before := quiet.idle head others idle
    unfold World.Idle World.IsDrm World.outputOf World.backendKind at before ⊢
    rw [heads, backends]
    exact before
  headList := headList.trans quiet.headList
  known head := by
    rw [heads]
    exact quiet.known head

theorem call (quiet : Quiet mine pending base w) (answers : Answers) :
    Quiet mine pending base (w.call answers).2 :=
  quiet.of_same rfl rfl rfl rfl

theorem setOutput (quiet : Quiet mine pending base w) (output : OutputPtr)
    {change : WestonOutput → WestonOutput}
    (same : ∀ value, (change value).enabled = value.enabled) :
    Quiet mine pending base (w.setOutput output change) where
  settled head other on := by
    rw [isEnabled_setOutput w output other change same]
    exact quiet.settled head other on
  idle := quiet.idle
  headList := quiet.headList
  known := quiet.known

/-- The head stays where it is or comes off. -/
theorem setHead (quiet : Quiet mine pending base w) (head : HeadPtr)
    {change : WestonHead → WestonHead} (backend : ∀ value, (change value).backend = value.backend)
    (output : ∀ value, (change value).output = none ∨ (change value).output = value.output) :
    Quiet mine pending base (w.setHead head change) where
  settled other place on := by
    rw [setHead_outputOf] at on
    split at on
    · rename_i here
      obtain ⟨value, found, moved⟩ := Option.bind_eq_some_iff.mp on
      rcases output value with none | same
      · rw [none] at moved
        cases moved
      · apply quiet.settled other place
        rw [here, World.outputOf, found, Option.bind_some, ← same, moved]
    · exact quiet.settled other place on
  idle other others idle := by
    obtain ⟨⟨value, found, drm⟩, off⟩ := quiet.idle other others idle
    by_cases here : other = head
    · subst here
      rw [World.outputOf, found, Option.bind_some] at off
      have moved : (w.setHead other change).heads other = some (change value) := by
        rw [setHead_heads, if_pos rfl, found, Option.map_some]
      refine ⟨⟨_, moved, (backend value).symm ▸ drm⟩, ?_⟩
      rw [World.outputOf, moved, Option.bind_some]
      exact (output value).elim id fun same => same.trans off
    · have unmoved : (w.setHead head change).heads other = w.heads other := by
        rw [setHead_heads, if_neg here]
      refine ⟨⟨value, unmoved.trans found, drm⟩, ?_⟩
      rw [World.outputOf, unmoved]
      exact off
  headList := quiet.headList
  known other := (setHead_known w head other change).trans (quiet.known other)

theorem detachHead (quiet : Quiet mine pending base w) (head : HeadPtr) :
    Quiet mine pending base (w.detachHead head) :=
  quiet.setHead head (fun _ => rfl) fun _ => .inl rfl

theorem resetDeviceChanged (quiet : Quiet mine pending base w) (head : HeadPtr) :
    Quiet mine pending base (w.resetDeviceChanged head) :=
  quiet.setHead head (fun _ => rfl) fun _ => .inr rfl

/-- A head goes on an output that is up or pending. -/
theorem putOn (quiet : Quiet mine pending base w) {head : HeadPtr} {output : OutputPtr}
    (allowed : mine head ∨ ¬ w.IsDrm head)
    (there : w.isEnabled output = true ∨ pending = some output) :
    Quiet mine pending base (w.setHead head fun value => { value with output := some output }) where
  settled other place on := by
    rw [setHead_outputOf] at on
    split at on
    · obtain ⟨value, _, same⟩ := Option.bind_eq_some_iff.mp on
      obtain rfl := Option.some.inj same
      exact there
    · exact quiet.settled other place on
  idle other others idle := by
    have before := quiet.idle other others idle
    have different : other ≠ head := by
      rintro rfl
      exact allowed.elim others fun not => not before.1
    obtain ⟨⟨value, found, drm⟩, off⟩ := before
    have unmoved : (w.setHead head fun value => { value with output := some output }).heads other =
        w.heads other := by
      rw [setHead_heads, if_neg different]
    refine ⟨⟨value, unmoved.trans found, drm⟩, ?_⟩
    rw [World.outputOf, unmoved]
    exact off
  headList := quiet.headList
  known other := (setHead_known w head other _).trans (quiet.known other)

theorem addOutput (quiet : Quiet mine none base w) {head : HeadPtr}
    (allowed : mine head ∨ ¬ w.IsDrm head) (name : String) (backend : BackendPtr) :
    Quiet mine (some w.nextOutput) base (w.addOutput head name backend) := by
  have opened : Quiet mine (some w.nextOutput) base { w with
      outputs := Function.update w.outputs w.nextOutput (some (.created name backend))
      pendingOutputList := w.pendingOutputList ++ [w.nextOutput]
      nextOutput := w.nextOutput + 1 } := by
    refine ⟨?_, quiet.idle, quiet.headList, quiet.known⟩
    intro other place on
    rcases quiet.settled other place on with up | impossible
    · by_cases here : place = w.nextOutput
      · exact .inr (congrArg some here.symm)
      · left
        unfold World.isEnabled
        dsimp only
        rw [Function.update_of_ne here]
        exact up
    · cases impossible
  exact opened.putOn allowed (.inr rfl)

/-- The heads of a destroyed output come off it. -/
theorem destroyOutput {output : OutputPtr} (quiet : Quiet mine pending base w)
    (only : pending = none ∨ pending = some output) :
    Quiet mine none base (w.destroyOutput output) where
  settled head other on := by
    rw [destroyOutput_outputOf] at on
    split at on
    · cases on
    · rename_i elsewhere
      have different : other ≠ output := by
        rintro rfl
        exact elsewhere on
      left
      rcases quiet.settled head other on with up | same
      · unfold World.isEnabled
        rw [destroyOutput_outputs, if_neg different]
        exact up
      · rcases only with none | here
        · rw [none] at same
          cases same
        · rw [here] at same
          exact absurd (Option.some.inj same).symm different
  idle head others idle := by
    obtain ⟨⟨value, found, drm⟩, off⟩ := quiet.idle head others idle
    refine ⟨⟨if value.output = some output then { value with output := none } else value, ?_, ?_⟩,
      ?_⟩
    · unfold World.destroyOutput
      dsimp only
      rw [found, Option.map_some]
    · split
      · exact drm
      · exact drm
    · rw [destroyOutput_outputOf, off]
      rfl
  headList := quiet.headList
  known head := by
    rw [← quiet.known head]
    exact Option.isSome_map

theorem markEnabled {output : OutputPtr} (quiet : Quiet mine (some output) base w)
    {value : WestonOutput} (there : w.outputs output = some value) (geometry : Geometry) :
    Quiet mine none base (w.markEnabled output geometry) where
  settled head other on := by
    left
    unfold World.isEnabled
    rw [markEnabled_outputs]
    split
    · rw [there]
      rfl
    · rename_i different
      rcases quiet.settled head other on with up | same
      · exact up
      · exact absurd (Option.some.inj same).symm different
  idle := quiet.idle
  headList := quiet.headList
  known := quiet.known

/-! ### A head of its own output -/

/-- What the listeners of a created output do leaves the heads settled. -/
def Listens (mine : HeadPtr → Prop) (base : World) (created : OutputPtr → World → World) : Prop :=
  ∀ output w, Quiet mine none base w → Quiet mine none base (created output w)

/-- The output that is still pending, when a call has brought it up or has not. -/
def stillPending (output : OutputPtr) (up : Bool) : Option OutputPtr :=
  if up then none else some output

variable {created : OutputPtr → World → World} {output : OutputPtr}

theorem enable (quiet : Quiet mine (some output) base w) (listens : Listens mine base created)
    (answers : Answers) :
    Quiet mine (stillPending output (w.enable answers created output).1) base
      (w.enable answers created output).2 := by
  have called := quiet.call answers
  rcases enable_cases w answers created output with ⟨failed, same⟩ | ⟨up, value, there, _, after⟩
  · rw [failed, same]
    exact called
  · rw [up, after]
    exact listens output _ (called.markEnabled there _)

theorem configureHead (quiet : Quiet mine pending base w) (answers : Answers)
    (output : OutputPtr) (setup : HeadSetup) (mirrors : Bool) (color : ColorSetup) :
    Quiet mine pending base (w.configureHead answers output setup mirrors color).2 := by
  have kept : ∀ value, (World.configureSetup setup mirrors value).enabled = value.enabled := by
    intro value
    cases setup <;> rfl
  have api := (quiet.setOutput output kept).call answers
  have sized := api.call answers
  unfold World.configureHead
  dsimp only
  split
  · exact api
  · split
    · exact sized
    · obtain ⟨calls, same⟩ := applyColor_calls answers _ color false
      rw [same]
      exact sized.of_same rfl rfl rfl rfl

theorem applyMirrorModeline (quiet : Quiet mine pending base w) (source output : OutputPtr) :
    Quiet mine pending base (w.applyMirrorModeline source output) := by
  unfold World.applyMirrorModeline
  split
  · exact quiet
  · dsimp only
    split
    · exact quiet.of_same rfl rfl rfl rfl
    · exact quiet.setOutput output fun _ => rfl

theorem placeOutput (quiet : Quiet mine pending base w) (output : OutputPtr)
    (mirrorOf : Option OutputPtr) : Quiet mine pending base (w.placeOutput output mirrorOf) := by
  cases mirrorOf with
  | none => exact quiet.setOutput output fun _ => rfl
  | some source => exact quiet.setOutput output fun _ => rfl

theorem registerHead (quiet : Quiet mine pending base w) (head : HeadPtr) :
    Quiet mine pending base (w.registerHead head) := by
  unfold World.registerHead
  split
  · exact quiet
  · exact quiet.of_same rfl rfl rfl rfl

theorem settleOutput (quiet : Quiet mine pending base w) (head : HeadPtr) (output : OutputPtr)
    (mirrorOf : Option OutputPtr) :
    Quiet mine pending base (w.settleOutput head output mirrorOf) := by
  have registered : Quiet mine pending base ((w.registerHead head).registerOutput output) := by
    unfold World.registerOutput
    split
    · exact quiet.registerHead head
    · exact (quiet.registerHead head).of_same rfl rfl rfl rfl
  cases mirrorOf with
  | none => exact registered
  | some source => exact registered.applyMirrorModeline source output

/-- The output of the head comes up or goes again. -/
theorem enableHead (quiet : Quiet mine none base w) (listens : Listens mine base created)
    {head : HeadPtr} (other : ¬ w.IsDrm head) (answers : Answers) (setup : HeadSetup)
    (mirrorOf : Option OutputPtr) (color : ColorSetup) :
    Quiet mine none base (w.enableHead answers created head setup mirrorOf color) := by
  have called := quiet.call answers
  unfold World.enableHead
  rcases createOutput_cases w answers head (w.headName head) with none | ⟨value, _, _, opened⟩
  · rw [none]
    exact called.of_same rfl rfl rfl rfl
  · rw [opened]
    have made : Quiet mine (some w.nextOutput) base
        ((w.call answers).2.addOutput head (w.headName head) value.backend) :=
      called.addOutput (.inr other) (w.headName head) value.backend
    have placed := made.placeOutput w.nextOutput mirrorOf
    have configured := placed.configureHead answers w.nextOutput setup mirrorOf.isSome color
    have enabled := configured.enable listens answers
    dsimp only at configured enabled ⊢
    split
    · exact Quiet.destroyOutput (configured.of_same rfl rfl rfl rfl) (.inr rfl)
    · split
      · rename_i failed
        rw [Bool.not_eq_true'] at failed
        rw [failed] at enabled
        exact Quiet.destroyOutput (enabled.of_same rfl rfl rfl rfl) (.inr rfl)
      · rename_i up
        rw [Bool.not_eq_true', Bool.not_eq_false] at up
        rw [up] at enabled
        exact enabled.settleOutput head w.nextOutput mirrorOf

theorem mirrorOnOutputCreated (answers : Answers) (policy : OutputPolicy) (left : Nat) :
    Listens mine base (World.mirrorOnOutputCreated answers policy left) := by
  induction left with
  | zero => exact fun _ _ quiet => quiet
  | succ left ih =>
      intro output w quiet
      have made := mirrorWith_made answers policy
        (World.mirrorOnOutputCreated answers policy left) output w
      rw [World.mirrorOnOutputCreated]
      generalize w.mirrorWith answers policy
        (World.mirrorOnOutputCreated answers policy left) output = after at made ⊢
      cases made with
      | none => exact quiet
      | enabled source rule head setup there ruled named down other =>
          have otherKind : ¬ w.IsDrm head := fun ⟨value, found, drm⟩ => other value found drm
          exact (quiet.enableHead ih otherKind answers setup _ _).resetDeviceChanged head

theorem outputCreated (answers : Answers) (policy : OutputPolicy) :
    Listens mine base (World.outputCreated answers policy) :=
  fun output w => mirrorOnOutputCreated answers policy (w.headList.length + 1) output w

end Quiet

end Westonite.Output
