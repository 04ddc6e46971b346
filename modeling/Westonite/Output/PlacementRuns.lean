import Westonite.Output.MirrorRuns
import Westonite.Output.Placement

/-! Runs of enabling and destroying: the outputs that mirror nothing keep clear of
each other as long as there is room to the right of the output enabled last. -/

set_option autoImplicit false

namespace Westonite.Output

open Library

variable {apart : Coord → Coord → Prop} {w : World}

namespace Placed

theorem call (placed : Placed apart w) (answers : Answers) : Placed apart (w.call answers).2 := by
  have same : SamePlaces w (w.call answers).2 := .of_same placed rfl rfl rfl
  exact same.placed placed

theorem fail (placed : Placed apart w) : Placed apart w.fail := by
  have same : SamePlaces w w.fail := .of_same placed rfl rfl rfl
  exact same.placed placed

theorem resetDeviceChanged (placed : Placed apart w) (head : HeadPtr) :
    Placed apart (w.resetDeviceChanged head) := by
  have same : SamePlaces w (w.resetDeviceChanged head) := .of_same placed rfl rfl rfl
  exact same.placed placed

theorem destroyOutput (placed : Placed apart w) (output : OutputPtr) :
    Placed apart (w.destroyOutput output) := by
  have found : ∀ other out, (w.destroyOutput output).outputs other = some out →
      other ≠ output ∧ w.outputs other = some out := by
    intro other out there
    rw [destroyOutput_outputs] at there
    split at there
    · cases there
    · exact ⟨‹_›, there⟩
  have list : (w.destroyOutput output).outputList = w.outputList.erase output := rfl
  refine ⟨?_, ?_, ?_, ?_, ?_, ?_⟩
  · intro other member
    rw [list, placed.distinct.mem_erase_iff] at member
    obtain ⟨out, there, up⟩ := placed.listed other member.2
    refine ⟨out, ?_, up⟩
    rw [destroyOutput_outputs, if_neg member.1, there]
  · intro other out there up
    obtain ⟨different, before⟩ := found other out there
    rw [list, placed.distinct.mem_erase_iff]
    exact ⟨different, placed.enabled other out before up⟩
  · exact fun other out there => placed.bounded other out (found other out there).2
  · exact fun other out there => placed.grid other out (found other out there).2
  · exact placed.distinct.erase output
  · apply (placed.ordered.sublist List.erase_sublist).imp
    intro first second order left right isLeft isRight
    exact order left right ⟨(found first left isLeft.1).2, isLeft.2⟩
      ⟨(found second right isRight.1).2, isRight.2⟩

/-- A mirror changes its size. -/
private theorem resizeMirror (placed : Placed apart w) {output : OutputPtr}
    (mirror : ∀ out, w.outputs output = some out → out.mirrorOf ≠ none)
    {change : WestonOutput → WestonOutput}
    (same : ∀ out, (change out).enabled = out.enabled ∧ (change out).mirrorOf = out.mirrorOf ∧
      (change out).pos = out.pos) : Placed apart (w.setOutput output change) := by
  have before : ∀ other out, (w.setOutput output change).outputs other = some out →
      ∃ old, w.outputs other = some old ∧ out.enabled = old.enabled ∧
        out.mirrorOf = old.mirrorOf ∧ out.pos = old.pos ∧ (other ≠ output → out = old) := by
    intro other out there
    change Function.update w.outputs output _ other = some out at there
    rw [Function.update_apply] at there
    split at there
    · rename_i here
      obtain ⟨old, found, rfl⟩ := Option.map_eq_some_iff.mp there
      obtain ⟨enabled, mirrorOf, pos⟩ := same old
      exact ⟨old, here ▸ found, enabled, mirrorOf, pos, fun different => absurd here different⟩
    · exact ⟨out, there, rfl, rfl, rfl, fun _ => rfl⟩
  have native : ∀ other out, (w.setOutput output change).IsNative other out →
      w.IsNative other out := by
    intro other out isNative
    obtain ⟨old, found, enabled, mirrorOf, _, other_eq⟩ := before other out isNative.1
    by_cases here : other = output
    · have none := mirrorOf.symm.trans isNative.2.2
      exact absurd none (mirror old (here ▸ found))
    · rw [other_eq here]
      exact ⟨found, enabled ▸ isNative.2.1, mirrorOf ▸ isNative.2.2⟩
  refine ⟨?_, ?_, ?_, ?_, placed.distinct, ?_⟩
  · intro other member
    obtain ⟨out, there, up⟩ := placed.listed other member
    change ∃ out, Function.update w.outputs output _ other = some out ∧ _
    rw [Function.update_apply]
    split
    · rename_i here
      rw [← here, there]
      exact ⟨_, rfl, (same out).1.trans up⟩
    · exact ⟨out, there, up⟩
  · intro other out there up
    obtain ⟨old, found, enabled, _⟩ := before other out there
    exact placed.enabled other old found (enabled ▸ up)
  · intro other out there
    obtain ⟨old, found, _⟩ := before other out there
    exact placed.bounded other old found
  · intro other out there up
    obtain ⟨old, found, enabled, _, pos, _⟩ := before other out there
    rw [pos]
    exact placed.grid other old found (enabled ▸ up)
  · apply placed.ordered.imp
    intro first second order left right isLeft isRight
    exact order left right (native first left isLeft) (native second right isRight)

private theorem waiting_mirror (placed : Placed apart w) {output source : OutputPtr}
    (down : ∀ out, w.outputs output = some out → out.enabled = false)
    (up : w.isEnabled source = true) :
    Waiting apart (w.placeOutput output (some source)) output (some source) := by
  have same : SamePlaces w (w.placeOutput output (some source)) :=
    .setOutput placed down fun _ => rfl
  have here : ∀ out, (w.placeOutput output (some source)).outputs output = some out →
      out.enabled = false ∧ out.mirrorOf = some source ∧
        out.pos = ((w.outputs source).map WestonOutput.pos).getD (0, 0) := by
    intro out there
    change Function.update w.outputs output _ output = some out at there
    rw [Function.update_self] at there
    obtain ⟨old, found, rfl⟩ := Option.map_eq_some_iff.mp there
    exact ⟨down old found, rfl, rfl⟩
  refine ⟨same.placed placed, fun out there => (here out there).1,
    fun out there => (here out there).2.1, ?_, fun native => by cases native⟩
  intro out there
  rw [(here out there).2.2]
  unfold World.isEnabled at up
  obtain ⟨src, live, isUp⟩ := (Option.any_eq_true _ _).mp up
  rw [live, Option.map_some, Option.getD_some]
  exact placed.grid source src live isUp

private theorem waiting_aligned (placed : Placed apart w) {output : OutputPtr}
    {mirrorOf : Option OutputPtr}
    (down : ∀ out, w.outputs output = some out → out.enabled = false)
    (mirrors : ∀ out, w.outputs output = some out → out.mirrorOf = mirrorOf)
    (clear : w.ClearFrom apart w.nextX) : Waiting apart (w.lazyAlign output) output mirrorOf := by
  have same : SamePlaces w (w.lazyAlign output) := .setOutput placed down fun _ => rfl
  have here : ∀ out, (w.lazyAlign output).outputs output = some out →
      out.enabled = false ∧ out.mirrorOf = mirrorOf ∧ out.pos.1 = w.nextX := by
    intro out there
    rw [lazyAlign_eq] at there
    change Function.update w.outputs output _ output = some out at there
    rw [Function.update_self] at there
    obtain ⟨old, found, rfl⟩ := Option.map_eq_some_iff.mp there
    exact ⟨down old found, mirrors old found, rfl⟩
  refine ⟨same.placed placed, fun out there => (here out there).1,
    fun out there => (here out there).2.1, ?_, ?_⟩
  · exact fun out there => ⟨w.nextX, (here out there).2.2⟩
  · intro _ out there
    rw [(here out there).2.2]
    exact same.clearFrom clear

theorem settleOutput (placed : Placed apart w) (head : HeadPtr) {output : OutputPtr}
    {mirrorOf : Option OutputPtr}
    (mirrors : ∀ out, w.outputs output = some out → out.mirrorOf = mirrorOf) :
    Placed apart (w.settleOutput head output mirrorOf) := by
  have registered : ∃ registeredHeads registeredOutputs,
      (w.registerHead head).registerOutput output =
        { w with registeredHeads, registeredOutputs } := by
    unfold World.registerOutput World.registerHead
    split <;> split <;> exact ⟨_, _, rfl⟩
  obtain ⟨registeredHeads, registeredOutputs, same⟩ := registered
  have quiet : SamePlaces w { w with registeredHeads, registeredOutputs } :=
    .of_same placed rfl rfl rfl
  unfold World.settleOutput
  dsimp only
  rw [same]
  cases mirrorOf with
  | none => exact quiet.placed placed
  | some source =>
      dsimp only
      unfold World.applyMirrorModeline
      split
      · exact quiet.placed placed
      · dsimp only
        split
        · exact (quiet.placed placed).fail
        · apply (quiet.placed placed).resizeMirror
          · intro out there none
            rw [mirrors out there] at none
            cases none
          · exact fun out => ⟨rfl, rfl, rfl⟩

/-- An output that comes up still mirrors what it mirrored. -/
private theorem mirrors_of_enable {created : OutputPtr → World → World} {output : OutputPtr}
    {mirrorOf : Option OutputPtr} (waiting : Waiting apart w output mirrorOf)
    (around : Around.Listens created) (answers : Answers) :
    ∀ out, (w.enable answers created output).2.outputs output = some out →
      out.mirrorOf = mirrorOf := by
  intro out there
  rcases enable_cases w answers created output with ⟨_, down⟩ | ⟨_, value, found, _, up⟩
  · rw [down] at there
    exact waiting.mirrors out there
  · have bounded : output < w.nextOutput := waiting.placed.bounded output value found
    have called : (w.call answers).2.outputs output = some value := found
    have kept := (around output ((w.call answers).2.markEnabled output
      (answers.geometry w.calls))).outputs output bounded
    rw [up, kept, markEnabled_outputs, if_pos rfl, called] at there
    obtain rfl := Option.some.inj there
    exact waiting.mirrors value found

theorem enableHead (placed : Placed apart w) {created : OutputPtr → World → World}
    (listens : KeepsPlaces apart created) (around : Around.Listens created) (answers : Answers)
    (head : HeadPtr) (setup : HeadSetup) (mirrorOf : Option OutputPtr) (color : ColorSetup)
    (up : ∀ source, mirrorOf = some source → w.isEnabled source = true)
    (clear : mirrorOf = none → w.ClearFrom apart w.nextX) :
    Placed apart (w.enableHead answers created head setup mirrorOf color) := by
  have called := placed.call answers
  unfold World.enableHead
  rcases createOutput_cases w answers head (w.headName head) with none | ⟨value, _, _, made⟩
  · rw [none]
    exact called.fail
  · rw [made]
    have same := SamePlaces.addOutput called head (w.headName head) value.backend
    have outputs : ∀ other, ((w.call answers).2.addOutput head (w.headName head)
        value.backend).outputs other = if other = w.nextOutput
          then some (.created (w.headName head) value.backend) else w.outputs other :=
      addOutput_outputs (w.call answers).2 head (w.headName head) value.backend
    generalize (w.call answers).2.addOutput head (w.headName head) value.backend = next
      at same outputs ⊢
    have down : ∀ out, next.outputs w.nextOutput = some out →
        out.enabled = false ∧ out.mirrorOf = none := by
      intro out there
      rw [outputs, if_pos rfl] at there
      obtain rfl := Option.some.inj there
      exact ⟨rfl, rfl⟩
    have waiting : Waiting apart (next.placeOutput w.nextOutput mirrorOf) w.nextOutput
        mirrorOf := by
      cases mirrorOf with
      | none =>
          apply (same.placed called).waiting_aligned (fun out there => (down out there).1)
            fun out there => (down out there).2
          rw [same.nextX called]
          exact same.clearFrom (clear rfl)
      | some source =>
          apply (same.placed called).waiting_mirror fun out there => (down out there).1
          have isUp := up source rfl
          unfold World.isEnabled at isUp ⊢
          obtain ⟨src, live, _⟩ := (Option.any_eq_true _ _).mp isUp
          rw [outputs, if_neg (Nat.ne_of_lt (placed.bounded source src live))]
          exact isUp
    have configured := waiting.configureHead answers setup mirrorOf.isSome color
    dsimp only
    split
    · exact configured.placed.fail.destroyOutput _
    · have enabled := configured.enable listens answers
      split
      · exact enabled.fail.destroyOutput _
      · exact enabled.settleOutput head (mirrors_of_enable configured around answers)

/-- The mirrors that the creation of an output brings. -/
theorem mirrorOnOutputCreated (answers : Answers) (policy : OutputPolicy) (left : Nat) :
    KeepsPlaces apart (World.mirrorOnOutputCreated answers policy left) := by
  induction left with
  | zero => exact fun _ _ placed _ => placed
  | succ left ih =>
      intro output w placed up
      have made := mirrorWith_made answers policy (World.mirrorOnOutputCreated answers policy left)
        output w
      unfold World.mirrorOnOutputCreated
      generalize w.mirrorWith answers policy (World.mirrorOnOutputCreated answers policy left)
        output = after at made ⊢
      cases made with
      | none => exact placed
      | enabled =>
          apply resetDeviceChanged
          exact placed.enableHead ih (Around.mirrorOnOutputCreated answers policy left)
            answers _ _ (some output) _ (fun source same => Option.some.inj same ▸ up)
            fun native => by cases native

theorem outputCreated (answers : Answers) (policy : OutputPolicy) :
    KeepsPlaces apart (World.outputCreated answers policy) :=
  fun output w => mirrorOnOutputCreated answers policy (w.headList.length + 1) output w

theorem tryOnce (placed : Placed apart w) (answers : Answers) (policy : OutputPolicy)
    (output : OutputPtr) (clear : w.isEnabled output = false → w.ClearFrom apart w.nextX) :
    Placed apart (w.tryOnce answers policy output).2 := by
  unfold World.tryOnce
  split
  · exact placed
  · rename_i disabled
    have down : ∀ out, w.outputs output = some out → out.enabled = false := by
      intro out there
      unfold World.isEnabled at disabled
      rw [there] at disabled
      simpa using disabled
    have waiting : Waiting apart (w.lazyAlign output) output
        ((w.outputs output).bind WestonOutput.mirrorOf) := by
      apply placed.waiting_aligned down
      · intro out there
        rw [there, Option.bind_some]
      · exact clear (by simpa using disabled)
    exact waiting.enable (outputCreated answers policy) answers

theorem step {answers : Answers} {policy : OutputPolicy} {label : PlacementLabel} {now : World}
    (placed : Placed apart w) (clear : w.aligns label = true → w.ClearFrom apart w.nextX)
    (moved : PlacementStep answers policy w label now) : Placed apart now := by
  cases moved with
  | enableHead head setup color =>
      exact placed.enableHead (outputCreated answers policy) (Around.outputCreated answers policy)
        answers head setup none color (fun source impossible => by cases impossible)
        fun _ => clear rfl
  | tryEnable output =>
      apply placed.tryOnce answers policy output
      intro down
      apply clear
      change (!w.isEnabled output) = true
      rw [down]
      rfl
  | destroy output => exact placed.destroyOutput output
  | quiet same => exact same.placed placed

end Placed

/-- While there is room to the right of the output enabled last, the outputs that
mirror nothing do not overlap. -/
theorem natives_disjoint {answers : Answers} {policy : OutputPolicy}
    {backends : List (BackendPtr × BackendKind)} {useColorManager : Bool}
    {labels : List PlacementLabel}
    (run : Run (RoomyStep answers policy) (.new backends useColorManager) labels w) :
    w.NativesDisjoint := by
  have placed : Placed (· ≤ ·) w := by
    refine @Run.invariant _ _ _ (Placed (· ≤ ·)) ?_ _ _ _ (.new _ backends useColorManager) run
    intro before label after placed taken
    obtain ⟨roomy, sized, moved⟩ := taken
    exact placed.step (fun aligns => placed.clearFrom_nextX (sized aligns) (roomy aligns)) moved
  exact placed.nativesDisjoint

/-- At a scale of one, a mirror ends where its source ends. -/
theorem applyMirrorModeline_right {source output : OutputPtr} {src out : WestonOutput}
    (live : w.outputs source = some src) (there : w.outputs output = some out)
    (mode : 0 < src.nativeModeCopy.width)
    (native : src.width = src.nativeModeCopy.width.tdiv src.currentScale)
    (scale : out.currentScale ≤ 1) (onTop : out.pos = src.pos) :
    ((w.applyMirrorModeline source output).outputs output).map WestonOutput.right =
      some src.right := by
  unfold World.applyMirrorModeline
  rw [live]
  dsimp only
  rw [if_pos mode]
  change (Function.update w.outputs output _ output).map _ = _
  rw [Function.update_self, there, Option.map_some, Option.map_some, max_eq_right scale]
  unfold WestonOutput.right
  rw [onTop, native, Int.tdiv_one]

/-- Two panels, and a remote screen that mirrors the first. -/
def panelWorld : World :=
  { World.new [(0, .x11), (1, .vnc)] false with
    heads := fun head =>
      match head with
      | 0 => some ⟨"X1", 0, true, false, false, .normal, none⟩
      | 1 => some ⟨"vnc", 1, true, false, false, .normal, none⟩
      | 2 => some ⟨"X2", 0, true, false, false, .normal, none⟩
      | _ => none
    headList := [0, 1, 2] }

/-- The remote screen at a scale of its own. -/
def mirrorPolicy (scale : Int) : OutputPolicy :=
  { OutputPolicy.defaults 1024 640 with
    rules := [{ OutputRule.named "vnc" with mirrorOf := some "X1", scale := some scale }] }

def enablePanel (scale : Int) (w : World) (head : HeadPtr) : World :=
  w.enableHead .panel (World.outputCreated .panel (mirrorPolicy scale)) head
    (.windowed ⟨1920, 1080, 1, .normal⟩ .x11) none .default

private theorem samePlaces_panelWorld :
    SamePlaces (.new [(0, .x11), (1, .vnc)] false) panelWorld where
  outputList := rfl
  nextOutput := Nat.le_refl _
  listed _ member := by cases member
  others _ _ _ there := by cases there

/-- A mirror at the scale of its source leaves the second panel its room. -/
theorem natives_disjoint_panels :
    ∃ labels, Run (RoomyStep .panel (mirrorPolicy 1)) (.new [(0, .x11), (1, .vnc)] false) labels
        (enablePanel 1 (enablePanel 1 panelWorld 0) 2) ∧
      (enablePanel 1 (enablePanel 1 panelWorld 0) 2).outputList = [0, 1, 2] ∧
      (enablePanel 1 (enablePanel 1 panelWorld 0) 2).NativesDisjoint := by
  let enable (head : HeadPtr) : PlacementLabel :=
    .enableHead head (.windowed ⟨1920, 1080, 1, .normal⟩ .x11) .default
  have first : RoomyStep .panel (mirrorPolicy 1) panelWorld (enable 0)
      (enablePanel 1 panelWorld 0) :=
    ⟨fun _ => by decide +kernel, fun _ => by decide +kernel, .enableHead _ _ _ _⟩
  have second : RoomyStep .panel (mirrorPolicy 1) (enablePanel 1 panelWorld 0) (enable 2)
      (enablePanel 1 (enablePanel 1 panelWorld 0) 2) :=
    ⟨fun _ => by decide +kernel, fun _ => by decide +kernel, .enableHead _ _ _ _⟩
  have known : RoomyStep .panel (mirrorPolicy 1) (.new [(0, .x11), (1, .vnc)] false) .quiet
      panelWorld :=
    ⟨(fun impossible => by cases impossible), (fun impossible => by cases impossible),
      .quiet samePlaces_panelWorld⟩
  have run := ((Run.single known).snoc first).snoc second
  exact ⟨_, run, by decide +kernel, natives_disjoint run⟩

/-- A mirror at twice the scale covers half of its source, and the second panel is
put over the other half. -/
theorem natives_overlap :
    ∃ labels, Run (SizedStep .panel (mirrorPolicy 2)) (.new [(0, .x11), (1, .vnc)] false) labels
        (enablePanel 2 (enablePanel 2 panelWorld 0) 2) ∧
      ¬ (enablePanel 2 (enablePanel 2 panelWorld 0) 2).NativesDisjoint := by
  let enable (head : HeadPtr) : PlacementLabel :=
    .enableHead head (.windowed ⟨1920, 1080, 1, .normal⟩ .x11) .default
  have first : SizedStep .panel (mirrorPolicy 2) panelWorld (enable 0)
      (enablePanel 2 panelWorld 0) :=
    ⟨fun _ => by decide +kernel, .enableHead _ _ _ _⟩
  have second : SizedStep .panel (mirrorPolicy 2) (enablePanel 2 panelWorld 0) (enable 2)
      (enablePanel 2 (enablePanel 2 panelWorld 0) 2) :=
    ⟨fun _ => by decide +kernel, .enableHead _ _ _ _⟩
  have known : SizedStep .panel (mirrorPolicy 2) (.new [(0, .x11), (1, .vnc)] false) .quiet
      panelWorld :=
    ⟨(fun impossible => by cases impossible), .quiet samePlaces_panelWorld⟩
  refine ⟨_, ((Run.single known).snoc first).snoc second, ?_⟩
  generalize final : enablePanel 2 (enablePanel 2 panelWorld 0) 2 = w
  have left : (w.outputs 0).map WestonOutput.place = some (true, none, (0, 0), 1920, 1080) := by
    rw [← final]
    decide +kernel
  have right : (w.outputs 2).map WestonOutput.place = some (true, none, (960, 0), 1920, 1080) := by
    rw [← final]
    decide +kernel
  obtain ⟨panel, found, place⟩ := Option.map_eq_some_iff.mp left
  obtain ⟨other, there, shifted⟩ := Option.map_eq_some_iff.mp right
  simp only [WestonOutput.place, Prod.mk.injEq] at place shifted
  intro disjoint
  have apart := disjoint 0 2 panel other (by decide) ⟨found, place.1, place.2.1⟩
    ⟨there, shifted.1, shifted.2.1⟩
  have inFirst : ((960, 0) : Coord × Coord) ∈ panel.rectangle := by
    refine ⟨?_, ?_⟩
    · rw [WestonOutput.right, place.2.2.1, place.2.2.2.1]
      exact ⟨by decide +kernel, by decide +kernel⟩
    · rw [place.2.2.1, place.2.2.2.2]
      exact ⟨by decide +kernel, by decide +kernel⟩
  have inSecond : ((960, 0) : Coord × Coord) ∈ other.rectangle := by
    refine ⟨?_, ?_⟩
    · rw [WestonOutput.right, shifted.2.2.1, shifted.2.2.2.1]
      exact ⟨by decide +kernel, by decide +kernel⟩
    · rw [shifted.2.2.1, shifted.2.2.2.2]
      exact ⟨by decide +kernel, by decide +kernel⟩
  exact Set.disjoint_left.mp apart inFirst inSecond

end Westonite.Output
