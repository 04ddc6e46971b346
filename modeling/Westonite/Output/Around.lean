import Westonite.Output.Calls

/-! What the calls leave alone: outputs that exist, the heads on them and the
groups, whatever is created, enabled or destroyed around them. -/

set_option autoImplicit false

namespace Westonite.Output

/-- What a head is, apart from its output and its change flag. -/
def WestonHead.description (head : WestonHead) : String × BackendPtr × Bool × Bool :=
  (head.name, head.backend, head.connected, head.nonDesktop)

/-- Only outputs that `w` does not have yet come and go. -/
structure Around (w after : World) : Prop where
  outputs : ∀ output, output < w.nextOutput → after.outputs output = w.outputs output
  nextOutput : w.nextOutput ≤ after.nextOutput
  heads : ∀ head, (after.heads head).map WestonHead.description =
    (w.heads head).map WestonHead.description
  attached : ∀ head output, output < w.nextOutput →
    (after.outputOf head = some output ↔ w.outputOf head = some output)
  cells : ∀ cell output, output < w.nextOutput →
    (after.cells cell = some output ↔ w.cells cell = some output)
  headList : after.headList = w.headList
  backends : after.backends = w.backends
  layoutputs : after.layoutputs = w.layoutputs

namespace Around

variable {base w : World}

theorem refl (w : World) : Around w w where
  outputs _ _ := rfl
  nextOutput := Nat.le_refl _
  heads _ := rfl
  attached _ _ _ := .rfl
  cells _ _ _ := .rfl
  headList := rfl
  backends := rfl
  layoutputs := rfl

theorem trans {after : World} (first : Around base w) (second : Around w after) :
    Around base after where
  outputs output old := by
    rw [second.outputs output (Nat.lt_of_lt_of_le old first.nextOutput), first.outputs output old]
  nextOutput := Nat.le_trans first.nextOutput second.nextOutput
  heads head := (second.heads head).trans (first.heads head)
  attached head output old :=
    (second.attached head output (Nat.lt_of_lt_of_le old first.nextOutput)).trans
      (first.attached head output old)
  cells cell output old :=
    (second.cells cell output (Nat.lt_of_lt_of_le old first.nextOutput)).trans
      (first.cells cell output old)
  headList := second.headList.trans first.headList
  backends := second.backends.trans first.backends
  layoutputs := second.layoutputs.trans first.layoutputs

/-! ### Single calls -/

theorem setOutput (around : Around base w) {output : OutputPtr} (new : base.nextOutput ≤ output)
    (change : WestonOutput → WestonOutput) : Around base (w.setOutput output change) where
  outputs other old := by
    have different : other ≠ output := Nat.ne_of_lt (Nat.lt_of_lt_of_le old new)
    change Function.update w.outputs output _ other = _
    rw [Function.update_of_ne different, around.outputs other old]
  nextOutput := around.nextOutput
  heads := around.heads
  attached := around.attached
  cells := around.cells
  headList := around.headList
  backends := around.backends
  layoutputs := around.layoutputs

/-- Whatever does not touch heads, outputs and groups. -/
theorem of_same (around : Around base w) {after : World} (outputs : after.outputs = w.outputs)
    (nextOutput : after.nextOutput = w.nextOutput) (heads : after.heads = w.heads)
    (cells : after.cells = w.cells) (headList : after.headList = w.headList)
    (backends : after.backends = w.backends) (layoutputs : after.layoutputs = w.layoutputs) :
    Around base after where
  outputs output old := by rw [outputs, around.outputs output old]
  nextOutput := by rw [nextOutput]; exact around.nextOutput
  heads head := by rw [heads]; exact around.heads head
  attached head output old := by
    unfold World.outputOf
    rw [heads]
    exact around.attached head output old
  cells cell output old := by rw [cells]; exact around.cells cell output old
  headList := headList.trans around.headList
  backends := backends.trans around.backends
  layoutputs := layoutputs.trans around.layoutputs

theorem resetDeviceChanged (around : Around base w) (head : HeadPtr) :
    Around base (w.resetDeviceChanged head) where
  outputs := around.outputs
  nextOutput := around.nextOutput
  heads other := by
    rw [← around.heads other, World.resetDeviceChanged, setHead_heads]
    split
    · rename_i here
      rw [here, Option.map_map]
      rfl
    · rfl
  attached other output old := by
    rw [← around.attached other output old, resetDeviceChanged_outputOf]
  cells := around.cells
  headList := around.headList
  backends := around.backends
  layoutputs := around.layoutputs

theorem addOutput (around : Around base w) {head : HeadPtr} {value : WestonHead}
    (found : w.heads head = some value) (free : value.output = none) (name : String) :
    Around base (w.addOutput head name value.backend) where
  outputs output old := by
    rw [addOutput_outputs, if_neg, around.outputs output old]
    exact Nat.ne_of_lt (Nat.lt_of_lt_of_le old around.nextOutput)
  nextOutput := Nat.le_succ_of_le around.nextOutput
  heads other := by
    rw [← around.heads other]
    change ((w.setHead head _).heads other).map _ = _
    rw [setHead_heads]
    split
    · rename_i here
      rw [here, Option.map_map]
      rfl
    · rfl
  attached other output old := by
    rw [← around.attached other output old, addOutput_outputOf found name]
    split
    · rename_i here
      have none : w.outputOf other = none := by
        rw [here, World.outputOf, found, Option.bind_some, free]
      rw [none]
      have different : w.nextOutput ≠ output :=
        Nat.ne_of_gt (Nat.lt_of_lt_of_le old around.nextOutput)
      constructor
      · intro same
        exact absurd (Option.some.inj same) different
      · intro impossible
        cases impossible
    · rfl
  cells := around.cells
  headList := around.headList
  backends := around.backends
  layoutputs := around.layoutputs

theorem destroyOutput (around : Around base w) {output : OutputPtr}
    (new : base.nextOutput ≤ output) : Around base (w.destroyOutput output) where
  outputs other old := by
    have different : other ≠ output := Nat.ne_of_lt (Nat.lt_of_lt_of_le old new)
    rw [destroyOutput_outputs, if_neg different, around.outputs other old]
  nextOutput := around.nextOutput
  heads head := by
    rw [← around.heads head]
    change ((w.heads head).map _).map _ = _
    rw [Option.map_map]
    congr 1
    funext value
    dsimp only [Function.comp]
    split <;> rfl
  attached head other old := by
    have different : other ≠ output := Nat.ne_of_lt (Nat.lt_of_lt_of_le old new)
    rw [← around.attached head other old, destroyOutput_outputOf]
    split
    · rename_i here
      rw [here]
      constructor
      · intro impossible
        cases impossible
      · intro same
        exact absurd (Option.some.inj same).symm different
    · rfl
  cells cell other old := by
    have different : other ≠ output := Nat.ne_of_lt (Nat.lt_of_lt_of_le old new)
    rw [← around.cells cell other old]
    change (if w.cells cell = some output then none else w.cells cell) = some other ↔ _
    split
    · rename_i here
      rw [here]
      constructor
      · intro impossible
        cases impossible
      · intro same
        exact absurd (Option.some.inj same).symm different
    · rfl
  headList := around.headList
  backends := around.backends
  layoutputs := around.layoutputs

/-! ### Whole functions -/

theorem rules (base : World) : CallRules base.nextOutput (Around base) where
  bounded around := around.nextOutput
  same around same :=
    around.of_same same.outputs same.nextOutput same.heads same.cells same.headList same.backends
      same.layoutputs
  setOutput around new := around.setOutput new
  resetDeviceChanged around := around.resetDeviceChanged
  addOutput around found free := around.addOutput found free
  destroyOutput around new := around.destroyOutput new

/-- What the listeners of a created output do stays around what there was. -/
def Listens (created : OutputPtr → World → World) : Prop :=
  ∀ output w, Around w (created output w)

theorem registerHead (around : Around base w) (head : HeadPtr) :
    Around base (w.registerHead head) :=
  (rules base).registerHead around head

theorem enableHead (around : Around base w) {created : OutputPtr → World → World}
    (listens : Listens created) (answers : Answers) (head : HeadPtr) (setup : HeadSetup)
    (mirrorOf : Option OutputPtr) (color : ColorSetup) :
    Around base (w.enableHead answers created head setup mirrorOf color) :=
  (rules base).enableHead around (fun output now around => around.trans (listens output now))
    answers head setup mirrorOf color

theorem mirrorOnOutputCreated (answers : Answers) (policy : OutputPolicy) (left : Nat) :
    Listens (World.mirrorOnOutputCreated answers policy left) :=
  fun output w => (rules w).mirrorOnOutputCreated answers policy left output w (refl w)

theorem outputCreated (answers : Answers) (policy : OutputPolicy) :
    Listens (World.outputCreated answers policy) :=
  fun output w => mirrorOnOutputCreated answers policy (w.headList.length + 1) output w

end Around

end Westonite.Output
