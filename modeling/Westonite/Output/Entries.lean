import Westonite.Output.GroupNames

/-! The entries of the groups: which output a cell holds, and that it is up,
whatever is attached, created, enabled or destroyed. -/

set_option autoImplicit false

namespace Westonite.Output

open Library

variable {base w now after : World}

/-- No cell is filled and no head lands on an output that is not there yet. -/
structure Narrows (base now : World) : Prop where
  nextOutput : base.nextOutput ≤ now.nextOutput
  nextCell : now.nextCell = base.nextCell
  cells : ∀ cell output, now.cells cell = some output → base.cells cell = some output
  attached : ∀ head output, now.outputOf head = some output →
    base.outputOf head = some output ∨ output < now.nextOutput

/-- Beside outputs from `bound` on, all outputs are up or down as before. -/
structure Aside (bound : OutputPtr) (base now : World) : Prop extends Narrows base now where
  enabled : ∀ output, output < bound → now.isEnabled output = base.isEnabled output
  kept : ∀ cell output, output < bound → base.cells cell = some output →
    now.cells cell = some output
  layoutputs : now.layoutputs = base.layoutputs

namespace Narrows

theorem refl (w : World) : Narrows w w where
  nextOutput := Nat.le_refl _
  nextCell := rfl
  cells _ _ := id
  attached _ _ := .inl

theorem trans (first : Narrows base w) (second : Narrows w now) : Narrows base now where
  nextOutput := Nat.le_trans first.nextOutput second.nextOutput
  nextCell := second.nextCell.trans first.nextCell
  cells cell output held := first.cells cell output (second.cells cell output held)
  attached head output on := by
    rcases second.attached head output on with before | new
    · rcases first.attached head output before with oldest | bounded
      · exact .inl oldest
      · exact .inr (Nat.lt_of_lt_of_le bounded second.nextOutput)
    · exact .inr new

/-- Whatever leaves heads and cells alone. -/
theorem of_same (narrows : Narrows base w) (heads : now.heads = w.heads)
    (nextOutput : now.nextOutput = w.nextOutput) (cells : now.cells = w.cells)
    (nextCell : now.nextCell = w.nextCell) : Narrows base now where
  nextOutput := by
    rw [nextOutput]
    exact narrows.nextOutput
  nextCell := nextCell.trans narrows.nextCell
  cells cell output held := narrows.cells cell output (cells ▸ held)
  attached head output on := by
    unfold World.outputOf at on
    rw [heads] at on
    rw [nextOutput]
    exact narrows.attached head output on

theorem fail (narrows : Narrows base w) : Narrows base w.fail :=
  narrows.of_same rfl rfl rfl rfl

theorem setHead (narrows : Narrows base w) (head : HeadPtr) {change : WestonHead → WestonHead}
    (bounded : ∀ value output, (change value).output = some output →
      value.output = some output ∨ output < w.nextOutput) :
    Narrows base (w.setHead head change) where
  nextOutput := narrows.nextOutput
  nextCell := narrows.nextCell
  cells := narrows.cells
  attached other output on := by
    rw [setHead_outputOf] at on
    split at on
    · rename_i here
      obtain ⟨value, found, moved⟩ := Option.bind_eq_some_iff.mp on
      rcases bounded value output moved with before | new
      · apply narrows.attached
        rw [here, World.outputOf, found, Option.bind_some, before]
      · exact .inr new
    · exact narrows.attached other output on

theorem detachHead (narrows : Narrows base w) (head : HeadPtr) :
    Narrows base (w.detachHead head) :=
  narrows.setHead head fun _ _ impossible => by cases impossible

theorem resetDeviceChanged (narrows : Narrows base w) (head : HeadPtr) :
    Narrows base (w.resetDeviceChanged head) :=
  narrows.setHead head fun _ _ => .inl

theorem addOutput (narrows : Narrows base w) (head : HeadPtr) (name : String)
    (backend : BackendPtr) : Narrows base (w.addOutput head name backend) where
  nextOutput := Nat.le_succ_of_le narrows.nextOutput
  nextCell := narrows.nextCell
  cells := narrows.cells
  attached other output on := by
    change (w.setHead head _).outputOf other = some output at on
    rw [setHead_outputOf] at on
    split at on
    · obtain ⟨value, _, moved⟩ := Option.bind_eq_some_iff.mp on
      obtain rfl := Option.some.inj moved
      exact .inr (Nat.lt_succ_self _)
    · exact (narrows.attached other output on).imp id Nat.lt_succ_of_lt

theorem destroyOutput (narrows : Narrows base w) (output : OutputPtr) :
    Narrows base (w.destroyOutput output) where
  nextOutput := narrows.nextOutput
  nextCell := narrows.nextCell
  cells cell other held := by
    apply narrows.cells cell other
    change (if w.cells cell = some output then none else w.cells cell) = some other at held
    split at held
    · cases held
    · exact held
  attached head other on := by
    apply narrows.attached head other
    rw [destroyOutput_outputOf] at on
    split at on
    · cases on
    · exact on

theorem rules (base : World) : CallRules 0 (Narrows base) where
  bounded _ := Nat.zero_le _
  same narrows same := narrows.of_same same.heads same.nextOutput same.cells same.nextCell
  setOutput narrows _ _ := narrows.of_same rfl rfl rfl rfl
  resetDeviceChanged narrows := narrows.resetDeviceChanged
  addOutput narrows _ _ name := narrows.addOutput _ name _
  destroyOutput narrows _ := narrows.destroyOutput _

/-- The listeners of a created output narrow. -/
def Listens (created : OutputPtr → World → World) : Prop :=
  ∀ output w, Narrows w (created output w)

theorem enableHead (narrows : Narrows base w) {created : OutputPtr → World → World}
    (listens : Listens created) (answers : Answers) (head : HeadPtr) (setup : HeadSetup)
    (mirrorOf : Option OutputPtr) (color : ColorSetup) :
    Narrows base (w.enableHead answers created head setup mirrorOf color) :=
  (rules base).enableHead narrows (fun output now narrows => narrows.trans (listens output now))
    answers head setup mirrorOf color

theorem outputCreated (answers : Answers) (policy : OutputPolicy) :
    Listens (World.outputCreated answers policy) :=
  fun output w =>
    (rules w).mirrorOnOutputCreated answers policy (w.headList.length + 1) output w (refl w)

end Narrows

namespace Aside

variable {bound : OutputPtr}

theorem refl (bound : OutputPtr) (w : World) : Aside bound w w where
  toNarrows := .refl w
  enabled _ _ := rfl
  kept _ _ _ := id
  layoutputs := rfl

theorem trans (first : Aside bound base w) (second : Aside bound w now) :
    Aside bound base now where
  toNarrows := first.toNarrows.trans second.toNarrows
  enabled output old := (second.enabled output old).trans (first.enabled output old)
  kept cell output old held := second.kept cell output old (first.kept cell output old held)
  layoutputs := second.layoutputs.trans first.layoutputs

theorem of_same (aside : Aside bound base w) (heads : now.heads = w.heads)
    (outputs : now.outputs = w.outputs) (nextOutput : now.nextOutput = w.nextOutput)
    (cells : now.cells = w.cells) (nextCell : now.nextCell = w.nextCell)
    (layoutputs : now.layoutputs = w.layoutputs) : Aside bound base now where
  toNarrows := aside.toNarrows.of_same heads nextOutput cells nextCell
  enabled output old := by
    unfold World.isEnabled
    rw [outputs]
    exact aside.enabled output old
  kept cell output old held := by
    rw [cells]
    exact aside.kept cell output old held
  layoutputs := layoutputs.trans aside.layoutputs

theorem call (aside : Aside bound base w) (answers : Answers) :
    Aside bound base (w.call answers).2 :=
  aside.of_same rfl rfl rfl rfl rfl rfl

theorem setHead (aside : Aside bound base w) (head : HeadPtr) {change : WestonHead → WestonHead}
    (bounded : ∀ value output, (change value).output = some output →
      value.output = some output ∨ output < w.nextOutput) :
    Aside bound base (w.setHead head change) where
  toNarrows := aside.toNarrows.setHead head bounded
  enabled := aside.enabled
  kept := aside.kept
  layoutputs := aside.layoutputs

theorem setOutput (aside : Aside bound base w) {output : OutputPtr} (new : bound ≤ output)
    (change : WestonOutput → WestonOutput) : Aside bound base (w.setOutput output change) where
  toNarrows := aside.toNarrows.of_same rfl rfl rfl rfl
  enabled other old := by
    have different : other ≠ output := Nat.ne_of_lt (Nat.lt_of_lt_of_le old new)
    rw [← aside.enabled other old]
    change (Function.update w.outputs output _ other).any _ = _
    rw [Function.update_of_ne different]
    rfl
  kept := aside.kept
  layoutputs := aside.layoutputs

/-- What the listeners of a created output do to the outputs there were. -/
theorem of_around (around : Around base now) (narrows : Narrows base now)
    (old : bound ≤ base.nextOutput) : Aside bound base now where
  toNarrows := narrows
  enabled output before := by
    unfold World.isEnabled
    rw [around.outputs output (Nat.lt_of_lt_of_le before old)]
  kept cell output before held :=
    (around.cells cell output (Nat.lt_of_lt_of_le before old)).mpr held
  layoutputs := around.layoutputs

theorem attachHead (aside : Aside bound base w) (answers : Answers) {output : OutputPtr}
    (there : output < w.nextOutput) (head : HeadPtr) :
    Aside bound base (w.attachHead answers output head).2 := by
  have called := aside.call answers
  unfold World.attachHead
  dsimp only
  split
  · exact called
  · split
    · refine called.setHead head ?_
      intro value other moved
      obtain rfl := Option.some.inj moved
      exact .inr there
    · exact called

theorem attachRest (aside : Aside bound base w) (answers : Answers) {output : OutputPtr}
    (there : output < w.nextOutput) (slots : List (Option HeadPtr)) :
    Aside bound base (World.attachRest answers output slots w).2.2 := by
  induction slots generalizing w with
  | nil => exact aside
  | cons slot slots ih =>
      cases slot with
      | none => exact ih aside there
      | some head =>
          have one := aside.attachHead answers there head
          have bounded : output < (w.attachHead answers output head).2.nextOutput := by
            rw [(attachHead_same w answers output head).nextOutput]
            exact there
          have rest := ih one bounded
          unfold World.attachRest
          dsimp only
          split
          · exact rest
          · exact rest

theorem tryAttach (aside : Aside bound base w) (answers : Answers) {output : OutputPtr}
    (there : output < w.nextOutput) (add : List (Option HeadPtr)) :
    Aside bound base (w.tryAttach answers output add).2.2 := by
  cases add with
  | nil => exact aside
  | cons first slots => exact aside.attachRest answers there slots

theorem configureDrm (aside : Aside bound base w) (answers : Answers) {output : OutputPtr}
    (new : bound ≤ output) (setup : DrmOutputSetup) :
    Aside bound base (w.configureDrm answers output setup).2 := by
  have api := aside.call answers
  have mode := api.call answers
  have set := fun change => (mode.setOutput new change).call answers
  unfold World.configureDrm
  dsimp only
  split
  · exact api
  · split
    · exact mode
    · split
      · exact set _
      · obtain ⟨calls, same⟩ := applyColor_calls answers _ setup.color true
        rw [same]
        exact (set _).of_same rfl rfl rfl rfl rfl rfl

theorem tryOnce (aside : Aside bound base w) (answers : Answers) (policy : OutputPolicy)
    {output : OutputPtr} (new : bound ≤ output) (there : bound ≤ w.nextOutput) :
    Aside bound base (w.tryOnce answers policy output).2 := by
  have aligned : Aside bound base (w.lazyAlign output) := aside.setOutput new _
  unfold World.tryOnce
  split
  · exact aside
  · rcases enable_cases (w.lazyAlign output) answers (World.outputCreated answers policy) output
      with ⟨_, down⟩ | ⟨_, _, _, _, up⟩
    · rw [down]
      exact aligned.call answers
    · rw [up]
      have marked : Aside bound base (((w.lazyAlign output).call answers).2.markEnabled output
          (answers.geometry (w.lazyAlign output).calls)) :=
        ((aligned.call answers).setOutput new _).of_same rfl rfl rfl rfl rfl rfl
      refine marked.trans ?_
      exact of_around (Around.outputCreated answers policy output _)
        (Narrows.outputCreated answers policy output _) there

theorem undoHeads (aside : Aside bound base w) (answers : Answers) (policy : OutputPolicy)
    {output : OutputPtr} (new : bound ≤ output) (there : bound ≤ base.nextOutput)
    (slots : List (Option HeadPtr)) (failed : List HeadPtr) :
    Aside bound base (World.undoHeads answers policy output slots failed w).2 := by
  induction slots generalizing failed w with
  | nil => exact aside
  | cons slot slots ih =>
      cases slot with
      | none => exact ih aside failed
      | some victim =>
          have detached : Aside bound base (w.detachHead victim) :=
            aside.setHead victim fun _ _ impossible => by cases impossible
          have tried := detached.tryOnce answers policy new
            (Nat.le_trans there detached.nextOutput)
          unfold World.undoHeads
          dsimp only
          split
          · exact tried
          · exact ih tried (failed ++ [victim])

theorem tryEnable (aside : Aside bound base w) (answers : Answers) (policy : OutputPolicy)
    {output : OutputPtr} (new : bound ≤ output) (there : bound ≤ base.nextOutput)
    (undo : List (Option HeadPtr)) (failed : List HeadPtr) :
    Aside bound base (w.tryEnable answers policy output undo failed).2 := by
  have tried := aside.tryOnce answers policy new (Nat.le_trans there aside.nextOutput)
  unfold World.tryEnable
  dsimp only
  split
  · exact tried
  · exact tried.undoHeads answers policy new there undo.reverse failed

end Aside

/-! ### What the entries of a group hold -/

/-- Every head is on an output that is there, and every cell holds one that is up. -/
structure Tracked (w : World) : Prop where
  attached : ∀ head output, w.outputOf head = some output → output < w.nextOutput
  entries : ∀ cell output, w.cells cell = some output →
    output < w.nextOutput ∧ w.isEnabled output = true
  cells : ∀ index, ∀ cell ∈ w.outputsIn index, cell < w.nextCell

/-- The group has an output that is up. -/
def World.liveIn (w : World) (index : Nat) : Bool :=
  (w.outputsIn index).any fun cell => (w.cells cell).any w.isEnabled

theorem Tracked.narrows (tracked : Tracked w) (narrows : Narrows w now)
    (enabled : ∀ cell output, now.cells cell = some output → w.isEnabled output = true →
      now.isEnabled output = true)
    (outputsIn : ∀ index, ∀ cell ∈ now.outputsIn index, cell ∈ w.outputsIn index) :
    Tracked now where
  attached head output on := by
    rcases narrows.attached head output on with before | new
    · exact Nat.lt_of_lt_of_le (tracked.attached head output before) narrows.nextOutput
    · exact new
  entries cell output held := by
    obtain ⟨bounded, up⟩ := tracked.entries cell output (narrows.cells cell output held)
    exact ⟨Nat.lt_of_lt_of_le bounded narrows.nextOutput, enabled cell output held up⟩
  cells index cell member := by
    rw [narrows.nextCell]
    exact tracked.cells index cell (outputsIn index cell member)

theorem liveIn_congr {index : Nat} (outputsIn : now.outputsIn index = w.outputsIn index)
    (held : ∀ cell ∈ w.outputsIn index,
      (now.cells cell).any now.isEnabled = (w.cells cell).any w.isEnabled) :
    now.liveIn index = w.liveIn index := by
  unfold World.liveIn
  rw [outputsIn, Bool.eq_iff_iff, List.any_eq_true, List.any_eq_true]
  constructor
  · intro ⟨cell, member, up⟩
    exact ⟨cell, member, held cell member ▸ up⟩
  · intro ⟨cell, member, up⟩
    exact ⟨cell, member, (held cell member).symm ▸ up⟩

theorem liveIn_of_entry {index : Nat} {cell : CellId} {output : OutputPtr}
    (entry : cell ∈ w.outputsIn index) (held : w.cells cell = some output)
    (up : w.isEnabled output = true) : w.liveIn index = true := by
  refine List.any_eq_true.mpr ⟨cell, entry, ?_⟩
  rw [held, Option.any_some, up]

/-- A cell that holds none of the outputs from `bound` on holds what it held. -/
theorem Aside.held {bound : OutputPtr} (aside : Aside bound base now) {cell : CellId}
    (bounded : ∀ output, base.cells cell = some output → output < bound) :
    now.cells cell = base.cells cell ∧
      (now.cells cell).any now.isEnabled = (base.cells cell).any base.isEnabled := by
  cases holds : base.cells cell with
  | none =>
      have empty : now.cells cell = none := by
        cases after : now.cells cell with
        | none => rfl
        | some output =>
            rw [aside.cells cell output after] at holds
            cases holds
      rw [empty]
      exact ⟨rfl, rfl⟩
  | some output =>
      have old := bounded output holds
      rw [aside.kept cell output old holds, Option.any_some, Option.any_some,
        aside.enabled output old]
      exact ⟨rfl, rfl⟩

/-! ### The groups a function does not process -/

theorem removeOutput_outputsIn (w : World) (index : Nat) (cell : CellId) :
    (w.removeOutput index cell).outputsIn index =
      (w.outputsIn index).filter fun other => other ≠ cell := by
  unfold World.outputsIn World.removeOutput World.setLayoutput
  rw [List.getElem?_modify_eq]
  cases w.layoutputs[index]? <;> rfl

theorem removeOutput_subset (w : World) (index other : Nat) (cell : CellId) :
    ∀ entry ∈ (w.removeOutput index cell).outputsIn other, entry ∈ w.outputsIn other := by
  intro entry member
  by_cases same : other = index
  · rw [same, removeOutput_outputsIn] at member
    exact same ▸ (List.mem_filter.mp member).1
  · unfold World.outputsIn World.removeOutput at member
    rw [setLayoutput_ne w same] at member
    exact member

/-- What is done for one group leaves the others, their entries and their staged
heads, and no output of the group goes. -/
structure Turn (index : Nat) (w after : World) : Prop where
  tracked : Tracked after
  staged : ∀ other, other ≠ index → after.stagedIn other = w.stagedIn other
  live : ∀ other, other ≠ index → after.liveIn other = w.liveIn other
  stays : w.liveIn index = true → after.liveIn index = true

namespace Turn

variable {index : Nat}

theorem refl (index : Nat) (tracked : Tracked w) : Turn index w w where
  tracked := tracked
  staged _ _ := rfl
  live _ _ := rfl
  stays := id

theorem trans (first : Turn index base w) (second : Turn index w now) : Turn index base now where
  tracked := second.tracked
  staged other different := (second.staged other different).trans (first.staged other different)
  live other different := (second.live other different).trans (first.live other different)
  stays live := second.stays (first.stays live)

/-- Whatever goes on beside the outputs there are. -/
theorem of_aside (tracked : Tracked w) (aside : Aside w.nextOutput w now) :
    Turn index w now ∧ now.liveIn index = w.liveIn index := by
  have same : ∀ other, now.liveIn other = w.liveIn other := by
    intro other
    apply liveIn_congr
    · unfold World.outputsIn
      rw [aside.layoutputs]
    · intro cell _
      exact (aside.held fun output held => (tracked.entries cell output held).1).2
  refine ⟨⟨?_, ?_, fun other _ => same other, fun live => (same index).trans live⟩, same index⟩
  · apply tracked.narrows aside.toNarrows
    · intro cell output held up
      have bounded := (tracked.entries cell output (aside.cells cell output held)).1
      rw [aside.enabled output bounded, up]
    · intro other cell member
      unfold World.outputsIn at member ⊢
      rw [aside.layoutputs] at member
      exact member
  · intro other _
    unfold World.stagedIn
    rw [aside.layoutputs]

theorem setAdd (tracked : Tracked w) (index : Nat) (add : List (Option HeadPtr)) :
    Turn index w (w.setAdd index add) ∧ (w.setAdd index add).liveIn index = w.liveIn index := by
  have same : ∀ other, (w.setAdd index add).liveIn other = w.liveIn other :=
    fun other => liveIn_congr (outputsIn_setAdd w index other add) fun _ _ => rfl
  refine ⟨⟨?_, ?_, fun other _ => same other, fun live => (same index).trans live⟩, same index⟩
  · refine tracked.narrows ((Narrows.refl w).of_same rfl rfl rfl rfl) (fun _ _ _ => id) ?_
    intro other cell member
    rw [outputsIn_setAdd] at member
    exact member
  · intro other different
    unfold World.stagedIn World.setAdd
    rw [setLayoutput_ne w different]

theorem removeOutput (tracked : Tracked w) (index : Nat) {cell : CellId}
    (dead : w.cells cell = none) :
    Turn index w (w.removeOutput index cell) ∧
      (w.removeOutput index cell).liveIn index = w.liveIn index := by
  have same : (w.removeOutput index cell).liveIn index = w.liveIn index := by
    unfold World.liveIn
    rw [removeOutput_outputsIn, List.any_filter]
    congr 1
    funext other
    change (decide (other ≠ cell) && (w.cells other).any w.isEnabled) = _
    by_cases here : other = cell
    · rw [here, dead, Option.any_none, Bool.and_false]
    · rw [decide_eq_true here, Bool.true_and]
  refine ⟨⟨?_, ?_, ?_, fun live => same.trans live⟩, same⟩
  · exact tracked.narrows ((Narrows.refl w).of_same rfl rfl rfl rfl) (fun _ _ _ => id)
      fun other => removeOutput_subset w index other cell
  · exact fun other _ => removeOutput_stagedIn w index other cell
  · intro other different
    refine liveIn_congr ?_ fun _ _ => rfl
    unfold World.outputsIn World.removeOutput
    rw [setLayoutput_ne w different]

end Turn

end Westonite.Output
