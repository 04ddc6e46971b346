import Westonite.Output.PlacementRuns
import Westonite.Output.Turns

/-! Every step of the machine but a resize enables, destroys and leaves outputs the
way the runs of `PlacementStep` do. -/

set_option autoImplicit false

namespace Westonite.Output

open Library

/-- What is known of the places in every run. -/
abbrev anywhere : Coord → Coord → Prop := fun _ _ => True

/-- The outputs came to be where they are by the operations of `PlacementStep`. -/
structure Reaches (answers : Answers) (policy : OutputPolicy) (base w : World) : Prop where
  run : ∃ labels, Run (PlacementStep answers policy) base labels w
  placed : Placed anywhere w

namespace Reaches

variable {answers : Answers} {policy : OutputPolicy} {base w now : World}

theorem step (reaches : Reaches answers policy base w) {label : PlacementLabel}
    (moved : PlacementStep answers policy w label now) : Reaches answers policy base now := by
  obtain ⟨labels, run⟩ := reaches.run
  exact ⟨⟨_, run.snoc moved⟩, reaches.placed.step (fun _ _ _ _ => trivial) moved⟩

theorem quiet (reaches : Reaches answers policy base w) (same : SamePlaces w now) :
    Reaches answers policy base now :=
  reaches.step (.quiet same)

theorem of_same (reaches : Reaches answers policy base w) (outputs : now.outputs = w.outputs)
    (outputList : now.outputList = w.outputList) (nextOutput : now.nextOutput = w.nextOutput) :
    Reaches answers policy base now :=
  reaches.quiet (.of_same reaches.placed outputs outputList nextOutput)

theorem call (reaches : Reaches answers policy base w) :
    Reaches answers policy base (w.call answers).2 :=
  reaches.of_same rfl rfl rfl

/-! ### Groups -/

theorem tryAttach (reaches : Reaches answers policy base w) (output : OutputPtr)
    (add : List (Option HeadPtr)) :
    Reaches answers policy base (w.tryAttach answers output add).2.2 := by
  cases add with
  | nil => exact reaches
  | cons first slots =>
      have same := (attachRest_attached answers output slots w).same
      exact reaches.of_same same.outputs same.outputList same.nextOutput

theorem configureDrm (reaches : Reaches answers policy base w) {output : OutputPtr}
    (down : w.isEnabled output = false) (setup : DrmOutputSetup) :
    Reaches answers policy base (w.configureDrm answers output setup).2 := by
  have isDown : ∀ out, w.outputs output = some out → out.enabled = false := by
    intro out there
    unfold World.isEnabled at down
    rw [there] at down
    exact down
  have mode := reaches.call.call
  have set : ∀ {change : WestonOutput → WestonOutput},
      (∀ out, (change out).enabled = out.enabled) → Reaches answers policy base
        ((((w.call answers).2.call answers).2).setOutput output change) :=
    fun same => mode.quiet (.setOutput mode.placed isDown same)
  unfold World.configureDrm
  dsimp only
  split
  · exact reaches.call
  · split
    · exact mode
    · split
      · apply call
        exact set fun _ => rfl
      · obtain ⟨calls, same⟩ := applyColor_calls answers _ setup.color true
        rw [same]
        refine of_same (call (set ?_)) rfl rfl rfl
        exact fun _ => rfl

theorem tryOnce (reaches : Reaches answers policy base w) (output : OutputPtr) :
    Reaches answers policy base (w.tryOnce answers policy output).2 :=
  reaches.step (.tryEnable w output)

theorem undoHeads (reaches : Reaches answers policy base w) (output : OutputPtr)
    (slots : List (Option HeadPtr)) (failed : List HeadPtr) :
    Reaches answers policy base (World.undoHeads answers policy output slots failed w).2 := by
  induction slots generalizing failed w with
  | nil => exact reaches
  | cons slot slots ih =>
      cases slot with
      | none => exact ih reaches failed
      | some victim =>
          have detached : Reaches answers policy base (w.detachHead victim) :=
            reaches.of_same rfl rfl rfl
          unfold World.undoHeads
          dsimp only
          split
          · exact detached.tryOnce output
          · exact ih (detached.tryOnce output) (failed ++ [victim])

theorem tryEnable (reaches : Reaches answers policy base w) (output : OutputPtr)
    (undo : List (Option HeadPtr)) (failed : List HeadPtr) :
    Reaches answers policy base (w.tryEnable answers policy output undo failed).2 := by
  unfold World.tryEnable
  dsimp only
  split
  · exact reaches.tryOnce output
  · exact (reaches.tryOnce output).undoHeads output undo.reverse failed

theorem tryAttachEnable (reaches : Reaches answers policy base w) {output : OutputPtr}
    (down : w.isEnabled output = false) (index : Nat) (setup : DrmOutputSetup) :
    Reaches answers policy base (w.tryAttachEnable answers policy output index setup).2 := by
  have attached := reaches.tryAttach output (w.stagedIn index)
  have stillDown : (w.tryAttach answers output (w.stagedIn index)).2.2.isEnabled output =
      false := by
    unfold World.tryAttach World.isEnabled
    cases w.stagedIn index with
    | nil => exact down
    | cons first slots =>
        rw [(attachRest_attached answers output slots w).same.outputs]
        exact down
  have configured := attached.configureDrm stillDown setup
  unfold World.tryAttachEnable
  dsimp only
  split
  · exact configured
  · have enabled := configured.tryEnable output
      (w.tryAttach answers output (w.stagedIn index)).1
      (w.tryAttach answers output (w.stagedIn index)).2.1
    split
    · exact enabled
    · obtain ⟨heads, registered⟩ := registerHeads_fields _ _
      rw [registered]
      exact enabled.of_same rfl rfl rfl

theorem destroyEntry (reaches : Reaches answers policy base w) (index : Nat) (cell : CellId) :
    Reaches answers policy base (w.destroyEntry index cell) := by
  unfold World.destroyEntry
  cases w.cells cell with
  | none => exact reaches.of_same rfl rfl rfl
  | some output => exact (reaches.step (.destroy w output)).of_same rfl rfl rfl

theorem createOutputWithHead (reaches : Reaches answers policy base w) (index : Nat)
    (name : String) (head : HeadPtr) :
    Reaches answers policy base (w.createOutputWithHead answers index name head).2 := by
  unfold World.createOutputWithHead
  rcases createOutput_cases w answers head name with none | ⟨value, _, _, made⟩
  · rw [none]
    exact reaches.call
  · rw [made]
    have added := reaches.call.quiet (.addOutput reaches.call.placed head name value.backend)
    exact added.of_same rfl rfl rfl

theorem tryExisting (reaches : Reaches answers policy base w) (index : Nat)
    (existing : List CellId) :
    Reaches answers policy base (World.tryExisting answers index existing w).2 := by
  induction existing generalizing w with
  | nil => exact reaches
  | cons cell existing ih =>
      unfold World.tryExisting
      cases w.cells cell with
      | none =>
          apply ih
          exact reaches.of_same rfl rfl rfl
      | some output =>
          have attached := reaches.tryAttach output (w.stagedIn index)
          have restaged : Reaches answers policy base
              ((w.tryAttach answers output (w.stagedIn index)).2.2.setAdd index
                ((w.tryAttach answers output (w.stagedIn index)).2.1.map some)) :=
            attached.of_same rfl rfl rfl
          dsimp only
          split
          · exact restaged
          · exact ih restaged

theorem createRest (reaches : Reaches answers policy base w) (index : Nat)
    (group sectionHead : String) (currentMode : Bool) (left : Nat) (reuseName : Bool) :
    Reaches answers policy base (World.createRest answers policy index group sectionHead
      currentMode left reuseName w).2 := by
  induction left generalizing reuseName w with
  | zero => exact reaches
  | succ left ih =>
      unfold World.createRest
      split
      · exact reaches
      · rename_i first slots staged
        have inside : index < w.layoutputs.length := stagedIn_inside (by rw [staged]; simp)
        split
        · exact reaches
        · split
          · exact reaches
          · rename_i head
            have made := reaches.createOutputWithHead index
              (if reuseName then group else group ++ ":" ++ w.headName head) head
            dsimp only
            split
            · rename_i nothing
              rw [nothing] at made
              exact made
            · rename_i cell output after something
              rw [something] at made
              have down := (createOutputWithHead_created something inside).down
              have tried := made.tryAttachEnable down index
                (World.groupSetup policy sectionHead currentMode)
              split
              · exact tried.destroyEntry index cell
              · exact ih tried false

theorem processOne (reaches : Reaches answers policy base w) (index : Nat)
    (currentMode : Bool) :
    Reaches answers policy base (w.processOne answers policy index currentMode).2 := by
  have existing := reaches.tryExisting index (w.outputsIn index)
  unfold World.processOne
  split
  · rename_i done
    rw [done] at existing
    exact existing
  · rename_i left
    rw [left] at existing
    exact existing.createRest index _ _ currentMode 2 _

theorem processGroups (reaches : Reaches answers policy base w) (currentMode : Bool)
    (groups : List Nat) :
    Reaches answers policy base (World.processGroups answers policy currentMode groups w).2 := by
  induction groups generalizing w with
  | nil => exact reaches
  | cons index groups ih =>
      have processed := reaches.processOne index currentMode
      unfold World.processGroups
      dsimp only
      split
      · exact ih reaches
      · split
        · exact ih processed
        · apply ih
          exact processed.of_same rfl rfl rfl

theorem flushGroups (reaches : Reaches answers policy base w) {config : Config}
    (same : config.policy = policy) :
    Reaches answers policy base (w.flushGroups answers config) := by
  subst same
  have processed : Reaches answers config.policy base
      (w.processAll answers config.policy config.currentMode config.requireOutputs).2 :=
    reaches.processGroups config.currentMode (List.range w.layoutputs.length)
  unfold World.flushGroups
  dsimp only
  split
  · exact processed
  · exact processed.of_same rfl rfl rfl

/-! ### Heads -/

theorem headDetached (reaches : Reaches answers policy base w) (output : OutputPtr) :
    Reaches answers policy base (w.headDetached output) := by
  unfold World.headDetached
  split
  · exact reaches
  · dsimp only
    split
    · exact reaches
    · split
      · exact reaches
      · exact reaches.destroyEntry _ _

theorem drmHeadDisable (reaches : Reaches answers policy base w) (head : HeadPtr) :
    Reaches answers policy base (w.drmHeadDisable head) := by
  have detached : Reaches answers policy base (w.detachHead head) := reaches.of_same rfl rfl rfl
  unfold World.drmHeadDisable
  cases w.outputOf head with
  | none => exact detached
  | some output => exact detached.headDetached output

theorem addHead (reaches : Reaches answers policy base w) (group sectionHead : String)
    (head : HeadPtr) : Reaches answers policy base (w.addHead group sectionHead head) := by
  obtain ⟨layoutputs, same⟩ := addHead_fields w group sectionHead head
  rw [same]
  exact reaches.of_same rfl rfl rfl

theorem drmPrepareEnable (reaches : Reaches answers policy base w) (config : Config)
    (head : HeadPtr) (value : WestonHead) :
    Reaches answers policy base (w.drmPrepareEnable config head value) := by
  unfold World.drmPrepareEnable
  split
  · exact reaches.addHead _ _ head
  · exact reaches
  · exact reaches
  · exact reaches.addHead _ _ head

theorem visitHead {config : Config} (reaches : Reaches answers config.policy base w)
    (head : HeadPtr) :
    Reaches answers config.policy base (w.visitHead answers config head).2 := by
  refine @World.visitHead_keeps answers config (Reaches answers config.policy base) w head ?_
    fun now reaches => reaches.of_same rfl rfl rfl
  intro now visited
  cases visited with
  | left => exact reaches
  | prepared value => exact reaches.drmPrepareEnable config head value
  | drmDisabled => exact reaches.drmHeadDisable head
  | enabled => exact reaches.step (.enableHead w head _ _)
  | registered =>
      unfold World.registerHead
      split
      · exact reaches
      · exact reaches.of_same rfl rfl rfl
  | disabled =>
      unfold World.disableHead
      cases w.outputOf head with
      | none => exact reaches
      | some output => exact reaches.step (.destroy w output)

end Reaches

/-- A run of the machine without a resize places its outputs by the operations of
`PlacementStep`. -/
theorem machine_reaches {answers : Answers} {config : Config}
    {backends : List (BackendPtr × BackendKind)} {useColorManager : Bool} {labels : List Label}
    {m : Machine}
    (run : Run (Machine.Step answers config) (.start backends useColorManager) labels m)
    (steady : ∀ output geometry, Label.resized output geometry ∉ labels) :
    Reaches answers config.policy (.new backends useColorManager) m.world := by
  induction run with
  | nil => exact ⟨⟨[], .nil⟩, .new anywhere backends useColorManager⟩
  | @snoc middle final labels label before taken ih =>
      have reaches := ih fun output geometry member =>
        steady output geometry (List.mem_append_left _ member)
      have last := fun output geometry (same : label = .resized output geometry) =>
        steady output geometry (List.mem_append_right _ (by rw [same]; exact List.mem_cons_self))
      cases Machine.moved_of_step answers config taken with
      | headAdded => exact reaches.of_same rfl rfl rfl
      | headChanged => exact reaches.of_same rfl rfl rfl
      | flush => exact reaches
      | groups => exact reaches.flushGroups rfl
      | flushed => exact reaches
      | visit head => exact reaches.visitHead head
      | resized output geometry => exact absurd rfl (last output geometry)
      | outputDestroyed output => exact reaches.step (.destroy _ output)

end Westonite.Output
