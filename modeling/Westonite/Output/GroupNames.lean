import Westonite.Output.StagedHeads

/-! What names a group stays as it is, whatever is attached, created, enabled or
destroyed for it; only a head that is staged brings a new group. -/

set_option autoImplicit false

namespace Westonite.Output

/-- What a group is known by: its name and the head it was created for. -/
def Layoutput.key (lo : Layoutput) : String × String := (lo.name, lo.sectionHead)

/-- The same groups in the same order. -/
def SameGroups (w after : World) : Prop :=
  after.layoutputs.map Layoutput.key = w.layoutputs.map Layoutput.key

namespace SameGroups

variable {w middle after : World}

theorem refl (w : World) : SameGroups w w := rfl

theorem trans (first : SameGroups w middle) (second : SameGroups middle after) :
    SameGroups w after :=
  Eq.trans second first

theorem of_layoutputs (same : after.layoutputs = w.layoutputs) : SameGroups w after :=
  congrArg (List.map Layoutput.key) same

theorem mem (same : SameGroups w after) {group : Layoutput} (member : group ∈ after.layoutputs) :
    ∃ old ∈ w.layoutputs, old.key = group.key := by
  have found : group.key ∈ after.layoutputs.map Layoutput.key := List.mem_map_of_mem member
  rw [same] at found
  exact List.mem_map.mp found

theorem setLayoutput (w : World) (index : Nat) {change : Layoutput → Layoutput}
    (key : ∀ lo, (change lo).key = lo.key) : SameGroups w (w.setLayoutput index change) := by
  apply List.ext_getElem?
  intro place
  rw [List.getElem?_map, List.getElem?_map, World.setLayoutput, List.getElem?_modify]
  cases w.layoutputs[place]? with
  | none => rfl
  | some lo =>
      change some _ = some _
      split
      · exact congrArg some (key lo)
      · rfl

theorem setAdd (w : World) (index : Nat) (add : List (Option HeadPtr)) :
    SameGroups w (w.setAdd index add) :=
  setLayoutput w index fun _ => rfl

theorem removeOutput (w : World) (index : Nat) (cell : CellId) :
    SameGroups w (w.removeOutput index cell) :=
  setLayoutput w index fun _ => rfl

theorem destroyEntry (w : World) (index : Nat) (cell : CellId) :
    SameGroups w (w.destroyEntry index cell) := by
  unfold World.destroyEntry
  cases w.cells cell with
  | none => exact removeOutput w index cell
  | some output => exact removeOutput (w.destroyOutput output) index cell

theorem headDetached (w : World) (output : OutputPtr) :
    SameGroups w (w.headDetached output) := by
  unfold World.headDetached
  split
  · exact refl w
  · dsimp only
    split
    · exact refl w
    · split
      · exact refl w
      · exact destroyEntry w _ _

theorem tryAttach (w : World) (answers : Answers) (output : OutputPtr)
    (add : List (Option HeadPtr)) : SameGroups w (w.tryAttach answers output add).2.2 := by
  cases add with
  | nil => exact refl w
  | cons first slots =>
      exact of_layoutputs (attachRest_attached answers output slots w).same.layoutputs

theorem createOutputWithHead (w : World) (answers : Answers) (index : Nat) (name : String)
    (head : HeadPtr) : SameGroups w (w.createOutputWithHead answers index name head).2 := by
  unfold World.createOutputWithHead
  rcases createOutput_cases w answers head name with none | ⟨value, _, _, made⟩
  · rw [none]
    exact refl w
  · rw [made]
    exact setLayoutput _ index fun _ => rfl

theorem tryOnce (w : World) (answers : Answers) (policy : OutputPolicy) (output : OutputPtr) :
    SameGroups w (w.tryOnce answers policy output).2 := by
  unfold World.tryOnce
  split
  · exact refl w
  · rcases enable_cases (w.lazyAlign output) answers (World.outputCreated answers policy) output
      with ⟨_, down⟩ | ⟨_, _, _, _, up⟩
    · rw [down]
      exact refl w
    · rw [up]
      exact of_layoutputs (Around.outputCreated answers policy output _).layoutputs

theorem undoHeads (answers : Answers) (policy : OutputPolicy) (output : OutputPtr)
    (slots : List (Option HeadPtr)) (failed : List HeadPtr) (w : World) :
    SameGroups w (World.undoHeads answers policy output slots failed w).2 := by
  induction slots generalizing failed w with
  | nil => exact refl w
  | cons slot slots ih =>
      cases slot with
      | none => exact ih failed w
      | some victim =>
          have tried := tryOnce (w.detachHead victim) answers policy output
          unfold World.undoHeads
          dsimp only
          split
          · exact tried
          · exact tried.trans (ih (failed ++ [victim]) _)

theorem tryEnable (w : World) (answers : Answers) (policy : OutputPolicy) (output : OutputPtr)
    (undo : List (Option HeadPtr)) (failed : List HeadPtr) :
    SameGroups w (w.tryEnable answers policy output undo failed).2 := by
  have tried := tryOnce w answers policy output
  unfold World.tryEnable
  dsimp only
  split
  · exact tried
  · exact tried.trans (undoHeads answers policy output undo.reverse failed _)

theorem tryAttachEnable (w : World) (answers : Answers) (policy : OutputPolicy)
    (output : OutputPtr) (index : Nat) (setup : DrmOutputSetup) :
    SameGroups w (w.tryAttachEnable answers policy output index setup).2 := by
  have attached := tryAttach w answers output (w.stagedIn index)
  have configured := attached.trans (of_layoutputs (configureDrm_same
    (w.tryAttach answers output (w.stagedIn index)).2.2 answers output setup).layoutputs)
  unfold World.tryAttachEnable
  dsimp only
  split
  · exact configured
  · have enabled := configured.trans (tryEnable _ answers policy output
      (w.tryAttach answers output (w.stagedIn index)).1
      (w.tryAttach answers output (w.stagedIn index)).2.1)
    split
    · exact enabled
    · refine enabled.trans (trans ?_ (setAdd _ index _))
      obtain ⟨heads, registered⟩ := registerHeads_fields _ _
      rw [registered]
      exact refl _

theorem tryExisting (answers : Answers) (index : Nat) (existing : List CellId) (w : World) :
    SameGroups w (World.tryExisting answers index existing w).2 := by
  induction existing generalizing w with
  | nil => exact refl w
  | cons cell existing ih =>
      unfold World.tryExisting
      cases w.cells cell with
      | none => exact (removeOutput w index cell).trans (ih _)
      | some output =>
          have attached := (tryAttach w answers output (w.stagedIn index)).trans (setAdd _ index
            ((w.tryAttach answers output (w.stagedIn index)).2.1.map some))
          dsimp only
          split
          · exact attached
          · exact attached.trans (ih _)

theorem createRest (answers : Answers) (policy : OutputPolicy) (index : Nat)
    (group sectionHead : String) (currentMode : Bool) (left : Nat) (reuseName : Bool) (w : World) :
    SameGroups w (World.createRest answers policy index group sectionHead currentMode left
      reuseName w).2 := by
  induction left generalizing reuseName w with
  | zero => exact refl w
  | succ left ih =>
      unfold World.createRest
      split
      · exact refl w
      · split
        · exact refl w
        · split
          · exact refl w
          · rename_i head _
            have made := createOutputWithHead w answers index
              (if reuseName then group else group ++ ":" ++ w.headName head) head
            dsimp only
            split
            · rename_i nothing
              rw [nothing] at made
              exact made
            · rename_i cell output after something
              rw [something] at made
              have tried := made.trans (tryAttachEnable after answers policy output index
                (World.groupSetup policy sectionHead currentMode))
              split
              · exact tried.trans (destroyEntry _ index cell)
              · exact tried.trans (ih false _)

theorem processOne (w : World) (answers : Answers) (policy : OutputPolicy) (index : Nat)
    (currentMode : Bool) : SameGroups w (w.processOne answers policy index currentMode).2 := by
  have existing := tryExisting answers index (w.outputsIn index) w
  unfold World.processOne
  split
  · rename_i done
    rw [done] at existing
    exact existing
  · rename_i left
    rw [left] at existing
    exact existing.trans (createRest answers policy index _ _ currentMode 2 _ _)

theorem processGroups (answers : Answers) (policy : OutputPolicy) (currentMode : Bool)
    (groups : List Nat) (w : World) :
    SameGroups w (World.processGroups answers policy currentMode groups w).2 := by
  induction groups generalizing w with
  | nil => exact refl w
  | cons index groups ih =>
      have processed := processOne w answers policy index currentMode
      unfold World.processGroups
      dsimp only
      split
      · exact ih w
      · split
        · exact processed.trans (ih _)
        · exact (processed.trans (setAdd _ index [])).trans (ih _)

theorem flushGroups (w : World) (answers : Answers) (config : Config) :
    SameGroups w (w.flushGroups answers config) := by
  have processed := processGroups answers config.policy config.currentMode
    (List.range w.layoutputs.length) w
  have answered : (w.processAll answers config.policy config.currentMode
      config.requireOutputs).2 = (World.processGroups answers config.policy config.currentMode
        (List.range w.layoutputs.length) w).2 := rfl
  unfold World.flushGroups
  dsimp only
  rw [answered]
  split
  · exact processed
  · exact processed

theorem mirrorOnOutputResized (w : World) (policy : OutputPolicy) (resized : OutputPtr) :
    SameGroups w (w.mirrorOnOutputResized policy resized) := by
  unfold World.mirrorOnOutputResized World.applyMirrorModeline
  split
  · exact refl w
  · split
    · exact refl w
    · split
      · dsimp only
        split
        · exact refl w
        · split
          · exact refl w
          · exact refl w
      · exact refl w

end SameGroups

end Westonite.Output
