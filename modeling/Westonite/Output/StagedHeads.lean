import Westonite.Library.Run
import Westonite.Output.Around
import Westonite.Output.Flush

/-! What becomes of the heads staged on a group. -/

set_option autoImplicit false

namespace Westonite.Output

open Library

/-! ### Attaching -/

/-- The heads of a list with holes. -/
def presentHeads (slots : List (Option HeadPtr)) : List HeadPtr := slots.filterMap id

theorem mem_presentHeads {slots : List (Option HeadPtr)} {head : HeadPtr} :
    head ∈ presentHeads slots ↔ some head ∈ slots := by
  simp [presentHeads]

/-- Everything but the heads and the number of calls is as it was. -/
structure SameOutputs (w after : World) : Prop where
  outputs : after.outputs = w.outputs
  outputList : after.outputList = w.outputList
  nextOutput : after.nextOutput = w.nextOutput
  headList : after.headList = w.headList
  backends : after.backends = w.backends
  layoutputs : after.layoutputs = w.layoutputs
  cells : after.cells = w.cells

theorem SameOutputs.refl (w : World) : SameOutputs w w := ⟨rfl, rfl, rfl, rfl, rfl, rfl, rfl⟩

theorem SameOutputs.trans {first second third : World} (left : SameOutputs first second)
    (right : SameOutputs second third) : SameOutputs first third where
  outputs := right.outputs.trans left.outputs
  outputList := right.outputList.trans left.outputList
  nextOutput := right.nextOutput.trans left.nextOutput
  headList := right.headList.trans left.headList
  backends := right.backends.trans left.backends
  layoutputs := right.layoutputs.trans left.layoutputs
  cells := right.cells.trans left.cells

/-- A head is refused, or it was free and is attached. -/
theorem attachHead_cases (w : World) (answers : Answers) (output : OutputPtr) (head : HeadPtr) :
    ((w.attachHead answers output head).1 = false ∧
      ∀ other, (w.attachHead answers output head).2.outputOf other = w.outputOf other) ∨
    ((w.attachHead answers output head).1 = true ∧ w.outputOf head = none ∧
      ∀ other, (w.attachHead answers output head).2.outputOf other =
        if other = head then some output else w.outputOf other) := by
  unfold World.attachHead
  dsimp only
  cases found : (w.call answers).2.heads head with
  | none => exact .inl ⟨rfl, fun _ => rfl⟩
  | some value =>
      have there : w.heads head = some value := found
      dsimp only
      split
      · rename_i granted
        simp only [Bool.and_eq_true, Option.isNone_iff_eq_none] at granted
        refine .inr ⟨rfl, by rw [World.outputOf, there, Option.bind_some, granted.1.2], ?_⟩
        intro other
        rw [setHead_outputOf, found]
        rfl
      · exact .inl ⟨rfl, fun _ => rfl⟩

theorem attachHead_same (w : World) (answers : Answers) (output : OutputPtr) (head : HeadPtr) :
    SameOutputs w (w.attachHead answers output head).2 := by
  unfold World.attachHead
  dsimp only
  cases (w.call answers).2.heads head with
  | none => exact ⟨rfl, rfl, rfl, rfl, rfl, rfl, rfl⟩
  | some value =>
      dsimp only
      split <;> exact ⟨rfl, rfl, rfl, rfl, rfl, rfl, rfl⟩

private theorem attachHead_attached {w : World} {answers : Answers} {output other : OutputPtr}
    {head free : HeadPtr} (attached : w.outputOf free = some other) :
    (w.attachHead answers output head).2.outputOf free = some other := by
  rcases attachHead_cases w answers output head with ⟨_, same⟩ | ⟨_, none, changed⟩
  · rw [same, attached]
  · rw [changed, if_neg, attached]
    rintro rfl
    rw [none] at attached
    cases attached

/-- What `attachRest` makes of the slots. -/
structure AttachedRest (w : World) (output : OutputPtr) (slots : List (Option HeadPtr))
    (result : List (Option HeadPtr) × List HeadPtr × World) : Prop where
  same : SameOutputs w result.2.2
  kept : ∀ head ∈ presentHeads slots, head ∈ presentHeads result.1 ∨ head ∈ result.2.1
  attached : ∀ head ∈ presentHeads result.1, w.outputOf head = none ∧
    result.2.2.outputOf head = some output
  distinct : (presentHeads result.1).Nodup
  before : ∀ head other, w.outputOf head = some other → result.2.2.outputOf head = some other
  elsewhere : ∀ head, head ∉ presentHeads slots → result.2.2.outputOf head = w.outputOf head

theorem attachRest_attached (answers : Answers) (output : OutputPtr)
    (slots : List (Option HeadPtr)) (w : World) :
    AttachedRest w output slots (World.attachRest answers output slots w) := by
  induction slots generalizing w with
  | nil =>
      refine ⟨.refl w, ?_, ?_, List.nodup_nil, fun _ _ => id, fun _ _ => rfl⟩
      · exact fun _ member => by cases member
      · exact fun _ member => by cases member
  | cons slot slots ih =>
      cases slot with
      | none =>
          have rest := ih w
          exact ⟨rest.same, rest.kept, rest.attached, rest.distinct, rest.before, rest.elsewhere⟩
      | some head =>
          have rest := ih (w.attachHead answers output head).2
          have same := (attachHead_same w answers output head).trans rest.same
          have before : ∀ other place, w.outputOf other = some place →
              (World.attachRest answers output slots
                (w.attachHead answers output head).2).2.2.outputOf other = some place :=
            fun other place attached => rest.before other place (attachHead_attached attached)
          unfold World.attachRest
          dsimp only
          rcases attachHead_cases w answers output head with
            ⟨refused, unchanged⟩ | ⟨done, free, now⟩
          · rw [refused, if_neg Bool.false_ne_true]
            refine ⟨same, ?_, ?_, rest.distinct, before, ?_⟩
            · intro other member
              rcases List.mem_cons.mp member with rfl | member
              · exact .inr List.mem_cons_self
              · exact (rest.kept other member).imp id (List.mem_cons_of_mem head)
            · intro other member
              have there := rest.attached other member
              rw [unchanged] at there
              exact there
            · intro other absent
              have later : other ∉ presentHeads slots := fun member => absent (.tail head member)
              exact (rest.elsewhere other later).trans (unchanged other)
          · rw [done, if_pos rfl]
            refine ⟨same, ?_, ?_, ?_, before, ?_⟩
            · intro other member
              rcases List.mem_cons.mp member with rfl | member
              · exact .inl List.mem_cons_self
              · exact (rest.kept other member).imp (List.mem_cons_of_mem head) id
            · intro other member
              rcases List.mem_cons.mp member with rfl | member
              · refine ⟨free, rest.before other output ?_⟩
                rw [now, if_pos rfl]
              · obtain ⟨none, there⟩ := rest.attached other member
                rw [now] at none
                split at none
                · cases none
                · exact ⟨none, there⟩
            · refine List.nodup_cons.mpr ⟨?_, rest.distinct⟩
              intro member
              obtain ⟨none, _⟩ := rest.attached head member
              rw [now, if_pos rfl] at none
              cases none
            · intro other absent
              have different : other ≠ head := by
                rintro rfl
                exact absent List.mem_cons_self
              have later : other ∉ presentHeads slots := fun member => absent (.tail head member)
              rw [rest.elsewhere other later, now, if_neg different]

theorem tryAttach_same (w : World) (answers : Answers) (output : OutputPtr)
    (add : List (Option HeadPtr)) : SameOutputs w (w.tryAttach answers output add).2.2 := by
  cases add with
  | nil => exact .refl w
  | cons first slots => exact (attachRest_attached answers output slots w).same

/-- With the first head on the output, all the heads that `try_attach` leaves are. -/
theorem tryAttach_attached {w : World} {output : OutputPtr} {slots : List (Option HeadPtr)}
    (answers : Answers) (head : HeadPtr) (first : w.outputOf head = some output) :
    ∃ add failed after, w.tryAttach answers output (some head :: slots) = (add, failed, after) ∧
      SameOutputs w after ∧
      (∀ other ∈ presentHeads (some head :: slots), other ∈ presentHeads add ∨ other ∈ failed) ∧
      (∀ other ∈ presentHeads add, after.outputOf other = some output) ∧
      (presentHeads add).Nodup := by
  have rest := attachRest_attached answers output slots w
  refine ⟨_, _, _, rfl, rest.same, ?_, ?_, ?_⟩
  · intro other member
    rcases List.mem_cons.mp member with rfl | member
    · exact .inl List.mem_cons_self
    · exact (rest.kept other member).imp (List.mem_cons_of_mem head) id
  · intro other member
    rcases List.mem_cons.mp member with rfl | member
    · exact rest.before other output first
    · exact (rest.attached other member).2
  · refine List.nodup_cons.mpr ⟨?_, rest.distinct⟩
    intro member
    rw [(rest.attached head member).1] at first
    cases first

/-! ### Enabling -/

/-- The heads, the groups and the cells are as they were. -/
structure SameHeads (w after : World) : Prop where
  heads : after.heads = w.heads
  nextOutput : after.nextOutput = w.nextOutput
  layoutputs : after.layoutputs = w.layoutputs
  cells : after.cells = w.cells

theorem SameHeads.outputOf {w after : World} (same : SameHeads w after) (head : HeadPtr) :
    after.outputOf head = w.outputOf head := by
  unfold World.outputOf
  rw [same.heads]

theorem SameHeads.bounded {w after : World} (same : SameHeads w after) {output : OutputPtr}
    (old : output < w.nextOutput) : output < after.nextOutput := by
  rw [same.nextOutput]
  exact old

theorem configureDrm_same (w : World) (answers : Answers) (output : OutputPtr)
    (setup : DrmOutputSetup) : SameHeads w (w.configureDrm answers output setup).2 := by
  unfold World.configureDrm
  dsimp only
  split
  · exact ⟨rfl, rfl, rfl, rfl⟩
  · split
    · exact ⟨rfl, rfl, rfl, rfl⟩
    · split
      · exact ⟨rfl, rfl, rfl, rfl⟩
      · obtain ⟨calls, same⟩ := applyColor_calls answers _ setup.color true
        rw [same]
        exact ⟨rfl, rfl, rfl, rfl⟩

/-- The group of an output and the heads on it outlast what happens around it. -/
structure Holds (w after : World) (output : OutputPtr) : Prop where
  attached : ∀ head, w.outputOf head = some output → after.outputOf head = some output
  cells : ∀ cell, w.cells cell = some output → after.cells cell = some output
  layoutputs : after.layoutputs = w.layoutputs

theorem tryOnce_down {w : World} {answers : Answers} {policy : OutputPolicy} {output : OutputPtr}
    (down : (w.tryOnce answers policy output).1 = false) :
    SameHeads w (w.tryOnce answers policy output).2 := by
  unfold World.tryOnce at down ⊢
  split at down
  · cases down
  · rename_i disabled
    rw [if_neg disabled]
    rcases enable_cases (w.lazyAlign output) answers (World.outputCreated answers policy) output
      with
      ⟨_, same⟩ | ⟨up, _⟩
    · rw [same]
      exact ⟨rfl, rfl, rfl, rfl⟩
    · rw [up] at down
      cases down

theorem tryOnce_up {w : World} {answers : Answers} {policy : OutputPolicy} {output : OutputPtr}
    (old : output < w.nextOutput) (up : (w.tryOnce answers policy output).1 = true) :
    (w.tryOnce answers policy output).2.isEnabled output = true ∧
      Holds w (w.tryOnce answers policy output).2 output ∧
      w.nextOutput ≤ (w.tryOnce answers policy output).2.nextOutput := by
  unfold World.tryOnce at up ⊢
  split
  · rename_i enabled
    exact ⟨enabled, ⟨fun _ => id, fun _ => id, rfl⟩, Nat.le_refl _⟩
  · rename_i disabled
    rw [if_neg disabled] at up
    rcases enable_cases (w.lazyAlign output) answers (World.outputCreated answers policy) output
      with ⟨down, _⟩ | ⟨_, value, found, _, after⟩
    · rw [down] at up
      cases up
    · rw [after]
      have around := Around.outputCreated answers policy output
        ((((w.lazyAlign output).call answers).2).markEnabled output
          (answers.geometry (w.lazyAlign output).calls))
      refine ⟨?_, ⟨?_, ?_, around.layoutputs⟩, around.nextOutput⟩
      · unfold World.isEnabled
        rw [around.outputs output old, markEnabled_outputs, if_pos rfl]
        have there : (((w.lazyAlign output).call answers).2).outputs output = some value := found
        rw [there]
        rfl
      · exact fun head attached => (around.attached head output old).mpr attached
      · exact fun cell held => (around.cells cell output old).mpr held

theorem detachHead_outputOf (w : World) (head other : HeadPtr) :
    (w.detachHead head).outputOf other = if other = head then none else w.outputOf other := by
  unfold World.detachHead
  rw [setHead_outputOf]
  split
  · cases w.heads head <;> rfl
  · rfl

/-- The output is up with the heads that are left, and the others are to try again. -/
structure CameUp (w : World) (output : OutputPtr) (slots : List (Option HeadPtr))
    (failed : List HeadPtr) (result : Attempt × World) : Prop where
  enabled : result.2.isEnabled output = true
  kept : ∀ head ∈ presentHeads slots,
    head ∈ presentHeads result.1.add ∨ head ∈ result.1.failed
  failed : ∀ head ∈ failed, head ∈ result.1.failed
  attached : ∀ head ∈ presentHeads result.1.add, result.2.outputOf head = some output
  cells : ∀ cell, w.cells cell = some output → result.2.cells cell = some output
  layoutputs : result.2.layoutputs = w.layoutputs

private theorem undoHeads_cameUp {answers : Answers} {policy : OutputPolicy} {output : OutputPtr}
    {slots : List (Option HeadPtr)} {failed : List HeadPtr} {w : World}
    (old : output < w.nextOutput)
    (attached : ∀ head ∈ presentHeads slots, w.outputOf head = some output)
    (distinct : (presentHeads slots).Nodup)
    (up : (World.undoHeads answers policy output slots failed w).1.up = true) :
    CameUp w output slots failed (World.undoHeads answers policy output slots failed w) := by
  induction slots generalizing failed w with
  | nil => cases up
  | cons slot slots ih =>
      cases slot with
      | none =>
          have rest := ih old attached distinct up
          exact ⟨rest.enabled, rest.kept, rest.failed, rest.attached, rest.cells, rest.layoutputs⟩
      | some victim =>
          obtain ⟨apart, distinct⟩ := List.nodup_cons.mp distinct
          have others : ∀ head ∈ presentHeads slots,
              (w.detachHead victim).outputOf head = some output := by
            intro head member
            rw [detachHead_outputOf, if_neg]
            · exact attached head (.tail victim member)
            · rintro rfl
              exact apart member
          unfold World.undoHeads at up ⊢
          dsimp only at up ⊢
          cases tried : ((w.detachHead victim).tryOnce answers policy output).1 with
          | true =>
              obtain ⟨enabled, holds, _⟩ := @tryOnce_up (w.detachHead victim) _ _ _ old tried
              rw [if_pos rfl]
              refine ⟨enabled, ?_, ?_, ?_, holds.cells, holds.layoutputs⟩
              · intro head member
                rcases List.mem_cons.mp member with rfl | member
                · exact .inr (by simp)
                · exact .inl (by simpa [mem_presentHeads] using member)
              · intro head member
                exact List.mem_append_left _ member
              · intro head member
                apply holds.attached head (others head _)
                simpa [mem_presentHeads] using member
          | false =>
              have same := tryOnce_down tried
              rw [tried, if_neg Bool.false_ne_true] at up
              rw [if_neg Bool.false_ne_true]
              have rest := ih (same.bounded old) (fun head member => (same.outputOf head).trans
                (others head member)) distinct up
              refine ⟨rest.enabled, ?_, ?_, rest.attached, ?_, ?_⟩
              · intro head member
                rcases List.mem_cons.mp member with rfl | member
                · exact .inr (rest.failed head (by simp))
                · exact rest.kept head member
              · exact fun head member => rest.failed head (List.mem_append_left _ member)
              · intro cell held
                apply rest.cells cell
                rw [same.cells]
                exact held
              · exact rest.layoutputs.trans same.layoutputs

theorem presentHeads_reverse (slots : List (Option HeadPtr)) :
    presentHeads slots.reverse = (presentHeads slots).reverse :=
  List.filterMap_reverse ..

theorem presentHeads_reverse_perm (slots : List (Option HeadPtr)) :
    (presentHeads slots.reverse).Perm (presentHeads slots) := by
  rw [presentHeads_reverse]
  exact List.reverse_perm _

theorem tryEnable_cameUp {answers : Answers} {policy : OutputPolicy} {output : OutputPtr}
    {slots : List (Option HeadPtr)} {failed : List HeadPtr} {w : World}
    (old : output < w.nextOutput)
    (attached : ∀ head ∈ presentHeads slots, w.outputOf head = some output)
    (distinct : (presentHeads slots).Nodup)
    (up : (w.tryEnable answers policy output slots failed).1.up = true) :
    CameUp w output slots failed (w.tryEnable answers policy output slots failed) := by
  unfold World.tryEnable at up ⊢
  dsimp only at up ⊢
  cases tried : (w.tryOnce answers policy output).1 with
  | true =>
      obtain ⟨enabled, holds, _⟩ := tryOnce_up old tried
      rw [if_pos rfl]
      exact ⟨enabled, fun _ => .inl, fun _ => id,
        fun head member => holds.attached head (attached head member), holds.cells,
        holds.layoutputs⟩
  | false =>
      have same := tryOnce_down tried
      rw [tried, if_neg Bool.false_ne_true] at up
      rw [if_neg Bool.false_ne_true]
      have reversed := presentHeads_reverse_perm slots
      have rest := undoHeads_cameUp (same.bounded old)
        (fun head member => (same.outputOf head).trans
          (attached head (reversed.mem_iff.mp member)))
        (reversed.nodup_iff.mpr distinct) up
      refine ⟨rest.enabled, ?_, rest.failed, rest.attached, ?_, ?_⟩
      · exact fun head member => rest.kept head (reversed.mem_iff.mpr member)
      · intro cell held
        apply rest.cells cell
        rw [same.cells]
        exact held
      · exact rest.layoutputs.trans same.layoutputs

/-! ### Groups -/

theorem stagedIn_setAdd {w : World} {index : Nat} (add : List (Option HeadPtr))
    (there : index < w.layoutputs.length) : (w.setAdd index add).stagedIn index = add := by
  unfold World.stagedIn World.setAdd World.setLayoutput
  simp [there]

theorem outputsIn_setAdd (w : World) (index other : Nat) (add : List (Option HeadPtr)) :
    (w.setAdd index add).outputsIn other = w.outputsIn other := by
  unfold World.outputsIn World.setAdd World.setLayoutput
  rw [List.getElem?_modify]
  split
  · cases w.layoutputs[other]? <;> rfl
  · cases w.layoutputs[other]? <;> rfl

theorem registerHeads_fields (w : World) (add : List (Option HeadPtr)) :
    ∃ registeredHeads, w.registerHeads add = { w with registeredHeads } := by
  unfold World.registerHeads
  induction add generalizing w with
  | nil => exact ⟨_, rfl⟩
  | cons slot add ih =>
      rw [List.foldl_cons]
      cases slot with
      | none => exact ih w
      | some head =>
          have one : ∃ registeredHeads, w.registerHead head = { w with registeredHeads } := by
            unfold World.registerHead
            split <;> exact ⟨_, rfl⟩
          obtain ⟨heads, same⟩ := one
          obtain ⟨all, rest⟩ := ih (w.registerHead head)
          refine ⟨all, ?_⟩
          rw [rest, same]

theorem addHead_fields (w : World) (group sectionHead : String) (head : HeadPtr) :
    ∃ layoutputs, w.addHead group sectionHead head = { w with layoutputs } := by
  unfold World.addHead
  dsimp only
  split
  · split <;> exact ⟨_, rfl⟩
  · split <;> exact ⟨_, rfl⟩

/-- A head of a group is on an output of it that is up, or staged for later. -/
def Kept (w : World) (index : Nat) (head : HeadPtr) : Prop :=
  (∃ cell ∈ w.outputsIn index, ∃ output, w.cells cell = some output ∧
    w.isEnabled output = true ∧ w.outputOf head = some output) ∨
  some head ∈ w.stagedIn index

/-- The heads of a group that comes up with a new output are kept. -/
theorem tryAttachEnable_kept {answers : Answers} {policy : OutputPolicy} {w : World}
    {output : OutputPtr} {index : Nat} {setup : DrmOutputSetup} {cell : CellId}
    {first : HeadPtr} {slots : List (Option HeadPtr)} (old : output < w.nextOutput)
    (staged : w.stagedIn index = some first :: slots) (attached : w.outputOf first = some output)
    (entry : cell ∈ w.outputsIn index) (held : w.cells cell = some output)
    (up : (w.tryAttachEnable answers policy output index setup).1 = true) :
    (∀ head ∈ presentHeads (some first :: slots),
      Kept (w.tryAttachEnable answers policy output index setup).2 index head) ∧
    (w.tryAttachEnable answers policy output index setup).2.outputsIn index =
      w.outputsIn index := by
  obtain ⟨add, failed, after, result, same, kept, on, distinct⟩ :=
    @tryAttach_attached w output slots answers first attached
  have configured := configureDrm_same after answers output setup
  have inside : index < w.layoutputs.length := by
    by_contra outside
    rw [World.stagedIn, List.getElem?_eq_none (Nat.le_of_not_lt outside)] at staged
    cases staged
  unfold World.tryAttachEnable at up ⊢
  rw [staged, result] at up ⊢
  dsimp only at up ⊢
  generalize after.configureDrm answers output setup = ready at configured up ⊢
  obtain ⟨done, ready⟩ := ready
  cases done with
  | false => cases up
  | true =>
      simp only [Bool.not_true, Bool.false_eq_true, if_false] at up ⊢
      have bounded : output < ready.nextOutput := by
        rw [configured.nextOutput, same.nextOutput]
        exact old
      have cameUp := @tryEnable_cameUp answers policy output add failed ready bounded
        (fun head member => (configured.outputOf head).trans (on head member)) distinct
      generalize ready.tryEnable answers policy output add failed = tried at cameUp up ⊢
      obtain ⟨attempt, tried⟩ := tried
      dsimp only at cameUp up ⊢
      cases isUp : attempt.up with
      | false =>
          rw [isUp] at up
          cases up
      | true =>
          have cameUp := cameUp isUp
          simp only [Bool.not_true, Bool.false_eq_true, if_false]
          obtain ⟨registered, fields⟩ := registerHeads_fields tried attempt.add
          rw [fields]
          have layoutputs : tried.layoutputs = w.layoutputs :=
            (cameUp.layoutputs.trans configured.layoutputs).trans same.layoutputs
          have outputs : tried.outputsIn index = w.outputsIn index := by
            unfold World.outputsIn
            rw [layoutputs]
          refine ⟨?_, (outputsIn_setAdd _ index index _).trans outputs⟩
          intro head member
          have placed : head ∈ presentHeads attempt.add ∨ head ∈ attempt.failed := by
            rcases kept head member with member | member
            · exact cameUp.kept head member
            · exact .inr (cameUp.failed head member)
          rcases placed with member | member
          · refine .inl ⟨cell, ?_, output, ?_, cameUp.enabled, cameUp.attached head member⟩
            · rw [outputsIn_setAdd]
              exact outputs.symm ▸ entry
            · apply cameUp.cells cell
              rw [configured.cells, same.cells]
              exact held
          · right
            rw [stagedIn_setAdd]
            · exact List.mem_map_of_mem member
            · dsimp only
              rw [layoutputs]
              exact inside

theorem setLayoutput_ne (w : World) {index other : Nat} (different : other ≠ index)
    (change : Layoutput → Layoutput) :
    (w.setLayoutput index change).layoutputs[other]? = w.layoutputs[other]? :=
  List.getElem?_modify_ne change w.layoutputs different.symm

/-- The group got an entry for a new output, with one head on it. -/
structure Created (w : World) (index : Nat) (head : HeadPtr) (cell : CellId)
    (output : OutputPtr) (after : World) : Prop where
  fresh : output = w.nextOutput ∧ cell = w.nextCell
  nextOutput : after.nextOutput = w.nextOutput + 1
  nextCell : after.nextCell = w.nextCell + 1
  enabled : ∀ other, other ≠ output → after.isEnabled other = w.isEnabled other
  down : after.isEnabled output = false
  cells : ∀ other, after.cells other = if other = cell then some output else w.cells other
  attached : ∀ other, after.outputOf other = if other = head then some output else w.outputOf other
  entry : after.outputsIn index = w.outputsIn index ++ [cell]
  others : ∀ other, other ≠ index → after.outputsIn other = w.outputsIn other
  staged : ∀ other, after.stagedIn other = w.stagedIn other

theorem createOutputWithHead_created {w after : World} {answers : Answers} {index : Nat}
    {name : String} {head : HeadPtr} {cell : CellId} {output : OutputPtr}
    (made : w.createOutputWithHead answers index name head = (some (cell, output), after))
    (inside : index < w.layoutputs.length) : Created w index head cell output after := by
  unfold World.createOutputWithHead at made
  rcases createOutput_cases w answers head name with none | ⟨value, found, _, some⟩
  · rw [none] at made
    cases made
  · rw [some] at made
    simp only [Prod.mk.injEq, Option.some.injEq] at made
    obtain ⟨⟨rfl, rfl⟩, rfl⟩ := made
    have called : (w.call answers).2.heads head = Option.some value := found
    have layoutputs : ((w.call answers).2.addOutput head name value.backend).layoutputs =
        w.layoutputs := rfl
    have outputs : ∀ other, ((w.call answers).2.addOutput head name value.backend).outputs other =
        if other = w.nextOutput then Option.some (.created name value.backend)
        else w.outputs other :=
      addOutput_outputs (w.call answers).2 head name value.backend
    refine ⟨⟨rfl, rfl⟩, rfl, rfl, ?_, ?_, ?_, ?_, ?_, ?_, ?_⟩
    · intro other different
      change (((w.call answers).2.addOutput head name value.backend).outputs other).any _ = _
      rw [outputs, if_neg different]
      rfl
    · change (((w.call answers).2.addOutput head name value.backend).outputs w.nextOutput).any _ = _
      rw [outputs, if_pos rfl]
      rfl
    · exact fun other => Function.update_apply w.cells w.nextCell _ other
    · exact addOutput_outputOf called name
    · unfold World.outputsIn World.setLayoutput
      simp [layoutputs, inside]
    · intro other different
      unfold World.outputsIn
      rw [setLayoutput_ne _ different]
      rfl
    · intro other
      by_cases here : other = index
      · rw [here]
        unfold World.stagedIn World.setLayoutput
        simp [layoutputs, inside]
      · unfold World.stagedIn
        rw [setLayoutput_ne _ here]
        rfl

theorem createOutputWithHead_made {w after : World} {answers : Answers} {index : Nat}
    {name : String} {head : HeadPtr} {cell : CellId} {output : OutputPtr}
    (made : w.createOutputWithHead answers index name head = (some (cell, output), after))
    (there : index < w.layoutputs.length) :
    output < after.nextOutput ∧ after.outputOf head = some output ∧
      after.cells cell = some output ∧ cell ∈ after.outputsIn index ∧
      after.stagedIn index = w.stagedIn index := by
  have created := createOutputWithHead_created made there
  refine ⟨?_, ?_, ?_, ?_, created.staged index⟩
  · rw [created.nextOutput, created.fresh.1]
    exact Nat.lt_succ_self w.nextOutput
  · rw [created.attached, if_pos rfl]
  · rw [created.cells, if_pos rfl]
  · rw [created.entry]
    exact List.mem_append_right _ List.mem_cons_self

theorem removeOutput_stagedIn (w : World) (index other : Nat) (cell : CellId) :
    (w.removeOutput index cell).stagedIn other = w.stagedIn other := by
  unfold World.stagedIn World.removeOutput World.setLayoutput
  rw [List.getElem?_modify]
  split
  · cases w.layoutputs[other]? <;> rfl
  · cases w.layoutputs[other]? <;> rfl

private theorem tryExisting_dead {answers : Answers} {index : Nat} {existing : List CellId}
    {w : World}
    (dead : ∀ cell ∈ existing, w.cells cell = none) :
    ∃ after, World.tryExisting answers index existing w = (none, after) ∧
      after.stagedIn index = w.stagedIn index := by
  induction existing generalizing w with
  | nil => exact ⟨w, rfl, rfl⟩
  | cons cell existing ih =>
      obtain ⟨after, result, staged⟩ := @ih (w.removeOutput index cell)
        fun other member => dead other (.tail cell member)
      refine ⟨after, ?_, staged.trans (removeOutput_stagedIn w index index cell)⟩
      unfold World.tryExisting
      rw [dead cell List.mem_cons_self]
      exact result

/-- With an output in the group, the loop is over. -/
private theorem createRest_done {answers : Answers} {policy : OutputPolicy} {index : Nat}
    {group sectionHead : String} {currentMode reuseName : Bool} {left : Nat} {w : World}
    {cell : CellId} (entry : cell ∈ w.outputsIn index)
    (up : (World.createRest answers policy index group sectionHead currentMode left reuseName
      w).1 = true) :
    w.stagedIn index = [] ∧ (World.createRest answers policy index group sectionHead currentMode
      left reuseName w).2 = w := by
  cases left with
  | zero => cases up
  | succ left =>
      unfold World.createRest at up ⊢
      cases staged : w.stagedIn index with
      | nil => exact ⟨rfl, rfl⟩
      | cons first slots =>
          have some : (w.outputsIn index).isEmpty = false :=
            List.isEmpty_eq_false_iff_exists_mem.mpr ⟨_, entry⟩
          rw [staged] at up
          simp only [some, Bool.not_false, if_true, Bool.false_eq_true] at up

private theorem createRest_kept {answers : Answers} {policy : OutputPolicy} {index : Nat}
    {group sectionHead : String} {currentMode reuseName : Bool} {left : Nat} {w : World}
    (up : (World.createRest answers policy index group sectionHead currentMode left reuseName
      w).1 = true) :
    ∀ head ∈ presentHeads (w.stagedIn index),
      Kept (World.createRest answers policy index group sectionHead currentMode left reuseName
        w).2 index head := by
  intro head member
  cases left with
  | zero => cases up
  | succ left =>
      have inside : index < w.layoutputs.length := by
        by_contra outside
        rw [World.stagedIn, List.getElem?_eq_none (Nat.le_of_not_lt outside)] at member
        cases member
      unfold World.createRest at up ⊢
      cases staged : w.stagedIn index with
      | nil =>
          rw [staged] at member
          cases member
      | cons slot slots =>
          rw [staged] at up member
          dsimp only at up ⊢
          split at up
          · cases up
          · rename_i none
            rw [if_neg none]
            cases slot with
            | none => cases up
            | some first =>
                dsimp only at up ⊢
                generalize named : (if reuseName = true then group
                  else group ++ ":" ++ w.headName first) = name at up ⊢
                rcases made : w.createOutputWithHead answers index name first with
                  ⟨_ | ⟨cell, output⟩, after⟩
                · rw [made] at up
                  cases up
                · rw [made] at up
                  dsimp only at up ⊢
                  obtain ⟨old, attached, held, entry, same⟩ := createOutputWithHead_made made inside
                  rw [staged] at same
                  have kept := @tryAttachEnable_kept answers policy after output index
                    (World.groupSetup policy sectionHead currentMode) cell first slots old same
                    attached entry held
                  generalize after.tryAttachEnable answers policy output index
                    (World.groupSetup policy sectionHead currentMode) = tried at kept up ⊢
                  obtain ⟨isUp, tried⟩ := tried
                  cases isUp with
                  | false => cases up
                  | true =>
                      simp only [Bool.not_true, Bool.false_eq_true, if_false] at up ⊢
                      obtain ⟨kept, outputs⟩ := kept rfl
                      obtain ⟨_, settled⟩ := createRest_done (outputs.symm ▸ entry) up
                      rw [settled]
                      exact kept head member

/-- A group without a live output keeps its heads when it comes up. -/
theorem processOne_kept {answers : Answers} {policy : OutputPolicy} {w : World} {index : Nat}
    {currentMode : Bool} (dead : ∀ cell ∈ w.outputsIn index, w.cells cell = none)
    (up : (w.processOne answers policy index currentMode).1 = true) :
    ∀ head ∈ presentHeads (w.stagedIn index),
      Kept (w.processOne answers policy index currentMode).2 index head := by
  obtain ⟨after, result, staged⟩ := @tryExisting_dead answers index _ w dead
  unfold World.processOne at up ⊢
  rw [result] at up ⊢
  rw [← staged]
  exact createRest_kept up

/-! ### Groups with a live output -/

/-- A libweston that grants every call. -/
def Answers.granting : Answers where
  ok _ := true
  geometry _ := ⟨⟨0, 0, 0⟩, none, 0, 0⟩

/-- A head that is known and on no output. -/
def Free (w : World) (head : HeadPtr) : Prop :=
  ∃ value, w.heads head = some value ∧ value.output = none

private theorem attachHead_granted {w : World} {output : OutputPtr} {head : HeadPtr}
    (free : Free w head)
    (live : (w.outputs output).isSome) :
    (w.attachHead .granting output head).1 = true ∧
      ∀ other, other ≠ head →
        (w.attachHead .granting output head).2.heads other = w.heads other := by
  obtain ⟨value, found, none⟩ := free
  unfold World.attachHead
  dsimp only
  have there : (w.call .granting).2.heads head = some value := found
  rw [there]
  dsimp only
  rw [if_pos]
  · refine ⟨rfl, ?_⟩
    intro other different
    rw [setHead_heads, if_neg different]
    rfl
  · simp only [none, Option.isNone_none, Bool.and_true]
    exact live

/-- Distinct free heads all go on a live output. -/
private theorem attachRest_granted {w : World} {output : OutputPtr} {staged : List HeadPtr}
    (free : ∀ head ∈ staged, Free w head) (distinct : staged.Nodup)
    (live : (w.outputs output).isSome) :
    (World.attachRest .granting output (staged.map some) w).2.1 = [] := by
  induction staged generalizing w with
  | nil => rfl
  | cons head staged ih =>
      obtain ⟨apart, distinct⟩ := List.nodup_cons.mp distinct
      obtain ⟨granted, others⟩ := attachHead_granted (free head List.mem_cons_self) live
      rw [List.map_cons]
      unfold World.attachRest
      dsimp only
      rw [granted, if_pos rfl]
      apply ih _ distinct
      · rw [(attachHead_same w .granting output head).outputs]
        exact live
      · intro other member
        obtain ⟨value, found, none⟩ := free other (.tail head member)
        refine ⟨value, ?_, none⟩
        rw [others, found]
        rintro rfl
        exact apart member

/-- What the callers of `process_one` see to, in every run (`ready_run`): the staged
heads are distinct, on no output, and a cell holds a live output or nothing. -/
structure Ready (w : World) (index : Nat) (staged : List HeadPtr) : Prop where
  add : w.stagedIn index = staged.map some
  distinct : staged.Nodup
  free : ∀ head ∈ staged, Free w head
  live : ∀ cell output, w.cells cell = some output → (w.outputs output).isSome

theorem tryExisting_live {w : World} {index : Nat} {existing : List CellId} {first : HeadPtr}
    {staged : List HeadPtr} (ready : Ready w index (first :: staged))
    (live : ∃ cell ∈ existing, w.cells cell ≠ none) :
    ∃ after, World.tryExisting .granting index existing w = (some true, after) ∧
      after.outputOf first = none ∧ after.stagedIn index = [] := by
  induction existing generalizing w with
  | nil =>
      obtain ⟨_, member, _⟩ := live
      cases member
  | cons cell existing ih =>
      unfold World.tryExisting
      cases held : w.cells cell with
      | none =>
          apply ih
          · refine ⟨?_, ready.distinct, ready.free, ready.live⟩
            rw [removeOutput_stagedIn, ready.add]
          · obtain ⟨other, member, alive⟩ := live
            rcases List.mem_cons.mp member with rfl | member
            · exact absurd held alive
            · exact ⟨other, member, alive⟩
      | some output =>
          have apart := (List.nodup_cons.mp ready.distinct).1
          have none := attachRest_granted (fun head member => ready.free head (.tail first member))
            (List.nodup_cons.mp ready.distinct).2 (ready.live cell output held)
          have rest := attachRest_attached .granting output (staged.map some) w
          dsimp only
          rw [ready.add, List.map_cons]
          unfold World.tryAttach
          dsimp only
          rw [none]
          refine ⟨_, rfl, ?_, ?_⟩
          · obtain ⟨value, found, unattached⟩ := ready.free first List.mem_cons_self
            refine (rest.elsewhere first ?_).trans ?_
            · rw [mem_presentHeads, List.mem_map]
              rintro ⟨head, member, same⟩
              obtain rfl := Option.some.inj same
              exact apart member
            · rw [World.outputOf, found, Option.bind_some, unattached]
          · apply stagedIn_setAdd
            rw [rest.same.layoutputs]
            by_contra outside
            have empty := ready.add
            rw [World.stagedIn, List.getElem?_eq_none (Nat.le_of_not_lt outside)] at empty
            cases empty

/-- Two connectors, the second a clone of the first. -/
def clonePolicy : OutputPolicy :=
  { OutputPolicy.defaults 1024 640 with
    rules := [.named "DP-1", { OutputRule.named "DP-2" with cloneOf := some "DP-1" }] }

end Westonite.Output
