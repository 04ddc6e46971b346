import Westonite.Output.Mirrors
import Westonite.Output.StagedHeads

/-! The groups of DRM heads keep the mirrors. -/

set_option autoImplicit false

namespace Westonite.Output

variable {policy : OutputPolicy} {w after : World}

/-! ### Attaching -/

theorem Calm.setLayoutput (w : World) (index : Nat) {change : Layoutput → Layoutput}
    (staged : ∀ group head, some head ∈ (change group).add →
      some head ∈ group.add ∨ w.IsDrm head) : Calm w (w.setLayoutput index change) where
  outputs _ := rfl
  nextOutput := rfl
  heads _ := rfl
  attached head value output found on := (Calm.refl w).attached head value output found on
  backends := rfl
  staged group member head isStaged := by
    obtain ⟨place, found⟩ := List.mem_iff_getElem?.mp member
    rw [World.setLayoutput, List.getElem?_modify, Option.map_eq_map] at found
    obtain ⟨old, there, same⟩ := Option.map_eq_some_iff.mp found
    have oldMember : old ∈ w.layoutputs := List.mem_of_getElem? there
    split at same
    · rw [← same] at isStaged
      exact (staged old head isStaged).imp (fun before => ⟨old, oldMember, before⟩) id
    · exact .inl ⟨old, oldMember, same ▸ isStaged⟩
  headList := rfl
  cells := rfl

theorem Calm.setAdd (w : World) (index : Nat) {add : List (Option HeadPtr)}
    (drm : ∀ head, some head ∈ add → w.IsDrm head) : Calm w (w.setAdd index add) :=
  .setLayoutput w index fun _ head staged => .inr (drm head staged)

theorem Calm.removeOutput (w : World) (index : Nat) (cell : CellId) :
    Calm w (w.removeOutput index cell) :=
  .setLayoutput w index fun _ _ => .inl

theorem Mirrored.stagedIn (mirrored : Mirrored policy w) {index : Nat} {head : HeadPtr}
    (staged : some head ∈ w.stagedIn index) : w.IsDrm head := by
  unfold World.stagedIn at staged
  cases found : w.layoutputs[index]? with
  | none =>
      rw [found] at staged
      cases staged
  | some group =>
      rw [found] at staged
      exact mirrored.staged group (List.mem_of_getElem? found) head staged

theorem Calm.attachHead (mirrored : Mirrored policy w) (answers : Answers) (output : OutputPtr)
    {head : HeadPtr} (drm : w.IsDrm head) : Calm w (w.attachHead answers output head).2 := by
  unfold World.attachHead
  have called := Calm.call w answers
  dsimp only
  split
  · exact called
  · split
    · rename_i granted
      simp only [Bool.and_eq_true] at granted
      refine called.trans (.setHead _ head (fun _ => rfl) ?_)
      intro value other found on
      obtain rfl := Option.some.inj on
      obtain ⟨out, there⟩ := Option.isSome_iff_exists.mp granted.2
      obtain ⟨old, foundOld, kind⟩ := drm
      obtain rfl := Option.some.inj (foundOld.symm.trans found)
      exact .inr ⟨mirrored.outputs output out there, kind⟩
    · exact called

private theorem attachRest_calm (mirrored : Mirrored policy w) (answers : Answers)
    (output : OutputPtr)
    {slots : List (Option HeadPtr)} (drm : ∀ head, some head ∈ slots → w.IsDrm head) :
    Calm w (World.attachRest answers output slots w).2.2 ∧
      ∀ head, some head ∈ (World.attachRest answers output slots w).1 ∨
        head ∈ (World.attachRest answers output slots w).2.1 → some head ∈ slots := by
  induction slots generalizing w with
  | nil => exact ⟨.refl w, fun _ member => by cases member <;> contradiction⟩
  | cons slot slots ih =>
      cases slot with
      | none =>
          obtain ⟨calm, left⟩ := ih mirrored fun head member => drm head (.tail none member)
          refine ⟨calm, ?_⟩
          intro head member
          refine .tail none (left head (member.imp ?_ id))
          intro member
          rcases List.mem_cons.mp member with impossible | member
          · cases impossible
          · exact member
      | some head =>
          have calm := Calm.attachHead mirrored answers output (drm head List.mem_cons_self)
          obtain ⟨rest, left⟩ := ih (mirrored.calm calm) fun other member =>
            calm.isDrm (drm other (.tail (some head) member))
          unfold World.attachRest
          dsimp only
          split
          · refine ⟨calm.trans rest, ?_⟩
            rintro other (member | member)
            · rcases List.mem_cons.mp member with same | member
              · rw [same]
                exact List.mem_cons_self
              · exact .tail (some head) (left other (.inl member))
            · exact .tail (some head) (left other (.inr member))
          · refine ⟨calm.trans rest, ?_⟩
            rintro other (member | member)
            · rcases List.mem_cons.mp member with impossible | member
              · cases impossible
              · exact .tail (some head) (left other (.inl member))
            · rcases List.mem_cons.mp member with rfl | member
              · exact List.mem_cons_self
              · exact .tail (some head) (left other (.inr member))

private theorem tryAttach_calm (mirrored : Mirrored policy w) (answers : Answers)
    (output : OutputPtr)
    {add : List (Option HeadPtr)} (drm : ∀ head, some head ∈ add → w.IsDrm head) :
    Calm w (w.tryAttach answers output add).2.2 ∧
      ∀ head, some head ∈ (w.tryAttach answers output add).1 ∨
        head ∈ (w.tryAttach answers output add).2.1 → some head ∈ add := by
  cases add with
  | nil => exact ⟨.refl w, fun _ member => by cases member <;> contradiction⟩
  | cons first slots =>
      obtain ⟨calm, left⟩ := attachRest_calm mirrored answers output
        fun head member => drm head (.tail first member)
      refine ⟨calm, ?_⟩
      rintro head (member | member)
      · rcases List.mem_cons.mp member with same | member
        · rw [same]
          exact List.mem_cons_self
        · exact .tail first (left head (.inl member))
      · exact .tail first (left head (.inr member))

theorem Calm.configureDrm (w : World) (answers : Answers) (output : OutputPtr)
    (setup : DrmOutputSetup) : Calm w (w.configureDrm answers output setup).2 := by
  unfold World.configureDrm
  have api := Calm.call w answers
  have mode := api.trans (.call _ answers)
  dsimp only
  split
  · exact api
  · split
    · exact mode
    · split
      · refine (mode.trans ?_).trans (.call _ answers)
        exact .setOutput _ output fun _ => rfl
      · refine ((mode.trans ?_).trans (.call _ answers)).trans (.applyColor _ answers _ true)
        exact .setOutput _ output fun _ => rfl

/-! ### Enabling -/

/-- What an attempt to bring an output up leaves: the mirrors, the DRM heads, and
all there was where it fails. -/
structure Attempted (policy : OutputPolicy) (w : World) (up : Bool) (after : World) : Prop where
  mirrored : Mirrored policy after
  drm : ∀ head, w.IsDrm head → after.IsDrm head
  down : up = false → Calm w after

theorem Mirrored.attempted (mirrored : Mirrored policy w) (calm : Calm w after) {up : Bool} :
    Attempted policy w up after where
  mirrored := mirrored.calm calm
  drm _ := calm.isDrm
  down _ := calm

private theorem Attempted.after_calm {middle : World} {up : Bool} (calm : Calm w middle)
    (attempted : Attempted policy middle up after) : Attempted policy w up after where
  mirrored := attempted.mirrored
  drm head drm := attempted.drm head (calm.isDrm drm)
  down failed := calm.trans (attempted.down failed)

theorem Around.isDrm (around : Around w after) {head : HeadPtr} (drm : w.IsDrm head) :
    after.IsDrm head := by
  obtain ⟨value, found, kind⟩ := drm
  obtain ⟨later, there, same⟩ := identity_of_map (around.heads head).symm found
  simp only [WestonHead.description, Prod.mk.injEq] at same
  refine ⟨later, there, ?_⟩
  rw [World.backendKind, around.backends, ← same.2.1]
  exact kind

private theorem tryOnce_attempted {output : OutputPtr} (mirrored : Mirrored policy w)
    (pending : Pending policy w output none) (answers : Answers) :
    Attempted policy w (w.tryOnce answers policy output).1
      (w.tryOnce answers policy output).2 := by
  unfold World.tryOnce
  split
  · exact mirrored.attempted (.refl w)
  · have aligned := Calm.lazyAlign w output
    obtain ⟨kept, down⟩ := (mirrored.calm aligned).enable (outputCreated_mirrored answers policy)
      answers (pending.calm aligned)
    refine .after_calm aligned ⟨kept, ?_, down⟩
    intro head drm
    rcases enable_cases (w.lazyAlign output) answers (World.outputCreated answers policy) output
      with ⟨_, failed⟩ | ⟨_, value, _, _, up⟩
    · rw [failed]
      exact drm
    · rw [up]
      exact (Around.outputCreated answers policy output _).isDrm drm

private theorem undoHeads_attempted {output : OutputPtr} (answers : Answers)
    (slots : List (Option HeadPtr)) (failed : List HeadPtr) (mirrored : Mirrored policy w)
    (pending : Pending policy w output none) :
    Attempted policy w (World.undoHeads answers policy output slots failed w).1.up
        (World.undoHeads answers policy output slots failed w).2 ∧
      ∀ head ∈ (World.undoHeads answers policy output slots failed w).1.failed,
        head ∈ failed ∨ some head ∈ slots := by
  induction slots generalizing failed w with
  | nil => exact ⟨mirrored.attempted (.refl w), fun _ => .inl⟩
  | cons slot slots ih =>
      cases slot with
      | none =>
          obtain ⟨attempted, left⟩ := ih failed mirrored pending
          exact ⟨attempted, fun head member => (left head member).imp id (.tail none)⟩
      | some victim =>
          have detached := Calm.detachHead w victim
          have once := tryOnce_attempted (mirrored.calm detached) (pending.calm detached) answers
          unfold World.undoHeads
          dsimp only
          split
          · refine ⟨?_, ?_⟩
            · rename_i up
              rw [up] at once
              exact .after_calm detached once
            · intro head member
              rcases List.mem_append.mp member with member | member
              · exact .inl member
              · obtain rfl := List.mem_singleton.mp member
                exact .inr List.mem_cons_self
          · rename_i down
            have calm := detached.trans (once.down (by simpa using down))
            obtain ⟨attempted, left⟩ := ih (failed ++ [victim]) (mirrored.calm calm)
              (pending.calm calm)
            refine ⟨.after_calm calm attempted, ?_⟩
            intro head member
            rcases left head member with member | member
            · rcases List.mem_append.mp member with member | member
              · exact .inl member
              · obtain rfl := List.mem_singleton.mp member
                exact .inr List.mem_cons_self
            · exact .inr (.tail (some victim) member)

private theorem tryEnable_attempted {output : OutputPtr} (answers : Answers)
    (undo : List (Option HeadPtr)) (failed : List HeadPtr) (mirrored : Mirrored policy w)
    (pending : Pending policy w output none) :
    Attempted policy w (w.tryEnable answers policy output undo failed).1.up
        (w.tryEnable answers policy output undo failed).2 ∧
      ∀ head ∈ (w.tryEnable answers policy output undo failed).1.failed,
        head ∈ failed ∨ some head ∈ undo := by
  have once := tryOnce_attempted mirrored pending answers
  unfold World.tryEnable
  dsimp only
  split
  · rename_i up
    rw [up] at once
    exact ⟨once, fun _ => .inl⟩
  · rename_i down
    have calm := once.down (by simpa using down)
    obtain ⟨attempted, left⟩ := undoHeads_attempted answers undo.reverse failed
      (mirrored.calm calm) (pending.calm calm)
    refine ⟨.after_calm calm attempted, ?_⟩
    intro head member
    exact (left head member).imp id List.mem_reverse.mp

theorem Calm.registerHeads (w : World) (add : List (Option HeadPtr)) :
    Calm w (w.registerHeads add) := by
  unfold World.registerHeads
  induction add generalizing w with
  | nil => exact .refl w
  | cons slot add ih =>
      cases slot with
      | none => exact ih w
      | some head => exact (Calm.registerHead w head).trans (ih _)

/-- The heads that lose are staged anew. -/
private theorem Attempted.restage {up : Bool} (attempted : Attempted policy w up after)
    (index : Nat)
    (add : List (Option HeadPtr)) {failed : List HeadPtr} (drm : ∀ head ∈ failed, w.IsDrm head) :
    Attempted policy w true ((after.registerHeads add).setAdd index (failed.map some)) := by
  have registered := Calm.registerHeads after add
  have restaged := registered.trans (.setAdd _ index fun head member => by
    obtain ⟨other, there, same⟩ := List.mem_map.mp member
    obtain rfl := Option.some.inj same
    exact registered.isDrm (attempted.drm other (drm other there)))
  refine ⟨attempted.mirrored.calm restaged, ?_, fun impossible => by cases impossible⟩
  exact fun head drm => restaged.isDrm (attempted.drm head drm)

private theorem tryAttachEnable_attempted {output : OutputPtr} {index : Nat}
    {setup : DrmOutputSetup}
    (answers : Answers) (mirrored : Mirrored policy w)
    (pending : Pending policy w output none) :
    Attempted policy w (w.tryAttachEnable answers policy output index setup).1
      (w.tryAttachEnable answers policy output index setup).2 := by
  unfold World.tryAttachEnable
  obtain ⟨attached, left⟩ := tryAttach_calm mirrored answers output
    fun head staged => mirrored.stagedIn staged
  have calm := attached.trans (.configureDrm _ answers output setup)
  dsimp only
  split
  · exact mirrored.attempted calm
  · obtain ⟨attempted, failed⟩ := @tryEnable_attempted policy _ output answers
      (w.tryAttach answers output (w.stagedIn index)).1
      (w.tryAttach answers output (w.stagedIn index)).2.1 (mirrored.calm calm) (pending.calm calm)
    split
    · rename_i down
      exact .after_calm calm
        { attempted with down := fun _ => attempted.down (by simpa using down) }
    · exact (Attempted.after_calm calm attempted).restage index _ fun head member =>
        mirrored.stagedIn (left head (failed head member).symm)

/-! ### Groups -/

private theorem createOutputWithHead_mirrored (answers : Answers) {index : Nat} {name : String}
    {head : HeadPtr} (mirrored : Mirrored policy w) (drm : w.IsDrm head) :
    Mirrored policy (w.createOutputWithHead answers index name head).2 ∧
      ∀ cell output, (w.createOutputWithHead answers index name head).1 = some (cell, output) →
        (w.createOutputWithHead answers index name head).2.cells cell = some output ∧
        Pending policy (w.createOutputWithHead answers index name head).2 output none := by
  have called := Calm.call w answers
  unfold World.createOutputWithHead
  rcases createOutput_cases w answers head name with failed | ⟨value, _, _, made⟩
  · rw [failed]
    exact ⟨mirrored.calm called, fun _ _ impossible => by cases impossible⟩
  · rw [made]
    obtain ⟨added, bare⟩ := (mirrored.calm called).addOutput head name value.backend
    have pending := bare.pending fun later found mirror => by
      obtain ⟨old, foundOld, kind⟩ := drm
      obtain ⟨before, foundBefore, identity, _⟩ := addOutput_heads found
      obtain rfl := Option.some.inj (foundOld.symm.trans foundBefore)
      simp only [WestonHead.identity, Prod.mk.injEq] at identity
      have vnc := mirror.1
      rw [identity.2] at vnc
      cases kind.symm.trans vnc
    have placed : Mirrored policy
        { (w.call answers).2.addOutput head name value.backend with
          cells := Function.update w.cells w.nextCell (some w.nextOutput)
          nextCell := w.nextCell + 1 } :=
      ⟨added.shows, added.outputs, added.attached, added.staged, added.listed⟩
    have waiting : Pending policy
        { (w.call answers).2.addOutput head name value.backend with
          cells := Function.update w.cells w.nextCell (some w.nextOutput)
          nextCell := w.nextCell + 1 } w.nextOutput none :=
      ⟨pending.unmirrored, pending.down, pending.right⟩
    refine ⟨placed.calm (.setLayoutput _ index fun _ _ => .inl), ?_⟩
    intro cell output same
    obtain ⟨rfl, rfl⟩ := Prod.mk.inj (Option.some.inj same)
    refine ⟨?_, waiting.calm (.setLayoutput _ index fun _ _ => .inl)⟩
    exact Function.update_self w.nextCell _ w.cells

private theorem destroyEntry_mirrored {index : Nat} {cell : CellId} {output : OutputPtr}
    {mirrorOf : Option OutputPtr} (mirrored : Mirrored policy w) (held : w.cells cell = some output)
    (pending : Pending policy w output mirrorOf) : Mirrored policy (w.destroyEntry index cell) := by
  unfold World.destroyEntry
  rw [held]
  exact (mirrored.destroyOutput pending.unmirrored).calm (.removeOutput _ index cell)

private theorem createRest_mirrored (answers : Answers) {index : Nat} {group sectionHead : String}
    {currentMode : Bool} (left : Nat) (reuseName : Bool) (mirrored : Mirrored policy w) :
    Mirrored policy (World.createRest answers policy index group sectionHead currentMode left
      reuseName w).2 := by
  induction left generalizing reuseName w with
  | zero => exact mirrored
  | succ left ih =>
      unfold World.createRest
      split
      · exact mirrored
      · rename_i first slots staged
        dsimp only
        split
        · exact mirrored
        · split
          · exact mirrored
          · rename_i head
            have drm : w.IsDrm head := mirrored.stagedIn (by rw [staged]; exact .head slots)
            generalize (if reuseName then group else group ++ ":" ++ w.headName head) = name
            obtain ⟨made, there⟩ := @createOutputWithHead_mirrored policy w answers index name head
              mirrored drm
            split
            · rename_i failed
              rw [failed] at made
              exact made
            · rename_i cell output after done
              rw [done] at made there
              obtain ⟨held, pending⟩ := there cell output rfl
              have attempted := @tryAttachEnable_attempted policy _ output index
                (World.groupSetup policy sectionHead currentMode) answers made pending
              split
              · rename_i down
                have calm := attempted.down (by simpa using down)
                exact destroyEntry_mirrored (made.calm calm) ((congrFun calm.cells cell).trans held)
                  (pending.calm calm)
              · exact ih false attempted.mirrored

private theorem tryExisting_mirrored (answers : Answers) {index : Nat} (existing : List CellId)
    (mirrored : Mirrored policy w) :
    Mirrored policy (World.tryExisting answers index existing w).2 := by
  induction existing generalizing w with
  | nil => exact mirrored
  | cons cell existing ih =>
      unfold World.tryExisting
      split
      · exact ih (mirrored.calm (.removeOutput w index cell))
      · rename_i output held
        obtain ⟨attached, left⟩ := tryAttach_calm mirrored answers output
          fun head staged => mirrored.stagedIn staged
        have calm := attached.trans (.setAdd _ index fun head member => by
          obtain ⟨other, there, same⟩ := List.mem_map.mp member
          obtain rfl := Option.some.inj same
          exact attached.isDrm (mirrored.stagedIn (left other (.inr there))))
        dsimp only
        split
        · exact mirrored.calm calm
        · exact ih (mirrored.calm calm)

private theorem processOne_mirrored (answers : Answers) {index : Nat} {currentMode : Bool}
    (mirrored : Mirrored policy w) :
    Mirrored policy (w.processOne answers policy index currentMode).2 := by
  have existing := @tryExisting_mirrored policy w answers index (w.outputsIn index) mirrored
  unfold World.processOne
  split
  · rename_i found
    rw [found] at existing
    exact existing
  · rename_i found
    rw [found] at existing
    exact createRest_mirrored answers 2 _ existing

private theorem processGroups_mirrored (answers : Answers) {currentMode : Bool} (groups : List Nat)
    (mirrored : Mirrored policy w) :
    Mirrored policy (World.processGroups answers policy currentMode groups w).2 := by
  induction groups generalizing w with
  | nil => exact mirrored
  | cons index groups ih =>
      unfold World.processGroups
      split
      · exact ih mirrored
      · have one := @processOne_mirrored policy w answers index currentMode mirrored
        dsimp only
        apply ih
        split
        · exact one
        · exact one.calm (.setAdd _ index fun _ member => by cases member)

theorem flushGroups_mirrored (answers : Answers) {config : Config}
    (mirrored : Mirrored config.policy w) :
    Mirrored config.policy (w.flushGroups answers config) := by
  have processed : Mirrored config.policy
      (w.processAll answers config.policy config.currentMode config.requireOutputs).2 :=
    processGroups_mirrored answers (List.range w.layoutputs.length) mirrored
  unfold World.flushGroups
  dsimp only
  split
  · exact processed
  · exact processed.calm (.fail _)

end Westonite.Output
