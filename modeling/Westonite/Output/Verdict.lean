import Westonite.Output.Turns

/-! The pass over all groups: what its verdict says about the outputs that are up,
and that every run of the machine comes to it with tracked entries. -/

set_option autoImplicit false

namespace Westonite.Output

open Library

variable {w now : World}

/-! ### The pass -/

/-- What a pass over distinct groups comes to: how many fail, and the world. -/
structure Pass (groups : List Nat) (w : World) (result : Nat × World) : Prop where
  tracked : Tracked result.2
  bounded : result.1 ≤ groups.length
  others : ∀ other, other ∉ groups → result.2.liveIn other = w.liveIn other
  staging : ∀ other, other ∉ groups → result.2.stagedIn other = w.stagedIn other
  stays : ∀ index, w.liveIn index = true → result.2.liveIn index = true
  spared : result.1 < groups.length →
    ∃ index ∈ groups, w.stagedIn index = [] ∨ result.2.liveIn index = true
  failed : result.1 = groups.length → ∀ index ∈ groups,
    w.stagedIn index ≠ [] ∧ (result.2.liveIn index = true → (w.stagedIn index).length ≠ 1)

namespace Pass

variable {index : Nat} {groups : List Nat} {result : Nat × World}

/-- The turns of the groups that are left leave this one as it is. -/
private theorem after_turn (turn : Turn index w now) (apart : index ∉ groups)
    (rest : Pass groups now result) :
    result.2.liveIn index = now.liveIn index ∧
    (∀ other ∈ groups, now.stagedIn other = w.stagedIn other) ∧
    (∀ other, other ∉ index :: groups → result.2.liveIn other = w.liveIn other) ∧
    (∀ other, other ∉ index :: groups → result.2.stagedIn other = w.stagedIn other) ∧
    (∀ other, w.liveIn other = true → result.2.liveIn other = true) := by
  refine ⟨rest.others index apart, ?_, ?_, ?_, ?_⟩
  · intro other member
    exact turn.staged other fun same => apart (same ▸ member)
  · intro other absent
    rw [rest.others other fun member => absent (.tail index member)]
    exact turn.live other fun same => absent (same ▸ List.mem_cons_self)
  · intro other absent
    rw [rest.staging other fun member => absent (.tail index member)]
    exact turn.staged other fun same => absent (same ▸ List.mem_cons_self)
  · intro other live
    apply rest.stays
    by_cases same : other = index
    · rw [same] at live ⊢
      exact turn.stays live
    · rw [turn.live other same, live]

/-- A group that is skipped or comes up. -/
private theorem cons_spared (turn : Turn index w now) (apart : index ∉ groups)
    (rest : Pass groups now result)
    (spared : w.stagedIn index = [] ∨ now.liveIn index = true) :
    Pass (index :: groups) w result := by
  obtain ⟨here, _, others, staging, stays⟩ := rest.after_turn turn apart
  refine ⟨rest.tracked, Nat.le_succ_of_le rest.bounded, others, staging, stays, ?_, ?_⟩
  · exact fun _ => ⟨index, List.mem_cons_self, spared.imp id fun live => here.trans live⟩
  · intro all
    have bounded := rest.bounded
    rw [all] at bounded
    exact absurd bounded (Nat.not_succ_le_self groups.length)

private theorem cons_failed (turn : Turn index w now) (apart : index ∉ groups)
    (rest : Pass groups now result) (staged : w.stagedIn index ≠ [])
    (down : now.liveIn index = true → (w.stagedIn index).length ≠ 1) :
    Pass (index :: groups) w (result.1 + 1, result.2) := by
  obtain ⟨here, kept, others, staging, stays⟩ := rest.after_turn turn apart
  refine ⟨rest.tracked, Nat.succ_le_succ rest.bounded, others, staging, stays, ?_, ?_⟩
  · intro less
    obtain ⟨other, member, spared⟩ := rest.spared (Nat.lt_of_succ_lt_succ less)
    rw [kept other member] at spared
    exact ⟨other, .tail index member, spared⟩
  · intro all other member
    rcases List.mem_cons.mp member with rfl | member
    · exact ⟨staged, fun live => down (here ▸ live)⟩
    · have rested := rest.failed (Nat.succ.inj all) other member
      rw [kept other member] at rested
      exact rested

end Pass

private theorem processGroups_pass (tracked : Tracked w) (answers : Answers) (policy : OutputPolicy)
    (currentMode : Bool) {groups : List Nat} (distinct : groups.Nodup) :
    Pass groups w (World.processGroups answers policy currentMode groups w) := by
  induction groups generalizing w with
  | nil =>
      refine ⟨tracked, Nat.le_refl 0, fun _ _ => rfl, fun _ _ => rfl, fun _ => id, ?_, ?_⟩
      · exact fun impossible => absurd impossible (Nat.lt_irrefl 0)
      · exact fun _ index member => by cases member
  | cons index groups ih =>
      obtain ⟨apart, distinct⟩ := List.nodup_cons.mp distinct
      unfold World.processGroups
      split
      · rename_i none
        exact .cons_spared (.refl index tracked) apart (ih tracked distinct)
          (.inl (by simpa using none))
      · rename_i some
        have staged : w.stagedIn index ≠ [] := by simpa using some
        obtain ⟨processed, fresh⟩ := processOne_processed tracked answers policy currentMode staged
        dsimp only
        generalize w.processOne answers policy index currentMode = result at processed fresh ⊢
        obtain ⟨done, after⟩ := result
        cases done with
        | true =>
            exact .cons_spared processed.turn apart (ih processed.turn.tracked distinct)
              (.inr (processed.up rfl))
        | false =>
            obtain ⟨cleared, same⟩ := Turn.setAdd processed.turn.tracked index []
            refine .cons_failed (processed.turn.trans cleared) apart (ih cleared.tracked distinct)
              staged ?_
            intro live alone
            have before := processed.down rfl alone (same ▸ live)
            rw [fresh rfl alone] at before
            cases before

private theorem liveIn_inside {index : Nat} (live : w.liveIn index = true) :
    index < w.layoutputs.length := by
  by_contra outside
  unfold World.liveIn World.outputsIn at live
  rw [List.getElem?_eq_none (Nat.le_of_not_lt outside)] at live
  cases live

/-! ### The count -/

/-- A group fails in the pass: something is staged on it when its turn comes, and
`process_one` says no. -/
def World.failsInPass (w : World) (answers : Answers) (policy : OutputPolicy)
    (currentMode : Bool) (index : Nat) : Bool :=
  let before := (World.processGroups answers policy currentMode (List.range index) w).2
  !(before.stagedIn index).isEmpty && !(before.processOne answers policy index currentMode).1

/-- The turns of the groups in front, then those of the others. -/
theorem processGroups_append (answers : Answers) (policy : OutputPolicy) (currentMode : Bool)
    (front rest : List Nat) (w : World) :
    World.processGroups answers policy currentMode (front ++ rest) w =
      ((World.processGroups answers policy currentMode front w).1 +
          (World.processGroups answers policy currentMode rest
            (World.processGroups answers policy currentMode front w).2).1,
        (World.processGroups answers policy currentMode rest
          (World.processGroups answers policy currentMode front w).2).2) := by
  induction front generalizing w with
  | nil => simp [World.processGroups]
  | cons index front ih =>
      rw [List.cons_append, World.processGroups, World.processGroups]
      split
      · exact ih w
      · dsimp only
        rw [ih]
        split
        · rfl
        · rw [Nat.add_right_comm]

private theorem processGroups_singleton (answers : Answers) (policy : OutputPolicy)
    (currentMode : Bool)
    (index : Nat) (w : World) :
    (World.processGroups answers policy currentMode [index] w).1 =
      if !(w.stagedIn index).isEmpty &&
          !(w.processOne answers policy index currentMode).1 then 1
      else 0 := by
  rw [World.processGroups]
  split
  · rename_i none
    rw [none]
    rfl
  · rename_i some
    rw [eq_false_of_ne_true some]
    dsimp only
    cases (w.processOne answers policy index currentMode).1 with
    | true => rfl
    | false => rfl

private theorem processGroups_failed (answers : Answers) (policy : OutputPolicy)
    (currentMode : Bool)
    (w : World) (count : Nat) :
    (World.processGroups answers policy currentMode (List.range count) w).1 =
      (List.range count).countP (w.failsInPass answers policy currentMode) := by
  induction count with
  | zero => rfl
  | succ count ih =>
      rw [List.range_succ, processGroups_append, List.countP_append, ← ih]
      rw [List.countP_singleton, processGroups_singleton]
      rfl

/-- Turns of other groups stage nothing on a group. -/
theorem nothing_staged (tracked : Tracked w) (answers : Answers) (policy : OutputPolicy)
    (currentMode : Bool) (index : Nat) (none : w.stagedIn index = []) :
    w.failsInPass answers policy currentMode index = false := by
  have pass := processGroups_pass tracked answers policy currentMode (@List.nodup_range index)
  have still := pass.staging index fun member => Nat.lt_irrefl index (List.mem_range.mp member)
  unfold World.failsInPass
  dsimp only
  rw [still, none]
  rfl

/-- What `process_all` answers under `require-outputs=any`: whether some group does not
fail, a group with nothing staged being one that does not; and this against the groups that
have an output up afterwards. -/
theorem any_verdict (answers : Answers) (policy : OutputPolicy) (currentMode : Bool)
    (tracked : Tracked w) :
    ((w.processAll answers policy currentMode .any).1 = false ↔
      ∀ index < w.layoutputs.length, w.failsInPass answers policy currentMode index = true) ∧
    (∀ index, w.stagedIn index = [] → w.failsInPass answers policy currentMode index = false) ∧
    ((w.processAll answers policy currentMode .any).1 = true →
      (∃ index, (w.processAll answers policy currentMode .any).2.liveIn index = true) ∨
      ∃ index < w.layoutputs.length, w.stagedIn index = []) ∧
    ((w.processAll answers policy currentMode .any).1 = false →
      (∀ index < w.layoutputs.length, w.stagedIn index ≠ []) ∧
      ∀ index, (w.processAll answers policy currentMode .any).2.liveIn index = true →
        1 < (w.stagedIn index).length) ∧
    ((∀ index < w.layoutputs.length, (w.stagedIn index).length = 1) ∨
        (∃ index < w.layoutputs.length, w.stagedIn index = []) ∧
          (∃ index, w.liveIn index = true) →
      ((w.processAll answers policy currentMode .any).1 = false ↔
        ∀ index, (w.processAll answers policy currentMode .any).2.liveIn index = false)) := by
  have counted := processGroups_failed answers policy currentMode w w.layoutputs.length
  have pass := processGroups_pass tracked answers policy currentMode
    (@List.nodup_range w.layoutputs.length)
  have bounded := pass.bounded
  have spared := pass.spared
  have failed := pass.failed
  simp only [List.length_range, List.mem_range] at bounded spared failed
  unfold World.processAll
  dsimp only
  generalize World.processGroups answers policy currentMode (List.range w.layoutputs.length) w =
    result at counted pass bounded spared failed ⊢
  have inside : ∀ index, result.2.liveIn index = true → index < w.layoutputs.length := by
    intro index live
    by_contra outside
    rw [pass.others index fun member => outside (List.mem_range.mp member)] at live
    exact outside (liveIn_inside live)
  have up : (result.1 != w.layoutputs.length) = true →
      ∃ index < w.layoutputs.length, w.stagedIn index = [] ∨ result.2.liveIn index = true :=
    fun verdict => spared (Nat.lt_of_le_of_ne bounded (bne_iff_ne.mp verdict))
  have down : (result.1 != w.layoutputs.length) = false → ∀ index < w.layoutputs.length,
      w.stagedIn index ≠ [] ∧
        (result.2.liveIn index = true → (w.stagedIn index).length ≠ 1) :=
    fun verdict => failed (by simpa using verdict)
  refine ⟨?_, nothing_staged tracked answers policy currentMode, ?_, ?_, ?_⟩
  · rw [counted, bne_eq_false_iff_eq]
    have all := @List.countP_eq_length _ (List.range w.layoutputs.length)
      (w.failsInPass answers policy currentMode)
    simpa only [List.length_range, List.mem_range] using all
  · intro verdict
    obtain ⟨index, listed, none | live⟩ := up verdict
    · exact .inr ⟨index, listed, none⟩
    · exact .inl ⟨index, live⟩
  · intro verdict
    refine ⟨fun index listed => (down verdict index listed).1, ?_⟩
    intro index live
    obtain ⟨staged, several⟩ := down verdict index (inside index live)
    have some := List.length_pos_iff.mpr staged
    have notOne := several live
    omega
  · rintro (single | ⟨⟨skipped, listed, none⟩, known, live⟩)
    · constructor
      · intro verdict index
        by_contra isLive
        have live : result.2.liveIn index = true := by simpa using isLive
        have listed := inside index live
        exact (down verdict index listed).2 live (single index listed)
      · intro dead
        by_contra isUp
        obtain ⟨index, listed, none | live⟩ := up (by simpa using isUp)
        · have one := single index listed
          rw [none] at one
          cases one
        · rw [dead index] at live
          cases live
    · constructor
      · intro verdict
        exact absurd none (down verdict skipped listed).1
      · intro dead
        have same := (dead known).symm.trans (pass.stays known live)
        cases same

/-! ### The entries over a run -/

namespace Tracked

/-- Whatever leaves cells and groups alone and no output goes down. -/
theorem quiet (tracked : Tracked w) (narrows : Narrows w now)
    (enabled : ∀ output, w.isEnabled output = true → now.isEnabled output = true)
    (layoutputs : now.layoutputs = w.layoutputs) : Tracked now := by
  apply tracked.narrows narrows fun _ output _ => enabled output
  intro index cell member
  unfold World.outputsIn at member ⊢
  rw [layoutputs] at member
  exact member

theorem setOutput (tracked : Tracked w) (output : OutputPtr)
    {change : WestonOutput → WestonOutput}
    (same : ∀ value, (change value).enabled = value.enabled) :
    Tracked (w.setOutput output change) := by
  refine tracked.quiet ((Narrows.refl w).of_same rfl rfl rfl rfl) ?_ rfl
  intro other up
  unfold World.isEnabled World.setOutput
  dsimp only
  rw [Function.update_apply]
  split
  · rename_i here
    rw [here] at up
    unfold World.isEnabled at up
    cases there : w.outputs output with
    | none =>
        rw [there] at up
        cases up
    | some value =>
        rw [there, Option.any_some] at up
        rw [Option.map_some, Option.any_some, same, up]
  · exact up

theorem destroyOutput (tracked : Tracked w) (output : OutputPtr) :
    Tracked (w.destroyOutput output) := by
  apply tracked.narrows ((Narrows.refl w).destroyOutput output) _ fun _ _ => id
  intro cell other held up
  have different : other ≠ output := by
    rintro rfl
    change (if w.cells cell = some other then none else w.cells cell) = some other at held
    split at held
    · cases held
    · contradiction
  unfold World.isEnabled
  rw [destroyOutput_outputs, if_neg different]
  exact up

theorem destroyEntry (tracked : Tracked w) (index : Nat) (cell : CellId) :
    Tracked (w.destroyEntry index cell) := by
  have removed : ∀ {now : World}, Tracked now → Tracked (now.removeOutput index cell) := by
    intro now tracked
    exact tracked.narrows ((Narrows.refl now).of_same rfl rfl rfl rfl) (fun _ _ _ => id)
      fun other => removeOutput_subset now index other cell
  unfold World.destroyEntry
  cases w.cells cell with
  | none => exact removed tracked
  | some output => exact removed (tracked.destroyOutput output)

theorem headDetached (tracked : Tracked w) (output : OutputPtr) :
    Tracked (w.headDetached output) := by
  unfold World.headDetached
  split
  · exact tracked
  · dsimp only
    split
    · exact tracked
    · split
      · exact tracked
      · exact tracked.destroyEntry _ _

theorem drmHeadDisable (tracked : Tracked w) (head : HeadPtr) :
    Tracked (w.drmHeadDisable head) := by
  have detached : Tracked (w.detachHead head) :=
    tracked.quiet ((Narrows.refl w).detachHead head) (fun _ => id) rfl
  unfold World.drmHeadDisable
  cases w.outputOf head with
  | none => exact detached
  | some output => exact detached.headDetached output

theorem addHead (tracked : Tracked w) (group sectionHead : String) (head : HeadPtr) :
    Tracked (w.addHead group sectionHead head) := by
  have joined : Tracked (if w.layoutputs.any fun lo => lo.name == group then w
      else { w with layoutputs := w.layoutputs ++ [⟨group, sectionHead, [], []⟩] }) := by
    split
    · exact tracked
    · refine tracked.narrows ((Narrows.refl w).of_same rfl rfl rfl rfl) (fun _ _ _ => id) ?_
      intro index cell member
      unfold World.outputsIn at member ⊢
      dsimp only at member
      rw [List.getElem?_append] at member
      split at member
      · exact member
      · cases new : index - w.layoutputs.length with
        | zero =>
            rw [new] at member
            cases member
        | succ past =>
            rw [new] at member
            cases member
  unfold World.addHead
  generalize (if w.layoutputs.any fun lo => lo.name == group then w
      else { w with layoutputs := w.layoutputs ++ [⟨group, sectionHead, [], []⟩] }) = next
    at joined ⊢
  dsimp only
  split
  · exact joined
  · rename_i place _
    refine joined.narrows ((Narrows.refl next).of_same rfl rfl rfl rfl) (fun _ _ _ => id) ?_
    intro index cell member
    by_cases here : index = place
    · rw [here] at member ⊢
      unfold World.outputsIn at member ⊢
      unfold World.setLayoutput at member
      rw [List.getElem?_modify_eq] at member
      cases there : next.layoutputs[place]? with
      | none =>
          rw [there] at member
          cases member
      | some lo =>
          rw [there] at member
          change cell ∈ lo.outputs
          change cell ∈ (if lo.add.length + 1 ≥ World.maxCloneHeads then lo
            else { lo with add := lo.add ++ [some head] }).outputs at member
          split at member <;> exact member
    · unfold World.outputsIn at member ⊢
      rw [setLayoutput_ne next here] at member
      exact member

theorem drmPrepareEnable (tracked : Tracked w) (config : Config) (head : HeadPtr)
    (value : WestonHead) : Tracked (w.drmPrepareEnable config head value) := by
  unfold World.drmPrepareEnable
  split
  · exact tracked.addHead _ _ head
  · exact tracked
  · exact tracked
  · exact tracked.addHead _ _ head

theorem disableHead (tracked : Tracked w) (head : HeadPtr) : Tracked (w.disableHead head) := by
  unfold World.disableHead
  cases w.outputOf head with
  | none => exact tracked
  | some output => exact tracked.destroyOutput output

theorem enableHead (tracked : Tracked w) (answers : Answers) (policy : OutputPolicy)
    (head : HeadPtr) (setup : HeadSetup) (mirrorOf : Option OutputPtr) (color : ColorSetup) :
    Tracked (w.enableHead answers (World.outputCreated answers policy) head setup mirrorOf
      color) :=
  (@Turn.of_aside w _ 0 tracked (.of_around
    ((Around.refl w).enableHead (Around.outputCreated answers policy) answers head setup mirrorOf
      color)
    ((Narrows.refl w).enableHead (Narrows.outputCreated answers policy) answers head setup
      mirrorOf color)
    (Nat.le_refl _))).1.tracked

theorem visitHead (tracked : Tracked w) (answers : Answers) (config : Config) (head : HeadPtr) :
    Tracked (w.visitHead answers config head).2 := by
  refine @World.visitHead_keeps answers config Tracked w head ?_ fun now tracked =>
    tracked.quiet ((Narrows.refl now).resetDeviceChanged head) (fun _ => id) rfl
  intro now visited
  cases visited with
  | left => exact tracked
  | prepared value => exact tracked.drmPrepareEnable config head value
  | drmDisabled => exact tracked.drmHeadDisable head
  | enabled => exact tracked.enableHead answers config.policy head _ none _
  | registered =>
      unfold World.registerHead
      split
      · exact tracked
      · exact tracked.quiet ((Narrows.refl w).of_same rfl rfl rfl rfl) (fun _ => id) rfl
  | disabled => exact tracked.disableHead head

theorem applyMirrorModeline (tracked : Tracked w) (source output : OutputPtr) :
    Tracked (w.applyMirrorModeline source output) := by
  unfold World.applyMirrorModeline
  split
  · exact tracked
  · dsimp only
    split
    · exact tracked.quiet (Narrows.refl w).fail (fun _ => id) rfl
    · exact tracked.setOutput output fun _ => rfl

theorem mirrorOnOutputResized (tracked : Tracked w) (policy : OutputPolicy)
    (resized : OutputPtr) : Tracked (w.mirrorOnOutputResized policy resized) := by
  unfold World.mirrorOnOutputResized
  split
  · exact tracked
  · split
    · exact tracked
    · split
      · apply applyMirrorModeline
        exact tracked.setOutput _ fun _ => rfl
      · exact tracked

theorem new (backends : List (BackendPtr × BackendKind)) (useColorManager : Bool) :
    Tracked (.new backends useColorManager) where
  attached _ _ on := by cases on
  entries _ _ held := by cases held
  cells _ _ member := by cases member

theorem headAdded (tracked : Tracked w) (head : HeadPtr) {value : WestonHead}
    (free : value.output = none) :
    Tracked { w with
      heads := Function.update w.heads head (some value)
      headList := w.headList ++ [head] } where
  attached other output on := by
    unfold World.outputOf at on
    dsimp only at on
    rw [Function.update_apply] at on
    split at on
    · rw [Option.bind_some, free] at on
      cases on
    · exact tracked.attached other output on
  entries := tracked.entries
  cells := tracked.cells

end Tracked

private theorem flushGroups_tracked (tracked : Tracked w) (answers : Answers) (config : Config) :
    Tracked (w.flushGroups answers config) := by
  have processed : Tracked
      (w.processAll answers config.policy config.currentMode config.requireOutputs).2 :=
    (processGroups_pass tracked answers config.policy config.currentMode
      (@List.nodup_range w.layoutputs.length)).tracked
  unfold World.flushGroups
  dsimp only
  split
  · exact processed
  · exact processed.quiet (Narrows.refl _).fail (fun _ => id) rfl

/-- In every state that is reached the entries are tracked. -/
theorem tracked_run {answers : Answers} {config : Config}
    {backends : List (BackendPtr × BackendKind)} {useColorManager : Bool} {labels : List Label}
    {m : Machine}
    (run : Run (Machine.Step answers config) (.start backends useColorManager) labels m) :
    Tracked m.world := by
  refine @Run.invariant _ _ _ (fun m => Tracked m.world) ?_ _ _ _
    (.new backends useColorManager) run
  intro m label next tracked taken
  cases Machine.moved_of_step answers config taken with
  | headAdded head => exact tracked.headAdded head rfl
  | headChanged =>
      exact tracked.quiet ((Narrows.refl _).setHead _ fun _ _ => .inl) (fun _ => id) rfl
  | flush => exact tracked
  | groups => exact flushGroups_tracked tracked answers config
  | flushed => exact tracked
  | visit head => exact tracked.visitHead answers config head
  | resized output =>
      apply Tracked.mirrorOnOutputResized
      exact tracked.setOutput output fun _ => rfl
  | outputDestroyed output => exact tracked.destroyOutput output

/-- One connector is staged, in a group of its own. -/
theorem any_verdict_single :
    ∃ labels m,
      Run (Machine.Step .granting ⟨clonePolicy, false, .any⟩) (.start [(0, .drm)] false) labels m ∧
      m.world.layoutputs.map Layoutput.add = [[some 0]] ∧
      ((m.world.processAll .granting clonePolicy false .any).1 = false ↔
        ∀ index, (m.world.processAll .granting clonePolicy false .any).2.liveIn index = false) := by
  let labels : List Label :=
    [.headAdded 0 "DP-1" 0 .normal, .headChanged 0 true false, .flush, .next]
  have reached : (follow (Machine.step .granting ⟨clonePolicy, false, .any⟩)
      (.start [(0, .drm)] false) labels).map (fun m => m.world.layoutputs.map Layoutput.add) =
      some [[some 0]] := by
    rfl
  obtain ⟨m, found, staged⟩ := Option.map_eq_some_iff.mp reached
  have run := run_of_follow found
  refine ⟨labels, m, run, staged, ?_⟩
  apply (any_verdict .granting clonePolicy false (tracked_run run)).2.2.2.2
  left
  intro index inside
  have there : (m.world.layoutputs.map Layoutput.add)[index]? = some (m.world.stagedIn index) := by
    rw [List.getElem?_map, World.stagedIn, List.getElem?_eq_getElem inside]
    rfl
  rw [staged] at there
  cases index with
  | zero =>
      rw [← Option.some.inj there]
      rfl
  | succ index => cases there

/-- A libweston that refuses one call. -/
def Answers.refusing (call : Nat) : Answers where
  ok n := n != call
  geometry _ := ⟨⟨0, 0, 0⟩, none, 0, 0⟩

/-- A clone is refused and its group counts as failed, with the output of the first
connector up; the only connector is unplugged and no group counts as failed. -/
theorem any_verdict_apart :
    (∃ labels m,
      Run (Machine.Step (.refusing 1) ⟨clonePolicy, false, .any⟩) (.start [(0, .drm)] false) labels
        m ∧
      m.flushing = some ([], true) ∧
      ¬ ((m.world.processAll (.refusing 1) clonePolicy false .any).1 = false ↔
        ∀ index, (m.world.processAll (.refusing 1) clonePolicy false .any).2.liveIn index = false)) ∧
    ∃ labels m,
      Run (Machine.Step .granting ⟨clonePolicy, false, .any⟩) (.start [(0, .drm)] false) labels m ∧
      m.flushing = some ([], true) ∧
      ¬ ((m.world.processAll .granting clonePolicy false .any).1 = false ↔
        ∀ index, (m.world.processAll .granting clonePolicy false .any).2.liveIn index = false) := by
  constructor
  · let labels : List Label :=
      [.headAdded 0 "DP-1" 0 .normal, .headAdded 1 "DP-2" 0 .normal, .headChanged 0 true false,
        .headChanged 1 true false, .flush, .next, .next]
    have reached : (follow (Machine.step (.refusing 1) ⟨clonePolicy, false, .any⟩)
        (.start [(0, .drm)] false) labels).map (fun m =>
          (m.flushing, (m.world.processAll (.refusing 1) clonePolicy false .any).1,
            (m.world.processAll (.refusing 1) clonePolicy false .any).2.liveIn 0)) =
        some (some ([], true), false, true) := by
      rfl
    obtain ⟨m, found, same⟩ := Option.map_eq_some_iff.mp reached
    simp only [Prod.mk.injEq] at same
    obtain ⟨flushing, verdict, live⟩ := same
    refine ⟨labels, m, run_of_follow found, flushing, ?_⟩
    intro claimed
    rw [claimed.mp verdict 0] at live
    cases live
  · let labels : List Label :=
      [.headAdded 0 "DP-1" 0 .normal, .headChanged 0 true false, .flush, .next, .next,
        .headChanged 0 false false, .flush, .next]
    have reached : (follow (Machine.step .granting ⟨clonePolicy, false, .any⟩)
        (.start [(0, .drm)] false) labels).map (fun m =>
          (m.flushing, (m.world.processAll .granting clonePolicy false .any).1,
            (m.world.processAll .granting clonePolicy false .any).2.liveIn 0,
            (m.world.processAll .granting clonePolicy false .any).2.layoutputs.length)) =
        some (some ([], true), true, false, 1) := by
      rfl
    obtain ⟨m, found, same⟩ := Option.map_eq_some_iff.mp reached
    simp only [Prod.mk.injEq] at same
    obtain ⟨flushing, verdict, dead, single⟩ := same
    refine ⟨labels, m, run_of_follow found, flushing, ?_⟩
    intro claimed
    have down := claimed.mpr fun index => by
      cases live : (m.world.processAll .granting clonePolicy false .any).2.liveIn index with
      | false => rfl
      | true =>
          have inside := liveIn_inside live
          rw [single, Nat.lt_one_iff] at inside
          rw [inside, dead] at live
          cases live
    rw [verdict] at down
    cases down

end Westonite.Output
