import Westonite.Output.StagedTurns

/-! Every run comes to each turn of its flush with the heads of the group distinct
and on no output; and when a group that is in this state keeps its heads. -/

set_option autoImplicit false

namespace Westonite.Output

open Library

variable {mine : HeadPtr → Prop} {pending : Option OutputPtr} {base w now : World}
  {config : Config}

/-! ### A visited head -/

/-- A head goes to the end of one group, unless that is full. -/
private theorem addHead_stagedIn (w : World) (group sectionHead : String) (head : HeadPtr) :
    ∃ place, ∀ index,
      (w.addHead group sectionHead head).stagedIn index = w.stagedIn index ∨
      index = place ∧
        (w.addHead group sectionHead head).stagedIn index = w.stagedIn index ++ [some head] := by
  have joined : ∀ index, (if w.layoutputs.any fun lo => lo.name == group then w
      else { w with layoutputs := w.layoutputs ++ [⟨group, sectionHead, [], []⟩] }).stagedIn index =
        w.stagedIn index := by
    intro index
    split
    · rfl
    · unfold World.stagedIn
      dsimp only
      rw [List.getElem?_append]
      split
      · rfl
      · rename_i outside
        rw [List.getElem?_eq_none (Nat.le_of_not_lt outside)]
        cases index - w.layoutputs.length <;> rfl
  unfold World.addHead
  dsimp only
  generalize (if w.layoutputs.any fun lo => lo.name == group then w
      else { w with layoutputs := w.layoutputs ++ [⟨group, sectionHead, [], []⟩] }) = next
    at joined ⊢
  split
  · exact ⟨0, fun index => .inl (joined index)⟩
  · rename_i place _
    refine ⟨place, fun index => ?_⟩
    rw [← joined index]
    by_cases here : index = place
    · subst here
      unfold World.stagedIn World.setLayoutput
      rw [List.getElem?_modify_eq]
      cases next.layoutputs[index]? with
      | none => exact .inl rfl
      | some lo =>
          simp only [Option.map_eq_map, Option.map_some, Option.getD_some, true_and]
          split
          · exact .inl rfl
          · exact .inr rfl
    · left
      unfold World.stagedIn
      rw [setLayoutput_ne next here]

namespace Quiet

theorem addHead (quiet : Quiet mine pending base w) (group sectionHead : String)
    (head : HeadPtr) : Quiet mine pending base (w.addHead group sectionHead head) := by
  obtain ⟨layoutputs, same⟩ := addHead_fields w group sectionHead head
  rw [same]
  exact quiet.of_same rfl rfl rfl rfl

theorem destroyEntry (quiet : Quiet mine none base w) (index : Nat) (cell : CellId) :
    Quiet mine none base (w.destroyEntry index cell) := by
  unfold World.destroyEntry
  cases w.cells cell with
  | none => exact quiet.of_same rfl rfl rfl rfl
  | some output =>
      have gone : Quiet mine none base (w.destroyOutput output) :=
        quiet.destroyOutput (.inl rfl)
      exact gone.of_same rfl rfl rfl rfl

theorem drmHeadDisable (quiet : Quiet mine none base w) (head : HeadPtr) :
    Quiet mine none base (w.drmHeadDisable head) := by
  have detached := quiet.detachHead head
  unfold World.drmHeadDisable
  cases w.outputOf head with
  | none => exact detached
  | some output =>
      dsimp only
      unfold World.headDetached
      split
      · exact detached
      · dsimp only
        split
        · exact detached
        · split
          · exact detached
          · exact detached.destroyEntry _ _

theorem disableHead (quiet : Quiet mine none base w) (head : HeadPtr) :
    Quiet mine none base (w.disableHead head) := by
  unfold World.disableHead
  cases w.outputOf head with
  | none => exact quiet
  | some output => exact quiet.destroyOutput (.inl rfl)

end Quiet

theorem Quiet.mirrorOnOutputResized (quiet : Quiet mine pending base w) (policy : OutputPolicy)
    (resized : OutputPtr) :
    Quiet mine pending base (w.mirrorOnOutputResized policy resized) := by
  unfold World.mirrorOnOutputResized
  split
  · exact quiet
  · split
    · exact quiet
    · split
      · apply Quiet.applyMirrorModeline
        exact quiet.setOutput _ fun _ => rfl
      · exact quiet

private theorem applyMirrorModeline_stagedIn (w : World) (source output : OutputPtr) (index : Nat) :
    (w.applyMirrorModeline source output).stagedIn index = w.stagedIn index := by
  unfold World.applyMirrorModeline
  split
  · rfl
  · dsimp only
    split <;> rfl

private theorem mirrorOnOutputResized_stagedIn (w : World) (policy : OutputPolicy)
    (resized : OutputPtr)
    (index : Nat) : (w.mirrorOnOutputResized policy resized).stagedIn index = w.stagedIn index := by
  unfold World.mirrorOnOutputResized
  split
  · rfl
  · split
    · rfl
    · split
      · exact applyMirrorModeline_stagedIn _ resized _ index
      · rfl

private theorem drmHeadDisable_stagedIn (w : World) (head : HeadPtr) (index : Nat) :
    (w.drmHeadDisable head).stagedIn index = w.stagedIn index := by
  have entry : ∀ (w : World) (place : Nat) (cell : CellId),
      (w.destroyEntry place cell).stagedIn index = w.stagedIn index := by
    intro w place cell
    unfold World.destroyEntry
    rw [removeOutput_stagedIn]
    cases w.cells cell <;> rfl
  unfold World.drmHeadDisable
  cases w.outputOf head with
  | none => rfl
  | some output =>
      dsimp only
      unfold World.headDetached
      split
      · rfl
      · dsimp only
        split
        · rfl
        · split
          · rfl
          · exact entry _ _ _

private theorem disableHead_stagedIn (w : World) (head : HeadPtr) (index : Nat) :
    (w.disableHead head).stagedIn index = w.stagedIn index := by
  unfold World.disableHead
  cases w.outputOf head <;> rfl

private theorem enableHead_stagedIn (w : World) (answers : Answers) (policy : OutputPolicy)
    (head : HeadPtr) (setup : HeadSetup) (mirrorOf : Option OutputPtr) (color : ColorSetup)
    (index : Nat) :
    (w.enableHead answers (World.outputCreated answers policy) head setup mirrorOf
      color).stagedIn index = w.stagedIn index := by
  unfold World.stagedIn
  rw [((Around.refl w).enableHead (Around.outputCreated answers policy) answers head setup mirrorOf
    color).layoutputs]

namespace Staging

/-- An idle head that is staged nowhere goes on one group. -/
theorem addHead (staging : Staging w) {head : HeadPtr} (idle : w.Idle head)
    (unstaged : ∀ index, some head ∉ w.stagedIn index) (group sectionHead : String) :
    Staging (w.addHead group sectionHead head) ∧
      ∀ index other, some other ∈ (w.addHead group sectionHead head).stagedIn index →
        other = head ∨ some other ∈ w.stagedIn index := by
  have quiet : Quiet (fun _ => False) none w (w.addHead group sectionHead head) :=
    (Quiet.refl staging.settled).addHead group sectionHead head
  obtain ⟨place, staged⟩ := addHead_stagedIn w group sectionHead head
  have joins : ∀ index other, some other ∈ (w.addHead group sectionHead head).stagedIn index →
      other = head ∧ index = place ∨ some other ∈ w.stagedIn index := by
    intro index other member
    rcases staged index with same | ⟨here, longer⟩
    · exact .inr (same ▸ member)
    · rw [longer] at member
      rcases List.mem_append.mp member with before | new
      · exact .inr before
      · exact .inl ⟨Option.some.inj (List.mem_singleton.mp new), here⟩
  refine ⟨⟨staging.tracked.addHead group sectionHead head, quiet.settled, ?_, ?_⟩, ?_⟩
  · intro index
    obtain ⟨heads, add, distinct, allIdle⟩ := staging.staged index
    have still : ∀ other ∈ heads, (w.addHead group sectionHead head).Idle other :=
      fun other member => quiet.idle other id (allIdle other member)
    rcases staged index with same | ⟨_, longer⟩
    · exact ⟨heads, same.trans add, distinct, still⟩
    · have apart : head ∉ heads := by
        intro member
        apply unstaged index
        rw [add]
        exact List.mem_map_of_mem member
      refine ⟨heads ++ [head], ?_, ?_, ?_⟩
      · rw [longer, add, List.map_append, List.map_singleton]
      · have permuted := List.perm_append_singleton head heads
        exact permuted.nodup_iff.mpr (List.nodup_cons.mpr ⟨apart, distinct⟩)
      · intro other member
        rcases List.mem_append.mp member with before | new
        · exact still other before
        · rw [List.mem_singleton.mp new]
          exact quiet.idle head id idle
  · intro index other member here there
    rcases joins index member here with ⟨rfl, placed⟩ | before
    · rcases joins other member there with ⟨_, placedThere⟩ | before
      · exact placed.trans placedThere.symm
      · exact absurd before (unstaged other)
    · rcases joins other member there with ⟨rfl, _⟩ | beforeThere
      · exact absurd before (unstaged index)
      · exact staging.apart index other member before beforeThere
  · intro index other member
    exact (joins index other member).imp And.left id

theorem idle (staging : Staging w) {head : HeadPtr} {value : WestonHead}
    (there : w.heads head = some value) (drm : w.backendKind value.backend = some .drm)
    (down : w.headEnabled head = false) : w.Idle head := by
  refine ⟨⟨value, there, drm⟩, ?_⟩
  cases on : w.outputOf head with
  | none => rfl
  | some output =>
      rcases staging.settled head output on with up | impossible
      · unfold World.headEnabled at down
        rw [on, Option.any_some, up] at down
        cases down
      · cases impossible

/-- What a visit comes to: nothing moves, and at most its own head is staged. -/
structure Visit (head : HeadPtr) (w now : World) : Prop where
  staging : Staging now
  quiet : Quiet (fun _ => False) none w now
  staged : ∀ index other, some other ∈ now.stagedIn index →
    other = head ∨ some other ∈ w.stagedIn index

theorem visit (staging : Staging w) (tracked : Tracked now)
    (quiet : Quiet (fun _ => False) none w now)
    (same : ∀ index, now.stagedIn index = w.stagedIn index) (head : HeadPtr) :
    Visit head w now where
  staging := staging.quiet tracked quiet same
  quiet := quiet
  staged index _ member := .inr (same index ▸ member)

theorem visitHead (staging : Staging w) (answers : Answers) (config : Config) {head : HeadPtr}
    (unstaged : ∀ index, some head ∉ w.stagedIn index) :
    Visit head w (w.visitHead answers config head).2 := by
  have tracked := staging.tracked
  have still : Quiet (fun _ => False) none w w := .refl staging.settled
  refine @World.visitHead_keeps answers config (Visit head w) w head ?_ ?_
  · intro now visited
    cases visited with
    | left => exact staging.visit tracked still (fun _ => rfl) head
    | prepared value there drm _ down =>
        have idle := staging.idle there drm down
        have added : ∀ group sectionHead, Visit head w (w.addHead group sectionHead head) := by
          intro group sectionHead
          obtain ⟨after, staged⟩ := staging.addHead idle unstaged group sectionHead
          exact ⟨after, still.addHead group sectionHead head, staged⟩
        unfold World.drmPrepareEnable
        split
        · exact added _ _
        · exact staging.visit tracked still (fun _ => rfl) head
        · exact staging.visit tracked still (fun _ => rfl) head
        · exact added _ _
    | drmDisabled =>
        exact staging.visit (tracked.drmHeadDisable head) (still.drmHeadDisable head)
          (drmHeadDisable_stagedIn w head) head
    | enabled value kind setup there isKind _ other =>
        have notDrm : ¬ w.IsDrm head := by
          rintro ⟨drmHead, found, drm⟩
          obtain rfl := Option.some.inj (there.symm.trans found)
          exact other (Option.some.inj (isKind.symm.trans drm))
        exact staging.visit (tracked.enableHead answers config.policy head setup none _)
          (still.enableHead (Quiet.outputCreated answers config.policy) notDrm answers setup none _)
          (enableHead_stagedIn w answers config.policy head setup none _) head
    | registered =>
        unfold World.registerHead
        split
        · exact staging.visit tracked still (fun _ => rfl) head
        · apply staging.visit
          · exact tracked.quiet ((Narrows.refl w).of_same rfl rfl rfl rfl) (fun _ => id) rfl
          · exact still.of_same rfl rfl rfl rfl
          · exact fun _ => rfl
    | disabled =>
        exact staging.visit (tracked.disableHead head) (still.disableHead head)
          (disableHead_stagedIn w head) head
  · intro now visit
    have reset := visit.staging.tracked.quiet ((Narrows.refl now).resetDeviceChanged head)
      (fun _ => id) rfl
    have settled : Quiet (fun _ => False) none now now := .refl visit.staging.settled
    have moved := settled.resetDeviceChanged head
    exact ⟨visit.staging.quiet reset moved fun _ => rfl, visit.quiet.resetDeviceChanged head,
      visit.staged⟩

end Staging

/-- Only a DRM head is staged. -/
private theorem visitHead_plain {answers : Answers} {head : HeadPtr}
    (plain : (w.visitHead answers config head).1 = false) (index : Nat) :
    (w.visitHead answers config head).2.stagedIn index = w.stagedIn index := by
  unfold World.visitHead at plain ⊢
  split at plain
  · rfl
  · dsimp only at plain ⊢
    split at plain
    · rfl
    · cases plain
    · change World.stagedIn (ite _ _ _) index = _
      split
      · split
        · rfl
        · split
          · exact enableHead_stagedIn w answers config.policy head _ none _ index
          · unfold World.registerHead
            split <;> rfl
      · split
        · exact disableHead_stagedIn w head index
        · rfl

/-! ### Runs -/

/-- Between flushes nothing is staged; within one, no head that it has still to
visit, and nothing before it saw a DRM head. -/
structure Prepared (m : Machine) : Prop where
  staging : Staging m.world
  distinct : m.world.headList.Nodup
  known : ∀ head ∈ m.world.headList, (m.world.heads head).isSome
  idle : m.flushing = none → ∀ index, m.world.stagedIn index = []
  unvisited : ∀ heads sawDrm, m.flushing = some (heads, sawDrm) → heads.Nodup ∧
    (∀ head ∈ heads, ∀ index, some head ∉ m.world.stagedIn index) ∧
    (sawDrm = false → ∀ index, m.world.stagedIn index = [])

theorem Prepared.start (backends : List (BackendPtr × BackendKind)) (useColorManager : Bool) :
    Prepared (.start backends useColorManager) where
  staging :=
    { tracked := .new backends useColorManager
      settled := fun _ _ on => by cases on
      staged := fun _ => ⟨[], rfl, List.nodup_nil, fun _ member => by cases member⟩
      apart := fun _ _ _ member => by cases member }
  distinct := List.nodup_nil
  known _ member := by cases member
  idle _ _ := rfl
  unvisited _ _ flushing := by cases flushing

namespace Prepared

variable {m : Machine}

/-- Whatever moves no idle head and stages nothing, in the midst of a flush or not. -/
theorem quiet (prepared : Prepared m) (tracked : Tracked now)
    (quiet : Quiet (fun _ => False) none m.world now)
    (same : ∀ index, now.stagedIn index = m.world.stagedIn index) :
    Prepared { m with world := now } where
  staging := prepared.staging.quiet tracked quiet same
  distinct := quiet.headList ▸ prepared.distinct
  known head member := by
    rw [quiet.known]
    exact prepared.known head (quiet.headList ▸ member)
  idle idle index := (same index).trans (prepared.idle idle index)
  unvisited heads sawDrm flushing := by
    obtain ⟨distinct, unstaged, plain⟩ := prepared.unvisited heads sawDrm flushing
    refine ⟨distinct, ?_, fun isPlain index => (same index).trans (plain isPlain index)⟩
    intro head member index staged
    exact unstaged head member index (same index ▸ staged)

theorem headAdded (prepared : Prepared m) {head : HeadPtr} {value : WestonHead}
    (unknown : m.world.heads head = none) (free : value.output = none) :
    Prepared { m with world := { m.world with
      heads := Function.update m.world.heads head (some value)
      headList := m.world.headList ++ [head] } } := by
  have apart : head ∉ m.world.headList := by
    intro listed
    have known := prepared.known head listed
    rw [unknown] at known
    cases known
  have still : ∀ other, m.world.Idle other → World.Idle { m.world with
      heads := Function.update m.world.heads head (some value)
      headList := m.world.headList ++ [head] } other := by
    rintro other ⟨⟨old, found, drm⟩, off⟩
    have different : other ≠ head := by
      rintro rfl
      rw [unknown] at found
      cases found
    have same : Function.update m.world.heads head (some value) other = m.world.heads other :=
      Function.update_of_ne different ..
    refine ⟨⟨old, same.trans found, drm⟩, ?_⟩
    unfold World.outputOf at off ⊢
    dsimp only
    rw [same]
    exact off
  refine ⟨⟨prepared.staging.tracked.headAdded head free, ?_, ?_, prepared.staging.apart⟩, ?_, ?_,
    prepared.idle, prepared.unvisited⟩
  · intro other output on
    unfold World.outputOf at on
    dsimp only at on
    rw [Function.update_apply] at on
    split at on
    · rw [Option.bind_some, free] at on
      cases on
    · exact prepared.staging.settled other output on
  · intro index
    obtain ⟨heads, add, distinct, idle⟩ := prepared.staging.staged index
    exact ⟨heads, add, distinct, fun other member => still other (idle other member)⟩
  · have permuted := List.perm_append_singleton head m.world.headList
    exact permuted.nodup_iff.mpr (List.nodup_cons.mpr ⟨apart, prepared.distinct⟩)
  · intro other member
    dsimp only at member ⊢
    rw [Function.update_apply]
    split
    · rfl
    · rename_i different
      rcases List.mem_append.mp member with before | new
      · exact prepared.known other before
      · exact absurd (List.mem_singleton.mp new) different

theorem visited (prepared : Prepared m) (answers : Answers) {head : HeadPtr}
    {heads : List HeadPtr} {sawDrm : Bool} (flushing : m.flushing = some (head :: heads, sawDrm)) :
    Prepared {
      world := (m.world.visitHead answers config head).2
      flushing := some (heads, sawDrm || (m.world.visitHead answers config head).1) } := by
  obtain ⟨distinct, unstaged, plain⟩ := prepared.unvisited _ _ flushing
  obtain ⟨apart, distinct⟩ := List.nodup_cons.mp distinct
  have visit := prepared.staging.visitHead answers config (unstaged head List.mem_cons_self)
  refine ⟨visit.staging, ?_, ?_, nofun, ?_⟩
  · rw [visit.quiet.headList]
    exact prepared.distinct
  · intro other member
    rw [visit.quiet.known]
    rw [visit.quiet.headList] at member
    exact prepared.known other member
  · rintro _ _ ⟨⟩
    refine ⟨distinct, ?_, ?_⟩
    · intro other member index staged
      rcases visit.staged index other staged with rfl | before
      · exact apart member
      · exact unstaged other (.tail head member) index before
    · intro none index
      obtain ⟨before, isPlain⟩ := Bool.or_eq_false_iff.mp none
      exact (visitHead_plain isPlain index).trans (plain before index)

/-- The groups take their turns, and nothing is staged any more. -/
theorem flushGroups (prepared : Prepared m) (answers : Answers) (config : Config) :
    Prepared { world := m.world.flushGroups answers config, flushing := none } := by
  obtain ⟨staging, quiet, cleared⟩ := prepared.staging.processGroups answers config.policy
    config.currentMode (List.range m.world.layoutputs.length)
  have nothing : ∀ index, (World.processGroups answers config.policy config.currentMode
      (List.range m.world.layoutputs.length) m.world).2.stagedIn index = [] := by
    intro index
    apply cleared index
    rw [List.mem_range]
    refine (Nat.lt_or_ge index m.world.layoutputs.length).imp id fun outside => ?_
    rw [World.stagedIn, List.getElem?_eq_none outside]
    rfl
  have processed : Prepared ⟨(m.world.processAll answers config.policy config.currentMode
      config.requireOutputs).2, none⟩ := by
    refine ⟨staging, ?_, ?_, fun _ => nothing, ?_⟩
    · exact quiet.headList.symm ▸ prepared.distinct
    · intro head member
      have listed : head ∈ m.world.headList := quiet.headList ▸ member
      exact (quiet.known head).trans (prepared.known head listed)
    · intro _ _ impossible
      cases impossible
  unfold World.flushGroups
  dsimp only
  split
  · exact processed
  · have still : Quiet (fun _ => False) none _ _ := .refl processed.staging.settled
    exact processed.quiet (processed.staging.tracked.quiet (Narrows.refl _).fail (fun _ => id) rfl)
      (still.of_same rfl rfl rfl rfl) fun _ => rfl

theorem step {answers : Answers} {label : Label} {next : Machine} (prepared : Prepared m)
    (taken : Machine.Step answers config m label next) : Prepared next := by
  have still : Quiet (fun _ => False) none m.world m.world := .refl prepared.staging.settled
  have tracked := prepared.staging.tracked
  cases Machine.moved_of_step answers config taken with
  | headAdded head name backend transform unknown => exact prepared.headAdded unknown rfl
  | headChanged head connected nonDesktop =>
      exact prepared.quiet
        (tracked.quiet ((Narrows.refl _).setHead _ fun _ _ => .inl) (fun _ => id) rfl)
        (still.setHead head (fun _ => rfl) fun _ => .inr rfl) fun _ => rfl
  | flush =>
      have between : m.flushing = none := by
        unfold Machine.Step Machine.step at taken
        cases flushing : m.flushing with
        | none => rfl
        | some left =>
            rw [flushing] at taken
            obtain ⟨_ | _, _⟩ := left <;> cases taken
      have nothing := prepared.idle between
      refine ⟨prepared.staging, prepared.distinct, prepared.known, nofun, ?_⟩
      rintro _ _ ⟨⟩
      refine ⟨prepared.distinct, ?_, fun _ => nothing⟩
      intro head _ index staged
      rw [nothing index] at staged
      cases staged
  | groups => exact prepared.flushGroups answers config
  | flushed flushing =>
      obtain ⟨_, _, plain⟩ := prepared.unvisited _ _ flushing
      exact ⟨prepared.staging, prepared.distinct, prepared.known, fun _ => plain rfl,
        nofun⟩
  | visit head heads sawDrm flushing => exact prepared.visited answers flushing
  | resized output geometry =>
      refine prepared.quiet (Tracked.mirrorOnOutputResized ?_ config.policy output)
        (Quiet.mirrorOnOutputResized ?_ config.policy output) ?_
      · exact tracked.setOutput output fun _ => rfl
      · exact still.setOutput output fun _ => rfl
      · intro index
        rw [mirrorOnOutputResized_stagedIn]
        rfl
  | outputDestroyed output =>
      exact prepared.quiet (tracked.destroyOutput output) (still.destroyOutput (.inl rfl))
        fun _ => rfl

end Prepared

/-- Before every turn of a flush the heads of the group are distinct and on no output. -/
theorem ready_run {answers : Answers} {config : Config}
    {backends : List (BackendPtr × BackendKind)} {useColorManager : Bool} {labels : List Label}
    {m : Machine}
    (run : Run (Machine.Step answers config) (.start backends useColorManager) labels m)
    (index : Nat) :
    ∃ staged, Ready (World.processGroups answers config.policy config.currentMode
      (List.range index) m.world).2 index staged := by
  have prepared : Prepared m :=
    Run.invariant (fun _ _ _ prepared taken => prepared.step taken)
      (.start backends useColorManager) run
  have staging := (prepared.staging.processGroups answers config.policy config.currentMode
    (List.range index)).1
  exact staging.ready index

/-! ### The heads of a group that comes up -/

/-- A group keeps its staged heads, whatever libweston answers, just when nothing
is staged or none of its outputs is live. -/
theorem staged_heads_kept_iff (policy : OutputPolicy) (currentMode : Bool) {w : World}
    {index : Nat} {staged : List HeadPtr} (ready : Ready w index staged) :
    (∀ answers, (w.processOne answers policy index currentMode).1 = true →
      ∀ head ∈ staged, Kept (w.processOne answers policy index currentMode).2 index head) ↔
    staged = [] ∨ ∀ cell ∈ w.outputsIn index, w.cells cell = none := by
  constructor
  · intro kept
    cases staged with
    | nil => exact .inl rfl
    | cons first staged =>
        right
        by_contra live
        simp only [not_forall] at live
        obtain ⟨cell, member, alive⟩ := live
        obtain ⟨after, result, off, empty⟩ := tryExisting_live ready ⟨cell, member, alive⟩
        have lost := kept .granting
        unfold World.processOne at lost
        rw [result] at lost
        rcases lost rfl first List.mem_cons_self with ⟨_, _, output, _, _, attached⟩ | again
        · rw [off] at attached
          cases attached
        · rw [empty] at again
          cases again
  · rintro (rfl | dead) answers up head member
    · cases member
    · apply processOne_kept dead up
      rw [mem_presentHeads, ready.add]
      exact List.mem_map_of_mem member

/-- Two connectors are staged on one group before it has an output. -/
theorem staged_heads_kept_iff_clones :
    ∃ labels m,
      Run (Machine.Step .granting ⟨clonePolicy, false, .any⟩) (.start [(0, .drm)] false) labels m ∧
      ((∀ answers, (m.world.processOne answers clonePolicy 0 false).1 = true →
        ∀ head ∈ [0, 1], Kept (m.world.processOne answers clonePolicy 0 false).2 0 head) ↔
      [0, 1] = [] ∨ ∀ cell ∈ m.world.outputsIn 0, m.world.cells cell = none) := by
  let labels : List Label :=
    [.headAdded 0 "DP-1" 0 .normal, .headAdded 1 "DP-2" 0 .normal, .headChanged 0 true false,
      .headChanged 1 true false, .flush, .next, .next]
  have reached : (follow (Machine.step .granting ⟨clonePolicy, false, .any⟩)
      (.start [(0, .drm)] false) labels).map (fun m => m.world.stagedIn 0) =
      some [some 0, some 1] := by
    rfl
  obtain ⟨m, found, staged⟩ := Option.map_eq_some_iff.mp reached
  have run := run_of_follow found
  obtain ⟨heads, ready⟩ : ∃ heads, Ready m.world 0 heads := ready_run run 0
  have both : heads.map some = [0, 1].map some := ready.add.symm.trans staged
  obtain rfl := (List.map_inj_right fun _ _ => Option.some.inj).mp both
  exact ⟨labels, m, run, staged_heads_kept_iff clonePolicy false ready⟩

/-- A connector joins a group whose output is up, and is forgotten. -/
theorem staged_head_lost :
    ∃ labels m,
      Run (Machine.Step .granting ⟨clonePolicy, false, .any⟩) (.start [(0, .drm)] false) labels m ∧
      m.flushing = some ([], true) ∧ m.world.stagedIn 0 = [some 1] ∧
      (m.world.processOne .granting clonePolicy 0 false).1 = true ∧
      ¬ Kept (m.world.processOne .granting clonePolicy 0 false).2 0 1 := by
  let labels : List Label :=
    [.headAdded 0 "DP-1" 0 .normal, .headChanged 0 true false, .flush, .next, .next,
      .headAdded 1 "DP-2" 0 .normal, .headChanged 1 true false, .flush, .next, .next]
  have reached : (follow (Machine.step .granting ⟨clonePolicy, false, .any⟩)
      (.start [(0, .drm)] false) labels).map (fun m =>
        (m.flushing, m.world.stagedIn 0,
          (m.world.processOne .granting clonePolicy 0 false).1,
          (m.world.processOne .granting clonePolicy 0 false).2.outputOf 1,
          (m.world.processOne .granting clonePolicy 0 false).2.stagedIn 0)) =
      some (some ([], true), [some 1], true, none, []) := by
    rfl
  obtain ⟨m, found, same⟩ := Option.map_eq_some_iff.mp reached
  simp only [Prod.mk.injEq] at same
  obtain ⟨flushing, staged, up, off, empty⟩ := same
  refine ⟨labels, m, run_of_follow found, flushing, staged, up, ?_⟩
  rintro (⟨_, _, output, _, _, attached⟩ | again)
  · rw [off] at attached
    cases attached
  · rw [empty] at again
    cases again

end Westonite.Output
