import Westonite.Output.Entries

/-! The turn of one group: when it fails, and what it leaves up. -/

set_option autoImplicit false

namespace Westonite.Output

open Library

variable {w after : World} {index : Nat}

/-! ### The outputs a group has -/

/-- What the loop over the outputs of a group comes to. -/
structure Existing (index : Nat) (existing : List CellId) (w : World)
    (result : Option Bool × World) : Prop where
  turn : Turn index w result.2
  live : result.2.liveIn index = w.liveIn index
  done : ∀ up, result.1 = some up → up = true ∧ ∃ cell ∈ existing, w.cells cell ≠ none
  staged : result.1 = none → w.stagedIn index ≠ [] → result.2.stagedIn index ≠ []
  alone : result.1 = none → (w.stagedIn index).length = 1 →
    result.2.stagedIn index = w.stagedIn index ∧ ∀ cell ∈ existing, w.cells cell = none

private theorem tryAttach_alone (w : World) (answers : Answers) (output : OutputPtr)
    {add : List (Option HeadPtr)} (alone : add.length = 1) :
    w.tryAttach answers output add = (add, [], w) := by
  obtain ⟨first, rfl⟩ := List.length_eq_one_iff.mp alone
  rfl

theorem stagedIn_inside (staged : w.stagedIn index ≠ []) : index < w.layoutputs.length := by
  by_contra outside
  apply staged
  rw [World.stagedIn, List.getElem?_eq_none (Nat.le_of_not_lt outside)]
  rfl

private theorem tryExisting_existing (tracked : Tracked w) (answers : Answers)
    (existing : List CellId) :
    Existing index existing w (World.tryExisting answers index existing w) := by
  induction existing generalizing w with
  | nil =>
      refine ⟨.refl index tracked, rfl, ?_, fun _ => id, fun _ _ => ⟨rfl, ?_⟩⟩
      · intro up impossible
        cases impossible
      · exact fun cell member => by cases member
  | cons cell existing ih =>
      unfold World.tryExisting
      cases held : w.cells cell with
      | none =>
          obtain ⟨turn, live⟩ := Turn.removeOutput tracked index held
          have rest := ih turn.tracked
          refine ⟨turn.trans rest.turn, rest.live.trans live, ?_, ?_, ?_⟩
          · intro up done
            obtain ⟨up, other, member, alive⟩ := rest.done up done
            exact ⟨up, other, .tail cell member, alive⟩
          · intro left staged
            apply rest.staged left
            rw [removeOutput_stagedIn]
            exact staged
          · intro left alone
            rw [← removeOutput_stagedIn w index index cell] at alone ⊢
            obtain ⟨staged, dead⟩ := rest.alone left alone
            exact ⟨staged, List.forall_mem_cons.mpr ⟨held, dead⟩⟩
      | some output =>
          have there := (tracked.entries cell output held).1
          have aside := (Aside.refl w.nextOutput w).tryAttach answers there (w.stagedIn index)
          obtain ⟨attached, same⟩ := @Turn.of_aside w _ index tracked aside
          have cells := (tryAttach_same w answers output (w.stagedIn index)).cells
          have inside : w.stagedIn index ≠ [] →
              index < (w.tryAttach answers output (w.stagedIn index)).2.2.layoutputs.length := by
            intro staged
            rw [aside.layoutputs]
            exact stagedIn_inside staged
          dsimp only
          generalize attempted : w.tryAttach answers output (w.stagedIn index) = result
            at attached same cells inside ⊢
          obtain ⟨add, failed, tried⟩ := result
          dsimp only at attached same cells inside ⊢
          obtain ⟨restaged, live⟩ := Turn.setAdd attached.tracked index (failed.map some)
          have turn := attached.trans restaged
          split
          · refine ⟨turn, live.trans same, ?_, ?_, ?_⟩
            · intro up done
              exact ⟨(Option.some.inj done).symm, cell, List.mem_cons_self, by rw [held]; simp⟩
            · intro impossible
              cases impossible
            · intro impossible
              cases impossible
          · rename_i left
            have rest := ih turn.tracked
            refine ⟨turn.trans rest.turn, (rest.live.trans live).trans same, ?_, ?_, ?_⟩
            · intro up done
              obtain ⟨up, other, member, alive⟩ := rest.done up done
              refine ⟨up, other, .tail cell member, ?_⟩
              rw [← cells]
              exact alive
            · intro result staged
              apply rest.staged result
              rw [stagedIn_setAdd _ (inside staged)]
              intro empty
              exact left (by rw [List.map_eq_nil_iff.mp empty]; rfl)
            · intro result alone
              rw [tryAttach_alone w answers output alone] at attempted
              cases attempted
              exact absurd rfl left

/-! ### A new output -/

/-- With no head on it, an output does not come up. -/
private theorem tryOnce_bare {answers : Answers} {policy : OutputPolicy} {output : OutputPtr}
    (down : w.isEnabled output = false) (bare : ∀ head, w.outputOf head ≠ some output) :
    (w.tryOnce answers policy output).1 = false := by
  have none : (w.lazyAlign output).countHeads output = 0 := by
    unfold World.countHeads World.attachedHeads
    rw [List.length_eq_zero_iff, List.filter_eq_nil_iff]
    intro head _ on
    exact bare head (of_decide_eq_true on)
  unfold World.tryOnce
  rw [if_neg (by rw [down]; exact Bool.false_ne_true)]
  unfold World.enable
  dsimp only
  split
  · rfl
  · have alone : ((w.lazyAlign output).call answers).2.countHeads output = 0 := none
    rw [alone]
    simp

private theorem tryOnce_down_enabled {answers : Answers} {policy : OutputPolicy}
    {output : OutputPtr}
    (down : (w.tryOnce answers policy output).1 = false) :
    w.isEnabled output = false ∧ (w.tryOnce answers policy output).2.isEnabled output = false := by
  unfold World.tryOnce at down ⊢
  split at down
  · cases down
  · rename_i disabled
    rw [if_neg disabled]
    refine ⟨by simpa using disabled, ?_⟩
    rcases enable_cases (w.lazyAlign output) answers (World.outputCreated answers policy) output
      with ⟨_, same⟩ | ⟨up, _⟩
    · rw [same]
      change (Function.update w.outputs output _ output).any _ = _
      rw [Function.update_self]
      unfold World.isEnabled at disabled
      cases there : w.outputs output with
      | none => rfl
      | some value =>
          rw [there] at disabled
          simpa using disabled
    · rw [up] at down
      cases down

/-- An output that comes up with its only head has no head to try again. -/
private theorem tryEnable_alone {answers : Answers} {policy : OutputPolicy} {output : OutputPtr}
    {first : HeadPtr} (only : ∀ head, w.outputOf head = some output → head = first)
    (up : (w.tryEnable answers policy output [some first] []).1.up = true) :
    (w.tryEnable answers policy output [some first] []).1.failed = [] := by
  unfold World.tryEnable at up ⊢
  dsimp only at up ⊢
  cases tried : (w.tryOnce answers policy output).1 with
  | true => rfl
  | false =>
      have same := tryOnce_down tried
      have down : ((w.tryOnce answers policy output).2.detachHead first).isEnabled output = false :=
        (tryOnce_down_enabled tried).2
      have again : (((w.tryOnce answers policy output).2.detachHead first).tryOnce answers policy
          output).1 = false := by
        apply tryOnce_bare down
        intro head on
        rw [detachHead_outputOf] at on
        split at on
        · cases on
        · rename_i different
          rw [same.outputOf] at on
          exact different (only head on)
      rw [tried] at up
      simp only [Bool.false_eq_true, if_false, List.reverse_cons, List.reverse_nil,
        List.nil_append, World.undoHeads, again] at up

/-- The attempt to bring up a new output: the world around it before the heads
that lost are staged anew, and what is up then. -/
structure Tried (w : World) (index : Nat) (output bound : OutputPtr) (first : HeadPtr)
    (slots : List (Option HeadPtr)) (up : Bool) (after middle : World) : Prop where
  aside : Aside bound w middle
  down : up = false → after = middle
  restaged : up = true → ∃ registeredHeads failed,
    after = ({ middle with registeredHeads }).setAdd index (failed.map some) ∧
    (slots = [] → (∀ head, w.outputOf head = some output → head = first) → failed = [])
  enabled : up = true → middle.isEnabled output = true
  held : up = true → ∀ cell, w.cells cell = some output → middle.cells cell = some output

private theorem tryAttachEnable_tried {answers : Answers} {policy : OutputPolicy}
    {output bound : OutputPtr}
    {setup : DrmOutputSetup} {first : HeadPtr} {slots : List (Option HeadPtr)}
    (old : output < w.nextOutput) (new : bound ≤ output)
    (staged : w.stagedIn index = some first :: slots) (attached : w.outputOf first = some output) :
    ∃ middle, Tried w index output bound first slots
      (w.tryAttachEnable answers policy output index setup).1
      (w.tryAttachEnable answers policy output index setup).2 middle := by
  obtain ⟨add, failed, joined, result, same, _, on, distinct⟩ :=
    @tryAttach_attached w output slots answers first attached
  have alone : slots = [] → add = [some first] ∧ failed = [] ∧ joined = w := by
    intro none
    rw [none, tryAttach_alone w answers output rfl] at result
    cases result
    exact ⟨rfl, rfl, rfl⟩
  have besides := (Aside.refl bound w).tryAttach answers old (some first :: slots)
  rw [result] at besides
  have configured := besides.configureDrm answers new setup
  have unmoved := configureDrm_same joined answers output setup
  unfold World.tryAttachEnable
  rw [staged, result]
  dsimp only at configured unmoved ⊢
  generalize joined.configureDrm answers output setup = ready at configured unmoved ⊢
  obtain ⟨done, ready⟩ := ready
  cases done with
  | false =>
      refine ⟨ready, configured, fun _ => rfl, ?_, ?_, ?_⟩
      · exact fun impossible => by cases impossible
      · exact fun impossible => by cases impossible
      · exact fun impossible => by cases impossible
  | true =>
      have bounded : output < ready.nextOutput := by
        rw [unmoved.nextOutput, same.nextOutput]
        exact old
      have tried := configured.tryEnable answers policy new
        (Nat.le_trans new (Nat.le_of_lt old)) add failed
      have cameUp := @tryEnable_cameUp answers policy output add failed ready bounded
        (fun head member => (unmoved.outputOf head).trans (on head member)) distinct
      have single : slots = [] → (∀ head, w.outputOf head = some output → head = first) →
          (ready.tryEnable answers policy output add failed).1.up = true →
          (ready.tryEnable answers policy output add failed).1.failed = [] := by
        intro none only up
        obtain ⟨rfl, rfl, rfl⟩ := alone none
        refine tryEnable_alone ?_ up
        intro head here
        rw [unmoved.outputOf] at here
        exact only head here
      dsimp only at tried ⊢
      generalize ready.tryEnable answers policy output add failed = attempted
        at tried cameUp single ⊢
      obtain ⟨attempt, middle⟩ := attempted
      refine ⟨middle, ?_⟩
      dsimp only at tried cameUp single ⊢
      cases isUp : attempt.up with
      | false =>
          refine ⟨tried, fun _ => rfl, ?_, ?_, ?_⟩
          · exact fun impossible => by cases impossible
          · exact fun impossible => by cases impossible
          · exact fun impossible => by cases impossible
      | true =>
          have cameUp := cameUp isUp
          obtain ⟨registeredHeads, fields⟩ := registerHeads_fields middle attempt.add
          refine ⟨tried, ?_, ?_, fun _ => cameUp.enabled, ?_⟩
          · exact fun impossible => by cases impossible
          · intro _
            refine ⟨registeredHeads, attempt.failed, ?_, fun none only => single none only isUp⟩
            rw [← fields]
            rfl
          · intro _ cell held
            apply cameUp.cells cell
            rw [unmoved.cells, same.cells]
            exact held

namespace Created

variable {made middle : World} {head : HeadPtr} {cell : CellId} {output : OutputPtr}

/-- The other cells hold what they held. -/
theorem elsewhere (created : Created w index head cell output made) (tracked : Tracked w)
    (aside : Aside w.nextOutput made middle) {other : CellId} (different : other ≠ cell) :
    middle.cells other = w.cells other ∧
      (middle.cells other).any middle.isEnabled = (w.cells other).any w.isEnabled := by
  have unchanged : made.cells other = w.cells other := by
    rw [created.cells, if_neg different]
  have bounded : ∀ held, made.cells other = some held → held < w.nextOutput := by
    intro held holds
    rw [unchanged] at holds
    exact (tracked.entries other held holds).1
  obtain ⟨same, up⟩ := aside.held bounded
  refine ⟨same.trans unchanged, up.trans ?_⟩
  rw [unchanged]
  cases holds : w.cells other with
  | none => rfl
  | some held =>
      have old := (tracked.entries other held holds).1
      rw [Option.any_some, Option.any_some]
      apply created.enabled
      rw [created.fresh.1]
      exact Nat.ne_of_lt old

/-- Only the head that it was made for is on the new output. -/
theorem only (created : Created w index head cell output made) (tracked : Tracked w)
    {other : HeadPtr} (on : made.outputOf other = some output) : other = head := by
  rw [created.attached] at on
  split at on
  · assumption
  · have bounded := tracked.attached other output on
    rw [created.fresh.1] at bounded
    exact absurd bounded (Nat.lt_irrefl _)

/-- The entry stays in its group while only other parts change. -/
private theorem entry_kept (created : Created w index head cell output made)
    (layoutputs : middle.layoutputs = made.layoutputs) : cell ∈ middle.outputsIn index := by
  have listed : cell ∈ made.outputsIn index := by
    rw [created.entry]
    exact List.mem_append_right _ List.mem_cons_self
  unfold World.outputsIn at listed ⊢
  rwa [layoutputs]

private theorem attached_bounded (created : Created w index head cell output made)
    (tracked : Tracked w)
    (aside : Aside w.nextOutput made middle) (other : HeadPtr) (place : OutputPtr)
    (on : middle.outputOf other = some place) : place < middle.nextOutput := by
  rcases aside.attached other place on with before | new
  · refine Nat.lt_of_lt_of_le ?_ aside.nextOutput
    rw [created.nextOutput]
    rw [created.attached] at before
    split at before
    · obtain rfl := Option.some.inj before
      rw [created.fresh.1]
      exact Nat.lt_succ_self _
    · exact Nat.lt_succ_of_lt (tracked.attached other place before)
  · exact new

private theorem cell_fresh (created : Created w index head cell output made) (tracked : Tracked w)
    (other : Nat) : cell ∉ w.outputsIn other := by
  intro member
  have bounded := tracked.cells other cell member
  rw [created.fresh.2] at bounded
  exact Nat.lt_irrefl _ bounded

/-- The new output is up. -/
theorem up (created : Created w index head cell output made) (tracked : Tracked w)
    (aside : Aside w.nextOutput made middle) (enabled : middle.isEnabled output = true)
    (held : middle.cells cell = some output) :
    Turn index w middle ∧ middle.liveIn index = true := by
  have outputsIn : ∀ other, middle.outputsIn other = made.outputsIn other := by
    intro other
    unfold World.outputsIn
    rw [aside.layoutputs]
  have entry : cell ∈ middle.outputsIn index := by
    rw [outputsIn, created.entry]
    exact List.mem_append_right _ List.mem_cons_self
  have live := liveIn_of_entry entry held enabled
  refine ⟨⟨⟨created.attached_bounded tracked aside, ?_, ?_⟩, ?_, ?_, fun _ => live⟩, live⟩
  · intro other place holds
    by_cases here : other = cell
    · rw [here, held] at holds
      obtain rfl := Option.some.inj holds
      refine ⟨Nat.lt_of_lt_of_le ?_ aside.nextOutput, enabled⟩
      rw [created.nextOutput, created.fresh.1]
      exact Nat.lt_succ_self _
    · obtain ⟨same, up⟩ := created.elsewhere tracked aside here
      have before := same ▸ holds
      obtain ⟨bounded, isUp⟩ := tracked.entries other place before
      rw [holds, before, Option.any_some, Option.any_some, isUp] at up
      refine ⟨Nat.lt_of_lt_of_le ?_ aside.nextOutput, up⟩
      rw [created.nextOutput]
      exact Nat.lt_succ_of_lt bounded
  · intro place other member
    rw [aside.nextCell, created.nextCell]
    rw [outputsIn] at member
    by_cases here : place = index
    · rw [here, created.entry] at member
      rcases List.mem_append.mp member with old | new
      · exact Nat.lt_succ_of_lt (tracked.cells index other old)
      · rw [List.mem_singleton.mp new, created.fresh.2]
        exact Nat.lt_succ_self _
    · rw [created.others place here] at member
      exact Nat.lt_succ_of_lt (tracked.cells place other member)
  · intro place _
    rw [← created.staged place]
    unfold World.stagedIn
    rw [aside.layoutputs]
  · intro place different
    apply liveIn_congr ((outputsIn place).trans (created.others place different))
    intro other member
    refine (created.elsewhere tracked aside ?_).2
    intro same
    exact created.cell_fresh tracked place (same ▸ member)

/-- Without its output, the cell is empty and the others are as they were. -/
theorem cleared (created : Created w index head cell output made) (tracked : Tracked w)
    (aside : Aside w.nextOutput made middle) :
    ∃ cleared, middle.destroyEntry index cell = cleared.removeOutput index cell ∧
      Narrows middle cleared ∧ cleared.layoutputs = middle.layoutputs ∧
      (∀ other, other ≠ output → cleared.isEnabled other = middle.isEnabled other) ∧
      cleared.cells cell = none ∧
      ∀ other, other ≠ cell → cleared.cells other = middle.cells other := by
  unfold World.destroyEntry
  cases held : middle.cells cell with
  | none => exact ⟨middle, rfl, .refl middle, rfl, fun _ _ => rfl, held, fun _ _ => rfl⟩
  | some place =>
      have same := aside.cells cell place held
      rw [created.cells, if_pos rfl] at same
      obtain rfl := Option.some.inj same
      refine ⟨_, rfl, (Narrows.refl middle).destroyOutput output, rfl, ?_, ?_, ?_⟩
      · intro other different
        change (Function.update middle.outputs output none other).any _ = _
        rw [Function.update_of_ne different]
        rfl
      · exact if_pos held
      · intro other different
        apply if_neg
        rw [(created.elsewhere tracked aside different).1]
        intro holds
        have bounded := (tracked.entries other output holds).1
        rw [created.fresh.1] at bounded
        exact Nat.lt_irrefl _ bounded

/-- The new output is destroyed again. -/
theorem destroyed (created : Created w index head cell output made) (tracked : Tracked w)
    (aside : Aside w.nextOutput made middle) (empty : w.outputsIn index = []) :
    Turn index w (middle.destroyEntry index cell) ∧
      (middle.destroyEntry index cell).liveIn index = false := by
  obtain ⟨cleared, same, narrows, layoutputs, enabled, none, others⟩ :=
    created.cleared tracked aside
  have outputsIn : ∀ other, cleared.outputsIn other = made.outputsIn other := by
    intro other
    unfold World.outputsIn
    rw [layoutputs, aside.layoutputs]
  have removed : (cleared.removeOutput index cell).outputsIn index = [] := by
    rw [removeOutput_outputsIn, outputsIn, created.entry, empty]
    simp
  have untouched : ∀ place, place ≠ index →
      (cleared.removeOutput index cell).outputsIn place = w.outputsIn place := by
    intro place different
    rw [← created.others place different, ← outputsIn place]
    unfold World.outputsIn World.removeOutput
    rw [setLayoutput_ne cleared different]
  have held : ∀ other, other ≠ cell → cleared.cells other = w.cells other ∧
      (cleared.cells other).any cleared.isEnabled = (w.cells other).any w.isEnabled := by
    intro other different
    obtain ⟨cells, up⟩ := created.elsewhere tracked aside different
    refine ⟨(others other different).trans cells, ?_⟩
    rw [others other different, ← up]
    cases holds : middle.cells other with
    | none => rfl
    | some place =>
        apply enabled
        rintro rfl
        have bounded := (tracked.entries other place (cells ▸ holds)).1
        rw [created.fresh.1] at bounded
        exact Nat.lt_irrefl _ bounded
  have dead : (cleared.removeOutput index cell).liveIn index = false := by
    unfold World.liveIn
    rw [removed]
    rfl
  rw [same]
  refine ⟨⟨⟨?_, ?_, ?_⟩, ?_, ?_, ?_⟩, dead⟩
  · intro other place on
    rcases narrows.attached other place on with before | new
    · exact Nat.lt_of_lt_of_le (created.attached_bounded tracked aside other place before)
        narrows.nextOutput
    · exact new
  · intro other place holds
    have there : cleared.cells other = some place := holds
    have different : other ≠ cell := by
      rintro rfl
      rw [none] at there
      cases there
    obtain ⟨cells, up⟩ := held other different
    rw [there] at cells up
    obtain ⟨bounded, isUp⟩ := tracked.entries other place cells.symm
    rw [← cells, Option.any_some, Option.any_some, isUp] at up
    refine ⟨Nat.lt_of_lt_of_le ?_ (Nat.le_trans aside.nextOutput narrows.nextOutput), up⟩
    rw [created.nextOutput]
    exact Nat.lt_succ_of_lt bounded
  · intro place other member
    change other < cleared.nextCell
    rw [narrows.nextCell, aside.nextCell, created.nextCell]
    by_cases here : place = index
    · rw [here, removed] at member
      cases member
    · rw [untouched place here] at member
      exact Nat.lt_succ_of_lt (tracked.cells place other member)
  · intro place _
    rw [removeOutput_stagedIn, ← created.staged place]
    unfold World.stagedIn
    rw [layoutputs, aside.layoutputs]
  · intro place different
    apply liveIn_congr (untouched place different)
    intro other member
    refine (held other ?_).2
    intro here
    exact created.cell_fresh tracked place (here ▸ member)
  · intro live
    unfold World.liveIn at live
    rw [empty] at live
    cases live

end Created

/-! ### The turn of a group -/

/-- A turn that succeeds leaves an output up; one that fails with a single head
leaves none, unless there was one. -/
structure Processed (index : Nat) (w : World) (result : Bool × World) : Prop where
  turn : Turn index w result.2
  up : result.1 = true → result.2.liveIn index = true
  down : result.1 = false → (w.stagedIn index).length = 1 → result.2.liveIn index = true →
    w.liveIn index = true

private theorem Processed.of_failed {result : Bool × World} (failed : result.1 = false)
    (turn : Turn index w result.2) (live : result.2.liveIn index = w.liveIn index) :
    Processed index w result where
  turn := turn
  up done := by
    rw [failed] at done
    cases done
  down _ _ up := live ▸ up

/-- With an entry in the group, the loop ends at once. -/
theorem createRest_entry {answers : Answers} {policy : OutputPolicy} {group sectionHead : String}
    {currentMode reuseName : Bool} {cell : CellId} (left : Nat)
    (entry : cell ∈ w.outputsIn index) :
    (World.createRest answers policy index group sectionHead currentMode (left + 1) reuseName w).2 =
        w ∧
      (w.stagedIn index = [] → (World.createRest answers policy index group sectionHead currentMode
        (left + 1) reuseName w).1 = true) := by
  have some : (w.outputsIn index).isEmpty = false :=
    List.isEmpty_eq_false_iff_exists_mem.mpr ⟨cell, entry⟩
  unfold World.createRest
  cases staged : w.stagedIn index with
  | nil => exact ⟨rfl, fun _ => rfl⟩
  | cons first slots =>
      simp only [some, Bool.not_false, if_true, true_and]
      exact fun impossible => by cases impossible

private theorem createOutputWithHead_none {answers : Answers} {name : String} {head : HeadPtr}
    (made : w.createOutputWithHead answers index name head = (none, after)) :
    after = (w.call answers).2 := by
  unfold World.createOutputWithHead at made
  rcases createOutput_cases w answers head name with none | ⟨value, _, _, some⟩
  · rw [none] at made
    exact (Prod.mk.inj made).2.symm
  · rw [some] at made
    cases made

private theorem createRest_processed (tracked : Tracked w) (answers : Answers)
    (policy : OutputPolicy)
    (group sectionHead : String) (currentMode reuseName : Bool) (left : Nat)
    (staged : w.stagedIn index ≠ []) :
    Processed index w (World.createRest answers policy index group sectionHead currentMode
      (left + 2) reuseName w) := by
  have inside := stagedIn_inside staged
  have failed := @Processed.of_failed w index (false, w) rfl (.refl index tracked) rfl
  unfold World.createRest
  cases isStaged : w.stagedIn index with
  | nil => exact absurd isStaged staged
  | cons slot slots =>
      dsimp only
      split
      · exact failed
      · rename_i noOutputs
        have empty : w.outputsIn index = [] := by simpa using noOutputs
        have dead : w.liveIn index = false := by
          unfold World.liveIn
          rw [empty]
          rfl
        cases slot with
        | none => exact failed
        | some head =>
            dsimp only
            generalize (if reuseName then group else group ++ ":" ++ w.headName head) = name
            cases made : w.createOutputWithHead answers index name head with
            | mk result after =>
                cases result with
                | none =>
                    have same := createOutputWithHead_none made
                    have called := (Aside.refl w.nextOutput w).call answers
                    obtain ⟨turn, live⟩ := @Turn.of_aside w _ index tracked called
                    subst same
                    exact .of_failed rfl turn live
                | some entry =>
                    obtain ⟨cell, output⟩ := entry
                    have created := createOutputWithHead_created made inside
                    have fresh : output = w.nextOutput := created.fresh.1
                    have old : output < after.nextOutput := by
                      rw [created.nextOutput, fresh]
                      exact Nat.lt_succ_self _
                    have attached : after.outputOf head = some output := by
                      rw [created.attached, if_pos rfl]
                    have restaged := (created.staged index).trans isStaged
                    obtain ⟨middle, tried⟩ := @tryAttachEnable_tried after index answers policy
                      output w.nextOutput (World.groupSetup policy sectionHead currentMode) head
                      slots old (Nat.le_of_eq fresh.symm) restaged attached
                    dsimp only
                    generalize after.tryAttachEnable answers policy output index
                      (World.groupSetup policy sectionHead currentMode) = attempt at tried ⊢
                    obtain ⟨isUp, attempted⟩ := attempt
                    cases isUp with
                    | false =>
                        obtain rfl := tried.down rfl
                        obtain ⟨turn, gone⟩ := created.destroyed tracked tried.aside empty
                        exact .of_failed rfl turn (gone.trans dead.symm)
                    | true =>
                        obtain ⟨registeredHeads, lost, rfl, none⟩ := tried.restaged rfl
                        have held := tried.held rfl cell (by rw [created.cells, if_pos rfl])
                        obtain ⟨turn, live⟩ :=
                          created.up tracked tried.aside (tried.enabled rfl) held
                        have layoutputs := tried.aside.layoutputs
                        have registered := @Turn.of_aside middle _ index turn.tracked
                          (@Aside.of_same middle middle { middle with registeredHeads } _
                            (.refl _ middle) rfl rfl rfl rfl rfl rfl)
                        obtain ⟨readded, same⟩ := Turn.setAdd registered.1.tracked index
                          (lost.map some)
                        have finished := (turn.trans registered.1).trans readded
                        have isLive := (same.trans registered.2).trans live
                        have entry : cell ∈ (World.setAdd { middle with registeredHeads } index
                            (lost.map some)).outputsIn index := by
                          rw [outputsIn_setAdd]
                          exact created.entry_kept layoutputs
                        obtain ⟨settled, done⟩ := @createRest_entry _ index answers policy group
                          sectionHead currentMode false cell left entry
                        simp only [Bool.not_true, Bool.false_eq_true, if_false]
                        refine ⟨settled.symm ▸ finished, fun _ => settled.symm ▸ isLive, ?_⟩
                        intro failing alone
                        rw [isStaged] at alone
                        have single : slots = [] := by simpa using alone
                        rw [done] at failing
                        · cases failing
                        · rw [none single fun other => created.only tracked]
                          apply stagedIn_setAdd
                          dsimp only
                          rw [layoutputs]
                          apply stagedIn_inside
                          rw [restaged]
                          simp

theorem processOne_processed (tracked : Tracked w) (answers : Answers) (policy : OutputPolicy)
    (currentMode : Bool) (staged : w.stagedIn index ≠ []) :
    Processed index w (w.processOne answers policy index currentMode) ∧
      ((w.processOne answers policy index currentMode).1 = false →
        (w.stagedIn index).length = 1 → w.liveIn index = false) := by
  have existing := @tryExisting_existing w index tracked answers (w.outputsIn index)
  unfold World.processOne
  split
  · rename_i done after found
    rw [found] at existing
    obtain ⟨rfl, cell, entry, alive⟩ := existing.done done rfl
    obtain ⟨output, held⟩ := Option.ne_none_iff_exists'.mp alive
    have live := liveIn_of_entry entry held (tracked.entries cell output held).2
    refine ⟨⟨existing.turn, fun _ => existing.live.trans live, ?_⟩, ?_⟩
    · exact fun impossible => by cases impossible
    · exact fun impossible => by cases impossible
  · rename_i after found
    rw [found] at existing
    have rest := @createRest_processed after index existing.turn.tracked answers policy
      (((after.layoutputs[index]?).map Layoutput.name).getD "")
      (((after.layoutputs[index]?).map Layoutput.sectionHead).getD "") currentMode
      (after.findOutputByName (((after.layoutputs[index]?).map Layoutput.name).getD "")).isNone 0
      (existing.staged rfl staged)
    refine ⟨⟨existing.turn.trans rest.turn, rest.up, ?_⟩, ?_⟩
    · intro failed alone up
      rw [← existing.live]
      apply rest.down failed _ up
      rw [(existing.alone rfl alone).1]
      exact alone
    · intro _ alone
      unfold World.liveIn
      rw [List.any_eq_false]
      intro cell member
      rw [(existing.alone rfl alone).2 cell member]
      simp

end Westonite.Output
