import Westonite.Output.Settled

/-! The turn of a group moves only the heads that are staged on it, and leaves none
staged. -/

set_option autoImplicit false

namespace Westonite.Output

variable {mine : HeadPtr → Prop} {pending : Option OutputPtr} {base w now : World} {index : Nat}

/-! ### The turn of a group -/

private theorem setAdd_subset (w : World) (index : Nat) (add : List (Option HeadPtr)) :
    (w.setAdd index add).stagedIn index ⊆ add := by
  by_cases inside : index < w.layoutputs.length
  · rw [stagedIn_setAdd add inside]
    exact List.Subset.refl add
  · unfold World.stagedIn World.setAdd World.setLayoutput
    rw [List.getElem?_eq_none]
    · exact List.nil_subset add
    · rw [List.length_modify]
      exact Nat.le_of_not_lt inside

private theorem setAdd_nil (w : World) (index : Nat) : (w.setAdd index []).stagedIn index = [] :=
  List.eq_nil_of_subset_nil (setAdd_subset w index [])

private theorem tryAttach_refused (w : World) (answers : Answers) (output : OutputPtr)
    (add : List (Option HeadPtr)) :
    ∀ head ∈ (w.tryAttach answers output add).2.1, some head ∈ add := by
  cases add with
  | nil => exact fun _ member => by cases member
  | cons first slots =>
      intro head member
      have parts := attachRest_parts answers output slots w
      have listed := parts.subset (List.mem_append_right _ member)
      exact .tail first (mem_presentHeads.mp listed)

namespace Quiet

variable {output : OutputPtr}

theorem attachHead (quiet : Quiet mine pending base w) {head : HeadPtr} (allowed : mine head)
    (there : w.isEnabled output = true ∨ pending = some output) (answers : Answers) :
    Quiet mine pending base (w.attachHead answers output head).2 := by
  have called := quiet.call answers
  unfold World.attachHead
  dsimp only
  split
  · exact called
  · split
    · exact called.putOn (.inl allowed) there
    · exact called

theorem attachRest (quiet : Quiet mine pending base w) {slots : List (Option HeadPtr)}
    (allowed : ∀ head, some head ∈ slots → mine head)
    (there : w.isEnabled output = true ∨ pending = some output) (answers : Answers) :
    Quiet mine pending base (World.attachRest answers output slots w).2.2 := by
  induction slots generalizing w with
  | nil => exact quiet
  | cons slot slots ih =>
      have later : ∀ head, some head ∈ slots → mine head :=
        fun head member => allowed head (.tail slot member)
      cases slot with
      | none => exact ih quiet later there
      | some head =>
          have one := quiet.attachHead (allowed head List.mem_cons_self) there answers
          have still : (w.attachHead answers output head).2.isEnabled output = true ∨
              pending = some output := by
            unfold World.isEnabled
            rw [(attachHead_same w answers output head).outputs]
            exact there
          have rest := ih one later still
          unfold World.attachRest
          dsimp only
          split
          · exact rest
          · exact rest

theorem tryAttach (quiet : Quiet mine pending base w) {add : List (Option HeadPtr)}
    (allowed : ∀ head, some head ∈ add → mine head)
    (there : w.isEnabled output = true ∨ pending = some output) (answers : Answers) :
    Quiet mine pending base (w.tryAttach answers output add).2.2 := by
  cases add with
  | nil => exact quiet
  | cons first slots =>
      exact quiet.attachRest (fun head member => allowed head (.tail first member)) there answers

theorem configureDrm (quiet : Quiet mine pending base w) (answers : Answers)
    (output : OutputPtr) (setup : DrmOutputSetup) :
    Quiet mine pending base (w.configureDrm answers output setup).2 := by
  have api := quiet.call answers
  have mode := api.call answers
  unfold World.configureDrm
  dsimp only
  split
  · exact api
  · split
    · exact mode
    · split
      · refine Quiet.call (mode.setOutput output ?_) answers
        exact fun _ => rfl
      · obtain ⟨calls, same⟩ := applyColor_calls answers _ setup.color true
        rw [same]
        refine Quiet.of_same ((mode.setOutput output ?_).call answers) rfl rfl rfl rfl
        exact fun _ => rfl

theorem tryOnce (quiet : Quiet mine (some output) base w) (answers : Answers)
    (policy : OutputPolicy) :
    Quiet mine (stillPending output (w.tryOnce answers policy output).1) base
      (w.tryOnce answers policy output).2 := by
  have aligned : Quiet mine (some output) base (w.lazyAlign output) :=
    quiet.setOutput output fun _ => rfl
  unfold World.tryOnce
  split
  · rename_i up
    exact quiet.raised up
  · exact aligned.enable (outputCreated answers policy) answers

theorem undoHeads (quiet : Quiet mine (some output) base w) (answers : Answers)
    (policy : OutputPolicy) (slots : List (Option HeadPtr)) (failed : List HeadPtr) :
    Quiet mine (stillPending output (World.undoHeads answers policy output slots failed w).1.up)
      base (World.undoHeads answers policy output slots failed w).2 := by
  induction slots generalizing failed w with
  | nil => exact quiet
  | cons slot slots ih =>
      cases slot with
      | none => exact ih quiet failed
      | some victim =>
          have tried := (quiet.detachHead victim).tryOnce answers policy
          unfold World.undoHeads
          dsimp only
          split
          · rename_i up
            rw [up] at tried
            exact tried
          · rename_i down
            rw [eq_false_of_ne_true down] at tried
            exact ih tried (failed ++ [victim])

theorem tryEnable (quiet : Quiet mine (some output) base w) (answers : Answers)
    (policy : OutputPolicy) (undo : List (Option HeadPtr)) (failed : List HeadPtr) :
    Quiet mine (stillPending output (w.tryEnable answers policy output undo failed).1.up) base
      (w.tryEnable answers policy output undo failed).2 := by
  have tried := quiet.tryOnce answers policy
  unfold World.tryEnable
  dsimp only
  split
  · rename_i up
    rw [up] at tried
    exact tried
  · rename_i down
    rw [eq_false_of_ne_true down] at tried
    exact tried.undoHeads answers policy undo.reverse failed

theorem tryAttachEnable (quiet : Quiet mine (some output) base w)
    (allowed : ∀ head, some head ∈ w.stagedIn index → mine head) (answers : Answers)
    (policy : OutputPolicy) (setup : DrmOutputSetup) :
    Quiet mine (stillPending output (w.tryAttachEnable answers policy output index setup).1) base
      (w.tryAttachEnable answers policy output index setup).2 := by
  have joined := quiet.tryAttach allowed (.inr rfl) answers
  unfold World.tryAttachEnable
  dsimp only
  generalize w.tryAttach answers output (w.stagedIn index) = result at joined ⊢
  obtain ⟨add, failed, attached⟩ := result
  have configured := joined.configureDrm answers output setup
  dsimp only at configured ⊢
  split
  · exact configured
  · have tried := configured.tryEnable answers policy add failed
    split
    · rename_i down
      rw [Bool.not_eq_true'] at down
      rw [down] at tried
      exact tried
    · rename_i up
      rw [Bool.not_eq_true', Bool.not_eq_false] at up
      rw [up] at tried
      obtain ⟨registered, fields⟩ := registerHeads_fields
        ((attached.configureDrm answers output setup).2.tryEnable answers policy output add
          failed).2
        ((attached.configureDrm answers output setup).2.tryEnable answers policy output add
          failed).1.add
      rw [fields]
      exact tried.of_same rfl rfl rfl rfl

/-- The heads of an existing output join it, and the others go back to the group. -/
theorem tryExisting (quiet : Quiet mine none base w) (answers : Answers)
    (live : ∀ cell output, w.cells cell = some output → w.isEnabled output = true)
    (allowed : ∀ head, some head ∈ w.stagedIn index → mine head) (existing : List CellId) :
    Quiet mine none base (World.tryExisting answers index existing w).2 ∧
      ∀ head, some head ∈ (World.tryExisting answers index existing w).2.stagedIn index →
        mine head := by
  induction existing generalizing w with
  | nil => exact ⟨quiet, allowed⟩
  | cons cell existing ih =>
      unfold World.tryExisting
      cases held : w.cells cell with
      | none =>
          have removed : Quiet mine none base (w.removeOutput index cell) :=
            quiet.of_same rfl rfl rfl rfl
          refine ih removed live ?_
          rw [removeOutput_stagedIn]
          exact allowed
      | some output =>
          have joined := quiet.tryAttach allowed (.inl (live cell output held)) answers
          have same := tryAttach_same w answers output (w.stagedIn index)
          have refused := tryAttach_refused w answers output (w.stagedIn index)
          dsimp only
          generalize w.tryAttach answers output (w.stagedIn index) = result
            at joined same refused ⊢
          obtain ⟨add, failed, attached⟩ := result
          dsimp only at joined same refused ⊢
          have restaged : Quiet mine none base (attached.setAdd index (failed.map some)) :=
            joined.of_same rfl rfl rfl rfl
          have left : ∀ head,
              some head ∈ (attached.setAdd index (failed.map some)).stagedIn index → mine head := by
            intro head member
            obtain ⟨other, member, same⟩ := List.mem_map.mp (setAdd_subset attached index _ member)
            exact allowed head (refused head (Option.some.inj same ▸ member))
          split
          · exact ⟨restaged, left⟩
          · apply ih restaged _ left
            intro cell output held
            have before : w.cells cell = some output := by
              rw [← same.cells]
              exact held
            unfold World.isEnabled
            change (attached.outputs output).any _ = true
            rw [same.outputs]
            exact live cell output before

private theorem undoHeads_cells {answers : Answers} {policy : OutputPolicy}
    {slots : List (Option HeadPtr)} {failed : List HeadPtr}
    (down : (World.undoHeads answers policy output slots failed w).1.up = false) :
    (World.undoHeads answers policy output slots failed w).2.cells = w.cells := by
  induction slots generalizing failed w with
  | nil => rfl
  | cons slot slots ih =>
      cases slot with
      | none => exact ih down
      | some victim =>
          unfold World.undoHeads at down ⊢
          dsimp only at down ⊢
          cases tried : ((w.detachHead victim).tryOnce answers policy output).1 with
          | true =>
              rw [tried] at down
              cases down
          | false =>
              rw [tried, if_neg Bool.false_ne_true] at down
              rw [if_neg Bool.false_ne_true]
              exact (ih down).trans (tryOnce_down tried).cells

private theorem tryEnable_cells {answers : Answers} {policy : OutputPolicy}
    {undo : List (Option HeadPtr)} {failed : List HeadPtr}
    (down : (w.tryEnable answers policy output undo failed).1.up = false) :
    (w.tryEnable answers policy output undo failed).2.cells = w.cells := by
  unfold World.tryEnable at down ⊢
  dsimp only at down ⊢
  cases tried : (w.tryOnce answers policy output).1 with
  | true =>
      rw [tried] at down
      cases down
  | false =>
      rw [tried, if_neg Bool.false_ne_true] at down
      rw [if_neg Bool.false_ne_true]
      exact (undoHeads_cells down).trans (tryOnce_down tried).cells

/-- An attempt that fails leaves the cells to `destroy_output`. -/
private theorem tryAttachEnable_cells {answers : Answers} {policy : OutputPolicy}
    {setup : DrmOutputSetup}
    (down : (w.tryAttachEnable answers policy output index setup).1 = false) :
    (w.tryAttachEnable answers policy output index setup).2.cells = w.cells := by
  have joined := (tryAttach_same w answers output (w.stagedIn index)).cells
  unfold World.tryAttachEnable at down ⊢
  dsimp only at down ⊢
  generalize w.tryAttach answers output (w.stagedIn index) = result at joined down ⊢
  obtain ⟨add, failed, attached⟩ := result
  have configured := (configureDrm_same attached answers output setup).cells.trans joined
  dsimp only at configured down ⊢
  generalize attached.configureDrm answers output setup = ready at configured down ⊢
  obtain ⟨done, ready⟩ := ready
  cases done with
  | false => exact configured
  | true =>
      simp only [Bool.not_true, Bool.false_eq_true, if_false] at down ⊢
      split at down
      · rename_i failing
        rw [if_pos failing]
        rw [Bool.not_eq_true'] at failing
        exact (tryEnable_cells failing).trans configured
      · cases down

theorem createOutputWithHead (quiet : Quiet mine none base w) {head : HeadPtr}
    (isMine : mine head) (answers : Answers) (index : Nat) (name : String) :
    Quiet mine ((w.createOutputWithHead answers index name head).1.map Prod.snd) base
      (w.createOutputWithHead answers index name head).2 := by
  have called := quiet.call answers
  unfold World.createOutputWithHead
  rcases createOutput_cases w answers head name with none | ⟨value, _, _, opened⟩
  · rw [none]
    exact called
  · rw [opened]
    have added := called.addOutput (.inl isMine) name value.backend
    exact added.of_same rfl rfl rfl rfl

/-- The loop that creates an output leaves it up or destroys it. -/
theorem createRest (quiet : Quiet mine none base w)
    (allowed : ∀ head, some head ∈ w.stagedIn index → mine head) (answers : Answers)
    (policy : OutputPolicy) (group sectionHead : String) (currentMode reuseName : Bool)
    (left : Nat) :
    Quiet mine none base (World.createRest answers policy index group sectionHead currentMode
      (left + 2) reuseName w).2 := by
  unfold World.createRest
  cases staged : w.stagedIn index with
  | nil => exact quiet
  | cons slot slots =>
      have inside : index < w.layoutputs.length := by
        apply stagedIn_inside
        rw [staged]
        simp
      dsimp only
      split
      · exact quiet
      · cases slot with
        | none => exact quiet
        | some first =>
            dsimp only
            generalize (if reuseName = true then group else group ++ ":" ++ w.headName first) =
              name
            have isMine : mine first := by
              apply allowed
              rw [staged]
              exact List.mem_cons_self
            have opened := quiet.createOutputWithHead isMine answers index name
            rcases made : w.createOutputWithHead answers index name first with
              ⟨_ | ⟨cell, output⟩, after⟩
            · rw [made] at opened
              exact opened
            · rw [made] at opened
              obtain ⟨old, attached, held, entry, same⟩ := createOutputWithHead_made made inside
              have tried := opened.tryAttachEnable (same ▸ allowed) answers policy
                (World.groupSetup policy sectionHead currentMode)
              have kept := @tryAttachEnable_kept answers policy after output index
                (World.groupSetup policy sectionHead currentMode) cell first slots old
                (same.trans staged) attached entry held
              have cells := @tryAttachEnable_cells after index output answers policy
                (World.groupSetup policy sectionHead currentMode)
              dsimp only at tried ⊢
              generalize after.tryAttachEnable answers policy output index
                (World.groupSetup policy sectionHead currentMode) = attempt at tried kept cells ⊢
              obtain ⟨isUp, attempted⟩ := attempt
              cases isUp with
              | false =>
                  have holds : attempted.cells cell = some output :=
                    (congrFun (cells rfl) cell).trans held
                  have gone := tried.destroyOutput (.inr rfl)
                  simp only [Bool.not_false, if_true]
                  unfold World.destroyEntry
                  rw [holds]
                  exact gone.of_same rfl rfl rfl rfl
              | true =>
                  obtain ⟨_, outputs⟩ := kept rfl
                  simp only [Bool.not_true, Bool.false_eq_true, if_false]
                  rw [(createRest_entry left (outputs.symm ▸ entry)).1]
                  exact tried

/-- The turn of a group moves only heads that were staged on it. -/
theorem processOne (quiet : Quiet mine none base w) (tracked : Tracked w)
    (allowed : ∀ head, some head ∈ w.stagedIn index → mine head) (answers : Answers)
    (policy : OutputPolicy) (currentMode : Bool) :
    Quiet mine none base (w.processOne answers policy index currentMode).2 := by
  have live : ∀ cell output, w.cells cell = some output → w.isEnabled output = true :=
    fun cell output held => (tracked.entries cell output held).2
  obtain ⟨existing, left⟩ := quiet.tryExisting answers live allowed (w.outputsIn index)
  unfold World.processOne
  split
  · rename_i found
    rw [found] at existing
    exact existing
  · rename_i found
    rw [found] at existing left
    exact existing.createRest left answers policy _ _ currentMode _ 0

end Quiet

private theorem tryExisting_cleared {answers : Answers} {existing : List CellId} {done : Bool}
    (finished : (World.tryExisting answers index existing w).1 = some done) :
    (World.tryExisting answers index existing w).2.stagedIn index = [] := by
  induction existing generalizing w with
  | nil => cases finished
  | cons cell existing ih =>
      unfold World.tryExisting at finished ⊢
      split at finished
      · exact ih finished
      · dsimp only at finished ⊢
        split at finished
        · rename_i none
          rw [if_pos none, List.isEmpty_iff.mp none]
          exact setAdd_nil _ index
        · rename_i some
          rw [if_neg some]
          exact ih finished

private theorem createRest_cleared {answers : Answers} {policy : OutputPolicy}
    {group sectionHead : String} {currentMode reuseName : Bool} {left : Nat}
    (up : (World.createRest answers policy index group sectionHead currentMode left reuseName
      w).1 = true) :
    (World.createRest answers policy index group sectionHead currentMode left reuseName
      w).2.stagedIn index = [] := by
  induction left generalizing w reuseName with
  | zero => cases up
  | succ left ih =>
      unfold World.createRest at up ⊢
      cases staged : w.stagedIn index with
      | nil => exact staged
      | cons slot slots =>
          rw [staged] at up
          dsimp only at up ⊢
          split at up
          · cases up
          · rename_i none
            rw [if_neg none]
            cases slot with
            | none => cases up
            | some first =>
                dsimp only at up ⊢
                generalize (if reuseName = true then group else group ++ ":" ++ w.headName first) =
                  name at up ⊢
                rcases made : w.createOutputWithHead answers index name first with
                  ⟨_ | ⟨cell, output⟩, after⟩
                · rw [made] at up
                  cases up
                · rw [made] at up
                  dsimp only at up ⊢
                  split at up
                  · cases up
                  · rename_i isUp
                    rw [if_neg isUp]
                    exact ih up

private theorem processOne_cleared {answers : Answers} {policy : OutputPolicy} {currentMode : Bool}
    (up : (w.processOne answers policy index currentMode).1 = true) :
    (w.processOne answers policy index currentMode).2.stagedIn index = [] := by
  have existing := @tryExisting_cleared w index answers (w.outputsIn index)
  unfold World.processOne at up ⊢
  generalize World.tryExisting answers index (w.outputsIn index) w = result at existing up ⊢
  obtain ⟨returned, after⟩ := result
  cases returned with
  | some done => exact existing rfl
  | none => exact createRest_cleared up

/-! ### The staged heads -/

/-- The staged heads of a group are distinct idle heads, and those of two groups
have none in common. -/
structure Staging (w : World) : Prop where
  tracked : Tracked w
  settled : w.Settled none
  staged : ∀ index, ∃ heads : List HeadPtr, w.stagedIn index = heads.map some ∧ heads.Nodup ∧
    ∀ head ∈ heads, w.Idle head
  apart : ∀ index other head, some head ∈ w.stagedIn index → some head ∈ w.stagedIn other →
    index = other

namespace Staging

theorem ready (staging : Staging w) (index : Nat) : ∃ staged, Ready w index staged := by
  obtain ⟨heads, add, distinct, idle⟩ := staging.staged index
  refine ⟨heads, add, distinct, ?_, ?_⟩
  · intro head member
    obtain ⟨⟨value, found, _⟩, off⟩ := idle head member
    rw [World.outputOf, found, Option.bind_some] at off
    exact ⟨value, found, off⟩
  · intro cell output held
    have up := (staging.tracked.entries cell output held).2
    unfold World.isEnabled at up
    obtain ⟨value, found, _⟩ := (Option.any_eq_true _ _).mp up
    rw [found]
    rfl

/-- Groups keep their staged heads, which do not move, or have none any more. -/
theorem narrow (staging : Staging w) (tracked : Tracked now) (quiet : Quiet mine none w now)
    (staged : ∀ index, now.stagedIn index = [] ∨
      now.stagedIn index = w.stagedIn index ∧ ∀ head, some head ∈ w.stagedIn index → ¬ mine head) :
    Staging now where
  tracked := tracked
  settled := quiet.settled
  staged index := by
    rcases staged index with none | ⟨same, others⟩
    · exact ⟨[], none, List.nodup_nil, fun _ member => by cases member⟩
    · obtain ⟨heads, add, distinct, idle⟩ := staging.staged index
      refine ⟨heads, same.trans add, distinct, fun head member => ?_⟩
      apply quiet.idle head (others head _) (idle head member)
      rw [add]
      exact List.mem_map_of_mem member
  apart index other head here there := by
    rcases staged index with none | ⟨same, _⟩
    · rw [none] at here
      cases here
    · rcases staged other with none | ⟨sameThere, _⟩
      · rw [none] at there
        cases there
      · exact staging.apart index other head (same ▸ here) (sameThere ▸ there)

/-- Whatever moves no idle head and stages nothing. -/
theorem quiet (staging : Staging w) (tracked : Tracked now)
    (quiet : Quiet (fun _ => False) none w now)
    (staged : ∀ index, now.stagedIn index = w.stagedIn index) : Staging now :=
  staging.narrow tracked quiet fun index => .inr ⟨staged index, fun _ _ => id⟩

/-- The turn of a group, after which nothing is staged on it. -/
theorem turn (staging : Staging w) (turned : Turn index w now)
    (quiet : Quiet (fun head => some head ∈ w.stagedIn index) none w now)
    (cleared : now.stagedIn index = []) : Staging now := by
  apply staging.narrow turned.tracked quiet
  intro other
  by_cases same : other = index
  · exact .inl (same ▸ cleared)
  · refine .inr ⟨turned.staged other same, ?_⟩
    intro head here there
    exact same (staging.apart other index head here there)

/-- After the turns of some groups nothing is staged on these. -/
theorem processGroups (staging : Staging w) (answers : Answers) (policy : OutputPolicy)
    (currentMode : Bool) (groups : List Nat) :
    Staging (World.processGroups answers policy currentMode groups w).2 ∧
      Quiet (fun _ => True) none w (World.processGroups answers policy currentMode groups w).2 ∧
      ∀ index, index ∈ groups ∨ w.stagedIn index = [] →
        (World.processGroups answers policy currentMode groups w).2.stagedIn index = [] := by
  induction groups generalizing w with
  | nil =>
      exact ⟨staging, .refl staging.settled, fun index either =>
        either.resolve_left List.not_mem_nil⟩
  | cons index groups ih =>
      unfold World.processGroups
      split
      · rename_i none
        obtain ⟨rest, quiet, cleared⟩ := ih staging
        refine ⟨rest, quiet, ?_⟩
        rintro other (listed | empty)
        · rcases List.mem_cons.mp listed with rfl | listed
          · exact cleared other (.inr (List.isEmpty_iff.mp none))
          · exact cleared other (.inl listed)
        · exact cleared other (.inr empty)
      · rename_i some
        have staged : w.stagedIn index ≠ [] := fun none => some (List.isEmpty_iff.mpr none)
        have processed := (processOne_processed staging.tracked answers policy currentMode
          staged).1.turn
        have quiet : Quiet (fun head => Option.some head ∈ w.stagedIn index) none w
            (w.processOne answers policy index currentMode).2 :=
          (Quiet.refl staging.settled).processOne staging.tracked (fun _ => id) answers policy
            currentMode
        have cleared := @processOne_cleared w index answers policy currentMode
        dsimp only
        generalize w.processOne answers policy index currentMode = result
          at processed quiet cleared ⊢
        obtain ⟨done, after⟩ := result
        have turned : Turn index w (if done then after else after.setAdd index []) ∧
            Quiet (fun head => Option.some head ∈ w.stagedIn index) none w
              (if done then after else after.setAdd index []) ∧
            (if done then after else after.setAdd index []).stagedIn index = [] := by
          cases done with
          | true => exact ⟨processed, quiet, cleared rfl⟩
          | false =>
              exact ⟨processed.trans (Turn.setAdd processed.tracked index []).1,
                quiet.of_same rfl rfl rfl rfl, setAdd_nil after index⟩
        dsimp only
        generalize (if done then after else after.setAdd index []) = next at turned ⊢
        obtain ⟨turn, moved, empty⟩ := turned
        obtain ⟨rest, others, emptied⟩ := ih (staging.turn turn moved empty)
        refine ⟨rest, (moved.widen fun _ _ => trivial).trans others, ?_⟩
        rintro other (listed | none)
        · rcases List.mem_cons.mp listed with rfl | listed
          · exact emptied other (.inr empty)
          · exact emptied other (.inl listed)
        · apply emptied other
          by_cases same : other = index
          · exact .inr (same ▸ empty)
          · exact .inr ((turn.staged other same).trans none)

end Staging

end Westonite.Output
