import Westonite.Output.HeadArray

/-! Attach-then-enable loses no head, duplicates none, and ends where the array of
`main.c` does. -/

set_option autoImplicit false

namespace Westonite.Output

/-! ### Counting the calls -/

namespace World

variable (answers : Answers) (policy : OutputPolicy)

/-- `tryOnce`, and how often it calls `weston_output_enable`. -/
def tryOnceCounted (w : World) (output : OutputPtr) : Nat × Bool × World :=
  (if w.isEnabled output then 0 else 1, w.tryOnce answers policy output)

/-- `undoHeads`, and how often it calls `weston_output_enable`. -/
def undoHeadsCounted (output : OutputPtr) :
    List (Option HeadPtr) → List HeadPtr → World → Nat × Attempt × World
  | [], failed, w => (0, ⟨false, [], failed⟩, w)
  | none :: slots, failed, w => undoHeadsCounted output slots failed w
  | some victim :: slots, failed, w =>
      let (calls, up, w) := (w.detachHead victim).tryOnceCounted answers policy output
      if up then (calls, ⟨true, slots.reverse, failed ++ [victim]⟩, w)
      else
        let (more, result) := undoHeadsCounted output slots (failed ++ [victim]) w
        (calls + more, result)

/-- `tryEnable`, and how often it calls `weston_output_enable`. -/
def tryEnableCounted (w : World) (output : OutputPtr) (undo : List (Option HeadPtr))
    (failed : List HeadPtr) : Nat × Attempt × World :=
  let (calls, up, w) := w.tryOnceCounted answers policy output
  if up then (calls, ⟨true, undo, failed⟩, w)
  else
    let (more, result) := undoHeadsCounted answers policy output undo.reverse failed w
    (calls + more, result)

/-- `tryAttachEnable`, and how often it calls `weston_output_enable` in its retry loop. -/
def tryAttachEnableCounted (w : World) (output : OutputPtr) (index : Nat)
    (setup : DrmOutputSetup) : Nat × Bool × World :=
  let (add, failed, w) := w.tryAttach answers output (w.stagedIn index)
  let (configured, w) := w.configureDrm answers output setup
  if !configured then (0, false, w)
  else
    let (calls, attempt, w) := w.tryEnableCounted answers policy output add failed
    if !attempt.up then (calls, false, w)
    else (calls, true, (w.registerHeads attempt.add).setAdd index (attempt.failed.map some))

variable {answers policy}

private theorem tryOnceCounted_le (w : World) (output : OutputPtr) :
    (w.tryOnceCounted answers policy output).1 ≤ 1 := by
  unfold tryOnceCounted
  dsimp only
  split
  · exact Nat.zero_le 1
  · exact Nat.le_refl 1

private theorem undoHeadsCounted_snd (output : OutputPtr) (slots : List (Option HeadPtr))
    (failed : List HeadPtr) (w : World) :
    (undoHeadsCounted answers policy output slots failed w).2 =
      undoHeads answers policy output slots failed w := by
  induction slots generalizing failed w with
  | nil => rfl
  | cons slot slots ih =>
      cases slot with
      | none => exact ih failed w
      | some victim =>
          rw [undoHeadsCounted, undoHeads, tryOnceCounted]
          dsimp only
          split
          · rfl
          · exact ih (failed ++ [victim]) _

/-- Each try costs a head. -/
private theorem undoHeadsCounted_le (output : OutputPtr) (slots : List (Option HeadPtr))
    (failed : List HeadPtr) (w : World) :
    (undoHeadsCounted answers policy output slots failed w).1 ≤ (presentHeads slots).length := by
  induction slots generalizing failed w with
  | nil => exact Nat.le_refl 0
  | cons slot slots ih =>
      cases slot with
      | none => exact ih failed w
      | some victim =>
          have tries := @tryOnceCounted_le answers policy (w.detachHead victim) output
          have more := ih (failed ++ [victim])
            ((w.detachHead victim).tryOnceCounted answers policy output).2.2
          have shorter : (presentHeads (some victim :: slots)).length =
            (presentHeads slots).length + 1 := rfl
          rw [undoHeadsCounted, shorter, Nat.add_comm]
          dsimp only
          split
          · exact Nat.le_add_right_of_le tries
          · exact Nat.add_le_add tries more

private theorem tryEnableCounted_snd (w : World) (output : OutputPtr) (undo : List (Option HeadPtr))
    (failed : List HeadPtr) :
    (w.tryEnableCounted answers policy output undo failed).2 =
      w.tryEnable answers policy output undo failed := by
  unfold tryEnableCounted tryEnable tryOnceCounted
  dsimp only
  split
  · rfl
  · exact undoHeadsCounted_snd output undo.reverse failed _

private theorem tryEnableCounted_le (w : World) (output : OutputPtr) (undo : List (Option HeadPtr))
    (failed : List HeadPtr) :
    (w.tryEnableCounted answers policy output undo failed).1 ≤ (presentHeads undo).length + 1 := by
  have tries := @tryOnceCounted_le answers policy w output
  have more := @undoHeadsCounted_le answers policy output undo.reverse failed
    (w.tryOnceCounted answers policy output).2.2
  rw [presentHeads_reverse, List.length_reverse] at more
  unfold tryEnableCounted
  rw [Nat.add_comm]
  dsimp only
  split
  · exact Nat.le_add_right_of_le tries
  · exact Nat.add_le_add tries more

private theorem tryAttachEnableCounted_snd (w : World) (output : OutputPtr) (index : Nat)
    (setup : DrmOutputSetup) :
    (w.tryAttachEnableCounted answers policy output index setup).2 =
      w.tryAttachEnable answers policy output index setup := by
  unfold tryAttachEnableCounted tryAttachEnable
  dsimp only
  split
  · rfl
  · rw [← tryEnableCounted_snd]
    generalize tryEnableCounted answers policy _ output _ _ = counted
    obtain ⟨calls, attempt, after⟩ := counted
    dsimp only
    split <;> rfl

end World

/-! ### The parts of a list -/

/-- The heads that stay and those that are refused are the heads of the list. -/
theorem attachRest_parts (answers : Answers) (output : OutputPtr)
    (slots : List (Option HeadPtr)) (w : World) :
    (presentHeads (World.attachRest answers output slots w).1 ++
      (World.attachRest answers output slots w).2.1).Perm (presentHeads slots) := by
  induction slots generalizing w with
  | nil => exact .nil
  | cons slot slots ih =>
      cases slot with
      | none => exact ih w
      | some head =>
          have rest := ih (w.attachHead answers output head).2
          rw [World.attachRest]
          dsimp only
          split
          · exact rest.cons head
          · exact List.perm_middle.trans (rest.cons head)

/-- The heads that stay are on the output, and no other head moves. -/
private theorem attachRest_outputOf (answers : Answers) (output : OutputPtr)
    (slots : List (Option HeadPtr)) (w : World) (head : HeadPtr) (place : OutputPtr) :
    (World.attachRest answers output slots w).2.2.outputOf head = some place ↔
      (head ∈ presentHeads (World.attachRest answers output slots w).1 ∧ place = output) ∨
        (head ∉ presentHeads (World.attachRest answers output slots w).1 ∧
          w.outputOf head = some place) := by
  induction slots generalizing w with
  | nil =>
      refine ⟨fun attached => .inr ⟨List.not_mem_nil, attached⟩, ?_⟩
      rintro (⟨member, _⟩ | ⟨_, attached⟩)
      · cases member
      · exact attached
  | cons slot slots ih =>
      cases slot with
      | none => exact ih w
      | some other =>
          have rest := ih (w.attachHead answers output other).2
          rw [World.attachRest]
          dsimp only
          rcases attachHead_cases w answers output other with ⟨refused, same⟩ | ⟨done, _, now⟩
          · simp only [refused, Bool.false_eq_true, if_false]
            rw [same] at rest
            exact rest
          · have joined : ∀ present : List (Option HeadPtr),
                head ∈ presentHeads (some other :: present) ↔
                  head = other ∨ head ∈ presentHeads present := fun _ => List.mem_cons
            simp only [done, if_true, joined]
            rw [now] at rest
            refine rest.trans ?_
            by_cases here : head = other
            · simp [here, eq_comm, ← or_and_right, em]
            · simp [here]

/-- The heads on an output are those of the list. -/
def OnOutput (w : World) (output : OutputPtr) (heads : List HeadPtr) : Prop :=
  ∀ head, w.outputOf head = some output ↔ head ∈ heads

/-- What `create_output_with_head` leaves: an output that is down, with one head on it. -/
structure Opened (w : World) (output : OutputPtr) (first : HeadPtr) : Prop where
  old : output < w.nextOutput
  down : w.isEnabled output = false
  heads : OnOutput w output [first]

private theorem createOutputWithHead_opened {w after : World} {answers : Answers} {index : Nat}
    {name : String} {head : HeadPtr} {cell : CellId} {output : OutputPtr}
    (made : w.createOutputWithHead answers index name head = (some (cell, output), after))
    (inside : index < w.layoutputs.length)
    (bounded : ∀ other place, w.outputOf other = some place → place < w.nextOutput) :
    Opened after output head := by
  have created := createOutputWithHead_created made inside
  refine ⟨?_, created.down, ?_⟩
  · rw [created.nextOutput, created.fresh.1]
    exact Nat.lt_succ_self w.nextOutput
  · intro other
    rw [created.attached, List.mem_singleton]
    split
    · rename_i same
      exact ⟨fun _ => same, fun _ => rfl⟩
    · rename_i different
      refine ⟨fun attached => ?_, fun same => absurd same different⟩
      have less := bounded other output attached
      rw [created.fresh.1] at less
      exact absurd less (Nat.lt_irrefl w.nextOutput)

/-! ### The output comes up -/

private theorem enable_heads {w : World} {answers : Answers} {created : OutputPtr → World → World}
    {output : OutputPtr} (up : (w.enable answers created output).1 = true) :
    ∃ head, w.outputOf head = some output := by
  unfold World.enable at up
  dsimp only at up
  split at up
  · cases up
  · split at up
    · rename_i granted
      simp only [Bool.and_eq_true, bne_iff_ne] at granted
      obtain ⟨head, member⟩ := List.exists_mem_of_ne_nil _
        (List.ne_nil_of_length_pos (Nat.pos_of_ne_zero granted.2))
      have attached := (List.mem_filter.mp member).2
      exact ⟨head, of_decide_eq_true attached⟩
    · cases up

theorem isEnabled_setOutput (w : World) (output other : OutputPtr)
    (change : WestonOutput → WestonOutput)
    (same : ∀ value, (change value).enabled = value.enabled) :
    (w.setOutput output change).isEnabled other = w.isEnabled other := by
  unfold World.isEnabled World.setOutput
  dsimp only
  rw [Function.update_apply]
  split
  · rename_i here
    rw [here]
    cases w.outputs output with
    | none => rfl
    | some value => exact same value
  · rfl

private theorem lazyAlign_isEnabled (w : World) (output other : OutputPtr) :
    (w.lazyAlign output).isEnabled other = w.isEnabled other := by
  unfold World.lazyAlign
  exact isEnabled_setOutput w output other _ fun _ => rfl

private theorem configureDrm_isEnabled (w : World) (answers : Answers) (output other : OutputPtr)
    (setup : DrmOutputSetup) :
    (w.configureDrm answers output setup).2.isEnabled other = w.isEnabled other := by
  unfold World.configureDrm
  dsimp only
  split
  · rfl
  · split
    · rfl
    · split
      · exact isEnabled_setOutput w output other _ fun _ => rfl
      · obtain ⟨calls, same⟩ := applyColor_calls answers _ setup.color true
        rw [same]
        exact isEnabled_setOutput w output other _ fun _ => rfl

private theorem tryOnce_still_down {w : World} {answers : Answers} {policy : OutputPolicy}
    {output : OutputPtr} (down : (w.tryOnce answers policy output).1 = false) :
    (w.tryOnce answers policy output).2.isEnabled output = false := by
  unfold World.tryOnce at down ⊢
  split at down
  · cases down
  · rename_i disabled
    rw [if_neg disabled]
    rcases enable_cases (w.lazyAlign output) answers (World.outputCreated answers policy) output
      with ⟨_, same⟩ | ⟨up, _⟩
    · rw [same]
      exact (lazyAlign_isEnabled w output output).trans (Bool.eq_false_iff.mpr disabled)
    · rw [up] at down
      cases down

/-- A try that brings an output up finds a head on it, and leaves the heads of the
outputs there are where they are. -/
private theorem tryOnce_heads {w : World} {answers : Answers} {policy : OutputPolicy}
    {output : OutputPtr} (down : w.isEnabled output = false)
    (up : (w.tryOnce answers policy output).1 = true) :
    (∃ head, w.outputOf head = some output) ∧
      ∀ head other, other < w.nextOutput →
        ((w.tryOnce answers policy output).2.outputOf head = some other ↔
          w.outputOf head = some other) := by
  unfold World.tryOnce at up ⊢
  rw [down, if_neg Bool.false_ne_true] at up ⊢
  rcases enable_cases (w.lazyAlign output) answers (World.outputCreated answers policy) output
    with ⟨failed, _⟩ | ⟨_, _, _, _, after⟩
  · rw [failed] at up
    cases up
  · rw [after]
    obtain ⟨head, attached⟩ := enable_heads up
    refine ⟨⟨head, attached⟩, ?_⟩
    exact fun head other old => (Around.outputCreated answers policy output
      ((((w.lazyAlign output).call answers).2).markEnabled output
        (answers.geometry (w.lazyAlign output).calls))).attached head other old

/-- The output is up with some of the heads; the others come after those that failed
before. -/
structure Divided (w : World) (output : OutputPtr) (slots : List (Option HeadPtr))
    (failed : List HeadPtr) (result : Attempt × World) : Prop where
  parts : (presentHeads result.1.add ++ result.1.failed).Perm (presentHeads slots ++ failed)
  survive : presentHeads result.1.add ≠ []
  enabled : result.2.isEnabled output = true
  heads : OnOutput result.2 output (presentHeads result.1.add)
  elsewhere : ∀ head other, other < w.nextOutput → other ≠ output →
    (result.2.outputOf head = some other ↔ w.outputOf head = some other)
  layoutputs : result.2.layoutputs = w.layoutputs

/-- A try that succeeds leaves the heads on the output there. -/
theorem Divided.raised {w : World} {answers : Answers} {policy : OutputPolicy}
    {output : OutputPtr} {slots : List (Option HeadPtr)} {failed : List HeadPtr}
    (old : output < w.nextOutput) (down : w.isEnabled output = false)
    (on : OnOutput w output (presentHeads slots))
    (up : (w.tryOnce answers policy output).1 = true) :
    Divided w output slots failed (⟨true, slots, failed⟩, (w.tryOnce answers policy output).2) := by
  obtain ⟨enabled, holds, _⟩ := tryOnce_up old up
  obtain ⟨⟨head, attached⟩, same⟩ := tryOnce_heads down up
  refine ⟨.refl _, ?_, enabled, ?_, fun head other known _ => same head other known,
    holds.layoutputs⟩
  · exact List.ne_nil_of_mem ((on head).mp attached)
  · exact fun head => (same head output old).trans (on head)

theorem OnOutput.detach {w : World} {output : OutputPtr} {victim : HeadPtr}
    {heads : List HeadPtr} (on : OnOutput w output (victim :: heads))
    (distinct : (victim :: heads).Nodup) : OnOutput (w.detachHead victim) output heads := by
  obtain ⟨apart, _⟩ := List.nodup_cons.mp distinct
  intro head
  rw [detachHead_outputOf]
  split
  · rename_i here
    rw [here]
    exact ⟨nofun, fun member => absurd member apart⟩
  · rename_i different
    rw [on head, List.mem_cons]
    exact ⟨fun member => member.resolve_left different, .inr⟩

theorem OnOutput.perm {w : World} {output : OutputPtr} {heads others : List HeadPtr}
    (on : OnOutput w output heads) (same : others.Perm heads) : OnOutput w output others := by
  intro head
  rw [same.mem_iff]
  exact on head

theorem OnOutput.same {w after : World} {output : OutputPtr} {heads : List HeadPtr}
    (on : OnOutput w output heads) (same : SameHeads w after) : OnOutput after output heads := by
  intro head
  rw [same.outputOf]
  exact on head

private theorem undoHeads_divided {answers : Answers} {policy : OutputPolicy} {output : OutputPtr}
    {slots : List (Option HeadPtr)} {failed : List HeadPtr} {w : World}
    (old : output < w.nextOutput) (down : w.isEnabled output = false)
    (on : OnOutput w output (presentHeads slots)) (distinct : (presentHeads slots).Nodup)
    (up : (World.undoHeads answers policy output slots failed w).1.up = true) :
    Divided w output slots failed (World.undoHeads answers policy output slots failed w) := by
  induction slots generalizing failed w with
  | nil => cases up
  | cons slot slots ih =>
      cases slot with
      | none =>
          have rest := ih old down on distinct up
          exact ⟨rest.parts, rest.survive, rest.enabled, rest.heads, rest.elsewhere,
            rest.layoutputs⟩
      | some victim =>
          have onVictim : w.outputOf victim = some output := (on victim).mpr List.mem_cons_self
          have left := on.detach distinct
          have elsewhere : ∀ head other, other ≠ output →
              ((w.detachHead victim).outputOf head = some other ↔
                w.outputOf head = some other) := by
            intro head other different
            rw [detachHead_outputOf]
            split
            · rename_i here
              rw [here, onVictim, Option.some.injEq]
              exact ⟨nofun, fun same => absurd same.symm different⟩
            · exact .rfl
          have moved : (presentHeads slots ++ (failed ++ [victim])).Perm
              (presentHeads (some victim :: slots) ++ failed) := by
            rw [← List.append_assoc]
            exact List.perm_append_singleton victim _
          unfold World.undoHeads at up ⊢
          dsimp only at up ⊢
          cases tried : ((w.detachHead victim).tryOnce answers policy output).1 with
          | true =>
              have backwards := presentHeads_reverse_perm slots
              have raised := @Divided.raised (w.detachHead victim) answers policy output
                slots.reverse (failed ++ [victim]) old down (left.perm backwards) tried
              rw [if_pos rfl]
              refine ⟨?_, raised.survive, raised.enabled, raised.heads, ?_, raised.layoutputs⟩
              · exact (backwards.append_right _).trans moved
              · exact fun head other known different =>
                  (raised.elsewhere head other known different).trans
                    (elsewhere head other different)
          | false =>
              have same := tryOnce_down tried
              rw [tried, if_neg Bool.false_ne_true] at up
              rw [if_neg Bool.false_ne_true]
              have rest := ih (same.bounded old) (tryOnce_still_down tried) (left.same same)
                (List.nodup_cons.mp distinct).2 up
              refine ⟨rest.parts.trans moved, rest.survive, rest.enabled, rest.heads, ?_,
                rest.layoutputs.trans same.layoutputs⟩
              intro head other known different
              have here := rest.elsewhere head other (same.bounded known) different
              rw [same.outputOf] at here
              exact here.trans (elsewhere head other different)

private theorem tryEnable_divided {answers : Answers} {policy : OutputPolicy} {output : OutputPtr}
    {slots : List (Option HeadPtr)} {failed : List HeadPtr} {w : World}
    (old : output < w.nextOutput) (down : w.isEnabled output = false)
    (on : OnOutput w output (presentHeads slots)) (distinct : (presentHeads slots).Nodup)
    (up : (w.tryEnable answers policy output slots failed).1.up = true) :
    Divided w output slots failed (w.tryEnable answers policy output slots failed) := by
  unfold World.tryEnable at up ⊢
  dsimp only at up ⊢
  cases tried : (w.tryOnce answers policy output).1 with
  | true =>
      rw [if_pos rfl]
      exact .raised old down on tried
  | false =>
      have same := tryOnce_down tried
      rw [tried, if_neg Bool.false_ne_true] at up
      rw [if_neg Bool.false_ne_true]
      have backwards := presentHeads_reverse_perm slots
      have rest := undoHeads_divided (same.bounded old) (tryOnce_still_down tried)
        ((on.same same).perm backwards) (backwards.nodup_iff.mpr distinct) up
      refine ⟨?_, rest.survive, rest.enabled, rest.heads, ?_,
        rest.layoutputs.trans same.layoutputs⟩
      · exact rest.parts.trans (backwards.append_right failed)
      · intro head other known different
        have here := rest.elsewhere head other (same.bounded known) different
        rw [same.outputOf] at here
        exact here

/-! ### The whole call -/

private theorem registerHeads_eq (w : World) (slots : List (Option HeadPtr)) :
    w.registerHeads slots = (presentHeads slots).foldl World.registerHead w := by
  unfold World.registerHeads
  induction slots generalizing w with
  | nil => rfl
  | cons slot slots ih =>
      rw [List.foldl_cons]
      cases slot with
      | none => exact ih w
      | some head => exact ih (w.registerHead head)

private theorem registerHead_mem (w : World) (head : HeadPtr) :
    head ∈ (w.registerHead head).registeredHeads ∧
      w.registeredHeads ⊆ (w.registerHead head).registeredHeads := by
  unfold World.registerHead
  split
  · rename_i known
    exact ⟨known, List.Subset.refl _⟩
  · exact ⟨List.mem_append_right _ List.mem_cons_self, List.subset_append_left _ _⟩

private theorem registerHeads_mem (w : World) (heads : List HeadPtr) :
    heads ⊆ (heads.foldl World.registerHead w).registeredHeads ∧
      w.registeredHeads ⊆ (heads.foldl World.registerHead w).registeredHeads := by
  induction heads generalizing w with
  | nil => exact ⟨List.nil_subset _, List.Subset.refl _⟩
  | cons head heads ih =>
      obtain ⟨here, known⟩ := registerHead_mem w head
      obtain ⟨rest, later⟩ := ih (w.registerHead head)
      exact ⟨List.cons_subset.mpr ⟨later here, rest⟩, List.Subset.trans known later⟩

/-- The heads staged on a group are on its output, which is up, or its new list; only a
head that was staged twice can be on both. -/
structure Conserved (w : World) (output : OutputPtr) (index : Nat) (survivors : List HeadPtr)
    (after : World) : Prop where
  parts : (survivors ++ presentHeads (after.stagedIn index)).Perm
    (presentHeads (w.stagedIn index))
  survive : survivors ≠ []
  enabled : after.isEnabled output = true
  heads : OnOutput after output survivors
  registered : ∀ head ∈ survivors, head ∈ after.registeredHeads
  filled : none ∉ after.stagedIn index
  off : (presentHeads (w.stagedIn index)).Nodup →
    ∀ head ∈ presentHeads (after.stagedIn index), after.outputOf head ≠ some output
  elsewhere : ∀ head other, other < w.nextOutput → other ≠ output →
    (after.outputOf head = some other ↔ w.outputOf head = some other)

private theorem tryAttach_parts {w : World} {output : OutputPtr} {slots : List (Option HeadPtr)}
    (answers : Answers) (first : HeadPtr) (on : OnOutput w output [first]) :
    ∃ add failed after, w.tryAttach answers output (some first :: slots) = (add, failed, after) ∧
      SameOutputs w after ∧ (presentHeads add).Nodup ∧
      (presentHeads add ++ failed).Perm (presentHeads (some first :: slots)) ∧
      OnOutput after output (presentHeads add) ∧
      ∀ head other, other ≠ output →
        (after.outputOf head = some other ↔ w.outputOf head = some other) := by
  have attached := (on first).mpr List.mem_cons_self
  obtain ⟨add, failed, after, result, same, _, there, distinct⟩ :=
    @tryAttach_attached w output slots answers first attached
  have moved := attachRest_outputOf answers output slots w
  have parts := attachRest_parts answers output slots w
  unfold World.tryAttach at result
  simp only [Prod.mk.injEq] at result
  obtain ⟨rfl, rfl, rfl⟩ := result
  refine ⟨_, _, _, rfl, same, distinct, parts.cons first, ?_, ?_⟩
  · intro head
    refine ⟨fun attached => ?_, there head⟩
    rcases (moved head output).mp attached with ⟨member, _⟩ | ⟨_, before⟩
    · exact .tail first member
    · obtain rfl := List.mem_singleton.mp ((on head).mp before)
      exact List.mem_cons_self
  · intro head other different
    rw [moved head other]
    constructor
    · rintro (⟨_, same⟩ | ⟨_, before⟩)
      · exact absurd same different
      · exact before
    · intro before
      refine .inr ⟨fun member => ?_, before⟩
      have free := ((attachRest_attached answers output slots w).attached head member).1
      rw [free] at before
      cases before

private theorem tryAttachEnable_conserved {answers : Answers} {policy : OutputPolicy} {w : World}
    {output : OutputPtr} {index : Nat} {setup : DrmOutputSetup} {first : HeadPtr}
    {slots : List (Option HeadPtr)} (staged : w.stagedIn index = some first :: slots)
    (opened : Opened w output first)
    (up : (w.tryAttachEnable answers policy output index setup).1 = true) :
    ∃ survivors, Conserved w output index survivors
      (w.tryAttachEnable answers policy output index setup).2 := by
  obtain ⟨add, failed, after, result, same, addDistinct, parts, on, apart⟩ :=
    @tryAttach_parts w output slots answers first opened.heads
  have configured := configureDrm_same after answers output setup
  have stillDown := configureDrm_isEnabled after answers output output setup
  have inside : index < w.layoutputs.length := by
    by_contra outside
    rw [World.stagedIn, List.getElem?_eq_none (Nat.le_of_not_lt outside)] at staged
    cases staged
  have down : after.isEnabled output = false := by
    unfold World.isEnabled
    rw [same.outputs]
    exact opened.down
  rw [down] at stillDown
  unfold World.tryAttachEnable at up ⊢
  rw [staged, result] at up ⊢
  dsimp only at up ⊢
  generalize after.configureDrm answers output setup = ready at configured stillDown up ⊢
  obtain ⟨done, ready⟩ := ready
  cases done with
  | false => cases up
  | true =>
      simp only [Bool.not_true, Bool.false_eq_true, if_false] at up ⊢
      have nextOutput : ready.nextOutput = w.nextOutput :=
        configured.nextOutput.trans same.nextOutput
      have divided := @tryEnable_divided answers policy output add failed ready
        (by rw [nextOutput]; exact opened.old) stillDown (on.same configured) addDistinct
      generalize ready.tryEnable answers policy output add failed = tried at divided up ⊢
      obtain ⟨attempt, tried⟩ := tried
      dsimp only at divided up ⊢
      cases isUp : attempt.up with
      | false =>
          rw [isUp] at up
          cases up
      | true =>
          have divided := divided isUp
          simp only [Bool.not_true, Bool.false_eq_true, if_false]
          have whole : (presentHeads attempt.add ++ attempt.failed).Perm
              (presentHeads (some first :: slots)) := divided.parts.trans parts
          have registered := (registerHeads_mem tried (presentHeads attempt.add)).1
          rw [← registerHeads_eq] at registered
          obtain ⟨heads, fields⟩ := registerHeads_fields tried attempt.add
          rw [fields] at registered ⊢
          have newStaged : (({ tried with registeredHeads := heads } : World).setAdd index
              (attempt.failed.map some)).stagedIn index = attempt.failed.map some := by
            apply stagedIn_setAdd
            dsimp only
            rw [divided.layoutputs, configured.layoutputs, same.layoutputs]
            exact inside
          have present : presentHeads (attempt.failed.map some) = attempt.failed := by
            unfold presentHeads
            rw [List.filterMap_map]
            exact List.filterMap_some
          refine ⟨presentHeads attempt.add, ?_, divided.survive, divided.enabled, divided.heads,
            fun head member => registered member, ?_, ?_, ?_⟩
          · rw [newStaged, present, staged]
            exact whole
          · rw [newStaged]
            simp
          · intro distinct head member attached
            rw [newStaged, present] at member
            rw [staged] at distinct
            have survives := (divided.heads head).mp attached
            exact (List.nodup_append.mp (whole.nodup_iff.mpr distinct)).2.2 head survives head
              member rfl
          · intro head other known different
            have here := divided.elsewhere head other (by rw [nextOutput]; exact known) different
            rw [configured.outputOf] at here
            exact here.trans (apart head other different)

open WetHeadArray in
/-- `main.c` on its array ends where the list does. -/
private theorem drmTryAttachEnable_ofSlots {answers : Answers} {policy : OutputPolicy} {w : World}
    {output : OutputPtr} {index : Nat} {setup : DrmOutputSetup} {first : HeadPtr}
    {slots : List (Option HeadPtr)} (staged : w.stagedIn index = some first :: slots)
    (opened : Opened w output first)
    (room : (w.stagedIn index).length ≤ World.maxCloneHeads) :
    ∃ up add trackers after,
      drmTryAttachEnable answers policy output setup (ofSlots (w.stagedIn index)) w =
        some (up, add, trackers, after) ∧
      (w.tryAttachEnable answers policy output index setup).1 = up ∧
      (up = false → (w.tryAttachEnable answers policy output index setup).2 = after) ∧
      (up = true → ∃ failed, add = ofHeads failed ∧
        (w.tryAttachEnable answers policy output index setup).2 =
          (trackers.foldl World.registerHead after).setAdd index (failed.map some)) := by
  obtain ⟨add, failed, after, result, _, _, parts, _⟩ :=
    @tryAttach_parts w output slots answers first opened.heads
  have present : (presentHeads (some first :: slots)).length ≤ World.maxCloneHeads := by
    rw [staged] at room
    exact Nat.le_trans (List.length_filterMap_le _ _) room
  have fits : failed.length + (presentHeads add).length ≤ World.maxCloneHeads := by
    rw [Nat.add_comm, ← List.length_append, parts.length_eq]
    exact present
  have attach := drmTryAttach_ofSlots answers output first slots w (Nat.le_of_succ_le present)
  rw [result] at attach
  have enable := drmTryEnable_ofSlots answers policy output add failed
    (after.configureDrm answers output setup).2 fits
  unfold drmTryAttachEnable World.tryAttachEnable
  rw [staged, attach, result, opened.down, if_neg Bool.false_ne_true]
  dsimp only
  cases (after.configureDrm answers output setup).1 with
  | false => exact ⟨_, _, _, _, rfl, rfl, fun _ => rfl, nofun⟩
  | true =>
      simp only [Bool.not_true, Bool.false_eq_true, if_false]
      rw [enable]
      generalize World.tryEnable answers policy _ output add failed = tried
      obtain ⟨⟨up, left, failed⟩, tried⟩ := tried
      unfold ofAttempt
      dsimp only
      cases up with
      | false => exact ⟨_, _, _, _, rfl, rfl, fun _ => rfl, nofun⟩
      | true =>
          refine ⟨_, _, _, _, rfl, rfl, nofun, fun _ => ⟨failed, rfl, ?_⟩⟩
          rw [filterMap_ofSlots, ← registerHeads_eq]
          rfl

private theorem tryAttachEnableCounted_le {answers : Answers} {policy : OutputPolicy} {w : World}
    {output : OutputPtr} {index : Nat} {setup : DrmOutputSetup} {first : HeadPtr}
    {slots : List (Option HeadPtr)} (staged : w.stagedIn index = some first :: slots)
    (opened : Opened w output first) :
    (w.tryAttachEnableCounted answers policy output index setup).1 ≤
      (presentHeads (w.stagedIn index)).length + 1 := by
  obtain ⟨add, failed, after, result, _, _, parts, _⟩ :=
    @tryAttach_parts w output slots answers first opened.heads
  have fewer : (presentHeads add).length ≤ (presentHeads (some first :: slots)).length := by
    rw [← parts.length_eq, List.length_append]
    exact Nat.le_add_right _ _
  have counted := @World.tryEnableCounted_le answers policy
    (after.configureDrm answers output setup).2 output add failed
  unfold World.tryAttachEnableCounted
  rw [staged, result]
  dsimp only
  split
  · exact Nat.zero_le _
  · split
    · exact Nat.le_trans counted (Nat.succ_le_succ fewer)
    · exact Nat.le_trans counted (Nat.succ_le_succ fewer)

open WetHeadArray in
/-- Whatever libweston answers, `try_attach_enable` tries at most once more than there
are staged heads, shares them out between the output and the new list, and ends where
`main.c` does on its array. -/
theorem attach_enable_conserves (answers : Answers) (policy : OutputPolicy)
    (setup : DrmOutputSetup) {w : World} {output : OutputPtr} {index : Nat} {first : HeadPtr}
    {slots : List (Option HeadPtr)} (staged : w.stagedIn index = some first :: slots)
    (opened : Opened w output first) :
    (∃ calls, w.tryAttachEnableCounted answers policy output index setup =
        (calls, w.tryAttachEnable answers policy output index setup) ∧
      calls ≤ (presentHeads (w.stagedIn index)).length + 1) ∧
    ((w.tryAttachEnable answers policy output index setup).1 = true →
      ∃ survivors, Conserved w output index survivors
        (w.tryAttachEnable answers policy output index setup).2) ∧
    ((w.stagedIn index).length ≤ World.maxCloneHeads →
      ∃ up add trackers after,
        drmTryAttachEnable answers policy output setup (ofSlots (w.stagedIn index)) w =
          some (up, add, trackers, after) ∧
        (w.tryAttachEnable answers policy output index setup).1 = up ∧
        (up = false → (w.tryAttachEnable answers policy output index setup).2 = after) ∧
        (up = true → ∃ failed, add = ofHeads failed ∧
          (w.tryAttachEnable answers policy output index setup).2 =
            (trackers.foldl World.registerHead after).setAdd index (failed.map some))) := by
  refine ⟨⟨(w.tryAttachEnableCounted answers policy output index setup).1, ?_,
    tryAttachEnableCounted_le staged opened⟩, ?_, ?_⟩
  · rw [← World.tryAttachEnableCounted_snd]
  · exact tryAttachEnable_conserved staged opened
  · exact drmTryAttachEnable_ofSlots staged opened

/-- Three connectors of one group. -/
def threeHeads : World :=
  { World.new [(0, .drm)] false with
    heads := fun head => 
      if head < 3 then some ⟨"DP", 0, true, true, false, .normal, none⟩ else none
    headList := [0, 1, 2]
    layoutputs := [⟨"DP-1", "DP-1", [], [some 0, some 1, some 2]⟩] }

/-- The third connector is refused, and so is the first try to enable. -/
def refusing : Answers := { Answers.granting with ok := fun call => call ∉ [2, 8] }

/-- The refused connector goes to the new list before the one that is undone. -/
theorem attach_enable_conserves_undone :
    ∃ w after survivors, threeHeads.createOutputWithHead .granting 0 "DP-1" 0 =
        (some (0, 0), w) ∧
      w.tryAttachEnable refusing clonePolicy 0 0 (World.groupSetup clonePolicy "DP-1" false) =
        (true, after) ∧
      after.stagedIn 0 = [some 2, some 1] ∧ Conserved w 0 0 survivors after := by
  have made : threeHeads.createOutputWithHead .granting 0 "DP-1" 0 =
      (some (0, 0), (threeHeads.createOutputWithHead .granting 0 "DP-1" 0).2) := rfl
  have opened := createOutputWithHead_opened made (by decide) (by
    intro other place attached
    unfold World.outputOf threeHeads at attached
    dsimp only at attached
    split at attached <;> cases attached)
  have conserved := (@attach_enable_conserves refusing clonePolicy
    (World.groupSetup clonePolicy "DP-1" false)
    (threeHeads.createOutputWithHead .granting 0 "DP-1" 0).2 0 0 0 [some 1, some 2] rfl
    opened).2.1
  obtain ⟨survivors, conserved⟩ := conserved rfl
  exact ⟨_, _, survivors, made, rfl, rfl, conserved⟩

end Westonite.Output
