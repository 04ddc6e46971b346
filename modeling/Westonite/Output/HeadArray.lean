import Mathlib.Data.List.Induction
import Westonite.Output.StagedHeads

/-! The array with holes in which `main.c` keeps the heads staged on a group, and the
retry loop over it. -/

set_option autoImplicit false

namespace Westonite.Output

structure WetHeadArray where
  heads : Nat → Option HeadPtr
  n : Nat

namespace WetHeadArray

def empty : WetHeadArray := ⟨fun _ => none, 0⟩

/-- `heads[n++] = head`, after the assertion that there is room. -/
def push (array : WetHeadArray) (head : HeadPtr) : Option WetHeadArray :=
  if array.n < World.maxCloneHeads then
    some ⟨Function.update array.heads array.n (some head), array.n + 1⟩
  else none

def clear (array : WetHeadArray) (i : Nat) : WetHeadArray :=
  { array with heads := Function.update array.heads i none }

/-- `while (undo->n > 0 && undo->heads[--undo->n] == NULL)`: where `n` stops. -/
def walkBack (heads : Nat → Option HeadPtr) : Nat → Nat
  | 0 => 0
  | n + 1 => if (heads n).isNone then walkBack heads n else n

private theorem walkBack_le (heads : Nat → Option HeadPtr) (n : Nat) : walkBack heads n ≤ n := by
  induction n with
  | zero => exact Nat.le_refl 0
  | succ n ih =>
      unfold walkBack
      split
      · exact Nat.le_succ_of_le ih
      · exact Nat.le_succ n

/-- The slots that are left to walk over, and slot 0 while it is filled. -/
def left (array : WetHeadArray) : Nat := array.n + (array.heads 0).isSome.toNat

private theorem left_clear {array : WetHeadArray} {head : HeadPtr}
    (found : array.heads (walkBack array.heads array.n) = some head) :
    left (clear { array with n := walkBack array.heads array.n }
      (walkBack array.heads array.n)) < array.left := by
  have le := walkBack_le array.heads array.n
  unfold left clear
  dsimp only
  cases n : walkBack array.heads array.n with
  | zero =>
      rw [n] at found
      simp [found]
  | succ i =>
      rw [n] at le found
      have before : walkBack array.heads array.n < array.n := by
        apply Nat.lt_of_le_of_ne (walkBack_le array.heads array.n)
        intro same
        cases full : array.n with
        | zero =>
            rw [full] at le
            cases le
        | succ m =>
            rw [full] at same
            unfold walkBack at same
            split at same
            · have := walkBack_le array.heads m
              omega
            · omega
      rw [Function.update_of_ne (Nat.zero_ne_add_one i)]
      omega

variable (answers : Answers)

/-- The loop of `drm_try_attach`, with `left` slots from `i` on. -/
def attachFrom (output : OutputPtr) : Nat → Nat → WetHeadArray → WetHeadArray → World →
    Option (WetHeadArray × WetHeadArray × World)
  | 0, _, add, failed, w => some (add, failed, w)
  | left + 1, i, add, failed, w =>
      match add.heads i with
      | none => attachFrom output left (i + 1) add failed w
      | some head =>
          let (attached, w) := w.attachHead answers output head
          if attached then attachFrom output left (i + 1) add failed w
          else
            match failed.push head with
            | none => none
            | some failed => attachFrom output left (i + 1) (add.clear i) failed w

def drmTryAttach (output : OutputPtr) (add failed : WetHeadArray) (w : World) :
    Option (WetHeadArray × WetHeadArray × World) :=
  attachFrom answers output (add.n - 1) 1 add failed w

variable (policy : OutputPolicy)

/-- `drm_try_enable`: whether it returns 0, and the two arrays. -/
def drmTryEnable (output : OutputPtr) (undo failed : WetHeadArray) (w : World) :
    Option (Bool × WetHeadArray × WetHeadArray × World) :=
  if w.isEnabled output then some (true, undo, failed, w)
  else
    let (up, w) := (w.lazyAlign output).enable answers (World.outputCreated answers policy) output
    if up then some (true, undo, failed, w)
    else
      let n := walkBack undo.heads undo.n
      match _found : undo.heads n with
      | none => some (false, { undo with n }, failed, w)
      | some head =>
          match failed.push head with
          | none => none
          | some failed =>
              drmTryEnable output (clear { undo with n } n) failed (w.detachHead head)
termination_by undo.left
decreasing_by exact left_clear _found

/-- `drm_try_attach_enable`: whether it returns 0, what it leaves in `lo->add`, and the
heads it creates trackers for. -/
def drmTryAttachEnable (output : OutputPtr) (setup : DrmOutputSetup) (add : WetHeadArray)
    (w : World) : Option (Bool × WetHeadArray × List HeadPtr × World) :=
  if w.isEnabled output then none
  else
    match drmTryAttach answers output add .empty w with
    | none => none
    | some (add, failed, w) =>
        let (configured, w) := w.configureDrm answers output setup
        if !configured then some (false, add, [], w)
        else
          match drmTryEnable answers policy output add failed w with
          | none => none
          | some (up, add, failed, w) =>
              if !up then some (false, add, [], w)
              else some (true, failed, (List.range add.n).filterMap add.heads, w)

/-! ### Lists as arrays -/

/-- The slots of a list in the array. -/
def ofSlots (slots : List (Option HeadPtr)) : WetHeadArray :=
  ⟨fun i => slots[i]?.join, slots.length⟩

def ofHeads (heads : List HeadPtr) : WetHeadArray := ofSlots (heads.map some)

private theorem ofSlots_here (done rest : List (Option HeadPtr)) (slot : Option HeadPtr) :
    (ofSlots (done ++ slot :: rest)).heads done.length = slot := by
  simp [ofSlots]

private theorem clear_ofSlots (done rest : List (Option HeadPtr)) (slot : Option HeadPtr) :
    (ofSlots (done ++ slot :: rest)).clear done.length = ofSlots (done ++ none :: rest) := by
  unfold ofSlots clear
  rw [WetHeadArray.mk.injEq]
  refine ⟨?_, by simp⟩
  funext i
  rw [Function.update_apply]
  split
  · rename_i here
    rw [here]
    simp
  · rename_i other
    dsimp only
    rw [List.getElem?_append, List.getElem?_append]
    split
    · rfl
    · rename_i after
      obtain ⟨k, apart⟩ : ∃ k, i - done.length = k + 1 := ⟨i - done.length - 1, by omega⟩
      rw [apart]
      rfl

/-- A hole at the end is no slot more to read. -/
private theorem ofSlots_hole (slots : List (Option HeadPtr)) :
    (ofSlots (slots ++ [none])).heads = (ofSlots slots).heads := by
  funext i
  unfold ofSlots
  dsimp only
  rw [List.getElem?_append]
  split
  · rfl
  · rename_i after
    rw [List.getElem?_eq_none (Nat.le_of_not_lt after)]
    cases i - slots.length <;> rfl

private theorem push_ofHeads {heads : List HeadPtr} (room : heads.length < World.maxCloneHeads)
    (head : HeadPtr) : (ofHeads heads).push head = some (ofHeads (heads ++ [head])) := by
  unfold push ofHeads ofSlots
  dsimp only
  rw [List.length_map, if_pos room, Option.some.injEq, WetHeadArray.mk.injEq]
  refine ⟨?_, by simp⟩
  funext i
  rw [Function.update_apply]
  split
  · rename_i here
    rw [here]
    simp
  · rename_i other
    simp only [List.map_append, List.map_cons, List.map_nil, List.getElem?_append,
      List.length_map]
    split
    · rfl
    · rename_i after
      have none : (heads.map some)[i]? = none :=
        List.getElem?_eq_none (by simpa using Nat.le_of_not_lt after)
      obtain ⟨k, apart⟩ : ∃ k, i - heads.length = k + 1 := ⟨i - heads.length - 1, by omega⟩
      rw [none, apart]
      rfl

theorem filterMap_ofSlots (slots : List (Option HeadPtr)) :
    (List.range (ofSlots slots).n).filterMap (ofSlots slots).heads = presentHeads slots := by
  unfold ofSlots
  dsimp only
  induction slots using List.reverseRecOn with
  | nil => rfl
  | append_singleton slots slot ih =>
      rw [List.length_append, List.length_singleton, List.range_succ, List.filterMap_append]
      have before : (List.range slots.length).filterMap
          (fun i => (slots ++ [slot])[i]?.join) =
          (List.range slots.length).filterMap fun i => slots[i]?.join := by
        apply List.filterMap_congr
        intro i inside
        rw [List.getElem?_append_left (List.mem_range.mp inside)]
      rw [before, ih]
      unfold presentHeads
      rw [List.filterMap_append]
      cases slot <;> simp

/-! ### The two retry loops -/

/-- The arrays and the world that a result over lists stands for. -/
def ofAttempt (result : Attempt × World) : Bool × WetHeadArray × WetHeadArray × World :=
  (result.1.up, ofSlots result.1.add, ofHeads result.1.failed, result.2)

private theorem attachFrom_ofSlots (output : OutputPtr) (rest done : List (Option HeadPtr))
    (failed : List HeadPtr) (w : World)
    (room : failed.length + (presentHeads rest).length ≤ World.maxCloneHeads) :
    attachFrom answers output rest.length done.length (ofSlots (done ++ rest)) (ofHeads failed)
        w =
      some (ofSlots (done ++ (World.attachRest answers output rest w).1),
        ofHeads (failed ++ (World.attachRest answers output rest w).2.1),
        (World.attachRest answers output rest w).2.2) := by
  induction rest generalizing done failed w with
  | nil =>
      unfold attachFrom World.attachRest
      rw [List.append_nil, List.append_nil]
      rfl
  | cons slot rest ih =>
      rw [List.length_cons, attachFrom, ofSlots_here]
      cases slot with
      | none =>
          have walked := ih (done ++ [none]) failed w room
          rw [List.length_append, List.append_assoc, List.append_assoc] at walked
          dsimp only
          rw [World.attachRest]
          exact walked
      | some head =>
          have fits : failed.length + ((presentHeads rest).length + 1) ≤ World.maxCloneHeads := room
          dsimp only
          rw [World.attachRest]
          dsimp only
          generalize w.attachHead answers output head = result
          obtain ⟨attached, after⟩ := result
          cases attached with
          | true =>
              have walked := ih (done ++ [some head]) failed after (by omega)
              rw [List.length_append, List.append_assoc, List.append_assoc] at walked
              rw [if_pos rfl, if_pos rfl]
              exact walked
          | false =>
              have walked := ih (done ++ [none]) (failed ++ [head]) after
                (by simpa using by omega)
              rw [List.length_append, List.append_assoc, List.append_assoc,
                List.append_assoc] at walked
              rw [if_neg Bool.false_ne_true, if_neg Bool.false_ne_true,
                push_ofHeads (by omega) head, clear_ofSlots]
              exact walked

theorem drmTryAttach_ofSlots (output : OutputPtr) (first : HeadPtr)
    (rest : List (Option HeadPtr)) (w : World)
    (room : (presentHeads rest).length ≤ World.maxCloneHeads) :
    drmTryAttach answers output (ofSlots (some first :: rest)) .empty w =
      some (ofSlots (w.tryAttach answers output (some first :: rest)).1,
        ofHeads (w.tryAttach answers output (some first :: rest)).2.1,
        (w.tryAttach answers output (some first :: rest)).2.2) := by
  have walked := attachFrom_ofSlots answers output rest [some first] [] w (by simpa using room)
  exact walked

/-- One turn of the retry loop that does not bring the output up. -/
private theorem drmTryEnable_down {output : OutputPtr} {undo failed : WetHeadArray} {w : World}
    (down : (w.tryOnce answers policy output).1 = false) :
    drmTryEnable answers policy output undo failed w =
      let n := walkBack undo.heads undo.n
      (undo.heads n).elim
        (some (false, { undo with n }, failed, (w.tryOnce answers policy output).2))
        fun head => (failed.push head).bind fun failed =>
          drmTryEnable answers policy output (clear { undo with n } n) failed
            ((w.tryOnce answers policy output).2.detachHead head) := by
  unfold World.tryOnce at down ⊢
  split at down
  · cases down
  · rename_i disabled
    rw [drmTryEnable, if_neg disabled, if_neg disabled]
    dsimp only
    rw [down, if_neg Bool.false_ne_true]
    split
    · rename_i none
      rw [none]
      rfl
    · rename_i head found
      rw [found, Option.elim_some]
      cases failed.push head <;> rfl

private theorem drmTryEnable_up {output : OutputPtr} {undo failed : WetHeadArray} {w : World}
    (up : (w.tryOnce answers policy output).1 = true) :
    drmTryEnable answers policy output undo failed w =
      some (true, undo, failed, (w.tryOnce answers policy output).2) := by
  unfold World.tryOnce at up ⊢
  rw [drmTryEnable]
  split
  · rfl
  · rename_i disabled
    rw [if_neg disabled] at up
    dsimp only
    rw [if_pos up]

/-- After a try that failed, walking back over the array is popping from the list. -/
private theorem drmTryEnable_undo (output : OutputPtr) (slots : List (Option HeadPtr))
    (failed : List HeadPtr) (w : World)
    (room : failed.length + (presentHeads slots).length ≤ World.maxCloneHeads)
    (down : (w.tryOnce answers policy output).1 = false) :
    drmTryEnable answers policy output (ofSlots slots.reverse) (ofHeads failed) w =
      some (ofAttempt (World.undoHeads answers policy output slots failed
        (w.tryOnce answers policy output).2)) := by
  induction slots generalizing failed w with
  | nil =>
      rw [drmTryEnable_down answers policy down]
      rfl
  | cons slot slots ih =>
      rw [List.reverse_cons]
      have length : (ofSlots (slots.reverse ++ [slot])).n = slots.reverse.length + 1 := by
        simp [ofSlots]
      cases slot with
      | none =>
          rw [World.undoHeads, ← ih failed w room down, drmTryEnable_down answers policy down,
            drmTryEnable_down answers policy down, length, ofSlots_hole, walkBack, if_pos]
          · rfl
          · simp [ofSlots]
      | some victim =>
          have fits : failed.length + ((presentHeads slots).length + 1) ≤ World.maxCloneHeads :=
            room
          have here := ofSlots_here slots.reverse [] (some victim)
          have stops : walkBack (ofSlots (slots.reverse ++ [some victim])).heads
              (slots.reverse.length + 1) = slots.reverse.length := by
            rw [walkBack, here]
            rfl
          have shorter : clear { ofSlots (slots.reverse ++ [some victim]) with
              n := slots.reverse.length } slots.reverse.length = ofSlots slots.reverse := by
            have cleared := clear_ofSlots slots.reverse [] (some victim)
            have holes := ofSlots_hole slots.reverse
            rw [← cleared] at holes
            unfold clear at holes ⊢
            rw [WetHeadArray.mk.injEq]
            exact ⟨holes, rfl⟩
          rw [drmTryEnable_down answers policy down, length]
          dsimp only
          rw [stops, here, Option.elim_some, push_ofHeads (by omega) victim, Option.bind_some,
            shorter, World.undoHeads]
          dsimp only
          cases tried : (((w.tryOnce answers policy output).2.detachHead victim).tryOnce answers
            policy output).1 with
          | true =>
              rw [drmTryEnable_up answers policy tried, if_pos rfl]
              rfl
          | false =>
              rw [if_neg Bool.false_ne_true]
              exact ih (failed ++ [victim]) _ (by simpa using by omega) tried

theorem drmTryEnable_ofSlots (output : OutputPtr) (slots : List (Option HeadPtr))
    (failed : List HeadPtr) (w : World)
    (room : failed.length + (presentHeads slots).length ≤ World.maxCloneHeads) :
    drmTryEnable answers policy output (ofSlots slots) (ofHeads failed) w =
      some (ofAttempt (w.tryEnable answers policy output slots failed)) := by
  unfold World.tryEnable
  dsimp only
  cases tried : (w.tryOnce answers policy output).1 with
  | true =>
      rw [drmTryEnable_up answers policy tried, if_pos rfl]
      rfl
  | false =>
      have undone := drmTryEnable_undo answers policy output slots.reverse failed w
        (by rw [presentHeads_reverse, List.length_reverse]; exact room) tried
      rw [List.reverse_reverse] at undone
      rw [if_neg Bool.false_ne_true]
      exact undone

end WetHeadArray

end Westonite.Output
