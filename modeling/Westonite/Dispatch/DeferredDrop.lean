import Mathlib.Data.List.Count
import Westonite.Dispatch.Transition

/-! Who owns a box, and when it is freed. Every box the context has seen is in
one place, a drain frees what waits only below no running frame, and what
teardown parks stays parked. -/

set_option autoImplicit false

namespace Westonite.Dispatch

open Library

variable {App : Type} {handle : Handler App}

/-! ### Frames on the stack -/

/-- The stacks of a machine, by whether it drains and by its depth. -/
inductive Nested : Bool → Nat → List (Frame App) → Prop where
  | nil : Nested false 0 []
  | body {draining depth stack} (body : Body App) :
      Nested draining depth stack → Nested draining depth (.body body :: stack)
  | syncReturn {draining depth stack} (app : App) :
      Nested draining depth stack → Nested draining depth (.syncReturn app :: stack)
  | depthExit {draining depth stack} :
      Nested draining depth stack → Nested draining (depth + 1) (.depthExit :: stack)
  | drainLoop {stack} : Nested false 0 stack → Nested true 0 (.drainLoop :: stack)
  | drainReturn {depth stack} (app : App) :
      Nested true depth stack → Nested true depth (.drainReturn app :: stack)

namespace Nested

variable {draining : Bool} {depth : Nat} {stack : List (Frame App)}

theorem of_body {body : Body App} (nested : Nested draining depth (.body body :: stack)) :
    Nested draining depth stack := by
  cases nested with
  | body _ rest => exact rest

theorem of_syncReturn {app : App}
    (nested : Nested draining depth (.syncReturn app :: stack)) :
    Nested draining depth stack := by
  cases nested with
  | syncReturn _ rest => exact rest

theorem of_depthExit (nested : Nested draining depth (.depthExit :: stack)) :
    Nested draining (depth - 1) stack := by
  cases nested with
  | depthExit rest => exact rest

theorem of_drainLoop (nested : Nested draining depth (.drainLoop :: stack)) :
    draining = true ∧ depth = 0 ∧ Nested false 0 stack := by
  cases nested with
  | drainLoop rest => exact ⟨rfl, rfl, rest⟩

theorem of_drainReturn {app : App}
    (nested : Nested draining depth (.drainReturn app :: stack)) :
    Nested draining depth stack := by
  cases nested with
  | drainReturn _ rest => exact rest

/-- Outside a drain at depth zero no closure of `with_depth` and no handler of
a drain is suspended. -/
theorem quiet
    (nested : Nested draining depth stack) (outside : draining = false)
    (outermost : depth = 0) :
    .depthExit ∉ stack ∧ ∀ app, .drainReturn app ∉ stack := by
  induction nested with
  | nil => simp
  | body body _ ih => simpa using ih outside outermost
  | syncReturn app _ ih => simpa using ih outside outermost
  | depthExit => simp at outermost
  | drainLoop => simp at outside
  | drainReturn => simp at outside

end Nested

abbrev Machine.Nested (m : Machine App) : Prop :=
  Dispatch.Nested m.ctx.draining m.ctx.depth m.stack

theorem Transition.nested {m next : Machine App} {action : Action}
    (transition : Transition handle m action next) (nested : m.Nested) : next.Nested := by
  cases transition with
  | done => exact nested.of_body
  | withDepth => exact .body _ (.depthExit (.body _ nested.of_body))
  | enqueue | enqueueRefused | dispatchDeferred | dispatchRefused =>
      exact .body _ nested.of_body
  | dispatchHandled => exact .body _ (.syncReturn _ (.body _ nested.of_body))
  | @call ctx operation rest stack =>
      obtain ⟨depth, draining, _⟩ := perform_dispatch ctx operation
      unfold Machine.Nested
      rw [depth, draining]
      exact .body _ nested.of_body
  | leaveInner => exact nested.of_depthExit
  | leaveOuter outermost outside =>
      have rest := nested.of_depthExit
      simp only [outside, outermost] at rest
      unfold Machine.Nested
      simp only [outermost]
      exact .drainLoop rest
  | syncReturn =>
      rw [restoreApp_eq]
      exact nested.of_syncReturn
  | drained =>
      obtain ⟨_, outermost, rest⟩ := nested.of_drainLoop
      unfold Machine.Nested
      simp only at outermost ⊢
      rw [outermost]
      exact rest
  | discard | drainLost => exact nested
  | drainHandled =>
      obtain ⟨draining, outermost, rest⟩ := nested.of_drainLoop
      unfold Machine.Nested
      simp only at draining outermost ⊢
      rw [draining, outermost]
      exact .body _ (.drainReturn _ (.drainLoop rest))
  | drainReturn =>
      rw [restoreApp_eq]
      exact nested.of_drainReturn

/-! ### Places of a box -/

/-- Every box the context owns, has parked or has freed. -/
def Ctx.boxes (ctx : Ctx App) : List Box :=
  ctx.listeners.map Prod.snd ++ ctx.pendingDrop ++ ctx.activeGrabs ++ ctx.graveyard ++
    ctx.freed

structure Ctx.Owned (ctx : Ctx App) : Prop where
  nodup : ctx.boxes.Nodup
  minted : ∀ box ∈ ctx.boxes, box < ctx.nextBox

/-- Nothing but the places of the boxes may differ. -/
structure Ctx.Moved (ctx next : Ctx App) : Prop where
  boxes : next.boxes.Perm ctx.boxes
  nextBox : next.nextBox = ctx.nextBox

structure Ctx.Minted (ctx next : Ctx App) : Prop where
  boxes : next.boxes.Perm (ctx.nextBox :: ctx.boxes)
  nextBox : next.nextBox = ctx.nextBox + 1

theorem Ctx.Moved.owned {ctx next : Ctx App} (moved : ctx.Moved next) (owned : ctx.Owned) :
    next.Owned where
  nodup := moved.boxes.nodup_iff.mpr owned.nodup
  minted box member := by
    rw [moved.nextBox]
    exact owned.minted box (moved.boxes.mem_iff.mp member)

theorem Ctx.Minted.owned {ctx next : Ctx App} (minted : ctx.Minted next)
    (owned : ctx.Owned) : next.Owned where
  nodup := by
    rw [minted.boxes.nodup_iff, List.nodup_cons]
    exact ⟨fun member => Nat.lt_irrefl _ (owned.minted _ member), owned.nodup⟩
  minted box member := by
    rw [minted.nextBox]
    rcases List.mem_cons.mp (minted.boxes.mem_iff.mp member) with rfl | member
    · exact Nat.lt_succ_self _
    · exact Nat.lt_succ_of_lt (owned.minted box member)

private theorem perform_boxes (ctx : Ctx App) (operation : Operation App) :
    ctx.Moved (ctx.perform operation) ∨ ctx.Minted (ctx.perform operation) := by
  cases operation with
  | deferDrop =>
      refine .inr ⟨?_, rfl⟩
      rw [List.perm_iff_count]
      intro box
      simp [Ctx.boxes, Ctx.perform, Ctx.deferDrop, List.count_cons]
      omega
  | ownListener key =>
      refine .inr ⟨?_, rfl⟩
      rw [List.perm_iff_count]
      intro box
      simp [Ctx.boxes, Ctx.perform, Ctx.ownListener, List.count_cons]
      omega
  | startGrab =>
      refine .inr ⟨?_, rfl⟩
      rw [List.perm_iff_count]
      intro box
      simp [Ctx.boxes, Ctx.perform, Ctx.startGrab, List.count_cons]
      omega
  | retireListener key =>
      rcases retireListener_cases ctx key with same | ⟨i, entry, found, moved⟩
      · exact .inl ⟨by simp [Ctx.perform, same], by simp [Ctx.perform, same]⟩
      · refine .inl ⟨?_, by simp [Ctx.perform, moved]⟩
        have kept := (swapRemove_perm found).map Prod.snd
        rw [List.perm_iff_count] at kept ⊢
        intro box
        have count := kept box
        simp only [List.map_cons, List.count_cons, beq_iff_eq] at count
        simp [Ctx.boxes, Ctx.perform, moved, List.count_cons]
        omega
  | endGrab grab =>
      rcases endGrab_cases ctx grab with same | ⟨i, found, moved⟩
      · exact .inl ⟨by simp [Ctx.perform, same], by simp [Ctx.perform, same]⟩
      · refine .inl ⟨?_, by simp [Ctx.perform, moved]⟩
        have kept := swapRemove_perm found
        rw [List.perm_iff_count] at kept ⊢
        intro box
        have count := kept box
        simp only [List.count_cons, beq_iff_eq] at count
        simp [Ctx.boxes, Ctx.perform, moved, List.count_cons]
        omega
  | setApp | beginShutdown => exact .inl ⟨List.Perm.refl _, rfl⟩
  | teardown =>
      refine .inl ⟨?_, rfl⟩
      rw [List.perm_iff_count]
      intro box
      simp [Ctx.boxes, Ctx.perform, Ctx.teardown]
      omega

theorem Transition.boxes {m next : Machine App} {action : Action}
    (transition : Transition handle m action next) :
    m.ctx.Moved next.ctx ∨ m.ctx.Minted next.ctx := by
  cases transition with
  | call => exact perform_boxes _ _
  | drained =>
      refine .inl ⟨?_, rfl⟩
      rw [List.perm_iff_count]
      intro box
      simp [Ctx.boxes]
      omega
  | syncReturn | drainReturn =>
      rw [restoreApp_eq]
      exact .inl ⟨List.Perm.refl _, rfl⟩
  | _ => exact .inl ⟨List.Perm.refl _, rfl⟩

theorem Transition.graveyard {m next : Machine App} {action : Action}
    (transition : Transition handle m action next) :
    m.ctx.graveyard ⊆ next.ctx.graveyard := by
  cases transition with
  | @call ctx operation rest stack =>
      cases operation with
      | retireListener key =>
          rcases retireListener_cases ctx key with same | ⟨_, _, _, moved⟩
          · simp [Ctx.perform, same]
          · simp [Ctx.perform, moved]
      | endGrab grab =>
          rcases endGrab_cases ctx grab with same | ⟨_, _, moved⟩
          · simp [Ctx.perform, same]
          · simp [Ctx.perform, moved]
      | teardown =>
          simp only [Ctx.perform, Ctx.teardown, List.append_assoc]
          exact List.subset_append_left _ _
      | deferDrop | ownListener | startGrab | setApp | beginShutdown =>
          exact List.Subset.refl _
  | syncReturn | drainReturn =>
      rw [restoreApp_eq]
      exact List.Subset.refl _
  | _ => exact List.Subset.refl _

/-- Only the end of a drain frees. -/
theorem Transition.freed {m next : Machine App} {action : Action}
    (transition : Transition handle m action next) :
    next.ctx.freed = m.ctx.freed ∨
    ∃ stack, m.stack = .drainLoop :: stack ∧ m.ctx.queue = [] ∧
      next.ctx.freed = m.ctx.freed ++ m.ctx.pendingDrop := by
  cases transition with
  | call => exact .inl (perform_dispatch _ _).2.2
  | drained empty => exact .inr ⟨_, rfl, empty, rfl⟩
  | syncReturn | drainReturn =>
      rw [restoreApp_eq]
      exact .inl rfl
  | _ => exact .inl rfl

/-- What teardown finds, it parks. -/
theorem Transition.parks {m next : Machine App}
    (transition : Transition handle m .tornDown next) :
    ∀ box ∈ m.ctx.listeners.map Prod.snd ++ m.ctx.pendingDrop ++ m.ctx.activeGrabs,
      box ∈ next.ctx.graveyard := by
  generalize torn : Action.tornDown = action at transition
  cases transition with
  | @call ctx operation rest stack =>
      cases operation with
      | teardown =>
          intro box member
          simp only [Ctx.perform, Ctx.teardown, List.mem_append] at member ⊢
          tauto
      | deferDrop | ownListener | retireListener | startGrab | endGrab | setApp
      | beginShutdown => cases torn
  | _ => cases torn

/-! ### Runs -/

structure Machine.Sound (m : Machine App) : Prop where
  nested : m.Nested
  owned : m.ctx.Owned

private theorem Machine.start_sound (body : Body App) :
    Machine.Sound ⟨Ctx.new, [.body body]⟩ where
  nested := .body body .nil
  owned := ⟨by simp [Ctx.boxes, Ctx.new], by simp [Ctx.boxes, Ctx.new]⟩

theorem Machine.Sound.step {m next : Machine App} {action : Action} (sound : m.Sound)
    (moved : Machine.Step handle m action next) : next.Sound := by
  have transition := Machine.step_transition moved
  refine ⟨transition.nested sound.nested, ?_⟩
  rcases transition.boxes with same | minted
  · exact same.owned sound.owned
  · exact minted.owned sound.owned

theorem Machine.Sound.run {m final : Machine App} {actions : List Action} (sound : m.Sound)
    (run : Run (Machine.Step handle) m actions final) : final.Sound :=
  run.invariant (fun _ _ _ sound moved => sound.step moved) sound

theorem graveyard_run {m final : Machine App} {actions : List Action}
    (run : Run (Machine.Step handle) m actions final) :
    m.ctx.graveyard ⊆ final.ctx.graveyard := by
  induction run with
  | nil => exact List.Subset.refl _
  | snoc _ moved ih => exact List.Subset.trans ih (Machine.step_transition moved).graveyard

private theorem Ctx.Owned.parked_not_freed {ctx : Ctx App} (owned : ctx.Owned) {box : Box}
    (parked : box ∈ ctx.graveyard) : box ∉ ctx.freed := by
  have apart := (List.nodup_append.mp owned.nodup).2.2
  exact fun dropped => apart box (List.mem_append_right _ parked) box dropped rfl

private theorem Ctx.Owned.freed_nodup {ctx : Ctx App} (owned : ctx.Owned) : ctx.freed.Nodup :=
  (List.nodup_append.mp owned.nodup).2.1

/-- A deferred box is freed at most once, at the end of a drain below every
frame that may still use it, and never once teardown has parked it. -/
theorem deferredDrop_safe (handle : Handler App) (body : Body App) {actions : List Action}
    {m : Machine App}
    (run : Run (Machine.Step handle) ⟨Ctx.new, [.body body]⟩ actions m) :
    m.ctx.freed.Nodup ∧
    (∀ action next, Machine.Step handle m action next → next.ctx.freed ≠ m.ctx.freed →
      next.ctx.freed = m.ctx.freed ++ m.ctx.pendingDrop ∧
      m.ctx.queue = [] ∧ m.ctx.depth = 0 ∧
      ∃ stack, m.stack = .drainLoop :: stack ∧ .depthExit ∉ stack ∧
        ∀ app, .drainReturn app ∉ stack) ∧
    (∀ torn, Machine.Step handle m .tornDown torn →
      ∀ later final, Run (Machine.Step handle) torn later final →
      ∀ box ∈ m.ctx.listeners.map Prod.snd ++ m.ctx.pendingDrop ++ m.ctx.activeGrabs,
        box ∈ final.ctx.graveyard ∧ box ∉ final.ctx.freed) := by
  have sound := (Machine.start_sound body).run run
  refine ⟨sound.owned.freed_nodup, ?_, ?_⟩
  · intro action next moved changed
    rcases (Machine.step_transition moved).freed with same | ⟨stack, shape, empty, dropped⟩
    · exact absurd same changed
    · have nested := sound.nested
      unfold Machine.Nested at nested
      rw [shape] at nested
      obtain ⟨_, outermost, rest⟩ := nested.of_drainLoop
      exact ⟨dropped, empty, outermost, stack, shape, rest.quiet rfl rfl⟩
  · intro torn moved later final laterRun box member
    have parked := (Machine.step_transition moved).parks box member
    have kept := graveyard_run laterRun parked
    exact ⟨kept, ((sound.step moved).run laterRun).owned.parked_not_freed kept⟩

/-- A listener retired by a handler is freed by the drain that ran it. -/
theorem deferredDrop_safe_retired :
    ∃ actions m,
      Run (Machine.Step fun (_ : Unit) _ => ((), .call (.retireListener 1) .done))
        ⟨Ctx.new, [.body (.call (.setApp ())
          (.withDepth (.call (.ownListener 1) (.enqueue .headsChanged .done)) .done))]⟩
        actions m ∧
      m.ctx.freed = [0] ∧ m.ctx.freed.Nodup := by
  have run := @run_advance _ _
    (Machine.step fun (_ : Unit) _ => ((), .call (.retireListener 1) .done)) 20
  exact ⟨_, _, run _, by decide, (deferredDrop_safe _ _ (run _)).1⟩

end Westonite.Dispatch
