import Mathlib.Data.List.Chain
import Westonite.Dispatch.ExactlyOnce

/-! Events that meet an empty app slot. They wait in the queue, and are safe there
as long as no drain starts before an app is in the slot again. -/

set_option autoImplicit false

namespace Westonite.Dispatch

open Library

variable {App : Type} {handle : Handler App} {m next : Machine App} {action : Action}

/-! ### Drains -/

/-- A drain that is not on top waits for its handler. -/
def Frame.Guards (above below : Frame App) : Prop :=
  below = .drainLoop → ∃ app, above = .drainReturn app

/-- A drain about to take its next event finds an app for it. -/
structure Tended (m : Machine App) : Prop where
  guarded : m.stack.IsChain Frame.Guards
  ready : ∀ stack, m.stack = .drainLoop :: stack → m.ctx.app.isSome = true ∨ m.ctx.queue = []

/-- When `with_depth` is about to drain, an app is there or nothing is queued. -/
def Machine.serves (m : Machine App) : Bool :=
  match m.stack with
  | .depthExit :: _ =>
      m.ctx.depth - 1 != 0 || m.ctx.draining || m.ctx.app.isSome || m.ctx.queue.isEmpty
  | _ => true

section Chains

variable {top other : Frame App} {stack : List (Frame App)}

/-- What is not the end of a handler has no drain below it. -/
private theorem guarded_below (guarded : (top :: stack).IsChain Frame.Guards)
    (plain : ∀ app, top ≠ .drainReturn app) {rest : List (Frame App)} :
    stack ≠ .drainLoop :: rest := by
  rintro rfl
  obtain ⟨app, same⟩ := (List.isChain_cons_cons.mp guarded).1 rfl
  exact plain app same

private theorem guarded_push (guarded : stack.IsChain Frame.Guards)
    (above : ∀ rest, stack ≠ .drainLoop :: rest) (frame : Frame App) :
    (frame :: stack).IsChain Frame.Guards := by
  cases stack with
  | nil => exact List.isChain_singleton frame
  | cons below rest =>
      refine List.isChain_cons_cons.mpr ⟨?_, guarded⟩
      rintro rfl
      exact absurd rfl (above rest)

private theorem guarded_replace (guarded : (top :: stack).IsChain Frame.Guards)
    (plain : ∀ app, top ≠ .drainReturn app) (frame : Frame App) :
    (frame :: stack).IsChain Frame.Guards :=
  guarded_push guarded.tail (fun _ => guarded_below guarded plain) frame

end Chains

/-- Nothing brings the context back from its shutdown. -/
theorem Transition.running (transition : Transition handle m action next)
    (running : next.ctx.shuttingDown = false) : m.ctx.shuttingDown = false := by
  cases transition with
  | @call ctx operation =>
      cases operation with
      | retireListener key =>
          rcases retireListener_cases ctx key with same | ⟨_, _, _, moved⟩
          · simpa [Ctx.perform, same] using running
          · simpa [Ctx.perform, moved] using running
      | endGrab box =>
          rcases endGrab_cases ctx box with same | ⟨_, _, moved⟩
          · simpa [Ctx.perform, same] using running
          · simpa [Ctx.perform, moved] using running
      | deferDrop | ownListener | startGrab | setApp => exact running
      | beginShutdown | teardown => cases running
  | syncReturn | drainReturn =>
      rw [restoreApp_eq] at running
      exact running
  | _ => exact running

theorem Tended.step (tended : Tended m) (serves : m.serves = true)
    (transition : Transition handle m action next) (running : next.ctx.shuttingDown = false) :
    Tended next := by
  obtain ⟨guarded, ready⟩ := tended
  cases transition with
  | done =>
      exact ⟨guarded.tail, fun _ below => absurd below (guarded_below guarded (by simp))⟩
  | @withDepth ctx inner rest stack =>
      refine ⟨?_, by simp⟩
      have body := guarded_replace guarded (by simp) (.body rest)
      exact guarded_push (guarded_push body (by simp) .depthExit) (by simp) _
  | enqueue | enqueueRefused | dispatchDeferred | dispatchRefused | call =>
      exact ⟨guarded_replace guarded (by simp) _, by simp⟩
  | @dispatchHandled ctx ev rest stack app _ _ =>
      refine ⟨?_, by simp⟩
      have body := guarded_replace guarded (by simp) (.body rest)
      exact guarded_push (guarded_push body (by simp) _) (by simp) _
  | leaveInner =>
      exact ⟨guarded.tail, fun _ below => absurd below (guarded_below guarded (by simp))⟩
  | leaveOuter outermost outside =>
      refine ⟨guarded_push guarded.tail (fun _ => guarded_below guarded (by simp)) _, ?_⟩
      intro _ _
      simpa [Machine.serves, outermost, outside] using serves
  | syncReturn =>
      exact ⟨guarded.tail, fun _ below => absurd below (guarded_below guarded (by simp))⟩
  | drained =>
      exact ⟨guarded.tail, fun _ below => absurd below (guarded_below guarded (by simp))⟩
  | discard _ down => exact absurd (down.symm.trans running) (by decide)
  | @drainHandled ctx ev queue stack app _ _ _ =>
      refine ⟨?_, by simp⟩
      have returning := List.isChain_cons_cons.mpr
        ⟨fun _ => ⟨(handle app ev).1, rfl⟩, guarded⟩
      exact guarded_push returning (by simp) _
  | drainLost waiting _ empty =>
      rcases ready _ rfl with some | none
      · simp [empty] at some
      · simp [waiting] at none
  | drainReturn =>
      rw [restoreApp_eq]
      exact ⟨guarded.tail, fun _ _ => .inl rfl⟩

/-! ### What becomes of an event -/

/-- One step keeps the queue in order, and lets nothing out of it but to the app. -/
structure Keeps (m : Machine App) (action : Action) (next : Machine App) : Prop where
  order : action.drained.toList ++ next.ctx.queue = m.ctx.queue ++ action.entered.toList
  kept : ∀ ev, action ≠ .lost ev ∧ action ≠ .discarded ev

private theorem perform_queue (ctx : Ctx App) {operation : Operation App}
    (running : (ctx.perform operation).shuttingDown = false) :
    (ctx.perform operation).queue = ctx.queue ∧ operation.action = .silent := by
  cases operation with
  | setApp => exact ⟨rfl, rfl⟩
  | beginShutdown | teardown => cases running
  | retireListener key => exact ⟨(@perform_plain App ctx (.retireListener key) trivial).2.1, rfl⟩
  | endGrab box => exact ⟨(@perform_plain App ctx (.endGrab box) trivial).2.1, rfl⟩
  | deferDrop | ownListener | startGrab => exact ⟨rfl, rfl⟩

theorem Tended.keeps (tended : Tended m) (transition : Transition handle m action next)
    (running : next.ctx.shuttingDown = false) : Keeps m action next := by
  cases transition with
  | done | withDepth | leaveInner | leaveOuter =>
      exact ⟨by simp [Action.drained, Action.entered], by simp⟩
  | enqueue | dispatchDeferred => exact ⟨by simp [Action.drained, Action.entered], by simp⟩
  | enqueueRefused | dispatchRefused | dispatchHandled =>
      exact ⟨by simp [Action.drained, Action.entered], by simp⟩
  | @call ctx operation rest stack =>
      obtain ⟨queue, silent⟩ := perform_queue ctx running
      rw [silent]
      exact ⟨by simp [Action.drained, Action.entered, queue], by simp⟩
  | syncReturn | drainReturn =>
      rw [restoreApp_eq]
      exact ⟨by simp [Action.drained, Action.entered], by simp⟩
  | drained => exact ⟨by simp [Action.drained, Action.entered], by simp⟩
  | discard _ down => exact absurd (down.symm.trans running) (by decide)
  | drainHandled waiting =>
      exact ⟨by simp [Action.drained, Action.entered, waiting], by simp⟩
  | drainLost waiting _ empty =>
      rcases tended.ready _ rfl with some | none
      · simp [empty] at some
      · simp [waiting] at none

/-- Every event that entered the queue has been handed to the app, in order, or
waits in the queue, and a drain hands on the next one. -/
structure Waits (handle : Handler App) (actions : List Action) (m : Machine App) : Prop where
  order : actions.filterMap Action.drained ++ m.ctx.queue = actions.filterMap Action.entered
  kept : ∀ ev, .lost ev ∉ actions ∧ .discarded ev ∉ actions
  turn : ∀ stack ev queue, m.stack = .drainLoop :: stack → m.ctx.queue = ev :: queue →
    ∃ next, Machine.Step handle m (.handledQueued ev) next

theorem Tended.turn (tended : Tended m) (running : m.ctx.shuttingDown = false)
    {stack : List (Frame App)} {ev : Event} {queue : List Event}
    (drains : m.stack = .drainLoop :: stack) (waiting : m.ctx.queue = ev :: queue) :
    ∃ next, Machine.Step handle m (.handledQueued ev) next := by
  have taken : m.step handle = some (Machine.drainTurn handle m.ctx stack) := by
    unfold Machine.step
    rw [drains]
  rcases tended.ready stack drains with filled | none
  · obtain ⟨app, slot⟩ := Option.isSome_iff_exists.mp filled
    unfold Machine.drainTurn at taken
    rw [waiting, running, slot] at taken
    exact ⟨_, taken⟩
  · rw [waiting] at none
    cases none

/-- A drain that starts while the slot is empty has no app for what is queued. -/
private theorem serves_of_turn (running : m.ctx.shuttingDown = false)
    (turn : ∀ next, Machine.Step handle m .silent next → next.ctx.shuttingDown = false →
      ∀ stack ev queue, next.stack = .drainLoop :: stack → next.ctx.queue = ev :: queue →
      ∃ last, Machine.Step handle next (.handledQueued ev) last) : m.serves = true := by
  obtain ⟨ctx, stack⟩ := m
  unfold Machine.serves
  cases stack with
  | nil => rfl
  | cons frame stack =>
      cases frame with
      | depthExit =>
          by_contra unserved
          simp only [Bool.or_eq_true, bne_iff_ne, not_or, not_not, Bool.not_eq_true] at unserved
          obtain ⟨⟨⟨outermost, outside⟩, empty⟩, filled⟩ := unserved
          cases waiting : ctx.queue with
          | nil =>
              rw [waiting] at filled
              cases filled
          | cons ev queue =>
              have left : Machine.leaveDepth ctx stack =
                  ⟨{ ctx with depth := ctx.depth - 1, draining := true }, .drainLoop :: stack⟩ := by
                simp [Machine.leaveDepth, outermost, outside]
              have taken : Machine.Step handle ⟨ctx, .depthExit :: stack⟩ .silent
                  (Machine.leaveDepth ctx stack) := rfl
              rw [left] at taken
              have down : ctx.shuttingDown = false := running
              obtain ⟨last, handed⟩ := turn _ taken down stack ev queue rfl waiting
              have slot : ctx.app = none := by simpa using empty
              unfold Machine.Step Moves Machine.step Machine.drainTurn at handed
              dsimp only at handed
              rw [waiting, down, slot] at handed
              cases handed
      | body | syncReturn | drainLoop | drainReturn => rfl

/-! ### Runs -/

/-- The context as it is made, and what C does with it. -/
def Machine.fresh (program : Body App) : Machine App := ⟨.new, [.body program]⟩

/-- What holds at every state while each drain finds an app. -/
structure Kept (actions : List Action) (m : Machine App) : Prop where
  tended : Tended m
  order : actions.filterMap Action.drained ++ m.ctx.queue = actions.filterMap Action.entered
  kept : ∀ ev, .lost ev ∉ actions ∧ .discarded ev ∉ actions

theorem Kept.fresh (program : Body App) : Kept [] (.fresh program) where
  tended := ⟨List.isChain_singleton _, fun _ impossible => by cases impossible⟩
  order := rfl
  kept _ := ⟨List.not_mem_nil, List.not_mem_nil⟩

theorem Kept.snoc {actions : List Action} (kept : Kept actions m) (serves : m.serves = true)
    (moved : Machine.Step handle m action next) (running : next.ctx.shuttingDown = false) :
    Kept (actions ++ [action]) next := by
  have transition := Machine.step_transition moved
  have keeps := kept.tended.keeps transition running
  refine ⟨kept.tended.step serves transition running, ?_, ?_⟩
  · rw [filterMap_snoc, filterMap_snoc, List.append_assoc, keeps.order, ← List.append_assoc,
      kept.order]
  · intro ev
    obtain ⟨lost, discarded⟩ := kept.kept ev
    obtain ⟨notLost, notDiscarded⟩ := keeps.kept ev
    constructor
    · intro member
      rcases List.mem_append.mp member with before | now
      · exact lost before
      · exact notLost (List.mem_singleton.mp now).symm
    · intro member
      rcases List.mem_append.mp member with before | now
      · exact discarded before
      · exact notDiscarded (List.mem_singleton.mp now).symm

/-- Before a shutdown every queued event comes to the app, in order, just when no
outermost `with_depth` ends with an empty slot and a queued event. -/
theorem queued_events_kept_iff (handle : Handler App) (program : Body App) :
    (∀ actions m, Run (Machine.Step handle) (.fresh program) actions m →
      m.ctx.shuttingDown = false → Waits handle actions m) ↔
    (∀ actions m, Run (Machine.Step handle) (.fresh program) actions m →
      m.ctx.shuttingDown = false → m.serves = true) := by
  constructor
  · intro waits actions m run running
    apply serves_of_turn running
    intro next taken up
    exact (waits _ _ (run.snoc taken) up).turn
  · intro serves actions m run running
    have kept : Kept actions m := by
      induction run with
      | nil => exact .fresh program
      | snoc before moved ih =>
          have earlier := (Machine.step_transition moved).running running
          exact (ih earlier).snoc (serves _ _ before earlier) moved running
    exact ⟨kept.order, kept.kept, fun _ _ _ => kept.tended.turn running⟩

/-- An app that enqueues an event from within a call to the host. -/
def hostCalls : Handler Unit := fun _ ev =>
  match ev with
  | .headsChanged => ((), .withDepth (.enqueue .sessionActivated .done) .done)
  | _ => ((), .done)

/-- Enqueued before the app is there, or by the handler of a synchronous event, an
event is gone with the first `with_depth` that ends. -/
theorem queued_event_lost :
    (∃ actions m, Run (Machine.Step hostCalls) (.fresh
        (.withDepth (.enqueue .sessionActivated .done)
          (.call (.setApp ()) (.withDepth .done .done)))) actions m ∧
      m.stack = [] ∧ m.ctx.shuttingDown = false ∧ m.ctx.app = some () ∧
      .lost .sessionActivated ∈ actions ∧ .handledQueued .sessionActivated ∉ actions) ∧
    ∃ actions m, Run (Machine.Step hostCalls) (.fresh
        (.call (.setApp ()) (.dispatchSync .headsChanged (.withDepth .done .done)))) actions m ∧
      m.stack = [] ∧ m.ctx.shuttingDown = false ∧ m.ctx.app = some () ∧
      .lost .sessionActivated ∈ actions ∧ .handledQueued .sessionActivated ∉ actions := by
  constructor
  · refine ⟨_, _, run_advance 40 _, ?_, ?_, ?_, ?_, ?_⟩ <;> decide
  · refine ⟨_, _, run_advance 40 _, ?_, ?_, ?_, ?_, ?_⟩ <;> decide

end Westonite.Dispatch
