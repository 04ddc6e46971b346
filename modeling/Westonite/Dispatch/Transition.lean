import Westonite.Dispatch.Machine

/-! What one step of the dispatch machine can do, case by case. Every invariant
of the machine is proved on these cases. -/

set_option autoImplicit false

namespace Westonite.Dispatch

open Library

variable {App : Type}

/-! ### The context -/

theorem retireListener_cases (ctx : Ctx App) (key : Nat) :
    ctx.retireListener key = ctx ∨
    ∃ (i : Nat) (entry : Nat × Box), ctx.listeners[i]? = some entry ∧
      ctx.retireListener key =
        { ctx with
          listeners := swapRemove ctx.listeners i
          pendingDrop := ctx.pendingDrop ++ [entry.2] } := by
  unfold Ctx.retireListener
  cases located : ctx.listeners.findIdx? (fun entry => entry.1 = key) with
  | none => exact .inl rfl
  | some i =>
      cases found : ctx.listeners[i]? with
      | none => exact .inl (by simp [found])
      | some entry => exact .inr ⟨i, entry, found, by simp [found, Ctx.deferDrop]⟩

theorem endGrab_cases (ctx : Ctx App) (box : Box) :
    ctx.endGrab box = ctx ∨
    ∃ i : Nat, ctx.activeGrabs[i]? = some box ∧
      ctx.endGrab box =
        { ctx with
          activeGrabs := swapRemove ctx.activeGrabs i
          pendingDrop := ctx.pendingDrop ++ [box] } := by
  unfold Ctx.endGrab
  cases located : ctx.activeGrabs.findIdx? (fun active => active = box) with
  | none => exact .inl rfl
  | some i =>
      obtain ⟨inside, same, _⟩ := List.findIdx?_eq_some_iff_getElem.mp located
      refine .inr ⟨i, ?_, rfl⟩
      rw [List.getElem?_eq_getElem inside]
      exact congrArg some (by simpa using same)

/-- The calls that run no handler leave the dispatch state alone. -/
theorem perform_dispatch (ctx : Ctx App) (operation : Operation App) :
    (ctx.perform operation).depth = ctx.depth ∧
    (ctx.perform operation).draining = ctx.draining ∧
    (ctx.perform operation).freed = ctx.freed := by
  cases operation with
  | retireListener key =>
      rcases retireListener_cases ctx key with same | ⟨i, entry, _, moved⟩
      · simp [Ctx.perform, same]
      · simp [Ctx.perform, moved]
  | endGrab box =>
      rcases endGrab_cases ctx box with same | ⟨i, _, moved⟩
      · simp [Ctx.perform, same]
      · simp [Ctx.perform, moved]
  | deferDrop | ownListener | startGrab | setApp | beginShutdown | teardown =>
      exact ⟨rfl, rfl, rfl⟩

theorem restoreApp_eq (ctx : Ctx App) (app : App) :
    ctx.restoreApp app = { ctx with app := some (ctx.app.getD app) } := by
  unfold Ctx.restoreApp
  cases slot : ctx.app with
  | none => simp
  | some held =>
      have whole : ctx = { ctx with app := some held } := by rw [← slot]
      simpa using whole

/-! ### The machine -/

/-- The steps of the machine, with what each of them requires. -/
inductive Transition (handle : Handler App) : Machine App → Action → Machine App → Prop where
  | done {ctx stack} :
      Transition handle ⟨ctx, .body .done :: stack⟩ .silent ⟨ctx, stack⟩
  | withDepth {ctx inner rest stack} :
      Transition handle ⟨ctx, .body (.withDepth inner rest) :: stack⟩ .silent
        ⟨{ ctx with depth := ctx.depth + 1 },
          .body inner :: .depthExit :: .body rest :: stack⟩
  | enqueue {ctx ev rest stack} : ctx.shuttingDown = false →
      Transition handle ⟨ctx, .body (.enqueue ev rest) :: stack⟩ (.enqueued ev)
        ⟨{ ctx with queue := ctx.queue ++ [ev] }, .body rest :: stack⟩
  | enqueueRefused {ctx ev rest stack} : ctx.shuttingDown = true →
      Transition handle ⟨ctx, .body (.enqueue ev rest) :: stack⟩ (.refused ev)
        ⟨ctx, .body rest :: stack⟩
  | dispatchHandled {ctx ev rest stack app} :
      (ctx.shuttingDown = true → ev = .shutdown) → ctx.app = some app →
      Transition handle ⟨ctx, .body (.dispatchSync ev rest) :: stack⟩ (.handledSync ev)
        ⟨{ ctx with app := none, inSyncHandler := true },
          .body (handle app ev).2 :: .syncReturn (handle app ev).1 :: .body rest :: stack⟩
  | dispatchDeferred {ctx ev rest stack} : ctx.shuttingDown = false → ctx.app = none →
      Transition handle ⟨ctx, .body (.dispatchSync ev rest) :: stack⟩ (.deferred ev)
        ⟨{ ctx with queue := ctx.queue ++ [ev] }, .body rest :: stack⟩
  | dispatchRefused {ctx ev rest stack} : ctx.shuttingDown = true →
      Transition handle ⟨ctx, .body (.dispatchSync ev rest) :: stack⟩ (.refused ev)
        ⟨ctx, .body rest :: stack⟩
  | call {ctx operation rest stack} :
      Transition handle ⟨ctx, .body (.call operation rest) :: stack⟩ operation.action
        ⟨ctx.perform operation, .body rest :: stack⟩
  | leaveInner {ctx stack} : (ctx.depth - 1 = 0 → ctx.draining = true) →
      Transition handle ⟨ctx, .depthExit :: stack⟩ .silent
        ⟨{ ctx with depth := ctx.depth - 1 }, stack⟩
  | leaveOuter {ctx stack} : ctx.depth - 1 = 0 → ctx.draining = false →
      Transition handle ⟨ctx, .depthExit :: stack⟩ .silent
        ⟨{ ctx with depth := ctx.depth - 1, draining := true }, .drainLoop :: stack⟩
  | syncReturn {ctx app stack} :
      Transition handle ⟨ctx, .syncReturn app :: stack⟩ .silent
        ⟨{ ctx with inSyncHandler := false }.restoreApp app, stack⟩
  | drained {ctx stack} : ctx.queue = [] →
      Transition handle ⟨ctx, .drainLoop :: stack⟩ (.freed ctx.pendingDrop)
        ⟨{ ctx with
            draining := false
            pendingDrop := []
            freed := ctx.freed ++ ctx.pendingDrop }, stack⟩
  | discard {ctx ev queue stack} : ctx.queue = ev :: queue → ctx.shuttingDown = true →
      Transition handle ⟨ctx, .drainLoop :: stack⟩ (.discarded ev)
        ⟨{ ctx with queue }, .drainLoop :: stack⟩
  | drainHandled {ctx ev queue stack app} : ctx.queue = ev :: queue →
      ctx.shuttingDown = false → ctx.app = some app →
      Transition handle ⟨ctx, .drainLoop :: stack⟩ (.handledQueued ev)
        ⟨{ ctx with queue, app := none },
          .body (handle app ev).2 :: .drainReturn (handle app ev).1 :: .drainLoop :: stack⟩
  | drainLost {ctx ev queue stack} : ctx.queue = ev :: queue →
      ctx.shuttingDown = false → ctx.app = none →
      Transition handle ⟨ctx, .drainLoop :: stack⟩ (.lost ev)
        ⟨{ ctx with queue }, .drainLoop :: stack⟩
  | drainReturn {ctx app stack} :
      Transition handle ⟨ctx, .drainReturn app :: stack⟩ .silent
        ⟨ctx.restoreApp app, stack⟩

private theorem enqueueCall_transition {handle : Handler App} {m : Machine App}
    {ctx : Ctx App} {ev : Event} {stack : List (Frame App)} {accepted : Event → Action}
    (taken : ctx.shuttingDown = false →
      Transition handle m (accepted ev) ⟨{ ctx with queue := ctx.queue ++ [ev] }, stack⟩)
    (refused : ctx.shuttingDown = true → Transition handle m (.refused ev) ⟨ctx, stack⟩) :
    Transition handle m (Machine.enqueueCall ctx ev stack accepted).1
      (Machine.enqueueCall ctx ev stack accepted).2 := by
  unfold Machine.enqueueCall Ctx.enqueue
  cases down : ctx.shuttingDown with
  | false => simpa [down] using taken down
  | true => simpa [down] using refused down

private theorem dispatchSyncCall_transition (handle : Handler App) (ctx : Ctx App)
    (ev : Event) (rest : Body App) (stack : List (Frame App)) :
    Transition handle ⟨ctx, .body (.dispatchSync ev rest) :: stack⟩
      (Machine.dispatchSyncCall handle ctx ev (.body rest :: stack)).1
      (Machine.dispatchSyncCall handle ctx ev (.body rest :: stack)).2 := by
  unfold Machine.dispatchSyncCall
  cases guard : ctx.shuttingDown && ev ≠ .shutdown with
  | true =>
      have down : ctx.shuttingDown = true := (Bool.and_eq_true_iff.mp guard).1
      exact .dispatchRefused down
  | false =>
      simp only [Bool.false_eq_true, if_false]
      cases slot : ctx.app with
      | some app =>
          refine .dispatchHandled ?_ slot
          intro down
          simpa [down] using guard
      | none =>
          exact enqueueCall_transition (fun up => .dispatchDeferred up slot) .dispatchRefused

private theorem drainTurn_transition (handle : Handler App) (ctx : Ctx App)
    (stack : List (Frame App)) :
    Transition handle ⟨ctx, .drainLoop :: stack⟩ (Machine.drainTurn handle ctx stack).1
      (Machine.drainTurn handle ctx stack).2 := by
  unfold Machine.drainTurn
  cases waiting : ctx.queue with
  | nil =>
      have ended : Transition handle ⟨ctx, .drainLoop :: stack⟩ _ _ := .drained waiting
      rw [waiting] at ended
      exact ended
  | cons ev queue =>
      cases down : ctx.shuttingDown with
      | true =>
          have dropped : Transition handle ⟨ctx, .drainLoop :: stack⟩ _ _ :=
            .discard waiting down
          simpa [down] using dropped
      | false =>
          cases slot : ctx.app with
          | some app =>
              have handled : Transition handle ⟨ctx, .drainLoop :: stack⟩ _ _ :=
                .drainHandled waiting down slot
              simpa [down] using handled
          | none =>
              have lost : Transition handle ⟨ctx, .drainLoop :: stack⟩ _ _ :=
                .drainLost waiting down slot
              simpa [down, slot] using lost

private theorem leaveDepth_transition (handle : Handler App) (ctx : Ctx App)
    (stack : List (Frame App)) :
    Transition handle ⟨ctx, .depthExit :: stack⟩ .silent (Machine.leaveDepth ctx stack) := by
  unfold Machine.leaveDepth
  cases outer : decide (ctx.depth - 1 = 0) && !ctx.draining with
  | true =>
      simp only [Bool.and_eq_true, decide_eq_true_eq, Bool.not_eq_true'] at outer
      have left : Transition handle ⟨ctx, .depthExit :: stack⟩ _ _ :=
        .leaveOuter outer.1 outer.2
      simpa [outer] using left
  | false =>
      have inner : ctx.depth - 1 = 0 → ctx.draining = true := by
        intro zero
        simpa [zero] using outer
      have left : Transition handle ⟨ctx, .depthExit :: stack⟩ _ _ := .leaveInner inner
      simpa [outer] using left

theorem Machine.step_transition {handle : Handler App} {m next : Machine App}
    {action : Action} (moved : Step handle m action next) :
    Transition handle m action next := by
  have result : ∀ {pair : Action × Machine App}, some pair = some (action, next) →
      Transition handle m pair.1 pair.2 → Transition handle m action next := by
    intro pair same transition
    obtain rfl := Option.some.inj same
    exact transition
  obtain ⟨ctx, stack⟩ := m
  unfold Step Moves step at moved
  cases stack with
  | nil => simp at moved
  | cons frame stack =>
      cases frame with
      | body body =>
          cases body with
          | done => exact result moved .done
          | withDepth inner rest => exact result moved .withDepth
          | enqueue ev rest =>
              exact result moved (enqueueCall_transition .enqueue .enqueueRefused)
          | dispatchSync ev rest =>
              exact result moved (dispatchSyncCall_transition handle ctx ev rest stack)
          | call operation rest => exact result moved .call
      | depthExit => exact result moved (leaveDepth_transition handle ctx stack)
      | syncReturn app => exact result moved .syncReturn
      | drainLoop => exact result moved (drainTurn_transition handle ctx stack)
      | drainReturn app => exact result moved .drainReturn

/-- Only the empty stack has no step. -/
theorem Machine.step_eq_none {handle : Handler App} {m : Machine App}
    (stuck : m.step handle = none) : m.stack = [] := by
  obtain ⟨ctx, stack⟩ := m
  unfold step at stuck
  cases stack with
  | nil => rfl
  | cons frame stack =>
      cases frame with
      | body body => cases body <;> cases stuck
      | depthExit | syncReturn | drainLoop | drainReturn => cases stuck

end Westonite.Dispatch
