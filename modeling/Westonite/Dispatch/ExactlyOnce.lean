import Westonite.Dispatch.Transition

/-! Dispatch with an app installed, no teardown and every entry from C inside
`with_depth`: each event is handled once, queued events in their order, and
the outermost `with_depth` leaves an empty queue behind. -/

set_option autoImplicit false

namespace Westonite.Dispatch

open Library

variable {App : Type} {handle : Handler App}

/-! ### Programs -/

/-- Calls that neither refill the app slot nor begin the shutdown. -/
def Operation.Plain : Operation App → Prop
  | .setApp _ | .beginShutdown | .teardown => False
  | _ => True

def Body.Plain : Body App → Prop
  | .done => True
  | .withDepth inner rest => inner.Plain ∧ rest.Plain
  | .enqueue _ rest | .dispatchSync _ rest => rest.Plain
  | .call operation rest => operation.Plain ∧ rest.Plain

/-- The entries from C, one outermost `with_depth` each. -/
def entries : List (Body App) → Body App
  | [] => .done
  | entry :: rest => .withDepth entry (entries rest)

def Frame.Plain : Frame App → Prop
  | .body code => code.Plain
  | _ => True

private theorem entries_plain {bodies : List (Body App)} (plain : ∀ body ∈ bodies, body.Plain) :
    (entries bodies).Plain := by
  induction bodies with
  | nil => trivial
  | cons body rest ih =>
      exact ⟨plain body (by simp), ih fun other member => plain other (by simp [member])⟩

/-! ### What an action says about its event -/

namespace Action

/-- The event given to the context. -/
def given : Action → Option Event
  | .enqueued ev | .deferred ev | .refused ev | .handledSync ev => some ev
  | _ => none

/-- The event that entered the queue. -/
def entered : Action → Option Event
  | .enqueued ev | .deferred ev => some ev
  | _ => none

/-- The event handed to the handler. -/
def handled : Action → Option Event
  | .handledSync ev | .handledQueued ev => some ev
  | _ => none

/-- The event handed to the handler by the drain. -/
def drained : Action → Option Event
  | .handledQueued ev => some ev
  | _ => none

end Action

/-! ### Frames on the stack -/

def Frame.isHandler : Frame App → Bool
  | .syncReturn _ | .drainReturn _ => true
  | _ => false

/-- The stacks of such a machine, by whether a handler runs, whether it drains
and by its depth. -/
inductive Served : Bool → Bool → Nat → List (Frame App) → Prop where
  | finished : Served false false 0 []
  | entries (bodies : List (Body App)) : Served false false 0 [.body (entries bodies)]
  | inDepth {handler draining depth stack} (body : Body App) :
      Served handler draining (depth + 1) stack →
      Served handler draining (depth + 1) (.body body :: stack)
  | inHandler {draining depth stack} (body : Body App) :
      Served true draining depth stack → Served true draining depth (.body body :: stack)
  | depthExit {handler draining depth body stack} :
      Served handler draining depth (.body body :: stack) →
      Served handler draining (depth + 1) (.depthExit :: .body body :: stack)
  | syncReturn {draining depth body stack} (app : App) :
      Served false draining (depth + 1) (.body body :: stack) →
      Served true draining (depth + 1) (.syncReturn app :: .body body :: stack)
  | drainLoop {bodies} : Served false false 0 [.body (entries bodies)] →
      Served false true 0 [.drainLoop, .body (entries bodies)]
  | drainReturn {stack} (app : App) : Served false true 0 (.drainLoop :: stack) →
      Served true true 0 (.drainReturn app :: .drainLoop :: stack)

namespace Served

variable {handler draining : Bool} {depth : Nat} {stack : List (Frame App)}

theorem push (served : Served handler draining depth stack)
    (active : handler = true ∨ 0 < depth) (body : Body App) :
    Served handler draining depth (.body body :: stack) := by
  cases handler with
  | true => exact .inHandler body served
  | false =>
      cases depth with
      | zero => simp at active
      | succ depth => exact .inDepth body served

theorem of_body {body : Body App} (served : Served handler draining depth (.body body :: stack)) :
    (∃ bodies, body = Dispatch.entries bodies ∧ stack = [] ∧ handler = false ∧
      draining = false ∧ depth = 0) ∨
    ((handler = true ∨ 0 < depth) ∧ Served handler draining depth stack) := by
  cases served with
  | entries bodies => exact .inl ⟨bodies, rfl, rfl, rfl, rfl, rfl⟩
  | inDepth _ rest => exact .inr ⟨.inr (Nat.succ_pos _), rest⟩
  | inHandler _ rest => exact .inr ⟨.inl rfl, rest⟩

/-- No handler runs outside a drain at depth zero. -/
private theorem no_handler_outside (served : Served handler draining depth stack)
    (outside : draining = false) (outermost : depth = 0) : handler = false := by
  induction served with
  | finished | entries | drainLoop => rfl
  | inHandler _ _ ih => exact ih outside outermost
  | inDepth | depthExit | syncReturn => simp at outermost
  | drainReturn => simp at outside

/-- A call is made inside a closure of `with_depth` or inside a handler. -/
private theorem of_call {body : Body App}
    (served : Served handler draining depth (.body body :: stack))
    (call : ∀ bodies, body ≠ Dispatch.entries bodies) :
    (handler = false → 0 < depth) ∧ (draining = false → depth ≠ 0) ∧
      ∀ rest, Served handler draining depth (.body rest :: stack) := by
  rcases served.of_body with ⟨bodies, shape, _⟩ | ⟨active, below⟩
  · exact absurd shape (call bodies)
  · refine ⟨fun none => active.resolve_left (by simp [none]), ?_, below.push active⟩
    intro outside outermost
    have none := below.no_handler_outside outside outermost
    simp [none, outermost] at active

theorem of_nil (served : Served handler draining depth ([] : List (Frame App))) :
    handler = false ∧ draining = false ∧ depth = 0 := by
  cases served with
  | finished => exact ⟨rfl, rfl, rfl⟩

private theorem of_entries {bodies : List (Body App)}
    (served : Served handler draining depth [.body (Dispatch.entries bodies)]) :
    handler = false ∧ draining = false ∧ depth = 0 := by
  rcases served.of_body with ⟨_, _, _, outer⟩ | ⟨_, below⟩
  · exact outer
  · exact below.of_nil

theorem of_depthExit (served : Served handler draining depth (.depthExit :: stack)) :
    0 < depth ∧ Served handler draining (depth - 1) stack ∧
      ∃ body rest, stack = .body body :: rest := by
  cases served with
  | depthExit rest => exact ⟨Nat.succ_pos _, rest, _, _, rfl⟩

theorem of_syncReturn {app : App}
    (served : Served handler draining depth (.syncReturn app :: stack)) :
    handler = true ∧ 0 < depth ∧ Served false draining depth stack := by
  cases served with
  | syncReturn _ rest => exact ⟨rfl, Nat.succ_pos _, rest⟩

theorem of_drainLoop (served : Served handler draining depth (.drainLoop :: stack)) :
    handler = false ∧ draining = true ∧ depth = 0 ∧ Served false false 0 stack := by
  cases served with
  | drainLoop rest => exact ⟨rfl, rfl, rfl, rest⟩

theorem of_drainReturn {app : App}
    (served : Served handler draining depth (.drainReturn app :: stack)) :
    handler = true ∧ draining = true ∧ depth = 0 ∧ Served false true 0 stack := by
  cases served with
  | drainReturn _ rest => exact ⟨rfl, rfl, rfl, rest⟩

/-- The stack shows the one handler that may run. -/
private theorem countP_handler (served : Served handler draining depth stack) :
    stack.countP Frame.isHandler = handler.toNat := by
  induction served with
  | finished | entries | drainLoop => rfl
  | inDepth _ _ ih | inHandler _ _ ih | depthExit _ ih =>
      rw [List.countP_cons_of_neg (by simp [Frame.isHandler])]
      exact ih
  | syncReturn _ _ ih | drainReturn _ _ ih =>
      rw [List.countP_cons_of_pos rfl, ih]
      rfl

/-- Outside the handlers of a drain the stack shows the depth. -/
private theorem no_depthExit (served : Served handler draining depth stack)
    (outermost : depth = 0) : .depthExit ∉ stack := by
  induction served with
  | finished => simp
  | entries | drainLoop => simp
  | inHandler _ _ ih | drainReturn _ _ ih => simpa using ih outermost
  | inDepth | depthExit | syncReturn => simp at outermost

end Served

theorem perform_plain (ctx : Ctx App) {operation : Operation App} (plain : operation.Plain) :
    (ctx.perform operation).app = ctx.app ∧
    (ctx.perform operation).queue = ctx.queue ∧
    (ctx.perform operation).shuttingDown = ctx.shuttingDown ∧ 
    operation.action = .silent := by
  cases operation with
  | retireListener key =>
      rcases retireListener_cases ctx key with same | ⟨i, entry, _, moved⟩
      · simp [Ctx.perform, same, Operation.action]
      · simp [Ctx.perform, moved, Operation.action]
  | endGrab box =>
      rcases endGrab_cases ctx box with same | ⟨i, _, moved⟩
      · simp [Ctx.perform, same, Operation.action]
      · simp [Ctx.perform, moved, Operation.action]
  | deferDrop | ownListener | startGrab => exact ⟨rfl, rfl, rfl, rfl⟩
  | setApp | beginShutdown | teardown => exact plain.elim

structure Machine.Orderly (m : Machine App) : Prop where
  served : Served m.ctx.app.isNone m.ctx.draining m.ctx.depth m.stack
  running : m.ctx.shuttingDown = false
  plain : ∀ frame ∈ m.stack, frame.Plain
  idle : m.ctx.draining = false → m.ctx.depth = 0 → m.ctx.queue = []

private theorem entries_ne_enqueue (ev : Event) (rest : Body App) (bodies : List (Body App)) :
    .enqueue ev rest ≠ entries bodies := by
  cases bodies <;> simp [entries]

private theorem entries_ne_dispatchSync (ev : Event) (rest : Body App) (bodies : List (Body App)) :
    .dispatchSync ev rest ≠ entries bodies := by
  cases bodies <;> simp [entries]

private theorem entries_ne_call (operation : Operation App) (rest : Body App)
    (bodies : List (Body App)) : .call operation rest ≠ entries bodies := by
  cases bodies <;> simp [entries]

private theorem replace_plain {first second : Frame App} {stack : List (Frame App)}
    (plain : ∀ frame ∈ first :: stack, frame.Plain) (same : first.Plain → second.Plain) :
    ∀ frame ∈ second :: stack, frame.Plain := by
  obtain ⟨head, tail⟩ := List.forall_mem_cons.mp plain
  exact List.forall_mem_cons.mpr ⟨same head, tail⟩

theorem Transition.orderly {m next : Machine App} {action : Action}
    (handlerPlain : ∀ app ev, (handle app ev).2.Plain)
    (transition : Transition handle m action next) (orderly : m.Orderly) : next.Orderly := by
  obtain ⟨served, running, plain, idle⟩ := orderly
  cases transition with
  | done =>
      refine ⟨?_, running, (List.forall_mem_cons.mp plain).2, idle⟩
      rcases served.of_body with ⟨bodies, shape, rfl, none, outside, outermost⟩ | ⟨_, rest⟩
      · rw [none, outside, outermost]
        exact .finished
      · exact rest
  | @withDepth ctx inner rest stack =>
      obtain ⟨⟨innerPlain, restPlain⟩, stackPlain⟩ := List.forall_mem_cons.mp plain
      refine ⟨.inDepth inner (.depthExit ?_), running, ?_, fun _ outermost => by cases outermost⟩
      · rcases served.of_body with ⟨bodies, shape, rfl, none, outside, outermost⟩ | ⟨active, below⟩
        · cases bodies with
          | nil => cases shape
          | cons head tail =>
              cases shape
              rw [none, outside, outermost]
              exact .entries tail
        · exact below.push active rest
      · exact List.forall_mem_cons.mpr ⟨innerPlain, List.forall_mem_cons.mpr
          ⟨trivial, List.forall_mem_cons.mpr ⟨restPlain, stackPlain⟩⟩⟩
  | @enqueue ctx ev rest stack up =>
      obtain ⟨_, inside, resume⟩ := served.of_call (entries_ne_enqueue ev rest)
      exact ⟨resume rest, running, replace_plain plain id,
        fun outside outermost => absurd outermost (inside outside)⟩
  | enqueueRefused down => exact absurd (down.symm.trans running) (by decide)
  | @dispatchHandled ctx ev rest stack app _ slot =>
      obtain ⟨deep, inside, resume⟩ := served.of_call (entries_ne_dispatchSync ev rest)
      have free : ctx.app.isNone = false := by rw [slot]; rfl
      refine ⟨.inHandler _ ?_, running, ?_,
        fun outside outermost => absurd outermost (inside outside)⟩
      · have resumed := resume rest
        have positive := deep free
        simp only [free] at resumed positive ⊢
        cases depth : ctx.depth with
        | zero => simp [depth] at positive
        | succ depth =>
            rw [depth] at resumed
            exact .syncReturn _ resumed
      · exact List.forall_mem_cons.mpr ⟨handlerPlain app ev, List.forall_mem_cons.mpr
          ⟨trivial, replace_plain plain id⟩⟩
  | @dispatchDeferred ctx ev rest stack up empty =>
      obtain ⟨_, inside, resume⟩ := served.of_call (entries_ne_dispatchSync ev rest)
      exact ⟨resume rest, running, replace_plain plain id,
        fun outside outermost => absurd outermost (inside outside)⟩
  | dispatchRefused down => exact absurd (down.symm.trans running) (by decide)
  | @call ctx operation rest stack =>
      obtain ⟨_, inside, resume⟩ := served.of_call (entries_ne_call operation rest)
      obtain ⟨operationPlain, _⟩ := plain (.body (.call operation rest)) (by simp)
      obtain ⟨app, queue, down, _⟩ := perform_plain ctx operationPlain
      obtain ⟨depth, draining, _⟩ := perform_dispatch ctx operation
      refine ⟨?_, down.trans running, replace_plain plain And.right, ?_⟩
      · simp only [app, depth, draining]
        exact resume rest
      · simp only [depth, draining]
        exact fun outside outermost => absurd outermost (inside outside)
  | leaveInner within =>
      obtain ⟨_, rest, _⟩ := served.of_depthExit
      refine ⟨rest, running, (List.forall_mem_cons.mp plain).2, ?_⟩
      intro outside outermost
      exact absurd (outside.symm.trans (within outermost)) (by decide)
  | @leaveOuter ctx stack outermost outside =>
      obtain ⟨_, rest, body, below, rfl⟩ := served.of_depthExit
      have none := rest.no_handler_outside outside outermost
      simp only at none rest
      rw [none, outside, outermost] at rest
      refine ⟨?_, running, replace_plain plain fun _ => trivial, fun draining => by cases draining⟩
      simp only [none, outermost]
      rcases rest.of_body with ⟨bodies, rfl, rfl, _⟩ | ⟨active, _⟩
      · exact .drainLoop rest
      · simp at active
  | @syncReturn ctx app stack =>
      obtain ⟨busy, deep, rest⟩ := served.of_syncReturn
      rw [restoreApp_eq]
      exact ⟨rest, running, (List.forall_mem_cons.mp plain).2,
        fun _ outermost => absurd outermost (Nat.pos_iff_ne_zero.mp deep)⟩
  | drained empty =>
      obtain ⟨none, _, outermost, rest⟩ := served.of_drainLoop
      refine ⟨?_, running, (List.forall_mem_cons.mp plain).2, fun _ _ => empty⟩
      simp only at none outermost ⊢
      rw [none, outermost]
      exact rest
  | discard _ down => exact absurd (down.symm.trans running) (by decide)
  | @drainHandled ctx ev queue stack app _ _ slot =>
      obtain ⟨none, draining, outermost, _⟩ := served.of_drainLoop
      refine ⟨.inHandler _ ?_, running, ?_, fun outside => ?_⟩
      · simp only at none draining outermost served ⊢
        rw [none, draining, outermost] at served
        rw [draining, outermost]
        exact .drainReturn _ served
      · exact List.forall_mem_cons.mpr ⟨handlerPlain app ev, List.forall_mem_cons.mpr
          ⟨trivial, plain⟩⟩
      · exact absurd (outside.symm.trans draining) (by decide)
  | drainLost _ _ empty =>
      obtain ⟨none, _⟩ := served.of_drainLoop
      simp [empty] at none
  | @drainReturn ctx app stack =>
      obtain ⟨_, draining, outermost, rest⟩ := served.of_drainReturn
      rw [restoreApp_eq]
      refine ⟨?_, running, (List.forall_mem_cons.mp plain).2,
        fun outside => absurd (outside.symm.trans draining) (by decide)⟩
      simp only at draining outermost ⊢
      rw [draining, outermost]
      exact rest

/-! ### Events -/

/-- One step moves an event into the queue or out of it, and gives or handles
one, in step with each other. -/
structure Accounts (m : Machine App) (action : Action) (next : Machine App) : Prop where
  order : action.drained.toList ++ next.ctx.queue = m.ctx.queue ++ action.entered.toList
  balance : (action.handled.toList ++ next.ctx.queue).Perm
    (m.ctx.queue ++ action.given.toList)
  outside : ∀ ev, action = .handledQueued ev → m.ctx.depth = 0
  free : ∀ ev, action.handled = some ev → m.ctx.app.isNone = false

theorem Transition.accounts {m next : Machine App} {action : Action}
    (transition : Transition handle m action next) (orderly : m.Orderly) :
    Accounts m action next := by
  obtain ⟨served, running, plain, idle⟩ := orderly
  cases transition with
  | done | withDepth | leaveInner | leaveOuter =>
      constructor <;> simp [Action.drained, Action.entered, Action.handled, Action.given]
  | enqueue => constructor <;> simp [Action.drained, Action.entered, Action.handled, Action.given]
  | dispatchDeferred =>
      constructor <;> simp [Action.drained, Action.entered, Action.handled, Action.given]
  | enqueueRefused down | dispatchRefused down | discard _ down =>
      exact absurd (down.symm.trans running) (by decide)
  | dispatchHandled _ slot =>
      constructor <;> simp [Action.drained, Action.entered, Action.handled, Action.given, slot]
      exact (List.perm_append_singleton _ _).symm
  | @call ctx operation rest stack =>
      obtain ⟨operationPlain, _⟩ := plain (.body (.call operation rest)) (by simp)
      obtain ⟨_, queue, _, silent⟩ := perform_plain ctx operationPlain
      rw [silent]
      constructor <;> simp [Action.drained, Action.entered, Action.handled, Action.given, queue]
  | drained empty =>
      constructor <;> simp [Action.drained, Action.entered, Action.handled, Action.given, empty]
  | drainHandled waiting _ slot =>
      obtain ⟨_, _, outermost, _⟩ := served.of_drainLoop
      constructor <;> simp_all [Action.drained, Action.entered, Action.handled, Action.given]
  | drainLost _ _ empty =>
      obtain ⟨none, _⟩ := served.of_drainLoop
      simp [empty] at none
  | syncReturn | drainReturn =>
      rw [restoreApp_eq]
      constructor <;> simp [Action.drained, Action.entered, Action.handled, Action.given]

/-! ### Termination -/

def Body.weight : Body App → Nat
  | .done => 1
  | .withDepth inner rest => inner.weight + rest.weight + 3
  | .enqueue _ rest | .dispatchSync _ rest | .call _ rest => rest.weight + 1

def Frame.weight : Frame App → Nat
  | .body code => code.weight
  | .depthExit => 2
  | .syncReturn _ | .drainLoop | .drainReturn _ => 1

def stackWeight : List (Frame App) → Nat
  | [] => 0
  | frame :: stack => frame.weight + stackWeight stack

/-- A step that hands no event to the handler shrinks the stack. -/
private theorem Transition.weight {m next : Machine App} {action : Action}
    (transition : Transition handle m action next) (orderly : m.Orderly)
    (idle : action.handled = none) : stackWeight next.stack < stackWeight m.stack := by
  obtain ⟨served, running, _, _⟩ := orderly
  cases transition with
  | dispatchHandled | drainHandled => cases idle
  | discard _ down => exact absurd (down.symm.trans running) (by decide)
  | drainLost _ _ empty =>
      obtain ⟨none, _⟩ := served.of_drainLoop
      simp [empty] at none
  | _ =>
      simp only [stackWeight, Frame.weight, Body.weight]
      omega

/-! ### Runs -/

theorem filterMap_snoc (select : Action → Option Event) (actions : List Action)
    (action : Action) :
    (actions ++ [action]).filterMap select =
      actions.filterMap select ++ (select action).toList := by
  rw [List.filterMap_append]
  cases found : select action with
  | none => simp [found]
  | some ev => simp [found]

/-- What holds at every state of a run, between its actions and the queue. -/
structure Ledger (actions : List Action) (m : Machine App) : Prop where
  orderly : m.Orderly
  order : actions.filterMap Action.drained ++ m.ctx.queue = actions.filterMap Action.entered
  balance : (actions.filterMap Action.handled ++ m.ctx.queue).Perm
    (actions.filterMap Action.given)

theorem Ledger.snoc {actions : List Action} {m next : Machine App} {action : Action}
    (handlerPlain : ∀ app ev, (handle app ev).2.Plain) (ledger : Ledger actions m)
    (moved : Machine.Step handle m action next) : Ledger (actions ++ [action]) next := by
  have transition := Machine.step_transition moved
  have accounts := transition.accounts ledger.orderly
  refine ⟨transition.orderly handlerPlain ledger.orderly, ?_, ?_⟩
  · rw [filterMap_snoc, filterMap_snoc, List.append_assoc, accounts.order,
      ← List.append_assoc, ledger.order]
  · rw [filterMap_snoc, filterMap_snoc, List.append_assoc]
    have moved := accounts.balance.append_left (actions.filterMap Action.handled)
    rw [← List.append_assoc] at moved
    rw [← List.append_assoc (actions.filterMap Action.handled) m.ctx.queue] at moved
    rw [← List.append_assoc]
    exact moved.trans (ledger.balance.append_right _)

/-- The context before an entry from C, with an app installed. -/
structure Ctx.Idle (ctx : Ctx App) : Prop where
  app : ctx.app.isSome
  depth : ctx.depth = 0
  draining : ctx.draining = false
  running : ctx.shuttingDown = false
  queue : ctx.queue = []

/-- The entries from C, one after the other, on a context. -/
abbrev Machine.start (ctx : Ctx App) (bodies : List (Body App)) : Machine App :=
  ⟨ctx, [.body (entries bodies)]⟩

private theorem Ctx.Idle.ledger {ctx : Ctx App} (idle : ctx.Idle) {bodies : List (Body App)}
    (plain : ∀ body ∈ bodies, body.Plain) : Ledger [] (Machine.start ctx bodies) := by
  have free : ctx.app.isNone = false := by
    cases slot : ctx.app with
    | none => simpa [slot] using idle.app
    | some app => rfl
  refine ⟨⟨?_, idle.running, ?_, fun _ _ => idle.queue⟩, idle.queue, ?_⟩
  · simp only [free, idle.draining, idle.depth]
    exact .entries bodies
  · intro frame member
    obtain rfl := List.mem_singleton.mp member
    exact entries_plain plain
  · simp [idle.queue]

theorem Ledger.run {start m : Machine App} {actions : List Action}
    (handlerPlain : ∀ app ev, (handle app ev).2.Plain) (ledger : Ledger [] start)
    (run : Run (Machine.Step handle) start actions m) : Ledger actions m := by
  induction run with
  | nil => exact ledger
  | snoc _ moved ih => exact ih.snoc handlerPlain moved

/-- With finitely many events given, the entries come to their end. -/
private theorem Ledger.finishes {start : Machine App} {bound : Nat}
    (handlerPlain : ∀ app ev, (handle app ev).2.Plain) (ledger : Ledger [] start)
    (finite : ∀ actions m, Run (Machine.Step handle) start actions m →
      (actions.filterMap Action.given).length ≤ bound) :
    ∃ actions final, Run (Machine.Step handle) start actions final ∧ final.stack = [] := by
  have ended := @exists_stuck _ _ (Machine.step handle) _ _
    (Prod.lex ⟨_, wellFounded_lt⟩ ⟨_, wellFounded_lt⟩).wf
    (fun actions m =>
      (bound - (actions.filterMap Action.handled).length, stackWeight m.stack)) start ?_
  · obtain ⟨actions, final, run, stuck⟩ := ended
    exact ⟨actions, final, run, Machine.step_eq_none stuck⟩
  · intro actions m action next run moved
    have here := ledger.run handlerPlain run
    have transition := Machine.step_transition moved
    rw [filterMap_snoc]
    cases served : action.handled with
    | none =>
        simp only [Option.toList_none, List.append_nil]
        exact .right _ (transition.weight here.orderly served)
    | some ev =>
        apply Prod.Lex.left
        have after := (here.snoc handlerPlain moved).balance.length_eq
        have limit := finite _ _ (run.snoc moved)
        rw [filterMap_snoc, served] at after
        simp only [Option.toList_some, List.length_append, List.length_singleton] at after ⊢
        omega

namespace Machine.Orderly

variable {m : Machine App}

/-- The app is in its slot exactly when no handler is on the stack. -/
private theorem app_isSome_iff (orderly : m.Orderly) :
    m.ctx.app.isSome ↔ m.stack.countP Frame.isHandler = 0 := by
  rw [orderly.served.countP_handler]
  cases m.ctx.app with
  | none => simp
  | some app => simp

/-- Between two entries nothing waits and the app is in its slot. -/
theorem settled (orderly : m.Orderly)
    (between : m.stack = [] ∨ ∃ bodies, m.stack = [.body (entries bodies)]) :
    m.ctx.queue = [] ∧ m.ctx.app.isSome := by
  rw [orderly.app_isSome_iff]
  rcases between with shape | ⟨bodies, shape⟩
  · have served := orderly.served
    rw [shape] at served ⊢
    obtain ⟨_, outside, outermost⟩ := served.of_nil
    exact ⟨orderly.idle outside outermost, rfl⟩
  · have served := orderly.served
    rw [shape] at served ⊢
    obtain ⟨_, outside, outermost⟩ := served.of_entries
    exact ⟨orderly.idle outside outermost, rfl⟩

/-- An event dispatched while the app is in its slot is handled at once, and
the app is back when `dispatch_sync` returns. -/
private theorem dispatch_handled (orderly : m.Orderly) {ev : Event} {rest : Body App}
    {stack : List (Frame App)} (shape : m.stack = .body (.dispatchSync ev rest) :: stack)
    (free : m.ctx.app.isSome) {later : List Action} {after : Machine App}
    (run : Run (Machine.Step handle) m later after) (afterOrderly : after.Orderly)
    (returned : after.stack = .body rest :: stack) :
    (∃ tail, later = .handledSync ev :: tail) ∧ after.ctx.app.isSome := by
  obtain ⟨ctx, frames⟩ := m
  simp only at shape free
  subst shape
  obtain ⟨app, slot⟩ := Option.isSome_iff_exists.mp free
  constructor
  · rcases run.uncons with ⟨_, rfl⟩ | ⟨action, tail, middle, rfl, moved, _⟩
    · have same := congrArg stackWeight returned
      simp only [stackWeight, Frame.weight, Body.weight] at same
      omega
    · generalize start : (⟨ctx, .body (.dispatchSync ev rest) :: stack⟩ : Machine App) = m
        at moved
      cases Machine.step_transition moved with
      | dispatchHandled => 
          cases start
          exact ⟨tail, rfl⟩
      | dispatchDeferred _ empty =>
          cases start
          rw [slot] at empty
          cases empty
      | dispatchRefused down =>
          cases start
          exact absurd (down.symm.trans orderly.running) (by decide)
      | _ => cases start
  · have before := orderly.app_isSome_iff.mp free
    rw [afterOrderly.app_isSome_iff, returned]
    exact before

/-- An event dispatched while a handler runs enters the queue. -/
private theorem dispatch_deferred (orderly : m.Orderly) {ev : Event} {rest : Body App}
    {stack : List (Frame App)} (shape : m.stack = .body (.dispatchSync ev rest) :: stack)
    (busy : stack.any Frame.isHandler) :
    ∃ next, Machine.Step handle m (.deferred ev) next ∧
      next.stack = .body rest :: stack ∧ next.ctx.queue = m.ctx.queue ++ [ev] := by
  obtain ⟨ctx, frames⟩ := m
  simp only at shape
  subst shape
  have running : ctx.shuttingDown = false := orderly.running
  have empty : ctx.app = none := by
    cases slot : ctx.app with
    | none => rfl
    | some app =>
        have free := orderly.app_isSome_iff.mp (by simp [slot])
        obtain ⟨frame, member, isHandler⟩ := List.any_eq_true.mp busy
        have none := List.countP_eq_zero.mp free frame (List.mem_cons_of_mem _ member)
        exact absurd isHandler none
  refine ⟨⟨{ ctx with queue := ctx.queue ++ [ev] }, .body rest :: stack⟩, ?_, rfl, rfl⟩
  simp [Moves, Machine.step, Machine.dispatchSyncCall, Machine.enqueueCall, Ctx.enqueue,
    running, empty]

end Machine.Orderly

/-- Event dispatch is exactly-once and first-in first-out. -/
theorem dispatch_exactlyOnce (handle : Handler App) (ctx : Ctx App)
    (bodies : List (Body App)) (bound : Nat)
    (handlerPlain : ∀ app ev, (handle app ev).2.Plain)
    (plain : ∀ body ∈ bodies, body.Plain) (idle : ctx.Idle)
    (finite : ∀ actions m, Run (Machine.Step handle) (.start ctx bodies) actions m →
      (actions.filterMap Action.given).length ≤ bound) :
    (∃ actions final, Run (Machine.Step handle) (.start ctx bodies) actions final ∧
      final.stack = [] ∧ final.ctx.queue = [] ∧ final.ctx.app.isSome ∧
      (actions.filterMap Action.handled).Perm (actions.filterMap Action.given) ∧
      actions.filterMap Action.drained = actions.filterMap Action.entered) ∧
    ∀ actions m, Run (Machine.Step handle) (.start ctx bodies) actions m →
      -- each event given is handled or waits, and the queue keeps its order
      (actions.filterMap Action.handled ++ m.ctx.queue).Perm
        (actions.filterMap Action.given) ∧
      actions.filterMap Action.drained ++ m.ctx.queue = actions.filterMap Action.entered ∧
      -- `dispatch_sync` with the app in its slot, and while a handler runs
      (∀ ev rest stack, m.stack = .body (.dispatchSync ev rest) :: stack →
        m.ctx.app.isSome → ∀ later after, Run (Machine.Step handle) m later after →
        after.stack = .body rest :: stack →
        (∃ tail, later = .handledSync ev :: tail) ∧ after.ctx.app.isSome) ∧
      (∀ ev rest stack, m.stack = .body (.dispatchSync ev rest) :: stack →
        stack.any Frame.isHandler → ∃ next, Machine.Step handle m (.deferred ev) next ∧
          next.stack = .body rest :: stack ∧ next.ctx.queue = m.ctx.queue ++ [ev]) ∧
      -- the handler is not re-entered
      m.stack.countP Frame.isHandler ≤ 1 ∧
      (∀ action next ev, Machine.Step handle m action next → action.handled = some ev →
        m.stack.countP Frame.isHandler = 0) ∧
      -- queued events wait for depth zero
      (∀ ev next, Machine.Step handle m (.handledQueued ev) next →
        m.ctx.depth = 0 ∧ .depthExit ∉ m.stack) ∧
      -- what an outermost `with_depth` leaves behind
      (∀ rest, m.stack = [.body (entries rest)] → m.ctx.queue = [] ∧ m.ctx.app.isSome) := by
  have first := idle.ledger plain
  constructor
  · obtain ⟨actions, final, run, ended⟩ := first.finishes handlerPlain finite
    have ledger := first.run handlerPlain run
    obtain ⟨empty, back⟩ := ledger.orderly.settled (.inl ended)
    have balance := ledger.balance
    have order := ledger.order
    rw [empty, List.append_nil] at balance order
    exact ⟨actions, final, run, ended, empty, back, balance, order⟩
  · intro actions m run
    have ledger := first.run handlerPlain run
    have orderly := ledger.orderly
    refine ⟨ledger.balance, ledger.order, ?_, ?_, ?_, ?_, ?_, ?_⟩
    · intro ev rest stack shape free later after laterRun returned
      have afterOrderly := (first.run handlerPlain (run.append laterRun)).orderly
      exact orderly.dispatch_handled shape free laterRun afterOrderly returned
    · intro ev rest stack shape busy
      exact orderly.dispatch_deferred shape busy
    · rw [orderly.served.countP_handler]
      exact Bool.toNat_le _
    · intro action next ev moved handled
      have free := ((Machine.step_transition moved).accounts orderly).free ev handled
      rw [orderly.served.countP_handler, free]
      rfl
    · intro ev next moved
      have outermost := ((Machine.step_transition moved).accounts orderly).outside ev rfl
      exact ⟨outermost, orderly.served.no_depthExit outermost⟩
    · intro rest shape
      exact orderly.settled (.inr ⟨rest, shape⟩)

/-- A handler that queues one event and dispatches another from inside. -/
def chainer : Handler Unit
  | _, .headsChanged =>
      ((), .withDepth (.enqueue .compositorShutdown .done)
        (.dispatchSync .sessionActivated .done))
  | _, _ => ((), .done)

theorem dispatch_exactlyOnce_chained :
    ∃ actions final,
      Run (Machine.Step chainer)
        (.start (Ctx.new.perform (.setApp ()))
          [.enqueue .headsChanged (.dispatchSync .headsChanged .done)]) actions final ∧
      final.stack = [] ∧ final.ctx.queue = [] ∧ final.ctx.app.isSome ∧
      (actions.filterMap Action.handled).Perm (actions.filterMap Action.given) ∧
      actions.filterMap Action.drained = actions.filterMap Action.entered := by
  have plain : ∀ app ev, (chainer app ev).2.Plain := by
    intro app ev
    cases ev <;> simp [chainer, Body.Plain]
  refine (dispatch_exactlyOnce chainer _ _ 8 plain ?_ ?_ ?_).1
  · simp [Body.Plain]
  · exact ⟨rfl, rfl, rfl, rfl, rfl⟩
  · intro actions m run
    have within := @prefix_of_advance _ _ (Machine.step chainer) 40 _ _ _ rfl run
    exact (within.filterMap Action.given).length_le.trans (by decide)

end Westonite.Dispatch
