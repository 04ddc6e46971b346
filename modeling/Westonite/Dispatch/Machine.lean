import Westonite.Events
import Westonite.Library.Deterministic
import Westonite.Library.Vec

/-! The context of the wrapper and its dispatch: nested trampoline frames, the
event queue with its drain, the app slot and the boxes whose release is
deferred. Control is an explicit stack, one frame for each suspended call. -/

set_option autoImplicit false

namespace Westonite.Dispatch

open Library

/-- The identity of one heap allocation. -/
abbrev Box := Nat

/-- Calls into the context that run no handler. -/
inductive Operation (App : Type) where
  | deferDrop
  | ownListener (key : Nat)
  | retireListener (key : Nat)
  | startGrab
  | endGrab (box : Box)
  | setApp (app : App)
  | beginShutdown
  | teardown
  deriving DecidableEq, Repr

/-- What trampolines and handlers do with the context, in program order. -/
inductive Body (App : Type) where
  | done
  | withDepth (inner rest : Body App)
  | enqueue (ev : Event) (rest : Body App)
  | dispatchSync (ev : Event) (rest : Body App)
  | call (operation : Operation App) (rest : Body App)
  deriving DecidableEq, Repr

/-- The app: its state after an event and the calls it makes meanwhile. -/
abbrev Handler (App : Type) := App → Event → App × Body App

/-- `CtxInner`, with the process-wide graveyard and the boxes freed so far. -/
structure Ctx (App : Type) where
  depth : Nat
  draining : Bool
  inSyncHandler : Bool
  shuttingDown : Bool
  queue : List Event
  pendingDrop : List Box
  app : Option App
  listeners : List (Nat × Box)
  activeGrabs : List Box
  graveyard : List Box
  freed : List Box
  nextBox : Box
  deriving DecidableEq, Repr

namespace Ctx

variable {App : Type}

def new : Ctx App where
  depth := 0
  draining := false
  inSyncHandler := false
  shuttingDown := false
  queue := []
  pendingDrop := []
  app := none
  listeners := []
  activeGrabs := []
  graveyard := []
  freed := []
  nextBox := 0

def enqueue (ctx : Ctx App) (ev : Event) : Ctx App :=
  if ctx.shuttingDown then ctx else { ctx with queue := ctx.queue ++ [ev] }

def deferDrop (ctx : Ctx App) (box : Box) : Ctx App :=
  { ctx with pendingDrop := ctx.pendingDrop ++ [box] }

def ownListener (ctx : Ctx App) (key : Nat) : Ctx App :=
  { ctx with
    listeners := ctx.listeners ++ [(key, ctx.nextBox)]
    nextBox := ctx.nextBox + 1 }

/-- The first entry of the key leaves by `swap_remove` and its box waits. -/
def retireListener (ctx : Ctx App) (key : Nat) : Ctx App :=
  match ctx.listeners.findIdx? (fun entry => entry.1 = key) with
  | none => ctx
  | some i =>
      match ctx.listeners[i]? with
      | none => ctx
      | some entry =>
          { ctx with listeners := swapRemove ctx.listeners i }.deferDrop entry.2

def startGrab (ctx : Ctx App) : Ctx App :=
  { ctx with
    activeGrabs := ctx.activeGrabs ++ [ctx.nextBox]
    nextBox := ctx.nextBox + 1 }

/-- The box part of `end_pointer_grab`, `end_touch_grab` and of retiring a
superseded grab. -/
def endGrab (ctx : Ctx App) (box : Box) : Ctx App :=
  match ctx.activeGrabs.findIdx? (fun active => active = box) with
  | none => ctx
  | some i =>
      { ctx with activeGrabs := swapRemove ctx.activeGrabs i }.deferDrop box

/-- Everything the context owns is parked, nothing is dropped. -/
def teardown (ctx : Ctx App) : Ctx App :=
  { ctx with
    shuttingDown := true
    queue := []
    listeners := []
    pendingDrop := []
    activeGrabs := []
    graveyard := ctx.graveyard ++ ctx.listeners.map Prod.snd ++ ctx.pendingDrop ++
      ctx.activeGrabs
    app := none }

def perform (ctx : Ctx App) : Operation App → Ctx App
  | .deferDrop => { ctx with nextBox := ctx.nextBox + 1 }.deferDrop ctx.nextBox
  | .ownListener key => ctx.ownListener key
  | .retireListener key => ctx.retireListener key
  | .startGrab => ctx.startGrab
  | .endGrab box => ctx.endGrab box
  | .setApp app => { ctx with app := some app }
  | .beginShutdown => { ctx with shuttingDown := true }
  | .teardown => ctx.teardown

/-- A handler has returned: the app goes back unless the slot was refilled. -/
def restoreApp (ctx : Ctx App) (app : App) : Ctx App :=
  if ctx.app.isNone then { ctx with app := some app } else ctx

end Ctx

inductive Frame (App : Type) where
  /-- The rest of a trampoline or of a handler. -/
  | body (body : Body App)
  /-- `with_depth` after its closure. -/
  | depthExit
  /-- `dispatch_sync` after the handler. -/
  | syncReturn (app : App)
  /-- The head of the loop of `drain`. -/
  | drainLoop
  /-- The body of that loop after the handler. -/
  | drainReturn (app : App)
  deriving DecidableEq, Repr

/-- What a step does to an event or to the boxes. -/
inductive Action where
  | silent
  | enqueued (ev : Event)
  | deferred (ev : Event)
  | refused (ev : Event)
  | handledSync (ev : Event)
  | handledQueued (ev : Event)
  | discarded (ev : Event)
  | lost (ev : Event)
  | tornDown
  | freed (boxes : List Box)
  deriving DecidableEq, Repr

/-- The action of a call that runs no handler. -/
def Operation.action {App : Type} : Operation App → Action
  | .teardown => .tornDown
  | _ => .silent

structure Machine (App : Type) where
  ctx : Ctx App
  stack : List (Frame App)
  deriving DecidableEq, Repr

namespace Machine

variable {App : Type}

/-- `Ctx::enqueue` from the body on top of `stack`. -/
def enqueueCall (ctx : Ctx App) (ev : Event) (stack : List (Frame App))
    (accepted : Event → Action) : Action × Machine App :=
  (if ctx.shuttingDown then .refused ev else accepted ev,
    { ctx := ctx.enqueue ev, stack })

/-- `Ctx::dispatch_sync` from the body on top of `stack`, release build. -/
def dispatchSyncCall (handle : Handler App) (ctx : Ctx App) (ev : Event)
    (stack : List (Frame App)) : Action × Machine App :=
  if ctx.shuttingDown && ev ≠ .shutdown then
    (.refused ev, { ctx, stack })
  else
    match ctx.app with
    | some app =>
        let (after, body) := handle app ev
        (.handledSync ev,
          { ctx := { ctx with app := none, inSyncHandler := true }
            stack := .body body :: .syncReturn after :: stack })
    | none => enqueueCall ctx ev stack .deferred

/-- One turn of the loop of `drain`. -/
def drainTurn (handle : Handler App) (ctx : Ctx App) (stack : List (Frame App)) :
    Action × Machine App :=
  match ctx.queue with
  | [] =>
      (.freed ctx.pendingDrop,
        { ctx := { ctx with
            draining := false
            pendingDrop := []
            freed := ctx.freed ++ ctx.pendingDrop }
          stack })
  | ev :: queue =>
      if ctx.shuttingDown then
        (.discarded ev, { ctx := { ctx with queue }, stack := .drainLoop :: stack })
      else
        match ctx.app with
        | some app =>
            let (after, body) := handle app ev
            (.handledQueued ev,
              { ctx := { ctx with queue, app := none }
                stack := .body body :: .drainReturn after :: .drainLoop :: stack })
        | none => (.lost ev, { ctx := { ctx with queue }, stack := .drainLoop :: stack })

/-- The end of `with_depth`: the outermost one starts the drain. -/
def leaveDepth (ctx : Ctx App) (stack : List (Frame App)) : Machine App :=
  let depth := ctx.depth - 1
  if depth = 0 && !ctx.draining then
    { ctx := { ctx with depth, draining := true }, stack := .drainLoop :: stack }
  else
    { ctx := { ctx with depth }, stack }

/-- One step of the frame on top of the stack. -/
def step (handle : Handler App) (m : Machine App) : Option (Action × Machine App) :=
  match m.stack with
  | [] => none
  | .body .done :: stack => some (.silent, { m with stack })
  | .body (.withDepth inner rest) :: stack =>
      some (.silent,
        { ctx := { m.ctx with depth := m.ctx.depth + 1 }
          stack := .body inner :: .depthExit :: .body rest :: stack })
  | .body (.enqueue ev rest) :: stack =>
      some (enqueueCall m.ctx ev (.body rest :: stack) .enqueued)
  | .body (.dispatchSync ev rest) :: stack =>
      some (dispatchSyncCall handle m.ctx ev (.body rest :: stack))
  | .body (.call operation rest) :: stack =>
      some (operation.action,
        { ctx := m.ctx.perform operation, stack := .body rest :: stack })
  | .depthExit :: stack => some (.silent, leaveDepth m.ctx stack)
  | .syncReturn app :: stack =>
      some (.silent,
        { ctx := { m.ctx with inSyncHandler := false }.restoreApp app, stack })
  | .drainLoop :: stack => some (drainTurn handle m.ctx stack)
  | .drainReturn app :: stack => some (.silent, { ctx := m.ctx.restoreApp app, stack })

/-- `step` as a relation. -/
abbrev Step (handle : Handler App) : Machine App → Action → Machine App → Prop :=
  Moves (step handle)

end Machine

end Westonite.Dispatch
