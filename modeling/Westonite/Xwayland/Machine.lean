import Mathlib.Data.List.Basic
import Westonite.Library.Run

/-! The Xwayland glue: what the wrapper keeps between the calls of the module, of
the event loop and of the SIGCHLD handler. Every resource is known by the call of
`spawn_xserver` that made it. -/

set_option autoImplicit false

namespace Westonite.Xwayland

open Library

/-- A call of `spawn_xserver`, by its number. -/
abbrev Spawn := Nat

/-- The pid of a child, and the spawn that launched it. -/
structure Server where
  pid : Int
  spawn : Spawn
  deriving DecidableEq, Repr

/-- `displayFdSource` and `displayPipe` are the readiness watch and the read end
it polls. -/
structure XwaylandState where
  pid : Option Server
  wmFd : Option Spawn
  displayFdSource : Option Spawn
  displayPipe : Option Spawn
  deriving DecidableEq, Repr

/-- What the glue does to the world around it, in order. -/
inductive Call where
  | wmOpened (spawn : Spawn)
  | wmClosed (spawn : Spawn)
  | pipeOpened (spawn : Spawn)
  | pipeClosed (spawn : Spawn)
  /-- The spawn succeeds, and its server is the one to watch for. -/
  | tracked (spawn : Spawn)
  | sourceAdded (spawn : Spawn)
  | sourceRemoved (spawn : Spawn)
  /-- A line that ends was read from the pipe. -/
  | lineRead (spawn : Spawn)
  /-- The module takes over the WM socket of the spawn. -/
  | xserverLoaded (spawn : Spawn)
  | xserverExited (spawn : Spawn)
  deriving DecidableEq, Repr

/-- How far a spawn comes: `created` when libwayland takes the client. -/
inductive SpawnOutcome where
  | wlSocketpairFailed
  | wmSocketpairFailed
  | pipeFailed
  | dupFailed
  | launchFailed
  | clientFailed (pid : Int)
  | created (pid : Int) (watched : Bool)
  deriving DecidableEq, Repr

/-- What `read` answers; `again` is `EAGAIN`, and no bytes are an end of file. -/
inductive ReadResult where
  | failed (again : Bool)
  | bytes (chunk : List UInt8)
  deriving DecidableEq, Repr

namespace XwaylandState

def loaded : XwaylandState where
  pid := none
  wmFd := none
  displayFdSource := none
  displayPipe := none

/-- `close_display_watch`. -/
def closeDisplayWatch (st : XwaylandState) : XwaylandState × List Call :=
  ({ st with displayFdSource := none, displayPipe := none },
    st.displayFdSource.toList.map .sourceRemoved ++ st.displayPipe.toList.map .pipeClosed)

/-- `spawn_xserver_body`: whether the module gets a client. -/
def spawnXserverBody (st : XwaylandState) (spawn : Spawn) (outcome : SpawnOutcome) :
    Bool × XwaylandState × List Call :=
  match outcome with
  | .wlSocketpairFailed | .wmSocketpairFailed => (false, st, [])
  | .pipeFailed => (false, st, [.wmOpened spawn, .wmClosed spawn])
  | .dupFailed | .launchFailed | .clientFailed _ =>
      (false, st, [.wmOpened spawn, .pipeOpened spawn, .pipeClosed spawn, .wmClosed spawn])
  | .created pid watched =>
      let replaced := st.wmFd.toList.map .wmClosed
      let st := { st with pid := some ⟨pid, spawn⟩, wmFd := some spawn }
      let (st, closed) := st.closeDisplayWatch
      let source := if watched then some spawn else none
      (true, { st with displayFdSource := source, displayPipe := some spawn },
        [.wmOpened spawn, .pipeOpened spawn, .tracked spawn] ++ replaced ++ closed ++
          source.toList.map .sourceAdded)

/-- The reading half of `display_fd_body`: `none` goes on waiting, otherwise
whether the line is complete. -/
def readDisplayFd (readable : Bool) (read : ReadResult) : Option Bool :=
  if !readable then some false
  else
    match read with
    | .failed again => if again then none else some false
    | .bytes chunk =>
        match chunk.getLast? with
        | none => some false
        | some byte => if byte = 10 then some true else none

/-- `display_fd_body`, called for the watch of `spawn`: whether to call again. -/
def displayFdBody (st : XwaylandState) (spawn : Spawn) (readable : Bool) (read : ReadResult) :
    Bool × XwaylandState × List Call :=
  match readDisplayFd readable read with
  | none => (true, st, [])
  | some complete =>
      let (st, handed) : XwaylandState × List Call :=
        if complete then
          ({ st with wmFd := none }, .lineRead spawn :: st.wmFd.toList.map .xserverLoaded)
        else (st, [])
      let (st, closed) := st.closeDisplayWatch
      (false, st, handed ++ closed)

/-- `handle_child_exit`: whether the child was the server. -/
def handleChildExit (st : XwaylandState) (pid : Int) : Bool × XwaylandState × List Call :=
  match st.pid with
  | none => (false, st, [])
  | some server =>
      if server.pid = pid then (true, { st with pid := none }, [.xserverExited server.spawn])
      else (false, st, [])

/-- `teardown`, of the state that was there. -/
def teardown (st : XwaylandState) : List Call :=
  st.closeDisplayWatch.2 ++ st.wmFd.toList.map .wmClosed ++
    (st.pid.map Server.spawn).toList.map .xserverExited

end XwaylandState

/-- What calls into the glue. The event loop calls for the watch that is installed. -/
inductive Label where
  | spawnXserver (outcome : SpawnOutcome)
  | displayFd (readable : Bool) (read : ReadResult)
  | childExit (pid : Int)
  | teardown
  deriving DecidableEq, Repr

/-- `xwayland` is gone after the teardown. -/
structure Machine where
  xwayland : Option XwaylandState
  spawns : Spawn
  calls : List Call
  deriving DecidableEq, Repr

namespace Machine

/-- The module is loaded and listens. -/
def start : Machine where
  xwayland := some .loaded
  spawns := 0
  calls := []

def server (m : Machine) : Option Server := m.xwayland.bind XwaylandState.pid

def wmFd (m : Machine) : Option Spawn := m.xwayland.bind XwaylandState.wmFd

def displayFdSource (m : Machine) : Option Spawn := m.xwayland.bind XwaylandState.displayFdSource

def displayPipe (m : Machine) : Option Spawn := m.xwayland.bind XwaylandState.displayPipe

def step (m : Machine) (label : Label) : Option Machine :=
  match m.xwayland, label with
  | none, .spawnXserver _ => some { m with spawns := m.spawns + 1 }
  | some st, .spawnXserver outcome =>
      let (_, st, calls) := st.spawnXserverBody m.spawns outcome
      some { xwayland := some st, spawns := m.spawns + 1, calls := m.calls ++ calls }
  | none, .displayFd _ _ => none
  | some st, .displayFd readable read =>
      match st.displayFdSource with
      | none => none
      | some spawn =>
          let (_, st, calls) := st.displayFdBody spawn readable read
          some { m with xwayland := some st, calls := m.calls ++ calls }
  | none, .childExit _ => some m
  | some st, .childExit pid =>
      let (_, st, calls) := st.handleChildExit pid
      some { m with xwayland := some st, calls := m.calls ++ calls }
  | none, .teardown => some m
  | some st, .teardown => some { m with xwayland := none, calls := m.calls ++ st.teardown }

/-- `step` as a relation. -/
def Step (m : Machine) (label : Label) (next : Machine) : Prop := m.step label = some next

end Machine

end Westonite.Xwayland
