import Westonite.Library.AssocMap
import Westonite.Xwayland.Machine

/-! The children of the compositor, between the event loop, the wrapper's slots
and the kernel. The wrapper knows a child by its pid and a client by its address,
and the kernel and the allocator use both again. -/

set_option autoImplicit false

namespace Westonite.Children

open Library Xwayland

/-- The address of a `wl_client`. -/
abbrev Client := Nat

/-- The slots of the wrapper a child is looked for in, in the order of `on_sigchld`. -/
inductive Slot where
  | autolaunch
  | xserver
  | screenshooter
  deriving DecidableEq, Repr

/-- What a child was launched as. -/
inductive Owner where
  | autolaunch (watch : Bool)
  | xserver (spawn : Spawn)
  /-- A server whose `wl_client` never came up. -/
  | orphan
  | screenshooter (exe : String)
  deriving DecidableEq, Repr

def Owner.slot : Owner → Option Slot
  | .autolaunch _ => some .autolaunch
  | .xserver _ => some .xserver
  | .orphan => none
  | .screenshooter _ => some .screenshooter

/-- A child the kernel keeps: `status` is there once it exited and waits to be reaped. -/
structure Process where
  launch : Nat
  owner : Owner
  status : Option Nat
  deriving DecidableEq, Repr

/-- Who made a client: a launch of the screenshooter, or anybody else. -/
inductive Origin where
  | screenshooter (launch : Nat)
  | other
  deriving DecidableEq, Repr

/-- What the wrapper does that others can see, in order. -/
inductive Effect where
  | line (text : String)
  /-- `wl_display_terminate`. -/
  | terminate
  | xwayland (call : Xwayland.Call)
  | answered (who : Option Client) (authorized : Bool)
  | recorderStarted (output recorder : Nat)
  | recorderStopped (recorder : Nat)
  deriving DecidableEq, Repr

/-- `clientDestroy` is the client whose destroy list the one listener is on. -/
structure ScreenshooterState where
  client : Option Client
  clientDestroy : Option Client
  recorder : Option Nat
  pid : Option Int
  exe : Option String
  deriving DecidableEq, Repr

/-- How far a press of Super+S comes. -/
inductive ShotOutcome where
  | noPath
  | socketpairFailed (exe : String)
  | launchFailed (exe error : String)
  | clientFailed (exe : String) (pid : Int)
  | started (exe : String) (pid : Int) (client : Client)
  deriving DecidableEq, Repr

/-! ### The texts of an exit -/

def wifexited (status : Nat) : Bool := status % 128 = 0

def wexitstatus (status : Nat) : Nat := status / 256 % 256

def wifsignaled (status : Nat) : Bool := 0 < status % 128 && status % 128 < 127

def wtermsig (status : Nat) : Nat := status % 128

/-- `log_child_exit`. -/
def logChildExit (path : String) (status : Nat) : Effect :=
  .line <|
    if wifexited status then path ++ " exited with status " ++ toString (wexitstatus status)
    else if wifsignaled status then path ++ " died on signal " ++ toString (wtermsig status)
    else path ++ " disappeared"

/-! ### The screenshooter -/

namespace ScreenshooterState

/-- `create`. -/
def create : ScreenshooterState where
  client := none
  clientDestroy := none
  recorder := none
  pid := none
  exe := none

/-- `screenshooter_binding_body`. -/
def bindingBody (st : ScreenshooterState) (outcome : ShotOutcome) :
    ScreenshooterState × List Effect :=
  if st.client.isSome then (st, [])
  else
    match outcome with
    | .noPath => (st, [.line "Could not construct screenshooter path."])
    | .socketpairFailed exe =>
        (st, [.line ("wet_client_start: socketpair failed while launching '" ++ exe ++ "'")])
    | .launchFailed exe error =>
        (st, [.line ("launching '" ++ exe ++ "'"),
          .line ("Error: Couldn't launch client '" ++ exe ++ "': " ++ error)])
    | .clientFailed exe pid =>
        ({ st with pid := some pid, exe := some exe },
          [.line ("launching '" ++ exe ++ "'"),
            .line ("wet_client_start: wl_client_create failed while launching '" ++ exe ++ "'.")])
    | .started exe pid client =>
        ({ st with
            pid := some pid, exe := some exe, client := some client, clientDestroy := some client },
          [.line ("launching '" ++ exe ++ "'")])

/-- The `client_destroy` listener: the oneshot takes itself off the dying list. -/
def clientDestroyed (st : ScreenshooterState) (client : Client) : ScreenshooterState :=
  if st.clientDestroy = some client then { st with clientDestroy := none, client := none } else st

/-- The authority listener, for the client that asks. -/
def authorize (st : ScreenshooterState) (who : Option Client) (authorized : Bool) : Bool :=
  match st.client, who with
  | some client, some asking => authorized || asking = client
  | _, _ => authorized

/-- `recorder_binding_body`: `focus` is the output of the keyboard's focus. -/
def recorderBindingBody (st : ScreenshooterState) (focus : Option Nat) (outputs : List Nat)
    (started : Option Nat) : ScreenshooterState × List Effect :=
  match st.recorder with
  | some recorder => ({ st with recorder := none }, [.recorderStopped recorder])
  | none =>
      match focus.or outputs.head? with
      | none => (st, [.line "westonite: no output to record"])
      | some output =>
          ({ st with recorder := started }, started.toList.map (.recorderStarted output))

/-- `handle_child_exit`: whether the child was the screenshooter. -/
def handleChildExit (st : ScreenshooterState) (pid : Int) (status : Nat) :
    Bool × ScreenshooterState × List Effect :=
  if st.pid = some pid then
    (true, { st with pid := none }, st.exe.toList.map (logChildExit · status))
  else (false, st, [])

end ScreenshooterState

/-! ### The machine -/

/-- What the event loop and the world outside do. `exits` is the kernel's, and so is
the `order` in which `waitpid` gives the children that wait. -/
inductive Label where
  | autolaunch (pid : Int) (watch : Bool)
  | spawnXserver (outcome : SpawnOutcome)
  | displayFd (readable : Bool) (read : ReadResult)
  | superS (outcome : ShotOutcome)
  | superR (focus : Option Nat) (outputs : List Nat) (started : Option Nat)
  | connects (client : Client)
  | clientDies (client : Client)
  | attempts (who : Option Client) (authorized : Bool)
  | exits (pid : Int) (status : Nat)
  | sigchld (order : List Int)
  | teardown
  deriving DecidableEq, Repr

/-- `launched` lists what every child was launched as, the oldest first; `running`
ends with the teardown. -/
structure Machine where
  xserverPath : String
  running : Bool
  autolaunch : Option (Int × Bool)
  xwayland : Xwayland.Machine
  screenshooter : ScreenshooterState
  processes : AssocMap Int Process
  launched : List Owner
  clients : AssocMap Client Origin
  effects : List Effect

namespace Machine

/-- Xwayland may not be asked for. -/
def start (loaded : Bool) (xserverPath : String) : Machine where
  xserverPath := xserverPath
  running := true
  autolaunch := none
  xwayland := if loaded then .start else { Xwayland.Machine.start with xwayland := none }
  screenshooter := .create
  processes := ∅
  launched := []
  clients := ∅
  effects := []

/-- One more child. -/
def forked (m : Machine) (pid : Int) (owner : Owner) : Machine :=
  { m with
    processes := m.processes.insert pid ⟨m.launched.length, owner, none⟩
    launched := m.launched ++ [owner] }

/-- A child is launched, under a pid no other child has. -/
def fork (m : Machine) (pid : Int) (owner : Owner) : Option Machine :=
  if (m.processes.lookup pid).isNone then some (m.forked pid owner) else none

/-- A client comes up, at an address no other client has. -/
def connect (m : Machine) (client : Client) (origin : Origin) : Option Machine :=
  if (m.clients.lookup client).isNone then
    some { m with clients := m.clients.insert client origin }
  else none

/-- A call into the Xwayland glue. -/
def callXwayland (m : Machine) (label : Xwayland.Label) : Option Machine :=
  (m.xwayland.step label).map fun after =>
    { m with
      xwayland := after
      effects := m.effects ++ (after.calls.drop m.xwayland.calls.length).map .xwayland }

/-- `spawn_xserver_body`, with the child it launches. -/
def spawnXserver (m : Machine) (outcome : SpawnOutcome) : Option Machine :=
  let forked :=
    match m.xwayland.xwayland, outcome with
    | some _, .clientFailed pid => m.fork pid .orphan
    | some _, .created pid _ => m.fork pid (.xserver m.xwayland.spawns)
    | _, _ => some m
  forked.bind (·.callXwayland (.spawnXserver outcome))

/-- `screenshooter_binding_body`, with the child and the client it makes. -/
def superS (m : Machine) (outcome : ShotOutcome) : Option Machine :=
  let (st, effects) := m.screenshooter.bindingBody outcome
  let called := { m with screenshooter := st, effects := m.effects ++ effects }
  if m.screenshooter.client.isSome then some called
  else
    match outcome with
    | .clientFailed exe pid => called.fork pid (.screenshooter exe)
    | .started exe pid client =>
        (called.fork pid (.screenshooter exe)).bind
          (·.connect client (.screenshooter m.launched.length))
    | _ => some called

/-- The rest of the loop body of `on_sigchld`, for a child that was not autolaunched. -/
def handleChildExit (m : Machine) (pid : Int) (status : Nat) : Machine :=
  match m.xwayland.xwayland.map (·.handleChildExit pid) with
  | some (true, xst, calls) =>
      { m with
        xwayland := { m.xwayland with xwayland := some xst, calls := m.xwayland.calls ++ calls }
        effects := m.effects ++ logChildExit m.xserverPath status :: calls.map .xwayland }
  | _ =>
      let (_, st, effects) := m.screenshooter.handleChildExit pid status
      { m with screenshooter := st, effects := m.effects ++ effects }

/-- One turn of the loop of `on_sigchld`, for the child `waitpid` gave. -/
def reap (m : Machine) (pid : Int) (status : Nat) : Machine :=
  let m := { m with processes := m.processes.erase pid }
  match m.autolaunch with
  | some (watched, watch) =>
      if pid = watched then
        { m with
          autolaunch := none
          effects := m.effects ++
            if watch then
              [.line "westonite: autolaunched client exited, terminating", .terminate]
            else [] }
      else m.handleChildExit pid status
  | none => m.handleChildExit pid status

/-- Nothing is left for `waitpid` to give. -/
def allReaped (m : Machine) : Bool :=
  m.processes.entries.all fun entry => entry.2.status.isNone

/-- `on_sigchld`, until `waitpid` gives no more. -/
def onSigchld (m : Machine) : List Int → Option Machine
  | [] => if m.allReaped then some m else none
  | pid :: order =>
      match m.processes.lookup pid with
      | some ⟨_, _, some status⟩ => (m.reap pid status).onSigchld order
      | _ => none

/-- What a live event loop dispatches. -/
def dispatch (m : Machine) : Label → Option Machine
  | .autolaunch pid watch =>
      (m.fork pid (.autolaunch watch)).map ({ · with autolaunch := some (pid, watch) })
  | .spawnXserver outcome => m.spawnXserver outcome
  | .displayFd readable read => m.callXwayland (.displayFd readable read)
  | .superS outcome => m.superS outcome
  | .superR focus outputs started =>
      let (st, effects) := m.screenshooter.recorderBindingBody focus outputs started
      some { m with screenshooter := st, effects := m.effects ++ effects }
  | .connects client => m.connect client .other
  | .clientDies client =>
      if (m.clients.lookup client).isSome then
        some { m with
          clients := m.clients.erase client
          screenshooter := m.screenshooter.clientDestroyed client }
      else none
  | .attempts who authorized =>
      if who.all fun client => (m.clients.lookup client).isSome then
        some { m with
          effects := m.effects ++
            [.answered who (m.screenshooter.authorize who authorized)] }
      else none
  | .exits _ _ => none
  | .sigchld order => m.onSigchld order
  | .teardown =>
      (m.callXwayland .teardown).map fun m =>
        { m with running := false, screenshooter := { m.screenshooter with clientDestroy := none } }

def step (m : Machine) (label : Label) : Option Machine :=
  match label with
  | .exits pid status =>
      match m.processes.lookup pid with
      | some ⟨launch, owner, none⟩ =>
          some { m with processes := m.processes.insert pid ⟨launch, owner, some status⟩ }
      | _ => none
  | _ => if m.running then m.dispatch label else none

/-- `step` as a relation. -/
def Step (m : Machine) (label : Label) (next : Machine) : Prop := m.step label = some next

end Machine

end Westonite.Children
