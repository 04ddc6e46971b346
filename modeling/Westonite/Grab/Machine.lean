import Mathlib.Logic.Function.Basic
import Westonite.Events
import Westonite.Library.AssocMap
import Westonite.Library.Run
import Westonite.Library.Vec

/-! The grabs of the wrapper. Libweston calls back from inside several calls of
the wrapper; such a call is an operation left to do, and while `callbacks` is the
next one libweston may call back any number of times. -/

set_option autoImplicit false

namespace Westonite.Grab

open Library

/-- A desktop client of libweston. -/
abbrev ClientId := Nat

/-- The allocation of one grab box. -/
abbrev GrabId := Nat

inductive Device where
  | pointer (seat : SeatId)
  | touch (seat : SeatId)
  deriving DecidableEq, Repr

def Device.seat : Device → SeatId
  | .pointer seat => seat
  | .touch seat => seat

/-- The kinds of a pointer grab, and the one kind of a touch grab. -/
inductive GrabKind where
  | move
  | resize
  | busy
  | touchMove
  deriving DecidableEq, Repr

/-- `PointerGrabInner` and `TouchGrabInner`; `device` is the pointer or touch
libweston writes into the raw grab. -/
structure GrabInner where
  device : Device
  kind : GrabKind
  surface : DesktopSurfaceId
  delta : Coord × Coord
  edges : Nat
  startW : Int
  startH : Int
  active : Bool
  ended : Bool
  deriving DecidableEq, Repr

/-- The grab state of a `SurfaceRec`. -/
structure SurfaceRec where
  grabbed : Bool
  resizeEdges : Nat
  unresponsive : Bool
  deriving DecidableEq, Repr

/-- The view a pointer or touch is on: its surface, and the main surface of that. -/
structure Focus where
  surface : Option DesktopSurfaceId
  main : Option DesktopSurfaceId
  deriving DecidableEq, Repr

/-- What the wrapper reads of a `weston_pointer` or `weston_touch`. `current` is
`none` for a grab that is not ours. -/
structure DeviceState where
  plugged : Bool
  current : Option GrabId
  focus : Option Focus
  /-- `button_count`, or `num_tp` of a touch. -/
  downCount : Nat
  grabSerial : Nat
  grabPos : Coord × Coord
  deriving DecidableEq, Repr

def DeviceState.absent : DeviceState where
  plugged := false
  current := none
  focus := none
  downCount := 0
  grabSerial := 0
  grabPos := (0, 0)

structure Wrapper where
  boxes : GrabId → Option GrabInner
  nextBox : GrabId
  activeGrabs : List GrabId
  pendingDrop : List GrabId
  freed : List GrabId
  recs : AssocMap DesktopSurfaceId SurfaceRec
  /-- The registered desktop surfaces, with the last `set_resizing`. -/
  desktopSurfaces : AssocMap DesktopSurfaceId Bool
  seats : List SeatId
  devices : Device → DeviceState
  queue : List Event
  /-- The clients whose ping timed out and whose pong has not come. -/
  waiting : List ClientId
  /-- For the record: the events that left the queue, and the boxes that went
  through `end_*_grab` and through `retire_superseded_pointer_grab`. -/
  handled : List Event
  endedGrabs : List GrabId
  retiredGrabs : List GrabId

/-- What is left to do of the calls in progress. -/
inductive Op where
  /-- Libweston may call back. -/
  | callbacks
  /-- The start of a grab after `weston_seat_break_desktop_grabs`. -/
  | handOver (box : GrabId)
  /-- The focus callback of a grab that just started. -/
  | startFocus (seat : SeatId)
  /-- The end of `set_busy_cursor`. -/
  | ungrab (surface : DesktopSurfaceId)
  /-- The end of a grab after libweston has ended it. -/
  | takeOut (box : GrabId)
  deriving DecidableEq, Repr

namespace Wrapper

def new : Wrapper where
  boxes _ := none
  nextBox := 0
  activeGrabs := []
  pendingDrop := []
  freed := []
  recs := ∅
  desktopSurfaces := ∅
  seats := []
  devices _ := .absent
  queue := []
  waiting := []
  handled := []
  endedGrabs := []
  retiredGrabs := []

def setDevice (w : Wrapper) (device : Device) (change : DeviceState → DeviceState) : Wrapper :=
  { w with devices := Function.update w.devices device (change (w.devices device)) }

def setCurrent (w : Wrapper) (device : Device) (current : Option GrabId) : Wrapper :=
  w.setDevice device fun state => { state with current }

def setRec (w : Wrapper) (surface : DesktopSurfaceId) (change : SurfaceRec → SurfaceRec) :
    Wrapper :=
  { w with recs := w.recs.modify surface change }

/-- `weston_desktop_surface_set_resizing`, on a surface that resolves. -/
def setResizing (w : Wrapper) (surface : DesktopSurfaceId) (resizing : Bool) : Wrapper :=
  { w with desktopSurfaces := w.desktopSurfaces.modify surface fun _ => resizing }

def setBox (w : Wrapper) (box : GrabId) (inner : GrabInner) : Wrapper :=
  { w with boxes := Function.update w.boxes box (some inner) }

def known (w : Wrapper) (surface : DesktopSurfaceId) : Bool :=
  (w.desktopSurfaces.lookup surface).isSome

/-- The grab of ours that is current on a device. -/
def currentInner (w : Wrapper) (device : Device) : Option (GrabId × GrabInner) :=
  (w.devices device).current.bind fun box => (w.boxes box).map fun inner => (box, inner)

/-! ### Ending -/

def clearSurfaceGrabFlags (w : Wrapper) (surface : DesktopSurfaceId) : Wrapper :=
  w.setRec surface fun rec => { rec with grabbed := false, resizeEdges := 0 }

/-- The box leaves `active_grabs` by `swap_remove` and waits to be dropped. -/
def leaveActive (w : Wrapper) (box : GrabId) : Wrapper :=
  match w.activeGrabs.findIdx? (fun active => active = box) with
  | none => w
  | some i =>
      { w with
        activeGrabs := swapRemove w.activeGrabs i
        pendingDrop := w.pendingDrop ++ [box] }

/-- The flag is set, the surface is released and libweston returns to the
default grab. -/
def release (w : Wrapper) (box : GrabId) (inner : GrabInner) : Wrapper :=
  let w := w.setBox box { inner with ended := true }
  let w := w.clearSurfaceGrabFlags inner.surface
  let w := w.setCurrent inner.device none
  { w with endedGrabs := w.endedGrabs ++ [box] }

/-- `end_pointer_grab` and `end_touch_grab`; the default grab of a pointer
focuses anew before the box is taken out. -/
def endGrab (w : Wrapper) (box : GrabId) : Wrapper × List Op :=
  match w.boxes box with
  | none => (w, [])
  | some inner =>
      if inner.ended then (w, [])
      else
        match inner.device with
        | .pointer _ => (w.release box inner, [.callbacks, .takeOut box])
        | .touch _ => (w.release box inner, [.takeOut box])

/-- The rest of `end_pointer_grab` and `end_touch_grab`. -/
def takeOut (w : Wrapper) (box : GrabId) : Wrapper :=
  match w.boxes box with
  | none => w
  | some inner =>
      let w := w.leaveActive box
      { w with queue := w.queue ++ [.grabEnded inner.surface] }

def retireSupersededPointerGrab (w : Wrapper) (box : GrabId) : Wrapper :=
  match w.boxes box with
  | none => w
  | some inner =>
      if inner.ended then w
      else
        let w := w.setBox box { inner with ended := true }
        let w := w.leaveActive box
        { w with retiredGrabs := w.retiredGrabs ++ [box] }

def resizeFinish (w : Wrapper) (box : GrabId) (inner : GrabInner) : Wrapper × List Op :=
  (w.setResizing inner.surface false).endGrab box

/-! ### Starting -/

/-- `start_pointer_grab` and `start_touch_grab` up to the end of
`weston_seat_break_desktop_grabs`. -/
def startGrab (w : Wrapper) (inner : GrabInner) : Wrapper × List Op :=
  ({ w.setBox w.nextBox inner with nextBox := w.nextBox + 1 },
    [.callbacks, .handOver w.nextBox])

/-- The surface is marked, the box is owned, and libweston makes it the current
grab without a word to the one before. -/
def install (w : Wrapper) (box : GrabId) (inner : GrabInner) : Wrapper :=
  let w := w.setRec inner.surface fun rec => { rec with grabbed := true }
  let w := { w with activeGrabs := w.activeGrabs ++ [box] }
  w.setCurrent inner.device (some box)

/-- The rest of `start_pointer_grab` and `start_touch_grab`. -/
def handOver (w : Wrapper) (box : GrabId) : Wrapper × List Op :=
  match w.boxes box with
  | none => (w, [])
  | some inner =>
      match inner.device with
      | .pointer seat => (w.install box inner, [.startFocus seat])
      | .touch _ => (w.install box inner, [])

def pointerGrab (kind : GrabKind) (surface : DesktopSurfaceId) (seat : SeatId)
    (delta : Coord × Coord) (edges : Nat) (startW startH : Int) : GrabInner where
  device := .pointer seat
  kind := kind
  surface := surface
  delta := delta
  edges := edges
  startW := startW
  startH := startH
  active := true
  ended := false

def touchGrab (surface : DesktopSurfaceId) (seat : SeatId) (delta : Coord × Coord) : GrabInner where
  device := .touch seat
  kind := .touchMove
  surface := surface
  delta := delta
  edges := 0
  startW := 0
  startH := 0
  active := true
  ended := false

/-- Whether a request on a surface may grab a device that focuses it. -/
def DeviceState.grants (state : DeviceState) (serial : Nat) : Bool :=
  state.plugged && state.focus.isSome && state.grabSerial == serial

def DeviceState.onMain (state : DeviceState) (surface : DesktopSurfaceId) : Bool :=
  state.focus.any fun focus => focus.main == some surface

def handleMoveRequest (w : Wrapper) (surface : DesktopSurfaceId) (seat : SeatId) (serial : Nat)
    (viewPos : Coord × Coord) : Wrapper × List Op :=
  match w.recs.lookup surface with
  | none => (w, [])
  | some rec =>
      let pointer := w.devices (.pointer seat)
      let touch := w.devices (.touch seat)
      if DeviceState.grants pointer serial && pointer.downCount > 0 then
        if !DeviceState.onMain pointer surface then (w, [])
        else if rec.grabbed then (w, [])
        else
          let delta := (viewPos.1 - pointer.grabPos.1, viewPos.2 - pointer.grabPos.2)
          w.startGrab (pointerGrab .move surface seat delta 0 0 0)
      else if DeviceState.grants touch serial then
        if !DeviceState.onMain touch surface then (w, [])
        else
          let delta := (viewPos.1 - touch.grabPos.1, viewPos.2 - touch.grabPos.2)
          w.startGrab (touchGrab surface seat delta)
      else (w, [])

/-- Top and bottom, or left and right, or bits outside the four edges. -/
def invalidEdges (edges : Nat) : Bool :=
  edges == 0 || edges > 15 || edges &&& 3 == 3 || edges &&& 12 == 12

def handleResizeRequest (w : Wrapper) (surface : DesktopSurfaceId) (seat : SeatId) (serial : Nat)
    (edges : Nat) (geometry : Int × Int) : Wrapper × List Op :=
  match w.recs.lookup surface with
  | none => (w, [])
  | some rec =>
      let pointer := w.devices (.pointer seat)
      if !w.known surface then (w, [])
      else if !(DeviceState.grants pointer serial) || pointer.downCount == 0 then (w, [])
      else if !(DeviceState.onMain pointer surface) then (w, [])
      else if rec.grabbed then (w, [])
      else if invalidEdges edges then (w, [])
      else
        let w := w.setRec surface fun rec => { rec with resizeEdges := edges }
        let w := w.setResizing surface true
        w.startGrab (pointerGrab .resize surface seat (0, 0) edges geometry.1 geometry.2)

def alreadyBusy (w : Wrapper) (seat : SeatId) : Bool :=
  (w.currentInner (.pointer seat)).any fun grab => grab.2.kind == .busy

def setBusyCursor (w : Wrapper) (surface : DesktopSurfaceId) (seat : SeatId) : Wrapper × List Op :=
  if seat ∉ w.seats ∨ !(w.devices (.pointer seat)).plugged then (w, [])
  else if w.alreadyBusy seat || (w.recs.lookup surface).isNone then (w, [])
  else
    let (w, ops) := w.startGrab (pointerGrab .busy surface seat (0, 0) 0 0 0)
    (w, ops ++ [.ungrab surface])

/-! ### Callbacks -/

def onPointerFocus (w : Wrapper) (seat : SeatId) (focus : Option Focus) : Wrapper × List Op :=
  match focus.bind Focus.surface with
  | none => (w, [])
  | some surface =>
      if !w.known surface then (w, [])
      else
        match w.recs.lookup surface with
        | none => (w, [])
        | some rec =>
            if rec.unresponsive && decide (seat ∈ w.seats) then w.setBusyCursor surface seat
            else (w, [])

/-- The focus callback of the current grab; `picked` is the desktop surface of
the view under the pointer. -/
def grabFocus (w : Wrapper) (seat : SeatId) (picked : Option DesktopSurfaceId) :
    Wrapper × List Op :=
  match w.currentInner (.pointer seat) with
  | none => (w, [])
  | some (box, inner) =>
      match inner.kind with
      | .busy =>
          if picked ≠ some inner.surface ∨ (w.recs.lookup inner.surface).isNone then w.endGrab box
          else (w, [])
      | .move | .resize | .touchMove => (w, [])

def grabButton (w : Wrapper) (seat : SeatId) (button : Nat) (pressed : Bool) :
    Wrapper × List Op :=
  match w.currentInner (.pointer seat) with
  | none => (w, [])
  | some (box, inner) =>
      let last := (w.devices (.pointer seat)).downCount == 0 && !pressed
      match inner.kind with
      | .move => if last then w.endGrab box else (w, [])
      | .resize => if last then w.resizeFinish box inner else (w, [])
      | .busy =>
          -- the policy activates the surface of the grab
          if button == 0x110 && pressed && (w.recs.lookup inner.surface).isSome &&
              decide (seat ∈ w.seats) then
            (w, [.callbacks])
          else (w, [])
      | .touchMove => (w, [])

def touchUp (w : Wrapper) (seat : SeatId) (touchId : Nat) : Wrapper × List Op :=
  match w.currentInner (.touch seat) with
  | none => (w, [])
  | some (box, inner) =>
      let w := if touchId == 0 then w.setBox box { inner with active := false } else w
      if (w.devices (.touch seat)).downCount == 0 then w.endGrab box else (w, [])

def cancelGrab (w : Wrapper) (device : Device) : Wrapper × List Op :=
  match w.currentInner device with
  | none => (w, [])
  | some (box, inner) =>
      match inner.kind with
      | .resize => w.resizeFinish box inner
      | .move | .busy | .touchMove => w.endGrab box

end Wrapper

/-- The calls of libweston into the wrapper that touch grabs. -/
inductive Callback where
  | focusSignal (seat : SeatId) (focus : Option Focus)
  | grabFocus (seat : SeatId) (picked : Option DesktopSurfaceId)
  | button (seat : SeatId) (count button : Nat) (pressed : Bool)
  | touchUp (seat : SeatId) (touchId numTp : Nat)
  | cancel (device : Device)
  deriving DecidableEq, Repr

def Wrapper.call (w : Wrapper) : Callback → Wrapper × List Op
  | .focusSignal seat focus =>
      (w.setDevice (.pointer seat) fun state => { state with focus }).onPointerFocus seat focus
  | .grabFocus seat picked => w.grabFocus seat picked
  | .button seat count button pressed =>
      (w.setDevice (.pointer seat) fun state => { state with downCount := count }).grabButton seat
        button pressed
  | .touchUp seat touchId numTp =>
      (w.setDevice (.touch seat) fun state => { state with downCount := numTp }).touchUp seat
        touchId
  | .cancel device => w.cancelGrab device

/-- What the outermost frame does once the calls in progress are done. -/
inductive Base where
  | idle
  /-- The drain on the way out of the outermost frame. -/
  | drain
  /-- `surface_removed` after the state of the surface was destroyed. -/
  | removed (surface : DesktopSurfaceId)
  /-- The seats that a `PingTimeout` has left to visit. -/
  | ping (seats : List SeatId) (surfaces : List DesktopSurfaceId)
  /-- The busy grabs that a `Pong` has left to visit, for a client and the seats
  that had a live pointer. -/
  | pong (busy : List (GrabId × DesktopSurfaceId)) (client : ClientId) (live : List SeatId)
  deriving DecidableEq, Repr

/-- What reaches the wrapper from outside. -/
inductive Input where
  | callback (call : Callback)
  | moveRequest (surface : DesktopSurfaceId) (seat : SeatId) (serial : Nat)
      (viewPos : Coord × Coord)
  | resizeRequest (surface : DesktopSurfaceId) (seat : SeatId) (serial edges : Nat)
      (geometry : Int × Int)
  | surfaceAdded (surface : DesktopSurfaceId)
  | surfaceRemoved (surface : DesktopSurfaceId)
  | pingTimeout (client : ClientId) (surfaces : List DesktopSurfaceId)
  | pong (client : ClientId) (surfaces : List DesktopSurfaceId)
  | seatAdded (seat : SeatId)
  | seatGone (seat : SeatId)
  | plug (device : Device)
  | unplug (device : Device)
  /-- Libweston moves a focus, counts and serials without a callback of ours. -/
  | deviceMoved (device : Device) (focus : Option Focus) (downCount grabSerial : Nat)
      (grabPos : Coord × Coord)
  deriving DecidableEq, Repr

structure Machine where
  wrapper : Wrapper
  todo : List Op
  base : Base

inductive Label where
  | input (input : Input)
  | run
  | call (call : Callback)
  /-- Libweston returns from the call in progress. -/
  | proceed
  | picked (surface : Option DesktopSurfaceId)
  deriving DecidableEq, Repr

section

variable (clientOf : DesktopSurfaceId → ClientId)

namespace Wrapper

/-- `client_surfaces`: the registered surfaces of a client, in some order. -/
def isClientSurfaces (w : Wrapper) (client : ClientId) (surfaces : List DesktopSurfaceId) : Bool :=
  surfaces.all (fun s => w.known s && clientOf s == client) &&
    w.desktopSurfaces.keys.all fun s => clientOf s != client || decide (s ∈ surfaces)

/-- Marks the surfaces of a client. -/
def setUnresponsive (w : Wrapper) (surfaces : List DesktopSurfaceId) (unresponsive : Bool) :
    Wrapper :=
  { w with
    recs := w.recs.update fun s rec => if s ∈ surfaces then { rec with unresponsive } else rec }

/-- The snapshot of `end_busy_grabs_for_client_of`. -/
def busyGrabs (w : Wrapper) : List (GrabId × DesktopSurfaceId) :=
  w.activeGrabs.filterMap fun box =>
    (w.boxes box).bind fun inner =>
      if inner.kind = .busy ∧ !inner.ended then some (box, inner.surface) else none

def livePointers (w : Wrapper) : List SeatId :=
  w.seats.filter fun seat => (w.devices (.pointer seat)).plugged

/-- One turn of the loop of `end_busy_grabs_for_client_of`. -/
def pongOne (w : Wrapper) (client : ClientId) (live : List SeatId) (box : GrabId)
    (surface : DesktopSurfaceId) : Wrapper × List Op :=
  if !w.known surface then (w, [])
  else if clientOf surface ≠ client then (w, [])
  else
    match w.boxes box with
    | none => (w, [])
    | some inner =>
        if inner.device.seat ∈ live ∧ (w.devices inner.device).current = some box then w.endGrab box
        else (w.retireSupersededPointerGrab box, [])

/-- The policy on a seat of `PingTimeout`. -/
def pingOne (w : Wrapper) (surfaces : List DesktopSurfaceId) (seat : SeatId) : Wrapper × List Op :=
  if seat ∈ w.seats ∧ (w.devices (.pointer seat)).plugged then
    match (w.devices (.pointer seat)).focus.bind Focus.main with
    | none => (w, [])
    | some focus =>
        if w.known focus ∧ focus ∈ surfaces then w.setBusyCursor focus seat else (w, [])
  else (w, [])

/-- One turn of the drain: an event to its handler, or the end. -/
def drainTurn (w : Wrapper) : Wrapper × Base :=
  match w.queue with
  | [] => ({ w with pendingDrop := [], freed := w.freed ++ w.pendingDrop }, .idle)
  | ev :: queue =>
      let w := { w with queue, handled := w.handled ++ [ev] }
      match ev with
      | .pingTimeout surfaces => (w, .ping w.seats surfaces)
      | .pong (first :: _) =>
          if w.known first then (w, .pong w.busyGrabs (clientOf first) w.livePointers)
          else (w, .drain)
      | _ => (w, .drain)

/-- What an input does at once, the calls it leaves to do, and what follows
them; `none` for what libweston and the registries rule out. -/
def receive (w : Wrapper) : Input → Option (Wrapper × List Op × Base)
  | .callback call =>
      let (w, ops) := w.call call
      some (w, ops, .drain)
  | .moveRequest surface seat serial viewPos =>
      let (w, ops) := w.handleMoveRequest surface seat serial viewPos
      some (w, ops, .drain)
  | .resizeRequest surface seat serial edges geometry =>
      let (w, ops) := w.handleResizeRequest surface seat serial edges geometry
      some (w, ops, .drain)
  | .surfaceAdded surface =>
      if w.known surface then none
      else
        some ({ w with
          desktopSurfaces := w.desktopSurfaces.insert surface false
          recs := w.recs.insert surface ⟨false, 0, false⟩ }, [], .drain)
  | .surfaceRemoved surface =>
      if w.known surface then
        some ({ w with recs := w.recs.erase surface }, [.callbacks], .removed surface)
      else none
  | .pingTimeout client surfaces =>
      if w.isClientSurfaces clientOf client surfaces then
        some ({ w.setUnresponsive surfaces true with
          waiting := client :: w.waiting
          queue := w.queue ++ [.pingTimeout surfaces] }, [], .drain)
      else none
  | .pong client surfaces =>
      if w.isClientSurfaces clientOf client surfaces then
        some ({ w.setUnresponsive surfaces false with
          waiting := w.waiting.filter fun c => c ≠ client
          queue := w.queue ++ [.pong surfaces] }, [], .drain)
      else none
  | .seatAdded seat =>
      if seat ∈ w.seats then none else some ({ w with seats := w.seats ++ [seat] }, [], .drain)
  | .seatGone seat =>
      if (w.devices (.pointer seat)).plugged || (w.devices (.touch seat)).plugged then none
      else some ({ w with seats := w.seats.filter fun s => s ≠ seat }, [], .drain)
  | .plug device =>
      if device.seat ∈ w.seats then
        some (w.setDevice device fun state => { state with plugged := true }, [], .drain)
      else none
  | .unplug device =>
      -- the device is gone before libweston cancels, for the calls that are left
      let (w, ops) := (w.setDevice device fun state => { state with focus := none }).cancelGrab device
      some (w.setDevice device fun state => { state with plugged := false }, ops, .drain)
  | .deviceMoved device focus downCount grabSerial grabPos =>
      some (w.setDevice device fun state =>
        { state with focus, downCount, grabSerial, grabPos }, [], .drain)

/-- An operation that needs no choice of libweston. -/
def runOp (w : Wrapper) : Op → Option (Wrapper × List Op)
  | .handOver box => some (w.handOver box)
  | .ungrab surface => some (w.setRec surface fun rec => { rec with grabbed := false }, [])
  | .takeOut box => some (w.takeOut box, [])
  | .callbacks | .startFocus _ => none

end Wrapper

namespace Machine

def start : Machine := { wrapper := .new, todo := [], base := .idle }

/-- The outermost frame goes on. -/
def stepBase (w : Wrapper) : Base → Option Machine
  | .idle => none
  | .drain =>
      let (w, base) := w.drainTurn clientOf
      some { wrapper := w, todo := [], base }
  | .removed surface =>
      some { wrapper := { w with desktopSurfaces := w.desktopSurfaces.erase surface }
             todo := [], base := .drain }
  | .ping [] _ => some { wrapper := w, todo := [], base := .drain }
  | .ping (seat :: seats) surfaces =>
      let (w, ops) := w.pingOne surfaces seat
      some { wrapper := w, todo := ops, base := .ping seats surfaces }
  | .pong [] _ _ => some { wrapper := w, todo := [], base := .drain }
  | .pong ((box, surface) :: busy) client live =>
      let (w, ops) := w.pongOne clientOf client live box surface
      some { wrapper := w, todo := ops, base := .pong busy client live }

def step (m : Machine) (label : Label) : Option Machine :=
  match m.todo with
  | [] =>
      match label with
      | .run => stepBase clientOf m.wrapper m.base
      | .input input =>
          if m.base = .idle then
            (m.wrapper.receive clientOf input).map fun (w, todo, base) => { wrapper := w, todo, base }
          else none
      | _ => none
  | .callbacks :: todo =>
      match label with
      | .call call =>
          let (w, ops) := m.wrapper.call call
          some { m with wrapper := w, todo := ops ++ .callbacks :: todo }
      | .proceed => some { m with todo }
      | _ => none
  | .startFocus seat :: todo =>
      match label with
      | .picked surface =>
          let (w, ops) := m.wrapper.grabFocus seat surface
          some { m with wrapper := w, todo := ops ++ todo }
      | _ => none
  | op :: todo =>
      match label with
      | .run => (m.wrapper.runOp op).map fun (w, ops) => { m with wrapper := w, todo := ops ++ todo }
      | _ => none

/-- `step` as a relation. -/
def Step (m : Machine) (label : Label) (next : Machine) : Prop :=
  m.step clientOf label = some next

end Machine

end

end Westonite.Grab
