import Westonite.Library.Vec
import Westonite.Registry.SlotTable
import Westonite.Shell.Runs
import Westonite.Shell.Underlay

/-! The keyboard-focus tracking of the wrapper: the counted registry of focused
surfaces, their destroy listeners, the registry of the seats, and the shell on
top of them. -/

set_option autoImplicit false

namespace Westonite.Tracking

open Registry

/-- The address of a `weston_surface`. -/
abbrev SurfacePtr := Nat

/-- The address of a `weston_seat`. -/
abbrev SeatPtr := Nat

/-- A `shell.tracked_surface_destroy` listener with the id its closure captured. -/
structure SurfaceListener where
  key : SurfacePtr
  id : SurfaceId
  deriving DecidableEq, Repr

structure Wrapper where
  surfaces : SlotTable SurfacePtr
  /-- `TRACK_COUNTS`, of `u32`. -/
  trackCounts : RawId → Option Nat
  listeners : List SurfaceListener
  /-- Retired listeners, which stay attached to their signal until they drop. -/
  pendingDrop : List SurfaceListener
  seats : SlotTable SeatPtr
  /-- Events that wait for the policy; one leaves when it has been handled. -/
  queue : List Event
  /-- Whether a `u32` ever ran over: a count, or a generation into an id that an
  old death event or listener still names. -/
  wrapped : Bool

/-- What libweston announces. -/
inductive Happening where
  /-- With the desktop surface that is the main surface of the dying one. -/
  | surfaceDestroyed (ptr : SurfacePtr) (main : Option DesktopSurfaceId)
  | seatCreated (ptr : SeatPtr)
  | seatDestroyed (ptr : SeatPtr)
  deriving DecidableEq, Repr

namespace Wrapper

def new : Wrapper where
  surfaces := .default
  trackCounts _ := none
  listeners := []
  pendingDrop := []
  seats := .default
  queue := []
  wrapped := false

def setCount (w : Wrapper) (id : RawId) (count : Option Nat) : Wrapper :=
  { w with trackCounts := Function.update w.trackCounts id count }

def enqueue (w : Wrapper) (ev : Event) : Wrapper := { w with queue := w.queue ++ [ev] }

/-- The first listener of the key leaves by `swap_remove` and waits for its drop. -/
def retireListener (w : Wrapper) (key : SurfacePtr) : Wrapper :=
  match w.listeners.findIdx? fun listener => listener.key = key with
  | none => w
  | some i =>
      match w.listeners[i]? with
      | none => w
      | some listener =>
          { w with
            listeners := Library.swapRemove w.listeners i
            pendingDrop := w.pendingDrop ++ [listener] }

def invalidate (w : Wrapper) (ptr : SurfacePtr) : Wrapper :=
  { w with surfaces := (w.surfaces.invalidatePtr ptr).2 }

/-- What the last release and the death of a surface share. -/
def forget (w : Wrapper) (ptr : SurfacePtr) (id : RawId) : Wrapper :=
  ((w.setCount id none).invalidate ptr).retireListener ptr

/-- A death event that waits, or a listener that was retired, names the id. -/
def names (w : Wrapper) (id : SurfaceId) : Bool :=
  (w.queue.any fun
    | .trackedSurfaceGone gone _ => gone = id
    | _ => false) ||
  w.pendingDrop.any fun listener => listener.id = id

/-- `track_surface`; `none` is the overflow of the slot table. -/
def trackSurface (w : Wrapper) (es : SurfacePtr) : Option SurfaceId × Wrapper :=
  match w.surfaces.idOf es with
  | some existing =>
      let count := wrappingAdd ((w.trackCounts existing).getD 0) 1
      (some ⟨existing⟩,
        { w.setCount existing (some count) with wrapped := w.wrapped || count == 0 })
  | none =>
      match w.surfaces.insert es with
      | none => (none, w)
      | some (id, surfaces) =>
          (some ⟨id⟩,
            { w.setCount id (some 1) with
              surfaces
              listeners := w.listeners ++ [⟨es, ⟨id⟩⟩]
              wrapped := w.wrapped || w.names ⟨id⟩ })

/-- `untrack_surface`. -/
def untrackSurface (w : Wrapper) (id : SurfaceId) : Wrapper :=
  match w.surfaces.resolve id.raw with
  | none => w
  | some ptr =>
      let left := (w.trackCounts id.raw).getD 0 - 1
      if left > 0 then w.setCount id.raw (some left)
      else w.forget ptr id.raw

/-- The closure of a destroy listener. -/
def surfaceGone (w : Wrapper) (ptr : SurfacePtr) (main : Option DesktopSurfaceId)
    (id : SurfaceId) : Wrapper :=
  (w.forget ptr id.raw).enqueue (.trackedSurfaceGone id main)

/-- The destroy signal of a surface: the listeners attached to it run in the order
they came, and are detached. -/
def destroySurface (w : Wrapper) (ptr : SurfacePtr) (main : Option DesktopSurfaceId) : Wrapper :=
  let attached := (w.pendingDrop ++ w.listeners).filter fun listener => listener.key = ptr
  let w := attached.foldl (fun w listener => w.surfaceGone ptr main listener.id) w
  { w with pendingDrop := w.pendingDrop.filter fun listener => listener.key ≠ ptr }

/-- `register_seat`: one that is known, or too many, changes nothing. -/
def createSeat (w : Wrapper) (ptr : SeatPtr) : Wrapper :=
  match w.seats.idOf ptr with
  | some _ => w
  | none =>
      match w.seats.insert ptr with
      | none => w
      | some (id, seats) => { w with seats }.enqueue (.seatCreated ⟨id⟩)

def destroySeat (w : Wrapper) (ptr : SeatPtr) : Wrapper :=
  match w.seats.invalidatePtr ptr with
  | (none, _) => w
  | (some id, seats) => { w with seats }.enqueue (.seatGone ⟨id⟩)

def happen (w : Wrapper) : Happening → Wrapper
  | .surfaceDestroyed ptr main => w.destroySurface ptr main
  | .seatCreated ptr => w.createSeat ptr
  | .seatDestroyed ptr => w.destroySeat ptr

/-- The drops at depth zero. -/
def dropRetired (w : Wrapper) : Wrapper := { w with pendingDrop := [] }

end Wrapper

/-- libweston under the wrapper, in a state `Base`. -/
structure Compositor (Base : Type) extends Underlay Happening Base where
  /-- `weston_view_activate_input`, and the surface of the view that it landed on. -/
  activateInput : Base → ActivateTarget → SeatPtr → ActivateFlags → Option SurfacePtr × Base

/-- `impl ShellHost for Ctx`. -/
def Compositor.tracking {Base : Type} (compositor : Compositor Base) :
    ShellHost (Wrapper × Base) :=
  { compositor.passing Wrapper.happen with
    seats := fun h => h.1.seats.liveIds.map SeatId.mk
    activateInput := fun h target seat flags =>
      match h.1.seats.resolve seat.raw with
      | none => (none, h)
      | some seatPtr =>
          let (es, base) := compositor.activateInput h.2 target seatPtr flags
          let (w, base) := compositor.hear Wrapper.happen h.1 base
          match es with
          | none => (none, w, base)
          | some es =>
              let (id, w) := w.trackSurface es
              (id, w, base)
    untrackSurface := fun h id => (h.1.untrackSurface id, h.2) }

/-- What a run does next. -/
inductive Label where
  /-- An event comes in and is handled. -/
  | event (ev : Event)
  /-- An event that waits is handled. -/
  | deliver (ev : Event)
  | happen (happening : Happening)
  | drop
  deriving DecidableEq, Repr

/-- The death of a tracked surface is announced by the wrapper alone, and the run
is up to the shutdown. -/
def comesIn : Event → Bool := comesInBut [.trackedSurfaces, .shutdown]

/-- Between two steps the rest of libweston does what it likes. -/
inductive Step {Base : Type} (compositor : Compositor Base) :
    Shell × Wrapper × Base → Label → Shell × Wrapper × Base → Prop where
  | event {shell ordered : Shell} {w : Wrapper} {base drifted : Base} {ev : Event} :
      Reordered shell ordered → comesIn ev = true →
      Step compositor (shell, w, base) (.event ev)
        (ordered.onEvent compositor.tracking (w, drifted) ev)
  | deliver {shell ordered after : Shell} {w later : Wrapper} {base drifted last : Base}
      {ev : Event} :
      Reordered shell ordered → ev ∈ w.queue → ev ≠ .shutdown →
      ordered.onEvent compositor.tracking (w, drifted) ev = (after, later, last) →
      Step compositor (shell, w, base) (.deliver ev)
        (after, { later with queue := later.queue.erase ev }, last)
  | happen {shell : Shell} {w : Wrapper} {base : Base} {happening : Happening} :
      Step compositor (shell, w, base) (.happen happening) (shell, w.happen happening, base)
  | drop {shell : Shell} {w : Wrapper} {base : Base} :
      Step compositor (shell, w, base) .drop (shell, w.dropRetired, base)

end Westonite.Tracking
