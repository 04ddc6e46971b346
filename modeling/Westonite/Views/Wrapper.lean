import Mathlib.Logic.Function.Basic
import Westonite.Library.AssocMap
import Westonite.Registry.SlotTable
import Westonite.Shell.Runs
import Westonite.Shell.Underlay

/-! The shell views of the wrapper: the registry of the desktop surfaces, the record
of each, the callbacks of libweston about them, and the shell that has the views
destroyed. -/

set_option autoImplicit false

namespace Westonite.Views

open Library Registry

/-- The address of a `weston_desktop_surface`. -/
abbrev SurfacePtr := Nat

/-- A shell view, by the number of views made before it. An address can come again,
a number cannot. -/
abbrev ViewId := Nat

/-- A call of libweston on a view. -/
inductive ViewCall where
  | unlink (view : ViewId)
  | destroy (view : ViewId)
  deriving DecidableEq, Repr

/-- A desktop surface of libweston. It is `leaving` while its removal is called back. -/
inductive Presence where
  | absent
  | present
  | leaving
  deriving DecidableEq, Repr

structure Wrapper where
  desktopSurfaces : SlotTable SurfacePtr
  /-- The view of each record. -/
  surfaceRecs : AssocMap DesktopSurfaceId ViewId
  queue : List Event
  shuttingDown : Bool
  /-- The desktop surfaces of libweston, and the views that were made for them. -/
  presence : SurfacePtr → Presence
  viewOf : SurfacePtr → Option ViewId
  nextView : ViewId
  /-- What was called on the views. -/
  calls : List ViewCall
  /-- Every record that ever was. -/
  registered : List (DesktopSurfaceId × ViewId)
  /-- The views of the surfaces that were removed. -/
  removed : List ViewId

/-- What libweston calls back. A view may not be made, and a desktop surface may be
without a `weston_surface`. -/
inductive Happening where
  | added (ptr : SurfacePtr) (viewMade surfaceThere : Bool)
  | removed (ptr : SurfacePtr)
  deriving DecidableEq, Repr

namespace Wrapper

def new : Wrapper where
  desktopSurfaces := .default
  surfaceRecs := ∅
  queue := []
  shuttingDown := false
  presence _ := .absent
  viewOf _ := none
  nextView := 0
  calls := []
  registered := []
  removed := []

def enqueue (w : Wrapper) (ev : Event) : Wrapper :=
  if w.shuttingDown then w else { w with queue := w.queue ++ [ev] }

def setPresence (w : Wrapper) (ptr : SurfacePtr) (presence : Presence) : Wrapper :=
  { w with presence := Function.update w.presence ptr presence }

/-- A view is unlinked and then destroyed. -/
def destroyView (w : Wrapper) (view : ViewId) : Wrapper :=
  { w with calls := w.calls ++ [.unlink view, .destroy view] }

/-- `destroy_surface_state`. The calls on a view call nothing of a desktop surface back. -/
def destroySurfaceState (w : Wrapper) (id : DesktopSurfaceId) : Wrapper :=
  match w.surfaceRecs.lookup id with
  | none => w
  | some view => { w with surfaceRecs := w.surfaceRecs.erase id }.destroyView view

/-- Libweston makes a view for a desktop surface. -/
def makeView (w : Wrapper) (ptr : SurfacePtr) : Wrapper :=
  { w with
    viewOf := Function.update w.viewOf ptr (some w.nextView)
    nextView := w.nextView + 1 }

/-- A desktop surface has its place in the table, and gets its record. -/
def record (w : Wrapper) (desktopSurfaces : SlotTable SurfacePtr) (id : DesktopSurfaceId)
    (view : ViewId) : Wrapper :=
  { w with
    desktopSurfaces
    surfaceRecs := w.surfaceRecs.insert id view
    registered := w.registered ++ [(id, view)] }

/-- `tramp_surface_added`, with the event it dispatches. -/
def surfaceAdded (w : Wrapper) (ptr : SurfacePtr) (viewMade surfaceThere : Bool) :
    Wrapper × Option Event :=
  if !viewMade then
    -- the surface stays, and every later callback for it finds no id
    (w, none)
  else if !surfaceThere then
    ((w.makeView ptr).destroyView w.nextView, none)
  else
    match w.desktopSurfaces.insert ptr with
    -- a full table panics, which aborts the process in the callback
    | none => (w, none)
    | some (id, desktopSurfaces) =>
        ((w.makeView ptr).record desktopSurfaces ⟨id⟩ w.nextView, some (.surfaceAdded ⟨id⟩))

/-- `tramp_surface_removed` after the event is dispatched. -/
def surfaceRemoved (w : Wrapper) (ptr : SurfacePtr) (id : DesktopSurfaceId) : Wrapper :=
  let w := w.destroySurfaceState id
  { w with desktopSurfaces := (w.desktopSurfaces.invalidatePtr ptr).2 }

/-- Libweston frees a desktop surface. -/
def depart (w : Wrapper) (ptr : SurfacePtr) : Wrapper :=
  { w.setPresence ptr .absent with
    viewOf := Function.update w.viewOf ptr none
    removed := w.removed ++ (w.viewOf ptr).toList }

/-- A callback while the app is taken from its slot, or before there is one: the
event waits in the queue. -/
def overhear (w : Wrapper) : Happening → Wrapper
  | .added ptr viewMade surfaceThere =>
      match w.presence ptr with
      | .present | .leaving => w
      | .absent =>
          match (w.setPresence ptr .present).surfaceAdded ptr viewMade surfaceThere with
          | (w, none) => w
          | (w, some ev) => w.enqueue ev
  | .removed ptr =>
      match w.presence ptr with
      | .absent | .leaving => w
      | .present =>
          match w.desktopSurfaces.idOf ptr with
          | none => w.depart ptr
          | some id =>
              ((w.enqueue (.surfaceRemoved ⟨id⟩)).surfaceRemoved ptr ⟨id⟩).depart ptr

end Wrapper

/-- libweston under the wrapper, in a state `Base`. -/
abbrev Compositor (Base : Type) := Underlay Happening Base

/-- `impl ShellHost for Ctx`. -/
def Compositor.backing {Base : Type} (compositor : Compositor Base) : ShellHost (Wrapper × Base) :=
  { compositor.passing Wrapper.overhear with
    destroySurfaceState := fun h id =>
      compositor.hear Wrapper.overhear (h.1.destroySurfaceState id)
        (compositor.host.destroySurfaceState h.2 id) }

def isShutdown : Event → Bool
  | .shutdown => true
  | _ => false

namespace Compositor

variable {Base : Type} (compositor : Compositor Base)

/-- `dispatch_sync` with the app in its slot. -/
def dispatchSync (shell : Shell) (h : Wrapper × Base) (ev : Event) : Shell × Wrapper × Base :=
  if h.1.shuttingDown && !isShutdown ev then (shell, h)
  else shell.onEvent compositor.backing h ev

/-- `tramp_surface_removed`. -/
def surfaceRemoved (shell : Shell) (h : Wrapper × Base) (ptr : SurfacePtr) :
    Shell × Wrapper × Base :=
  match h.1.desktopSurfaces.idOf ptr with
  | none => (shell, h)
  | some id =>
      let (shell, w, base) := compositor.dispatchSync shell h (.surfaceRemoved ⟨id⟩)
      (shell, w.surfaceRemoved ptr ⟨id⟩, base)

/-- A callback with the app in its slot. Only a surface that is there is removed, and
none is added twice. -/
def happen (shell : Shell) (h : Wrapper × Base) : Happening → Shell × Wrapper × Base
  | .added ptr viewMade surfaceThere =>
      match h.1.presence ptr with
      | .present | .leaving => (shell, h)
      | .absent =>
          match (h.1.setPresence ptr .present).surfaceAdded ptr viewMade surfaceThere with
          | (w, none) => (shell, w, h.2)
          | (w, some ev) => compositor.dispatchSync shell (w, h.2) ev
  | .removed ptr =>
      match h.1.presence ptr with
      | .absent | .leaving => (shell, h)
      | .present =>
          let (shell, w, base) :=
            compositor.surfaceRemoved shell (h.1.setPresence ptr .leaving, h.2) ptr
          (shell, w.depart ptr, base)

end Compositor

/-- What a run does next. -/
inductive Label where
  /-- An event comes in and is handled. -/
  | event (ev : Event)
  /-- An event comes in and waits. -/
  | post (ev : Event)
  /-- The event that waited longest is handled. -/
  | deliver
  /-- The event that waited longest is dropped. -/
  | discard
  /-- Libweston calls back, with the app in its slot. -/
  | happen (happening : Happening)
  /-- Libweston calls back, with the slot of the app empty. -/
  | overhear (happening : Happening)
  /-- The compositor begins to go: from now on only the shutdown is handled. -/
  | stop
  deriving DecidableEq, Repr

/-- Desktop surfaces come and go by callbacks alone. -/
def comesIn : Event → Bool := comesInBut [.desktopSurfaces]

/-- Between two steps the rest of libweston does what it likes. The callbacks end with
the `weston_desktop`, which is destroyed before the wrapper is torn down. -/
inductive Step {Base : Type} (compositor : Compositor Base) :
    Shell × Wrapper × Base → Label → Shell × Wrapper × Base → Prop where
  | event {shell ordered : Shell} {w : Wrapper} {base drifted : Base} {ev : Event} :
      Reordered shell ordered → comesIn ev = true →
      Step compositor (shell, w, base) (.event ev)
        (compositor.dispatchSync ordered (w, drifted) ev)
  | post {shell : Shell} {w : Wrapper} {base : Base} {ev : Event} : comesIn ev = true →
      Step compositor (shell, w, base) (.post ev) (shell, w.enqueue ev, base)
  | deliver {shell ordered : Shell} {w : Wrapper} {base drifted : Base} {ev : Event}
      {queue : List Event} :
      Reordered shell ordered → w.shuttingDown = false → w.queue = ev :: queue →
      Step compositor (shell, w, base) .deliver
        (ordered.onEvent compositor.backing ({ w with queue }, drifted) ev)
  | discard {shell : Shell} {w : Wrapper} {base : Base} {ev : Event} {queue : List Event} :
      -- the wrapper is shutting down, or no app is installed
      w.queue = ev :: queue →
      Step compositor (shell, w, base) .discard (shell, { w with queue }, base)
  | happen {shell ordered : Shell} {w : Wrapper} {base drifted : Base} {happening : Happening} :
      Reordered shell ordered →
      Step compositor (shell, w, base) (.happen happening)
        (compositor.happen ordered (w, drifted) happening)
  | overhear {shell : Shell} {w : Wrapper} {base : Base} {happening : Happening} :
      Step compositor (shell, w, base) (.overhear happening) (shell, w.overhear happening, base)
  | stop {shell : Shell} {w : Wrapper} {base : Base} :
      Step compositor (shell, w, base) .stop (shell, { w with shuttingDown := true }, base)

end Westonite.Views
