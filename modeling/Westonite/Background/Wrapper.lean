import Mathlib.Logic.Function.Basic
import Westonite.Library.AssocMap
import Westonite.Registry.SlotTable
import Westonite.Shell.Runs
import Westonite.Shell.Underlay

/-! The background curtains of the wrapper: the registry of the outputs, their
destroy listeners, the signals libweston sends about them, and the shell that asks
for the curtains. -/

set_option autoImplicit false

namespace Westonite.Background

open Library Registry

/-- The address of a `weston_output`. -/
abbrev OutputPtr := Nat

/-- What is read of a `weston_output`. -/
structure Output where
  name : String
  pos : Coord × Coord
  width : Int
  height : Int
  deriving DecidableEq, Repr

/-- A `weston_curtain`: where its view is, how large it is, and its color. -/
structure Curtain where
  pos : Coord × Coord
  width : Int
  height : Int
  argb : UInt32
  deriving DecidableEq, Repr

/-- What the closure of a `shell.output_destroy` listener captured. -/
structure OutputListener where
  id : OutputId
  name : String
  deriving DecidableEq, Repr

structure Wrapper where
  /-- The outputs of libweston. -/
  live : OutputPtr → Option Output
  outputs : SlotTable OutputPtr
  /-- The destroy listeners on the outputs. -/
  listeners : OutputPtr → Option OutputListener
  curtains : AssocMap OutputId Curtain
  queue : List Event

/-- What libweston announces about outputs, after it did it. -/
inductive Happening where
  | created (ptr : OutputPtr) (output : Output)
  | moved (ptr : OutputPtr) (dx dy : Coord)
  | resized (ptr : OutputPtr) (width height : Int)
  | destroyed (ptr : OutputPtr)
  deriving DecidableEq, Repr

namespace Wrapper

def new : Wrapper where
  live _ := none
  outputs := .default
  listeners _ := none
  curtains := ∅
  queue := []

def enqueue (w : Wrapper) (ev : Event) : Wrapper := { w with queue := w.queue ++ [ev] }

def setLive (w : Wrapper) (ptr : OutputPtr) (output : Option Output) : Wrapper :=
  { w with live := Function.update w.live ptr output }

/-! ### Curtains -/

/-- `destroy_background`. -/
def destroyBackground (w : Wrapper) (id : OutputId) : Wrapper :=
  { w with curtains := w.curtains.erase id }

/-- `recreate_background`. -/
def recreateBackground (w : Wrapper) (id : OutputId) (argb : UInt32) : Wrapper :=
  let w := w.destroyBackground id
  match (w.outputs.resolve id.raw).bind w.live with
  | none => w
  | some output =>
      { w with curtains := w.curtains.insert id ⟨output.pos, output.width, output.height, argb⟩ }

/-- `move_backgrounds_with_output`. -/
def moveBackgroundsWithOutput (w : Wrapper) (id : OutputId) (dx dy : Coord) : Wrapper :=
  { w with
    curtains := w.curtains.modify id fun curtain =>
      { curtain with pos := (curtain.pos.1 + dx, curtain.pos.2 + dy) } }

/-! ### Signals -/

/-- `register_output_shell`, with the event it dispatches. -/
def registerOutputShell (w : Wrapper) (ptr : OutputPtr) (name : String) : Wrapper × Option Event :=
  match w.outputs.idOf ptr with
  | some _ => (w, none)
  | none =>
      match w.outputs.insert ptr with
      | none => (w, none)
      | some (id, outputs) =>
          ({ w with
            outputs
            listeners := Function.update w.listeners ptr (some ⟨⟨id⟩, name⟩) },
            some (.outputCreated ⟨id⟩))

def outputMoved (w : Wrapper) (ptr : OutputPtr) (dx dy : Coord) : Wrapper :=
  match w.outputs.idOf ptr with
  | none => w
  | some id => (w.moveBackgroundsWithOutput ⟨id⟩ dx dy).enqueue (.outputMoved ⟨id⟩ dx dy)

def outputResized (w : Wrapper) (ptr : OutputPtr) : Wrapper :=
  match w.outputs.idOf ptr with
  | none => w
  | some id => w.enqueue (.outputResized ⟨id⟩)

/-- The closure of a destroy listener. -/
def outputDestroyed (w : Wrapper) (ptr : OutputPtr) : Wrapper :=
  match w.listeners ptr with
  | none => w
  | some listener =>
      let w := w.destroyBackground listener.id
      let w := { w with
        outputs := (w.outputs.invalidatePtr ptr).2
        listeners := Function.update w.listeners ptr none }
      w.enqueue (.outputGone listener.id listener.name)

/-- Libweston changes an output and sends the signal; the event is one to dispatch
at once. Only an output that is there can change, and none is created twice. -/
def happen (w : Wrapper) : Happening → Wrapper × Option Event
  | .created ptr output =>
      match w.live ptr with
      | some _ => (w, none)
      | none => (w.setLive ptr (some output)).registerOutputShell ptr output.name
  | .moved ptr dx dy =>
      match w.live ptr with
      | none => (w, none)
      | some output =>
          let moved := { output with pos := (output.pos.1 + dx, output.pos.2 + dy) }
          ((w.setLive ptr (some moved)).outputMoved ptr dx dy, none)
  | .resized ptr width height =>
      match w.live ptr with
      | none => (w, none)
      | some output =>
          ((w.setLive ptr (some { output with width, height })).outputResized ptr, none)
  | .destroyed ptr =>
      match w.live ptr with
      | none => (w, none)
      | some _ => ((w.setLive ptr none).outputDestroyed ptr, none)

/-- A signal while a handler runs: what cannot be dispatched waits in the queue. -/
def overhear (w : Wrapper) (happening : Happening) : Wrapper :=
  match w.happen happening with
  | (w, none) => w
  | (w, some ev) => w.enqueue ev

end Wrapper

/-- libweston under the wrapper, in a state `Base`. -/
abbrev Compositor (Base : Type) := Underlay Happening Base

namespace Compositor

variable {Base : Type} (compositor : Compositor Base)

/-- `impl ShellHost for Ctx`. The calls on a curtain send no signal of an output
before they return. -/
def backing : ShellHost (Wrapper × Base) :=
  { compositor.passing Wrapper.overhear with
    recreateBackground := fun h output argb =>
      compositor.hear Wrapper.overhear (h.1.recreateBackground output argb)
        (compositor.host.recreateBackground h.2 output argb) }

/-- `dispatch_sync` of what a signal announces, outside a handler. -/
def dispatch (shell : Shell) (h : (Wrapper × Option Event) × Base) : Shell × Wrapper × Base :=
  match h.1.2 with
  | none => (shell, h.1.1, h.2)
  | some ev => shell.onEvent compositor.backing (h.1.1, h.2) ev

end Compositor

/-- What a run does next. -/
inductive Label where
  /-- An event comes in and is handled. -/
  | event (ev : Event)
  /-- An event comes in and waits. -/
  | post (ev : Event)
  /-- The event that waited longest is handled. -/
  | deliver
  /-- Libweston sends a signal while no handler runs. -/
  | happen (happening : Happening)
  deriving DecidableEq, Repr

/-- Outputs are announced by the wrapper alone, and the run is up to the shutdown. -/
def comesIn : Event → Bool := comesInBut [.outputs, .shutdown]

/-- Between two steps the rest of libweston does what it likes. The outputs that are
there when the shell is attached are announced one by one, like those that come. -/
inductive Step {Base : Type} (compositor : Compositor Base) :
    Shell × Wrapper × Base → Label → Shell × Wrapper × Base → Prop where
  | event {shell ordered : Shell} {w : Wrapper} {base drifted : Base} {ev : Event} :
      Reordered shell ordered → comesIn ev = true →
      Step compositor (shell, w, base) (.event ev)
        (ordered.onEvent compositor.backing (w, drifted) ev)
  | post {shell : Shell} {w : Wrapper} {base : Base} {ev : Event} : comesIn ev = true →
      Step compositor (shell, w, base) (.post ev) (shell, w.enqueue ev, base)
  | deliver {shell ordered : Shell} {w : Wrapper} {base drifted : Base} {ev : Event}
      {queue : List Event} :
      Reordered shell ordered → w.queue = ev :: queue →
      Step compositor (shell, w, base) .deliver
        (ordered.onEvent compositor.backing ({ w with queue }, drifted) ev)
  | happen {shell ordered : Shell} {w : Wrapper} {base drifted : Base} {happening : Happening} :
      Reordered shell ordered →
      Step compositor (shell, w, base) (.happen happening)
        (compositor.dispatch ordered (w.happen happening, drifted))

end Westonite.Background
