import Mathlib.Logic.Function.Basic
import Westonite.Events
import Westonite.Output.Policy

/-! Heads and outputs of libweston, what the wrapper keeps about them, and the
calls between the two. `Answers` is what libweston answers to the calls that can
fail, in the order of the calls. -/

set_option autoImplicit false

namespace Westonite.Output

abbrev HeadPtr := Nat

/-- An allocation of a `weston_output`. -/
abbrev OutputPtr := Nat

abbrev BackendPtr := Nat

/-- The shared cell of a `LayoutputOutput`. -/
abbrev CellId := Nat

inductive BackendKind where
  | headless
  | vnc
  | x11
  | wayland
  | pipewire
  | drm
  deriving DecidableEq, Repr

inductive WindowedApi where
  | headless
  | x11
  | wayland
  deriving DecidableEq, Repr

inductive HeadSetup where
  | windowed (setup : OutputSetup) (api : WindowedApi)
  | vnc (setup : VncOutputSetup)
  | pipewire (setup : PipewireOutputSetup)
  deriving DecidableEq, Repr

structure Mode where
  width : Int
  height : Int
  refresh : Int
  deriving DecidableEq, Repr

structure WestonHead where
  name : String
  backend : BackendPtr
  connected : Bool
  deviceChanged : Bool
  nonDesktop : Bool
  transform : OutputTransform
  output : Option OutputPtr
  deriving DecidableEq, Repr

structure WestonOutput where
  name : String
  backend : BackendPtr
  enabled : Bool
  mirrorOf : Option OutputPtr
  pos : Coord × Coord
  width : Int
  height : Int
  scale : Int
  currentScale : Int
  transform : OutputTransform
  nativeModeCopy : Mode
  currentMode : Option Mode
  /-- What the configurator handed to the backend. -/
  configured : Option (HeadSetup ⊕ DrmOutputSetup)
  deriving DecidableEq, Repr

def WestonOutput.created (name : String) (backend : BackendPtr) : WestonOutput where
  name := name
  backend := backend
  enabled := false
  mirrorOf := none
  pos := (0, 0)
  width := 0
  height := 0
  scale := 0
  currentScale := 0
  transform := .normal
  nativeModeCopy := ⟨0, 0, 0⟩
  currentMode := none
  configured := none

/-- A group of heads driven as clones; a consumed entry of `add` is cleared. -/
structure Layoutput where
  name : String
  sectionHead : String
  outputs : List CellId
  add : List (Option HeadPtr)
  deriving DecidableEq, Repr

structure World where
  heads : HeadPtr → Option WestonHead
  /-- The heads of the compositor, in order. -/
  headList : List HeadPtr
  outputs : OutputPtr → Option WestonOutput
  /-- The enabled outputs, in order. -/
  outputList : List OutputPtr
  pendingOutputList : List OutputPtr
  nextOutput : OutputPtr
  backends : List (BackendPtr × BackendKind)
  layoutputs : List Layoutput
  cells : CellId → Option OutputPtr
  nextCell : CellId
  registeredHeads : List HeadPtr
  registeredOutputs : List OutputPtr
  useColorManager : Bool
  initFailed : Bool
  calls : Nat

/-- What a backend makes of an output it enables. -/
structure Geometry where
  nativeModeCopy : Mode
  currentMode : Option Mode
  width : Int
  height : Int
  deriving DecidableEq, Repr

structure Answers where
  ok : Nat → Bool
  geometry : Nat → Geometry

/-- A double through an `int`, as Rust casts it. -/
def asI32 (x : Coord) : Int :=
  max (-2147483648) (min 2147483647 (x.num.tdiv x.den))

namespace World

/-- The wrapper of loaded backends before any head is there. -/
def new (backends : List (BackendPtr × BackendKind)) (useColorManager : Bool) : World where
  heads _ := none
  headList := []
  outputs _ := none
  outputList := []
  pendingOutputList := []
  nextOutput := 0
  backends := backends
  layoutputs := []
  cells _ := none
  nextCell := 0
  registeredHeads := []
  registeredOutputs := []
  useColorManager := useColorManager
  initFailed := false
  calls := 0

def setHead (w : World) (head : HeadPtr) (change : WestonHead → WestonHead) : World :=
  { w with heads := Function.update w.heads head ((w.heads head).map change) }

def setOutput (w : World) (output : OutputPtr) (change : WestonOutput → WestonOutput) : World :=
  { w with outputs := Function.update w.outputs output ((w.outputs output).map change) }

def setLayoutput (w : World) (index : Nat) (change : Layoutput → Layoutput) : World :=
  { w with layoutputs := w.layoutputs.modify index change }

def fail (w : World) : World := { w with initFailed := true }

/-! ### Queries -/

def headName (w : World) (head : HeadPtr) : String :=
  ((w.heads head).map WestonHead.name).getD ""

def outputName (w : World) (output : OutputPtr) : String :=
  ((w.outputs output).map WestonOutput.name).getD ""

/-- `weston_head_get_output`. -/
def outputOf (w : World) (head : HeadPtr) : Option OutputPtr :=
  (w.heads head).bind WestonHead.output

def isEnabled (w : World) (output : OutputPtr) : Bool :=
  (w.outputs output).any WestonOutput.enabled

/-- `weston_head_is_enabled`. -/
def headEnabled (w : World) (head : HeadPtr) : Bool :=
  (w.outputOf head).any w.isEnabled

def attachedHeads (w : World) (output : OutputPtr) : List HeadPtr :=
  w.headList.filter fun head => w.outputOf head = some output

def countHeads (w : World) (output : OutputPtr) : Nat := (w.attachedHeads output).length

def findOutputByName (w : World) (name : String) : Option OutputPtr :=
  (w.outputList ++ w.pendingOutputList).find? fun output => w.outputName output == name

/-- The kind of a loaded backend. -/
def backendKind (w : World) (backend : BackendPtr) : Option BackendKind :=
  w.backends.lookup backend

def findHeadByName (w : World) (name : String) : Option HeadPtr :=
  w.headList.find? fun head => w.headName head == name

/-! ### Calls -/

def detachHead (w : World) (head : HeadPtr) : World :=
  w.setHead head fun value => { value with output := none }

/-- `weston_output_destroy`: the heads come off, and the destroy listeners clear
the cells and the registry. -/
def destroyOutput (w : World) (output : OutputPtr) : World :=
  { w with
    outputs := Function.update w.outputs output none
    outputList := w.outputList.erase output
    pendingOutputList := w.pendingOutputList.erase output
    heads := fun head => (w.heads head).map fun value =>
      if value.output = some output then { value with output := none } else value
    cells := fun cell => if w.cells cell = some output then none else w.cells cell
    registeredOutputs := w.registeredOutputs.erase output }

def resetDeviceChanged (w : World) (head : HeadPtr) : World :=
  w.setHead head fun value => { value with deviceChanged := false }

def registerHead (w : World) (head : HeadPtr) : World :=
  if head ∈ w.registeredHeads then w else { w with registeredHeads := w.registeredHeads ++ [head] }

def registerOutput (w : World) (output : OutputPtr) : World :=
  if output ∈ w.registeredOutputs then w
  else { w with registeredOutputs := w.registeredOutputs ++ [output] }

/-- `lazy_align`: to the right of the output enabled last. -/
def lazyAlign (w : World) (output : OutputPtr) : World :=
  let nextX : Int :=
    match (w.outputList.getLast?).bind w.outputs with
    | none => 0
    | some peer => asI32 (peer.pos.1 + peer.width)
  w.setOutput output fun value => { value with pos := (nextX, 0) }

/-- `head_transform`: that of a single head. -/
def headTransform (w : World) (output : OutputPtr) : OutputTransform :=
  match w.attachedHeads output with
  | [head] => ((w.heads head).map WestonHead.transform).getD .normal
  | _ => .normal

/-- A new output with its first head. -/
def addOutput (w : World) (head : HeadPtr) (name : String) (backend : BackendPtr) : World :=
  { w.setHead head (fun value => { value with output := some w.nextOutput }) with
    outputs := Function.update w.outputs w.nextOutput (some (.created name backend))
    pendingOutputList := w.pendingOutputList ++ [w.nextOutput]
    nextOutput := w.nextOutput + 1 }

/-- An output that comes up goes to the end of `output_list`. -/
def markEnabled (w : World) (output : OutputPtr) (geometry : Geometry) : World :=
  { w.setOutput output (fun value =>
      { value with
        enabled := true
        currentScale := value.scale
        nativeModeCopy := geometry.nativeModeCopy
        currentMode := geometry.currentMode
        width := geometry.width
        height := geometry.height }) with
    outputList := w.outputList ++ [output]
    pendingOutputList := w.pendingOutputList.erase output }

variable (answers : Answers)

/-- A call that can fail for reasons of libweston. -/
def call (w : World) : Bool × World := (answers.ok w.calls, { w with calls := w.calls + 1 })

/-- `weston_compositor_create_output` with a first head. -/
def createOutput (w : World) (head : HeadPtr) (name : String) : Option OutputPtr × World :=
  let (ok, w) := w.call answers
  match w.heads head with
  | none => (none, w)
  | some value =>
      if ok && value.output.isNone then (some w.nextOutput, w.addOutput head name value.backend)
      else (none, w)

/-- `weston_output_attach_head`: a head that is attached is refused. -/
def attachHead (w : World) (output : OutputPtr) (head : HeadPtr) : Bool × World :=
  let (ok, w) := w.call answers
  match w.heads head with
  | none => (false, w)
  | some value =>
      if ok && value.output.isNone && (w.outputs output).isSome then
        (true, w.setHead head fun value => { value with output := some output })
      else (false, w)

/-- `weston_output_enable`; `created` is what the listeners of
`output_created_signal` do. -/
def enable (created : OutputPtr → World → World) (w : World) (output : OutputPtr) :
    Bool × World :=
  let geometry := answers.geometry w.calls
  let (ok, w) := w.call answers
  match w.outputs output with
  | none => (false, w)
  | some value =>
      if ok && !value.enabled && w.countHeads output != 0 then
        (true, created output (w.markEnabled output geometry))
      else (false, w)

/-- The colour profile of `apply_color`, for a loaded colour manager. -/
def applyProfile (w : World) (color : ColorSetup) : Bool × World :=
  match color.iccProfile with
  | none => (true, w)
  | some path =>
      if !w.useColorManager then (true, w)
      else if path.toList.contains (Char.ofNat 0) then (false, w)
      else
        let (loaded, w) := w.call answers
        if !loaded then (false, w) else w.call answers

/-- `apply_color`; `full` is the slice of the DRM and headless configurators. -/
def applyColor (w : World) (color : ColorSetup) (full : Bool) : Bool × World :=
  let (ok, w) := w.applyProfile answers color
  if !ok then (false, w)
  else if !full then (true, w)
  else
    let (eotf, w) := w.call answers
    if !eotf then (false, w) else w.call answers

end World

end Westonite.Output
