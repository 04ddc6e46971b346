import Mathlib.Data.List.Sort
import Westonite.Library.AssocMap
import Westonite.Shell.Host

/-! The desktop-shell policy state machine. A map is iterated in the order of
its entries; between two events the order is arbitrary. -/

set_option autoImplicit false

namespace Westonite

open Library

/-- Two's complement wrap of an `i32` result. -/
def i32 (value : Int) : Int := value.bmod 4294967296

structure ShellConfig where
  backgroundColor : UInt32
  deriving DecidableEq, Repr

def ShellConfig.default : ShellConfig := { backgroundColor := 0xff002244 }

structure SurfState where
  parent : Option DesktopSurfaceId
  /-- Stacking order, the most recent child last. -/
  children : List DesktopSurfaceId
  focusCount : Int
  xwayland : Option (Coord × Coord)
  lastWidth : Int
  lastHeight : Int
  deriving DecidableEq, Repr

def SurfState.default : SurfState where
  parent := none
  children := []
  focusCount := 0
  xwayland := none
  lastWidth := 0
  lastHeight := 0

/-- `children.retain(|c| *c != id)`. -/
def SurfState.withoutChild (st : SurfState) (id : DesktopSurfaceId) : SurfState :=
  { st with children := st.children.filter fun c => c ≠ id }

def SurfState.withoutParent (st : SurfState) : SurfState := { st with parent := none }

/-- `focus_count += delta`, wrapping as a release build does. -/
def SurfState.bump (st : SurfState) (delta : Int) : SurfState :=
  { st with focusCount := i32 (st.focusCount + delta) }

structure SeatState where
  focusedSurface : Option DesktopSurfaceId
  deriving DecidableEq, Repr

def SeatState.default : SeatState := { focusedSurface := none }

abbrev Surfaces := AssocMap DesktopSurfaceId SurfState

structure Shell where
  config : ShellConfig
  surfaces : Surfaces
  seats : AssocMap SeatId SeatState
  focus : AssocMap SeatId SurfaceId
  rng : UInt64

namespace Shell

def new (config : ShellConfig) : Shell where
  config := config
  surfaces := ∅
  seats := ∅
  focus := ∅
  rng := 0x853c49e6748fea9b

/-- xorshift64*; a modulus that is not positive draws all the same. -/
def nextRand (shell : Shell) (modulo : Int) : Int × Shell :=
  let x := shell.rng
  let x := x ^^^ (x >>> 12)
  let x := x ^^^ (x <<< 25)
  let x := x ^^^ (x >>> 27)
  let drawn :=
    if modulo ≤ 0 then 0
    else (((x * 0x2545F4914F6CDD1D) >>> 33) % UInt64.ofNat modulo.toNat).toNat
  (drawn, { shell with rng := x })

def contains (g : Rect) (pos : Coord × Coord) : Bool :=
  pos.1 ≥ g.x && pos.1 < i32 (g.x + g.width) && pos.2 ≥ g.y && pos.2 < i32 (g.y + g.height)

def known (shell : Shell) (id : DesktopSurfaceId) : Bool := (shell.surfaces.lookup id).isSome

/-! ### Parents and children -/

/-- A surface leaves the children of its parent, when that one is known. -/
def unlinkFrom (surfaces : Surfaces) (id : DesktopSurfaceId)
    (parent : Option DesktopSurfaceId) : Surfaces :=
  match parent with
  | some op => surfaces.modify op fun p => p.withoutChild id
  | none => surfaces

def setParent (shell : Shell) (id : DesktopSurfaceId)
    (parent : Option DesktopSurfaceId) : Shell :=
  match shell.surfaces.lookup id with
  | none => shell
  | some st =>
      let surfaces := unlinkFrom shell.surfaces id st.parent
      match parent.filter fun np => (surfaces.lookup np).isSome with
      | some np =>
          let surfaces := surfaces.modify np fun p => { p with children := p.children ++ [id] }
          { shell with surfaces := surfaces.modify id fun st => { st with parent := some np } }
      | none => { shell with surfaces := surfaces.modify id fun st => { st with parent := none } }

/-! ### Activated state -/

/-- `depth > 64` is `fuel = 0` for the depth `65 - fuel`. -/
def hasFocusedDescendant (shell : Shell) : Nat → DesktopSurfaceId → Bool
  | 0, _ => false
  | fuel + 1, id =>
      match shell.surfaces.lookup id with
      | none => false
      | some st =>
          st.focusCount > 0 || st.children.any fun c => shell.hasFocusedDescendant fuel c

/-- The climb to the root parent, at most 65 hops. -/
def climb (shell : Shell) : Nat → DesktopSurfaceId → DesktopSurfaceId
  | 0, root => root
  | hops + 1, root =>
      match (shell.surfaces.lookup root).bind SurfState.parent with
      | none => root
      | some p => shell.climb hops p

variable {Host : Type} (host : ShellHost Host)

def syncActivated (shell : Shell) (h : Host) (id : DesktopSurfaceId) : Host :=
  let root := shell.climb 65 id
  host.setActivated h root (shell.hasFocusedDescendant 65 root)

def changeFocusCount (shell : Shell) (h : Host) (id : DesktopSurfaceId) (delta : Int) :
    Shell × Host :=
  match shell.surfaces.lookup id with
  | none => (shell, h)
  | some st =>
      let before := st.focusCount
      let shell := { shell with surfaces := shell.surfaces.modify id fun st => st.bump delta }
      if decide (before = 0) ≠ decide ((st.bump delta).focusCount = 0) then
        (shell, shell.syncActivated host h id)
      else
        (shell, h)

/-! ### Activation and focus -/

/-- The most recent mapped child. -/
def lastMappedChild (shell : Shell) (h : Host) (id : DesktopSurfaceId) :
    Option DesktopSurfaceId :=
  match shell.surfaces.lookup id with
  | none => none
  | some st => st.children.reverse.find? fun c => host.isViewMapped h c

/-- The walk from a surface to the last mapped child of its last mapped child,
at most 65 hops. -/
def redirect (shell : Shell) (h : Host) :
    Nat → DesktopSurfaceId → ActivateTarget → DesktopSurfaceId × ActivateTarget
  | 0, surface, target => (surface, target)
  | hops + 1, surface, target =>
      match shell.lastMappedChild host h surface with
      | none => (surface, target)
      | some child => shell.redirect h hops child (.surfaceView child)

/-- The focus counts and the focused surface of a known seat. -/
def moveSeatFocus (shell : Shell) (h : Host) (surface : DesktopSurfaceId) (seat : SeatId) :
    Shell × Host :=
  match shell.seats.lookup seat with
  | none => (shell, h)
  | some st =>
      let prev := st.focusedSurface
      let (shell, h) :=
        match prev with
        | some p =>
            if p ≠ surface ∧ shell.known p then shell.changeFocusCount host h p (-1)
            else (shell, h)
        | none => (shell, h)
      if prev ≠ some surface then
        let (shell, h) := shell.changeFocusCount host h surface 1
        ({ shell with
          seats := shell.seats.modify seat fun _ => { focusedSurface := some surface } }, h)
      else
        (shell, h)

/-- Store the acquisition of a seat and release the one it replaces. -/
def replaceFocus (shell : Shell) (h : Host) (seat : SeatId) (es : Option SurfaceId) :
    Shell × Host :=
  match es with
  | none => (shell, h)
  | some es =>
      let old := shell.focus.lookup seat
      let shell := { shell with focus := shell.focus.insert seat es }
      match old with
      | some old => (shell, host.untrackSurface h old)
      | none => (shell, h)

def activate (shell : Shell) (h : Host) (surface : DesktopSurfaceId) (seat : SeatId)
    (flags : ActivateFlags) (target : ActivateTarget) : Shell × Host :=
  if shell.known surface then
    let (surface, target) := shell.redirect host h 65 surface target
    let (focusedEs, h) := host.activateInput h target seat flags
    let (shell, h) := shell.moveSeatFocus host h surface seat
    let (shell, h) := shell.replaceFocus host h seat focusedEs
    (shell, host.raiseToWorkspaceTop h surface)
  else
    (shell, h)

/-- One seat of `focus_surface_gone`. -/
def replaceGone (main : Option DesktopSurfaceId) (state : Shell × Host) (seat : SeatId) :
    Shell × Host :=
  let (shell, h) := state
  let next :=
    (main.filter fun m => shell.known m).or
      ((host.workspaceViewsTopDown h).find? fun v => shell.known v)
  let shell := { shell with focus := shell.focus.erase seat }
  match next with
  | some next => shell.activate host h next seat .configure (.surfaceView next)
  | none => (shell, h)

def focusSurfaceGone (shell : Shell) (h : Host) (gone : SurfaceId)
    (main : Option DesktopSurfaceId) : Shell × Host :=
  let seats := (shell.focus.entries.filter fun entry => entry.2 = gone).map fun entry => entry.1
  seats.foldl (replaceGone host main) (shell, h)

/-! ### Placement -/

/-- The first output that contains a position. -/
def containingOutput (h : Host) (pos : Coord × Coord) : Option Rect :=
  (host.outputs h).findSome? fun out =>
    match host.outputInfo h out with
    | none => none
    | some info => if contains info.geometry pos then some info.geometry else none

/-- One axis of the placement: a draw where the window leaves room. -/
def placeAxis (shell : Shell) (origin range : Int) : Int × Shell :=
  if range > 0 then
    let (drawn, shell) := shell.nextRand range
    (i32 (origin + drawn), shell)
  else
    (origin, shell)

def setInitialPosition (shell : Shell) (h : Host) (id : DesktopSurfaceId)
    (width height : Int) : Shell × Host :=
  let pos := ((host.seats h).findSome? (host.pointerPos h)).getD (0, 0)
  match containingOutput host h pos with
  | none =>
      let (dx, shell) := shell.nextRand 400
      let (dy, shell) := shell.nextRand 400
      (shell, host.setViewPosition h id (i32 (10 + dx)) (i32 (10 + dy)))
  | some area =>
      let (x, shell) := shell.placeAxis area.x (i32 (area.width - width))
      let (y, shell) := shell.placeAxis area.y (i32 (area.height - height))
      (shell, host.setViewPosition h id x y)

def map (shell : Shell) (h : Host) (id : DesktopSurfaceId) (width height : Int) :
    Shell × Host :=
  let (shell, h) :=
    match (shell.surfaces.lookup id).bind SurfState.xwayland with
    | some (x, y) =>
        let g := (host.surfaceGeometry h id).getD ⟨0, 0, 0, 0⟩
        (shell, host.setViewPositionWithOffset h id x y (i32 (-g.x)) (i32 (-g.y)))
    | none => shell.setInitialPosition host h id width height
  let h := host.mapSurface h id
  let h := host.raiseToWorkspaceTop h id
  (host.seats h).foldl
    (fun (state : Shell × Host) seat =>
      state.1.activate host state.2 id seat .configure (.surfaceView id))
    (shell, h)

def committed (shell : Shell) (h : Host) (id : DesktopSurfaceId) (bufDx bufDy : Coord)
    (resizeEdges : ResizeEdges) (width height : Int) (mapped : Bool) : Shell × Host :=
  match shell.surfaces.lookup id with
  | none => (shell, h)
  | some st =>
      if width = 0 then (shell, h)
      else if !mapped then shell.map host h id width height
      else if bufDx = 0 ∧ bufDy = 0 ∧ st.lastWidth = width ∧ st.lastHeight = height then
        (shell, h)
      else
        let h := host.updateTransforms h id
        let offs := if resizeEdges.isEmpty then (bufDx, bufDy) else (0, 0)
        let offsX : Coord :=
          if resizeEdges.contains .left then i32 (st.lastWidth - width) else offs.1
        let offsY : Coord :=
          if resizeEdges.contains .top then i32 (st.lastHeight - height) else offs.2
        let h :=
          match host.viewPos h id with
          | some (x, y) => host.setViewPositionWithOffset h id x y offsX offsY
          | none => h
        let shell :=
          { shell with
            surfaces := shell.surfaces.modify id fun st =>
              { st with lastWidth := width, lastHeight := height } }
        (shell, host.updateTransforms h id)

/-- One surface of `reposition_all`. -/
def reposition (infos : List Rect) (h : Host) (id : DesktopSurfaceId) : Host :=
  match host.viewPos h id with
  | none => h
  | some pos =>
      if infos.any fun g => contains g pos then host.markViewDirty h id
      else
        match infos.head? with
        | some f =>
            host.setViewPosition h id (i32 (f.x + f.width.tdiv 4))
              (i32 (f.y + f.height.tdiv 4))
        | none => h

def repositionAll (shell : Shell) (h : Host) : Host :=
  let outputs := host.outputs h
  if outputs.isEmpty then h
  else
    let infos := outputs.filterMap fun o => (host.outputInfo h o).map OutputInfo.geometry
    shell.surfaces.keys.foldl (reposition host infos) h

/-! ### Life cycle -/

def surfaceRemoved (shell : Shell) (h : Host) (id : DesktopSurfaceId) : Shell × Host :=
  let seats := shell.seats.update fun _ st =>
    if st.focusedSurface = some id then { focusedSurface := none } else st
  let surfaces :=
    match shell.surfaces.lookup id with
    | none => shell.surfaces
    | some st =>
        -- children lose their parent link; they keep living unparented
        let surfaces := st.children.foldl
          (fun surfaces child => AssocMap.modify child SurfState.withoutParent surfaces)
          (shell.surfaces.erase id)
        unlinkFrom surfaces id st.parent
  ({ shell with seats, surfaces }, host.destroySurfaceState h id)

/-- Activation of a seat on `session_activated`, for its focused surface. -/
def reissueFocus (state : Shell × Host) (entry : SeatId × DesktopSurfaceId) : Shell × Host :=
  let (shell, h) := state
  let (es, h) := host.activateInput h (.surfaceView entry.2) entry.1 .empty
  shell.replaceFocus host h entry.1 es

def sessionActivated (shell : Shell) (h : Host) : Shell × Host :=
  let entries := shell.seats.entries.filterMap fun entry =>
    entry.2.focusedSurface.map fun f => (entry.1, f)
  entries.foldl (reissueFocus host) (shell, h)

/-- The known surfaces of the stacking snapshot, first occurrences only. -/
def stackedIds (shell : Shell) (views : List DesktopSurfaceId) : List DesktopSurfaceId :=
  views.foldl
    (fun ids v => if shell.known v ∧ v ∉ ids then ids ++ [v] else ids) []

/-- The derived order of ids: slot, then generation. -/
def idLe (left right : DesktopSurfaceId) : Prop :=
  left.raw.slot < right.raw.slot ∨
    left.raw.slot = right.raw.slot ∧ left.raw.generation ≤ right.raw.generation

instance : DecidableRel idLe := fun _ _ => inferInstanceAs (Decidable (_ ∨ _))

def shutdown (shell : Shell) (h : Host) : Shell × Host :=
  let ids := shell.stackedIds (host.workspaceViewsTopDown h)
  let rest := (shell.surfaces.keys.filter fun id => id ∉ ids).insertionSort idLe
  let h := (ids ++ rest).foldl host.destroySurfaceState h
  ({ shell with surfaces := ∅, seats := ∅, focus := ∅ }, h)

def pingTimeout (h : Host) (surfaces : List DesktopSurfaceId) : Host :=
  (host.seats h).foldl
    (fun h seat =>
      match host.pointerFocus h seat with
      | none => h
      | some focus => if focus ∈ surfaces then host.setBusyCursor h focus seat else h)
    h

def outputMoved (shell : Shell) (h : Host) (output : OutputId) (dx dy : Coord) : Host :=
  shell.surfaces.keys.foldl
    (fun h id =>
      if host.viewOutput h id = some output then
        match host.viewPos h id with
        | none => h
        | some (x, y) => host.setViewPosition h id (x + dx) (y + dy)
      else h)
    h

def activation (seat : SeatId) (surface : DesktopSurfaceId) :
    ActivateVia → ActivateFlags × ActivateTarget
  | .pointerBinding => (.union .clicked .configure, .pointerFocusView seat)
  | .touchBinding => (.configure, .touchFocusView seat)
  | .busyClick => (.configure, .surfaceView surface)

/-- The public entry point. -/
def onEvent (shell : Shell) (h : Host) : Event → Shell × Host
  | .surfaceAdded surface =>
      ({ shell with surfaces := shell.surfaces.insert surface .default }, h)
  | .surfaceRemoved surface => shell.surfaceRemoved host h surface
  | .committed surface bufDx bufDy resizeEdges width height mapped =>
      shell.committed host h surface bufDx bufDy resizeEdges width height mapped
  | .parentSet surface parent => (shell.setParent surface parent, h)
  | .xwaylandPosition surface x y =>
      ({ shell with
        surfaces := shell.surfaces.modify surface fun st =>
          { st with xwayland := some (x, y) } }, h)
  | .pingTimeout surfaces => (shell, pingTimeout host h surfaces)
  | .pong surfaces =>
      match surfaces.head? with
      | some first => (shell, host.endBusyGrabsForClientOf h first)
      | none => (shell, h)
  | .activate seat surface via =>
      let (flags, target) := activation seat surface via
      shell.activate host h surface seat flags target
  | .trackedSurfaceGone surface main => shell.focusSurfaceGone host h surface main
  | .outputCreated output =>
      let h := host.recreateBackground h output shell.config.backgroundColor
      if (host.outputs h).length = 1 then (shell, shell.repositionAll host h) else (shell, h)
  | .outputGone _ _ => (shell, shell.repositionAll host h)
  | .outputResized output =>
      (shell, host.recreateBackground h output shell.config.backgroundColor)
  | .outputMoved output dx dy => (shell, shell.outputMoved host h output dx dy)
  | .seatCreated seat => ({ shell with seats := shell.seats.insert seat .default }, h)
  | .seatGone seat =>
      let old := shell.focus.lookup seat
      let shell :=
        { shell with focus := shell.focus.erase seat, seats := shell.seats.erase seat }
      match old with
      | some old => (shell, host.untrackSurface h old)
      | none => (shell, h)
  | .sessionActivated => shell.sessionActivated host h
  | .shutdown => shell.shutdown host h
  | .grabEnded _ | .headsChanged | .headGone _ _ | .compositorShutdown => (shell, h)

end Shell

end Westonite
