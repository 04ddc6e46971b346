import Westonite.Registry.Ids

/-! The one event enumeration of both dispatch tiers, with the plain data that
crosses between the wrapper and the policy. -/

set_option autoImplicit false

namespace Westonite

/-- An `f64` coordinate, taken as the exact number it stands for. -/
abbrev Coord := Rat

/-- Plain geometry, `i32` throughout. -/
structure Rect where
  x : Int
  y : Int
  width : Int
  height : Int
  deriving DecidableEq, Repr, Inhabited

structure OutputInfo where
  name : String
  geometry : Rect
  deriving DecidableEq, Repr

/-- The bit set mirroring `enum weston_desktop_surface_edge`. -/
structure ResizeEdges where
  bits : UInt32
  deriving DecidableEq, Repr

namespace ResizeEdges

def top : ResizeEdges := ⟨1⟩
def bottom : ResizeEdges := ⟨2⟩
def left : ResizeEdges := ⟨4⟩
def right : ResizeEdges := ⟨8⟩

/-- The bits that name no edge are dropped. -/
def ofBitsTruncate (bits : Nat) : ResizeEdges := ⟨UInt32.ofNat (bits &&& 15)⟩

def isEmpty (edges : ResizeEdges) : Bool := edges.bits == 0

def contains (edges other : ResizeEdges) : Bool := edges.bits &&& other.bits == other.bits

end ResizeEdges

/-- The bit set mirroring `enum weston_activate_flag`. -/
structure ActivateFlags where
  bits : UInt32
  deriving DecidableEq, Repr

namespace ActivateFlags

def empty : ActivateFlags := ⟨0⟩
def configure : ActivateFlags := ⟨1⟩
def clicked : ActivateFlags := ⟨2⟩

def union (one other : ActivateFlags) : ActivateFlags := ⟨one.bits ||| other.bits⟩

end ActivateFlags

/-- How an `activate` event was triggered. -/
inductive ActivateVia where
  | pointerBinding
  | touchBinding
  | busyClick
  deriving DecidableEq, Repr

inductive Event where
  | surfaceAdded (surface : DesktopSurfaceId)
  | surfaceRemoved (surface : DesktopSurfaceId)
  | committed (surface : DesktopSurfaceId) (bufDx bufDy : Coord)
      (resizeEdges : ResizeEdges) (width height : Int) (mapped : Bool)
  | parentSet (surface : DesktopSurfaceId) (parent : Option DesktopSurfaceId)
  | xwaylandPosition (surface : DesktopSurfaceId) (x y : Coord)
  | pingTimeout (surfaces : List DesktopSurfaceId)
  | pong (surfaces : List DesktopSurfaceId)
  | activate (seat : SeatId) (surface : DesktopSurfaceId) (via : ActivateVia)
  | outputCreated (output : OutputId)
  | seatCreated (seat : SeatId)
  | trackedSurfaceGone (surface : SurfaceId) (main : Option DesktopSurfaceId)
  | outputGone (output : OutputId) (name : String)
  | outputResized (output : OutputId)
  | outputMoved (output : OutputId) (dx dy : Coord)
  | seatGone (seat : SeatId)
  | grabEnded (surface : DesktopSurfaceId)
  | sessionActivated
  | shutdown
  | headsChanged
  | headGone (head : HeadId) (name : String)
  | compositorShutdown
  deriving DecidableEq, Repr

end Westonite
