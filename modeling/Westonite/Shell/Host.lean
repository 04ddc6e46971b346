import Westonite.Events

/-! The boundary the shell is written against. Queries read the state of the
host, commands may change all of it. -/

set_option autoImplicit false

namespace Westonite

/-- What view input activation lands on. -/
inductive ActivateTarget where
  | surfaceView (surface : DesktopSurfaceId)
  | pointerFocusView (seat : SeatId)
  | touchFocusView (seat : SeatId)
  deriving DecidableEq, Repr

/-- `trait ShellHost`, over the state `Host` of the implementing side. -/
structure ShellHost (Host : Type) where
  outputs : Host → List OutputId
  outputInfo : Host → OutputId → Option OutputInfo
  seats : Host → List SeatId
  pointerPos : Host → SeatId → Option (Coord × Coord)
  pointerFocus : Host → SeatId → Option DesktopSurfaceId
  workspaceViewsTopDown : Host → List DesktopSurfaceId
  isViewMapped : Host → DesktopSurfaceId → Bool
  viewPos : Host → DesktopSurfaceId → Option (Coord × Coord)
  viewOutput : Host → DesktopSurfaceId → Option OutputId
  surfaceGeometry : Host → DesktopSurfaceId → Option Rect
  activateInput : Host → ActivateTarget → SeatId → ActivateFlags → Option SurfaceId × Host
  untrackSurface : Host → SurfaceId → Host
  setActivated : Host → DesktopSurfaceId → Bool → Host
  raiseToWorkspaceTop : Host → DesktopSurfaceId → Host
  mapSurface : Host → DesktopSurfaceId → Host
  setViewPosition : Host → DesktopSurfaceId → Coord → Coord → Host
  setViewPositionWithOffset :
    Host → DesktopSurfaceId → Coord → Coord → Coord → Coord → Host
  updateTransforms : Host → DesktopSurfaceId → Host
  markViewDirty : Host → DesktopSurfaceId → Host
  destroySurfaceState : Host → DesktopSurfaceId → Host
  setBusyCursor : Host → DesktopSurfaceId → SeatId → Host
  endBusyGrabsForClientOf : Host → DesktopSurfaceId → Host
  recreateBackground : Host → OutputId → UInt32 → Host

/-- A host with nothing on it that ignores every command. -/
def ShellHost.inert : ShellHost Unit where
  outputs _ := []
  outputInfo _ _ := none
  seats _ := []
  pointerPos _ _ := none
  pointerFocus _ _ := none
  workspaceViewsTopDown _ := []
  isViewMapped _ _ := false
  viewPos _ _ := none
  viewOutput _ _ := none
  surfaceGeometry _ _ := none
  activateInput _ _ _ _ := (none, ())
  untrackSurface _ _ := ()
  setActivated _ _ _ := ()
  raiseToWorkspaceTop _ _ := ()
  mapSurface _ _ := ()
  setViewPosition _ _ _ _ := ()
  setViewPositionWithOffset _ _ _ _ _ _ := ()
  updateTransforms _ _ := ()
  markViewDirty _ _ := ()
  destroySurfaceState _ _ := ()
  setBusyCursor _ _ _ := ()
  endBusyGrabsForClientOf _ _ := ()
  recreateBackground _ _ _ := ()

end Westonite
