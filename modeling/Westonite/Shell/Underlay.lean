import Westonite.Shell.Rules

/-! libweston under the wrapper: what a part of the wrapper only passes on to it, and what
the part hears of in return. -/

set_option autoImplicit false

namespace Westonite

/-! ### Calls -/

/-- libweston in a state `Base`. -/
structure Underlay (Happening Base : Type) where
  host : ShellHost Base
  /-- What it announced since it was last asked. -/
  announced : Base → List Happening × Base

namespace Underlay

variable {Wrapper Happening Base : Type} (underlay : Underlay Happening Base)
  (heard : Wrapper → Happening → Wrapper)

/-- After a call: the wrapper hears of what happened in it. -/
def hear (w : Wrapper) (base : Base) : Wrapper × Base :=
  let (happenings, base) := underlay.announced base
  (happenings.foldl heard w, base)

/-- `impl ShellHost for Ctx`, where the wrapper has nothing of its own to do. -/
def passing : ShellHost (Wrapper × Base) where
  outputs h := underlay.host.outputs h.2
  outputInfo h := underlay.host.outputInfo h.2
  seats h := underlay.host.seats h.2
  pointerPos h := underlay.host.pointerPos h.2
  pointerFocus h := underlay.host.pointerFocus h.2
  workspaceViewsTopDown h := underlay.host.workspaceViewsTopDown h.2
  isViewMapped h := underlay.host.isViewMapped h.2
  viewPos h := underlay.host.viewPos h.2
  viewOutput h := underlay.host.viewOutput h.2
  surfaceGeometry h := underlay.host.surfaceGeometry h.2
  activateInput h target seat flags :=
    let (es, base) := underlay.host.activateInput h.2 target seat flags
    (es, underlay.hear heard h.1 base)
  untrackSurface h id := (h.1, underlay.host.untrackSurface h.2 id)
  setActivated h id active := underlay.hear heard h.1 (underlay.host.setActivated h.2 id active)
  raiseToWorkspaceTop h id := underlay.hear heard h.1 (underlay.host.raiseToWorkspaceTop h.2 id)
  mapSurface h id := underlay.hear heard h.1 (underlay.host.mapSurface h.2 id)
  setViewPosition h id x y := underlay.hear heard h.1 (underlay.host.setViewPosition h.2 id x y)
  setViewPositionWithOffset h id x y dx dy :=
    underlay.hear heard h.1 (underlay.host.setViewPositionWithOffset h.2 id x y dx dy)
  updateTransforms h id := underlay.hear heard h.1 (underlay.host.updateTransforms h.2 id)
  markViewDirty h id := underlay.hear heard h.1 (underlay.host.markViewDirty h.2 id)
  destroySurfaceState h id := underlay.hear heard h.1 (underlay.host.destroySurfaceState h.2 id)
  setBusyCursor h id seat := underlay.hear heard h.1 (underlay.host.setBusyCursor h.2 id seat)
  endBusyGrabsForClientOf h id :=
    underlay.hear heard h.1 (underlay.host.endBusyGrabsForClientOf h.2 id)
  recreateBackground h output argb :=
    underlay.hear heard h.1 (underlay.host.recreateBackground h.2 output argb)

variable {underlay heard} {kept : Wrapper → Prop}

/-- What every announcement keeps, hearing of all of them does. -/
theorem hear_kept (keeps : ∀ {w} happening, kept w → kept (heard w happening)) {w : Wrapper}
    (holds : kept w) (base : Base) : kept (underlay.hear heard w base).1 := by
  unfold hear
  obtain ⟨happenings, base⟩ := underlay.announced base
  dsimp only
  induction happenings generalizing w with
  | nil => exact holds
  | cons happening happenings ih => exact ih (keeps happening holds)

theorem passing_commands (keeps : ∀ {w} happening, kept w → kept (heard w happening)) :
    Commands (underlay.passing heard) fun h => kept h.1 where
  activateInput _ _ _ holds := hear_kept keeps holds _
  untrackSurface _ holds := holds
  setActivated _ _ holds := hear_kept keeps holds _
  raiseToWorkspaceTop _ holds := hear_kept keeps holds _
  mapSurface _ holds := hear_kept keeps holds _
  setViewPosition _ _ _ holds := hear_kept keeps holds _
  setViewPositionWithOffset _ _ _ _ _ holds := hear_kept keeps holds _
  updateTransforms _ holds := hear_kept keeps holds _
  markViewDirty _ holds := hear_kept keeps holds _
  destroySurfaceState _ holds := hear_kept keeps holds _
  setBusyCursor _ _ holds := hear_kept keeps holds _
  endBusyGrabsForClientOf _ holds := hear_kept keeps holds _
  recreateBackground _ _ holds := hear_kept keeps holds _

end Underlay

/-! ### Events -/

/-- The parts of the wrapper that announce events of their own. -/
inductive Announcer where
  | desktopSurfaces
  | trackedSurfaces
  | outputs
  | shutdown
  | other
  deriving DecidableEq, Repr

def Event.announcer : Event → Announcer
  | .surfaceAdded _ | .surfaceRemoved _ => .desktopSurfaces
  | .trackedSurfaceGone _ _ => .trackedSurfaces
  | .outputCreated _ | .outputGone _ _ | .outputResized _ | .outputMoved _ _ _ => .outputs
  | .shutdown => .shutdown
  | _ => .other

/-- An event that comes in from elsewhere. -/
def comesInBut (own : List Announcer) (ev : Event) : Bool := ev.announcer ∉ own

end Westonite
