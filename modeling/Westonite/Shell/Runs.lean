import Westonite.Library.Run
import Westonite.Shell.Family
import Westonite.Shell.Rules

/-! Runs of the policy: one event after the other, handled to its end. -/

set_option autoImplicit false

namespace Westonite

open Library

/-- The same policy state with its maps in another iteration order. -/
structure Reordered (before after : Shell) : Prop where
  config : after.config = before.config
  rng : after.rng = before.rng
  surfaces : after.surfaces.entries.Perm before.surfaces.entries
  seats : after.seats.entries.Perm before.seats.entries
  focus : after.focus.entries.Perm before.focus.entries

theorem Reordered.refl (shell : Shell) : Reordered shell shell :=
  ⟨rfl, rfl, .refl _, .refl _, .refl _⟩

namespace Reordered

variable {before after : Shell} (same : Reordered before after)

include same

theorem lookup_surfaces (id : DesktopSurfaceId) :
    after.surfaces.lookup id = before.surfaces.lookup id :=
  AList.perm_lookup same.surfaces

theorem lookup_seats (seat : SeatId) : after.seats.lookup seat = before.seats.lookup seat :=
  AList.perm_lookup same.seats

theorem lookup_focus (seat : SeatId) : after.focus.lookup seat = before.focus.lookup seat :=
  AList.perm_lookup same.focus

theorem links : SameLinks before.surfaces after.surfaces where
  known id := by rw [same.lookup_surfaces]
  parent id := by
    unfold parentOf
    rw [same.lookup_surfaces]
  children id := by
    unfold childrenOf
    rw [same.lookup_surfaces]

end Reordered

/-- A new surface is announced under an id that is not known. -/
def Event.Fresh (shell : Shell) : Event → Prop
  | .surfaceAdded surface => shell.surfaces.lookup surface = none
  | _ => True

instance (shell : Shell) (ev : Event) : Decidable (ev.Fresh shell) :=
  match ev with
  | .surfaceAdded surface => inferInstanceAs (Decidable (shell.surfaces.lookup surface = none))
  | .committed .. | .xwaylandPosition .. | .parentSet .. | .surfaceRemoved _ | .pingTimeout _
  | .pong _ | .trackedSurfaceGone .. | .activate .. | .outputCreated _ | .outputGone ..
  | .outputResized _ | .outputMoved .. | .grabEnded _ | .seatCreated _ | .seatGone _
  | .sessionActivated | .headsChanged | .headGone .. | .shutdown | .compositorShutdown =>
      .isTrue trivial

theorem Reordered.fresh {before after : Shell} (same : Reordered before after) {ev : Event}
    (fresh : ev.Fresh before) : ev.Fresh after := by
  cases ev with
  | surfaceAdded surface => exact (same.lookup_surfaces surface).trans fresh
  | _ => trivial

/-- One event. Before it the host may have drifted, and a map may iterate in
any order. -/
inductive Shell.Step {Host : Type} (host : ShellHost Host) (drift : Host → Host → Prop) :
    Shell × Host → Event → Shell × Host → Prop where
  | event {shell ordered : Shell} {h drifted : Host} {ev : Event} :
      Reordered shell ordered → drift h drifted → ev.Fresh shell →
      Step host drift (shell, h) ev (ordered.onEvent host drifted ev)

/-- The events of a list, one after the other on a host that does not drift. -/
def Shell.handleAll {Host : Type} (host : ShellHost Host) (state : Shell × Host)
    (events : List Event) : Shell × Host :=
  events.foldl (fun state ev => state.1.onEvent host state.2 ev) state

/-- A check on every event and the state it meets. -/
def Shell.checkAll {Host : Type} (host : ShellHost Host)
    (check : Shell × Host → Event → Bool) : Shell × Host → List Event → Bool
  | _, [] => true
  | state, ev :: events =>
      check state ev && Shell.checkAll host check (state.1.onEvent host state.2 ev) events

theorem Shell.handleAll_run {Host : Type} {host : ShellHost Host}
    {step : Shell × Host → Event → Shell × Host → Prop} {check : Shell × Host → Event → Bool}
    (one : ∀ state ev, check state ev → step state ev (state.1.onEvent host state.2 ev))
    {state : Shell × Host} {events : List Event} (checked : checkAll host check state events) :
    Run step state events (handleAll host state events) := by
  induction events generalizing state with
  | nil => exact .nil
  | cons ev events ih =>
      simp only [checkAll, Bool.and_eq_true] at checked
      exact .cons (one state ev checked.1) (ih checked.2)

end Westonite
