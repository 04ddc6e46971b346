import Westonite.Shell.Policy

/-! Preservation rules for the event handler: what the pieces of an activation
keep, every activation keeps, and so does every event without an obligation of
its own. -/

set_option autoImplicit false

namespace Westonite

open Library

variable {Host : Type}

/-- What the steps inside a handler keep. `held` is the state between the
acquisition of a focus by `activate_input` and the moment it is stored, `landed` is
what the child redirection gives. -/
structure Keeps (host : ShellHost Host) (kept : Shell → Host → Prop)
    (held : SeatId → Option SurfaceId → Shell → Host → Prop)
    (landed : Shell → DesktopSurfaceId → Prop) : Prop where
  lands : ∀ {shell h surface}, kept shell h → shell.known surface → ∀ target,
    landed shell (shell.redirect host h 65 surface target).1
  acquire : ∀ {shell h} target seat flags, kept shell h →
    held seat (host.activateInput h target seat flags).1 shell
      (host.activateInput h target seat flags).2
  move : ∀ {shell h surface seat es}, landed shell surface → held seat es shell h →
    held seat es (shell.moveSeatFocus host h surface seat).1
      (shell.moveSeatFocus host h surface seat).2
  store : ∀ {shell h seat es}, held seat es shell h →
    kept (shell.replaceFocus host h seat es).1 (shell.replaceFocus host h seat es).2
  rng : ∀ {shell : Shell} {h} rng, kept shell h → kept { shell with rng } h
  edit : ∀ {shell : Shell} {h id change}, kept shell h →
    (∀ st : SurfState, (change st).parent = st.parent ∧ (change st).children = st.children ∧
      (change st).focusCount = st.focusCount) →
    kept { shell with surfaces := shell.surfaces.modify id change } h
  raise : ∀ {shell h} id, kept shell h → kept shell (host.raiseToWorkspaceTop h id)
  mapSurface : ∀ {shell h} id, kept shell h → kept shell (host.mapSurface h id)
  position : ∀ {shell h} id x y, kept shell h → kept shell (host.setViewPosition h id x y)
  positionWithOffset : ∀ {shell h} id x y dx dy, kept shell h →
    kept shell (host.setViewPositionWithOffset h id x y dx dy)
  transforms : ∀ {shell h} id, kept shell h → kept shell (host.updateTransforms h id)
  dirty : ∀ {shell h} id, kept shell h → kept shell (host.markViewDirty h id)
  busy : ∀ {shell h} id seat, kept shell h → kept shell (host.setBusyCursor h id seat)
  endBusy : ∀ {shell h} id, kept shell h → kept shell (host.endBusyGrabsForClientOf h id)
  background : ∀ {shell h} output argb, kept shell h →
    kept shell (host.recreateBackground h output argb)

namespace Keeps

variable {host : ShellHost Host} {kept : Shell → Host → Prop}
  {held : SeatId → Option SurfaceId → Shell → Host → Prop}
  {landed : Shell → DesktopSurfaceId → Prop}

theorem activate (keeps : Keeps host kept held landed) {shell : Shell} {h : Host}
    (surface : DesktopSurfaceId) (seat : SeatId) (flags : ActivateFlags)
    (target : ActivateTarget) (before : kept shell h) :
    kept (shell.activate host h surface seat flags target).1
      (shell.activate host h surface seat flags target).2 := by
  unfold Shell.activate
  split
  · rename_i known
    have onto := keeps.lands before known target
    generalize shell.redirect host h 65 surface target = destination at onto
    have acquired := keeps.acquire destination.2 seat flags before
    exact keeps.raise _ (keeps.store (keeps.move onto acquired))
  · exact before

private theorem foldl_keeps {Item : Type} {step : Shell × Host → Item → Shell × Host}
    (one : ∀ state item, kept state.1 state.2 → kept (step state item).1 (step state item).2)
    (items : List Item) (state : Shell × Host) (before : kept state.1 state.2) :
    kept (items.foldl step state).1 (items.foldl step state).2 := by
  induction items generalizing state with
  | nil => exact before
  | cons item items ih => exact ih _ (one state item before)

private theorem foldl_host_keeps {Item : Type} {shell : Shell} {step : Host → Item → Host}
    (one : ∀ h item, kept shell h → kept shell (step h item)) (items : List Item) (h : Host)
    (before : kept shell h) : kept shell (items.foldl step h) := by
  induction items generalizing h with
  | nil => exact before
  | cons item items ih => exact ih _ (one h item before)

theorem setInitialPosition (keeps : Keeps host kept held landed) {shell : Shell} {h : Host}
    (id : DesktopSurfaceId) (width height : Int) (before : kept shell h) :
    kept (shell.setInitialPosition host h id width height).1
      (shell.setInitialPosition host h id width height).2 := by
  have draw : ∀ {shell : Shell} {h} modulo, kept shell h → kept (shell.nextRand modulo).2 h :=
    fun _ before => keeps.rng _ before
  have axis : ∀ {shell : Shell} {h} origin range, kept shell h →
      kept (shell.placeAxis origin range).2 h := by
    intro shell h origin range before
    unfold Shell.placeAxis
    split
    · exact draw range before
    · exact before
  unfold Shell.setInitialPosition
  dsimp only
  split
  · exact keeps.position _ _ _ (draw 400 (draw 400 before))
  · exact keeps.position _ _ _ (axis _ _ (axis _ _ before))

theorem map (keeps : Keeps host kept held landed) {shell : Shell} {h : Host}
    (id : DesktopSurfaceId) (width height : Int) (before : kept shell h) :
    kept (shell.map host h id width height).1 (shell.map host h id width height).2 := by
  unfold Shell.map
  have activations : ∀ shell h, kept shell h → ∀ seats : List SeatId,
      kept
        (seats.foldl (fun (state : Shell × Host) seat =>
          state.1.activate host state.2 id seat .configure (.surfaceView id)) (shell, h)).1
        (seats.foldl (fun (state : Shell × Host) seat =>
          state.1.activate host state.2 id seat .configure (.surfaceView id)) (shell, h)).2 := by
    intro shell h placed seats
    apply foldl_keeps _ seats (shell, h) placed
    intro state seat held
    exact keeps.activate id seat .configure (.surfaceView id) held
  cases (shell.surfaces.lookup id).bind SurfState.xwayland with
  | none =>
      have placed := keeps.setInitialPosition id width height before
      exact activations _ _ (keeps.raise _ (keeps.mapSurface _ placed)) _
  | some position =>
      have placed := fun dx dy =>
        keeps.positionWithOffset id position.1 position.2 dx dy before
      exact activations _ _ (keeps.raise _ (keeps.mapSurface _ (placed _ _))) _

theorem committed (keeps : Keeps host kept held landed) {shell : Shell} {h : Host}
    (id : DesktopSurfaceId) (bufDx bufDy : Coord) (edges : ResizeEdges) (width height : Int)
    (mapped : Bool) (before : kept shell h) :
    kept (shell.committed host h id bufDx bufDy edges width height mapped).1
      (shell.committed host h id bufDx bufDy edges width height mapped).2 := by
  unfold Shell.committed
  cases shell.surfaces.lookup id with
  | none => exact before
  | some st =>
      simp only
      split
      · exact before
      · split
        · exact keeps.map id width height before
        · split
          · exact before
          · have started := keeps.transforms id before
            apply keeps.transforms
            apply keeps.edit
            · split
              · exact keeps.positionWithOffset _ _ _ _ _ started
              · exact started
            · intro st
              exact ⟨rfl, rfl, rfl⟩

theorem repositionAll (keeps : Keeps host kept held landed) {shell : Shell} {h : Host}
    (before : kept shell h) : kept shell (shell.repositionAll host h) := by
  unfold Shell.repositionAll
  dsimp only
  split
  · exact before
  · apply foldl_host_keeps _ _ _ before
    intro h id before
    unfold Shell.reposition
    split
    · exact before
    · split
      · exact keeps.dirty _ before
      · split
        · exact keeps.position _ _ _ before
        · exact before

theorem outputMoved (keeps : Keeps host kept held landed) {shell : Shell} {h : Host}
    (output : OutputId) (dx dy : Coord) (before : kept shell h) :
    kept shell (shell.outputMoved host h output dx dy) := by
  unfold Shell.outputMoved
  apply foldl_host_keeps _ _ _ before
  intro h id before
  split
  · split
    · exact before
    · exact keeps.position _ _ _ before
  · exact before

theorem pingTimeout (keeps : Keeps host kept held landed) {shell : Shell} {h : Host}
    (surfaces : List DesktopSurfaceId) (before : kept shell h) :
    kept shell (Shell.pingTimeout host h surfaces) := by
  unfold Shell.pingTimeout
  apply foldl_host_keeps _ _ _ before
  intro h seat before
  split
  · exact before
  · split
    · exact keeps.busy _ _ before
    · exact before

theorem sessionActivated (keeps : Keeps host kept held landed) {shell : Shell} {h : Host}
    (before : kept shell h) :
    kept (shell.sessionActivated host h).1 (shell.sessionActivated host h).2 := by
  unfold Shell.sessionActivated
  apply foldl_keeps _ _ (shell, h) before
  intro state entry before
  exact keeps.store (keeps.acquire (.surfaceView entry.2) entry.1 .empty before)

/-- The replacement of a focus that died; `dropped` covers the moment the slot
of a seat is empty. -/
theorem focusSurfaceGone (keeps : Keeps host kept held landed) {shell : Shell} {h : Host}
    (gone : SurfaceId) (main : Option DesktopSurfaceId) (before : kept shell h)
    (dropped : ∀ {shell : Shell} {h} seat, kept shell h →
      kept { shell with focus := shell.focus.erase seat } h) :
    kept (shell.focusSurfaceGone host h gone main).1
      (shell.focusSurfaceGone host h gone main).2 := by
  unfold Shell.focusSurfaceGone
  apply foldl_keeps _ _ (shell, h) before
  intro state seat before
  unfold Shell.replaceGone
  dsimp only
  split
  · exact keeps.activate _ _ _ _ (dropped seat before)
  · exact dropped seat before

end Keeps

/-- The events that add, remove or relink something the policy knows. -/
def Event.structural : Event → Bool
  | .surfaceAdded _ | .surfaceRemoved _ | .parentSet _ _ | .trackedSurfaceGone _ _
  | .seatCreated _ | .seatGone _ | .shutdown => true
  | _ => false

/-- Every other event keeps what the pieces of a handler keep. -/
theorem Keeps.onEvent {host : ShellHost Host} {kept : Shell → Host → Prop}
    {held : SeatId → Option SurfaceId → Shell → Host → Prop}
    {landed : Shell → DesktopSurfaceId → Prop} (keeps : Keeps host kept held landed)
    {shell : Shell} {h : Host} {ev : Event} (plain : ev.structural = false)
    (before : kept shell h) :
    kept (shell.onEvent host h ev).1 (shell.onEvent host h ev).2 := by
  cases ev with
  | surfaceAdded | surfaceRemoved | parentSet | trackedSurfaceGone | seatCreated | seatGone
  | shutdown => cases plain
  | committed surface bufDx bufDy edges width height mapped =>
      exact keeps.committed surface bufDx bufDy edges width height mapped before
  | xwaylandPosition surface x y => exact keeps.edit before fun st => ⟨rfl, rfl, rfl⟩
  | pingTimeout surfaces => exact keeps.pingTimeout surfaces before
  | pong surfaces =>
      unfold Shell.onEvent
      cases surfaces with
      | nil => exact before
      | cons first rest => exact keeps.endBusy first before
  | activate seat surface via => exact keeps.activate surface seat _ _ before
  | outputCreated output =>
      have shown := keeps.background output shell.config.backgroundColor before
      unfold Shell.onEvent
      dsimp only
      split
      · exact keeps.repositionAll shown
      · exact shown
  | outputGone => exact keeps.repositionAll before
  | outputResized output => exact keeps.background output _ before
  | outputMoved output dx dy => exact keeps.outputMoved output dx dy before
  | sessionActivated => exact keeps.sessionActivated before
  | grabEnded | headsChanged | headGone | compositorShutdown => exact before

/-! ### A move of the focus -/

/-- At most two counts change, and then the seats. -/
theorem moveSeatFocus_keeps (host : ShellHost Host) {kept : Shell → Host → Prop}
    (counted : ∀ {shell h} id delta, kept shell h →
      kept (shell.changeFocusCount host h id delta).1 (shell.changeFocusCount host h id delta).2)
    (seated : ∀ {shell h} seats, kept shell h → kept { shell with seats } h)
    {shell : Shell} {h : Host} (surface : DesktopSurfaceId) (seat : SeatId)
    (before : kept shell h) :
    kept (shell.moveSeatFocus host h surface seat).1
      (shell.moveSeatFocus host h surface seat).2 := by
  unfold Shell.moveSeatFocus
  split
  · exact before
  · rename_i st _
    dsimp only
    cases st.focusedSurface with
    | none =>
        split
        · exact seated _ (counted surface 1 before)
        · exact before
    | some prev =>
        dsimp only
        split <;> split
        · exact seated _ (counted surface 1 (counted prev (-1) before))
        · exact seated _ (counted surface 1 before)
        · exact counted prev (-1) before
        · exact before

/-! ### Facts about the host alone -/

/-- Every command of the host keeps a fact about its state. -/
structure Commands (host : ShellHost Host) (kept : Host → Prop) : Prop where
  activateInput : ∀ {h} target seat flags, kept h →
    kept (host.activateInput h target seat flags).2
  untrackSurface : ∀ {h} id, kept h → kept (host.untrackSurface h id)
  setActivated : ∀ {h} id active, kept h → kept (host.setActivated h id active)
  raiseToWorkspaceTop : ∀ {h} id, kept h → kept (host.raiseToWorkspaceTop h id)
  mapSurface : ∀ {h} id, kept h → kept (host.mapSurface h id)
  setViewPosition : ∀ {h} id x y, kept h → kept (host.setViewPosition h id x y)
  setViewPositionWithOffset : ∀ {h} id x y dx dy, kept h →
    kept (host.setViewPositionWithOffset h id x y dx dy)
  updateTransforms : ∀ {h} id, kept h → kept (host.updateTransforms h id)
  markViewDirty : ∀ {h} id, kept h → kept (host.markViewDirty h id)
  destroySurfaceState : ∀ {h} id, kept h → kept (host.destroySurfaceState h id)
  setBusyCursor : ∀ {h} id seat, kept h → kept (host.setBusyCursor h id seat)
  endBusyGrabsForClientOf : ∀ {h} id, kept h → kept (host.endBusyGrabsForClientOf h id)
  recreateBackground : ∀ {h} output argb, kept h → kept (host.recreateBackground h output argb)

namespace Commands

variable {host : ShellHost Host} {kept : Host → Prop}

theorem changeFocusCount (commands : Commands host kept) {shell : Shell} {h : Host}
    (id : DesktopSurfaceId) (delta : Int) (before : kept h) :
    kept (shell.changeFocusCount host h id delta).2 := by
  unfold Shell.changeFocusCount
  split
  · exact before
  · dsimp only
    split
    · exact commands.setActivated _ _ before
    · exact before

theorem moveSeatFocus (commands : Commands host kept) {shell : Shell} {h : Host}
    (surface : DesktopSurfaceId) (seat : SeatId) (before : kept h) :
    kept (shell.moveSeatFocus host h surface seat).2 :=
  @moveSeatFocus_keeps _ host (fun _ h => kept h)
    (fun id delta before => commands.changeFocusCount id delta before) (fun _ before => before)
    shell h surface seat before

theorem replaceFocus (commands : Commands host kept) {shell : Shell} {h : Host} (seat : SeatId)
    (es : Option SurfaceId) (before : kept h) : kept (shell.replaceFocus host h seat es).2 := by
  unfold Shell.replaceFocus
  split
  · exact before
  · dsimp only
    split
    · exact commands.untrackSurface _ before
    · exact before

theorem keeps (commands : Commands host kept) :
    Keeps host (fun _ h => kept h) (fun _ _ _ h => kept h) (fun _ _ => True) where
  lands _ _ _ := trivial
  acquire target seat flags before := commands.activateInput target seat flags before
  move _ before := commands.moveSeatFocus _ _ before
  store before := commands.replaceFocus _ _ before
  rng _ before := before
  edit before _ := before
  raise id before := commands.raiseToWorkspaceTop id before
  mapSurface id before := commands.mapSurface id before
  position id x y before := commands.setViewPosition id x y before
  positionWithOffset id x y dx dy before := commands.setViewPositionWithOffset id x y dx dy before
  transforms id before := commands.updateTransforms id before
  dirty id before := commands.markViewDirty id before
  busy id seat before := commands.setBusyCursor id seat before
  endBusy id before := commands.endBusyGrabsForClientOf id before
  background output argb before := commands.recreateBackground output argb before

theorem onEvent (commands : Commands host kept) {shell : Shell} {h : Host} (ev : Event)
    (before : kept h) : kept (shell.onEvent host h ev).2 := by
  cases structural : ev.structural with
  | false => exact commands.keeps.onEvent structural before
  | true =>
      cases ev with
      | surfaceAdded | parentSet | seatCreated => exact before
      | surfaceRemoved surface => exact commands.destroySurfaceState surface before
      | trackedSurfaceGone gone main =>
          exact commands.keeps.focusSurfaceGone gone main before fun _ before => before
      | seatGone seat =>
          unfold Shell.onEvent
          dsimp only
          split
          · exact commands.untrackSurface _ before
          · exact before
      | shutdown =>
          have folded : ∀ (ids : List DesktopSurfaceId) h, kept h →
              kept (ids.foldl host.destroySurfaceState h) := by
            intro ids
            induction ids with
            | nil => exact fun _ before => before
            | cons id ids ih => exact fun _ before => ih _ (commands.destroySurfaceState id before)
          exact folded _ h before
      | _ => cases structural

end Commands

end Westonite
