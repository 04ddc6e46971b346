import Westonite.Shell.Reposition
import Westonite.Shell.Runs

/-! The sizes the policy remembers of its surfaces, and the edges that a resize
keeps in place with them. -/

set_option autoImplicit false

namespace Westonite

open Library

variable {Host : Type}

/-- The size a surface was last committed at, as the policy remembers it. -/
def sizeOf? (surfaces : Surfaces) (id : DesktopSurfaceId) : Option (Int × Int) :=
  (surfaces.lookup id).map fun st => (st.lastWidth, st.lastHeight)

/-- The sizes are the same ones. -/
def SameSizes (before after : Surfaces) : Prop := ∀ id, sizeOf? after id = sizeOf? before id

namespace SameSizes

variable {before middle after : Surfaces}

theorem refl (surfaces : Surfaces) : SameSizes surfaces surfaces := fun _ => rfl

theorem trans (first : SameSizes before middle) (second : SameSizes middle after) :
    SameSizes before after :=
  fun id => (second id).trans (first id)

private theorem of_perm (same : after.entries.Perm before.entries) : SameSizes before after := by
  intro id
  unfold sizeOf?
  rw [AList.perm_lookup same]

theorem modify (surfaces : Surfaces) (id : DesktopSurfaceId) {change : SurfState → SurfState}
    (width : ∀ st, (change st).lastWidth = st.lastWidth)
    (height : ∀ st, (change st).lastHeight = st.lastHeight) :
    SameSizes surfaces (surfaces.modify id change) := by
  intro other
  unfold sizeOf?
  rw [AssocMap.lookup_modify, Option.map_map]
  congr 1
  funext st
  dsimp only [Function.comp]
  split
  · rw [width, height]
  · rfl

end SameSizes

/-! ### What leaves the sizes alone -/

private theorem sizes_foldl {Item : Type} {step : Shell × Host → Item → Shell × Host}
    (one : ∀ state item, SameSizes state.1.surfaces (step state item).1.surfaces)
    (items : List Item) (state : Shell × Host) :
    SameSizes state.1.surfaces (items.foldl step state).1.surfaces := by
  induction items generalizing state with
  | nil => exact .refl _
  | cons item items ih => exact (one state item).trans (ih _)

private theorem sizes_moveSeatFocus (host : ShellHost Host) (shell : Shell) (h : Host)
    (surface : DesktopSurfaceId) (seat : SeatId) :
    SameSizes shell.surfaces (shell.moveSeatFocus host h surface seat).1.surfaces := by
  refine @moveSeatFocus_keeps _ host (fun after _ => SameSizes shell.surfaces after.surfaces) ?_
    (fun _ same => same) shell h surface seat (.refl _)
  intro after h id delta same
  apply same.trans
  have bumped : SameSizes after.surfaces (after.surfaces.modify id fun st => st.bump delta) :=
    .modify _ _ (fun _ => rfl) fun _ => rfl
  unfold Shell.changeFocusCount
  split
  · exact .refl _
  · dsimp only
    split <;> exact bumped

private theorem surfaces_replaceFocus (host : ShellHost Host) (shell : Shell) (h : Host)
    (seat : SeatId)
    (es : Option SurfaceId) : (shell.replaceFocus host h seat es).1.surfaces = shell.surfaces := by
  unfold Shell.replaceFocus
  cases es with
  | none => rfl
  | some es =>
      dsimp only
      split <;> rfl

private theorem sizes_activate (host : ShellHost Host) (shell : Shell) (h : Host)
    (surface : DesktopSurfaceId) (seat : SeatId) (flags : ActivateFlags)
    (target : ActivateTarget) :
    SameSizes shell.surfaces (shell.activate host h surface seat flags target).1.surfaces := by
  unfold Shell.activate
  split
  · dsimp only
    rw [surfaces_replaceFocus]
    exact sizes_moveSeatFocus host shell _ _ seat
  · exact .refl _

private theorem surfaces_setInitialPosition (host : ShellHost Host) (shell : Shell) (h : Host)
    (id : DesktopSurfaceId) (width height : Int) :
    (shell.setInitialPosition host h id width height).1.surfaces = shell.surfaces := by
  have axis : ∀ (shell : Shell) origin range,
      (shell.placeAxis origin range).2.surfaces = shell.surfaces := by
    intro shell origin range
    unfold Shell.placeAxis
    split <;> rfl
  unfold Shell.setInitialPosition
  dsimp only
  split
  · rfl
  · exact (axis _ _ _).trans (axis _ _ _)

private theorem sizes_map (host : ShellHost Host) (shell : Shell) (h : Host) (id : DesktopSurfaceId)
    (width height : Int) :
    SameSizes shell.surfaces (shell.map host h id width height).1.surfaces := by
  have placed := surfaces_setInitialPosition host shell h id width height
  have activations := fun state : Shell × Host =>
    sizes_foldl (fun (state : Shell × Host) seat => sizes_activate host state.1 state.2 id seat
      .configure (.surfaceView id)) (host.seats state.2) state
  unfold Shell.map
  cases (shell.surfaces.lookup id).bind SurfState.xwayland with
  | none =>
      generalize shell.setInitialPosition host h id width height = start at placed
      rw [← placed]
      exact activations (start.1, host.raiseToWorkspaceTop (host.mapSurface start.2 id) id)
  | some position => exact activations (shell, _)

private theorem sizes_focusSurfaceGone (host : ShellHost Host) (shell : Shell) (h : Host)
    (gone : SurfaceId) (main : Option DesktopSurfaceId) :
    SameSizes shell.surfaces (shell.focusSurfaceGone host h gone main).1.surfaces := by
  unfold Shell.focusSurfaceGone
  refine sizes_foldl (fun state seat => ?_) _ (shell, h)
  unfold Shell.replaceGone
  dsimp only
  split
  · exact sizes_activate host { state.1 with focus := state.1.focus.erase seat } _ _ _ _ _
  · exact .refl _

private theorem sizes_sessionActivated (host : ShellHost Host) (shell : Shell) (h : Host) :
    SameSizes shell.surfaces (shell.sessionActivated host h).1.surfaces := by
  unfold Shell.sessionActivated
  refine sizes_foldl (fun state entry => ?_) _ (shell, h)
  unfold Shell.reissueFocus
  dsimp only
  rw [surfaces_replaceFocus]
  exact .refl _

private theorem sizes_setParent (shell : Shell) (id : DesktopSurfaceId)
    (parent : Option DesktopSurfaceId) :
    SameSizes shell.surfaces (shell.setParent id parent).surfaces := by
  cases found : shell.surfaces.lookup id with
  | none =>
      unfold Shell.setParent
      rw [found]
      exact .refl _
  | some st =>
      intro other
      unfold sizeOf?
      rw [lookup_setParent found, Option.map_map]
      congr 1
      funext value
      unfold reparented
      dsimp only [Function.comp]
      split <;> split <;> split <;> rfl

private theorem sizeOf?_surfaceRemoved (host : ShellHost Host) (shell : Shell) (h : Host)
    (id other : DesktopSurfaceId) :
    sizeOf? (shell.surfaceRemoved host h id).1.surfaces other =
      if other = id then none else sizeOf? shell.surfaces other := by
  cases found : shell.surfaces.lookup id with
  | none =>
      unfold Shell.surfaceRemoved sizeOf?
      simp only [found]
      split
      · rename_i same
        rw [same, found]
        rfl
      · rfl
  | some st =>
      unfold sizeOf?
      rw [lookup_surfaceRemoved host h found]
      split
      · rfl
      · rw [Option.map_map]
        congr 1
        funext value
        unfold orphaned
        dsimp only [Function.comp]
        split <;> split <;> rfl

/-! ### What an event does to the sizes -/

/-- A commit that shows a surface at a size. -/
def Event.resizes (id : DesktopSurfaceId) : Event → Option (Int × Int)
  | .committed surface _ _ _ width height mapped =>
      if surface = id ∧ mapped = true ∧ width ≠ 0 then some (width, height) else none
  | _ => none

/-- The size remembered of a surface after an event. -/
def sizeAfter (id : DesktopSurfaceId) (ev : Event) (last : Option (Int × Int)) :
    Option (Int × Int) :=
  match ev with
  | .surfaceAdded surface => if id = surface then some (0, 0) else last
  | .surfaceRemoved surface => if id = surface then none else last
  | .shutdown => none
  | ev => last.map fun size => (ev.resizes id).getD size

private theorem sizeOf?_committed (host : ShellHost Host) (shell : Shell) (h : Host)
    (id other : DesktopSurfaceId) (bufDx bufDy : Coord) (edges : ResizeEdges)
    (width height : Int) (mapped : Bool) :
    sizeOf? (shell.committed host h id bufDx bufDy edges width height mapped).1.surfaces other =
      (sizeOf? shell.surfaces other).map fun size =>
        ((Event.committed id bufDx bufDy edges width height mapped).resizes other).getD size := by
  unfold Event.resizes
  dsimp only
  have unsized : ∀ {after : Surfaces}, SameSizes shell.surfaces after →
      ¬ (id = other ∧ mapped = true ∧ width ≠ 0) →
      sizeOf? after other = (sizeOf? shell.surfaces other).map fun size =>
        (if id = other ∧ mapped = true ∧ width ≠ 0 then some (width, height) else none).getD
          size := by
    intro after same missed
    rw [same other, if_neg missed]
    cases sizeOf? shell.surfaces other <;> rfl
  unfold Shell.committed
  cases found : shell.surfaces.lookup id with
  | none =>
      dsimp only
      by_cases same : id = other
      · unfold sizeOf?
        rw [← same, found]
        rfl
      · exact unsized (.refl _) fun sized => same sized.1
  | some st =>
      dsimp only
      split
      · rename_i empty
        exact unsized (.refl _) fun sized => sized.2.2 empty
      · rename_i wide
        cases mapped with
        | false => exact unsized (sizes_map host shell h id width height) (by simp)
        | true =>
            rw [if_neg (by decide)]
            simp only [wide, ne_eq, not_false_eq_true, and_true]
            split
            · rename_i unchanged
              by_cases same : id = other
              · unfold sizeOf?
                rw [if_pos same, ← same, found, ← unchanged.2.2.1, ← unchanged.2.2.2]
                rfl
              · rw [if_neg same]
                cases sizeOf? shell.surfaces other <;> rfl
            · unfold sizeOf?
              rw [AssocMap.lookup_modify, Option.map_map, Option.map_map]
              congr 1
              funext value
              by_cases same : id = other
              · simp [same]
              · simp [same, Ne.symm same]

private theorem sizeOf?_onEvent (host : ShellHost Host) (shell : Shell) (h : Host) (ev : Event)
    (id : DesktopSurfaceId) :
    sizeOf? (shell.onEvent host h ev).1.surfaces id =
      sizeAfter id ev (sizeOf? shell.surfaces id) := by
  have same : ∀ {after : Surfaces}, SameSizes shell.surfaces after → ev.resizes id = none →
      sizeOf? after id = (sizeOf? shell.surfaces id).map fun size => (ev.resizes id).getD size := by
    intro after same none
    rw [same id, none]
    cases sizeOf? shell.surfaces id <;> rfl
  cases ev with
  | surfaceAdded surface =>
      unfold Shell.onEvent sizeAfter sizeOf?
      dsimp only
      rw [AssocMap.lookup_insert]
      split <;> rfl
  | surfaceRemoved surface => exact sizeOf?_surfaceRemoved host shell h surface id
  | shutdown => rfl
  | committed surface bufDx bufDy edges width height mapped =>
      exact sizeOf?_committed host shell h surface id bufDx bufDy edges width height mapped
  | xwaylandPosition surface x y =>
      exact same (.modify _ _ (fun _ => rfl) fun _ => rfl) rfl
  | parentSet surface parent => exact same (sizes_setParent shell surface parent) rfl
  | activate seat surface via => exact same (sizes_activate host shell h surface seat _ _) rfl
  | trackedSurfaceGone surface main =>
      exact same (sizes_focusSurfaceGone host shell h surface main) rfl
  | sessionActivated => exact same (sizes_sessionActivated host shell h) rfl
  | seatGone seat =>
      refine same ?_ rfl
      unfold Shell.onEvent
      dsimp only
      split <;> exact .refl _
  | pong surfaces =>
      refine same ?_ rfl
      unfold Shell.onEvent
      dsimp only
      split <;> exact .refl _
  | outputCreated output =>
      refine same ?_ rfl
      unfold Shell.onEvent
      dsimp only
      split <;> exact .refl _
  | pingTimeout | outputGone | outputResized | outputMoved | seatCreated | grabEnded
  | headsChanged | headGone | compositorShutdown => exact same (.refl _) rfl

/-- The size of the last commit that showed a surface at one, since it was added. -/
def remembered (id : DesktopSurfaceId) (events : List Event) : Option (Int × Int) :=
  events.foldl (fun last ev => sizeAfter id ev last) none

theorem sizeOf?_run {host : ShellHost Host} {drift : Host → Host → Prop} {config : ShellConfig}
    {h : Host} {events : List Event} {final : Shell × Host}
    (run : Run (Shell.Step host drift) (Shell.new config, h) events final)
    (id : DesktopSurfaceId) : sizeOf? final.1.surfaces id = remembered id events := by
  induction run with
  | nil => rfl
  | snoc _ taken ih =>
      unfold remembered
      rw [List.foldl_concat]
      cases taken with
      | event same _ _ =>
          rw [sizeOf?_onEvent, SameSizes.of_perm same.surfaces id]
          exact congrArg _ ih

/-! ### Where a commit leaves the view -/

/-- How a host moves its views by an offset. -/
structure ShellHost.Offsets (host : ShellHost Host) : Prop where
  offset : ∀ h id pos x y dx dy, host.viewPos h id = some pos →
    host.viewPos (host.setViewPositionWithOffset h id x y dx dy) id = some (x + dx, y + dy)
  transforms : ∀ h id, host.viewPos (host.updateTransforms h id) = host.viewPos h

private theorem placing_offsets (outputs : List Rect) : (ShellHost.placing outputs).Offsets where
  offset h id pos x y dx dy shown := by
    change h id = some pos at shown
    change Function.update h id ((h id).map fun _ => (x + dx, y + dy)) id = _
    rw [Function.update_self, shown, Option.map_some]
  transforms _ _ := rfl

/-- The offset of a commit on one axis. -/
def commitOffset (edges edge : ResizeEdges) (last size : Int) (buf : Coord) : Coord :=
  if edges.contains edge then (i32 (last - size) : Int) else if edges.isEmpty then buf else 0

private theorem viewPos_committed {host : ShellHost Host} (offsets : host.Offsets) {shell : Shell}
    {h : Host} {id : DesktopSurfaceId} {lastWidth lastHeight : Int}
    (last : sizeOf? shell.surfaces id = some (lastWidth, lastHeight)) {x y : Coord}
    (shown : host.viewPos h id = some (x, y)) (bufDx bufDy : Coord) (edges : ResizeEdges)
    {width : Int} (wide : width ≠ 0) (height : Int) :
    host.viewPos (shell.committed host h id bufDx bufDy edges width height true).2 id =
      some (x + commitOffset edges .left lastWidth width bufDx,
        y + commitOffset edges .top lastHeight height bufDy) := by
  obtain ⟨st, found, sizes⟩ := Option.map_eq_some_iff.mp last
  cases sizes
  unfold Shell.committed
  simp only [found]
  rw [if_neg wide, if_neg (by decide)]
  split
  · -- nothing changed: the offset is zero on both axes
    rename_i unchanged
    obtain ⟨rfl, rfl, rfl, rfl⟩ := unchanged
    have still : ∀ edge last, commitOffset edges edge last last 0 = 0 := by
      intro edge last
      unfold commitOffset
      rw [Int.sub_self]
      split
      · rfl
      · exact ite_self _
    rw [still, still, add_zero, add_zero]
    exact shown
  · rw [offsets.transforms, offsets.transforms, shown]
    dsimp only
    rw [offsets.offset _ _ (x, y) _ _ _ _ (by rw [offsets.transforms]; exact shown)]
    unfold commitOffset
    cases edges.isEmpty <;> rfl

private theorem commitOffset_edge {edges edge : ResizeEdges} (held : edges.contains edge = true)
    {last size : Int} (fits : IsI32 (last - size)) (buf : Coord) (corner : Coord) :
    corner + commitOffset edges edge last size buf + size = corner + last := by
  unfold commitOffset
  rw [if_pos held, i32_of_isI32 fits]
  push_cast
  ring

private theorem commitOffset_other {edges edge : ResizeEdges} (some : edges.isEmpty = false)
    (free : edges.contains edge = false) (last size : Int) (buf : Coord) :
    commitOffset edges edge last size buf = 0 := by
  unfold commitOffset
  rw [free, some]
  rfl

/-- Whatever happened before, a commit to a mapped surface keeps the opposite edges of
the size it was last shown at in place. -/
theorem resize_anchored {host : ShellHost Host} (offsets : host.Offsets)
    {drift : Host → Host → Prop} {config : ShellConfig} {start h : Host} {events : List Event}
    {shell ordered : Shell}
    (run : Run (Shell.Step host drift) (Shell.new config, start) events (shell, h))
    (same : Reordered shell ordered) {id : DesktopSurfaceId} (known : shell.known id)
    {now : Host} {x y : Coord} (shown : host.viewPos now id = some (x, y)) (bufDx bufDy : Coord)
    (edges : ResizeEdges) (width height : Int) :
    ∃ lastWidth lastHeight x' y',
      remembered id events = some (lastWidth, lastHeight) ∧
      host.viewPos (ordered.onEvent host now
        (.committed id bufDx bufDy edges width height true)).2 id = some (x', y') ∧
      (width ≠ 0 → edges.contains .left → IsI32 (lastWidth - width) →
        x' + width = x + lastWidth) ∧
      (width ≠ 0 → edges.contains .top → IsI32 (lastHeight - height) →
        y' + height = y + lastHeight) ∧
      (edges.isEmpty = false → edges.contains .left = false → x' = x) ∧
      (edges.isEmpty = false → edges.contains .top = false → y' = y) ∧
      (width = 0 → ordered.onEvent host now
        (.committed id bufDx bufDy edges width height true) = (ordered, now)) := by
  have sized := sizeOf?_run run id
  obtain ⟨st, found⟩ := Option.isSome_iff_exists.mp known
  have last : sizeOf? shell.surfaces id = some (st.lastWidth, st.lastHeight) := by
    unfold sizeOf?
    rw [found, Option.map_some]
  have ignored : width = 0 → ordered.committed host now id bufDx bufDy edges width height true =
      (ordered, now) := by
    intro empty
    unfold Shell.committed
    cases ordered.surfaces.lookup id with
    | none => rfl
    | some st => exact if_pos empty
  refine ⟨st.lastWidth, st.lastHeight, ?_⟩
  by_cases empty : width = 0
  · refine ⟨x, y, sized.symm.trans last, ?_, fun wide => absurd empty wide,
      fun wide => absurd empty wide, fun _ _ => rfl, fun _ _ => rfl, ignored⟩
    exact (congrArg (fun state => host.viewPos state.2 id) (ignored empty)).trans shown
  · have orderedLast := (SameSizes.of_perm same.surfaces id).trans last
    refine ⟨_, _, sized.symm.trans last,
      viewPos_committed offsets orderedLast shown bufDx bufDy edges empty height,
      fun _ left fits => ?_, fun _ top fits => ?_, fun some free => ?_, fun some free => ?_,
      ignored⟩
    · exact commitOffset_edge left fits bufDx x
    · exact commitOffset_edge top fits bufDy y
    · rw [commitOffset_other some free, add_zero]
    · rw [commitOffset_other some free, add_zero]

/-- A window is mapped at one size, shown at it, and shrunk by its left edge. -/
theorem resize_anchored_left :
    ∃ final x y x' y', Run (Shell.Step (.placing []) fun _ _ => True)
        (Shell.new .default, fun _ => some (500, 400))
        [.surfaceAdded ⟨⟨0, 1⟩⟩, .committed ⟨⟨0, 1⟩⟩ 0 0 ⟨0⟩ 100 100 false,
          .committed ⟨⟨0, 1⟩⟩ 0 0 ⟨0⟩ 100 100 true] final ∧
      final.2 ⟨⟨0, 1⟩⟩ = some (x, y) ∧
      (final.1.onEvent (.placing []) final.2
        (.committed ⟨⟨0, 1⟩⟩ 0 0 .left 80 100 true)).2 ⟨⟨0, 1⟩⟩ = some (x', y') ∧
      x' + 80 = x + 100 := by
  obtain ⟨shell, h, run, known, shown⟩ : ∃ shell h,
      Run (Shell.Step (.placing []) fun _ _ => True)
        (Shell.new .default, fun _ => some (500, 400))
        [.surfaceAdded ⟨⟨0, 1⟩⟩, .committed ⟨⟨0, 1⟩⟩ 0 0 ⟨0⟩ 100 100 false,
          .committed ⟨⟨0, 1⟩⟩ 0 0 ⟨0⟩ 100 100 true] (shell, h) ∧
      shell.known ⟨⟨0, 1⟩⟩ = true ∧ h ⟨⟨0, 1⟩⟩ = some (172, 328) := by
    refine ⟨_, _, @Shell.handleAll_run _ (.placing []) _
      (fun state ev => decide (ev.Fresh state.1))
      (fun _ _ fresh => .event (.refl _) trivial (of_decide_eq_true fresh)) _ _ ?_, ?_⟩
    · decide +kernel
    · decide +kernel
  obtain ⟨lastWidth, lastHeight, x', y', last, moved, left, _⟩ :=
    resize_anchored (placing_offsets []) run (.refl _) known shown 0 0 .left 80 100
  cases last
  exact ⟨_, _, _, x', y', run, shown, moved,
    left (by decide) (by decide) (by constructor <;> decide)⟩

/-- Just mapped at one size, a window that is shrunk by its left edge moves the wrong
way: the policy remembers no size yet. -/
theorem resize_after_map_unanchored :
    ∃ final, Run (Shell.Step (.placing []) fun _ _ => True)
        (Shell.new .default, fun _ => some (500, 400))
        [.surfaceAdded ⟨⟨0, 1⟩⟩, .committed ⟨⟨0, 1⟩⟩ 0 0 ⟨0⟩ 100 100 false] final ∧
      final.2 ⟨⟨0, 1⟩⟩ = some (172, 328) ∧
      (final.1.onEvent (.placing []) final.2
        (.committed ⟨⟨0, 1⟩⟩ 0 0 .left 80 100 true)).2 ⟨⟨0, 1⟩⟩ = some (92, 328) ∧
      (92 : Coord) + 80 ≠ 172 + 100 := by
  refine ⟨_, @Shell.handleAll_run _ (.placing []) (Shell.Step (.placing []) fun _ _ => True)
    (fun state ev => decide (ev.Fresh state.1))
    (fun _ _ fresh => .event (.refl _) trivial (of_decide_eq_true fresh))
    (Shell.new .default, fun _ => some (500, 400))
    [.surfaceAdded ⟨⟨0, 1⟩⟩, .committed ⟨⟨0, 1⟩⟩ 0 0 ⟨0⟩ 100 100 false] (by decide +kernel), ?_⟩
  decide +kernel

end Westonite
