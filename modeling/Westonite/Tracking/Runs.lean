import Westonite.Tracking.Operations

/-! Runs of the shell on the tracking of the wrapper: every count is the number of
the slots that hold the surface. -/

set_option autoImplicit false

namespace Westonite.Tracking

open Library Registry

variable {Base : Type} {compositor : Compositor Base}

/-- While the death of a surface is handled: it is queued, nothing acquires its id,
and only the seats that are left hold it. -/
def Clears (late : Option (SurfaceId × List SeatId)) (extra : Option SurfaceId)
    (focus : AssocMap SeatId SurfaceId) (w : Wrapper) : Prop :=
  ∀ gone left, late = some (gone, left) →
    (∃ main, .trackedSurfaceGone gone main ∈ w.queue) ∧ extra ≠ some gone ∧
      ∀ seat, focus.lookup seat = some gone → seat ∈ left

/-- As long as nothing wrapped, the shell and the wrapper balance. -/
def Settled (late : Option (SurfaceId × List SeatId)) (extra : Option SurfaceId) (shell : Shell)
    (h : Wrapper × Base) : Prop :=
  h.1.wrapped = false →
    Balanced [] extra shell.focus h.1 ∧ Clears late extra shell.focus h.1

variable {late : Option (SurfaceId × List SeatId)} {extra : Option SurfaceId}

theorem Clears.later {focus : AssocMap SeatId SurfaceId} {w after : Wrapper}
    (clears : Clears late extra focus w) (later : Later w after) :
    Clears late extra focus after := by
  intro gone left same
  obtain ⟨⟨main, queued⟩, rest⟩ := clears gone left same
  exact ⟨⟨main, later.queue _ queued⟩, rest⟩

private theorem Settled.of_focus {shell other : Shell} {h : Wrapper × Base}
    (settled : Settled late extra shell h) (same : other.focus = shell.focus) :
    Settled late extra other h := by
  unfold Settled
  rw [same]
  exact settled

/-! ### Calls of the host -/

theorem Settled.hear {shell : Shell} {w : Wrapper} {earlier : Base} (base : Base)
    (settled : Settled late extra shell (w, earlier)) :
    Settled late extra shell (compositor.hear Wrapper.happen w base) := by
  refine @Underlay.hear_kept _ _ _ compositor.toUnderlay Wrapper.happen
    (fun w => w.wrapped = false → Balanced [] extra shell.focus w ∧
      Clears late extra shell.focus w) ?_ w settled base
  intro w happening before unwrapped
  have later := happen_later w happening
  obtain ⟨balanced, clears⟩ := before (later.wrapped unwrapped)
  exact ⟨balanced.happen happening, clears.later later⟩

theorem Settled.activateInput {shell : Shell} {h : Wrapper × Base}
    (settled : Settled late none shell h) (target : ActivateTarget) (seat : SeatId)
    (flags : ActivateFlags) :
    Settled late (compositor.tracking.activateInput h target seat flags).1 shell
      (compositor.tracking.activateInput h target seat flags).2 := by
  obtain ⟨w, base⟩ := h
  unfold Compositor.tracking
  dsimp only
  split
  · exact settled
  · rename_i seatPtr _
    have heard := @Settled.hear _ compositor _ _ _ w base
      (compositor.activateInput base target seatPtr flags).2 settled
    generalize compositor.hear Wrapper.happen w
      (compositor.activateInput base target seatPtr flags).2 = after at heard ⊢
    obtain ⟨w, base⟩ := after
    split
    · exact heard
    · rename_i es _
      intro unwrapped
      have later := trackSurface_later w es
      obtain ⟨balanced, clears⟩ := heard (later.wrapped unwrapped)
      have tracked := balanced.trackSurface unwrapped
      refine ⟨tracked, ?_⟩
      intro gone left same
      obtain ⟨⟨main, queued⟩, _, held⟩ := clears gone left same
      refine ⟨⟨main, later.queue _ queued⟩, ?_, held⟩
      intro acquired
      have alive := balanced.acquired acquired
      rw [tracked.gone gone main (later.queue _ queued)] at alive
      cases alive

/-! ### Slots -/

theorem Settled.replaceFocus {shell : Shell} {h : Wrapper × Base} {seat : SeatId}
    {es : Option SurfaceId} (settled : Settled late es shell h) :
    Settled late none (shell.replaceFocus compositor.tracking h seat es).1
      (shell.replaceFocus compositor.tracking h seat es).2 := by
  unfold Shell.replaceFocus
  cases es with
  | none => exact settled
  | some es =>
      have cleared : ∀ {w : Wrapper}, Clears late (some es) shell.focus w →
          Clears late none (shell.focus.insert seat es) w := by
        intro w clears gone left same
        obtain ⟨queued, different, held⟩ := clears gone left same
        refine ⟨queued, nofun, ?_⟩
        intro other found
        rw [AssocMap.lookup_insert] at found
        split at found
        · exact absurd found different
        · exact held other found
      dsimp only
      split
      · rename_i old found
        intro unwrapped
        have later := untrackSurface_later h.1 old
        obtain ⟨balanced, clears⟩ := settled (later.wrapped unwrapped)
        have stored := balanced.store seat
        rw [found] at stored
        exact ⟨stored.untrackSurface, (cleared clears).later later⟩
      · rename_i found
        intro unwrapped
        obtain ⟨balanced, clears⟩ := settled unwrapped
        have stored := balanced.store seat
        rw [found] at stored
        exact ⟨stored, cleared clears⟩

theorem Settled.changeFocusCount {shell : Shell} {h : Wrapper × Base}
    (settled : Settled late extra shell h) (id : DesktopSurfaceId) (delta : Int) :
    Settled late extra (shell.changeFocusCount compositor.tracking h id delta).1
      (shell.changeFocusCount compositor.tracking h id delta).2 := by
  unfold Shell.changeFocusCount
  split
  · exact settled
  · dsimp only
    split
    · exact Settled.of_focus (settled.hear _) rfl
    · exact settled.of_focus rfl

theorem Settled.moveSeatFocus {shell : Shell} {h : Wrapper × Base} {surface : DesktopSurfaceId}
    {seat : SeatId} (settled : Settled late extra shell h) :
    Settled late extra (shell.moveSeatFocus compositor.tracking h surface seat).1
      (shell.moveSeatFocus compositor.tracking h surface seat).2 :=
  @moveSeatFocus_keeps _ compositor.tracking (Settled late extra)
    (fun id delta settled => settled.changeFocusCount id delta)
    (fun _ settled => settled.of_focus rfl) shell h surface seat settled

/-- Every handler step keeps the balance. -/
private theorem settled_keeps (compositor : Compositor Base)
    (late : Option (SurfaceId × List SeatId)) :
    Keeps compositor.tracking (Settled late none) (fun _ es => Settled late es)
      (fun _ _ => True) where
  lands _ _ _ := trivial
  acquire target seat flags settled := settled.activateInput target seat flags
  move _ settled := settled.moveSeatFocus
  store settled := settled.replaceFocus
  rng _ settled := settled.of_focus rfl
  edit settled _ := settled.of_focus rfl
  raise _ settled := settled.hear _
  mapSurface _ settled := settled.hear _
  position _ _ _ settled := settled.hear _
  positionWithOffset _ _ _ _ _ settled := settled.hear _
  transforms _ settled := settled.hear _
  dirty _ settled := settled.hear _
  busy _ _ settled := settled.hear _
  endBusy _ settled := settled.hear _
  background _ _ settled := settled.hear _

/-! ### A death -/

private theorem changeFocusCount_focus {Host : Type} (host : ShellHost Host) (shell : Shell)
    (h : Host)
    (id : DesktopSurfaceId) (delta : Int) :
    (shell.changeFocusCount host h id delta).1.focus = shell.focus := by
  unfold Shell.changeFocusCount
  split
  · rfl
  · dsimp only
    split <;> rfl

private theorem moveSeatFocus_focus {Host : Type} (host : ShellHost Host) (shell : Shell) (h : Host)
    (surface : DesktopSurfaceId) (seat : SeatId) :
    (shell.moveSeatFocus host h surface seat).1.focus = shell.focus :=
  @moveSeatFocus_keeps _ host (fun now _ => now.focus = shell.focus)
    (fun id delta same => (changeFocusCount_focus host _ _ id delta).trans same)
    (fun _ same => same) shell h surface seat rfl

private theorem replaceFocus_focus {Host : Type} (host : ShellHost Host) (shell : Shell) (h : Host)
    {seat other : SeatId} (es : Option SurfaceId) (different : other ≠ seat) :
    (shell.replaceFocus host h seat es).1.focus.lookup other = shell.focus.lookup other := by
  unfold Shell.replaceFocus
  split
  · rfl
  · dsimp only
    split <;> rw [AssocMap.lookup_insert, if_neg different]

/-- An activation touches the slot of its seat alone. -/
private theorem activate_focus {Host : Type} (host : ShellHost Host) (shell : Shell) (h : Host)
    (surface : DesktopSurfaceId) {seat other : SeatId} (flags : ActivateFlags)
    (target : ActivateTarget) (different : other ≠ seat) :
    (shell.activate host h surface seat flags target).1.focus.lookup other =
      shell.focus.lookup other := by
  unfold Shell.activate
  split
  · refine (replaceFocus_focus host _ _ _ different).trans ?_
    exact congrArg (AList.lookup other) (moveSeatFocus_focus host shell _ _ seat)
  · rfl

theorem Settled.replaceGone {shell : Shell} {h : Wrapper × Base} {gone : SurfaceId}
    {seat : SeatId} {seats : List SeatId} (main : Option DesktopSurfaceId)
    (settled : Settled (some (gone, seat :: seats)) none shell h)
    (held : shell.focus.lookup seat = some gone) :
    Settled (some (gone, seats)) none
      (Shell.replaceGone compositor.tracking main (shell, h) seat).1
      (Shell.replaceGone compositor.tracking main (shell, h) seat).2 := by
  have dropped : Settled (some (gone, seats)) none
      { shell with focus := shell.focus.erase seat } h := by
    intro unwrapped
    obtain ⟨balanced, clears⟩ := settled unwrapped
    obtain ⟨⟨main, queued⟩, _, left⟩ := clears gone (seat :: seats) rfl
    have taken := balanced.take seat
    rw [held] at taken
    -- the release of a stale id changes nothing
    have released := taken.untrackSurface
    unfold Wrapper.untrackSurface at released
    rw [balanced.gone gone main queued] at released
    refine ⟨released, ?_⟩
    intro other rest same
    obtain ⟨rfl, rfl⟩ := Prod.mk.inj (Option.some.inj same)
    refine ⟨⟨main, queued⟩, nofun, ?_⟩
    intro other found
    obtain ⟨different, there⟩ := AssocMap.lookup_erase_eq_some.mp found
    cases List.mem_cons.mp (left other there) with
    | inl here => exact absurd here different
    | inr member => exact member
  unfold Shell.replaceGone
  dsimp only
  split
  · exact (settled_keeps compositor _).activate _ _ _ _ dropped
  · exact dropped

private theorem replaceGone_focus {Host : Type} (host : ShellHost Host) (shell : Shell) (h : Host)
    (main : Option DesktopSurfaceId) {seat other : SeatId} (different : other ≠ seat) :
    (Shell.replaceGone host main (shell, h) seat).1.focus.lookup other =
      shell.focus.lookup other := by
  have erased : (shell.focus.erase seat).lookup other = shell.focus.lookup other := by
    rw [AssocMap.lookup_erase, if_neg different]
  unfold Shell.replaceGone
  dsimp only
  split
  · exact (activate_focus host _ h _ _ _ different).trans erased
  · exact erased

/-- After the death of a surface is handled, no slot holds it. -/
theorem Settled.focusSurfaceGone {shell : Shell} {h : Wrapper × Base} {gone : SurfaceId}
    {main : Option DesktopSurfaceId} (settled : Settled none none shell h)
    (queued : .trackedSurfaceGone gone main ∈ h.1.queue) :
    Settled (some (gone, [])) none (shell.focusSurfaceGone compositor.tracking h gone main).1
      (shell.focusSurfaceGone compositor.tracking h gone main).2 := by
  have replaced : ∀ (seats : List SeatId) (state : Shell × Wrapper × Base),
      Settled (some (gone, seats)) none state.1 state.2 →
      (∀ seat ∈ seats, state.1.focus.lookup seat = some gone) → seats.Nodup →
      Settled (some (gone, [])) none
        (seats.foldl (Shell.replaceGone compositor.tracking main) state).1
        (seats.foldl (Shell.replaceGone compositor.tracking main) state).2 := by
    intro seats
    induction seats with
    | nil => exact fun _ settled _ _ => settled
    | cons seat seats ih =>
        intro state settled held distinct
        rw [List.nodup_cons] at distinct
        apply ih _ _ _ distinct.2
        · exact settled.replaceGone main (held seat List.mem_cons_self)
        · intro other member
          have different : other ≠ seat := fun same => distinct.1 (same ▸ member)
          rw [replaceGone_focus compositor.tracking state.1 state.2 main different]
          exact held other (.tail seat member)
  unfold Shell.focusSurfaceGone
  apply replaced
  · intro unwrapped
    obtain ⟨balanced, _⟩ := settled unwrapped
    refine ⟨balanced, ?_⟩
    intro other left same
    obtain ⟨rfl, rfl⟩ := Prod.mk.inj (Option.some.inj same)
    refine ⟨⟨main, queued⟩, nofun, ?_⟩
    intro seat found
    have entry := AssocMap.mem_entries_iff.mpr found
    exact List.mem_map.mpr ⟨_, List.mem_filter.mpr ⟨entry, decide_eq_true rfl⟩, rfl⟩
  · intro seat member
    obtain ⟨entry, filtered, rfl⟩ := List.mem_map.mp member
    obtain ⟨inside, holds⟩ := List.mem_filter.mp filtered
    rw [← of_decide_eq_true holds]
    exact AssocMap.mem_entries_iff.mp inside
  · have keys : (shell.focus.entries.map fun entry => entry.1).Nodup := shell.focus.nodupKeys
    exact keys.sublist (List.filter_sublist.map _)

/-! ### Runs -/

theorem Settled.seatGone {shell : Shell} {h : Wrapper × Base}
    (settled : Settled none none shell h) (seat : SeatId) :
    Settled none none (shell.onEvent compositor.tracking h (.seatGone seat)).1
      (shell.onEvent compositor.tracking h (.seatGone seat)).2 := by
  unfold Shell.onEvent
  dsimp only
  split
  · rename_i old found
    intro unwrapped
    have later := untrackSurface_later h.1 old
    obtain ⟨balanced, _⟩ := settled (later.wrapped unwrapped)
    have taken := balanced.take seat
    rw [found] at taken
    exact ⟨taken.untrackSurface, nofun⟩
  · rename_i found
    intro unwrapped
    obtain ⟨balanced, _⟩ := settled unwrapped
    have taken := balanced.take seat
    rw [found] at taken
    exact ⟨taken, nofun⟩

private theorem setParent_focus (shell : Shell) (id : DesktopSurfaceId)
    (parent : Option DesktopSurfaceId) : (shell.setParent id parent).focus = shell.focus := by
  unfold Shell.setParent
  split
  · rfl
  · dsimp only
    split <;> rfl

theorem Settled.onEvent {shell : Shell} {h : Wrapper × Base}
    (settled : Settled none none shell h) {ev : Event} (comes : comesIn ev = true) :
    Settled none none (shell.onEvent compositor.tracking h ev).1
      (shell.onEvent compositor.tracking h ev).2 := by
  have keeps := settled_keeps compositor none
  cases structural : ev.structural with
  | false => exact keeps.onEvent structural settled
  | true =>
      cases ev with
      | surfaceAdded surface => exact settled.of_focus rfl
      | surfaceRemoved surface => exact Settled.of_focus (settled.hear _) rfl
      | parentSet surface parent => exact settled.of_focus (setParent_focus shell surface parent)
      | seatCreated seat => exact settled.of_focus rfl
      | seatGone seat => exact settled.seatGone seat
      | trackedSurfaceGone | shutdown => cases comes
      | _ => cases structural

theorem Settled.reordered {shell ordered : Shell} {w : Wrapper} {base drifted : Base}
    (settled : Settled none none shell (w, base)) (same : Reordered shell ordered) :
    Settled none none ordered (w, drifted) := by
  intro unwrapped
  obtain ⟨balanced, _⟩ := settled unwrapped
  refine ⟨balanced.of_slots ?_ ?_, nofun⟩
  · intro id
    unfold holders
    rw [AssocMap.count_perm same.focus]
  · intro id holds
    refine holds.imp_left ?_
    intro slot
    obtain ⟨seat, found⟩ := slot
    exact ⟨seat, (same.lookup_focus seat).symm.trans found⟩

theorem Settled.step {state next : Shell × Wrapper × Base} {label : Label}
    (settled : Settled none none state.1 state.2) (taken : Step compositor state label next) :
    Settled none none next.1 next.2 := by
  cases taken with
  | event same comes => exact (settled.reordered same).onEvent comes
  | @deliver shell ordered after w later base drifted last ev same queued running handled =>
      have before := @Settled.reordered _ _ _ _ _ drifted settled same
      cases comes : comesIn ev with
      | true =>
          have kept := @Settled.onEvent _ compositor _ _ before ev comes
          rw [handled] at kept
          intro unwrapped
          refine ⟨(kept unwrapped).1.handled ?_, nofun⟩
          intro id main death
          rw [death] at comes
          cases comes
      | false =>
          cases ev with
          | trackedSurfaceGone gone main =>
              have cleared := @Settled.focusSurfaceGone _ compositor _ _ _ _ before queued
              have result : ordered.focusSurfaceGone compositor.tracking (w, drifted) gone main =
                (after, later, last) := handled
              rw [result] at cleared
              intro unwrapped
              obtain ⟨balanced, clears⟩ := cleared unwrapped
              refine ⟨balanced.handled ?_, nofun⟩
              intro id otherMain named seat found
              obtain ⟨rfl, _⟩ := Event.trackedSurfaceGone.inj named
              cases (clears gone [] rfl).2.2 seat found
          | shutdown => exact absurd rfl running
          | _ => cases comes
  | happen =>
      intro unwrapped
      obtain ⟨balanced, _⟩ := settled ((happen_later _ _).wrapped unwrapped)
      exact ⟨balanced.happen _, nofun⟩
  | drop => exact fun unwrapped => ⟨(settled unwrapped).1.dropRetired, nofun⟩

/-- The counts of the wrapper agree with the focus slots of the shell. -/
structure Tracked (shell : Shell) (w : Wrapper) : Prop where
  /-- The count of an id that resolves is the number of the seats that hold it. -/
  counted : ∀ id ptr, w.surfaces.resolve id.raw = some ptr →
    w.trackCounts id.raw = some (holders shell.focus id)
  /-- A surface is registered just when a seat holds an id of it. -/
  held : ∀ ptr, (w.surfaces.idOf ptr).isSome ↔
    ∃ id, w.surfaces.resolve id.raw = some ptr ∧ 0 < holders shell.focus id
  /-- The listeners are those of the registered surfaces, one for each. -/
  listened : w.listeners.Nodup ∧
    ∀ ptr id, ⟨ptr, id⟩ ∈ w.listeners ↔ w.surfaces.idOf ptr = some id.raw
  /-- What a seat holds is live, or its death will be delivered. -/
  announced : ∀ seat id, shell.focus.lookup seat = some id →
    (∃ ptr, w.surfaces.resolve id.raw = some ptr) ∨
      ∃ main, .trackedSurfaceGone id main ∈ w.queue

theorem Balanced.tracked {shell : Shell} {w : Wrapper}
    (balanced : Balanced [] none shell.focus w) : Tracked shell w where
  counted := balanced.counted
  held ptr := by
    rw [Option.isSome_iff_exists]
    constructor
    · intro registered
      obtain ⟨raw, located⟩ := registered
      have live := (SlotTable.idOf_eq_some_iff_resolve balanced.valid).mp located
      exact ⟨⟨raw⟩, live, balanced.positive ⟨raw⟩ ptr live⟩
    · intro holds
      obtain ⟨id, live, _⟩ := holds
      exact ⟨id.raw, (SlotTable.idOf_eq_some_iff_resolve balanced.valid).mpr live⟩
  listened := by
    refine ⟨balanced.distinct, ?_⟩
    intro ptr id
    rw [balanced.listened, SlotTable.idOf_eq_some_iff_resolve balanced.valid]
  announced seat id found := by
    rcases balanced.announced id (.inl ⟨seat, found⟩) with live | queued | impossible
    · exact .inl live
    · exact .inr queued
    · cases impossible

theorem Balanced.new : Balanced [] none (∅ : AssocMap SeatId SurfaceId) .new where
  valid := SlotTable.default_wellFormed
  counted _ _ live := by cases live
  positive _ _ live := by cases live
  small _ _ live := by cases live
  listened listener := by
    constructor
    · exact nofun
    · exact nofun
  distinct := List.nodup_nil
  retired := nofun
  gone := nofun
  announced id holds := by
    rcases holds with ⟨seat, found⟩ | impossible
    · cases found
    · cases impossible

/-- In every run up to the shutdown the counts of the wrapper agree with the slots of
the shell, unless a `u32` ran over. -/
theorem tracked_counts {config : ShellConfig} {base : Base} {labels : List Label}
    {final : Shell × Wrapper × Base}
    (run : Run (Step compositor) (.new config, .new, base) labels final)
    (unwrapped : final.2.1.wrapped = false) : Tracked final.1 final.2.1 := by
  have settled : Settled none none final.1 final.2 :=
    @Run.invariant _ _ _ (fun state => Settled none none state.1 state.2)
      (fun _ _ _ settled taken => settled.step taken) _ _ _
      (fun _ => ⟨.new, nofun⟩) run
  exact (settled unwrapped).1.tracked

/-! ### A run -/

/-- The step of a label where the rest of libweston rests and the maps keep their
order. -/
def Compositor.next (compositor : Compositor Base) (state : Shell × Wrapper × Base) :
    Label → Option (Shell × Wrapper × Base)
  | .event ev =>
      if comesIn ev then some (state.1.onEvent compositor.tracking state.2 ev) else none
  | .deliver ev =>
      if ev ∈ state.2.1.queue ∧ ev ≠ .shutdown then
        let (after, later, last) := state.1.onEvent compositor.tracking state.2 ev
        some (after, { later with queue := later.queue.erase ev }, last)
      else none
  | .happen happening => some (state.1, state.2.1.happen happening, state.2.2)
  | .drop => some (state.1, state.2.1.dropRetired, state.2.2)

private theorem next_step {state after : Shell × Wrapper × Base} {label : Label}
    (taken : compositor.next state label = some after) : Step compositor state label after := by
  obtain ⟨shell, w, base⟩ := state
  cases label with
  | event ev =>
      dsimp only [Compositor.next] at taken
      split at taken
      · rename_i comes
        obtain rfl := Option.some.inj taken
        exact .event (.refl shell) comes
      · cases taken
  | deliver ev =>
      dsimp only [Compositor.next] at taken
      split at taken
      · rename_i queued
        obtain rfl := Option.some.inj taken
        exact .deliver (.refl shell) queued.1 queued.2 rfl
      · cases taken
  | happen happening =>
      obtain rfl := Option.some.inj taken
      exact .happen
  | drop =>
      obtain rfl := Option.some.inj taken
      exact .drop

theorem run_of_next {state final : Shell × Wrapper × Base} {labels : List Label}
    (reached : follow compositor.next state labels = some final) :
    Run (Step compositor) state labels final :=
  (run_of_follow reached).mono fun _ _ _ taken => next_step taken

/-- A libweston where the slot of a desktop surface is the address of its surface. -/
def plain : Compositor Unit where
  host := .inert
  activateInput base target _ _ :=
    match target with
    | .surfaceView surface => (some surface.raw.slot, base)
    | .pointerFocusView _ | .touchFocusView _ => (none, base)
  announced base := ([], base)

/-- Two seats focus one surface, one of them leaves it, then it dies under the other. -/
theorem tracked_counts_shared :
    ∃ labels final,
      Run (Step plain) (.new .default, .new, ()) labels final ∧ final.2.1.wrapped = false ∧
        final.2.1.trackCounts ⟨1, 1⟩ = some 1 ∧ Tracked final.1 final.2.1 := by
  let first : DesktopSurfaceId := ⟨⟨0, 1⟩⟩
  let second : DesktopSurfaceId := ⟨⟨1, 1⟩⟩
  let labels : List Label :=
    [.happen (.seatCreated 10), .happen (.seatCreated 11), .event (.surfaceAdded first),
      .event (.surfaceAdded second), .event (.activate ⟨⟨0, 1⟩⟩ first .busyClick),
      .event (.activate ⟨⟨1, 1⟩⟩ first .busyClick), .event (.activate ⟨⟨0, 1⟩⟩ second .busyClick),
      .happen (.surfaceDestroyed 0 none), .drop, .deliver (.trackedSurfaceGone ⟨⟨0, 1⟩⟩ none)]
  have reached : (follow plain.next (.new .default, .new, ()) labels).map (fun final =>
      (final.2.1.wrapped, final.2.1.trackCounts ⟨1, 1⟩)) = some (false, some 1) := by
    decide
  obtain ⟨final, found, same⟩ := Option.map_eq_some_iff.mp reached
  obtain ⟨unwrapped, count⟩ := Prod.mk.inj same
  have run := run_of_next found
  exact ⟨labels, final, run, unwrapped, count, tracked_counts run unwrapped⟩

end Westonite.Tracking
