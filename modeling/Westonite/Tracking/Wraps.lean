import Westonite.Tracking.Runs

/-! Where the counts go wrong: a generation that comes round to the id of a death
that still waits, and a count past the largest `u32`. -/

set_option autoImplicit false

namespace Westonite.Tracking

open Library Registry

private theorem plain_lastMappedChild (shell : Shell) (h : Wrapper × Unit) (id : DesktopSurfaceId) :
    shell.lastMappedChild plain.tracking h id = none := by
  unfold Shell.lastMappedChild
  split
  · rfl
  · exact List.find?_eq_none.mpr fun _ _ => Bool.false_ne_true

/-- An activation for a seat that the shell has not heard of. -/
private theorem plain_activate {shell : Shell} {w : Wrapper} {seat : SeatId}
    {surface : DesktopSurfaceId}
    {seatPtr : SeatPtr} {es : SurfaceId} (known : shell.known surface = true)
    (unknown : shell.seats.lookup seat = none)
    (live : w.seats.resolve seat.raw = some seatPtr)
    (tracked : (w.trackSurface surface.raw.slot).1 = some es) :
    shell.onEvent plain.tracking (w, ()) (.activate seat surface .busyClick) =
      ({ shell with focus := shell.focus.insert seat es },
        match shell.focus.lookup seat with
        | some old => (w.trackSurface surface.raw.slot).2.untrackSurface old
        | none => (w.trackSurface surface.raw.slot).2, ()) := by
  have stays : shell.redirect plain.tracking (w, ()) 65 surface (.surfaceView surface) =
      (surface, .surfaceView surface) := by
    unfold Shell.redirect
    rw [plain_lastMappedChild]
  have landed : plain.tracking.activateInput (w, ()) (.surfaceView surface) seat .configure =
      (some es, (w.trackSurface surface.raw.slot).2, ()) := by
    unfold Compositor.tracking
    dsimp only
    rw [live, ← tracked]
    rfl
  change shell.activate plain.tracking (w, ()) surface seat .configure (.surfaceView surface) = _
  have found : shell.activate plain.tracking (w, ()) surface seat .configure
      (.surfaceView surface) =
        shell.replaceFocus plain.tracking ((w.trackSurface surface.raw.slot).2, ()) seat
          (some es) := by
    unfold Shell.activate
    simp only [if_pos known, stays, landed]
    unfold Shell.moveSeatFocus
    rw [unknown]
    rfl
  rw [found]
  unfold Shell.replaceFocus
  cases shell.focus.lookup seat <;> rfl

/-- An activation that takes such a seat off another surface. -/
private theorem plain_refocus {shell : Shell} {w : Wrapper} {seat : SeatId}
    {surface : DesktopSurfaceId}
    {seatPtr : SeatPtr} {es old : SurfaceId} (known : shell.known surface = true)
    (unknown : shell.seats.lookup seat = none)
    (live : w.seats.resolve seat.raw = some seatPtr)
    (tracked : (w.trackSurface surface.raw.slot).1 = some es)
    (holds : shell.focus.lookup seat = some old) :
    Step plain (shell, w, ()) (.event (.activate seat surface .busyClick))
      ({ shell with focus := shell.focus.insert seat es },
        (w.trackSurface surface.raw.slot).2.untrackSurface old, ()) := by
  have activated := plain_activate known unknown live tracked
  rw [holds] at activated
  have taken := @Step.event _ plain shell shell w () () (.activate seat surface .busyClick)
    (.refl shell) rfl
  rw [activated] at taken
  exact taken

/-- An activation for such a seat that holds nothing yet. -/
private theorem plain_focus {shell : Shell} {w : Wrapper} {seat : SeatId}
    {surface : DesktopSurfaceId}
    {seatPtr : SeatPtr} {es : SurfaceId} (known : shell.known surface = true)
    (unknown : shell.seats.lookup seat = none)
    (live : w.seats.resolve seat.raw = some seatPtr)
    (tracked : (w.trackSurface surface.raw.slot).1 = some es)
    (absent : shell.focus.lookup seat = none) :
    Step plain (shell, w, ()) (.event (.activate seat surface .busyClick))
      ({ shell with focus := shell.focus.insert seat es },
        (w.trackSurface surface.raw.slot).2, ()) := by
  have activated := plain_activate known unknown live tracked
  rw [absent] at activated
  have taken := @Step.event _ plain shell shell w () () (.activate seat surface .busyClick)
    (.refl shell) rfl
  rw [activated] at taken
  exact taken

/-- The seat leaves the only surface it holds for one that is not tracked yet. -/
theorem switch {w : Wrapper} {es ptr : SurfacePtr} {old id : RawId}
    {minted final : SlotTable SurfacePtr} (absent : w.surfaces.idOf es = none)
    (inserted : w.surfaces.insert es = some (id, minted)) (live : minted.resolve old = some ptr)
    (left : (minted.invalidatePtr ptr).2 = final) (single : w.trackCounts old = some 1)
    (apart : old ≠ id) :
    (w.trackSurface es).1 = some ⟨id⟩ ∧
      ((w.trackSurface es).2.untrackSurface ⟨old⟩).surfaces = final ∧
      ((w.trackSurface es).2.untrackSurface ⟨old⟩).trackCounts id = some 1 ∧
      ((w.trackSurface es).2.untrackSurface ⟨old⟩).seats = w.seats := by
  have tracked : w.trackSurface es =
      (some ⟨id⟩,
        { w.setCount id (some 1) with
          surfaces := minted
          listeners := w.listeners ++ [⟨es, ⟨id⟩⟩]
          wrapped := w.wrapped || w.names ⟨id⟩ }) := by
    unfold Wrapper.trackSurface
    rw [absent]
    dsimp only
    rw [inserted]
  rw [tracked]
  refine ⟨rfl, ?_⟩
  have count : (Function.update w.trackCounts id (some 1)) old = some 1 := by
    rw [Function.update_of_ne apart, single]
  unfold Wrapper.untrackSurface Wrapper.setCount
  dsimp only
  rw [live]
  dsimp only
  rw [count]
  have kept : ∀ w : Wrapper, (w.retireListener ptr).surfaces = w.surfaces ∧
      (w.retireListener ptr).trackCounts = w.trackCounts ∧
      (w.retireListener ptr).seats = w.seats := by
    intro w
    unfold Wrapper.retireListener
    split
    · exact ⟨rfl, rfl, rfl⟩
    · split <;> exact ⟨rfl, rfl, rfl⟩
  rw [if_neg (by decide)]
  unfold Wrapper.forget
  rw [(kept _).1, (kept _).2.1, (kept _).2.2]
  refine ⟨left, ?_, rfl⟩
  change Function.update (Function.update w.trackCounts id (some 1)) old none id = some 1
  rw [Function.update_of_ne (Ne.symm apart), Function.update_self]

/-- Two slots take turns: the first is free, and the second seat holds what is in the
second one. What the first seat holds died long ago. -/
structure Turning (first second : Nat) (shell : Shell) (w : Wrapper) : Prop where
  surfaces : w.surfaces = { slots := [⟨none, first⟩, ⟨some 1, second⟩], free := [0] }
  single : w.trackCounts ⟨1, second⟩ = some 1
  live : w.seats.resolve ⟨1, 1⟩ = some 11
  stale : shell.focus.lookup ⟨⟨0, 1⟩⟩ = some ⟨⟨0, 1⟩⟩
  holds : shell.focus.lookup ⟨⟨1, 1⟩⟩ = some ⟨⟨1, second⟩⟩
  unknown : shell.seats.lookup ⟨⟨1, 1⟩⟩ = none
  known : shell.known ⟨⟨1, 1⟩⟩ = true ∧ shell.known ⟨⟨2, 1⟩⟩ = true

/-- The other half of a turn: the second slot is free. -/
structure Turned (first second : Nat) (shell : Shell) (w : Wrapper) : Prop where
  surfaces : w.surfaces = { slots := [⟨some 2, first⟩, ⟨none, second⟩], free := [1] }
  single : w.trackCounts ⟨0, first⟩ = some 1
  live : w.seats.resolve ⟨1, 1⟩ = some 11
  stale : shell.focus.lookup ⟨⟨0, 1⟩⟩ = some ⟨⟨0, 1⟩⟩
  holds : shell.focus.lookup ⟨⟨1, 1⟩⟩ = some ⟨⟨0, first⟩⟩
  unknown : shell.seats.lookup ⟨⟨1, 1⟩⟩ = none
  known : shell.known ⟨⟨1, 1⟩⟩ = true ∧ shell.known ⟨⟨2, 1⟩⟩ = true

theorem Turning.turn {first second : Nat} {shell : Shell} {w : Wrapper}
    (turning : Turning first second shell w) :
    ∃ after later, Step plain (shell, w, ()) (.event (.activate ⟨⟨1, 1⟩⟩ ⟨⟨2, 1⟩⟩ .busyClick))
        (after, later, ()) ∧
      Turned first (SlotTable.nextGeneration second) after later := by
  obtain ⟨tracked, surfaces, single, seats⟩ :=
    @switch w 2 1 ⟨1, second⟩ ⟨0, first⟩
      { slots := [⟨some 2, first⟩, ⟨some 1, second⟩], free := [] }
      { slots := [⟨some 2, first⟩, ⟨none, SlotTable.nextGeneration second⟩], free := [1] }
      (by rw [turning.surfaces]; rfl) (by rw [turning.surfaces]; rfl)
      (by simp [SlotTable.resolve]) rfl turning.single (by simp)
  have refocused :=
    plain_refocus turning.known.2 turning.unknown turning.live tracked turning.holds
  refine ⟨_, _, refocused, surfaces, single,
    ?_, ?_, ?_, turning.unknown, turning.known⟩
  · rw [seats, turning.live]
  · rw [AssocMap.lookup_insert, if_neg (by decide), turning.stale]
  · rw [AssocMap.lookup_insert, if_pos rfl]

theorem Turned.turn {first second : Nat} {shell : Shell} {w : Wrapper}
    (turned : Turned first second shell w) :
    ∃ after later, Step plain (shell, w, ()) (.event (.activate ⟨⟨1, 1⟩⟩ ⟨⟨1, 1⟩⟩ .busyClick))
        (after, later, ()) ∧
      Turning (SlotTable.nextGeneration first) second after later := by
  obtain ⟨tracked, surfaces, single, seats⟩ :=
    @switch w 1 2 ⟨0, first⟩ ⟨1, second⟩
      { slots := [⟨some 2, first⟩, ⟨some 1, second⟩], free := [] }
      { slots := [⟨none, SlotTable.nextGeneration first⟩, ⟨some 1, second⟩], free := [0] }
      (by rw [turned.surfaces]; rfl) (by rw [turned.surfaces]; rfl)
      (by simp [SlotTable.resolve]) rfl turned.single (by simp)
  have refocused :=
    plain_refocus turned.known.1 turned.unknown turned.live tracked turned.holds
  refine ⟨_, _, refocused, surfaces, single,
    ?_, ?_, ?_, turned.unknown, turned.known⟩
  · rw [seats, turned.live]
  · rw [AssocMap.lookup_insert, if_neg (by decide), turned.stale]
  · rw [AssocMap.lookup_insert, if_pos rfl]

/-- Any number of turns; each one stales an id of either slot. -/
theorem Turning.turns (count : Nat) {first second : Nat} {shell : Shell} {w : Wrapper}
    (turning : Turning first second shell w) :
    ∃ labels after later, Run (Step plain) (shell, w, ()) labels (after, later, ()) ∧
      Turning (SlotTable.nextGeneration^[count] first) (SlotTable.nextGeneration^[count] second)
        after later := by
  induction count with
  | zero => exact ⟨[], shell, w, .nil, turning⟩
  | succ count ih =>
      obtain ⟨labels, shell, w, run, turning⟩ := ih
      obtain ⟨after, later, away, turned⟩ := turning.turn
      obtain ⟨shell, w, back, turning⟩ := turned.turn
      rw [Function.iterate_succ_apply', Function.iterate_succ_apply']
      exact ⟨_, shell, w, (run.snoc away).snoc back, turning⟩

/-- Two seats focus two surfaces; the first one dies. -/
private theorem turning_reached : ∃ labels shell w,
    Run (Step plain) (.new .default, .new, ()) labels (shell, w, ()) ∧ Turning 2 1 shell w := by
  let labels : List Label :=
    [.happen (.seatCreated 10), .happen (.seatCreated 11), .event (.surfaceAdded ⟨⟨0, 1⟩⟩),
      .event (.surfaceAdded ⟨⟨1, 1⟩⟩), .event (.surfaceAdded ⟨⟨2, 1⟩⟩),
      .event (.activate ⟨⟨0, 1⟩⟩ ⟨⟨0, 1⟩⟩ .busyClick),
      .event (.activate ⟨⟨1, 1⟩⟩ ⟨⟨1, 1⟩⟩ .busyClick), .happen (.surfaceDestroyed 0 none)]
  have reached : (follow plain.next (.new .default, .new, ()) labels).isSome = true := by
    decide
  obtain ⟨⟨shell, w, base⟩, found⟩ := Option.isSome_iff_exists.mp reached
  refine ⟨labels, shell, w, run_of_next found, ?_⟩
  obtain ⟨rfl, rfl, _⟩ : _ ∧ _ ∧ _ := by
    simpa only [Prod.mk.injEq] using Option.some.inj found.symm
  exact ⟨rfl, rfl, rfl, rfl, rfl, rfl, rfl, rfl⟩

/-- The first seats of the compositor, all live. -/
def crowd (count : Nat) : SlotTable SeatPtr where
  slots := (List.range count).map fun seat => ⟨some seat, 1⟩
  free := []

private theorem crowd_idOf (count : Nat) : (crowd count).idOf count = none := by
  rw [SlotTable.idOf_eq_none_iff]
  intro i slot holds same
  obtain ⟨seat, member, rfl⟩ := List.mem_map.mp (List.mem_of_getElem? holds)
  have small := List.mem_range.mp member
  have equal : seat = count := Option.some.inj same
  exact absurd equal (Nat.ne_of_lt small)

private theorem crowd_insert {count : Nat} (room : count < u32Size) :
    (crowd count).insert count = some (⟨count, 1⟩, crowd (count + 1)) := by
  have length : (crowd count).slots.length = count := by
    unfold crowd
    rw [List.length_map, List.length_range]
  unfold SlotTable.insert
  rw [length, if_pos room]
  unfold crowd
  rw [List.range_succ, List.map_append]
  rfl

private theorem crowd_resolve (count : Nat) :
    (crowd (count + 1)).resolve ⟨count, 1⟩ = some count := by
  rw [SlotTable.resolve_eq_some_iff]
  refine ⟨⟨some count, 1⟩, ?_, rfl, rfl⟩
  simp [SlotTable.Holds, crowd]

/-- The first `count` seats all hold the one surface that is tracked. -/
structure Crowded (count : Nat) (shell : Shell) (w : Wrapper) : Prop where
  surfaces : w.surfaces = { slots := [⟨some 1, 1⟩], free := [] }
  counted : w.trackCounts ⟨0, 1⟩ = some (count % u32Size)
  seats : w.seats = crowd count
  held : holders shell.focus ⟨⟨0, 1⟩⟩ = count
  absent : ∀ seat, count ≤ seat → shell.focus.lookup ⟨⟨seat, 1⟩⟩ = none
  unknown : ∀ seat, shell.seats.lookup seat = none
  known : shell.known ⟨⟨1, 1⟩⟩ = true

private theorem seat_apart {seat other : Nat} (apart : seat ≠ other) :
    (⟨⟨seat, 1⟩⟩ : SeatId) ≠ ⟨⟨other, 1⟩⟩ :=
  fun same => apart (congrArg (fun id : SeatId => id.raw.slot) same)

/-- One more seat comes, and focuses the surface too. -/
theorem Crowded.join {count : Nat} {shell : Shell} {w : Wrapper} (crowded : Crowded count shell w)
    (room : count < u32Size) :
    ∃ labels after later, Run (Step plain) (shell, w, ()) labels (after, later, ()) ∧
      Crowded (count + 1) after later := by
  have created : w.createSeat count =
      { w with seats := crowd (count + 1) }.enqueue (.seatCreated ⟨⟨count, 1⟩⟩) := by
    unfold Wrapper.createSeat
    rw [crowded.seats, crowd_idOf]
    dsimp only
    rw [crowd_insert room]
  have came : Run (Step plain) (shell, w, ()) [.happen (.seatCreated count)]
      (shell, w.createSeat count, ()) := .single .happen
  rw [created] at came
  generalize joined : { w with seats := crowd (count + 1) }.enqueue (.seatCreated ⟨⟨count, 1⟩⟩) =
    more at came
  have surfaces : more.surfaces = { slots := [⟨some 1, 1⟩], free := [] } :=
    joined ▸ crowded.surfaces
  have counted : more.trackCounts ⟨0, 1⟩ = some (count % u32Size) := joined ▸ crowded.counted
  have seats : more.seats = crowd (count + 1) := joined ▸ rfl
  have tracked : more.trackSurface 1 = (some ⟨⟨0, 1⟩⟩,
      { more.setCount ⟨0, 1⟩ (some (wrappingAdd (count % u32Size) 1)) with
        wrapped := more.wrapped || wrappingAdd (count % u32Size) 1 == 0 }) := by
    have located : more.surfaces.idOf 1 = some ⟨0, 1⟩ := by
      rw [surfaces]
      rfl
    unfold Wrapper.trackSurface
    rw [located]
    dsimp only
    rw [counted]
    rfl
  have free := crowded.absent count (Nat.le_refl count)
  have taken := @plain_focus shell more ⟨⟨count, 1⟩⟩ ⟨⟨1, 1⟩⟩ count ⟨⟨0, 1⟩⟩ crowded.known
    (crowded.unknown _) (seats ▸ crowd_resolve count)
    (congrArg Prod.fst tracked) free
  refine ⟨_, _, _, came.snoc taken, ?_⟩
  rw [tracked]
  refine ⟨surfaces, ?_, seats, ?_, ?_, crowded.unknown, crowded.known⟩
  · unfold Wrapper.setCount
    dsimp only
    rw [Function.update_self]
    exact congrArg some (Nat.mod_add_mod ..)
  · have sums := holders_insert shell.focus ⟨⟨count, 1⟩⟩ ⟨⟨0, 1⟩⟩ ⟨⟨0, 1⟩⟩
    rw [free, crowded.held, owed_self] at sums
    exact sums
  · intro seat later
    rw [AssocMap.lookup_insert, if_neg (seat_apart (by omega)), crowded.absent seat (by omega)]

private theorem crowded_reached (count : Nat) (room : count < u32Size) : ∃ labels shell w,
    Run (Step plain) (.new .default, .new, ()) labels (shell, w, ()) ∧
      Crowded (count + 1) shell w := by
  induction count with
  | zero =>
      let labels : List Label :=
        [.happen (.seatCreated 0), .event (.surfaceAdded ⟨⟨1, 1⟩⟩),
          .event (.activate ⟨⟨0, 1⟩⟩ ⟨⟨1, 1⟩⟩ .busyClick)]
      have reached : (follow plain.next (.new .default, .new, ()) labels).isSome = true := by
        decide
      obtain ⟨⟨shell, w, base⟩, found⟩ := Option.isSome_iff_exists.mp reached
      refine ⟨labels, shell, w, run_of_next found, ?_⟩
      obtain rfl := congrArg Prod.fst (Option.some.inj found)
      obtain rfl := congrArg (fun state => state.2.1) (Option.some.inj found)
      refine ⟨rfl, rfl, rfl, rfl, ?_, fun _ => rfl, rfl⟩
      intro seat later
      exact (AssocMap.lookup_insert _ _ _ _).trans (if_neg (seat_apart (by omega)))
  | succ count ih =>
      obtain ⟨labels, shell, w, run, crowded⟩ := ih (by omega)
      obtain ⟨more, after, later, joined, crowded⟩ := crowded.join room
      exact ⟨_, after, later, run.append joined, crowded⟩

/-- When the generations have come round, the count of the new surface is one and two
seats hold its id. When every seat there can be holds one surface, its count is zero. -/
theorem tracked_counts_wrap :
    (∃ labels shell w, Run (Step plain) (.new .default, .new, ()) labels (shell, w, ()) ∧
      w.surfaces.resolve ⟨0, 1⟩ = some 2 ∧ w.trackCounts ⟨0, 1⟩ = some 1 ∧
      1 < holders shell.focus ⟨⟨0, 1⟩⟩) ∧
    ∃ labels shell w, Run (Step plain) (.new .default, .new, ()) labels (shell, w, ()) ∧
      w.surfaces.resolve ⟨0, 1⟩ = some 1 ∧ w.trackCounts ⟨0, 1⟩ = some 0 ∧
      holders shell.focus ⟨⟨0, 1⟩⟩ = u32Size := by
  constructor
  · obtain ⟨start, shell, w, prelude, turning⟩ := turning_reached
    obtain ⟨labels, shell, w, run, turning⟩ := turning.turns (u32Size - 2)
    rw [SlotTable.iterate_nextGeneration (by decide) (by decide)] at turning
    obtain ⟨after, later, last, turned⟩ := turning.turn
    refine ⟨_, after, later, (prelude.append run).snoc last, ?_, turned.single, ?_⟩
    · rw [turned.surfaces]
      rfl
    · have first := holders_erase after.focus ⟨⟨0, 1⟩⟩ ⟨⟨0, 1⟩⟩
      rw [turned.stale, owed_self] at first
      have other : 0 < holders (after.focus.erase ⟨⟨0, 1⟩⟩) ⟨⟨0, 1⟩⟩ := by
        apply holders_pos_iff.mpr
        refine ⟨⟨⟨1, 1⟩⟩, ?_⟩
        rw [AssocMap.lookup_erase, if_neg (by decide)]
        exact turned.holds
      omega
  · obtain ⟨labels, shell, w, run, crowded⟩ := crowded_reached (u32Size - 1) (by decide)
    refine ⟨labels, shell, w, run, ?_, crowded.counted, crowded.held⟩
    rw [crowded.surfaces]
    rfl

end Westonite.Tracking
