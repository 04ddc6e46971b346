import Westonite.Grab.Transition

/-! Runs of the grabs: every box stays in its place, whatever calls back when. -/

set_option autoImplicit false

namespace Westonite.Grab

open Library

variable {clientOf : DesktopSurfaceId → ClientId}

theorem Transition.sound {m next : Machine} {label : Label}
    (transition : Transition clientOf m label next) (sound : m.Sound) : next.Sound := by
  have elsewhere : ∀ {w : Wrapper} {todo : List Op} {base : Base}, Grab.Sound w todo →
      (∀ busy client live, base ≠ .pong busy client live) → Machine.Sound ⟨w, todo, base⟩ :=
    fun sound other => ⟨sound, fun busy client live same => absurd same (other busy client live)⟩
  obtain ⟨before, snapshots⟩ := sound
  cases transition with
  | call _ changes =>
      exact ⟨Changes.sound changes before, fun busy client live same entry member =>
        (snapshots busy client live same entry member).later (Changes.later changes before)⟩
  | @handOver w box todo base =>
      obtain ⟨inner, found, _⟩ := before.held_cons
      exact ⟨before.handOver, fun busy client live same entry member =>
        (snapshots busy client live same entry member).later (handOver_later found todo)⟩
  | @takeOut w box todo base =>
      exact ⟨before.takeOut, fun busy client live same entry member =>
        (snapshots busy client live same entry member).later (takeOut_later w box todo)⟩
  | request _ changes => exact elsewhere (Changes.sound changes before) (by simp)
  | surfaceAdded _ =>
      refine elsewhere (before.same ?_) (by simp)
      exact ⟨rfl, rfl, rfl, rfl, rfl, rfl, rfl, rfl, rfl, fun _ => rfl, fun _ => rfl⟩
  | @surfaceRemoved w surface _ =>
      have removed : Grab.Sound { w with recs := w.recs.erase surface } [] :=
        before.same ⟨rfl, rfl, rfl, rfl, rfl, rfl, rfl, rfl, rfl, fun _ => rfl, fun _ => rfl⟩
      exact elsewhere (removed.sameTodo rfl rfl) (by simp)
  | pingTimeout _ | pong _ =>
      refine elsewhere (before.same ?_) (by simp)
      refine ⟨rfl, rfl, rfl, rfl, rfl, rfl, rfl, ?_, rfl, fun _ => rfl, fun _ => rfl⟩
      simp [Wrapper.setUnresponsive, grabEnded]
  | @seatAdded w seat =>
      refine elsewhere (before.setSeats ?_) (by simp)
      intro device plugged
      exact List.mem_append_left [seat] (before.seated device plugged)
  | @seatGone w seat pointer touch =>
      refine elsewhere (before.setSeats ?_) (by simp)
      intro device plugged
      refine List.mem_filter.mpr ⟨before.seated device plugged, ?_⟩
      rw [decide_eq_true_iff]
      rintro rfl
      cases device with
      | pointer seat => exact Bool.false_ne_true (pointer.symm.trans plugged)
      | touch seat => exact Bool.false_ne_true (touch.symm.trans plugged)
  | plug seated =>
      exact elsewhere (before.setPlugged (fun absent => by cases absent) (fun _ => seated) rfl)
        (by simp)
  | unplug changes none free =>
      exact elsewhere ((Changes.sound changes before).setPlugged (fun _ => none)
        (fun absent => by cases absent) free) (by simp)
  | drained _ => exact elsewhere before.free (by simp)
  | @handled w ev queue base queued what _ =>
      have popped : Grab.Sound { w with queue, handled := w.handled ++ [ev] } [] := by
        apply before.same
        refine ⟨rfl, rfl, rfl, rfl, rfl, rfl, rfl, ?_, rfl, fun _ => rfl, fun _ => rfl⟩
        simp [queued]
      rcases what with rfl | ⟨surfaces, _, rfl⟩ | ⟨first, rest, _, _, rfl⟩
      · exact elsewhere popped (by simp)
      · exact elsewhere popped (by simp)
      · refine ⟨popped, ?_⟩
        intro busy client live same entry member
        simp only [Base.pong.injEq] at same
        obtain ⟨rfl, rfl, rfl⟩ := same
        exact popped.busyGrabs member
  | removed =>
      refine elsewhere (before.same ?_) (by simp)
      exact ⟨rfl, rfl, rfl, rfl, rfl, rfl, rfl, rfl, rfl, fun _ => rfl, fun _ => rfl⟩
  | ping changes => exact elsewhere (Changes.sound changes before) (by simp)
  | pinged | ponged => exact elsewhere before (by simp)
  | ended changes _ =>
      refine ⟨Changes.sound changes before, ?_⟩
      intro busy client live same entry member
      simp only [Base.pong.injEq] at same
      obtain ⟨rfl, rfl, rfl⟩ := same
      exact (snapshots _ _ _ rfl entry (.tail _ member)).later (Changes.later changes before)
  | @retired w box surface busy client live superseded =>
      have first := snapshots _ client live rfl (box, surface) List.mem_cons_self
      refine ⟨before.retire first.free superseded, ?_⟩
      intro busy client live same entry member
      simp only [Base.pong.injEq] at same
      obtain ⟨rfl, rfl, rfl⟩ := same
      exact (snapshots _ _ _ rfl entry (.tail _ member)).later (retire_later box)

theorem run_sound {labels : List Label} {final : Machine}
    (run : Run (Machine.Step clientOf) .start labels final) : final.Sound := by
  have start : Machine.Sound .start := ⟨.new, fun _ _ _ other => by cases other⟩
  induction run with
  | nil => exact start
  | snoc _ stepped ih => exact (step_transition ih stepped).sound ih

/-- A step that retires a box changes no current grab and no grab flag. -/
private theorem Transition.retires {m next : Machine} {label : Label}
    (transition : Transition clientOf m label next) :
    next.wrapper.retiredGrabs = m.wrapper.retiredGrabs ∨
      next.wrapper.devices = m.wrapper.devices ∧ next.wrapper.recs = m.wrapper.recs := by
  cases transition with
  | call _ changes | request _ changes | ping changes | ended changes _ =>
      exact .inl (Changes.retiredGrabs changes)
  | unplug changes _ _ => exact .inl (Changes.retiredGrabs changes)
  | @handOver w box todo base =>
      left
      unfold Wrapper.handOver
      split
      · rfl
      · split <;> rfl
  | @takeOut w box todo base =>
      left
      unfold Wrapper.takeOut Wrapper.leaveActive
      split
      · rfl
      · dsimp only
        split <;> rfl
  | @retired w box surface busy client live superseded =>
      right
      unfold Wrapper.retireSupersededPointerGrab
      split
      · exact ⟨rfl, rfl⟩
      · rename_i inner found
        split
        · exact ⟨rfl, rfl⟩
        · obtain ⟨_, devices, _, _, _, recs, _⟩ :=
            leaveActive_fields (w.setBox box { inner with ended := true }) box
          exact ⟨devices, recs⟩
  | surfaceAdded | surfaceRemoved | pingTimeout | pong | seatAdded | seatGone | plug | drained
  | handled | removed | pinged | ponged => exact .inl rfl

/-- Between two calls of the wrapper a current grab of ours is active and goes
on, every box is in one place that its flag tells, the grabs that were ended and
not retired have their one event, and retiring disturbs nothing. -/
theorem grabBox_liveness {labels : List Label} {final : Machine}
    (run : Run (Machine.Step clientOf) .start labels final) (boundary : final.todo = []) :
    (∀ device box, (final.wrapper.devices device).current = some box →
      box ∈ final.wrapper.activeGrabs ∧
        ∃ inner, final.wrapper.boxes box = some inner ∧ inner.ended = false) ∧
    (∀ box, box < final.wrapper.nextBox →
      final.wrapper.activeGrabs.count box + final.wrapper.pendingDrop.count box +
          final.wrapper.freed.count box = 1 ∧
        ∃ inner, final.wrapper.boxes box = some inner ∧
          (inner.ended = true ↔ box ∉ final.wrapper.activeGrabs)) ∧
    ((grabEnded (final.wrapper.handled ++ final.wrapper.queue)).Perm
        (final.wrapper.endedGrabs.filterMap final.wrapper.surfaceOf) ∧
      (final.wrapper.endedGrabs ++ final.wrapper.retiredGrabs).Nodup) ∧
    ∀ label next, Machine.Step clientOf final label next →
      next.wrapper.retiredGrabs ≠ final.wrapper.retiredGrabs →
      next.wrapper.devices = final.wrapper.devices ∧ next.wrapper.recs = final.wrapper.recs := by
  have whole := run_sound run
  have sound : Sound final.wrapper [] := boundary ▸ whole.sound
  have flag : ∀ box inner, final.wrapper.boxes box = some inner →
      final.wrapper.endedCount box = inner.ended.toNat := by
    intro box inner found
    simp [Wrapper.endedCount, found]
  refine ⟨?_, ?_, ⟨?_, ?_⟩, ?_⟩
  · intro device box current
    obtain ⟨inner, found, _, going, free⟩ := sound.current device box current
    exact ⟨sound.mem_activeGrabs found going free, inner, found, going⟩
  · intro box bounded
    have place := sound.places box
    have ended := sound.ended box
    obtain ⟨inner, found⟩ := Option.isSome_iff_exists.mp ((sound.allocated box).mpr bounded)
    rw [flag box inner found] at ended
    rw [if_pos bounded] at place
    have none : (held []).count box = 0 := rfl
    have none' : (leaving []).count box = 0 := rfl
    refine ⟨by omega, inner, found, ?_⟩
    rw [← List.count_eq_zero]
    cases value : inner.ended with
    | true =>
        rw [value, Bool.toNat_true] at ended
        exact iff_of_true rfl (by omega)
    | false =>
        rw [value, Bool.toNat_false] at ended
        exact iff_of_false (by simp) (by omega)
  · rw [List.perm_iff_count]
    intro surface
    have posted := sound.posted surface
    have none : ((leaving []).filterMap final.wrapper.surfaceOf).count surface = 0 := rfl
    omega
  · rw [List.nodup_iff_count_le_one]
    intro box
    rw [List.count_append, ← sound.outcome box]
    unfold Wrapper.endedCount
    cases final.wrapper.boxes box with
    | none => simp
    | some inner => exact Bool.toNat_le inner.ended
  · intro label next stepped retires
    exact (step_transition whole stepped).retires.resolve_left retires

/-- A window is moved and let go, while libweston picks nothing under it: one box is
made and ended. -/
theorem grabBox_liveness_moved :
    ∃ labels final, Run (Machine.Step fun _ => 0) .start labels final ∧ final.todo = [] ∧
      (final.wrapper.nextBox = 1 ∧ final.wrapper.endedGrabs = [0] ∧
        (final.wrapper.boxes 0).map GrabInner.ended = some true) ∧
      ((∀ device box, (final.wrapper.devices device).current = some box →
        box ∈ final.wrapper.activeGrabs ∧
          ∃ inner, final.wrapper.boxes box = some inner ∧ inner.ended = false) ∧
      (∀ box, box < final.wrapper.nextBox →
        final.wrapper.activeGrabs.count box + final.wrapper.pendingDrop.count box +
            final.wrapper.freed.count box = 1 ∧
          ∃ inner, final.wrapper.boxes box = some inner ∧
            (inner.ended = true ↔ box ∉ final.wrapper.activeGrabs)) ∧
      ((grabEnded (final.wrapper.handled ++ final.wrapper.queue)).Perm
          (final.wrapper.endedGrabs.filterMap final.wrapper.surfaceOf) ∧
        (final.wrapper.endedGrabs ++ final.wrapper.retiredGrabs).Nodup) ∧
      ∀ label next, Machine.Step (fun _ => 0) final label next →
        next.wrapper.retiredGrabs ≠ final.wrapper.retiredGrabs →
        next.wrapper.devices = final.wrapper.devices ∧
          next.wrapper.recs = final.wrapper.recs) := by
  let surface : DesktopSurfaceId := ⟨⟨0, 1⟩⟩
  let seat : SeatId := ⟨⟨0, 1⟩⟩
  let labels : List Label :=
    [.input (.seatAdded seat), .run, .input (.plug (.pointer seat)), .run,
      .input (.surfaceAdded surface), .run,
      .input (.deviceMoved (.pointer seat) (some ⟨some surface, some surface⟩) 1 7 (0, 0)), .run,
      .input (.moveRequest surface seat 7 (0, 0)), .proceed, .run, .picked none, .run,
      .input (.callback (.button seat 0 272 false)), .proceed, .run, .run]
  have reached : (follow (Machine.step fun _ => 0) .start labels).map (fun final =>
      (final.todo, final.wrapper.nextBox, final.wrapper.endedGrabs,
        (final.wrapper.boxes 0).map GrabInner.ended)) = some ([], 1, [0], some true) := by
    decide
  obtain ⟨final, found, seen⟩ := Option.map_eq_some_iff.mp reached
  obtain ⟨boundary, made, ended, flag⟩ : _ ∧ _ ∧ _ ∧ _ := by simpa only [Prod.mk.injEq] using seen
  have run := run_of_follow found
  exact ⟨labels, final, run, boundary, ⟨made, ended, flag⟩, grabBox_liveness run boundary⟩

end Westonite.Grab
