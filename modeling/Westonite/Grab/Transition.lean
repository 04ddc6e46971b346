import Westonite.Grab.Changes

/-! What one step of the grabs can do, and that every step keeps the boxes in
their places. -/

set_option autoImplicit false

namespace Westonite.Grab

open Library

variable {clientOf : DesktopSurfaceId → ClientId}

/-! ### Inputs that change seats and devices -/

theorem Sound.setSeats {w : Wrapper} {todo : List Op} (sound : Sound w todo)
    {seats : List SeatId} (kept : ∀ device, (w.devices device).plugged → device.seat ∈ seats) :
    Sound { w with seats } todo where
  allocated := sound.allocated
  places := sound.places
  leaves := sound.leaves
  ended := sound.ended
  outcome := sound.outcome
  posted := sound.posted
  current := sound.current
  unplugged := sound.unplugged
  awaited := sound.awaited
  seated := kept
  onPointer := sound.onPointer

/-- A device comes or goes that has no grab of ours, while no grab starts. -/
theorem Sound.setPlugged {w : Wrapper} {todo : List Op} (sound : Sound w todo) {device : Device}
    {plugged : Bool} (idle : plugged = false → (w.devices device).current = none)
    (seat : plugged → device.seat ∈ w.seats) (none : held todo = []) :
    Sound (w.setDevice device fun state => { state with plugged }) todo where
  allocated := sound.allocated
  places := sound.places
  leaves := sound.leaves
  ended := sound.ended
  outcome := sound.outcome
  posted := sound.posted
  current other box present := by
    rw [setDevice_devices] at present
    split at present
    · rename_i here
      rw [here]
      exact sound.current device box present
    · exact sound.current other box present
  unplugged other absent := by
    rw [setDevice_devices] at absent ⊢
    split
    · rename_i here
      rw [if_pos here] at absent
      exact idle absent
    · rename_i elsewhere
      rw [if_neg elsewhere] at absent
      exact sound.unplugged other absent
  awaited box inner member := by
    rw [none] at member
    cases member
  seated other present := by
    rw [setDevice_devices] at present
    split at present
    · rename_i here
      rw [here]
      exact seat present
    · exact sound.seated other present
  onPointer := sound.onPointer

private theorem endGrab_current {w : Wrapper} {box : GrabId} {inner : GrabInner}
    (found : w.boxes box = some inner) (going : inner.ended = false) :
    ((w.endGrab box).1.devices inner.device).current = none ∧ held (w.endGrab box).2 = [] := by
  unfold Wrapper.endGrab
  simp only [found, going, Bool.false_eq_true, if_false]
  have none : ((w.release box inner).devices inner.device).current = none := by
    rw [release_devices, if_pos rfl]
  cases on : inner.device with
  | pointer seat =>
      rw [on] at none
      exact ⟨none, rfl⟩
  | touch seat =>
      rw [on] at none
      exact ⟨none, rfl⟩

private theorem cancelGrab_current {w : Wrapper} {todo : List Op} (sound : Sound w todo)
    (device : Device) :
    ((w.cancelGrab device).1.devices device).current = none ∧
      held (w.cancelGrab device).2 = [] := by
  unfold Wrapper.cancelGrab
  cases found : w.currentInner device with
  | none =>
      refine ⟨?_, rfl⟩
      cases present : (w.devices device).current with
      | none => rfl
      | some box =>
          obtain ⟨inner, there, _⟩ := sound.current device box present
          simp [Wrapper.currentInner, present, there] at found
  | some grab =>
      obtain ⟨box, inner⟩ := grab
      obtain ⟨there, on, going, _⟩ := sound.currentInner found
      cases kind : inner.kind with
      | resize =>
          simp only [kind, ← on]
          exact @endGrab_current (w.setResizing inner.surface false) box inner there going
      | move | busy | touchMove =>
          simp only [kind, ← on]
          exact endGrab_current there going

/-! ### Snapshots of busy grabs -/

theorem handOver_later {w : Wrapper} {box : GrabId} {inner : GrabInner}
    (found : w.boxes box = some inner) (todo : List Op) :
    Later (w, .handOver box :: todo) ((w.handOver box).1, (w.handOver box).2 ++ todo) := by
  have installed : Later (w, .handOver box :: todo) (w.install box inner, todo) := by
    refine ⟨fun _ value there => ⟨value, there, .refl value⟩, ?_, ?_, rfl, fun _ => rfl, rfl⟩
    · intro other member
      exact .inl (List.mem_cons_of_mem box member)
    · intro device
      dsimp only
      rw [install_devices]
      split
      · rename_i here
        rw [here]
      · rfl
  unfold Wrapper.handOver
  simp only [found]
  cases inner.device with
  | pointer seat => exact installed.trans (plan_later _ rfl)
  | touch seat => exact installed

theorem takeOut_later (w : Wrapper) (box : GrabId) (todo : List Op) :
    Later (w, .takeOut box :: todo) (w.takeOut box, todo) := by
  unfold Wrapper.takeOut
  cases found : w.boxes box with
  | none => exact plan_later w rfl
  | some inner =>
      obtain ⟨boxes, devices, seats, waiting, surfaces, _⟩ := leaveActive_fields w box
      refine ⟨?_, fun _ member => .inl member, ?_, seats, ?_, waiting⟩
      · intro other value there
        exact ⟨value, by dsimp only; rw [boxes]; exact there, .refl value⟩
      · intro device
        dsimp only
        rw [devices]
      · intro surface
        unfold Wrapper.known
        dsimp only
        rw [surfaces]

theorem Snapshot.later {before after : Frame} (later : Later before after) {box : GrabId}
    {surface : DesktopSurfaceId} {live : List SeatId}
    (snapshot : Snapshot before.1 before.2 box surface live) :
    Snapshot after.1 after.2 box surface live := by
  obtain ⟨⟨inner, found, kind, same⟩, free, connected⟩ := snapshot
  obtain ⟨changed, there, sameBox⟩ := later.boxes box inner found
  refine ⟨⟨changed, there, sameBox.kind.trans kind, sameBox.surface.trans same⟩, ?_, ?_⟩
  · intro member
    rcases later.held box member with member | fresh
    · exact free member
    · rw [found] at fresh
      cases fresh
  · intro seat plugged
    rw [later.plugged] at plugged
    exact connected seat plugged

/-- The loop over busy grabs starts from a snapshot. -/
theorem Sound.busyGrabs {w : Wrapper} (sound : Sound w []) {entry : GrabId × DesktopSurfaceId}
    (member : entry ∈ w.busyGrabs) : Snapshot w [] entry.1 entry.2 w.livePointers := by
  unfold Wrapper.busyGrabs at member
  obtain ⟨box, _, chosen⟩ := List.mem_filterMap.mp member
  obtain ⟨inner, found, tested⟩ := Option.bind_eq_some_iff.mp chosen
  split at tested
  · rename_i busy
    obtain rfl := Option.some.inj tested
    refine ⟨⟨inner, found, busy.1, rfl⟩, by simp [held], ?_⟩
    intro seat plugged
    exact List.mem_filter.mpr ⟨sound.seated (.pointer seat) plugged, plugged⟩
  · cases tested

/-! ### Steps -/

structure Machine.Sound (m : Machine) : Prop where
  sound : Grab.Sound m.wrapper m.todo
  snapshots : ∀ busy client live, m.base = .pong busy client live → ∀ entry ∈ busy,
    Snapshot m.wrapper m.todo entry.1 entry.2 live

/-- An input whose handling is a chain of calls. -/
def Input.plain : Input → Bool
  | .callback _ | .moveRequest .. | .resizeRequest .. | .deviceMoved .. => true
  | _ => false

/-- What a step of a sound machine does. -/
inductive Transition (clientOf : DesktopSurfaceId → ClientId) : Machine → Label → Machine → Prop
    where
  | call {w todo base label after} : (∀ input, label ≠ .input input) → Changes (w, todo) after →
      Transition clientOf ⟨w, todo, base⟩ label ⟨after.1, after.2, base⟩
  | handOver {w box todo base} :
      Transition clientOf ⟨w, .handOver box :: todo, base⟩ .run
        ⟨(w.handOver box).1, (w.handOver box).2 ++ todo, base⟩
  | takeOut {w box todo base} :
      Transition clientOf ⟨w, .takeOut box :: todo, base⟩ .run ⟨w.takeOut box, todo, base⟩
  | request {w input after} : input.plain → Changes (w, []) after →
      Transition clientOf ⟨w, [], .idle⟩ (.input input) ⟨after.1, after.2, .drain⟩
  | surfaceAdded {w surface} : w.known surface = false →
      Transition clientOf ⟨w, [], .idle⟩ (.input (.surfaceAdded surface))
        ⟨{ w with
          desktopSurfaces := w.desktopSurfaces.insert surface false
          recs := w.recs.insert surface ⟨false, 0, false⟩ }, [], .drain⟩
  | surfaceRemoved {w surface} : w.known surface →
      Transition clientOf ⟨w, [], .idle⟩ (.input (.surfaceRemoved surface))
        ⟨{ w with recs := w.recs.erase surface }, [.callbacks], .removed surface⟩
  | pingTimeout {w client surfaces} : w.isClientSurfaces clientOf client surfaces →
      Transition clientOf ⟨w, [], .idle⟩ (.input (.pingTimeout client surfaces))
        ⟨{ w.setUnresponsive surfaces true with
          waiting := client :: w.waiting
          queue := w.queue ++ [.pingTimeout surfaces] }, [], .drain⟩
  | pong {w client surfaces} : w.isClientSurfaces clientOf client surfaces →
      Transition clientOf ⟨w, [], .idle⟩ (.input (.pong client surfaces))
        ⟨{ w.setUnresponsive surfaces false with
          waiting := w.waiting.filter fun c => c ≠ client
          queue := w.queue ++ [.pong surfaces] }, [], .drain⟩
  | seatAdded {w seat} :
      Transition clientOf ⟨w, [], .idle⟩ (.input (.seatAdded seat))
        ⟨{ w with seats := w.seats ++ [seat] }, [], .drain⟩
  | seatGone {w seat} : (w.devices (.pointer seat)).plugged = false →
      (w.devices (.touch seat)).plugged = false →
      Transition clientOf ⟨w, [], .idle⟩ (.input (.seatGone seat))
        ⟨{ w with seats := w.seats.filter fun s => s ≠ seat }, [], .drain⟩
  | plug {w device} : device.seat ∈ w.seats →
      Transition clientOf ⟨w, [], .idle⟩ (.input (.plug device))
        ⟨w.setDevice device fun state => { state with plugged := true }, [], .drain⟩
  | unplug {w device after} : Changes (w, []) after → (after.1.devices device).current = none →
      held after.2 = [] →
      Transition clientOf ⟨w, [], .idle⟩ (.input (.unplug device))
        ⟨after.1.setDevice device fun state => { state with plugged := false }, after.2, .drain⟩
  | drained {w} : w.queue = [] →
      Transition clientOf ⟨w, [], .drain⟩ .run
        ⟨{ w with pendingDrop := [], freed := w.freed ++ w.pendingDrop }, [], .idle⟩
  | handled {w ev queue base} : w.queue = ev :: queue →
      (base = .drain ∨ (∃ surfaces, ev = .pingTimeout surfaces ∧ base = .ping w.seats surfaces) ∨
        ∃ first rest, ev = .pong (first :: rest) ∧ w.known first ∧
          base = .pong w.busyGrabs (clientOf first) w.livePointers) →
      (∀ first rest, ev = .pong (first :: rest) → w.known first → base ≠ .drain) →
      Transition clientOf ⟨w, [], .drain⟩ .run
        ⟨{ w with queue, handled := w.handled ++ [ev] }, [], base⟩
  | removed {w surface} :
      Transition clientOf ⟨w, [], .removed surface⟩ .run
        ⟨{ w with desktopSurfaces := w.desktopSurfaces.erase surface }, [], .drain⟩
  | ping {w seat seats surfaces after} : Changes (w, []) after →
      Transition clientOf ⟨w, [], .ping (seat :: seats) surfaces⟩ .run
        ⟨after.1, after.2, .ping seats surfaces⟩
  | pinged {w surfaces} :
      Transition clientOf ⟨w, [], .ping [] surfaces⟩ .run ⟨w, [], .drain⟩
  | ended {w box surface busy client live after} : Changes (w, []) after →
      (w.known surface → clientOf surface = client → after.1.endedCount box = 1) →
      Transition clientOf ⟨w, [], .pong ((box, surface) :: busy) client live⟩ .run
        ⟨after.1, after.2, .pong busy client live⟩
  | retired {w box surface busy client live} :
      (∀ device, (w.devices device).current ≠ some box) →
      Transition clientOf ⟨w, [], .pong ((box, surface) :: busy) client live⟩ .run
        ⟨w.retireSupersededPointerGrab box, [], .pong busy client live⟩
  | ponged {w client live} :
      Transition clientOf ⟨w, [], .pong [] client live⟩ .run ⟨w, [], .drain⟩

private theorem receive_transition {w : Wrapper} (sound : Sound w []) {input : Input}
    {next : Wrapper × List Op × Base} (received : w.receive clientOf input = some next) :
    Transition clientOf ⟨w, [], .idle⟩ (.input input) ⟨next.1, next.2.1, next.2.2⟩ := by
  unfold Wrapper.receive at received
  cases input with
  | callback call =>
      obtain rfl := Option.some.inj received
      have changes := call_changes sound call
      rw [List.append_nil] at changes
      exact .request rfl changes
  | moveRequest surface seat serial viewPos =>
      obtain rfl := Option.some.inj received
      have changes := handleMoveRequest_changes w [] surface seat serial viewPos
      rw [List.append_nil] at changes
      exact .request rfl changes
  | resizeRequest surface seat serial edges geometry =>
      obtain rfl := Option.some.inj received
      have changes := handleResizeRequest_changes w [] surface seat serial edges geometry
      rw [List.append_nil] at changes
      exact .request rfl changes
  | surfaceAdded surface =>
      dsimp only at received
      split at received
      · cases received
      · rename_i fresh
        obtain rfl := Option.some.inj received
        exact .surfaceAdded (by simpa using fresh)
  | surfaceRemoved surface =>
      dsimp only at received
      split at received
      · rename_i known
        obtain rfl := Option.some.inj received
        exact .surfaceRemoved known
      · cases received
  | pingTimeout client surfaces =>
      dsimp only at received
      split at received
      · rename_i exact'
        obtain rfl := Option.some.inj received
        exact .pingTimeout exact'
      · cases received
  | pong client surfaces =>
      dsimp only at received
      split at received
      · rename_i exact'
        obtain rfl := Option.some.inj received
        exact .pong exact'
      · cases received
  | seatAdded seat =>
      dsimp only at received
      split at received
      · cases received
      · obtain rfl := Option.some.inj received
        exact .seatAdded
  | seatGone seat =>
      dsimp only at received
      split at received
      · cases received
      · rename_i unplugged
        obtain rfl := Option.some.inj received
        simp only [Bool.or_eq_true, not_or, Bool.not_eq_true] at unplugged
        exact .seatGone unplugged.1 unplugged.2
  | plug device =>
      dsimp only at received
      split at received
      · rename_i seated
        obtain rfl := Option.some.inj received
        exact .plug seated
      · cases received
  | unplug device =>
      obtain rfl := Option.some.inj received
      have moved : Change (w, [])
          (w.setDevice device fun state => { state with focus := none }, []) :=
        .moved fun _ => ⟨rfl, rfl⟩
      have blurred := moved.sound sound
      have changes := cancelGrab_changes blurred device
      rw [List.append_nil] at changes
      obtain ⟨none, free⟩ := cancelGrab_current blurred device
      exact .unplug ((Relation.ReflTransGen.single moved).trans changes) none free
  | deviceMoved device focus downCount grabSerial grabPos =>
      obtain rfl := Option.some.inj received
      have moved : Change (w, []) (w.setDevice device fun state =>
          { state with focus, downCount, grabSerial, grabPos }, []) := .moved fun _ => ⟨rfl, rfl⟩
      exact .request rfl (.single moved)

private theorem stepBase_transition {w : Wrapper} {base : Base} {next : Machine}
    (sound : Machine.Sound ⟨w, [], base⟩)
    (stepped : Machine.stepBase clientOf w base = some next) :
    Transition clientOf ⟨w, [], base⟩ .run next := by
  have before : Sound w [] := sound.sound
  unfold Machine.stepBase at stepped
  cases base with
  | idle => cases stepped
  | drain =>
      simp only [Option.some.injEq] at stepped
      subst stepped
      unfold Wrapper.drainTurn
      cases queued : w.queue with
      | nil =>
          have drained := @Transition.drained clientOf w queued
          rw [queued] at drained
          exact drained
      | cons ev queue =>
          dsimp only
          split
          · exact .handled queued (.inr (.inl ⟨_, rfl, rfl⟩)) (by intro _ _ other; cases other)
          · split
            · rename_i first rest known
              exact .handled queued (.inr (.inr ⟨first, rest, rfl, known, rfl⟩))
                (by intro _ _ _ _ other; cases other)
            · rename_i first rest unknown
              refine .handled queued (.inl rfl) ?_
              intro other others same known
              simp only [Event.pong.injEq, List.cons.injEq] at same
              obtain ⟨rfl, rfl⟩ := same
              exact absurd known unknown
          · rename_i notPing notPong
            refine .handled queued (.inl rfl) ?_
            intro first rest same known
            exact absurd same (notPong first rest)
  | removed surface =>
      obtain rfl := Option.some.inj stepped
      exact .removed
  | ping seats surfaces =>
      cases seats with
      | nil =>
          obtain rfl := Option.some.inj stepped
          exact .pinged
      | cons seat seats =>
          obtain rfl := Option.some.inj stepped
          have changes := pingOne_changes w [] surfaces seat
          rw [List.append_nil] at changes
          exact .ping changes
  | pong busy client live =>
      cases busy with
      | nil =>
          obtain rfl := Option.some.inj stepped
          exact .ponged
      | cons entry busy =>
          obtain ⟨box, surface⟩ := entry
          simp only [Option.some.injEq] at stepped
          subst stepped
          have snapshot := sound.snapshots _ client live rfl (box, surface) List.mem_cons_self
          obtain ⟨ended | ⟨retired, superseded⟩, done⟩ :=
            @pongOne_cases clientOf w [] before client live box surface snapshot
          · rw [List.append_nil] at ended
            exact .ended ended done
          · rw [retired]
            exact .retired superseded

theorem step_transition {m next : Machine} {label : Label} (sound : m.Sound)
    (stepped : Machine.Step clientOf m label next) : Transition clientOf m label next := by
  obtain ⟨w, calls, base⟩ := m
  have before : Sound w calls := sound.sound
  unfold Machine.Step Machine.step at stepped
  dsimp only at stepped
  cases calls with
  | nil =>
      cases label with
      | run => exact stepBase_transition sound stepped
      | input input =>
          dsimp only at stepped
          split at stepped
          · rename_i idle
            subst idle
            obtain ⟨received, found, rfl⟩ := Option.map_eq_some_iff.mp stepped
            exact receive_transition before found
          · cases stepped
      | call | proceed | picked => cases stepped
  | cons op todo =>
      cases op with
      | callbacks =>
          cases label with
          | call call =>
              obtain rfl := Option.some.inj stepped
              exact .call (by simp) (call_changes before call)
          | proceed =>
              obtain rfl := Option.some.inj stepped
              have planned : Change (w, .callbacks :: todo) (w, todo) := .plan rfl rfl
              exact .call (by simp) (.single planned)
          | run | input | picked => cases stepped
      | startFocus seat =>
          cases label with
          | picked surface =>
              obtain rfl := Option.some.inj stepped
              have planned : Change (w, .startFocus seat :: todo) (w, todo) := .plan rfl rfl
              have focused := grabFocus_changes (planned.sound before) seat surface
              exact .call (by simp) ((Relation.ReflTransGen.single planned).trans focused)
          | run | input | call | proceed => cases stepped
      | handOver box =>
          cases label with
          | run =>
              obtain rfl := Option.some.inj stepped
              exact .handOver
          | input | call | proceed | picked => cases stepped
      | ungrab surface =>
          cases label with
          | run =>
              obtain rfl := Option.some.inj stepped
              have planned : Change (w, .ungrab surface :: todo) (w, todo) := .plan rfl rfl
              have released : Change (w, todo)
                  (w.setRec surface fun rec => { rec with grabbed := false }, todo) :=
                .flagged fun _ => rfl
              exact .call (by simp) (.tail (.single planned) released)
          | input | call | proceed | picked => cases stepped
      | takeOut box =>
          cases label with
          | run =>
              obtain rfl := Option.some.inj stepped
              exact .takeOut
          | input | call | proceed | picked => cases stepped

end Westonite.Grab
