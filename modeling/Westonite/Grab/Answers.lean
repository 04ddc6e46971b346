import Westonite.Grab.Liveness
import Westonite.Grab.Stranded

/-! What the handling of a `Pong` does to the current grabs: the invariant of its loop
over the busy grabs, with libweston calling back in between. -/

set_option autoImplicit false

namespace Westonite.Grab

open Library

section

variable (clientOf : DesktopSurfaceId → ClientId)

/-- The pointer of the seat is live, and its current grab is a busy grab on a live
surface of the client. -/
def Wrapper.ShowsBusy (w : Wrapper) (client : ClientId) (seat : SeatId) : Prop :=
  seat ∈ w.livePointers ∧ ∃ box inner, w.currentInner (.pointer seat) = some (box, inner) ∧
    inner.kind = .busy ∧ w.known inner.surface ∧ clientOf inner.surface = client

/-- The device is a pointer that shows the client busy. -/
def Wrapper.OnBusy (w : Wrapper) (client : ClientId) (device : Device) : Prop :=
  ∃ seat, device = .pointer seat ∧ w.ShowsBusy clientOf client seat

/-- No surface of the client is marked unresponsive. -/
def Wrapper.Responsive (w : Wrapper) (client : ClientId) : Prop :=
  ∀ surface rec, w.recs.lookup surface = some rec → clientOf surface = client →
    rec.unresponsive = false

/-- Between two events of the drain. -/
def Machine.boundary (m : Machine) : Prop := m.todo = [] ∧ m.base = .drain

/-- The device whose grab the call in progress ends or starts. -/
def Machine.regrabbed (m : Machine) : Option Device :=
  match m.todo with
  | .callbacks :: .takeOut box :: _ | .callbacks :: .handOver box :: _ =>
      (m.wrapper.boxes box).map GrabInner.device
  | _ => none

/-- A step within the handling of one event. Libweston calls back for a pointer whose
grab it ends or starts, with the focus that the default grab finds. -/
structure HandlingStep (m : Machine) (label : Label) (next : Machine) : Prop where
  inside : ¬ m.boundary
  refocus : ∀ call, label = .call call →
    ∃ seat focus, call = .focusSignal seat focus ∧ m.regrabbed = some (.pointer seat)
  taken : Machine.Step clientOf m label next

/-- The event in front of the queue is handled. -/
def Handles (m after : Machine) : Prop :=
  ∃ turned labels, Machine.Step clientOf m .run turned ∧
    Run (HandlingStep clientOf) turned labels after ∧ after.boundary

/-- The busy cursors of the client are gone, and no other current grab changed. -/
structure Answered (client : ClientId) (before after : Wrapper) : Prop where
  ended : ∀ seat, ¬ after.ShowsBusy clientOf client seat
  others : ∀ device, ¬ before.OnBusy clientOf client device →
    (after.devices device).current = (before.devices device).current

/-- The operation is about a pointer that showed the client busy, and installs no busy
grab of the client. -/
def Op.Spares (before now : Wrapper) (client : ClientId) : Op → Prop
  | .handOver box => ∀ inner, now.boxes box = some inner →
      before.OnBusy clientOf client inner.device ∧
        ¬ (inner.kind = .busy ∧ clientOf inner.surface = client)
  | .takeOut box => ∀ inner, now.boxes box = some inner →
      before.OnBusy clientOf client inner.device
  | .startFocus seat => before.OnBusy clientOf client (.pointer seat)
  | .callbacks | .ungrab _ => True

/-- The loop has the busy grabs of `busy` left to visit. -/
structure Answering (before : Wrapper) (client : ClientId)
    (busy : List (GrabId × DesktopSurfaceId)) (frame : Frame) : Prop where
  later : Later (before, []) frame
  responsive : frame.1.Responsive clientOf client
  current : ∀ device, ¬ before.OnBusy clientOf client device →
    (frame.1.devices device).current = (before.devices device).current
  listed : ∀ seat box inner, (frame.1.devices (.pointer seat)).current = some box →
    frame.1.boxes box = some inner → inner.kind = .busy → frame.1.known inner.surface →
    clientOf inner.surface = client → (box, inner.surface) ∈ busy
  spares : ∀ op ∈ frame.2, op.Spares clientOf before frame.1 client

end

variable {clientOf : DesktopSurfaceId → ClientId}

theorem Op.Spares.of_boxes {before now after : Wrapper} {client : ClientId} {op : Op}
    (spares : op.Spares clientOf before now client)
    (kept : ∀ box value, after.boxes box = some value →
      (∃ old, now.boxes box = some old ∧ SameBox old value) ∨
        before.OnBusy clientOf client value.device ∧
          ¬ (value.kind = .busy ∧ clientOf value.surface = client)) :
    op.Spares clientOf before after client := by
  cases op with
  | callbacks | ungrab _ => trivial
  | startFocus seat => exact spares
  | handOver box =>
      intro value found
      rcases kept box value found with ⟨old, there, same⟩ | new
      · rw [same.device, same.kind, same.surface]
        exact spares old there
      · exact new
  | takeOut box =>
      intro value found
      rcases kept box value found with ⟨old, there, same⟩ | new
      · rw [same.device]
        exact spares old there
      · exact new.1

private theorem Wrapper.Responsive.of_recs {w after : Wrapper} {client : ClientId}
    (responsive : w.Responsive clientOf client)
    (kept : ∀ surface rec, after.recs.lookup surface = some rec →
      ∃ old, w.recs.lookup surface = some old ∧ rec.unresponsive = old.unresponsive) :
    after.Responsive clientOf client := by
  intro surface rec found on
  obtain ⟨old, there, same⟩ := kept surface rec found
  rw [same]
  exact responsive surface old there on

private theorem setRec_unresponsive {w : Wrapper} {surface : DesktopSurfaceId}
    {change : SurfaceRec → SurfaceRec}
    (kept : ∀ rec, (change rec).unresponsive = rec.unresponsive) (other : DesktopSurfaceId)
    (rec : SurfaceRec) (found : (w.setRec surface change).recs.lookup other = some rec) :
    ∃ old, w.recs.lookup other = some old ∧ rec.unresponsive = old.unresponsive := by
  obtain ⟨old, there, same⟩ := lookup_setRec found
  refine ⟨old, there, ?_⟩
  rw [same]
  split
  · exact kept old
  · rfl

namespace Answering

variable {before w : Wrapper} {client : ClientId} {busy : List (GrabId × DesktopSurfaceId)}
  {todo : List Op}

/-- An operation that does nothing to the grabs comes or goes. -/
theorem drop {op : Op} (answering : Answering clientOf before client busy (w, op :: todo))
    (free : held (op :: todo) = held todo) : Answering clientOf before client busy (w, todo) where
  later := answering.later.trans (plan_later w free.symm)
  responsive := answering.responsive
  current := answering.current
  listed := answering.listed
  spares other member := answering.spares other (.tail op member)

theorem add {op : Op} (answering : Answering clientOf before client busy (w, todo))
    (free : held (op :: todo) = held todo) (spares : op.Spares clientOf before w client) :
    Answering clientOf before client busy (w, op :: todo) where
  later := answering.later.trans (plan_later w free)
  responsive := answering.responsive
  current := answering.current
  listed := answering.listed
  spares other member := by
    rcases List.mem_cons.mp member with rfl | member
    · exact spares
    · exact answering.spares other member

theorem setRec (answering : Answering clientOf before client busy (w, todo))
    (surface : DesktopSurfaceId) {change : SurfaceRec → SurfaceRec}
    (kept : ∀ rec, (change rec).unresponsive = rec.unresponsive) :
    Answering clientOf before client busy (w.setRec surface change, todo) where
  later := answering.later.trans (setRec_later w todo surface change)
  responsive := answering.responsive.of_recs (setRec_unresponsive kept)
  current := answering.current
  listed := answering.listed
  spares op member := (answering.spares op member).of_boxes fun _ value found =>
    .inl ⟨value, found, .refl value⟩

theorem setFocus (answering : Answering clientOf before client busy (w, todo)) (seat : SeatId)
    (focus : Option Focus) :
    Answering clientOf before client busy
      (w.setDevice (.pointer seat) fun state => { state with focus }, todo) := by
  have same : ∀ device,
      ((w.setDevice (.pointer seat) fun state => { state with focus }).devices device).current =
        (w.devices device).current ∧
      ((w.setDevice (.pointer seat) fun state => { state with focus }).devices device).plugged =
        (w.devices device).plugged := by
    intro device
    rw [setDevice_devices]
    split
    · rename_i here
      rw [here]
      exact ⟨rfl, rfl⟩
    · exact ⟨rfl, rfl⟩
  refine ⟨answering.later.trans ⟨fun _ inner found => ⟨inner, found, .refl inner⟩,
    fun _ member => .inl member, fun device => (same device).2, rfl, fun _ => rfl, rfl⟩,
    answering.responsive, ?_, ?_, ?_⟩
  · exact fun device apart => (same device).1.trans (answering.current device apart)
  · intro other box inner current
    rw [(same (.pointer other)).1] at current
    exact answering.listed other box inner current
  · exact fun op member => (answering.spares op member).of_boxes fun _ value found =>
      .inl ⟨value, found, .refl value⟩

/-- The current grab of such a pointer ends; it need not be listed any more. -/
theorem release {rest : List (GrabId × DesktopSurfaceId)}
    (answering : Answering clientOf before client busy (w, todo)) (sound : Sound w todo)
    {box : GrabId} {inner : GrabInner} (found : w.boxes box = some inner)
    (current : (w.devices inner.device).current = some box)
    (on : before.OnBusy clientOf client inner.device)
    (listed : ∀ entry ∈ busy, entry.1 ≠ box → entry ∈ rest) :
    Answering clientOf before client rest (w.release box inner, .takeOut box :: todo) := by
  have boxes : ∀ other value, (w.release box inner).boxes other = some value →
      ∃ old, w.boxes other = some old ∧ SameBox old value := by
    intro other value there
    have same : SameBox inner { inner with ended := true } := ⟨rfl, rfl, rfl⟩
    exact setBox_found found same there
  refine ⟨answering.later.trans (release_later found), ?_, ?_, ?_, ?_⟩
  · exact answering.responsive.of_recs (setRec_unresponsive fun _ => rfl)
  · intro device apart
    rw [release_devices, if_neg]
    · exact answering.current device apart
    · rintro rfl
      exact apart on
  · intro seat other value currentOther there kind known same
    dsimp only at currentOther
    rw [release_devices] at currentOther
    split at currentOther
    · cases currentOther
    · rename_i elsewhere
      obtain ⟨stored, storedFound, storedOn, _⟩ := sound.current _ _ currentOther
      have different : other ≠ box := by
        rintro rfl
        obtain rfl := Option.some.inj (storedFound.symm.trans found)
        exact elsewhere storedOn.symm
      obtain ⟨old, oldFound, sameBox⟩ := boxes other value there
      rw [sameBox.surface] at known same ⊢
      exact listed _ (answering.listed seat other old currentOther oldFound
        (sameBox.kind.symm.trans kind) known same) different
  · intro op member
    rcases List.mem_cons.mp member with rfl | member
    · intro value there
      obtain ⟨old, oldFound, sameBox⟩ := boxes box value there
      obtain rfl := Option.some.inj (oldFound.symm.trans found)
      rw [sameBox.device]
      exact on
    · exact (answering.spares op member).of_boxes fun other value there =>
        .inl (boxes other value there)

theorem endGrab {rest : List (GrabId × DesktopSurfaceId)}
    (answering : Answering clientOf before client busy (w, todo)) (sound : Sound w todo)
    {box : GrabId} {inner : GrabInner} (found : w.boxes box = some inner)
    (going : inner.ended = false) (current : (w.devices inner.device).current = some box)
    (on : before.OnBusy clientOf client inner.device)
    (listed : ∀ entry ∈ busy, entry.1 ≠ box → entry ∈ rest) :
    Answering clientOf before client rest ((w.endGrab box).1, (w.endGrab box).2 ++ todo) := by
  have released := answering.release sound found current on listed
  unfold Wrapper.endGrab
  simp only [found, going, Bool.false_eq_true, if_false]
  cases inner.device with
  | pointer seat => exact released.add rfl trivial
  | touch seat => exact released

/-- A busy grab of another client starts on such a pointer. -/
theorem setBusyCursor (answering : Answering clientOf before client busy (w, todo))
    (sound : Sound w todo) {surface : DesktopSurfaceId} {seat : SeatId}
    (on : before.OnBusy clientOf client (.pointer seat)) (apart : clientOf surface ≠ client) :
    Answering clientOf before client busy
      ((w.setBusyCursor surface seat).1, (w.setBusyCursor surface seat).2 ++ todo) := by
  unfold Wrapper.setBusyCursor
  split
  · exact answering
  · split
    · exact answering
    · have added : Answering clientOf before client busy (w, .ungrab surface :: todo) :=
        answering.add rfl trivial
      have soundAdded : Sound w (.ungrab surface :: todo) := sound.sameTodo rfl rfl
      have other : ¬ ((Wrapper.pointerGrab .busy surface seat (0, 0) 0 0 0).kind = .busy ∧
          clientOf (Wrapper.pointerGrab .busy surface seat (0, 0) 0 0 0).surface = client) :=
        fun both => apart both.2
      have boxes : ∀ box value, (w.startGrab
          (Wrapper.pointerGrab .busy surface seat (0, 0) 0 0 0)).1.boxes box = some value →
          (∃ old, w.boxes box = some old ∧ SameBox old value) ∨
            value = Wrapper.pointerGrab .busy surface seat (0, 0) 0 0 0 := by
        intro box value there
        change Function.update w.boxes w.nextBox _ box = some value at there
        rw [Function.update_apply] at there
        split at there
        · exact .inr (Option.some.inj there).symm
        · exact .inl ⟨value, there, .refl value⟩
      have spares : ∀ op : Op, op.Spares clientOf before w client →
          op.Spares clientOf before (w.startGrab
            (Wrapper.pointerGrab .busy surface seat (0, 0) 0 0 0)).1 client := by
        intro op kept
        apply kept.of_boxes
        intro box value there
        rcases boxes box value there with old | rfl
        · exact .inl old
        · exact .inr ⟨on, other⟩
      have later := startGrab_later soundAdded
        (Wrapper.pointerGrab .busy surface seat (0, 0) 0 0 0)
      refine ⟨added.later.trans later, answering.responsive, answering.current, ?_, ?_⟩
      · intro otherSeat box value current there kind known same
        rcases boxes box value there with ⟨old, found, sameBox⟩ | rfl
        · rw [sameBox.surface] at known same ⊢
          exact answering.listed otherSeat box old current found (sameBox.kind.symm.trans kind)
            known same
        · exact absurd same apart
      · intro op member
        have cases : op = .callbacks ∨ op = .handOver w.nextBox ∨ op = .ungrab surface ∨
            op ∈ todo := by simpa [Wrapper.startGrab] using member
        rcases cases with rfl | rfl | rfl | member
        · trivial
        · intro value there
          change Function.update w.boxes w.nextBox _ w.nextBox = some value at there
          rw [Function.update_self] at there
          obtain rfl := Option.some.inj there
          exact ⟨on, other⟩
        · trivial
        · exact spares op (answering.spares op member)

theorem onPointerFocus (answering : Answering clientOf before client busy (w, todo))
    (sound : Sound w todo) {seat : SeatId} (on : before.OnBusy clientOf client (.pointer seat))
    (focus : Option Focus) :
    Answering clientOf before client busy
      ((w.onPointerFocus seat focus).1, (w.onPointerFocus seat focus).2 ++ todo) := by
  unfold Wrapper.onPointerFocus
  split
  · exact answering
  · rename_i surface _
    split
    · exact answering
    · split
      · exact answering
      · rename_i rec found
        split
        · rename_i marked
          apply answering.setBusyCursor sound on
          intro same
          have clear := answering.responsive surface rec found same
          rw [clear] at marked
          cases marked
        · exact answering

theorem grabFocus {seat : SeatId} (answering : Answering clientOf before client busy (w, todo))
    (sound : Sound w todo) (on : before.OnBusy clientOf client (.pointer seat))
    (picked : Option DesktopSurfaceId) :
    Answering clientOf before client busy
      ((w.grabFocus seat picked).1, (w.grabFocus seat picked).2 ++ todo) := by
  unfold Wrapper.grabFocus
  cases found : w.currentInner (.pointer seat) with
  | none => exact answering
  | some grab =>
      obtain ⟨box, inner⟩ := grab
      obtain ⟨there, device, going, current⟩ := sound.currentInner found
      cases kind : inner.kind with
      | busy =>
          simp only [kind]
          split
          · exact answering.endGrab sound there going current (device ▸ on)
              fun _ member _ => member
          · exact answering
      | move | resize | touchMove =>
          simp only [kind]
          exact answering

theorem handOver {box : GrabId}
    (answering : Answering clientOf before client busy (w, .handOver box :: todo))
    (sound : Sound w (.handOver box :: todo)) :
    Answering clientOf before client busy ((w.handOver box).1, (w.handOver box).2 ++ todo) := by
  obtain ⟨inner, found, _⟩ := sound.held_cons
  obtain ⟨on, other⟩ := answering.spares (.handOver box) List.mem_cons_self inner found
  obtain ⟨seat, pointer, shows⟩ := on
  have later := handOver_later found todo
  have installed : ∀ device, ((w.install box inner).devices device).current =
      if device = .pointer seat then some box else (w.devices device).current := by
    intro device
    rw [install_devices, pointer]
    split <;> rfl
  unfold Wrapper.handOver at later ⊢
  simp only [found, pointer] at later ⊢
  refine ⟨answering.later.trans later, ?_, ?_, ?_, ?_⟩
  · exact answering.responsive.of_recs (setRec_unresponsive fun _ => rfl)
  · intro device apart
    dsimp only
    rw [installed, if_neg]
    · exact answering.current device apart
    · rintro rfl
      exact apart ⟨seat, rfl, shows⟩
  · intro otherSeat otherBox value current there kind known same
    dsimp only at current
    rw [installed] at current
    split at current
    · obtain rfl := Option.some.inj current
      obtain rfl := Option.some.inj (found.symm.trans there)
      exact absurd ⟨kind, same⟩ other
    · exact answering.listed otherSeat otherBox value current there kind known same
  · intro op member
    rcases List.mem_cons.mp member with rfl | member
    · exact ⟨seat, rfl, shows⟩
    · exact (answering.spares op (.tail _ member)).of_boxes fun _ value there =>
        .inl ⟨value, there, .refl value⟩

/-- Nothing changes that the client could see. -/
theorem of_same {after : Wrapper} {rest : List Op}
    (answering : Answering clientOf before client busy (w, todo))
    (later : Later (w, todo) (after, rest)) (recs : after.recs = w.recs)
    (devices : after.devices = w.devices) (surfaces : after.desktopSurfaces = w.desktopSurfaces)
    (boxes : ∀ box value, after.boxes box = some value →
      ∃ old, w.boxes box = some old ∧ SameBox old value)
    (ops : ∀ op ∈ rest, op ∈ todo) : Answering clientOf before client busy (after, rest) := by
  refine ⟨answering.later.trans later, ?_, ?_, ?_, ?_⟩
  · apply answering.responsive.of_recs
    intro surface rec found
    rw [recs] at found
    exact ⟨rec, found, rfl⟩
  · intro device apart
    dsimp only
    rw [devices]
    exact answering.current device apart
  · intro seat box value current found kind known same
    dsimp only at current
    rw [devices] at current
    obtain ⟨old, there, sameBox⟩ := boxes box value found
    unfold Wrapper.known at known
    dsimp only at known
    rw [surfaces] at known
    rw [sameBox.surface] at known same ⊢
    exact answering.listed seat box old current there (sameBox.kind.symm.trans kind) known same
  · exact fun op member => (answering.spares op (ops op member)).of_boxes fun box value found =>
      .inl (boxes box value found)

theorem takeOut {box : GrabId}
    (answering : Answering clientOf before client busy (w, .takeOut box :: todo)) :
    Answering clientOf before client busy (w.takeOut box, todo) := by
  have later := takeOut_later w box todo
  unfold Wrapper.takeOut at later ⊢
  cases found : w.boxes box with
  | none => exact answering.drop rfl
  | some inner =>
      rw [found] at later
      obtain ⟨boxes, devices, _, _, surfaces, recs, _⟩ := leaveActive_fields w box
      apply answering.of_same later recs devices surfaces
      · intro other value there
        change (w.leaveActive box).boxes other = some value at there
        rw [boxes] at there
        exact ⟨value, there, .refl value⟩
      · exact fun op => .tail _

/-- A superseded grab is retired; it is not current anywhere. -/
theorem retire {rest : List (GrabId × DesktopSurfaceId)}
    (answering : Answering clientOf before client busy (w, todo)) {box : GrabId}
    (superseded : ∀ device, (w.devices device).current ≠ some box)
    (listed : ∀ entry ∈ busy, entry.1 ≠ box → entry ∈ rest) :
    Answering clientOf before client rest (w.retireSupersededPointerGrab box, todo) := by
  have current : ∀ seat other inner, (w.devices (.pointer seat)).current = some other →
      w.boxes other = some inner → inner.kind = .busy → w.known inner.surface →
      clientOf inner.surface = client → (other, inner.surface) ∈ rest := by
    intro seat other inner current found kind known same
    refine listed _ (answering.listed seat other inner current found kind known same) ?_
    rintro rfl
    exact superseded _ current
  have kept : Answering clientOf before client rest (w, todo) :=
    ⟨answering.later, answering.responsive, answering.current, current, answering.spares⟩
  have later := @retire_later w todo box
  unfold Wrapper.retireSupersededPointerGrab at later ⊢
  cases found : w.boxes box with
  | none => exact kept
  | some inner =>
      rw [found] at later
      dsimp only at later ⊢
      split
      · exact kept
      · rename_i going
        rw [if_neg going] at later
        obtain ⟨boxes, devices, _, _, surfaces, recs, _⟩ :=
          leaveActive_fields (w.setBox box { inner with ended := true }) box
        apply kept.of_same later recs devices surfaces
        · intro other value there
          have same : SameBox inner { inner with ended := true } := ⟨rfl, rfl, rfl⟩
          change ((w.setBox box { inner with ended := true }).leaveActive box).boxes other =
            some value at there
          rw [boxes] at there
          exact setBox_found found same there
        · exact fun _ => id

end Answering

end Westonite.Grab
