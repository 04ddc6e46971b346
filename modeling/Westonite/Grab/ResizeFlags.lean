import Westonite.Grab.Stranded

/-! The flags of a surface while a grab resizes it. They are one pair for all the
grabs on the surface, and the end of any of them clears both. -/

set_option autoImplicit false

namespace Westonite.Grab

open Library

/-- `tramp_committed`. -/
def Wrapper.committed (w : Wrapper) (surface : DesktopSurfaceId) (bufDx bufDy : Coord)
    (width height : Int) (mapped : Bool) : Option Event :=
  match w.recs.lookup surface with
  | none => none
  | some rec =>
      if w.known surface then
        some (.committed surface bufDx bufDy (.ofBitsTruncate rec.resizeEdges) width height mapped)
      else none

/-! ### What ends a grab -/

/-- The grab that a callback ends. -/
def Wrapper.ends (w : Wrapper) : Callback → Option (GrabId × GrabInner)
  | .focusSignal _ _ => none
  | .grabFocus seat picked =>
      (w.currentInner (.pointer seat)).filter fun grab =>
        grab.2.kind == .busy &&
          decide (picked ≠ some grab.2.surface ∨ (w.recs.lookup grab.2.surface).isNone)
  | .button seat count _ pressed =>
      (w.currentInner (.pointer seat)).filter fun grab =>
        count == 0 && !pressed && (grab.2.kind == .move || grab.2.kind == .resize)
  | .touchUp seat _ numTp => (w.currentInner (.touch seat)).filter fun _ => numTp == 0
  | .cancel device => w.currentInner device

/-- A resize of the surface is the current grab of its device. -/
def Wrapper.Resizing (w : Wrapper) (box : GrabId) (surface : DesktopSurfaceId) : Prop :=
  ∃ inner, w.boxes box = some inner ∧ inner.kind = .resize ∧ inner.surface = surface ∧
    (w.devices inner.device).current = some box

/-- A resize of the surface is about to be handed over. -/
def Wrapper.Resuming (w : Wrapper) (todo : List Op) (box : GrabId)
    (surface : DesktopSurfaceId) : Prop :=
  ∃ inner, w.boxes box = some inner ∧ inner.kind = .resize ∧ inner.surface = surface ∧
    box ∈ held todo

section

variable (clientOf : DesktopSurfaceId → ClientId)

/-- The grab that a turn of the loop over busy grabs ends. -/
def Wrapper.pongEnds (w : Wrapper) (client : ClientId) (live : List SeatId) (box : GrabId)
    (surface : DesktopSurfaceId) : Option (GrabId × GrabInner) :=
  ((w.boxes box).filter fun inner =>
    w.known surface && decide (clientOf surface = client) &&
      decide (inner.device.seat ∈ live ∧ (w.devices inner.device).current = some box)).map
    fun inner => (box, inner)

/-- The grab that a step ends. -/
def Machine.ends (m : Machine) (label : Label) : Option (GrabId × GrabInner) :=
  match m.todo, label with
  | [], .input (.callback call) => m.wrapper.ends call
  | [], .input (.unplug device) => m.wrapper.ends (.cancel device)
  | [], .run =>
      match m.base with
      | .pong ((box, surface) :: _) client live => m.wrapper.pongEnds clientOf client live box surface
      | _ => none
  | .callbacks :: _, .call call => m.wrapper.ends call
  | .startFocus seat :: _, .picked surface => m.wrapper.ends (.grabFocus seat surface)
  | _, _ => none

/-- The step leaves the surfaces alone that another grab resizes: it ends no grab on
one, gives none free after a busy cursor, and adds none under the id of one. -/
structure Machine.Spares (m : Machine) (label : Label) : Prop where
  ends : ∀ box inner, m.ends clientOf label = some (box, inner) →
    (m.wrapper.recs.lookup inner.surface).isSome → ∀ other, other ≠ box →
      ¬ m.wrapper.Resizing other inner.surface ∧
      ¬ m.wrapper.Resuming m.todo other inner.surface
  ungrabs : ∀ surface todo, m.todo = .ungrab surface :: todo → ∀ box,
    ¬ m.wrapper.Resizing box surface
  adds : ∀ surface, label = .input (.surfaceAdded surface) → ∀ box,
    ¬ m.wrapper.Resizing box surface

def SparingStep (m : Machine) (label : Label) (next : Machine) : Prop :=
  m.Spares clientOf label ∧ Machine.Step clientOf m label next

end

variable {clientOf : DesktopSurfaceId → ClientId}

/-- The flags of a surface say what the grab that resizes it says. -/
structure Marked (frame : Frame) : Prop where
  edges : ∀ box inner, frame.1.boxes box = some inner → inner.kind = .resize →
    Wrapper.invalidEdges inner.edges = false
  current : ∀ device box inner rec, (frame.1.devices device).current = some box →
    frame.1.boxes box = some inner → inner.kind = .resize →
    frame.1.recs.lookup inner.surface = some rec →
    rec.resizeEdges = inner.edges ∧ rec.grabbed = true
  pending : ∀ box inner rec, box ∈ held frame.2 → frame.1.boxes box = some inner →
    inner.kind = .resize → frame.1.recs.lookup inner.surface = some rec →
    rec.resizeEdges = inner.edges

/-- Nothing starts to resize, and no flags change but those of the surface of the
grab that is freed. -/
structure Eases (freed : Option (GrabId × DesktopSurfaceId)) (before after : Frame) : Prop where
  recs : ∀ surface rec, after.1.recs.lookup surface = some rec →
    ∃ old, before.1.recs.lookup surface = some old ∧
      ((∃ box, freed = some (box, surface)) ∨
        rec.resizeEdges = old.resizeEdges ∧ rec.grabbed = old.grabbed)
  current : ∀ device box, (after.1.devices device).current = some box →
    (before.1.devices device).current = some box ∧ ∀ surface, freed ≠ some (box, surface)
  boxes : ∀ box inner, after.1.boxes box = some inner → inner.kind = .resize →
    ∃ old, before.1.boxes box = some old ∧ old.kind = .resize ∧ old.surface = inner.surface ∧
      old.edges = inner.edges ∧ old.device = inner.device
  pending : ∀ box inner, box ∈ held after.2 → after.1.boxes box = some inner →
    inner.kind = .resize →
    box ∈ held before.2 ∧ ∀ surface, freed ≠ some (box, surface)

namespace Eases

variable {freed : Option (GrabId × DesktopSurfaceId)} {before middle after : Frame}

theorem refl (frame : Frame) : Eases none frame frame where
  recs _ rec found := ⟨rec, found, .inr ⟨rfl, rfl⟩⟩
  current _ _ present := ⟨present, fun _ impossible => by cases impossible⟩
  boxes _ inner found kind := ⟨inner, found, kind, rfl, rfl, rfl⟩
  pending _ _ member _ _ := ⟨member, fun _ impossible => by cases impossible⟩

theorem trans (first : Eases none before middle) (second : Eases freed middle after) :
    Eases freed before after where
  recs surface rec found := by
    obtain ⟨between, there, same⟩ := second.recs surface rec found
    obtain ⟨old, oldFound, sameOld⟩ := first.recs surface between there
    refine ⟨old, oldFound, ?_⟩
    rcases sameOld with ⟨_, impossible⟩ | ⟨edges, grabbed⟩
    · cases impossible
    · exact same.imp_right fun same => ⟨same.1.trans edges, same.2.trans grabbed⟩
  current device box present := by
    obtain ⟨there, other⟩ := second.current device box present
    exact ⟨(first.current device box there).1, other⟩
  boxes box inner found kind := by
    obtain ⟨between, there, kindBetween, surface, edges, device⟩ :=
      second.boxes box inner found kind
    obtain ⟨old, oldFound, kindOld, surfaceOld, edgesOld, deviceOld⟩ :=
      first.boxes box between there kindBetween
    exact ⟨old, oldFound, kindOld, surfaceOld.trans surface, edgesOld.trans edges,
      deviceOld.trans device⟩
  pending box inner member found kind := by
    obtain ⟨there, other⟩ := second.pending box inner member found kind
    obtain ⟨between, middleFound, kindBetween, _⟩ := second.boxes box inner found kind
    exact ⟨(first.pending box between there middleFound kindBetween).1, other⟩

/-- A change of what no resize looks at. -/
theorem of_fields {w after : Wrapper} {todo other : List Op} (boxes : after.boxes = w.boxes)
    (recs : after.recs = w.recs)
    (current : ∀ device, (after.devices device).current = (w.devices device).current)
    (holds : held other = held todo) : Eases none (w, todo) (after, other) where
  recs _ rec found := ⟨rec, recs ▸ found, .inr ⟨rfl, rfl⟩⟩
  current device _ present := ⟨current device ▸ present, fun _ impossible => by cases impossible⟩
  boxes _ inner found kind := ⟨inner, boxes ▸ found, kind, rfl, rfl, rfl⟩
  pending _ _ member _ _ := ⟨holds ▸ member, fun _ impossible => by cases impossible⟩

end Eases

theorem Marked.eases {freed : Option (GrabId × DesktopSurfaceId)} {before after : Frame}
    (marked : Marked before) (sound : Sound before.1 before.2) (eases : Eases freed before after)
    (spared : ∀ box surface, freed = some (box, surface) →
      (before.1.recs.lookup surface).isSome → ∀ other, other ≠ box →
        ¬ before.1.Resizing other surface ∧ ¬ before.1.Resuming before.2 other surface) :
    Marked after where
  edges box inner found kind := by
    obtain ⟨old, oldFound, oldKind, _, same, _⟩ := eases.boxes box inner found kind
    rw [← same]
    exact marked.edges box old oldFound oldKind
  current device box inner rec present found kind flags := by
    obtain ⟨there, distinct⟩ := eases.current device box present
    obtain ⟨old, oldFound, oldKind, surface, edges, _⟩ := eases.boxes box inner found kind
    obtain ⟨oldRec, oldFlags, same⟩ := eases.recs inner.surface rec flags
    rcases same with ⟨other, same⟩ | ⟨sameEdges, sameGrabbed⟩
    · obtain ⟨value, valueFound, on, _⟩ := sound.current device box there
      obtain rfl := Option.some.inj (valueFound.symm.trans oldFound)
      have different : box ≠ other := by
        rintro rfl
        exact distinct _ same
      have free := (spared other inner.surface same (by simp [oldFlags]) box different).1
      exact absurd ⟨value, oldFound, oldKind, surface, by rw [on]; exact there⟩ free
    · rw [sameEdges, sameGrabbed, ← edges]
      rw [← surface] at oldFlags
      exact marked.current device box old oldRec there oldFound oldKind oldFlags
  pending box inner rec member found kind flags := by
    obtain ⟨there, distinct⟩ := eases.pending box inner member found kind
    obtain ⟨old, oldFound, oldKind, surface, edges, _⟩ := eases.boxes box inner found kind
    obtain ⟨oldRec, oldFlags, same⟩ := eases.recs inner.surface rec flags
    rcases same with ⟨other, same⟩ | ⟨sameEdges, _⟩
    · have different : box ≠ other := by
        rintro rfl
        exact distinct _ same
      have free := (spared other inner.surface same (by simp [oldFlags]) box different).2
      exact absurd ⟨old, oldFound, oldKind, surface, there⟩ free
    · rw [sameEdges, ← edges]
      rw [← surface] at oldFlags
      exact marked.pending box old oldRec there oldFound oldKind oldFlags

/-! ### Calls -/

theorem startGrab_fresh (w : Wrapper) (inner : GrabInner) :
    (w.startGrab inner).1.boxes w.nextBox = some inner := by
  simp [Wrapper.startGrab, Wrapper.setBox]

theorem eases_startGrab {w : Wrapper} {todo : List Op} (inner : GrabInner)
    (kind : inner.kind ≠ .resize) :
    Eases none (w, todo) ((w.startGrab inner).1, (w.startGrab inner).2 ++ todo) where
  recs _ rec found := ⟨rec, found, .inr ⟨rfl, rfl⟩⟩
  current _ _ present := ⟨present, fun _ impossible => by cases impossible⟩
  boxes box value found resize := by
    have different : box ≠ w.nextBox := by
      rintro rfl
      rw [startGrab_fresh] at found
      cases found
      exact kind resize
    have old : Function.update w.boxes w.nextBox (some inner) box = some value := found
    rw [Function.update_of_ne different] at old
    exact ⟨value, old, resize, rfl, rfl, rfl⟩
  pending box value member found resize := by
    refine ⟨?_, fun _ impossible => by cases impossible⟩
    have listed : box ∈ w.nextBox :: held todo := member
    rcases List.mem_cons.mp listed with rfl | old
    · rw [startGrab_fresh] at found
      cases found
      exact absurd resize kind
    · exact old

theorem eases_setBusyCursor (w : Wrapper) (todo : List Op) (surface : DesktopSurfaceId)
    (seat : SeatId) :
    Eases none (w, todo)
      ((w.setBusyCursor surface seat).1, (w.setBusyCursor surface seat).2 ++ todo) := by
  unfold Wrapper.setBusyCursor
  split
  · exact .refl _
  · split
    · exact .refl _
    · have planned : Eases none (w, todo) (w, .ungrab surface :: todo) :=
        .of_fields rfl rfl (fun _ => rfl) rfl
      exact planned.trans (eases_startGrab _ (by simp [Wrapper.pointerGrab]))

private theorem eases_release {w : Wrapper} {todo ops : List Op} {box : GrabId} {inner : GrabInner}
    (sound : Sound w todo) (found : w.boxes box = some inner)
    (current : (w.devices inner.device).current = some box)
    (holds : held (ops ++ todo) = held todo) :
    Eases (some (box, inner.surface)) (w, todo) (w.release box inner, ops ++ todo) where
  recs surface rec there := by
    obtain ⟨old, oldFound, same⟩ := @lookup_setRec w inner.surface surface
      (fun rec => { rec with grabbed := false, resizeEdges := 0 }) rec there
    refine ⟨old, oldFound, ?_⟩
    split at same
    · rename_i here
      exact .inl ⟨box, by rw [here]⟩
    · exact .inr ⟨by rw [same], by rw [same]⟩
  current device other present := by
    dsimp only at present
    rw [release_devices] at present
    split at present
    · cases present
    · rename_i elsewhere
      refine ⟨present, ?_⟩
      intro surface same
      obtain ⟨rfl, _⟩ := Prod.mk.inj (Option.some.inj same)
      obtain ⟨value, there, on, _⟩ := sound.current device box present
      obtain rfl := Option.some.inj (there.symm.trans found)
      exact elsewhere on.symm
  boxes other value there kind := by
    have changed : Function.update w.boxes box (some { inner with ended := true }) other =
        some value := there
    rw [Function.update_apply] at changed
    split at changed
    · rename_i here
      cases changed
      exact ⟨inner, here ▸ found, kind, rfl, rfl, rfl⟩
    · exact ⟨value, changed, kind, rfl, rfl, rfl⟩
  pending other value member there kind := by
    dsimp only at member
    rw [holds] at member
    refine ⟨member, ?_⟩
    intro surface same
    obtain ⟨rfl, _⟩ := Prod.mk.inj (Option.some.inj same)
    obtain ⟨_, _, _, _, free⟩ := sound.current inner.device box current
    exact free member

/-- What the end of a grab frees. -/
def freed (ends : Option (GrabId × GrabInner)) : Option (GrabId × DesktopSurfaceId) :=
  ends.map fun grab => (grab.1, grab.2.surface)

theorem eases_endGrab {w : Wrapper} {todo : List Op} {box : GrabId} {inner : GrabInner}
    (sound : Sound w todo) (found : w.boxes box = some inner) (going : inner.ended = false)
    (current : (w.devices inner.device).current = some box) :
    Eases (freed (some (box, inner))) (w, todo) ((w.endGrab box).1, (w.endGrab box).2 ++ todo) := by
  unfold Wrapper.endGrab
  simp only [found, going, Bool.false_eq_true, if_false]
  cases inner.device with
  | pointer seat => exact eases_release sound found current rfl
  | touch seat => exact eases_release sound found current rfl

private theorem eases_resizeFinish {w : Wrapper} {todo : List Op} {box : GrabId} {inner : GrabInner}
    (sound : Sound w todo) (found : w.boxes box = some inner) (going : inner.ended = false)
    (current : (w.devices inner.device).current = some box) :
    Eases (freed (some (box, inner))) (w, todo)
      ((w.resizeFinish box inner).1, (w.resizeFinish box inner).2 ++ todo) := by
  have unmarked : Eases none (w, todo) (w.setResizing inner.surface false, todo) :=
    .of_fields rfl rfl (fun _ => rfl) rfl
  have kept := sound.same (sameGrabs_setResizing w inner.surface false)
  exact unmarked.trans (eases_endGrab kept found going current)

private theorem eases_onPointerFocus (w : Wrapper) (todo : List Op) (seat : SeatId)
    (focus : Option Focus) :
    Eases none (w, todo)
      ((w.onPointerFocus seat focus).1, (w.onPointerFocus seat focus).2 ++ todo) := by
  unfold Wrapper.onPointerFocus
  split
  · exact .refl _
  · split
    · exact .refl _
    · split
      · exact .refl _
      · split
        · exact eases_setBusyCursor w todo _ seat
        · exact .refl _

theorem eases_grabFocus {w : Wrapper} {todo : List Op} (sound : Sound w todo) (seat : SeatId)
    (picked : Option DesktopSurfaceId) :
    Eases (freed (w.ends (.grabFocus seat picked))) (w, todo)
      ((w.grabFocus seat picked).1, (w.grabFocus seat picked).2 ++ todo) := by
  unfold Wrapper.grabFocus Wrapper.ends
  cases found : w.currentInner (.pointer seat) with
  | none =>
      simp only [found]
      exact .refl _
  | some grab =>
      obtain ⟨box, inner⟩ := grab
      obtain ⟨there, _, going, current⟩ := sound.currentInner found
      cases kind : inner.kind with
      | busy =>
          by_cases left : picked ≠ some inner.surface ∨ (w.recs.lookup inner.surface).isNone
          · simp only [found, kind, if_pos left, Option.filter_some, beq_self_eq_true,
              decide_eq_true left, Bool.and_true, if_true]
            exact eases_endGrab sound there going current
          · simp only [found, kind, if_neg left, Option.filter_some, decide_eq_false left,
              Bool.and_false, Bool.false_eq_true, if_false]
            exact .refl _
      | move | resize | touchMove =>
          simp only [found, kind, Option.filter_some]
          exact .refl _

theorem current_setDevice {w : Wrapper} {device : Device} {change : DeviceState → DeviceState}
    (kept : ∀ state, (change state).current = state.current) (other : Device) :
    ((w.setDevice device change).devices other).current = (w.devices other).current := by
  rw [setDevice_devices]
  split
  · rename_i here
    rw [here, kept]
  · rfl

theorem eases_moved {w : Wrapper} {todo : List Op} {device : Device}
    {change : DeviceState → DeviceState} (kept : ∀ state, (change state).current = state.current) :
    Eases none (w, todo) (w.setDevice device change, todo) :=
  .of_fields rfl rfl (current_setDevice kept) rfl

private theorem currentInner_setDevice {w : Wrapper} {device : Device}
    {change : DeviceState → DeviceState} (kept : ∀ state, (change state).current = state.current)
    (other : Device) : (w.setDevice device change).currentInner other = w.currentInner other := by
  unfold Wrapper.currentInner
  rw [current_setDevice kept]
  rfl

private theorem eases_grabButton {w : Wrapper} {todo : List Op} (sound : Sound w todo)
    (seat : SeatId)
    (button : Nat) (pressed : Bool) :
    Eases (freed (w.ends (.button seat (w.devices (.pointer seat)).downCount button pressed)))
      (w, todo)
      ((w.grabButton seat button pressed).1, (w.grabButton seat button pressed).2 ++ todo) := by
  unfold Wrapper.grabButton Wrapper.ends
  cases found : w.currentInner (.pointer seat) with
  | none =>
      simp only [found]
      exact .refl _
  | some grab =>
      obtain ⟨box, inner⟩ := grab
      obtain ⟨there, _, going, current⟩ := sound.currentInner found
      simp only [found, Option.filter_some]
      generalize ((w.devices (.pointer seat)).downCount == 0 && !pressed) = last
      cases kind : inner.kind with
      | move =>
          cases last with
          | true => exact eases_endGrab sound there going current
          | false => exact .refl _
      | resize =>
          cases last with
          | true => exact eases_resizeFinish sound there going current
          | false => exact .refl _
      | busy =>
          have kept : freed (if (last && (GrabKind.busy == .move || GrabKind.busy == .resize)) = true
              then some (box, inner) else none) = none := by
            rw [Bool.and_comm]
            rfl
          rw [kept]
          dsimp only
          split
          · exact .of_fields rfl rfl (fun _ => rfl) rfl
          · exact .refl _
      | touchMove =>
          have kept : freed (if (last && (GrabKind.touchMove == .move ||
              GrabKind.touchMove == .resize)) = true then some (box, inner) else none) = none := by
            rw [Bool.and_comm]
            rfl
          rw [kept]
          exact .refl _

/-- A box changes in what a resize does not look at. -/
theorem eases_setBox {w : Wrapper} {todo : List Op} {box : GrabId} {inner changed : GrabInner}
    (found : w.boxes box = some inner) (kind : changed.kind = inner.kind)
    (surface : changed.surface = inner.surface) (edges : changed.edges = inner.edges)
    (device : changed.device = inner.device) :
    Eases none (w, todo) (w.setBox box changed, todo) where
  recs _ rec there := ⟨rec, there, .inr ⟨rfl, rfl⟩⟩
  current _ _ present := ⟨present, fun _ impossible => by cases impossible⟩
  boxes other value there resize := by
    have moved : Function.update w.boxes box (some changed) other = some value := there
    rw [Function.update_apply] at moved
    split at moved
    · rename_i here
      cases moved
      exact ⟨inner, here ▸ found, kind.symm.trans resize, surface.symm, edges.symm, device.symm⟩
    · exact ⟨value, moved, resize, rfl, rfl, rfl⟩
  pending _ _ member _ _ := ⟨member, fun _ impossible => by cases impossible⟩

private theorem eases_touchUp {w : Wrapper} {todo : List Op} (sound : Sound w todo) (seat : SeatId)
    (touchId : Nat) :
    Eases (freed (w.ends (.touchUp seat touchId (w.devices (.touch seat)).downCount))) (w, todo)
      ((w.touchUp seat touchId).1, (w.touchUp seat touchId).2 ++ todo) := by
  unfold Wrapper.touchUp Wrapper.ends
  cases found : w.currentInner (.touch seat) with
  | none =>
      simp only [found]
      exact .refl _
  | some grab =>
      obtain ⟨box, inner⟩ := grab
      obtain ⟨there, _, going, current⟩ := sound.currentInner found
      simp only [found, Option.filter_some]
      have lifted : Eases none (w, todo) (w.setBox box { inner with active := false }, todo) :=
        eases_setBox there rfl rfl rfl rfl
      have same : SameBox inner { inner with active := false } := ⟨rfl, rfl, rfl⟩
      have kept := sound.setBox there same rfl
      have still : (w.setBox box { inner with active := false }).devices = w.devices := rfl
      have stored : (w.setBox box { inner with active := false }).boxes box =
          some { inner with active := false } := by simp [Wrapper.setBox]
      cases first : touchId == 0 with
      | true =>
          simp only [if_true, still]
          cases last : (w.devices (.touch seat)).downCount == 0 with
          | true =>
              have ended := @eases_endGrab _ todo _ _ kept stored going current
              exact lifted.trans ended
          | false => exact lifted
      | false =>
          simp only [Bool.false_eq_true, if_false]
          cases last : (w.devices (.touch seat)).downCount == 0 with
          | true => exact eases_endGrab sound there going current
          | false => exact .refl _

theorem eases_cancelGrab {w : Wrapper} {todo : List Op} (sound : Sound w todo) (device : Device) :
    Eases (freed (w.ends (.cancel device))) (w, todo)
      ((w.cancelGrab device).1, (w.cancelGrab device).2 ++ todo) := by
  unfold Wrapper.cancelGrab Wrapper.ends
  cases found : w.currentInner device with
  | none =>
      simp only [found]
      exact .refl _
  | some grab =>
      obtain ⟨box, inner⟩ := grab
      obtain ⟨there, _, going, current⟩ := sound.currentInner found
      simp only [found]
      cases kind : inner.kind with
      | resize => exact eases_resizeFinish sound there going current
      | move | busy | touchMove => exact eases_endGrab sound there going current

theorem ends_setDevice {w : Wrapper} {device : Device} {change : DeviceState → DeviceState}
    (kept : ∀ state, (change state).current = state.current) (call : Callback) :
    (w.setDevice device change).ends call = w.ends call := by
  cases call with
  | focusSignal seat focus => rfl
  | grabFocus seat picked =>
      simp only [Wrapper.ends, currentInner_setDevice kept]
      rfl
  | button | touchUp | cancel => simp only [Wrapper.ends, currentInner_setDevice kept]

theorem eases_call {w : Wrapper} {todo : List Op} (sound : Sound w todo) (call : Callback) :
    Eases (freed (w.ends call)) (w, todo) ((w.call call).1, (w.call call).2 ++ todo) := by
  cases call with
  | focusSignal seat focus =>
      have moved : Eases none (w, todo)
          (w.setDevice (.pointer seat) fun state => { state with focus }, todo) :=
        eases_moved fun _ => rfl
      exact moved.trans (eases_onPointerFocus _ _ _ _)
  | grabFocus seat picked => exact eases_grabFocus sound seat picked
  | button seat count button press =>
      have moved : Eases none (w, todo)
          (w.setDevice (.pointer seat) fun state => { state with downCount := count }, todo) :=
        eases_moved fun _ => rfl
      have same : SameGrabs w (w.setDevice (.pointer seat) fun state =>
          { state with downCount := count }) := sameGrabs_setDevice fun _ => ⟨rfl, rfl⟩
      have pressed := eases_grabButton (sound.same same) seat button press
      have ends := @ends_setDevice w (.pointer seat) (fun state => { state with downCount := count })
        fun _ => rfl
      rw [ends, setDevice_devices, if_pos rfl] at pressed
      exact moved.trans pressed
  | touchUp seat touchId numTp =>
      have moved : Eases none (w, todo)
          (w.setDevice (.touch seat) fun state => { state with downCount := numTp }, todo) :=
        eases_moved fun _ => rfl
      have same : SameGrabs w (w.setDevice (.touch seat) fun state =>
          { state with downCount := numTp }) := sameGrabs_setDevice fun _ => ⟨rfl, rfl⟩
      have lifted := eases_touchUp (sound.same same) seat touchId
      have ends := @ends_setDevice w (.touch seat) (fun state => { state with downCount := numTp })
        fun _ => rfl
      rw [ends, setDevice_devices, if_pos rfl] at lifted
      exact moved.trans lifted
  | cancel device => exact eases_cancelGrab sound device

end Westonite.Grab
