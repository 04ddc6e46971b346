import Mathlib.Logic.Relation
import Westonite.Grab.Places

/-! What the calls of the wrapper are made of. Every callback, request and turn of
a policy loop is a chain of a few changes, and what each of them keeps, a call
keeps. -/

set_option autoImplicit false

namespace Westonite.Grab

open Library

/-- A wrapper and the calls in progress on it. -/
abbrev Frame := Wrapper × List Op

inductive Change : Frame → Frame → Prop where
  | plan {w todo other} : held other = held todo → leaving other = leaving todo →
      Change (w, todo) (w, other)
  | moved {w todo device change} :
      (∀ state : DeviceState, (change state).plugged = state.plugged ∧
        (change state).current = state.current) →
      Change (w, todo) (w.setDevice device change, todo)
  | flagged {w todo surface change} :
      (∀ rec : SurfaceRec, (change rec).resizeEdges = rec.resizeEdges) →
      Change (w, todo) (w.setRec surface change, todo)
  | lifted {w todo box inner changed} : w.boxes box = some inner → SameBox inner changed →
      changed.ended = inner.ended → Change (w, todo) (w.setBox box changed, todo)
  | start {w todo} {inner : GrabInner} : inner.kind ≠ .resize → inner.ended = false →
      (w.devices inner.device).plugged →
      (inner.kind ≠ .touchMove → ∃ seat, inner.device = .pointer seat) →
      Change (w, todo) ((w.startGrab inner).1, (w.startGrab inner).2 ++ todo)
  | startResize {w : Wrapper} {todo surface edges} {inner : GrabInner} :
      inner.kind = .resize → inner.surface = surface → inner.ended = false →
      (w.devices inner.device).plugged → (∃ seat, inner.device = .pointer seat) →
      Change (w, todo)
        ((((w.setRec surface fun rec => { rec with resizeEdges := edges }).setResizing surface
          true).startGrab inner).1,
        (((w.setRec surface fun rec => { rec with resizeEdges := edges }).setResizing surface
          true).startGrab inner).2 ++ todo)
  | release {w todo box} {inner : GrabInner} : w.boxes box = some inner → inner.kind ≠ .resize →
      (w.devices inner.device).current = some box →
      Change (w, todo) (w.release box inner, .takeOut box :: todo)
  | finish {w todo box} {inner : GrabInner} : w.boxes box = some inner → inner.kind = .resize →
      (w.devices inner.device).current = some box →
      Change (w, todo)
        ((w.setResizing inner.surface false).release box inner, .takeOut box :: todo)

abbrev Changes : Frame → Frame → Prop := Relation.ReflTransGen Change

theorem sameGrabs_setDevice {w : Wrapper} {device : Device} {change : DeviceState → DeviceState}
    (kept : ∀ state : DeviceState, (change state).plugged = state.plugged ∧
      (change state).current = state.current) : SameGrabs w (w.setDevice device change) := by
  refine ⟨rfl, rfl, rfl, rfl, rfl, rfl, rfl, rfl, rfl, ?_, ?_⟩
  · intro other
    rw [setDevice_devices]
    split
    · rename_i here
      rw [here]
      exact (kept _).1
    · rfl
  · intro other
    rw [setDevice_devices]
    split
    · rename_i here
      rw [here]
      exact (kept _).2
    · rfl

theorem sameGrabs_setRec (w : Wrapper) (surface : DesktopSurfaceId)
    (change : SurfaceRec → SurfaceRec) : SameGrabs w (w.setRec surface change) :=
  ⟨rfl, rfl, rfl, rfl, rfl, rfl, rfl, rfl, rfl, fun _ => rfl, fun _ => rfl⟩

theorem sameGrabs_setResizing (w : Wrapper) (surface : DesktopSurfaceId) (resizing : Bool) :
    SameGrabs w (w.setResizing surface resizing) :=
  ⟨rfl, rfl, rfl, rfl, rfl, rfl, rfl, rfl, rfl, fun _ => rfl, fun _ => rfl⟩

theorem Change.sound {before after : Frame} (change : Change before after)
    (sound : Sound before.1 before.2) : Sound after.1 after.2 := by
  cases change with
  | plan sameHeld sameLeaving => exact sound.sameTodo sameHeld sameLeaving
  | moved kept => exact sound.same (sameGrabs_setDevice kept)
  | flagged _ => exact sound.same (sameGrabs_setRec _ _ _)
  | lifted found same flag => exact sound.setBox found same flag
  | start _ going plugged pointer => exact sound.startGrab going plugged pointer
  | startResize _ _ going plugged pointer =>
      exact ((sound.same (sameGrabs_setRec _ _ _)).same
        (sameGrabs_setResizing _ _ _)).startGrab going plugged fun _ => pointer
  | release found _ current => exact sound.release found current
  | finish found _ current =>
      exact (sound.same (sameGrabs_setResizing _ _ _)).release found current

theorem Changes.sound {before after : Frame} (changes : Changes before after)
    (sound : Sound before.1 before.2) : Sound after.1 after.2 := by
  induction changes with
  | refl => exact sound
  | tail _ change ih => exact change.sound ih

/-! ### What no call touches -/

/-- Boxes keep what they are about, and the world outside stays as it is. -/
structure Later (before after : Frame) : Prop where
  boxes : ∀ box inner, before.1.boxes box = some inner →
    ∃ changed, after.1.boxes box = some changed ∧ SameBox inner changed
  held : ∀ box, box ∈ held after.2 → box ∈ held before.2 ∨ before.1.boxes box = none
  plugged : ∀ device, (after.1.devices device).plugged = (before.1.devices device).plugged
  seats : after.1.seats = before.1.seats
  known : ∀ surface, after.1.known surface = before.1.known surface
  waiting : after.1.waiting = before.1.waiting

theorem SameBox.refl (inner : GrabInner) : SameBox inner inner := ⟨rfl, rfl, rfl⟩

theorem SameBox.trans {first second third : GrabInner} (left : SameBox first second)
    (right : SameBox second third) : SameBox first third :=
  ⟨right.device.trans left.device, right.kind.trans left.kind, right.surface.trans left.surface⟩

theorem Later.refl (frame : Frame) : Later frame frame :=
  ⟨fun _ inner found => ⟨inner, found, .refl inner⟩, fun _ member => .inl member, fun _ => rfl, rfl,
    fun _ => rfl, rfl⟩

theorem Later.trans {first second third : Frame} (left : Later first second)
    (right : Later second third) : Later first third where
  boxes box inner found := by
    obtain ⟨middle, there, same⟩ := left.boxes box inner found
    obtain ⟨changed, last, sameLast⟩ := right.boxes box middle there
    exact ⟨changed, last, same.trans sameLast⟩
  held box member := by
    rcases right.held box member with member | fresh
    · exact left.held box member
    · cases found : first.1.boxes box with
      | none => exact .inr rfl
      | some inner =>
          obtain ⟨changed, there, _⟩ := left.boxes box inner found
          rw [fresh] at there
          cases there
  plugged device := (right.plugged device).trans (left.plugged device)
  seats := right.seats.trans left.seats
  known surface := (right.known surface).trans (left.known surface)
  waiting := right.waiting.trans left.waiting

theorem plan_later (w : Wrapper) {todo other : List Op} (sameHeld : held other = held todo) :
    Later (w, todo) (w, other) := by
  refine ⟨fun _ inner found => ⟨inner, found, .refl inner⟩, ?_, fun _ => rfl, rfl, fun _ => rfl,
    rfl⟩
  intro box member
  rw [sameHeld] at member
  exact .inl member

theorem known_setResizing (w : Wrapper) (surface other : DesktopSurfaceId) (resizing : Bool) :
    (w.setResizing surface resizing).known other = w.known other := by
  unfold Wrapper.known Wrapper.setResizing
  rw [AssocMap.lookup_modify, Option.isSome_map]

private theorem setBox_boxes_later {w : Wrapper} {box : GrabId} {inner changed : GrabInner}
    (found : w.boxes box = some inner) (same : SameBox inner changed) (other : GrabId)
    (value : GrabInner) (there : w.boxes other = some value) :
    ∃ after, (w.setBox box changed).boxes other = some after ∧ SameBox value after := by
  unfold Wrapper.setBox
  by_cases here : other = box
  · subst here
    obtain rfl := Option.some.inj (there.symm.trans found)
    exact ⟨changed, by simp, same⟩
  · exact ⟨value, by simp [here, there], .refl value⟩

theorem startGrab_later {w : Wrapper} {todo : List Op} (sound : Sound w todo)
    (inner : GrabInner) :
    Later (w, todo) ((w.startGrab inner).1, (w.startGrab inner).2 ++ todo) where
  boxes box value found := by
    have bounded : box < w.nextBox := (sound.allocated box).mp (Option.isSome_of_eq_some found)
    have different : box ≠ w.nextBox := Nat.ne_of_lt bounded
    refine ⟨value, ?_, .refl value⟩
    change Function.update w.boxes w.nextBox (some inner) box = some value
    rw [Function.update_of_ne different, found]
  held box member := by
    have member : box ∈ w.nextBox :: held todo := member
    rcases List.mem_cons.mp member with rfl | member
    · have absent := (sound.allocated w.nextBox).not.mpr (Nat.lt_irrefl _)
      exact .inr (by simpa using absent)
    · exact .inl member
  plugged _ := rfl
  seats := rfl
  known _ := rfl
  waiting := rfl

theorem release_later {w : Wrapper} {todo : List Op} {box : GrabId} {inner : GrabInner}
    (found : w.boxes box = some inner) :
    Later (w, todo) (w.release box inner, .takeOut box :: todo) where
  boxes := setBox_boxes_later found ⟨rfl, rfl, rfl⟩
  held _ member := .inl member
  plugged device := by
    rw [release_devices]
    split
    · rename_i here
      rw [here]
    · rfl
  seats := rfl
  known _ := rfl
  waiting := rfl

theorem setRec_later (w : Wrapper) (todo : List Op) (surface : DesktopSurfaceId)
    (change : SurfaceRec → SurfaceRec) : Later (w, todo) (w.setRec surface change, todo) :=
  ⟨fun _ inner found => ⟨inner, found, .refl inner⟩, fun _ member => .inl member, fun _ => rfl, rfl,
    fun _ => rfl, rfl⟩

private theorem setResizing_later (w : Wrapper) (todo : List Op) (surface : DesktopSurfaceId)
    (resizing : Bool) : Later (w, todo) (w.setResizing surface resizing, todo) :=
  ⟨fun _ inner found => ⟨inner, found, .refl inner⟩, fun _ member => .inl member, fun _ => rfl, rfl,
    fun other => known_setResizing w surface other resizing, rfl⟩

theorem leaveActive_fields (w : Wrapper) (box : GrabId) :
    (w.leaveActive box).boxes = w.boxes ∧ (w.leaveActive box).devices = w.devices ∧
      (w.leaveActive box).seats = w.seats ∧ (w.leaveActive box).waiting = w.waiting ∧
      (w.leaveActive box).desktopSurfaces = w.desktopSurfaces ∧
      (w.leaveActive box).recs = w.recs ∧ (w.leaveActive box).queue = w.queue := by
  unfold Wrapper.leaveActive
  split <;> exact ⟨rfl, rfl, rfl, rfl, rfl, rfl, rfl⟩

theorem retire_later {w : Wrapper} {todo : List Op} (box : GrabId) :
    Later (w, todo) (w.retireSupersededPointerGrab box, todo) := by
  unfold Wrapper.retireSupersededPointerGrab
  cases found : w.boxes box with
  | none => exact .refl _
  | some inner =>
      dsimp only
      split
      · exact .refl _
      · obtain ⟨boxes, devices, seats, waiting, surfaces, _⟩ :=
          leaveActive_fields (w.setBox box { inner with ended := true }) box
        refine ⟨?_, fun _ member => .inl member, ?_, seats, ?_, waiting⟩
        · intro other value there
          dsimp only
          rw [boxes]
          have same : SameBox inner { inner with ended := true } := ⟨rfl, rfl, rfl⟩
          exact setBox_boxes_later found same other value there
        · intro device
          dsimp only
          rw [devices]
          rfl
        · intro surface
          unfold Wrapper.known
          dsimp only
          rw [surfaces]
          rfl

theorem Change.later {before after : Frame} (change : Change before after)
    (sound : Sound before.1 before.2) : Later before after := by
  cases change with
  | plan sameHeld _ => exact plan_later _ sameHeld
  | moved kept =>
      exact ⟨fun _ inner found => ⟨inner, found, .refl inner⟩, fun _ member => .inl member,
        (sameGrabs_setDevice kept).plugged, rfl, fun _ => rfl, rfl⟩
  | flagged _ => exact setRec_later _ _ _ _
  | lifted found same _ =>
      exact ⟨setBox_boxes_later found same, fun _ member => .inl member, fun _ => rfl, rfl,
        fun _ => rfl, rfl⟩
  | start _ _ _ _ => exact startGrab_later sound _
  | @startResize w todo surface edges inner _ _ _ _ _ =>
      have marked := sound.same
        (sameGrabs_setRec w surface fun rec => { rec with resizeEdges := edges })
      have resizing := marked.same (sameGrabs_setResizing _ surface true)
      exact ((setRec_later _ _ _ _).trans (setResizing_later _ _ _ _)).trans
        (startGrab_later resizing inner)
  | release found _ _ => exact release_later found
  | finish found _ _ => exact (setResizing_later _ _ _ _).trans (release_later found)

theorem Changes.later {before after : Frame} (changes : Changes before after)
    (sound : Sound before.1 before.2) : Later before after := by
  induction changes with
  | refl => exact .refl _
  | tail earlier change ih => exact ih.trans (change.later (Changes.sound earlier sound))

theorem Change.retiredGrabs {before after : Frame} (change : Change before after) :
    after.1.retiredGrabs = before.1.retiredGrabs := by
  cases change <;> rfl

theorem Changes.retiredGrabs {before after : Frame} (changes : Changes before after) :
    after.1.retiredGrabs = before.1.retiredGrabs := by
  induction changes with
  | refl => rfl
  | tail _ change ih => exact change.retiredGrabs.trans ih

/-! ### The calls as chains of changes -/

theorem Sound.currentInner {w : Wrapper} {todo : List Op} (sound : Sound w todo)
    {device : Device} {box : GrabId} {inner : GrabInner}
    (found : w.currentInner device = some (box, inner)) :
    w.boxes box = some inner ∧ inner.device = device ∧ inner.ended = false ∧
      (w.devices inner.device).current = some box := by
  unfold Wrapper.currentInner at found
  obtain ⟨other, current, mapped⟩ := Option.bind_eq_some_iff.mp found
  obtain ⟨value, there, same⟩ := Option.map_eq_some_iff.mp mapped
  simp only [Prod.mk.injEq] at same
  obtain ⟨rfl, rfl⟩ := same
  obtain ⟨stored, alsoThere, on, going, _⟩ := sound.current device other current
  obtain rfl := Option.some.inj (alsoThere.symm.trans there)
  exact ⟨there, on, going, by rw [on, current]⟩

private theorem endGrab_changes {w : Wrapper} {todo : List Op} {box : GrabId} {inner : GrabInner}
    (found : w.boxes box = some inner) (going : inner.ended = false) (kind : inner.kind ≠ .resize)
    (current : (w.devices inner.device).current = some box) :
    Changes (w, todo) ((w.endGrab box).1, (w.endGrab box).2 ++ todo) := by
  have released : Change (w, todo) (w.release box inner, .takeOut box :: todo) :=
    .release found kind current
  unfold Wrapper.endGrab
  simp only [found, going, Bool.false_eq_true, if_false]
  cases inner.device with
  | pointer seat => exact .tail (.single released) (.plan rfl rfl)
  | touch seat => exact .single released

private theorem resizeFinish_changes {w : Wrapper} {todo : List Op} {box : GrabId}
    {inner : GrabInner}
    (found : w.boxes box = some inner) (going : inner.ended = false) (kind : inner.kind = .resize)
    (current : (w.devices inner.device).current = some box) :
    Changes (w, todo) ((w.resizeFinish box inner).1, (w.resizeFinish box inner).2 ++ todo) := by
  have finished : Change (w, todo)
      ((w.setResizing inner.surface false).release box inner, .takeOut box :: todo) :=
    .finish found kind current
  have stored : (w.setResizing inner.surface false).boxes box = some inner := found
  unfold Wrapper.resizeFinish Wrapper.endGrab
  simp only [stored, going, Bool.false_eq_true, if_false]
  cases inner.device with
  | pointer seat => exact .tail (.single finished) (.plan rfl rfl)
  | touch seat => exact .single finished

private theorem setBusyCursor_changes (w : Wrapper) (todo : List Op) (surface : DesktopSurfaceId)
    (seat : SeatId) :
    Changes (w, todo)
      ((w.setBusyCursor surface seat).1, (w.setBusyCursor surface seat).2 ++ todo) := by
  unfold Wrapper.setBusyCursor
  split
  · exact .refl
  · rename_i allowed
    split
    · exact .refl
    · have plugged : (w.devices (.pointer seat)).plugged := by
        by_contra absent
        exact allowed (.inr (by simpa using absent))
      have planned : Change (w, todo) (w, .ungrab surface :: todo) := .plan rfl rfl
      have started : Change (w, .ungrab surface :: todo) _ :=
        @Change.start w _ (Wrapper.pointerGrab .busy surface seat (0, 0) 0 0 0)
          (by simp [Wrapper.pointerGrab]) rfl plugged fun _ => ⟨seat, rfl⟩
      exact .tail (.single planned) started

private theorem onPointerFocus_changes (w : Wrapper) (todo : List Op) (seat : SeatId)
    (focus : Option Focus) :
    Changes (w, todo)
      ((w.onPointerFocus seat focus).1, (w.onPointerFocus seat focus).2 ++ todo) := by
  unfold Wrapper.onPointerFocus
  split
  · exact .refl
  · split
    · exact .refl
    · split
      · exact .refl
      · split
        · exact setBusyCursor_changes w todo _ seat
        · exact .refl

theorem grabFocus_changes {w : Wrapper} {todo : List Op} (sound : Sound w todo) (seat : SeatId)
    (picked : Option DesktopSurfaceId) :
    Changes (w, todo) ((w.grabFocus seat picked).1, (w.grabFocus seat picked).2 ++ todo) := by
  unfold Wrapper.grabFocus
  cases found : w.currentInner (.pointer seat) with
  | none => exact .refl
  | some grab =>
      obtain ⟨box, inner⟩ := grab
      obtain ⟨there, on, going, current⟩ := sound.currentInner found
      cases kind : inner.kind with
      | busy =>
          simp only [kind]
          split
          · exact endGrab_changes there going (by simp [kind]) current
          · exact .refl
      | move | resize | touchMove =>
          simp only [kind]
          exact .refl

private theorem grabButton_changes {w : Wrapper} {todo : List Op} (sound : Sound w todo)
    (seat : SeatId)
    (button : Nat) (pressed : Bool) :
    Changes (w, todo)
      ((w.grabButton seat button pressed).1, (w.grabButton seat button pressed).2 ++ todo) := by
  unfold Wrapper.grabButton
  cases found : w.currentInner (.pointer seat) with
  | none => exact .refl
  | some grab =>
      obtain ⟨box, inner⟩ := grab
      obtain ⟨there, on, going, current⟩ := sound.currentInner found
      cases kind : inner.kind with
      | move =>
          simp only [kind]
          split
          · exact endGrab_changes there going (by simp [kind]) current
          · exact .refl
      | resize =>
          simp only [kind]
          split
          · exact resizeFinish_changes there going kind current
          · exact .refl
      | busy =>
          simp only [kind]
          split
          · exact .single (.plan rfl rfl)
          · exact .refl
      | touchMove =>
          simp only [kind]
          exact .refl

private theorem touchUp_changes {w : Wrapper} {todo : List Op} (sound : Sound w todo)
    (seat : SeatId)
    (touchId : Nat) :
    Changes (w, todo) ((w.touchUp seat touchId).1, (w.touchUp seat touchId).2 ++ todo) := by
  unfold Wrapper.touchUp
  cases found : w.currentInner (.touch seat) with
  | none => exact .refl
  | some grab =>
      obtain ⟨box, inner⟩ := grab
      obtain ⟨there, on, going, current⟩ := sound.currentInner found
      have kind : inner.kind = .touchMove := by
        by_contra other
        obtain ⟨seat, pointer⟩ := sound.onPointer box inner there other
        rw [pointer] at on
        cases on
      dsimp only
      split
      · -- the finger that moved the window is lifted
        have lifted : Change (w, todo) (w.setBox box { inner with active := false }, todo) :=
          .lifted there ⟨rfl, rfl, rfl⟩ rfl
        split
        · have stored : (w.setBox box { inner with active := false }).boxes box =
              some { inner with active := false } := by simp [Wrapper.setBox]
          have ends := @endGrab_changes _ todo _ _ stored going (by simp [kind]) current
          exact (Relation.ReflTransGen.single lifted).trans ends
        · exact .single lifted
      · split
        · exact endGrab_changes there going (by simp [kind]) current
        · exact .refl

theorem cancelGrab_changes {w : Wrapper} {todo : List Op} (sound : Sound w todo)
    (device : Device) :
    Changes (w, todo) ((w.cancelGrab device).1, (w.cancelGrab device).2 ++ todo) := by
  unfold Wrapper.cancelGrab
  cases found : w.currentInner device with
  | none => exact .refl
  | some grab =>
      obtain ⟨box, inner⟩ := grab
      obtain ⟨there, on, going, current⟩ := sound.currentInner found
      cases kind : inner.kind with
      | resize =>
          simp only [kind]
          exact resizeFinish_changes there going kind current
      | move | busy | touchMove =>
          simp only [kind]
          exact endGrab_changes there going (by simp [kind]) current

theorem call_changes {w : Wrapper} {todo : List Op} (sound : Sound w todo) (call : Callback) :
    Changes (w, todo) ((w.call call).1, (w.call call).2 ++ todo) := by
  cases call with
  | focusSignal seat focus =>
      have moved : Change (w, todo)
          (w.setDevice (.pointer seat) fun state => { state with focus }, todo) :=
        .moved fun _ => ⟨rfl, rfl⟩
      exact (Relation.ReflTransGen.single moved).trans (onPointerFocus_changes _ _ _ _)
  | grabFocus seat picked => exact grabFocus_changes sound seat picked
  | button seat count button pressed =>
      have moved : Change (w, todo)
          (w.setDevice (.pointer seat) fun state => { state with downCount := count }, todo) :=
        .moved fun _ => ⟨rfl, rfl⟩
      exact (Relation.ReflTransGen.single moved).trans
        (grabButton_changes (moved.sound sound) seat button pressed)
  | touchUp seat touchId numTp =>
      have moved : Change (w, todo)
          (w.setDevice (.touch seat) fun state => { state with downCount := numTp }, todo) :=
        .moved fun _ => ⟨rfl, rfl⟩
      exact (Relation.ReflTransGen.single moved).trans
        (touchUp_changes (moved.sound sound) seat touchId)
  | cancel device => exact cancelGrab_changes sound device

theorem handleMoveRequest_changes (w : Wrapper) (todo : List Op) (surface : DesktopSurfaceId)
    (seat : SeatId) (serial : Nat) (viewPos : Coord × Coord) :
    Changes (w, todo) ((w.handleMoveRequest surface seat serial viewPos).1,
      (w.handleMoveRequest surface seat serial viewPos).2 ++ todo) := by
  unfold Wrapper.handleMoveRequest
  cases w.recs.lookup surface with
  | none => exact .refl
  | some rec =>
      dsimp only
      split
      · rename_i granted
        split
        · exact .refl
        · split
          · exact .refl
          · apply Relation.ReflTransGen.single
            apply Change.start
            · simp [Wrapper.pointerGrab]
            · rfl
            · simp only [Wrapper.DeviceState.grants, Bool.and_eq_true] at granted
              exact granted.1.1.1
            · exact fun _ => ⟨seat, rfl⟩
      · split
        · rename_i granted
          split
          · exact .refl
          · apply Relation.ReflTransGen.single
            apply Change.start
            · simp [Wrapper.touchGrab]
            · rfl
            · simp only [Wrapper.DeviceState.grants, Bool.and_eq_true] at granted
              exact granted.1.1
            · exact fun other => absurd rfl other
        · exact .refl

theorem handleResizeRequest_changes (w : Wrapper) (todo : List Op) (surface : DesktopSurfaceId)
    (seat : SeatId) (serial edges : Nat) (geometry : Int × Int) :
    Changes (w, todo) ((w.handleResizeRequest surface seat serial edges geometry).1,
      (w.handleResizeRequest surface seat serial edges geometry).2 ++ todo) := by
  unfold Wrapper.handleResizeRequest
  cases w.recs.lookup surface with
  | none => exact .refl
  | some rec =>
      dsimp only
      split
      · exact .refl
      · split
        · exact .refl
        · rename_i granted
          split
          · exact .refl
          · split
            · exact .refl
            · split
              · exact .refl
              · apply Relation.ReflTransGen.single
                apply Change.startResize
                · rfl
                · rfl
                · rfl
                · simp only [Wrapper.DeviceState.grants, Bool.or_eq_true, Bool.not_eq_true',
                    not_or, Bool.not_eq_false, Bool.and_eq_true] at granted
                  exact granted.1.1.1
                · exact ⟨seat, rfl⟩

theorem pingOne_changes (w : Wrapper) (todo : List Op) (surfaces : List DesktopSurfaceId)
    (seat : SeatId) :
    Changes (w, todo) ((w.pingOne surfaces seat).1, (w.pingOne surfaces seat).2 ++ todo) := by
  unfold Wrapper.pingOne
  split
  · split
    · exact .refl
    · split
      · exact setBusyCursor_changes w todo _ seat
      · exact .refl
  · exact .refl

/-- What a turn of the loop over busy grabs relies on: its grab was handed over,
and every live pointer is among those it compares with. -/
structure Snapshot (w : Wrapper) (todo : List Op) (box : GrabId) (surface : DesktopSurfaceId)
    (live : List SeatId) : Prop where
  stored : ∃ inner, w.boxes box = some inner ∧ inner.kind = .busy ∧ inner.surface = surface
  free : box ∉ held todo
  live : ∀ seat, (w.devices (.pointer seat)).plugged → seat ∈ live

private theorem endGrab_ended {w : Wrapper} {box : GrabId} {inner : GrabInner}
    (found : w.boxes box = some inner) : (w.endGrab box).1.endedCount box = 1 := by
  unfold Wrapper.endGrab
  simp only [found]
  cases ended : inner.ended with
  | true => simp [Wrapper.endedCount, found, ended]
  | false =>
      have count : (w.release box inner).endedCount box = 1 :=
        (endedCount_setBox w box box { inner with ended := true }).trans (if_pos rfl)
      simp only [Bool.false_eq_true, if_false]
      cases inner.device with
      | pointer seat => exact count
      | touch seat => exact count

theorem retire_ended {w : Wrapper} {box : GrabId} {inner : GrabInner}
    (found : w.boxes box = some inner) :
    (w.retireSupersededPointerGrab box).endedCount box = 1 := by
  unfold Wrapper.retireSupersededPointerGrab
  simp only [found]
  cases ended : inner.ended with
  | true => simp [Wrapper.endedCount, found, ended]
  | false =>
      simp only [Bool.false_eq_true, if_false]
      obtain ⟨boxes, _⟩ := leaveActive_fields (w.setBox box { inner with ended := true }) box
      unfold Wrapper.endedCount
      dsimp only
      rw [boxes]
      simp [Wrapper.setBox]

/-- A busy grab of a snapshot that is not current on a live device is current on none. -/
theorem Snapshot.superseded {w : Wrapper} {todo : List Op} {live : List SeatId} {box : GrabId}
    {surface : DesktopSurfaceId} (snapshot : Snapshot w todo box surface live)
    (sound : Sound w todo) {inner : GrabInner} (found : w.boxes box = some inner)
    (kind : inner.kind = .busy)
    (elsewhere : ¬ (inner.device.seat ∈ live ∧ (w.devices inner.device).current = some box))
    (device : Device) : (w.devices device).current ≠ some box := by
  intro current
  obtain ⟨value, there, on, _, _⟩ := sound.current device box current
  obtain rfl := Option.some.inj (there.symm.trans found)
  subst on
  have plugged : (w.devices value.device).plugged := by
    by_contra absent
    rw [sound.unplugged value.device (by simpa using absent)] at current
    cases current
  obtain ⟨seat, pointer⟩ := sound.onPointer box value found (by simp [kind])
  apply elsewhere
  rw [pointer] at plugged current ⊢
  exact ⟨snapshot.live seat plugged, current⟩

/-- A turn of the loop over busy grabs: a grab of another client is skipped, the
others are ended, or retired when they are not current. -/
theorem pongOne_cases {clientOf : DesktopSurfaceId → ClientId} {w : Wrapper} {todo : List Op}
    (sound : Sound w todo) {client : ClientId} {live : List SeatId} {box : GrabId}
    {surface : DesktopSurfaceId} (snapshot : Snapshot w todo box surface live) :
    (Changes (w, todo) ((w.pongOne clientOf client live box surface).1,
        (w.pongOne clientOf client live box surface).2 ++ todo) ∨
      w.pongOne clientOf client live box surface = (w.retireSupersededPointerGrab box, []) ∧
        ∀ device, (w.devices device).current ≠ some box) ∧
    (w.known surface → clientOf surface = client →
      (w.pongOne clientOf client live box surface).1.endedCount box = 1) := by
  obtain ⟨inner, found, kind, _⟩ := snapshot.stored
  unfold Wrapper.pongOne
  cases known : w.known surface with
  | false => exact ⟨.inl .refl, fun impossible => by cases impossible⟩
  | true =>
      by_cases same : clientOf surface = client
      · simp only [Bool.not_true, Bool.false_eq_true, if_false, same, ne_eq, not_true_eq_false,
          found]
        split
        · rename_i current
          obtain ⟨value, there, _, going, _⟩ := sound.current _ _ current.2
          obtain rfl := Option.some.inj (there.symm.trans found)
          exact ⟨.inl (endGrab_changes found going (by simp [kind]) current.2),
            fun _ _ => endGrab_ended found⟩
        · rename_i superseded
          exact ⟨.inr ⟨rfl, snapshot.superseded sound found kind superseded⟩,
            fun _ _ => retire_ended found⟩
      · simp only [Bool.not_true, Bool.false_eq_true, if_false, ne_eq, same, not_false_eq_true,
          if_true]
        exact ⟨.inl .refl, fun _ equal => equal.elim⟩

end Westonite.Grab
