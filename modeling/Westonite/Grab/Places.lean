import Mathlib.Data.List.Count
import Westonite.Grab.Machine

/-! Where a grab box is, when its ended flag is set, and what each operation does
to both. -/

set_option autoImplicit false

namespace Westonite.Grab

open Library

/-- The boxes that were allocated and are not in `active_grabs` yet. -/
def held (todo : List Op) : List GrabId :=
  todo.filterMap fun op => match op with
    | .handOver box => some box
    | _ => none

/-- The boxes that were ended and are still in `active_grabs`. -/
def leaving (todo : List Op) : List GrabId :=
  todo.filterMap fun op => match op with
    | .takeOut box => some box
    | _ => none

/-- The surfaces of the `GrabEnded` events of a list. -/
def grabEnded (events : List Event) : List DesktopSurfaceId :=
  events.filterMap fun ev => match ev with
    | .grabEnded surface => some surface
    | _ => none

def Wrapper.surfaceOf (w : Wrapper) (box : GrabId) : Option DesktopSurfaceId :=
  (w.boxes box).map GrabInner.surface

/-- Whether a box was ended, as a number. -/
def Wrapper.endedCount (w : Wrapper) (box : GrabId) : Nat :=
  ((w.boxes box).map fun inner => inner.ended.toNat).getD 0

/-- Every box is in one place, its flag says which, and a current grab is one of
ours that goes on. -/
structure Sound (w : Wrapper) (todo : List Op) : Prop where
  allocated : ∀ box, (w.boxes box).isSome ↔ box < w.nextBox
  places : ∀ box, (held todo).count box + w.activeGrabs.count box + w.pendingDrop.count box +
    w.freed.count box = if box < w.nextBox then 1 else 0
  leaves : ∀ box, (leaving todo).count box ≤ w.activeGrabs.count box
  ended : ∀ box, w.endedCount box =
    (leaving todo).count box + w.pendingDrop.count box + w.freed.count box
  outcome : ∀ box, w.endedCount box = w.endedGrabs.count box + w.retiredGrabs.count box
  posted : ∀ surface,
    (grabEnded (w.handled ++ w.queue)).count surface +
        ((leaving todo).filterMap w.surfaceOf).count surface =
      (w.endedGrabs.filterMap w.surfaceOf).count surface
  current : ∀ device box, (w.devices device).current = some box →
    ∃ inner, w.boxes box = some inner ∧ inner.device = device ∧ inner.ended = false ∧
      box ∉ held todo
  unplugged : ∀ device, (w.devices device).plugged = false → (w.devices device).current = none
  awaited : ∀ box inner, box ∈ held todo → w.boxes box = some inner →
    (w.devices inner.device).plugged
  seated : ∀ device, (w.devices device).plugged → device.seat ∈ w.seats
  onPointer : ∀ box inner, w.boxes box = some inner → inner.kind ≠ .touchMove →
    ∃ seat, inner.device = .pointer seat

/-- The same boxes in the same places, and the same current grabs. -/
structure SameGrabs (before after : Wrapper) : Prop where
  boxes : after.boxes = before.boxes
  nextBox : after.nextBox = before.nextBox
  activeGrabs : after.activeGrabs = before.activeGrabs
  pendingDrop : after.pendingDrop = before.pendingDrop
  freed : after.freed = before.freed
  endedGrabs : after.endedGrabs = before.endedGrabs
  retiredGrabs : after.retiredGrabs = before.retiredGrabs
  posted : grabEnded (after.handled ++ after.queue) = grabEnded (before.handled ++ before.queue)
  seats : after.seats = before.seats
  plugged : ∀ device, (after.devices device).plugged = (before.devices device).plugged
  current : ∀ device, (after.devices device).current = (before.devices device).current

namespace Sound

variable {w : Wrapper} {todo : List Op}

theorem new : Sound .new [] where
  allocated box := by simp [Wrapper.new]
  places box := rfl
  leaves box := Nat.le_refl 0
  ended box := rfl
  outcome box := rfl
  posted surface := rfl
  current device box present := by cases present
  unplugged device _ := rfl
  awaited box inner member := by cases member
  seated device present := by cases present
  onPointer box inner found := by cases found

theorem same {after : Wrapper} (sound : Sound w todo) (same : SameGrabs w after) :
    Sound after todo where
  allocated box := by rw [same.boxes, same.nextBox]; exact sound.allocated box
  places box := by
    rw [same.activeGrabs, same.pendingDrop, same.freed, same.nextBox]
    exact sound.places box
  leaves box := by rw [same.activeGrabs]; exact sound.leaves box
  ended box := by
    unfold Wrapper.endedCount
    rw [same.boxes, same.pendingDrop, same.freed]
    exact sound.ended box
  outcome box := by
    unfold Wrapper.endedCount
    rw [same.boxes, same.endedGrabs, same.retiredGrabs]
    exact sound.outcome box
  posted surface := by
    have surfaces : after.surfaceOf = w.surfaceOf := by
      unfold Wrapper.surfaceOf
      rw [same.boxes]
    rw [same.posted, same.endedGrabs, surfaces]
    exact sound.posted surface
  current device box present := by
    rw [same.current] at present
    rw [same.boxes]
    exact sound.current device box present
  unplugged device absent := by
    rw [same.plugged] at absent
    rw [same.current]
    exact sound.unplugged device absent
  awaited box inner member found := by
    rw [same.boxes] at found
    rw [same.plugged]
    exact sound.awaited box inner member found
  seated device present := by
    rw [same.plugged] at present
    rw [same.seats]
    exact sound.seated device present
  onPointer box inner found := by
    rw [same.boxes] at found
    exact sound.onPointer box inner found

/-- Operations that hold no box come and go. -/
theorem sameTodo {other : List Op} (sound : Sound w todo) (sameHeld : held other = held todo)
    (sameLeaving : leaving other = leaving todo) : Sound w other where
  allocated := sound.allocated
  places box := by rw [sameHeld]; exact sound.places box
  leaves box := by rw [sameLeaving]; exact sound.leaves box
  ended box := by rw [sameLeaving]; exact sound.ended box
  outcome := sound.outcome
  posted surface := by rw [sameLeaving]; exact sound.posted surface
  current device box present := by rw [sameHeld]; exact sound.current device box present
  unplugged := sound.unplugged
  awaited box inner member := by
    rw [sameHeld] at member
    exact sound.awaited box inner member
  seated := sound.seated
  onPointer := sound.onPointer

/-! ### Where a box can be -/

private theorem active_of_going {box : GrabId} {inner : GrabInner} (sound : Sound w todo)
    (found : w.boxes box = some inner) (going : inner.ended = false) (free : box ∉ held todo) :
    w.activeGrabs.count box = 1 ∧ (leaving todo).count box = 0 := by
  have bounded : box < w.nextBox := (sound.allocated box).mp (by simp [found])
  have place := sound.places box
  rw [if_pos bounded, List.count_eq_zero.mpr free] at place
  have flag := sound.ended box
  unfold Wrapper.endedCount at flag
  simp only [found, going, Option.map_some, Option.getD_some, Bool.toNat_false] at flag
  omega

theorem mem_activeGrabs {box : GrabId} {inner : GrabInner} (sound : Sound w todo)
    (found : w.boxes box = some inner) (going : inner.ended = false) (free : box ∉ held todo) :
    box ∈ w.activeGrabs := by
  have place := sound.active_of_going found going free
  exact List.count_pos_iff.mp (by omega)

private theorem held_going {box : GrabId} {inner : GrabInner} (sound : Sound w todo)
    (member : box ∈ held todo) (found : w.boxes box = some inner) :
    inner.ended = false ∧ w.activeGrabs.count box = 0 := by
  have bounded : box < w.nextBox := (sound.allocated box).mp (by simp [found])
  have place := sound.places box
  have leaves := sound.leaves box
  have flag := sound.ended box
  have positive := List.count_pos_iff.mpr member
  rw [if_pos bounded] at place
  unfold Wrapper.endedCount at flag
  simp only [found, Option.map_some, Option.getD_some] at flag
  refine ⟨?_, by omega⟩
  cases value : inner.ended with
  | false => rfl
  | true =>
      rw [value, Bool.toNat_true] at flag
      omega

/-- A box that is somewhere was allocated, and is nowhere else. -/
theorem stored {box : GrabId} (sound : Sound w todo)
    (somewhere : 0 < (held todo).count box + w.activeGrabs.count box) :
    (∃ inner, w.boxes box = some inner) ∧
      (held todo).count box + w.activeGrabs.count box + w.pendingDrop.count box +
        w.freed.count box = 1 := by
  have place := sound.places box
  have bounded : box < w.nextBox := by
    by_contra outside
    rw [if_neg outside] at place
    omega
  rw [if_pos bounded] at place
  exact ⟨Option.isSome_iff_exists.mp ((sound.allocated box).mpr bounded), place⟩

private theorem leaving_active {box : GrabId} (sound : Sound w todo) (member : box ∈ leaving todo) :
    ∃ inner, w.boxes box = some inner ∧ inner.ended = true ∧ w.activeGrabs.count box = 1 := by
  have positive := List.count_pos_iff.mpr member
  have leaves := sound.leaves box
  obtain ⟨⟨inner, found⟩, place⟩ :=
    sound.stored (Nat.add_pos_right _ (Nat.lt_of_lt_of_le positive leaves))
  have flag := sound.ended box
  unfold Wrapper.endedCount at flag
  simp only [found, Option.map_some, Option.getD_some] at flag
  refine ⟨inner, found, ?_, by omega⟩
  cases value : inner.ended with
  | true => rfl
  | false =>
      rw [value, Bool.toNat_false] at flag
      omega

end Sound

/-! ### Allocating and handing over -/

private theorem surfaceOf_setBox {w : Wrapper} {box : GrabId} {inner changed : GrabInner}
    (found : w.boxes box = some inner) (same : changed.surface = inner.surface) :
    (w.setBox box changed).surfaceOf = w.surfaceOf := by
  funext other
  unfold Wrapper.surfaceOf Wrapper.setBox
  by_cases here : other = box
  · subst here
    simp [found, same]
  · simp [here]

theorem endedCount_setBox (w : Wrapper) (box other : GrabId) (changed : GrabInner) :
    (w.setBox box changed).endedCount other =
      if other = box then changed.ended.toNat else w.endedCount other := by
  unfold Wrapper.endedCount Wrapper.setBox
  by_cases here : other = box
  · subst here
    simp
  · simp [here]

private theorem filterMap_surfaceOf_congr {before after : Wrapper} {boxes : List GrabId}
    (same : ∀ box ∈ boxes, after.surfaceOf box = before.surfaceOf box) :
    boxes.filterMap after.surfaceOf = boxes.filterMap before.surfaceOf :=
  List.filterMap_congr same

theorem Sound.startGrab {w : Wrapper} {todo : List Op} (sound : Sound w todo)
    {inner : GrabInner} (going : inner.ended = false)
    (plugged : (w.devices inner.device).plugged)
    (pointer : inner.kind ≠ .touchMove → ∃ seat, inner.device = .pointer seat) :
    Sound (w.startGrab inner).1 ((w.startGrab inner).2 ++ todo) := by
  have fresh : w.boxes w.nextBox = none := by
    have absent := (sound.allocated w.nextBox).not.mpr (Nat.lt_irrefl _)
    simpa using absent
  have older : ∀ box inner, w.boxes box = some inner → box ≠ w.nextBox := by
    rintro box inner found rfl
    rw [fresh] at found
    cases found
  have places := sound.places w.nextBox
  rw [if_neg (Nat.lt_irrefl _)] at places
  have leaves := sound.leaves w.nextBox
  have holding : held ([.callbacks, .handOver w.nextBox] ++ todo) = w.nextBox :: held todo := rfl
  have counts : ∀ box, ((w.setBox w.nextBox inner).endedCount box) = w.endedCount box := by
    intro box
    rw [endedCount_setBox]
    split
    · rename_i here
      subst here
      simp [Wrapper.endedCount, fresh, going]
    · rfl
  have surfaces : ∀ boxes : List GrabId, w.nextBox ∉ boxes →
      boxes.filterMap (w.setBox w.nextBox inner).surfaceOf = boxes.filterMap w.surfaceOf := by
    intro boxes absent
    apply filterMap_surfaceOf_congr
    intro box member
    have different : box ≠ w.nextBox := fun same => absent (same ▸ member)
    simp [Wrapper.surfaceOf, Wrapper.setBox, different]
  have lookup : ∀ box value, (w.setBox w.nextBox inner).boxes box = some value →
      (box = w.nextBox ∧ value = inner) ∨ (box ≠ w.nextBox ∧ w.boxes box = some value) := by
    intro box value found
    unfold Wrapper.setBox at found
    by_cases here : box = w.nextBox
    · subst here
      left
      simpa [eq_comm] using found
    · right
      simpa [Function.update_of_ne here, here] using found
  constructor
  case allocated =>
    intro box
    change (Function.update w.boxes w.nextBox (some inner) box).isSome ↔ box < w.nextBox + 1
    by_cases here : box = w.nextBox
    · subst here
      simp
    · rw [Function.update_of_ne here, sound.allocated]
      exact ⟨Nat.lt_succ_of_lt, fun less => Nat.lt_of_le_of_ne (Nat.le_of_lt_succ less) here⟩
  case places =>
    intro box
    have place := sound.places box
    change (held ([.callbacks, .handOver w.nextBox] ++ todo)).count box +
      w.activeGrabs.count box + w.pendingDrop.count box + w.freed.count box =
        if box < w.nextBox + 1 then 1 else 0
    rw [holding, List.count_cons]
    by_cases here : box = w.nextBox
    · subst here
      rw [if_pos (beq_self_eq_true _), if_pos (Nat.lt_add_one _)]
      omega
    · have less : box < w.nextBox + 1 ↔ box < w.nextBox :=
        ⟨fun less => Nat.lt_of_le_of_ne (Nat.le_of_lt_succ less) here, Nat.lt_succ_of_lt⟩
      rw [if_neg (by simpa using Ne.symm here), if_congr less rfl rfl]
      omega
  case leaves => exact sound.leaves
  case ended =>
    intro box
    change (w.setBox w.nextBox inner).endedCount box = _
    rw [counts]
    exact sound.ended box
  case outcome =>
    intro box
    change (w.setBox w.nextBox inner).endedCount box = _
    rw [counts]
    exact sound.outcome box
  case posted =>
    intro surface
    have outcome := sound.outcome w.nextBox
    have none : w.endedCount w.nextBox = 0 := by simp [Wrapper.endedCount, fresh]
    have absentEnded : w.nextBox ∉ w.endedGrabs := by
      rw [← List.count_eq_zero]
      omega
    have absentLeaving : w.nextBox ∉ leaving todo := by
      rw [← List.count_eq_zero]
      omega
    change (grabEnded (w.handled ++ w.queue)).count surface +
      ((leaving todo).filterMap (w.setBox w.nextBox inner).surfaceOf).count surface =
        (w.endedGrabs.filterMap (w.setBox w.nextBox inner).surfaceOf).count surface
    rw [surfaces _ absentLeaving, surfaces _ absentEnded]
    exact sound.posted surface
  case current =>
    intro device box present
    obtain ⟨value, found, there, alive, free⟩ := sound.current device box present
    have different := older box value found
    refine ⟨value, ?_, there, alive, ?_⟩
    · change Function.update w.boxes w.nextBox (some inner) box = some value
      rw [Function.update_of_ne different, found]
    · change box ∉ held ([.callbacks, .handOver w.nextBox] ++ todo)
      rw [holding, List.mem_cons, not_or]
      exact ⟨different, free⟩
  case unplugged => exact sound.unplugged
  case awaited =>
    intro box value member found
    change box ∈ held ([.callbacks, .handOver w.nextBox] ++ todo) at member
    rw [holding, List.mem_cons] at member
    rcases lookup box value found with ⟨_, rfl⟩ | ⟨different, found⟩
    · exact plugged
    · exact sound.awaited box value (member.resolve_left different) found
  case seated => exact sound.seated
  case onPointer =>
    intro box value found kind
    rcases lookup box value found with ⟨_, rfl⟩ | ⟨_, found⟩
    · exact pointer kind
    · exact sound.onPointer box value found kind

theorem setDevice_devices (w : Wrapper) (device other : Device)
    (change : DeviceState → DeviceState) :
    (w.setDevice device change).devices other =
      if other = device then change (w.devices device) else w.devices other :=
  Function.update_apply w.devices device (change (w.devices device)) other

/-- A box that is held exists and is the only one of its name. -/
theorem Sound.held_cons {w : Wrapper} {todo : List Op} {box : GrabId}
    (sound : Sound w (.handOver box :: todo)) :
    ∃ inner, w.boxes box = some inner ∧ inner.ended = false ∧ box ∉ held todo ∧
      (w.devices inner.device).plugged := by
  have holding : held (.handOver box :: todo) = box :: held todo := rfl
  have member : box ∈ held (.handOver box :: todo) := by simp [holding]
  have positive := List.count_pos_iff.mpr member
  obtain ⟨⟨inner, found⟩, place⟩ := sound.stored (Nat.add_pos_left positive _)
  rw [holding, List.count_cons, if_pos (beq_self_eq_true _)] at place
  refine ⟨inner, found, (sound.held_going member found).1, ?_, sound.awaited box inner member found⟩
  rw [← List.count_eq_zero]
  omega

theorem install_devices (w : Wrapper) (box : GrabId) (inner : GrabInner) (device : Device) :
    (w.install box inner).devices device =
      if device = inner.device then { w.devices inner.device with current := some box }
      else w.devices device :=
  Function.update_apply w.devices inner.device _ device

theorem Sound.install {w : Wrapper} {todo : List Op} {box : GrabId} {inner : GrabInner}
    (sound : Sound w (.handOver box :: todo)) (found : w.boxes box = some inner) :
    Sound (w.install box inner) todo := by
  obtain ⟨value, there, going, single, plugged⟩ := sound.held_cons
  obtain rfl := Option.some.inj (there.symm.trans found)
  have holding : held (.handOver box :: todo) = box :: held todo := rfl
  have active : (w.install box value).activeGrabs = w.activeGrabs ++ [box] := rfl
  have same : ∀ device, ((w.install box value).devices device).plugged =
      (w.devices device).plugged := by
    intro device
    rw [install_devices]
    split
    · rename_i here
      rw [here]
    · rfl
  constructor
  case allocated => exact sound.allocated
  case places =>
    intro other
    have place := sound.places other
    rw [holding, List.count_cons] at place
    change (held todo).count other + (w.activeGrabs ++ [box]).count other +
      w.pendingDrop.count other + w.freed.count other = _
    rw [List.count_append, List.count_singleton]
    exact Eq.trans (by omega) place
  case leaves =>
    intro other
    have leaves : (leaving todo).count other ≤ w.activeGrabs.count other := sound.leaves other
    rw [active, List.count_append]
    omega
  case ended => exact sound.ended
  case outcome => exact sound.outcome
  case posted => exact sound.posted
  case current =>
    intro device other present
    rw [install_devices] at present
    split at present
    · rename_i here
      obtain rfl := Option.some.inj present
      exact ⟨value, found, here.symm, going, single⟩
    · obtain ⟨inner, there, on, alive, free⟩ := sound.current device other present
      rw [holding, List.mem_cons, not_or] at free
      exact ⟨inner, there, on, alive, free.2⟩
  case unplugged =>
    intro device absent
    rw [same] at absent
    rw [install_devices, if_neg]
    · exact sound.unplugged device absent
    · rintro rfl
      rw [plugged] at absent
      cases absent
  case awaited =>
    intro other inner member there
    rw [same]
    exact sound.awaited other inner (by rw [holding]; exact .tail _ member) there
  case seated =>
    intro device present
    rw [same] at present
    exact sound.seated device present
  case onPointer => exact sound.onPointer

theorem Sound.handOver {w : Wrapper} {todo : List Op} {box : GrabId}
    (sound : Sound w (.handOver box :: todo)) :
    Sound (w.handOver box).1 ((w.handOver box).2 ++ todo) := by
  obtain ⟨inner, found, _⟩ := sound.held_cons
  have installed := sound.install found
  unfold Wrapper.handOver
  simp only [found]
  cases inner.device with
  | pointer seat => exact installed.sameTodo rfl rfl
  | touch seat => exact installed

/-! ### Ending -/

/-- A flag of a box changes; the rest of it stays. -/
structure SameBox (before after : GrabInner) : Prop where
  device : after.device = before.device
  kind : after.kind = before.kind
  surface : after.surface = before.surface

theorem setBox_found {w : Wrapper} {box : GrabId} {inner changed : GrabInner}
    (found : w.boxes box = some inner) (same : SameBox inner changed) {other : GrabId}
    {value : GrabInner} (there : (w.setBox box changed).boxes other = some value) :
    ∃ old, w.boxes other = some old ∧ SameBox old value := by
  unfold Wrapper.setBox at there
  by_cases here : other = box
  · subst here
    have equal : changed = value := by simpa using there
    subst equal
    exact ⟨inner, found, same⟩
  · exact ⟨value, by simpa [here] using there, rfl, rfl, rfl⟩

private theorem setBox_isSome {w : Wrapper} {box : GrabId} {inner : GrabInner}
    (found : w.boxes box = some inner) (changed : GrabInner) (other : GrabId) :
    ((w.setBox box changed).boxes other).isSome = (w.boxes other).isSome := by
  unfold Wrapper.setBox
  by_cases here : other = box
  · subst here
    simp [found]
  · simp [here]

/-- A box that changes neither its flag nor what it is about. -/
theorem Sound.setBox {w : Wrapper} {todo : List Op} (sound : Sound w todo) {box : GrabId}
    {inner changed : GrabInner} (found : w.boxes box = some inner) (same : SameBox inner changed)
    (flag : changed.ended = inner.ended) : Sound (w.setBox box changed) todo := by
  have counts : ∀ other, (w.setBox box changed).endedCount other = w.endedCount other := by
    intro other
    rw [endedCount_setBox]
    split
    · rename_i here
      subst here
      simp [Wrapper.endedCount, found, flag]
    · rfl
  have surfaces := surfaceOf_setBox found same.surface
  constructor
  case allocated =>
    intro other
    rw [setBox_isSome found]
    exact sound.allocated other
  case places => exact sound.places
  case leaves => exact sound.leaves
  case ended =>
    intro other
    rw [counts]
    exact sound.ended other
  case outcome =>
    intro other
    rw [counts]
    exact sound.outcome other
  case posted =>
    rw [surfaces]
    exact sound.posted
  case current =>
    intro device other present
    obtain ⟨value, there, on, alive, free⟩ := sound.current device other present
    by_cases here : other = box
    · subst here
      obtain rfl := Option.some.inj (there.symm.trans found)
      exact ⟨changed, by simp [Wrapper.setBox], same.device.trans on, flag.trans alive, free⟩
    · exact ⟨value, by simp [Wrapper.setBox, here, there], on, alive, free⟩
  case unplugged => exact sound.unplugged
  case awaited =>
    intro other value member there
    obtain ⟨old, oldFound, sameOld⟩ := setBox_found found same there
    rw [sameOld.device]
    exact sound.awaited other old member oldFound
  case seated => exact sound.seated
  case onPointer =>
    intro other value there kind
    obtain ⟨old, oldFound, sameOld⟩ := setBox_found found same there
    rw [sameOld.kind] at kind
    rw [sameOld.device]
    exact sound.onPointer other old oldFound kind

theorem release_devices (w : Wrapper) (box : GrabId) (inner : GrabInner) (device : Device) :
    (w.release box inner).devices device =
      if device = inner.device then { w.devices inner.device with current := none }
      else w.devices device :=
  Function.update_apply w.devices inner.device _ device

theorem release_boxes (w : Wrapper) (box : GrabId) (inner : GrabInner) :
    (w.release box inner).boxes = (w.setBox box { inner with ended := true }).boxes := rfl

theorem Sound.release {w : Wrapper} {todo : List Op} (sound : Sound w todo) {box : GrabId}
    {inner : GrabInner} (found : w.boxes box = some inner)
    (current : (w.devices inner.device).current = some box) :
    Sound (w.release box inner) (.takeOut box :: todo) := by
  obtain ⟨value, there, _, going, free⟩ := sound.current inner.device box current
  obtain rfl := Option.some.inj (there.symm.trans found)
  obtain ⟨activeOnce, notLeaving⟩ := sound.active_of_going found going free
  have changed : SameBox value { value with ended := true } := ⟨rfl, rfl, rfl⟩
  have surfaces : (w.release box value).surfaceOf = w.surfaceOf :=
    surfaceOf_setBox found changed.surface
  have own : w.surfaceOf box = some value.surface := by simp [Wrapper.surfaceOf, found]
  have counts : ∀ other, (w.release box value).endedCount other =
      if other = box then 1 else w.endedCount other :=
    fun other => endedCount_setBox w box other { value with ended := true }
  have oldCount : w.endedCount box = 0 := by simp [Wrapper.endedCount, found, going]
  have left : leaving (.takeOut box :: todo) = box :: leaving todo := rfl
  have same : ∀ device, ((w.release box value).devices device).plugged =
      (w.devices device).plugged := by
    intro device
    rw [release_devices]
    split
    · rename_i here
      rw [here]
    · rfl
  constructor
  case allocated =>
    intro other
    rw [release_boxes, setBox_isSome found]
    exact sound.allocated other
  case places => exact sound.places
  case leaves =>
    intro other
    have leaves := sound.leaves other
    rw [left, List.count_cons]
    change _ ≤ w.activeGrabs.count other
    by_cases here : box = other
    · subst here
      rw [if_pos (beq_self_eq_true _)]
      omega
    · rw [if_neg (by simpa using here)]
      exact leaves
  case ended =>
    intro other
    have flag := sound.ended other
    change _ = _ + w.pendingDrop.count other + w.freed.count other
    rw [counts, left, List.count_cons]
    by_cases here : other = box
    · subst here
      rw [if_pos rfl, if_pos (beq_self_eq_true _)]
      omega
    · rw [if_neg here, if_neg (by simpa using Ne.symm here)]
      omega
  case outcome =>
    intro other
    have outcome := sound.outcome other
    change _ = (w.endedGrabs ++ [box]).count other + w.retiredGrabs.count other
    rw [counts, List.count_append, List.count_singleton]
    by_cases here : other = box
    · subst here
      rw [if_pos rfl, if_pos (beq_self_eq_true _)]
      omega
    · rw [if_neg here, if_neg (by simpa using Ne.symm here)]
      omega
  case posted =>
    intro surface
    have posted := sound.posted surface
    change (grabEnded (w.handled ++ w.queue)).count surface + _ =
      ((w.endedGrabs ++ [box]).filterMap (w.release box value).surfaceOf).count surface
    rw [surfaces, left, List.filterMap_cons_some own, List.filterMap_append,
      List.filterMap_cons_some own, List.filterMap_nil, List.count_append, List.count_cons,
      List.count_singleton]
    omega
  case current =>
    intro device other present
    rw [release_devices] at present
    split at present
    · cases present
    · rename_i elsewhere
      obtain ⟨inner, stored, on, alive, away⟩ := sound.current device other present
      have different : other ≠ box := by
        rintro rfl
        rw [Option.some.inj (stored.symm.trans found)] at on
        exact elsewhere on.symm
      refine ⟨inner, ?_, on, alive, away⟩
      rw [release_boxes]
      simp [Wrapper.setBox, different, stored]
  case unplugged =>
    intro device absent
    rw [same] at absent
    rw [release_devices]
    split
    · rfl
    · exact sound.unplugged device absent
  case awaited =>
    intro other inner member there
    obtain ⟨old, oldFound, sameOld⟩ := setBox_found found changed there
    rw [same, sameOld.device]
    exact sound.awaited other old member oldFound
  case seated =>
    intro device present
    rw [same] at present
    exact sound.seated device present
  case onPointer =>
    intro other inner there kind
    obtain ⟨old, oldFound, sameOld⟩ := setBox_found found changed there
    rw [sameOld.kind] at kind
    rw [sameOld.device]
    exact sound.onPointer other old oldFound kind

/-- The box of a grab that ended leaves `active_grabs`. -/
private theorem leaveActive_eq {w : Wrapper} {box : GrabId} (active : box ∈ w.activeGrabs) :
    ∃ rest, (box :: rest).Perm w.activeGrabs ∧
      w.leaveActive box =
        { w with activeGrabs := rest, pendingDrop := w.pendingDrop ++ [box] } := by
  unfold Wrapper.leaveActive
  cases position : w.activeGrabs.findIdx? (fun active => decide (active = box)) with
  | none =>
      have absent := List.findIdx?_eq_none_iff.mp position box active
      simp at absent
  | some i =>
      obtain ⟨inside, holds, _⟩ := List.findIdx?_eq_some_iff_getElem.mp position
      have there : w.activeGrabs[i]? = some box := by
        rw [List.getElem?_eq_getElem inside, of_decide_eq_true holds]
      exact ⟨_, swapRemove_perm there, rfl⟩

theorem Sound.takeOut {w : Wrapper} {todo : List Op} {box : GrabId}
    (sound : Sound w (.takeOut box :: todo)) : Sound (w.takeOut box) todo := by
  have left : leaving (.takeOut box :: todo) = box :: leaving todo := rfl
  have member : box ∈ leaving (.takeOut box :: todo) := by simp [left]
  obtain ⟨inner, found, ended, activeOnce⟩ := sound.leaving_active member
  have own : w.surfaceOf box = some inner.surface := by simp [Wrapper.surfaceOf, found]
  obtain ⟨rest, perm, shape⟩ :=
    @leaveActive_eq w box (List.count_pos_iff.mp (by omega))
  have counts : ∀ other, w.activeGrabs.count other = (box :: rest).count other :=
    fun other => (perm.count_eq other).symm
  unfold Wrapper.takeOut
  simp only [found, shape]
  constructor
  case allocated => exact sound.allocated
  case places =>
    intro other
    have place := sound.places other
    rw [counts, List.count_cons] at place
    change (held todo).count other + _ + _ + _ = _ at place
    change (held todo).count other + rest.count other + (w.pendingDrop ++ [box]).count other +
      w.freed.count other = _
    rw [List.count_append, List.count_singleton]
    exact Eq.trans (by omega) place
  case leaves =>
    intro other
    have leaves := sound.leaves other
    rw [left, counts, List.count_cons, List.count_cons] at leaves
    change (leaving todo).count other ≤ rest.count other
    omega
  case ended =>
    intro other
    have flag := sound.ended other
    rw [left, List.count_cons] at flag
    change w.endedCount other = (leaving todo).count other + (w.pendingDrop ++ [box]).count other +
      w.freed.count other
    rw [List.count_append, List.count_singleton]
    omega
  case outcome => exact sound.outcome
  case posted =>
    intro surface
    have posted := sound.posted surface
    rw [left, List.filterMap_cons_some own, List.count_cons] at posted
    change (grabEnded (w.handled ++ (w.queue ++ [.grabEnded inner.surface]))).count surface +
      ((leaving todo).filterMap w.surfaceOf).count surface = _
    have split : grabEnded (w.handled ++ (w.queue ++ [.grabEnded inner.surface])) =
        grabEnded (w.handled ++ w.queue) ++ [inner.surface] := by
      unfold grabEnded
      rw [← List.append_assoc, List.filterMap_append]
      rfl
    rw [split, List.count_append, List.count_singleton]
    exact Eq.trans (by omega) posted
  case current => exact sound.current
  case unplugged => exact sound.unplugged
  case awaited => exact sound.awaited
  case seated => exact sound.seated
  case onPointer => exact sound.onPointer

/-! ### Retiring and freeing -/

/-- A grab that goes on without being current on a device is retired. -/
theorem Sound.retire {w : Wrapper} {todo : List Op} (sound : Sound w todo) {box : GrabId}
    (free : box ∉ held todo) (superseded : ∀ device, (w.devices device).current ≠ some box) :
    Sound (w.retireSupersededPointerGrab box) todo := by
  unfold Wrapper.retireSupersededPointerGrab
  cases found : w.boxes box with
  | none => exact sound
  | some inner =>
      cases going : inner.ended with
      | true => simpa only [going, if_true] using sound
      | false =>
          simp only [going, Bool.false_eq_true, if_false]
          obtain ⟨activeOnce, notLeaving⟩ := sound.active_of_going found going free
          obtain ⟨rest, perm, shape⟩ :=
            @leaveActive_eq (w.setBox box { inner with ended := true }) box
              (List.count_pos_iff.mp (by
                change 0 < w.activeGrabs.count box
                omega))
          have counts : ∀ other, w.activeGrabs.count other = (box :: rest).count other :=
            fun other => (perm.count_eq other).symm
          have changed : SameBox inner { inner with ended := true } := ⟨rfl, rfl, rfl⟩
          have surfaces := surfaceOf_setBox found changed.surface
          have oldCount : w.endedCount box = 0 := by simp [Wrapper.endedCount, found, going]
          rw [shape]
          constructor
          case allocated =>
            intro other
            change ((w.setBox box { inner with ended := true }).boxes other).isSome ↔ _
            rw [setBox_isSome found]
            exact sound.allocated other
          case places =>
            intro other
            have place := sound.places other
            rw [counts, List.count_cons] at place
            change (held todo).count other + rest.count other +
              (w.pendingDrop ++ [box]).count other + w.freed.count other = _
            rw [List.count_append, List.count_singleton]
            exact Eq.trans (by omega) place
          case leaves =>
            intro other
            have leaves := sound.leaves other
            rw [counts, List.count_cons] at leaves
            change (leaving todo).count other ≤ rest.count other
            by_cases here : other = box
            · rw [here, notLeaving]
              exact Nat.zero_le _
            · rw [if_neg (by simpa using Ne.symm here)] at leaves
              exact leaves
          case ended =>
            intro other
            have flag := sound.ended other
            change (w.setBox box { inner with ended := true }).endedCount other =
              (leaving todo).count other + (w.pendingDrop ++ [box]).count other +
                w.freed.count other
            rw [endedCount_setBox, List.count_append, List.count_singleton]
            by_cases here : other = box
            · subst here
              rw [if_pos rfl, if_pos (beq_self_eq_true _), Bool.toNat_true]
              omega
            · rw [if_neg here, if_neg (by simpa using Ne.symm here)]
              omega
          case outcome =>
            intro other
            have outcome := sound.outcome other
            change (w.setBox box { inner with ended := true }).endedCount other =
              w.endedGrabs.count other + (w.retiredGrabs ++ [box]).count other
            rw [endedCount_setBox, List.count_append, List.count_singleton]
            by_cases here : other = box
            · subst here
              rw [if_pos rfl, if_pos (beq_self_eq_true _), Bool.toNat_true]
              omega
            · rw [if_neg here, if_neg (by simpa using Ne.symm here)]
              omega
          case posted =>
            intro surface
            change (grabEnded (w.handled ++ w.queue)).count surface +
              ((leaving todo).filterMap
                (w.setBox box { inner with ended := true }).surfaceOf).count surface =
              (w.endedGrabs.filterMap
                (w.setBox box { inner with ended := true }).surfaceOf).count surface
            rw [surfaces]
            exact sound.posted surface
          case current =>
            intro device other present
            obtain ⟨value, there, on, alive, away⟩ := sound.current device other present
            have different : other ≠ box := by
              rintro rfl
              exact superseded device present
            exact ⟨value, by simp [Wrapper.setBox, different, there], on, alive, away⟩
          case unplugged => exact sound.unplugged
          case awaited =>
            intro other value member there
            obtain ⟨old, oldFound, sameOld⟩ := setBox_found found changed there
            rw [sameOld.device]
            exact sound.awaited other old member oldFound
          case seated => exact sound.seated
          case onPointer =>
            intro other value there kind
            obtain ⟨old, oldFound, sameOld⟩ := setBox_found found changed there
            rw [sameOld.kind] at kind
            rw [sameOld.device]
            exact sound.onPointer other old oldFound kind

/-- The drain frees what waits. -/
theorem Sound.free {w : Wrapper} {todo : List Op} (sound : Sound w todo) :
    Sound { w with pendingDrop := [], freed := w.freed ++ w.pendingDrop } todo where
  allocated := sound.allocated
  places box := by
    have place := sound.places box
    rw [List.count_append, List.count_nil]
    dsimp only
    exact Eq.trans (by omega) place
  leaves := sound.leaves
  ended box := by
    have flag := sound.ended box
    rw [List.count_append, List.count_nil]
    exact flag.trans (by omega)
  outcome := sound.outcome
  posted := sound.posted
  current := sound.current
  unplugged := sound.unplugged
  awaited := sound.awaited
  seated := sound.seated
  onPointer := sound.onPointer

end Westonite.Grab
