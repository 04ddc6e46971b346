import Westonite.Grab.Liveness

/-! Which grabs go on without being current, and which resizes are left with
nobody to finish them. -/

set_option autoImplicit false

namespace Westonite.Grab

open Library

section

variable (clientOf : DesktopSurfaceId → ClientId)

/-- A grab that starts on the device replaces nothing of ours, or a busy grab
whose client has yet to answer. -/
def Wrapper.mayReplace (w : Wrapper) (device : Device) : Bool :=
  (w.currentInner device).all fun grab =>
    grab.2.kind == .busy && decide (clientOf grab.2.surface ∈ w.waiting)

/-- A client answers while its superseded busy grabs are on live surfaces. -/
def Wrapper.mayPong (w : Wrapper) (client : ClientId) : Bool :=
  w.activeGrabs.all fun box =>
    (w.boxes box).all fun inner =>
      inner.kind != .busy || clientOf inner.surface != client ||
        decide ((w.devices inner.device).current = some box) || w.known inner.surface

/-- The step supersedes only busy grabs, and answers for all of them. -/
def Machine.orderly (m : Machine) (label : Label) : Bool :=
  match m.todo, label with
  | .handOver box :: _, _ =>
      (m.wrapper.boxes box).all fun inner => m.wrapper.mayReplace clientOf inner.device
  | _, .input (.pong client _) => m.wrapper.mayPong clientOf client
  | _, _ => true

def Machine.orderlyStep (m : Machine) (label : Label) : Option Machine :=
  if m.orderly clientOf label then m.step clientOf label else none

def OrderlyStep (m : Machine) (label : Label) (next : Machine) : Prop :=
  m.orderlyStep clientOf label = some next

/-- The answer of the client of a busy grab is queued or being handled, and will
reach that grab. -/
def Due (w : Wrapper) (base : Base) (box : GrabId) (inner : GrabInner) : Prop :=
  w.known inner.surface ∧
    ((∃ first rest, .pong (first :: rest) ∈ w.queue ∧ w.known first ∧
        clientOf first = clientOf inner.surface) ∨
      ∃ busy live, base = .pong busy (clientOf inner.surface) live ∧ (box, inner.surface) ∈ busy)

/-- A resize of the surface that goes on. -/
def Resized (w : Wrapper) (surface : DesktopSurfaceId) : Prop :=
  ∃ box inner, w.boxes box = some inner ∧ inner.kind = .resize ∧ inner.surface = surface ∧
    inner.ended = false

/-- A grab that goes on is current, or a busy grab that waits for an answer. -/
structure Followed (frame : Frame) (base : Base) : Prop where
  current : ∀ box inner, frame.1.boxes box = some inner → inner.ended = false →
    box ∉ held frame.2 →
    (frame.1.devices inner.device).current = some box ∨
      inner.kind = .busy ∧
        (clientOf inner.surface ∈ frame.1.waiting ∨ Due clientOf frame.1 base box inner)
  quiet : (base = .idle ∨ ∃ surface, base = .removed surface) →
    ∀ surfaces, .pong surfaces ∉ frame.1.queue

end

/-- A surface that is being resized has a resize that goes on. -/
structure Finishable (w : Wrapper) : Prop where
  resizing : ∀ surface, w.desktopSurfaces.lookup surface = some true → Resized w surface
  edges : ∀ surface rec, w.recs.lookup surface = some rec → rec.resizeEdges ≠ 0 →
    Resized w surface

variable {clientOf : DesktopSurfaceId → ClientId}

/-- Every surface that is being resized has a current resize grab that finishes
it, and every grab in `active_grabs` is current or waits for its client. -/
structure Wrapper.NothingStranded (clientOf : DesktopSurfaceId → ClientId) (w : Wrapper) :
    Prop where
  resizes : ∀ surface,
    w.desktopSurfaces.lookup surface = some true ∨
      (∃ rec, w.recs.lookup surface = some rec ∧ rec.resizeEdges ≠ 0) →
    ∃ seat box inner, w.boxes box = some inner ∧ inner.kind = .resize ∧ inner.surface = surface ∧
      inner.ended = false ∧ (w.devices (.pointer seat)).plugged ∧
      (w.devices (.pointer seat)).current = some box ∧
      w.cancelGrab (.pointer seat) = w.resizeFinish box inner
  grabs : ∀ box ∈ w.activeGrabs, ∃ inner, w.boxes box = some inner ∧
    ((∃ device, (w.devices device).plugged ∧ (w.devices device).current = some box) ∨
      inner.kind = .busy ∧ clientOf inner.surface ∈ w.waiting)

/-! ### Going on -/

theorem Due.of_same {w after : Wrapper} {base : Base} {box : GrabId} {inner changed : GrabInner}
    (due : Due clientOf w base box inner) (known : ∀ surface, w.known surface → after.known surface)
    (queue : ∀ surfaces, .pong surfaces ∈ w.queue → .pong surfaces ∈ after.queue)
    (same : changed.surface = inner.surface) : Due clientOf after base box changed := by
  obtain ⟨alive, due⟩ := due
  unfold Due
  rw [same]
  refine ⟨known _ alive, ?_⟩
  rcases due with ⟨first, rest, queued, there, client⟩ | handling
  · exact .inl ⟨first, rest, queue _ queued, known _ there, client⟩
  · exact .inr handling

/-- A change that keeps the grabs that go on where they are. -/
theorem Followed.of_boxes {w after : Wrapper} {todo other : List Op} {base : Base}
    (followed : Followed clientOf (w, todo) base)
    (boxes : ∀ box changed, after.boxes box = some changed → changed.ended = false →
      box ∉ held other → ∃ inner, w.boxes box = some inner ∧ inner.ended = false ∧
        SameBox inner changed ∧ box ∉ held todo ∧
        ((w.devices inner.device).current = some box →
          (after.devices inner.device).current = some box))
    (waiting : ∀ client, client ∈ w.waiting → client ∈ after.waiting)
    (known : ∀ surface, w.known surface → after.known surface)
    (queue : ∀ surfaces, .pong surfaces ∈ after.queue ↔ .pong surfaces ∈ w.queue) :
    Followed clientOf (after, other) base where
  current box changed there going free := by
    obtain ⟨inner, found, old, same, before, current⟩ := boxes box changed there going free
    dsimp only
    rw [same.device, same.kind, same.surface]
    rcases followed.current box inner found old before with held | ⟨busy, waits | due⟩
    · exact .inl (current held)
    · exact .inr ⟨busy, .inl (waiting _ waits)⟩
    · have kept := fun surfaces => (queue surfaces).mpr
      exact .inr ⟨busy, .inr (due.of_same known kept same.surface)⟩
  quiet at' surfaces queued := followed.quiet at' surfaces ((queue surfaces).mp queued)

private theorem startGrab_boxes_old {w : Wrapper} {inner value : GrabInner} {box : GrabId}
    (different : box ≠ w.nextBox) (found : (w.startGrab inner).1.boxes box = some value) :
    w.boxes box = some value := by
  change Function.update w.boxes w.nextBox (some inner) box = some value at found
  rwa [Function.update_of_ne different] at found

/-- A new grab is held until it is handed over; the others are as before. -/
theorem Followed.startGrab {w : Wrapper} {todo : List Op} {base : Base}
    (followed : Followed clientOf (w, todo) base) (inner : GrabInner) :
    Followed clientOf ((w.startGrab inner).1, (w.startGrab inner).2 ++ todo) base := by
  refine followed.of_boxes ?_ (fun _ => id) (fun _ => id) (fun _ => .rfl)
  intro box value found going free
  have holding : box ∉ w.nextBox :: held todo := free
  rw [List.mem_cons, not_or] at holding
  exact ⟨value, startGrab_boxes_old holding.1 found, going, .refl value, holding.2, id⟩

theorem Followed.release {w : Wrapper} {todo : List Op} {base : Base}
    (followed : Followed clientOf (w, todo) base) {box : GrabId} {inner : GrabInner}
    (current : (w.devices inner.device).current = some box) :
    Followed clientOf (w.release box inner, .takeOut box :: todo) base := by
  refine followed.of_boxes ?_ (fun _ => id) (fun _ => id) (fun _ => .rfl)
  intro other value found going free
  have different : other ≠ box := by
    rintro rfl
    rw [release_boxes] at found
    have same : ({ inner with ended := true } : GrabInner) = value := by
      simpa [Wrapper.setBox] using found
    rw [← same] at going
    cases going
  have old : w.boxes other = some value := by
    rw [release_boxes] at found
    simpa [Wrapper.setBox, different] using found
  refine ⟨value, old, going, .refl value, free, ?_⟩
  intro held
  rw [release_devices, if_neg]
  · exact held
  · intro here
    rw [here, current] at held
    exact different (Option.some.inj held).symm

theorem Change.followed {before after : Frame} {base : Base} (change : Change before after)
    (followed : Followed clientOf before base) : Followed clientOf after base := by
  cases change with
  | plan sameHeld _ =>
      refine followed.of_boxes ?_ (fun _ => id) (fun _ => id) (fun _ => .rfl)
      intro box inner found going free
      exact ⟨inner, found, going, .refl inner, by rw [← sameHeld]; exact free, id⟩
  | moved kept =>
      refine followed.of_boxes ?_ (fun _ => id) (fun _ => id) (fun _ => .rfl)
      intro box inner found going free
      refine ⟨inner, found, going, .refl inner, free, ?_⟩
      rw [(sameGrabs_setDevice kept).current]
      exact id
  | flagged _ =>
      refine followed.of_boxes ?_ (fun _ => id) (fun _ => id) (fun _ => .rfl)
      exact fun box inner found going free => ⟨inner, found, going, .refl inner, free, id⟩
  | @lifted w todo box inner changed found same flag =>
      refine followed.of_boxes ?_ (fun _ => id) (fun _ => id) (fun _ => .rfl)
      intro other value there going free
      by_cases here : other = box
      · subst here
        have equal : changed = value := by simpa [Wrapper.setBox] using there
        subst equal
        exact ⟨inner, found, flag.symm.trans going, same, free, id⟩
      · have old : w.boxes other = some value := by simpa [Wrapper.setBox, here] using there
        exact ⟨value, old, going, .refl value, free, id⟩
  | start _ _ _ _ => exact followed.startGrab _
  | @startResize w todo surface edges inner _ _ _ _ _ =>
      have marked : Followed clientOf ((w.setRec surface fun rec =>
          { rec with resizeEdges := edges }).setResizing surface true, todo) base := by
        have known := fun other => known_setResizing (w.setRec surface fun rec =>
          { rec with resizeEdges := edges }) surface other true
        refine followed.of_boxes ?_ (fun _ => id) (fun other => (known other).trans) (fun _ => .rfl)
        exact fun box inner found going free => ⟨inner, found, going, .refl inner, free, id⟩
      exact marked.startGrab inner
  | release _ _ current => exact followed.release current
  | @finish w todo box inner _ _ current =>
      have told : Followed clientOf (w.setResizing inner.surface false, todo) base := by
        have known := fun other => known_setResizing w inner.surface other false
        refine followed.of_boxes ?_ (fun _ => id) (fun other => (known other).trans) (fun _ => .rfl)
        exact fun box inner found going free => ⟨inner, found, going, .refl inner, free, id⟩
      exact told.release current

/-! ### Being resized -/

/-- The resizes that go on do so after a change of other boxes. -/
theorem Resized.of_boxes {w after : Wrapper} {surface : DesktopSurfaceId}
    (resized : Resized w surface)
    (kept : ∀ box inner, w.boxes box = some inner → inner.kind = .resize →
      inner.surface = surface → inner.ended = false →
      ∃ changed, after.boxes box = some changed ∧ SameBox inner changed ∧
        changed.ended = false) : Resized after surface := by
  obtain ⟨box, inner, found, kind, on, going⟩ := resized
  obtain ⟨changed, there, same, still⟩ := kept box inner found kind on going
  exact ⟨box, changed, there, same.kind.trans kind, same.surface.trans on, still⟩

theorem lookup_setRec {w : Wrapper} {surface other : DesktopSurfaceId}
    {change : SurfaceRec → SurfaceRec} {rec : SurfaceRec}
    (found : (w.setRec surface change).recs.lookup other = some rec) :
    ∃ old, w.recs.lookup other = some old ∧ rec = if other = surface then change old else old := by
  have mapped : (w.recs.modify surface change).lookup other = some rec := found
  rw [AssocMap.lookup_modify] at mapped
  obtain ⟨old, oldFound, same⟩ := Option.map_eq_some_iff.mp mapped
  exact ⟨old, oldFound, same.symm⟩

private theorem lookup_setResizing {w : Wrapper} {surface other : DesktopSurfaceId}
    {resizing : Bool}
    (found : (w.setResizing surface resizing).desktopSurfaces.lookup other = some true) :
    if other = surface then resizing = true else w.desktopSurfaces.lookup other = some true := by
  have mapped : (w.desktopSurfaces.modify surface fun _ => resizing).lookup other = some true :=
    found
  rw [AssocMap.lookup_modify] at mapped
  obtain ⟨old, oldFound, same⟩ := Option.map_eq_some_iff.mp mapped
  split at same
  · rename_i here
    rwa [if_pos here]
  · rename_i elsewhere
    rw [if_neg elsewhere, oldFound, same]

private theorem startGrab_boxes {w : Wrapper} {todo : List Op} (sound : Sound w todo)
    (inner : GrabInner)
    {box : GrabId} {value : GrabInner} (found : w.boxes box = some value) :
    (w.startGrab inner).1.boxes box = some value := by
  have bounded : box < w.nextBox := (sound.allocated box).mp (Option.isSome_of_eq_some found)
  change Function.update w.boxes w.nextBox (some inner) box = some value
  rw [Function.update_of_ne (Nat.ne_of_lt bounded), found]

private theorem release_boxes_other {w : Wrapper} {box other : GrabId} {inner value : GrabInner}
    (different : other ≠ box) (found : w.boxes other = some value) :
    (w.release box inner).boxes other = some value := by
  rw [release_boxes]
  simp [Wrapper.setBox, different, found]

/-- A grab ends that is no resize of a surface still said to be resized. -/
theorem Finishable.release {w : Wrapper} (finishable : Finishable w) {box : GrabId}
    {inner : GrabInner} (found : w.boxes box = some inner)
    (told : inner.kind = .resize → w.desktopSurfaces.lookup inner.surface ≠ some true) :
    Finishable (w.release box inner) := by
  have others : ∀ surface, Resized w surface → (inner.kind = .resize → surface ≠ inner.surface) →
      Resized (w.release box inner) surface := by
    intro surface resized apart
    apply resized.of_boxes
    intro other value there isResize on going
    have different : other ≠ box := by
      rintro rfl
      obtain rfl := Option.some.inj (there.symm.trans found)
      exact apart isResize on.symm
    exact ⟨value, release_boxes_other different there, .refl value, going⟩
  constructor
  · intro surface there
    apply others surface (finishable.resizing surface there)
    rintro isResize rfl
    exact told isResize there
  · intro surface rec there moved
    obtain ⟨old, oldThere, same⟩ := @lookup_setRec w inner.surface surface
      (fun rec => { rec with grabbed := false, resizeEdges := 0 }) rec there
    split at same
    · rw [same] at moved
      exact absurd rfl moved
    · rename_i elsewhere
      subst same
      exact others surface (finishable.edges surface rec oldThere moved) fun _ => elsewhere

theorem Change.finishable {before after : Frame} (change : Change before after)
    (sound : Sound before.1 before.2) (finishable : Finishable before.1) :
    Finishable after.1 := by
  cases change with
  | plan _ _ => exact finishable
  | moved _ => exact ⟨finishable.resizing, finishable.edges⟩
  | flagged kept =>
      refine ⟨finishable.resizing, ?_⟩
      intro surface rec found moved
      obtain ⟨old, there, same⟩ := lookup_setRec found
      apply finishable.edges surface old there
      split at same
      · rwa [same, kept] at moved
      · rwa [same] at moved
  | @lifted w todo box inner changed found same flag =>
      have others : ∀ surface, Resized w surface → Resized (w.setBox box changed) surface := by
        intro surface resized
        apply resized.of_boxes
        intro other value there _ _ going
        by_cases here : other = box
        · subst here
          obtain rfl := Option.some.inj (there.symm.trans found)
          exact ⟨changed, by simp [Wrapper.setBox], same, flag.trans going⟩
        · exact ⟨value, by simp [Wrapper.setBox, here, there], .refl value, going⟩
      exact ⟨fun surface there => others surface (finishable.resizing surface there),
        fun surface rec there moved => others surface (finishable.edges surface rec there moved)⟩
  | @start w todo inner _ _ _ _ =>
      have others : ∀ surface, Resized w surface → Resized (w.startGrab inner).1 surface :=
        fun surface resized => resized.of_boxes fun box value there _ _ going =>
          ⟨value, startGrab_boxes sound inner there, .refl value, going⟩
      exact ⟨fun surface there => others surface (finishable.resizing surface there),
        fun surface rec there moved => others surface (finishable.edges surface rec there moved)⟩
  | @startResize w todo surface edges inner kind on going _ _ =>
      let marked := (w.setRec surface fun rec => { rec with resizeEdges := edges }).setResizing
        surface true
      have soundMarked : Sound marked todo :=
        (sound.same (sameGrabs_setRec w surface _)).same (sameGrabs_setResizing _ surface true)
      have started : Resized (marked.startGrab inner).1 surface := by
        refine ⟨w.nextBox, inner, ?_, kind, on, going⟩
        change Function.update w.boxes w.nextBox (some inner) w.nextBox = some inner
        simp
      have others : ∀ other, (other ≠ surface → Resized w other) →
          Resized (marked.startGrab inner).1 other := by
        intro other resized
        by_cases here : other = surface
        · rw [here]
          exact started
        · apply (resized here).of_boxes
          exact fun box value there _ _ still =>
            ⟨value, startGrab_boxes soundMarked inner there, .refl value, still⟩
      constructor
      · intro other found
        apply others other
        intro elsewhere
        have kept := lookup_setResizing found
        rw [if_neg elsewhere] at kept
        exact finishable.resizing other kept
      · intro other rec found moved
        apply others other
        intro elsewhere
        obtain ⟨old, there, same⟩ := @lookup_setRec w surface other
          (fun rec => { rec with resizeEdges := edges }) rec found
        rw [if_neg elsewhere] at same
        subst same
        exact finishable.edges other rec there moved
  | release found kind _ => exact finishable.release found fun isResize => absurd isResize kind
  | @finish w todo box inner found kind _ =>
      have others : ∀ surface, Resized w surface → Resized (w.setResizing inner.surface false)
          surface := fun surface resized => resized
      have told : Finishable (w.setResizing inner.surface false) := by
        refine ⟨?_, finishable.edges⟩
        intro surface there
        have kept := lookup_setResizing there
        split at kept
        · cases kept
        · exact finishable.resizing surface kept
      apply told.release found
      intro _ there
      have kept := lookup_setResizing there
      rw [if_pos rfl] at kept
      cases kept

end Westonite.Grab
