import Westonite.Grab.Stranded

/-! Runs whose grabs replace no grab that still has work to do: nothing is left
stranded. -/

set_option autoImplicit false

namespace Westonite.Grab

open Library

variable {clientOf : DesktopSurfaceId → ClientId}

/-! ### Chains of changes -/

theorem Changes.followed {before after : Frame} {base : Base} (changes : Changes before after)
    (followed : Followed clientOf before base) : Followed clientOf after base := by
  induction changes with
  | refl => exact followed
  | tail _ change ih => exact change.followed ih

theorem Changes.finishable {before after : Frame} (changes : Changes before after)
    (sound : Sound before.1 before.2) (finishable : Finishable before.1) : Finishable after.1 := by
  induction changes with
  | refl => exact finishable
  | tail earlier change ih => exact change.finishable (Changes.sound earlier sound) ih

/-- The outermost frame goes on with something else. -/
private theorem Followed.rebase {w : Wrapper} {todo : List Op} {base other : Base}
    (followed : Followed clientOf (w, todo) base)
    (due : ∀ box inner, w.boxes box = some inner → inner.ended = false → inner.kind = .busy →
      box ∉ held todo → Due clientOf w base box inner → Due clientOf w other box inner)
    (quiet : (other = .idle ∨ ∃ surface, other = .removed surface) →
      ∀ surfaces, .pong surfaces ∉ w.queue) : Followed clientOf (w, todo) other where
  current box inner found going free := by
    rcases followed.current box inner found going free with current | ⟨busy, waits | answered⟩
    · exact .inl current
    · exact .inr ⟨busy, .inl waits⟩
    · exact .inr ⟨busy, .inr (due box inner found going busy free answered)⟩
  quiet := quiet

/-- The answers that are due are queued, when none is being handled. -/
private theorem Due.rebase {w : Wrapper} {base other : Base} {box : GrabId} {inner : GrabInner}
    (due : Due clientOf w base box inner)
    (none : ∀ busy client live, base = .pong busy client live → (box, inner.surface) ∉ busy) :
    Due clientOf w other box inner := by
  obtain ⟨alive, queued | ⟨busy, live, same, member⟩⟩ := due
  · exact ⟨alive, .inl queued⟩
  · exact absurd member (none busy _ live same)

/-- On from a frame that has no grab left to visit. -/
private theorem Followed.onward {w : Wrapper} {todo : List Op} {base other : Base}
    (followed : Followed clientOf (w, todo) base)
    (none : ∀ busy client live, base = .pong busy client live → busy = [])
    (quiet : (other = .idle ∨ ∃ surface, other = .removed surface) →
      ∀ surfaces, .pong surfaces ∉ w.queue) : Followed clientOf (w, todo) other := by
  refine followed.rebase ?_ quiet
  intro box inner _ _ _ _ due
  apply due.rebase
  intro busy client live same
  rw [none busy client live same]
  exact List.not_mem_nil

/-- On to a frame of the drain. -/
theorem Followed.drain {w : Wrapper} {todo : List Op} {base : Base}
    (followed : Followed clientOf (w, todo) base)
    (none : ∀ busy client live, base = .pong busy client live → busy = []) :
    Followed clientOf (w, todo) .drain := by
  apply followed.onward none
  rintro (other | ⟨surface, other⟩) <;> cases other

/-- On to the rest of a snapshot, when the grab in front is not to be ended or was. -/
theorem Followed.visited {w : Wrapper} {todo : List Op} {box : GrabId}
    {surface : DesktopSurfaceId} {busy : List (GrabId × DesktopSurfaceId)} {client : ClientId}
    {live : List SeatId}
    (followed : Followed clientOf (w, todo) (.pong ((box, surface) :: busy) client live))
    (done : w.known surface → clientOf surface = client → w.endedCount box = 1) :
    Followed clientOf (w, todo) (.pong busy client live) := by
  apply followed.rebase
  · intro other inner found going _ _ due
    obtain ⟨alive, queued | ⟨visiting, here, same, member⟩⟩ := due
    · exact ⟨alive, .inl queued⟩
    · simp only [Base.pong.injEq] at same
      obtain ⟨rfl, same, rfl⟩ := same
      refine ⟨alive, .inr ⟨busy, live, by rw [same], ?_⟩⟩
      rcases List.mem_cons.mp member with first | later
      · simp only [Prod.mk.injEq] at first
        obtain ⟨rfl, rfl⟩ := first
        have ended := done alive same.symm
        simp [Wrapper.endedCount, found, going] at ended
      · exact later
  · rintro (other | ⟨surface, other⟩) <;> cases other

/-! ### Single steps -/

/-- The devices and the surfaces are the same, and the grabs that go on went on before. -/
theorem Followed.of_fields {w after : Wrapper} {todo other : List Op} {base : Base}
    (followed : Followed clientOf (w, todo) base)
    (boxes : ∀ box value, after.boxes box = some value → value.ended = false →
      w.boxes box = some value)
    (free : ∀ box, box ∈ held todo → box ∈ held other) (devices : after.devices = w.devices)
    (waiting : after.waiting = w.waiting) (surfaces : after.desktopSurfaces = w.desktopSurfaces)
    (queue : ∀ surfaces, .pong surfaces ∈ after.queue ↔ .pong surfaces ∈ w.queue) :
    Followed clientOf (after, other) base := by
  refine followed.of_boxes ?_ ?_ ?_ queue
  · intro box value found going away
    refine ⟨value, boxes box value found going, going, .refl value, mt (free box) away, ?_⟩
    rw [devices]
    exact id
  · intro client
    rw [waiting]
    exact id
  · intro surface
    unfold Wrapper.known
    rw [surfaces]
    exact id

/-- The grabs that go on after `install` did so before, and one more is current. -/
theorem Followed.install {w : Wrapper} {todo : List Op} {base : Base} {box : GrabId}
    {inner : GrabInner} (sound : Sound w (.handOver box :: todo))
    (followed : Followed clientOf (w, .handOver box :: todo) base)
    (found : w.boxes box = some inner) (may : w.mayReplace clientOf inner.device) :
    Followed clientOf (w.install box inner, todo) base where
  current other value there going free := by
    have same : w.boxes other = some value := there
    by_cases here : other = box
    · subst here
      obtain rfl := Option.some.inj (same.symm.trans found)
      left
      dsimp only
      rw [install_devices, if_pos rfl]
    · have before : other ∉ held (.handOver box :: todo) := by
        change other ∉ box :: held todo
        rw [List.mem_cons, not_or]
        exact ⟨here, free⟩
      rcases followed.current other value same going before with current | waits
      · by_cases on : value.device = inner.device
        · right
          have grab : w.currentInner inner.device = some (other, value) := by
            rw [← on]
            unfold Wrapper.currentInner
            rw [current, Option.bind_some, same, Option.map_some]
          unfold Wrapper.mayReplace at may
          rw [grab, Option.all_some, Bool.and_eq_true, beq_iff_eq, decide_eq_true_iff] at may
          exact ⟨may.1, .inl may.2⟩
        · left
          dsimp only
          rw [install_devices, if_neg on]
          exact current
      · exact .inr waits
  quiet := followed.quiet

theorem Followed.handOver {w : Wrapper} {todo : List Op} {base : Base} {box : GrabId}
    (sound : Sound w (.handOver box :: todo))
    (followed : Followed clientOf (w, .handOver box :: todo) base)
    (may : ∀ inner, w.boxes box = some inner → w.mayReplace clientOf inner.device) :
    Followed clientOf ((w.handOver box).1, (w.handOver box).2 ++ todo) base := by
  obtain ⟨inner, found, _⟩ := sound.held_cons
  have installed := followed.install sound found (may inner found)
  unfold Wrapper.handOver
  simp only [found]
  cases inner.device with
  | pointer seat =>
      refine installed.of_boxes ?_ (fun _ => id) (fun _ => id) (fun _ => .rfl)
      exact fun other value there going free => ⟨value, there, going, .refl value, free, id⟩
  | touch seat => exact installed

theorem Followed.takeOut {w : Wrapper} {todo : List Op} {base : Base} {box : GrabId}
    (followed : Followed clientOf (w, .takeOut box :: todo) base) :
    Followed clientOf (w.takeOut box, todo) base := by
  unfold Wrapper.takeOut
  cases w.boxes box with
  | none =>
      exact followed.of_fields (fun _ _ there _ => there) (fun _ => id) rfl rfl rfl fun _ => .rfl
  | some inner =>
      obtain ⟨boxes, devices, _, waiting, surfaces, _, queue⟩ := leaveActive_fields w box
      refine followed.of_fields ?_ (fun _ => id) devices waiting surfaces ?_
      · intro other value there _
        rwa [← boxes]
      · intro surfaces
        dsimp only
        rw [queue]
        simp

theorem Followed.retire {w : Wrapper} {base : Base} {box : GrabId}
    (followed : Followed clientOf (w, []) base) :
    Followed clientOf (w.retireSupersededPointerGrab box, []) base := by
  unfold Wrapper.retireSupersededPointerGrab
  cases found : w.boxes box with
  | none => exact followed
  | some inner =>
      dsimp only
      split
      · exact followed
      · obtain ⟨boxes, devices, _, waiting, surfaces, _, queue⟩ :=
          leaveActive_fields (w.setBox box { inner with ended := true }) box
        refine followed.of_fields ?_ (fun _ => id) devices waiting surfaces ?_
        · intro other value there going
          dsimp only at there
          rw [boxes] at there
          have different : other ≠ box := by
            rintro rfl
            have same : ({ inner with ended := true } : GrabInner) = value := by
              simpa [Wrapper.setBox] using there
            rw [← same] at going
            cases going
          simpa [Wrapper.setBox, different] using there
        · intro surfaces
          dsimp only
          rw [queue]
          exact .rfl

/-- A client answers: its busy grabs that were superseded are due. -/
theorem Followed.pong {w : Wrapper} {client : ClientId} {surfaces : List DesktopSurfaceId}
    (followed : Followed clientOf (w, []) .idle) (sound : Sound w [])
    (exact' : w.isClientSurfaces clientOf client surfaces) (may : w.mayPong clientOf client) :
    Followed clientOf ({ w.setUnresponsive surfaces false with
      waiting := w.waiting.filter fun c => c ≠ client
      queue := w.queue ++ [.pong surfaces] }, []) .drain where
  current box inner found going free := by
    have there : w.boxes box = some inner := found
    unfold Wrapper.isClientSurfaces at exact'
    rw [Bool.and_eq_true, List.all_eq_true, List.all_eq_true] at exact'
    by_cases current : (w.devices inner.device).current = some box
    · exact .inl current
    · right
      rcases followed.current box inner there going free with held | ⟨busy, waits | due⟩
      · exact absurd held current
      · refine ⟨busy, ?_⟩
        by_cases same : clientOf inner.surface = client
        · right
          have active : box ∈ w.activeGrabs := sound.mem_activeGrabs there going free
          have alive : w.known inner.surface := by
            have answered := List.all_eq_true.mp may box active
            simpa [there, busy, same, current] using answered
          have listed : inner.surface ∈ surfaces := by
            have key := exact'.2 inner.surface (AList.mem_keys.mp (AList.lookup_isSome.mp alive))
            simpa [same] using key
          refine ⟨alive, .inl ?_⟩
          cases surfaces with
          | nil => cases listed
          | cons first rest =>
              have head := exact'.1 first List.mem_cons_self
              simp only [Bool.and_eq_true, beq_iff_eq] at head
              exact ⟨first, rest, by simp, head.1, head.2.trans same.symm⟩
        · exact .inl (List.mem_filter.mpr ⟨waits, by simpa using same⟩)
      · obtain ⟨_, ⟨first, rest, queued, _⟩ | ⟨_, _, other, _⟩⟩ := due
        · exact absurd queued (followed.quiet (.inl rfl) _)
        · cases other
  quiet := by rintro (other | ⟨surface, other⟩) <;> cases other

/-! ### Other inputs -/

theorem Followed.of_same {w after : Wrapper} {todo : List Op} {base : Base}
    (followed : Followed clientOf (w, []) base) (boxes : ∀ box, after.boxes box = w.boxes box)
    (current : ∀ device, (after.devices device).current = (w.devices device).current)
    (waiting : ∀ client, client ∈ w.waiting → client ∈ after.waiting)
    (known : ∀ surface, w.known surface → after.known surface)
    (queue : ∀ surfaces, .pong surfaces ∈ after.queue ↔ .pong surfaces ∈ w.queue) :
    Followed clientOf (after, todo) base := by
  refine followed.of_boxes ?_ waiting known queue
  intro box inner found going _
  rw [boxes] at found
  refine ⟨inner, found, going, .refl inner, List.not_mem_nil, ?_⟩
  rw [current]
  exact id

/-- The surfaces that are resized, and with what edges, are no more than before. -/
private theorem Finishable.of_fewer {w after : Wrapper} (finishable : Finishable w)
    (resizing : ∀ surface, after.desktopSurfaces.lookup surface = some true →
      w.desktopSurfaces.lookup surface = some true)
    (edges : ∀ surface rec, after.recs.lookup surface = some rec → rec.resizeEdges ≠ 0 →
      ∃ old, w.recs.lookup surface = some old ∧ old.resizeEdges ≠ 0)
    (kept : ∀ box inner, w.boxes box = some inner → inner.kind = .resize → inner.ended = false →
      after.boxes box = some inner) : Finishable after := by
  have others : ∀ surface, Resized w surface → Resized after surface :=
    fun surface resized => resized.of_boxes fun box inner found kind _ going =>
      ⟨inner, kept box inner found kind going, .refl inner, going⟩
  constructor
  · exact fun surface there => others surface (finishable.resizing surface (resizing surface there))
  · intro surface rec there moved
    obtain ⟨old, before, same⟩ := edges surface rec there moved
    exact others surface (finishable.edges surface old before same)

/-! ### Events -/

/-- The answer that is taken off the queue goes to every grab that is busy now. -/
theorem Due.handled {w : Wrapper} {ev : Event} {queue : List Event} {base : Base} {box : GrabId}
    {inner : GrabInner} (sound : Sound w []) (found : w.boxes box = some inner)
    (going : inner.ended = false) (busy : inner.kind = .busy) (queued : w.queue = ev :: queue)
    (what : base = .drain ∨
      (∃ surfaces, ev = .pingTimeout surfaces ∧ base = .ping w.seats surfaces) ∨
      ∃ first rest, ev = .pong (first :: rest) ∧ w.known first ∧
        base = .pong w.busyGrabs (clientOf first) w.livePointers)
    (kept : ∀ first rest, ev = .pong (first :: rest) → w.known first → base ≠ .drain)
    (due : Due clientOf w .drain box inner) :
    Due clientOf { w with queue, handled := w.handled ++ [ev] } base box inner := by
  obtain ⟨alive, ⟨first, rest, member, known, client⟩ | ⟨_, _, other, _⟩⟩ := due
  · refine ⟨alive, ?_⟩
    rw [queued] at member
    rcases List.mem_cons.mp member with rfl | later
    · right
      have active : box ∈ w.activeGrabs := sound.mem_activeGrabs found going List.not_mem_nil
      rcases what with other | ⟨_, other, _⟩ | ⟨_, _, same, _, handling⟩
      · exact absurd other (kept first rest rfl known)
      · cases other
      · simp only [Event.pong.injEq, List.cons.injEq] at same
        rw [← same.1, client] at handling
        refine ⟨w.busyGrabs, w.livePointers, handling, ?_⟩
        exact List.mem_filterMap.mpr ⟨box, active, by simp [found, busy, going]⟩
    · exact .inl ⟨first, rest, later, known, client⟩
  · cases other

theorem Followed.handled {w : Wrapper} {ev : Event} {queue : List Event} {base : Base}
    (sound : Sound w []) (followed : Followed clientOf (w, []) .drain)
    (queued : w.queue = ev :: queue)
    (what : base = .drain ∨
      (∃ surfaces, ev = .pingTimeout surfaces ∧ base = .ping w.seats surfaces) ∨
      ∃ first rest, ev = .pong (first :: rest) ∧ w.known first ∧
        base = .pong w.busyGrabs (clientOf first) w.livePointers)
    (kept : ∀ first rest, ev = .pong (first :: rest) → w.known first → base ≠ .drain) :
    Followed clientOf ({ w with queue, handled := w.handled ++ [ev] }, []) base where
  current box inner found going free := by
    have there : w.boxes box = some inner := found
    rcases followed.current box inner there going free with current | ⟨busy, waits | due⟩
    · exact .inl current
    · exact .inr ⟨busy, .inl waits⟩
    · exact .inr ⟨busy, .inr (due.handled sound there going busy queued what kept)⟩
  quiet := by
    rcases what with rfl | ⟨_, _, rfl⟩ | ⟨_, _, _, _, rfl⟩ <;>
      rintro (other | ⟨surface, other⟩) <;> cases other

theorem Followed.removed {w : Wrapper} {surface : DesktopSurfaceId}
    (followed : Followed clientOf (w, []) (.removed surface)) :
    Followed clientOf
      ({ w with desktopSurfaces := w.desktopSurfaces.erase surface }, []) .drain where
  current box inner found going free := by
    have quiet := followed.quiet (.inr ⟨surface, rfl⟩)
    have there : w.boxes box = some inner := found
    rcases followed.current box inner there going free with current | ⟨busy, waits | due⟩
    · exact .inl current
    · exact .inr ⟨busy, .inl waits⟩
    · obtain ⟨_, ⟨first, rest, member, _⟩ | ⟨_, _, other, _⟩⟩ := due
      · exact absurd member (quiet _)
      · cases other
  quiet := by rintro (other | ⟨surface, other⟩) <;> cases other

/-! ### What can be finished -/

theorem Finishable.handOver {w : Wrapper} {box : GrabId} {inner : GrabInner}
    (finishable : Finishable w) (found : w.boxes box = some inner) :
    Finishable (w.handOver box).1 := by
  have installed : Finishable (w.install box inner) := by
    apply finishable.of_fewer
    · exact fun _ there => there
    · intro surface rec there moved
      obtain ⟨old, stored, same⟩ := @lookup_setRec w inner.surface surface
        (fun rec => { rec with grabbed := true }) rec there
      refine ⟨old, stored, ?_⟩
      rw [same] at moved
      split at moved <;> exact moved
    · exact fun _ _ there _ _ => there
  unfold Wrapper.handOver
  simp only [found]
  cases inner.device with
  | pointer seat => exact installed
  | touch seat => exact installed

theorem Finishable.takeOut {w : Wrapper} (finishable : Finishable w) (box : GrabId) :
    Finishable (w.takeOut box) := by
  unfold Wrapper.takeOut
  cases w.boxes box with
  | none => exact finishable
  | some inner =>
      obtain ⟨boxes, _, _, _, surfaces, recs, _⟩ := leaveActive_fields w box
      apply finishable.of_fewer
      · intro surface there
        rwa [← surfaces]
      · intro surface rec there moved
        exact ⟨rec, by rwa [← recs], moved⟩
      · intro other value there _ _
        dsimp only
        rwa [boxes]

/-- A busy grab finishes no resize. -/
theorem Finishable.retire {w : Wrapper} {box : GrabId} {stored : GrabInner}
    (finishable : Finishable w) (found : w.boxes box = some stored)
    (kind : stored.kind = .busy) : Finishable (w.retireSupersededPointerGrab box) := by
  unfold Wrapper.retireSupersededPointerGrab
  simp only [found]
  split
  · exact finishable
  · obtain ⟨boxes, _, _, _, surfaces, recs, _⟩ :=
      leaveActive_fields (w.setBox box { stored with ended := true }) box
    apply finishable.of_fewer
    · intro other there
      dsimp only at there
      rw [surfaces] at there
      exact there
    · intro other rec there moved
      dsimp only at there
      rw [recs] at there
      exact ⟨rec, there, moved⟩
    · intro other value there isResize _
      have different : other ≠ box := by
        rintro rfl
        obtain rfl := Option.some.inj (there.symm.trans found)
        rw [kind] at isResize
        cases isResize
      dsimp only
      rw [boxes]
      have old : w.boxes other = some value := there
      simp [Wrapper.setBox, different, old]

/-! ### Every step -/

theorem Transition.followed {m next : Machine} {label : Label}
    (transition : Transition clientOf m label next) (sound : m.Sound)
    (followed : Followed clientOf (m.wrapper, m.todo) m.base)
    (replaces : ∀ box todo inner, m.todo = .handOver box :: todo →
      m.wrapper.boxes box = some inner → m.wrapper.mayReplace clientOf inner.device)
    (answers : ∀ client surfaces, m.todo = [] → label = .input (.pong client surfaces) →
      m.wrapper.mayPong clientOf client) :
    Followed clientOf (next.wrapper, next.todo) next.base := by
  have before := sound.sound
  have idle : ∀ {w : Wrapper} {todo : List Op}, Followed clientOf (w, todo) .idle →
      Followed clientOf (w, todo) .drain :=
    fun followed => followed.drain fun _ _ _ other => by cases other
  cases transition with
  | call _ changes => exact Changes.followed changes followed
  | handOver => exact followed.handOver before fun inner found => replaces _ _ inner rfl found
  | takeOut => exact followed.takeOut
  | request _ changes => exact idle (Changes.followed changes followed)
  | @surfaceAdded w surface _ =>
      refine idle (followed.of_same (fun _ => rfl) (fun _ => rfl) (fun _ => id) ?_ (fun _ => .rfl))
      intro other known
      unfold Wrapper.known
      dsimp only
      rw [AssocMap.lookup_insert]
      split
      · rfl
      · exact known
  | @surfaceRemoved w surface _ =>
      have erased : Followed clientOf
          ({ w with recs := w.recs.erase surface }, [.callbacks]) .idle :=
        followed.of_same (fun _ => rfl) (fun _ => rfl) (fun _ => id) (fun _ => id) (fun _ => .rfl)
      exact erased.onward (fun _ _ _ other => by cases other) fun _ => followed.quiet (.inl rfl)
  | pingTimeout _ =>
      refine idle (followed.of_same (fun _ => rfl) (fun _ => rfl) ?_ (fun _ => id) ?_)
      · exact fun other member => List.mem_cons_of_mem _ member
      · intro surfaces
        simp
  | pong exact' => exact followed.pong before exact' (answers _ _ rfl rfl)
  | seatAdded | seatGone _ _ =>
      exact idle
        (followed.of_same (fun _ => rfl) (fun _ => rfl) (fun _ => id) (fun _ => id) fun _ => .rfl)
  | @plug w device seated =>
      refine idle (followed.of_same (fun _ => rfl) ?_ (fun _ => id) (fun _ => id) (fun _ => .rfl))
      intro other
      rw [setDevice_devices]
      split
      · rename_i here
        rw [here]
      · rfl
  | @unplug w device after changes none free =>
      have cancelled := Changes.followed changes followed
      refine idle (cancelled.of_boxes ?_ (fun _ => id) (fun _ => id) (fun _ => .rfl))
      intro box inner found going unheld
      refine ⟨inner, found, going, .refl inner, unheld, ?_⟩
      rw [setDevice_devices]
      split
      · rename_i here
        rw [here]
        exact id
      · exact id
  | @drained w empty =>
      have freed : Followed clientOf
          ({ w with pendingDrop := [], freed := w.freed ++ w.pendingDrop }, []) .drain :=
        followed.of_same (fun _ => rfl) (fun _ => rfl) (fun _ => id) (fun _ => id) (fun _ => .rfl)
      apply freed.onward
      · exact fun _ _ _ other => by cases other
      · intro _ surfaces
        dsimp only
        rw [empty]
        exact List.not_mem_nil
  | handled queued what kept => exact followed.handled before queued what kept
  | removed => exact followed.removed
  | @ping w seat seats surfaces after changes =>
      apply (Changes.followed changes followed).onward
      · exact fun _ _ _ other => by cases other
      · rintro (other | ⟨surface, other⟩) <;> cases other
  | pinged => exact followed.drain fun _ _ _ other => by cases other
  | ended changes done =>
      apply (Changes.followed changes followed).visited
      intro alive
      rw [(Changes.later changes before).known] at alive
      exact done alive
  | @retired w box surface busy client live _ =>
      obtain ⟨⟨stored, found, _⟩, _⟩ :=
        sound.snapshots _ client live rfl (box, surface) List.mem_cons_self
      exact followed.retire.visited fun _ _ => retire_ended found
  | ponged =>
      apply followed.drain
      intro busy client live same
      simp only [Base.pong.injEq] at same
      exact same.1.symm

theorem Transition.finishable {m next : Machine} {label : Label}
    (transition : Transition clientOf m label next) (sound : m.Sound)
    (finishable : Finishable m.wrapper) : Finishable next.wrapper := by
  have before := sound.sound
  cases transition with
  | call _ changes | request _ changes | ping changes | ended changes _ =>
      exact Changes.finishable changes before finishable
  | unplug changes _ _ =>
      have cancelled := Changes.finishable changes before finishable
      exact ⟨cancelled.resizing, cancelled.edges⟩
  | handOver =>
      obtain ⟨inner, found, _⟩ := before.held_cons
      exact finishable.handOver found
  | takeOut => exact finishable.takeOut _
  | surfaceAdded _ =>
      apply finishable.of_fewer
      · intro other there
        dsimp only at there
        rw [AssocMap.lookup_insert] at there
        split at there
        · cases there
        · exact there
      · intro other rec there moved
        dsimp only at there
        rw [AssocMap.lookup_insert] at there
        split at there
        · obtain rfl := Option.some.inj there
          exact absurd rfl moved
        · exact ⟨rec, there, moved⟩
      · exact fun _ _ there _ _ => there
  | surfaceRemoved _ =>
      apply finishable.of_fewer
      · exact fun _ there => there
      · exact fun _ rec there moved =>
          ⟨rec, (AssocMap.lookup_erase_eq_some.mp there).2, moved⟩
      · exact fun _ _ there _ _ => there
  | pingTimeout _ | pong _ =>
      apply finishable.of_fewer
      · exact fun _ there => there
      · intro other rec there moved
        unfold Wrapper.setUnresponsive at there
        dsimp only at there
        rw [AssocMap.lookup_update] at there
        obtain ⟨old, stored, same⟩ := Option.map_eq_some_iff.mp there
        refine ⟨old, stored, ?_⟩
        rw [← same] at moved
        split at moved <;> exact moved
      · exact fun _ _ there _ _ => there
  | removed =>
      apply finishable.of_fewer
      · exact fun _ there => (AssocMap.lookup_erase_eq_some.mp there).2
      · exact fun _ rec there moved => ⟨rec, there, moved⟩
      · exact fun _ _ there _ _ => there
  | @retired w box surface busy client live _ =>
      obtain ⟨⟨stored, found, kind, _⟩, _⟩ :=
        sound.snapshots _ client live rfl (box, surface) List.mem_cons_self
      exact finishable.retire found kind
  | seatAdded | seatGone _ _ | plug _ | drained _ | handled _ _ _ =>
      exact ⟨finishable.resizing, finishable.edges⟩
  | pinged | ponged => exact finishable

/-! ### Runs -/

theorem OrderlyStep.taken {m next : Machine} {label : Label}
    (stepped : OrderlyStep clientOf m label next) :
    m.orderly clientOf label ∧ Machine.Step clientOf m label next := by
  unfold OrderlyStep Machine.orderlyStep at stepped
  split at stepped
  · rename_i orderly
    exact ⟨orderly, stepped⟩
  · cases stepped

private theorem orderly_replaces {m : Machine} {label : Label} (orderly : m.orderly clientOf label)
    {box : GrabId} {todo : List Op} {inner : GrabInner} (next : m.todo = .handOver box :: todo)
    (found : m.wrapper.boxes box = some inner) : m.wrapper.mayReplace clientOf inner.device := by
  unfold Machine.orderly at orderly
  simpa [next, found] using orderly

private theorem orderly_answers {m : Machine} {client : ClientId} {surfaces : List DesktopSurfaceId}
    (orderly : m.orderly clientOf (.input (.pong client surfaces))) (quiet : m.todo = []) :
    m.wrapper.mayPong clientOf client := by
  unfold Machine.orderly at orderly
  simpa [quiet] using orderly

theorem orderly_run {labels : List Label} {final : Machine}
    (run : Run (OrderlyStep clientOf) .start labels final) :
    final.Sound ∧ Followed clientOf (final.wrapper, final.todo) final.base ∧
      Finishable final.wrapper := by
  induction run with
  | nil =>
      refine ⟨⟨.new, fun _ _ _ other => by cases other⟩, ⟨?_, ?_⟩, ⟨?_, ?_⟩⟩
      · exact fun _ _ found => by cases found
      · exact fun _ _ => List.not_mem_nil
      · exact fun _ found => by cases found
      · exact fun _ _ found => by cases found
  | snoc _ stepped ih =>
      obtain ⟨sound, followed, finishable⟩ := ih
      obtain ⟨orderly, taken⟩ := stepped.taken
      have transition := step_transition sound taken
      refine ⟨transition.sound sound, ?_, transition.finishable sound finishable⟩
      apply transition.followed sound followed
      · exact fun _ _ _ next found => orderly_replaces orderly next found
      · rintro client surfaces quiet rfl
        exact orderly_answers orderly quiet

/-- Where no grab replaces one that has work to do, and every superseded busy
grab is on a live surface when its client answers, nothing is stranded once all
events are handled. -/
theorem orderly_run_strands_nothing {labels : List Label} {final : Machine}
    (run : Run (OrderlyStep clientOf) .start labels final) (boundary : final.todo = [])
    (idle : final.base = .idle) : final.wrapper.NothingStranded clientOf := by
  obtain ⟨⟨sound, _⟩, followed, finishable⟩ := orderly_run run
  rw [boundary] at sound followed
  rw [idle] at followed
  have going : ∀ box inner, final.wrapper.boxes box = some inner → inner.ended = false →
      (final.wrapper.devices inner.device).current = some box ∨
        inner.kind = .busy ∧ clientOf inner.surface ∈ final.wrapper.waiting := by
    intro box inner found alive
    rcases followed.current box inner found alive List.not_mem_nil with
      current | ⟨busy, waits | due⟩
    · exact .inl current
    · exact .inr ⟨busy, waits⟩
    · obtain ⟨_, ⟨first, rest, queued, _⟩ | ⟨_, _, other, _⟩⟩ := due
      · exact absurd queued (followed.quiet (.inl rfl) _)
      · cases other
  have plugged : ∀ device box, (final.wrapper.devices device).current = some box →
      (final.wrapper.devices device).plugged := by
    intro device box current
    by_contra absent
    rw [sound.unplugged device (by simpa using absent)] at current
    cases current
  constructor
  · intro surface marked
    have resized : Resized final.wrapper surface := by
      rcases marked with there | ⟨rec, there, moved⟩
      · exact finishable.resizing surface there
      · exact finishable.edges surface rec there moved
    obtain ⟨box, inner, found, kind, on, alive⟩ := resized
    obtain ⟨seat, pointer⟩ := sound.onPointer box inner found (by simp [kind])
    rcases going box inner found alive with current | ⟨busy, _⟩
    · rw [pointer] at current
      refine ⟨seat, box, inner, found, kind, on, alive, plugged _ box current, current, ?_⟩
      have grab : final.wrapper.currentInner (.pointer seat) = some (box, inner) := by
        unfold Wrapper.currentInner
        rw [current, Option.bind_some, found, Option.map_some]
      unfold Wrapper.cancelGrab
      simp only [grab, kind]
    · rw [kind] at busy
      cases busy
  · intro box active
    have place := sound.places box
    have ended := sound.ended box
    have positive := List.count_pos_iff.mpr active
    have bounded : box < final.wrapper.nextBox := by
      by_contra outside
      rw [if_neg outside] at place
      omega
    obtain ⟨inner, found⟩ := Option.isSome_iff_exists.mp ((sound.allocated box).mpr bounded)
    have leaving : (leaving []).count box = 0 := rfl
    rw [if_pos bounded] at place
    have alive : inner.ended = false := by
      unfold Wrapper.endedCount at ended
      rw [found, Option.map_some, Option.getD_some] at ended
      cases value : inner.ended with
      | false => rfl
      | true =>
          rw [value, Bool.toNat_true] at ended
          omega
    refine ⟨inner, found, ?_⟩
    rcases going box inner found alive with current | waits
    · exact .inl ⟨inner.device, plugged _ box current, current⟩
    · exact .inr waits

/-- A window is resized and let go. -/
theorem orderly_run_strands_nothing_resized :
    ∃ labels final, Run (OrderlyStep fun _ => 0) .start labels final ∧ final.todo = [] ∧
      final.base = .idle ∧ final.wrapper.endedGrabs = [0] ∧
      final.wrapper.NothingStranded fun _ => 0 := by
  let surface : DesktopSurfaceId := ⟨⟨0, 1⟩⟩
  let seat : SeatId := ⟨⟨0, 1⟩⟩
  let labels : List Label :=
    [.input (.seatAdded seat), .run, .input (.plug (.pointer seat)), .run,
      .input (.surfaceAdded surface), .run,
      .input (.deviceMoved (.pointer seat) (some ⟨some surface, some surface⟩) 1 7 (0, 0)), .run,
      .input (.resizeRequest surface seat 7 8 (100, 100)), .proceed, .run, .picked none, .run,
      .input (.callback (.button seat 0 272 false)), .proceed, .run, .run, .run]
  have reached : (follow (Machine.orderlyStep fun _ => 0) .start labels).map (fun final =>
      (final.todo, final.base, final.wrapper.endedGrabs)) = some ([], .idle, [0]) := by
    decide
  obtain ⟨final, found, same⟩ := Option.map_eq_some_iff.mp reached
  simp only [Prod.mk.injEq] at same
  obtain ⟨boundary, idle, ended⟩ := same
  have run := run_of_follow found
  exact ⟨labels, final, run, boundary, idle, ended, orderly_run_strands_nothing run boundary idle⟩

/-- A ping times out while the window under the pointer is resized: the busy
grab replaces the resize, which is then in nobody's hands. -/
theorem busy_grab_strands_resize :
    ∃ labels final, Run (Machine.Step fun _ => 0) .start labels final ∧ final.todo = [] ∧
      final.base = .idle ∧ ¬ final.wrapper.NothingStranded fun _ => 0 := by
  let surface : DesktopSurfaceId := ⟨⟨0, 1⟩⟩
  let seat : SeatId := ⟨⟨0, 1⟩⟩
  let labels : List Label :=
    [.input (.seatAdded seat), .run, .input (.plug (.pointer seat)), .run,
      .input (.surfaceAdded surface), .run,
      .input (.deviceMoved (.pointer seat) (some ⟨some surface, some surface⟩) 1 7 (0, 0)), .run,
      .input (.resizeRequest surface seat 7 8 (100, 100)), .proceed, .run, .picked none, .run,
      .input (.pingTimeout 0 [surface]), .run, .run, .proceed, .run, .picked (some surface), .run,
      .run, .run]
  have reached : (follow (Machine.step fun _ => 0) .start labels).map (fun final =>
      (final.todo, final.base, final.wrapper.activeGrabs,
        (final.wrapper.boxes 0).map fun inner => (inner.device, inner.kind),
        (final.wrapper.devices (.pointer seat)).current)) =
      some ([], .idle, [0, 1], some (.pointer seat, .resize), some 1) := by
    rfl
  obtain ⟨final, found, same⟩ := Option.map_eq_some_iff.mp reached
  simp only [Prod.mk.injEq] at same
  obtain ⟨boundary, idle, active, box, current⟩ := same
  have run := run_of_follow found
  refine ⟨labels, final, run, boundary, idle, ?_⟩
  intro nothing
  obtain ⟨inner, stored, what⟩ := nothing.grabs 0 (by simp [active])
  rw [stored, Option.map_some, Option.some.injEq, Prod.mk.injEq] at box
  rcases what with ⟨device, _, held⟩ | ⟨busy, _⟩
  · obtain ⟨value, there, on, _⟩ := (run_sound run).sound.current device 0 held
    obtain rfl := Option.some.inj (there.symm.trans stored)
    rw [← on, box.1, current] at held
    cases held
  · rw [box.2] at busy
    cases busy

end Westonite.Grab
