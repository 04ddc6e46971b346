import Westonite.Grab.Answers

/-! A `Pong` whose surfaces may have died before it is handled: which busy cursors it
takes away. -/

set_option autoImplicit false

namespace Westonite.Grab

open Library

variable {clientOf : DesktopSurfaceId → ClientId} {before : Wrapper} {client : ClientId}

/-! ### One step of the loop -/

theorem Answering.narrow {frame : Frame} {busy rest : List (GrabId × DesktopSurfaceId)}
    (answering : Answering clientOf before client busy frame)
    (listed : ∀ seat box inner, (frame.1.devices (.pointer seat)).current = some box →
      frame.1.boxes box = some inner → inner.kind = .busy → frame.1.known inner.surface →
      clientOf inner.surface = client → (box, inner.surface) ∈ rest) :
    Answering clientOf before client rest frame :=
  ⟨answering.later, answering.responsive, answering.current, listed, answering.spares⟩

private theorem busyGrabs_inner {w : Wrapper} {box : GrabId} {surface : DesktopSurfaceId}
    (member : (box, surface) ∈ w.busyGrabs) :
    ∃ inner, w.boxes box = some inner ∧ inner.kind = .busy ∧ inner.surface = surface := by
  obtain ⟨other, _, chosen⟩ := List.mem_filterMap.mp member
  obtain ⟨inner, found, tested⟩ := Option.bind_eq_some_iff.mp chosen
  split at tested
  · rename_i busy
    simp only [Option.some.injEq, Prod.mk.injEq] at tested
    obtain ⟨rfl, rfl⟩ := tested
    exact ⟨inner, found, busy.1, rfl⟩
  · cases tested

/-- The grab that a turn of the loop ends was on a pointer that showed the client busy. -/
private theorem Answering.onBusy {w : Wrapper} {busy : List (GrabId × DesktopSurfaceId)}
    {box : GrabId} {surface : DesktopSurfaceId} {device : Device}
    (answering : Answering clientOf before client busy (w, [])) (sound : Sound before [])
    (entry : (box, surface) ∈ before.busyGrabs) (known : w.known surface)
    (same : clientOf surface = client) (live : device.seat ∈ before.livePointers)
    (current : (w.devices device).current = some box) : before.OnBusy clientOf client device := by
  by_contra apart
  have already := (answering.current device apart).symm.trans current
  obtain ⟨inner, found, on, _⟩ := sound.current device box already
  obtain ⟨value, there, kind, about⟩ := busyGrabs_inner entry
  obtain rfl := Option.some.inj (there.symm.trans found)
  obtain ⟨seat, pointer⟩ := sound.onPointer box value found (by simp [kind])
  have here : device = .pointer seat := on.symm.trans pointer
  subst here
  refine apart ⟨seat, rfl, live, box, value, ?_, kind, ?_, ?_⟩
  · unfold Wrapper.currentInner
    rw [already, Option.bind_some, found, Option.map_some]
  · rw [about, ← answering.later.known]
    exact known
  · rw [about]
    exact same

theorem Answering.pongOne {w : Wrapper} {busy : List (GrabId × DesktopSurfaceId)} {box : GrabId}
    {surface : DesktopSurfaceId}
    (answering : Answering clientOf before client ((box, surface) :: busy) (w, []))
    (soundBefore : Sound before []) (sound : Sound w [])
    (snapshot : Snapshot w [] box surface before.livePointers)
    (entry : (box, surface) ∈ before.busyGrabs) :
    Answering clientOf before client busy
      ((w.pongOne clientOf client before.livePointers box surface).1,
        (w.pongOne clientOf client before.livePointers box surface).2) := by
  have rest : ∀ other ∈ (box, surface) :: busy, other.1 ≠ box → other ∈ busy := by
    intro other member different
    rcases List.mem_cons.mp member with rfl | member
    · exact absurd rfl different
    · exact member
  obtain ⟨inner, found, kind, _⟩ := snapshot.stored
  unfold Wrapper.pongOne
  split
  · rename_i unknown
    apply answering.narrow
    intro seat other value current there busyKind known same
    rcases List.mem_cons.mp (answering.listed seat other value current there busyKind known same)
      with here | member
    · simp only [Prod.mk.injEq] at here
      rw [here.2] at known
      simp [known] at unknown
    · exact member
  · rename_i known
    split
    · rename_i different
      apply answering.narrow
      intro seat other value current there busyKind known same
      rcases List.mem_cons.mp
        (answering.listed seat other value current there busyKind known same) with here | member
      · simp only [Prod.mk.injEq] at here
        rw [here.2] at same
        exact absurd same different
      · exact member
    · rename_i same
      simp only [found]
      split
      · rename_i current
        obtain ⟨value, there, _, going, _⟩ := sound.current _ _ current.2
        obtain rfl := Option.some.inj (there.symm.trans found)
        have on := answering.onBusy soundBefore entry (by simpa using known)
          (by simpa using same) current.1 current.2
        have ended := answering.endGrab sound found going current.2 on rest
        rw [List.append_nil] at ended
        exact ended
      · rename_i elsewhere
        exact answering.retire (snapshot.superseded sound found kind elsewhere) rest

theorem Answering.regrabbed {m : Machine} {busy : List (GrabId × DesktopSurfaceId)}
    (answering : Answering clientOf before client busy (m.wrapper, m.todo)) {device : Device}
    (regrabbed : m.regrabbed = some device) : before.OnBusy clientOf client device := by
  unfold Machine.regrabbed at regrabbed
  split at regrabbed
  · rename_i box rest next
    obtain ⟨inner, found, rfl⟩ := Option.map_eq_some_iff.mp regrabbed
    exact answering.spares (.takeOut box) (by rw [next]; simp) inner found
  · rename_i box rest next
    obtain ⟨inner, found, rfl⟩ := Option.map_eq_some_iff.mp regrabbed
    exact (answering.spares (.handOver box) (by rw [next]; simp) inner found).1
  · cases regrabbed

/-! ### The whole loop -/

/-- In the middle of the handling of a `Pong`, or at its end. -/
def Midway (clientOf : DesktopSurfaceId → ClientId) (before : Wrapper) (client : ClientId)
    (m : Machine) : Prop :=
  (∃ busy, m.base = .pong busy client before.livePointers ∧ busy ⊆ before.busyGrabs ∧
    Answering clientOf before client busy (m.wrapper, m.todo)) ∨
  m.boundary ∧ Answering clientOf before client [] (m.wrapper, m.todo)

private theorem HandlingStep.midway {m next : Machine} {label : Label}
    (stepped : HandlingStep clientOf m label next) (soundBefore : Sound before [])
    (whole : m.Sound) (midway : Midway clientOf before client m) :
    Midway clientOf before client next := by
  obtain ⟨inside, refocus, taken⟩ := stepped
  obtain ⟨busy, looping, listed, answering⟩ := midway.resolve_right fun done => inside done.1
  have regrabbed := fun device =>
    @Answering.regrabbed clientOf before client m busy answering device
  obtain ⟨w, todo, base⟩ := m
  dsimp only at looping
  subst looping
  have sound : Sound w todo := whole.sound
  unfold Machine.Step Machine.step at taken
  dsimp only at taken answering
  have going : ∀ {after : Frame}, Answering clientOf before client busy after →
      Midway clientOf before client ⟨after.1, after.2, .pong busy client before.livePointers⟩ :=
    fun answering => .inl ⟨busy, rfl, listed, answering⟩
  cases todo with
  | nil =>
      cases label with
      | run =>
          cases busy with
          | nil =>
              obtain rfl := Option.some.inj taken
              exact .inr ⟨⟨rfl, rfl⟩, answering⟩
          | cons entry busy =>
              obtain ⟨box, surface⟩ := entry
              obtain rfl := Option.some.inj taken
              have snapshot := whole.snapshots _ client _ rfl (box, surface) List.mem_cons_self
              exact .inl ⟨busy, rfl, List.subset_of_cons_subset listed,
                answering.pongOne soundBefore sound snapshot (listed List.mem_cons_self)⟩
      | input input =>
          dsimp only at taken
          rw [if_neg (by simp)] at taken
          cases taken
      | call | proceed | picked => cases taken
  | cons op todo =>
      cases op with
      | callbacks =>
          cases label with
          | call call =>
              obtain ⟨seat, focus, rfl, here⟩ := refocus call rfl
              have on := regrabbed _ here
              obtain rfl := Option.some.inj taken
              have moved : Change (w, .callbacks :: todo)
                  (w.setDevice (.pointer seat) fun state => { state with focus },
                    .callbacks :: todo) := .moved fun _ => ⟨rfl, rfl⟩
              exact going
                ((answering.setFocus seat focus).onPointerFocus (moved.sound sound) on focus)
          | proceed =>
              obtain rfl := Option.some.inj taken
              exact going (answering.drop rfl)
          | run | input | picked => cases taken
      | startFocus seat =>
          cases label with
          | picked surface =>
              have on := answering.spares (.startFocus seat) List.mem_cons_self
              obtain rfl := Option.some.inj taken
              exact going ((answering.drop rfl).grabFocus (sound.sameTodo rfl rfl) on surface)
          | run | input | call | proceed => cases taken
      | handOver box =>
          cases label with
          | run =>
              obtain rfl := Option.some.inj taken
              exact going (answering.handOver sound)
          | input | call | proceed | picked => cases taken
      | ungrab surface =>
          cases label with
          | run =>
              obtain rfl := Option.some.inj taken
              have released : Answering clientOf before client busy
                  (w.setRec surface fun rec => { rec with grabbed := false }, todo) :=
                (answering.drop rfl).setRec surface fun _ => rfl
              exact going released
          | input | call | proceed | picked => cases taken
      | takeOut box =>
          cases label with
          | run =>
              obtain rfl := Option.some.inj taken
              exact going answering.takeOut
          | input | call | proceed | picked => cases taken

private theorem handling_midway {m after : Machine} {labels : List Label}
    (soundBefore : Sound before [])
    (run : Run (HandlingStep clientOf) m labels after) (whole : m.Sound)
    (midway : Midway clientOf before client m) :
    after.Sound ∧ Midway clientOf before client after := by
  induction run with
  | nil => exact ⟨whole, midway⟩
  | snoc _ stepped ih =>
      obtain ⟨sound, midway⟩ := ih
      exact ⟨(step_transition sound stepped.taken).sound sound,
        stepped.midway soundBefore sound midway⟩

/-- The loop ends when libweston returns from every call. -/
private theorem handling_ends (busy : List (GrabId × DesktopSurfaceId)) (live : List SeatId)
    (w : Wrapper) :
    ∃ labels after, Run (HandlingStep clientOf) ⟨w, [], .pong busy client live⟩ labels after ∧
      after.boundary := by
  have step : ∀ {todo : List Op} {base : Base} {now : Wrapper} {label : Label} {next : Machine},
      base ≠ .drain → (∀ call, label ≠ .call call) →
      Machine.step clientOf ⟨now, todo, base⟩ label = some next →
      HandlingStep clientOf ⟨now, todo, base⟩ label next := fun apart silent taken =>
    ⟨fun done => apart done.2, fun call same => absurd same (silent call), taken⟩
  induction busy generalizing w with
  | nil =>
      refine ⟨[.run], ⟨w, [], .drain⟩, .single (step (by simp) (by simp) rfl), rfl, rfl⟩
  | cons entry busy ih =>
      obtain ⟨box, surface⟩ := entry
      have turn : HandlingStep clientOf ⟨w, [], .pong ((box, surface) :: busy) client live⟩ .run
          ⟨(w.pongOne clientOf client live box surface).1,
            (w.pongOne clientOf client live box surface).2, .pong busy client live⟩ :=
        step (by simp) (by simp) rfl
      have ops : (w.pongOne clientOf client live box surface).2 = [] ∨
          (w.pongOne clientOf client live box surface).2 = [.callbacks, .takeOut box] ∨
          (w.pongOne clientOf client live box surface).2 = [.takeOut box] := by
        unfold Wrapper.pongOne Wrapper.endGrab
        split
        · exact .inl rfl
        · split
          · exact .inl rfl
          · split
            · exact .inl rfl
            · split
              · split
                · exact .inl rfl
                · split
                  · exact .inl rfl
                  · split
                    · exact .inr (.inl rfl)
                    · exact .inr (.inr rfl)
              · exact .inl rfl
      generalize w.pongOne clientOf client live box surface = turned at turn ops
      obtain ⟨now, todo⟩ := turned
      dsimp only at turn ops
      rcases ops with rfl | rfl | rfl
      · obtain ⟨labels, after, run, boundary⟩ := ih now
        exact ⟨.run :: labels, after, .cons turn run, boundary⟩
      · obtain ⟨labels, after, run, boundary⟩ := ih (now.takeOut box)
        refine ⟨.run :: .proceed :: .run :: labels, after, .cons turn ?_, boundary⟩
        exact .cons (step (by simp) (by simp) rfl) (.cons (step (by simp) (by simp) rfl) run)
      · obtain ⟨labels, after, run, boundary⟩ := ih (now.takeOut box)
        refine ⟨.run :: .run :: labels, after, .cons turn ?_, boundary⟩
        exact .cons (step (by simp) (by simp) rfl) run

/-! ### The event -/

/-- The wrapper once the event in front of its queue is taken out. -/
def Wrapper.popped (w : Wrapper) (ev : Event) (queue : List Event) : Wrapper :=
  { w with queue, handled := w.handled ++ [ev] }

private theorem drainTurn_known {w : Wrapper} {first : DesktopSurfaceId}
    {others : List DesktopSurfaceId} {queue : List Event}
    (queued : w.queue = .pong (first :: others) :: queue) (known : w.known first) :
    w.drainTurn clientOf = (w.popped (.pong (first :: others)) queue,
      .pong w.busyGrabs (clientOf first) w.livePointers) := by
  unfold Wrapper.drainTurn
  simp only [queued]
  exact if_pos known

private theorem drainTurn_unknown {w : Wrapper} {payload : List DesktopSurfaceId}
    {queue : List Event}
    (queued : w.queue = .pong payload :: queue)
    (dead : ∀ first, payload.head? = some first → w.known first = false) :
    w.drainTurn clientOf = (w.popped (.pong payload) queue, .drain) := by
  unfold Wrapper.drainTurn
  cases payload with
  | nil => simp only [queued]; rfl
  | cons first others =>
      simp only [queued]
      exact if_neg (Bool.eq_false_iff.mp (dead first rfl))

theorem Handles.turned {m after : Machine} (handles : Handles clientOf m after)
    (boundary : m.boundary) :
    ∃ labels, Run (HandlingStep clientOf) ⟨(m.wrapper.drainTurn clientOf).1, [],
      (m.wrapper.drainTurn clientOf).2⟩ labels after ∧ after.boundary := by
  obtain ⟨turned, labels, taken, run, done⟩ := handles
  obtain ⟨w, todo, base⟩ := m
  obtain ⟨quiet, draining⟩ := boundary
  dsimp only at quiet draining
  subst quiet draining
  obtain rfl := Option.some.inj taken
  exact ⟨labels, run, done⟩

private theorem handles_of_turned {m after : Machine} {labels : List Label} (boundary : m.boundary)
    (run : Run (HandlingStep clientOf) ⟨(m.wrapper.drainTurn clientOf).1, [],
      (m.wrapper.drainTurn clientOf).2⟩ labels after) (done : after.boundary) :
    Handles clientOf m after := by
  obtain ⟨w, todo, base⟩ := m
  obtain ⟨quiet, draining⟩ := boundary
  dsimp only at quiet draining
  subst quiet draining
  exact ⟨_, labels, rfl, run, done⟩

/-- With a live surface in front, the busy cursors of the client end. -/
theorem pong_answers {m : Machine} {first : DesktopSurfaceId} {others : List DesktopSurfaceId}
    {queue : List Event} (sound : Sound m.wrapper []) (boundary : m.boundary)
    (queued : m.wrapper.queue = .pong (first :: others) :: queue)
    (known : m.wrapper.known first)
    (responsive : m.wrapper.Responsive clientOf (clientOf first)) :
    (∃ after, Handles clientOf m after) ∧ ∀ after, Handles clientOf m after →
      Answered clientOf (clientOf first) m.wrapper after.wrapper := by
  have turn := @drainTurn_known clientOf m.wrapper first others queue queued known
  have popped : Sound (m.wrapper.popped (.pong (first :: others)) queue) [] := by
    apply sound.same
    refine ⟨rfl, rfl, rfl, rfl, rfl, rfl, rfl, ?_, rfl, fun _ => rfl, fun _ => rfl⟩
    unfold Wrapper.popped
    rw [queued, List.append_assoc]
    rfl
  constructor
  · obtain ⟨labels, after, run, done⟩ := @handling_ends clientOf (clientOf first)
      m.wrapper.busyGrabs m.wrapper.livePointers
      (m.wrapper.popped (.pong (first :: others)) queue)
    refine ⟨after, @handles_of_turned clientOf m after labels boundary ?_ done⟩
    rw [turn]
    exact run
  · intro after handles
    obtain ⟨labels, run, done⟩ := handles.turned boundary
    rw [turn] at run
    have whole : Machine.Sound ⟨m.wrapper.popped (.pong (first :: others)) queue, [],
        .pong m.wrapper.busyGrabs (clientOf first) m.wrapper.livePointers⟩ := by
      refine ⟨popped, ?_⟩
      intro busy client live same entry member
      simp only [Base.pong.injEq] at same
      obtain ⟨rfl, rfl, rfl⟩ := same
      exact popped.busyGrabs member
    have initial : Answering clientOf (m.wrapper.popped (.pong (first :: others)) queue)
        (clientOf first) m.wrapper.busyGrabs
        (m.wrapper.popped (.pong (first :: others)) queue, []) := by
      refine ⟨.refl _, responsive, fun _ _ => rfl, ?_, fun _ member => by cases member⟩
      intro seat box inner current found kind _ _
      obtain ⟨value, there, _, going, free⟩ := popped.current (.pointer seat) box current
      obtain rfl := Option.some.inj (there.symm.trans found)
      have active := popped.mem_activeGrabs found going free
      apply List.mem_filterMap.mpr
      refine ⟨box, active, ?_⟩
      have stored : m.wrapper.boxes box = some value := found
      simp [stored, kind, going]
    obtain ⟨_, looping | ⟨_, answering⟩⟩ := handling_midway popped run whole
      (.inl ⟨_, rfl, List.Subset.refl _, initial⟩)
    · obtain ⟨_, still, _⟩ := looping
      rw [done.2] at still
      cases still
    · refine ⟨?_, answering.current⟩
      rintro seat ⟨_, box, inner, current, kind, alive, same⟩
      obtain ⟨other, there, mapped⟩ := Option.bind_eq_some_iff.mp current
      obtain ⟨value, found, pair⟩ := Option.map_eq_some_iff.mp mapped
      simp only [Prod.mk.injEq] at pair
      obtain ⟨rfl, rfl⟩ := pair
      cases answering.listed seat other value there found kind alive same

/-- With a dead surface in front, nothing ends. -/
theorem pong_ignored {m after : Machine} {payload : List DesktopSurfaceId} {queue : List Event}
    (boundary : m.boundary) (queued : m.wrapper.queue = .pong payload :: queue)
    (dead : ∀ first, payload.head? = some first → m.wrapper.known first = false) :
    Handles clientOf m after ↔ after = ⟨m.wrapper.popped (.pong payload) queue, [], .drain⟩ := by
  have turn := @drainTurn_unknown clientOf m.wrapper payload queue queued dead
  constructor
  · intro handles
    obtain ⟨labels, run, done⟩ := handles.turned boundary
    rw [turn] at run
    rcases run.uncons with ⟨_, same⟩ | ⟨_, _, _, _, taken, _⟩
    · exact same
    · exact absurd ⟨rfl, rfl⟩ taken.inside
  · rintro rfl
    refine @handles_of_turned clientOf m _ [] boundary ?_ ⟨rfl, rfl⟩
    rw [turn]
    exact .nil

/-- However the handling of a `Pong` goes, it ends the busy cursors of the client and
no other grab, just when the first of its surfaces is still live or the client shows no
busy cursor. The state is any in which the boxes are in their places, as they are in
every state that is reached. -/
theorem pong_ends_busy_iff {m : Machine} {payload : List DesktopSurfaceId}
    {queue : List Event} {client : ClientId} (sound : Sound m.wrapper [])
    (boundary : m.boundary) (queued : m.wrapper.queue = .pong payload :: queue)
    (captured : ∀ surface ∈ payload, clientOf surface = client)
    (responsive : m.wrapper.Responsive clientOf client) :
    ((∃ after, Handles clientOf m after) ∧ ∀ after, Handles clientOf m after →
      Answered clientOf client m.wrapper after.wrapper) ↔
    (∃ first, payload.head? = some first ∧ m.wrapper.known first) ∨
      ∀ seat, ¬ m.wrapper.ShowsBusy clientOf client seat := by
  by_cases live : ∃ first, payload.head? = some first ∧ m.wrapper.known first
  · obtain ⟨first, head, known⟩ := live
    refine ⟨fun _ => .inl ⟨first, head, known⟩, fun _ => ?_⟩
    obtain ⟨others, rfl⟩ := List.head?_eq_some_iff.mp head
    have same := captured first List.mem_cons_self
    subst same
    exact pong_answers sound boundary queued known responsive
  · have dead : ∀ first, payload.head? = some first → m.wrapper.known first = false :=
      fun first head => Bool.eq_false_iff.mpr fun known => live ⟨first, head, known⟩
    have ignored := fun after => @pong_ignored clientOf m after payload queue boundary queued dead
    constructor
    · rintro ⟨_, answered⟩
      exact .inr (answered _ ((ignored _).mpr rfl)).ended
    · intro cleared
      have none := cleared.resolve_left live
      refine ⟨⟨_, (ignored _).mpr rfl⟩, ?_⟩
      intro after handles
      obtain rfl := (ignored after).mp handles
      exact ⟨none, fun _ _ => rfl⟩

/-! ### Two surfaces of one client -/

def firstWindow : DesktopSurfaceId := ⟨⟨0, 1⟩⟩

def secondWindow : DesktopSurfaceId := ⟨⟨1, 1⟩⟩

/-- The client is busy while a pointer is on `focus`, and then it answers. -/
def busyThenPong (focus : DesktopSurfaceId) : List Label :=
  let seat : SeatId := ⟨⟨0, 1⟩⟩
  [.input (.seatAdded seat), .run, .input (.plug (.pointer seat)), .run,
    .input (.surfaceAdded firstWindow), .run, .input (.surfaceAdded secondWindow), .run,
    .input (.deviceMoved (.pointer seat) (some ⟨some focus, some focus⟩) 0 7 (0, 0)), .run,
    .input (.pingTimeout 0 [firstWindow, secondWindow]), .run, .run, .proceed, .run,
    .picked (some focus), .run, .run, .run,
    .input (.pong 0 [firstWindow, secondWindow])]

/-- A surface dies before the queue is drained. -/
def Machine.bury (m : Machine) (surface : DesktopSurfaceId) : Machine :=
  { m with wrapper := { m.wrapper with
      desktopSurfaces := m.wrapper.desktopSurfaces.erase surface
      recs := m.wrapper.recs.erase surface } }

private theorem Machine.Sound.bury {m : Machine} (sound : m.Sound) (quiet : m.todo = [])
    (surface : DesktopSurfaceId) : Grab.Sound (m.bury surface).wrapper [] := by
  have before := sound.sound
  rw [quiet] at before
  exact before.same ⟨rfl, rfl, rfl, rfl, rfl, rfl, rfl, rfl, rfl, fun _ => rfl, fun _ => rfl⟩

/-- What the machine looks like when the `Pong` is about to be handled. -/
structure Machine.Late (m : Machine) (busy : DesktopSurfaceId) : Prop where
  boundary : m.boundary
  queue : m.wrapper.queue = [.pong [firstWindow, secondWindow]]
  responsive : m.wrapper.Responsive (fun _ => 0) 0
  shown : m.wrapper.ShowsBusy (fun _ => 0) 0 ⟨⟨0, 1⟩⟩
  known : m.wrapper.known busy

private theorem busyThenPong_late {busy dead : DesktopSurfaceId}
    (reached : (follow (Machine.step fun _ => 0) .start (busyThenPong busy)).map (fun m =>
        (m.todo, m.base, m.wrapper.queue, (m.bury dead).wrapper.livePointers,
          (m.wrapper.currentInner (.pointer ⟨⟨0, 1⟩⟩)).map (fun grab =>
            (grab.2.kind, grab.2.surface)),
          (m.bury dead).wrapper.known busy,
          (m.bury dead).wrapper.recs.count fun _ rec => rec.unresponsive)) =
      some ([], .drain, [.pong [firstWindow, secondWindow]], [⟨⟨0, 1⟩⟩], some (.busy, busy), true,
        0)) :
    ∃ m, Run (Machine.Step fun _ => 0) .start (busyThenPong busy) m ∧ m.todo = [] ∧
      (m.bury dead).Late busy := by
  obtain ⟨m, found, same⟩ := Option.map_eq_some_iff.mp reached
  simp only [Prod.mk.injEq] at same
  obtain ⟨todo, base, queue, live, current, known, marks⟩ := same
  obtain ⟨⟨box, inner⟩, there, what⟩ := Option.map_eq_some_iff.mp current
  simp only [Prod.mk.injEq] at what
  refine ⟨m, run_of_follow found, todo, ⟨todo, base⟩, queue, ?_, ?_, known⟩
  · intro surface rec stored _
    have none := AssocMap.count_eq_zero_iff.mp marks surface rec stored
    simpa using none
  · refine ⟨by rw [live]; simp, box, inner, there, what.1, ?_, rfl⟩
    rw [what.2]
    exact known

/-- The pointer is on the first window when the second one dies. -/
theorem pong_ends_busy_iff_first :
    ∃ labels m, Run (Machine.Step fun _ => 0) .start labels m ∧
      ∀ after, Handles (fun _ => 0) (m.bury secondWindow) after →
        Answered (fun _ => 0) 0 (m.bury secondWindow).wrapper after.wrapper := by
  obtain ⟨m, run, quiet, late⟩ := @busyThenPong_late firstWindow secondWindow rfl
  refine ⟨_, m, run, ?_⟩
  exact ((pong_ends_busy_iff ((run_sound run).bury quiet secondWindow) late.boundary late.queue
    (fun _ _ => rfl) late.responsive).mpr (.inl ⟨firstWindow, rfl, late.known⟩)).2

/-- The pointer is on the second window when the first one dies, and stays busy. -/
theorem pong_keeps_busy :
    ∃ labels m, Run (Machine.Step fun _ => 0) .start labels m ∧
      Sound (m.bury firstWindow).wrapper [] ∧ (m.bury firstWindow).boundary ∧
      (m.bury firstWindow).wrapper.queue = [.pong [firstWindow, secondWindow]] ∧
      (m.bury firstWindow).wrapper.known secondWindow ∧
      (m.bury firstWindow).wrapper.Responsive (fun _ => 0) 0 ∧
      ¬ ∀ after, Handles (fun _ => 0) (m.bury firstWindow) after →
        Answered (fun _ => 0) 0 (m.bury firstWindow).wrapper after.wrapper := by
  obtain ⟨m, run, quiet, late⟩ := @busyThenPong_late secondWindow firstWindow rfl
  refine ⟨_, m, run, (run_sound run).bury quiet firstWindow, late.boundary, late.queue, late.known,
    late.responsive, ?_⟩
  intro answered
  have dead : ∀ first, [firstWindow, secondWindow].head? = some first →
      (m.bury firstWindow).wrapper.known first = false := by
    intro first head
    obtain rfl := Option.some.inj head
    unfold Wrapper.known Machine.bury
    dsimp only
    rw [AssocMap.lookup_erase, if_pos rfl]
    rfl
  exact (answered _ ((pong_ignored late.boundary late.queue dead).mpr rfl)).ended _ late.shown

end Westonite.Grab
