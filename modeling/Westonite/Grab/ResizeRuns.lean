import Westonite.Grab.ResizeFlags

/-! The flags of a surface along runs that leave the surfaces alone that a grab
resizes, and a run in which a second seat does not. -/

set_option autoImplicit false

namespace Westonite.Grab

open Library

variable {clientOf : DesktopSurfaceId → ClientId}

/-! ### Requests and turns that resize nothing -/

private theorem eases_moveRequest (w : Wrapper) (todo : List Op) (surface : DesktopSurfaceId)
    (seat : SeatId) (serial : Nat) (viewPos : Coord × Coord) :
    Eases none (w, todo) ((w.handleMoveRequest surface seat serial viewPos).1,
      (w.handleMoveRequest surface seat serial viewPos).2 ++ todo) := by
  unfold Wrapper.handleMoveRequest
  cases w.recs.lookup surface with
  | none => exact .refl _
  | some rec =>
      dsimp only
      split
      · split
        · exact .refl _
        · split
          · exact .refl _
          · exact eases_startGrab _ (by simp [Wrapper.pointerGrab])
      · split
        · split
          · exact .refl _
          · exact eases_startGrab _ (by simp [Wrapper.touchGrab])
        · exact .refl _

private theorem eases_pingOne (w : Wrapper) (todo : List Op) (surfaces : List DesktopSurfaceId)
    (seat : SeatId) :
    Eases none (w, todo) ((w.pingOne surfaces seat).1, (w.pingOne surfaces seat).2 ++ todo) := by
  unfold Wrapper.pingOne
  split
  · split
    · exact .refl _
    · split
      · exact eases_setBusyCursor w todo _ seat
      · exact .refl _
  · exact .refl _

private theorem eases_leaveActive (w : Wrapper) (todo : List Op) (box : GrabId) :
    Eases none (w, todo) (w.leaveActive box, todo) := by
  obtain ⟨boxes, devices, _, _, _, recs, _⟩ := leaveActive_fields w box
  exact .of_fields boxes recs (fun device => by rw [devices]) rfl

private theorem eases_retire (w : Wrapper) (todo : List Op) (box : GrabId) :
    Eases none (w, todo) (w.retireSupersededPointerGrab box, todo) := by
  unfold Wrapper.retireSupersededPointerGrab
  cases found : w.boxes box with
  | none => exact .refl _
  | some inner =>
      dsimp only
      split
      · exact .refl _
      · have flagged : Eases none (w, todo) (w.setBox box { inner with ended := true }, todo) :=
          eases_setBox found rfl rfl rfl rfl
        exact (flagged.trans (eases_leaveActive _ _ box)).trans
          (.of_fields rfl rfl (fun _ => rfl) rfl)

private theorem eases_takeOut (w : Wrapper) (todo : List Op) (box : GrabId) :
    Eases none (w, .takeOut box :: todo) (w.takeOut box, todo) := by
  have planned : Eases none (w, .takeOut box :: todo) (w, todo) :=
    .of_fields rfl rfl (fun _ => rfl) rfl
  unfold Wrapper.takeOut
  cases w.boxes box with
  | none => exact planned
  | some inner =>
      exact (planned.trans (eases_leaveActive _ _ box)).trans
        (.of_fields rfl rfl (fun _ => rfl) rfl)

private theorem eases_pongOne {w : Wrapper} {todo : List Op} (sound : Sound w todo)
    (client : ClientId)
    (live : List SeatId) (box : GrabId) (surface : DesktopSurfaceId) :
    Eases (freed (w.pongEnds clientOf client live box surface)) (w, todo)
      ((w.pongOne clientOf client live box surface).1,
        (w.pongOne clientOf client live box surface).2 ++ todo) := by
  unfold Wrapper.pongOne Wrapper.pongEnds
  cases found : w.boxes box with
  | none =>
      split
      · exact .refl _
      · split <;> exact .refl _
  | some inner =>
      cases known : w.known surface with
      | false =>
          simp only [Bool.not_false, if_true, Option.filter_some, Bool.false_and,
            Bool.false_eq_true, if_false]
          exact .refl _
      | true =>
          by_cases same : clientOf surface = client
          · simp only [Bool.not_true, Bool.false_eq_true, if_false, same, ne_eq, not_true_eq_false,
              Option.filter_some, Bool.true_and, decide_true]
            by_cases current :
                inner.device.seat ∈ live ∧ (w.devices inner.device).current = some box
            · obtain ⟨value, there, _, going, _⟩ := sound.current _ _ current.2
              obtain rfl := Option.some.inj (there.symm.trans found)
              rw [if_pos current, if_pos (decide_eq_true current)]
              exact eases_endGrab sound found going current.2
            · rw [if_neg current, if_neg (by simpa using current)]
              exact eases_retire w todo box
          · simp only [Bool.not_true, Bool.false_eq_true, if_false, ne_eq, same, not_false_eq_true,
              if_true, Option.filter_some, decide_false, Bool.and_false, Bool.false_and]
            exact .refl _

private theorem eases_setUnresponsive (w : Wrapper) (todo : List Op)
    (surfaces : List DesktopSurfaceId)
    (unresponsive : Bool) {after : Wrapper} (boxes : after.boxes = w.boxes)
    (recs : after.recs = (w.setUnresponsive surfaces unresponsive).recs)
    (devices : after.devices = w.devices) : Eases none (w, todo) (after, todo) where
  recs surface rec found := by
    have updated : (w.recs.update fun s rec =>
        if s ∈ surfaces then { rec with unresponsive } else rec).lookup surface = some rec := by
      rw [recs] at found
      exact found
    rw [AssocMap.lookup_update] at updated
    obtain ⟨old, oldFound, same⟩ := Option.map_eq_some_iff.mp updated
    refine ⟨old, oldFound, .inr ?_⟩
    split at same
    · exact ⟨by rw [← same], by rw [← same]⟩
    · exact ⟨by rw [same], by rw [same]⟩
  current device _ present := ⟨devices ▸ present, fun _ impossible => by cases impossible⟩
  boxes _ inner found kind := ⟨inner, boxes ▸ found, kind, rfl, rfl, rfl⟩
  pending _ _ member _ _ := ⟨member, fun _ impossible => by cases impossible⟩

/-! ### Marks -/

theorem Marked.quiet {before after : Frame} (marked : Marked before)
    (sound : Sound before.1 before.2)
    (eases : Eases none before after) : Marked after :=
  marked.eases sound eases fun _ _ impossible => by cases impossible

/-- A device changes in what a grab does not look at. -/
theorem Marked.setDevice {w : Wrapper} {todo : List Op} {device : Device}
    {change : DeviceState → DeviceState} (marked : Marked (w, todo))
    (kept : ∀ state, (change state).current = state.current) :
    Marked (w.setDevice device change, todo) where
  edges := marked.edges
  current other box inner rec present := by
    dsimp only at present
    rw [current_setDevice kept] at present
    exact marked.current other box inner rec present
  pending := marked.pending

/-- The new grab is current, and its surface is marked. -/
theorem Marked.install {w : Wrapper} {todo : List Op} {box : GrabId} {inner : GrabInner}
    (marked : Marked (w, .handOver box :: todo)) (found : w.boxes box = some inner) :
    Marked (w.install box inner, todo) where
  edges := marked.edges
  current device other value rec present there kind flags := by
    dsimp only at present flags
    rw [install_devices] at present
    obtain ⟨old, oldFlags, same⟩ := @lookup_setRec w inner.surface value.surface
      (fun rec => { rec with grabbed := true }) rec flags
    have stored : w.boxes other = some value := there
    split at present
    · obtain rfl := Option.some.inj present
      obtain rfl := Option.some.inj (found.symm.trans stored)
      rw [if_pos rfl] at same
      rw [same]
      exact ⟨marked.pending box inner old List.mem_cons_self found kind oldFlags, rfl⟩
    · have earlier := marked.current device other value old present stored kind oldFlags
      split at same
      · rw [same]
        exact ⟨earlier.1, rfl⟩
      · rw [same]
        exact earlier
  pending other value rec member there kind flags := by
    obtain ⟨old, oldFlags, same⟩ := @lookup_setRec w inner.surface value.surface
      (fun rec => { rec with grabbed := true }) rec flags
    have earlier := marked.pending other value old (List.mem_cons_of_mem box member) there kind
      oldFlags
    split at same
    · rw [same]
      exact earlier
    · rw [same]
      exact earlier

theorem Marked.handOver {w : Wrapper} {todo : List Op} {box : GrabId}
    (marked : Marked (w, .handOver box :: todo)) (sound : Sound w (.handOver box :: todo)) :
    Marked ((w.handOver box).1, (w.handOver box).2 ++ todo) := by
  obtain ⟨inner, found, _⟩ := sound.held_cons
  have installed := marked.install found
  unfold Wrapper.handOver
  simp only [found]
  cases inner.device with
  | pointer seat => exact ⟨installed.edges, installed.current, installed.pending⟩
  | touch seat => exact installed

/-- A busy cursor leaves its surface unmarked, which no grab may resize then. -/
theorem Marked.ungrab {w : Wrapper} {todo : List Op} {surface : DesktopSurfaceId}
    (marked : Marked (w, .ungrab surface :: todo)) (sound : Sound w (.ungrab surface :: todo))
    (spared : ∀ box, ¬ w.Resizing box surface) :
    Marked (w.setRec surface fun rec => { rec with grabbed := false }, todo) where
  edges := marked.edges
  current device box inner rec present found kind flags := by
    obtain ⟨old, oldFlags, same⟩ := @lookup_setRec w surface inner.surface
      (fun rec => { rec with grabbed := false }) rec flags
    split at same
    · rename_i here
      obtain ⟨value, there, on, _⟩ := sound.current device box present
      obtain rfl := Option.some.inj (there.symm.trans found)
      exact absurd ⟨value, found, kind, here, by rw [on]; exact present⟩ (spared box)
    · rw [same]
      exact marked.current device box inner old present found kind oldFlags
  pending box inner rec member found kind flags := by
    obtain ⟨old, oldFlags, same⟩ := @lookup_setRec w surface inner.surface
      (fun rec => { rec with grabbed := false }) rec flags
    have earlier := marked.pending box inner old member found kind oldFlags
    split at same
    · rw [same]
      exact earlier
    · rw [same]
      exact earlier

/-- A resize starts on a surface that is not marked, which no grab resizes then. -/
theorem Marked.startResize {w : Wrapper} (marked : Marked (w, [])) (sound : Sound w [])
    {surface : DesktopSurfaceId} {rec : SurfaceRec} (flags : w.recs.lookup surface = some rec)
    (free : rec.grabbed = false) {inner : GrabInner} (on : inner.surface = surface)
    (valid : Wrapper.invalidEdges inner.edges = false) :
    Marked
      ((((w.setRec surface fun rec => { rec with resizeEdges := inner.edges }).setResizing surface
        true).startGrab inner).1, [.callbacks, .handOver w.nextBox]) where
  edges box value found kind := by
    have placed : Function.update w.boxes w.nextBox (some inner) box = some value := found
    rw [Function.update_apply] at placed
    split at placed
    · obtain rfl := Option.some.inj placed
      exact valid
    · exact marked.edges box value placed kind
  current device box value after present found kind marks := by
    obtain ⟨old, oldFlags, same⟩ := @lookup_setRec w surface value.surface
      (fun rec => { rec with resizeEdges := inner.edges }) after marks
    obtain ⟨stored, there, _⟩ := sound.current device box present
    have bounded : box < w.nextBox := (sound.allocated box).mp (Option.isSome_of_eq_some there)
    have kept : Function.update w.boxes w.nextBox (some inner) box = some value := found
    rw [Function.update_of_ne (Nat.ne_of_lt bounded)] at kept
    have earlier := marked.current device box value old present kept kind oldFlags
    split at same
    · rename_i here
      rw [here, flags] at oldFlags
      obtain rfl := Option.some.inj oldFlags
      rw [free] at earlier
      cases earlier.2
    · rw [same]
      exact earlier
  pending box value after member found _ marks := by
    obtain ⟨old, _, same⟩ := @lookup_setRec w surface value.surface
      (fun rec => { rec with resizeEdges := inner.edges }) after marks
    have listed : box ∈ [w.nextBox] := member
    obtain rfl := List.mem_singleton.mp listed
    have stored : some inner = some value := (startGrab_fresh _ inner).symm.trans found
    obtain rfl := Option.some.inj stored
    rw [if_pos on] at same
    rw [same]

theorem Marked.resizeRequest {w : Wrapper} (marked : Marked (w, [])) (sound : Sound w [])
    (surface : DesktopSurfaceId) (seat : SeatId) (serial edges : Nat) (geometry : Int × Int) :
    Marked (w.handleResizeRequest surface seat serial edges geometry) := by
  unfold Wrapper.handleResizeRequest
  cases flags : w.recs.lookup surface with
  | none => exact marked
  | some rec =>
      dsimp only
      split
      · exact marked
      · split
        · exact marked
        · split
          · exact marked
          · split
            · exact marked
            · rename_i free
              split
              · exact marked
              · rename_i valid
                exact marked.startResize sound flags (by simpa using free) rfl
                  (Bool.eq_false_iff.mpr valid)

/-! ### Steps -/

theorem Machine.Spares.freed {m : Machine} {label : Label} (spares : m.Spares clientOf label)
    {ends : Option (GrabId × GrabInner)} (same : m.ends clientOf label = ends) (box : GrabId)
    (surface : DesktopSurfaceId) (frees : freed ends = some (box, surface))
    (registered : (m.wrapper.recs.lookup surface).isSome) (other : GrabId)
    (different : other ≠ box) :
    ¬ m.wrapper.Resizing other surface ∧ ¬ m.wrapper.Resuming m.todo other surface := by
  obtain ⟨⟨ended, inner⟩, ending, pair⟩ := Option.map_eq_some_iff.mp frees
  obtain ⟨rfl, rfl⟩ := Prod.mk.inj pair
  exact spares.ends ended inner (same.trans ending) registered other different

private theorem receive_marked {w : Wrapper} (sound : Sound w []) (marked : Marked (w, []))
    {input : Input} (spares : Machine.Spares clientOf ⟨w, [], .idle⟩ (.input input))
    {next : Wrapper × List Op × Base} (received : w.receive clientOf input = some next) :
    Marked (next.1, next.2.1) := by
  have fields : ∀ {after : Wrapper} {todo : List Op}, after.boxes = w.boxes → after.recs = w.recs →
      (∀ device, (after.devices device).current = (w.devices device).current) → held todo = [] →
      Marked (after, todo) := fun boxes recs current none =>
    marked.quiet sound (.of_fields boxes recs current none)
  unfold Wrapper.receive at received
  cases input with
  | callback call =>
      obtain rfl := Option.some.inj received
      have eases := eases_call sound call
      rw [List.append_nil] at eases
      exact marked.eases sound eases (spares.freed rfl)
  | moveRequest surface seat serial viewPos =>
      obtain rfl := Option.some.inj received
      have eases := eases_moveRequest w [] surface seat serial viewPos
      rw [List.append_nil] at eases
      exact marked.quiet sound eases
  | resizeRequest surface seat serial edges geometry =>
      obtain rfl := Option.some.inj received
      exact marked.resizeRequest sound surface seat serial edges geometry
  | surfaceAdded surface =>
      dsimp only at received
      split at received
      · cases received
      · obtain rfl := Option.some.inj received
        refine ⟨marked.edges, ?_, ?_⟩
        · intro device box inner rec present found kind flags
          have inserted : (w.recs.insert surface ⟨false, 0, false⟩).lookup inner.surface =
              some rec := flags
          rw [AssocMap.lookup_insert] at inserted
          split at inserted
          · rename_i here
            obtain ⟨value, there, on, _⟩ := sound.current device box present
            obtain rfl := Option.some.inj (there.symm.trans found)
            exact absurd ⟨value, found, kind, here, by rw [on]; exact present⟩
              (spares.adds surface rfl box)
          · exact marked.current device box inner rec present found kind inserted
        · intro box inner rec member
          cases member
  | surfaceRemoved surface =>
      dsimp only at received
      split at received
      · obtain rfl := Option.some.inj received
        have kept : ∀ other rec, (w.recs.erase surface).lookup other = some rec →
            w.recs.lookup other = some rec :=
          fun _ _ found => (AssocMap.lookup_erase_eq_some.mp found).2
        refine ⟨marked.edges, ?_, ?_⟩
        · intro device box inner rec present found kind flags
          exact marked.current device box inner rec present found kind (kept _ rec flags)
        · intro box inner rec member
          cases member
      · cases received
  | pingTimeout client surfaces | pong client surfaces =>
      dsimp only at received
      split at received
      · obtain rfl := Option.some.inj received
        apply marked.quiet sound
        exact eases_setUnresponsive w [] surfaces _ rfl rfl rfl
      · cases received
  | seatAdded seat =>
      dsimp only at received
      split at received
      · cases received
      · obtain rfl := Option.some.inj received
        exact fields rfl rfl (fun _ => rfl) rfl
  | seatGone seat =>
      dsimp only at received
      split at received
      · cases received
      · obtain rfl := Option.some.inj received
        exact fields rfl rfl (fun _ => rfl) rfl
  | plug device =>
      dsimp only at received
      split at received
      · obtain rfl := Option.some.inj received
        exact @Marked.setDevice w [] device (fun state => { state with plugged := true }) marked
          fun _ => rfl
      · cases received
  | unplug device =>
      obtain rfl := Option.some.inj received
      have moved : Eases none (w, [])
          (w.setDevice device fun state => { state with focus := none }, []) :=
        eases_moved fun _ => rfl
      have same : SameGrabs w (w.setDevice device fun state => { state with focus := none }) :=
        sameGrabs_setDevice fun _ => ⟨rfl, rfl⟩
      have cancelled := eases_cancelGrab (sound.same same) device
      have ends := @ends_setDevice w device (fun state => { state with focus := none })
        fun _ => rfl
      rw [ends, List.append_nil] at cancelled
      have gone := marked.eases sound (moved.trans cancelled) (spares.freed rfl)
      exact @Marked.setDevice _ _ device (fun state => { state with plugged := false }) gone
        fun _ => rfl
  | deviceMoved device focus downCount grabSerial grabPos =>
      obtain rfl := Option.some.inj received
      exact @Marked.setDevice w [] device
        (fun state => { state with focus, downCount, grabSerial, grabPos }) marked fun _ => rfl

private theorem stepBase_marked {w : Wrapper} {base : Base} (sound : Sound w [])
    (marked : Marked (w, []))
    (spares : Machine.Spares clientOf ⟨w, [], base⟩ .run) {next : Machine}
    (stepped : Machine.stepBase clientOf w base = some next) :
    Marked (next.wrapper, next.todo) := by
  unfold Machine.stepBase at stepped
  cases base with
  | idle => cases stepped
  | drain =>
      simp only [Option.some.injEq] at stepped
      subst stepped
      have turned : Eases none (w, []) ((w.drainTurn clientOf).1, []) := by
        unfold Wrapper.drainTurn
        cases w.queue with
        | nil => exact .of_fields rfl rfl (fun _ => rfl) rfl
        | cons ev queue =>
            dsimp only
            split
            · exact .of_fields rfl rfl (fun _ => rfl) rfl
            · split <;> exact .of_fields rfl rfl (fun _ => rfl) rfl
            · exact .of_fields rfl rfl (fun _ => rfl) rfl
      exact marked.quiet sound turned
  | removed surface =>
      obtain rfl := Option.some.inj stepped
      exact marked.quiet sound (.of_fields rfl rfl (fun _ => rfl) rfl)
  | ping seats surfaces =>
      cases seats with
      | nil =>
          obtain rfl := Option.some.inj stepped
          exact marked
      | cons seat seats =>
          obtain rfl := Option.some.inj stepped
          have eases := eases_pingOne w [] surfaces seat
          rw [List.append_nil] at eases
          exact marked.quiet sound eases
  | pong busy client live =>
      cases busy with
      | nil =>
          obtain rfl := Option.some.inj stepped
          exact marked
      | cons entry busy =>
          obtain ⟨box, surface⟩ := entry
          obtain rfl := Option.some.inj stepped
          have eases := @eases_pongOne clientOf w [] sound client live box surface
          rw [List.append_nil] at eases
          exact marked.eases sound eases (spares.freed rfl)

private theorem step_marked {m next : Machine} {label : Label} (sound : m.Sound)
    (marked : Marked (m.wrapper, m.todo)) (taken : SparingStep clientOf m label next) :
    Marked (next.wrapper, next.todo) := by
  obtain ⟨spares, stepped⟩ := taken
  obtain ⟨w, calls, base⟩ := m
  have before : Sound w calls := sound.sound
  unfold Machine.Step Machine.step at stepped
  dsimp only at stepped marked
  cases calls with
  | nil =>
      cases label with
      | run => exact stepBase_marked before marked spares stepped
      | input input =>
          dsimp only at stepped
          split at stepped
          · rename_i idle
            subst idle
            obtain ⟨received, found, rfl⟩ := Option.map_eq_some_iff.mp stepped
            exact receive_marked before marked spares found
          · cases stepped
      | call | proceed | picked => cases stepped
  | cons op todo =>
      cases op with
      | callbacks =>
          cases label with
          | call call =>
              obtain rfl := Option.some.inj stepped
              exact marked.eases before (eases_call before call) (spares.freed rfl)
          | proceed =>
              obtain rfl := Option.some.inj stepped
              exact marked.quiet before (.of_fields rfl rfl (fun _ => rfl) rfl)
          | run | input | picked => cases stepped
      | startFocus seat =>
          cases label with
          | picked surface =>
              obtain rfl := Option.some.inj stepped
              have planned : Eases none (w, .startFocus seat :: todo) (w, todo) :=
                .of_fields rfl rfl (fun _ => rfl) rfl
              have rest : Sound w todo := before.sameTodo rfl rfl
              have focused := eases_grabFocus rest seat surface
              exact marked.eases before (planned.trans focused) (spares.freed rfl)
          | run | input | call | proceed => cases stepped
      | handOver box =>
          cases label with
          | run =>
              obtain rfl := Option.some.inj stepped
              exact marked.handOver before
          | input | call | proceed | picked => cases stepped
      | ungrab surface =>
          cases label with
          | run =>
              obtain rfl := Option.some.inj stepped
              exact marked.ungrab before (spares.ungrabs surface todo rfl)
          | input | call | proceed | picked => cases stepped
      | takeOut box =>
          cases label with
          | run =>
              obtain rfl := Option.some.inj stepped
              exact marked.quiet before (eases_takeOut w todo box)
          | input | call | proceed | picked => cases stepped

theorem run_marked {m : Machine} {labels : List Label}
    (run : Run (SparingStep clientOf) .start labels m) :
    m.Sound ∧ Marked (m.wrapper, m.todo) := by
  induction run with
  | nil => exact ⟨⟨Sound.new, fun _ _ _ impossible => by cases impossible⟩,
      ⟨fun _ _ impossible => (by cases impossible), fun _ _ _ _ impossible => (by cases impossible),
        fun _ _ _ member => (by cases member)⟩⟩
  | snoc _ taken ih =>
      obtain ⟨sound, marked⟩ := ih
      exact ⟨(step_transition sound taken.2).sound sound, step_marked sound marked taken⟩

/-! ### What a client and the policy see -/

private theorem known_edges {edges : Nat} (valid : Wrapper.invalidEdges edges = false) :
    (ResizeEdges.ofBitsTruncate edges).bits.toNat = edges := by
  have small : edges < 16 := by
    simp only [Wrapper.invalidEdges, Bool.or_eq_false_iff, decide_eq_false_iff_not] at valid
    omega
  unfold ResizeEdges.ofBitsTruncate
  have masked : edges &&& 15 = edges := @Nat.and_two_pow_sub_one_of_lt_two_pow 4 edges small
  rw [masked]
  exact UInt32.toNat_ofNat_of_lt' (Nat.lt_trans small (by decide))

/-- While a grab resizes a surface that is left alone, the surface keeps its edges
and its mark, commits carry the edges, and no pointer moves or resizes it as well. -/
theorem resize_keeps_marks {m : Machine} {labels : List Label}
    (run : Run (SparingStep clientOf) .start labels m) {seat : SeatId} {box : GrabId}
    {inner : GrabInner} {rec : SurfaceRec}
    (current : (m.wrapper.devices (.pointer seat)).current = some box)
    (found : m.wrapper.boxes box = some inner) (kind : inner.kind = .resize)
    (registered : m.wrapper.recs.lookup inner.surface = some rec) :
    rec.resizeEdges = inner.edges ∧ rec.grabbed = true ∧
      (∀ bufDx bufDy width height mapped ev,
        m.wrapper.committed inner.surface bufDx bufDy width height mapped = some ev →
        ∃ edges, ev = .committed inner.surface bufDx bufDy edges width height mapped ∧
          edges.bits.toNat = inner.edges) ∧
      (∀ other serial edges geometry,
        m.wrapper.handleResizeRequest inner.surface other serial edges geometry =
          (m.wrapper, [])) ∧
      ∀ other serial viewPos,
        m.wrapper.handleMoveRequest inner.surface other serial viewPos = (m.wrapper, []) ∨
        ∃ delta, m.wrapper.handleMoveRequest inner.surface other serial viewPos =
          m.wrapper.startGrab (Wrapper.touchGrab inner.surface other delta) := by
  obtain ⟨_, marked⟩ := run_marked run
  obtain ⟨edges, grabbed⟩ := marked.current _ box inner rec current found kind registered
  refine ⟨edges, grabbed, ?_, ?_, ?_⟩
  · intro bufDx bufDy width height mapped ev delivered
    unfold Wrapper.committed at delivered
    rw [registered] at delivered
    obtain ⟨_, same⟩ := Option.ite_none_right_eq_some.mp delivered
    obtain rfl := Option.some.inj same
    refine ⟨_, rfl, ?_⟩
    rw [edges]
    exact known_edges (marked.edges box inner found kind)
  · intro other serial edges geometry
    unfold Wrapper.handleResizeRequest
    simp only [registered, grabbed, if_true, ite_self]
  · intro other serial viewPos
    unfold Wrapper.handleMoveRequest
    simp only [registered, grabbed, if_true, ite_self]
    split
    · exact .inl rfl
    · split
      · split
        · exact .inl rfl
        · exact .inr ⟨_, rfl⟩
      · exact .inl rfl

/-- A step that ends no grab, leaves no mark away and adds no surface. -/
def Machine.uneventful (clientOf : DesktopSurfaceId → ClientId) (m : Machine) (label : Label) :
    Bool :=
  (m.ends clientOf label).isNone &&
    (match m.todo with
    | .ungrab _ :: _ => false
    | _ => true) &&
    match label with
    | .input (.surfaceAdded _) => false
    | _ => true

private theorem Machine.Spares.of_uneventful {m : Machine} {label : Label}
    (uneventful : m.uneventful clientOf label) : m.Spares clientOf label where
  ends box inner ended := by
    simp [Machine.uneventful, ended] at uneventful
  ungrabs surface todo next := by
    simp [Machine.uneventful, next] at uneventful
  adds surface input := by
    simp [Machine.uneventful, input] at uneventful

/-- A window is resized, and its flags say so. -/
theorem resize_keeps_marks_resized :
    ∃ labels m seat box inner rec, Run (SparingStep fun _ => 0) .start labels m ∧
      (m.wrapper.devices (.pointer seat)).current = some box ∧ m.wrapper.boxes box = some inner ∧
      inner.kind = .resize ∧ m.wrapper.recs.lookup inner.surface = some rec ∧ inner.edges = 8 ∧
      rec.resizeEdges = inner.edges ∧ rec.grabbed = true := by
  let surface : DesktopSurfaceId := ⟨⟨0, 1⟩⟩
  let seat : SeatId := ⟨⟨0, 1⟩⟩
  let first : Label := .input (.surfaceAdded surface)
  let labels : List Label :=
    [.run, .input (.seatAdded seat), .run, .input (.plug (.pointer seat)), .run,
      .input (.deviceMoved (.pointer seat) (some ⟨some surface, some surface⟩) 1 7 (0, 0)), .run,
      .input (.resizeRequest surface seat 7 8 (100, 100)), .proceed, .run, .picked none, .run]
  let quietStep : Machine → Label → Option Machine := fun m label =>
    if m.uneventful (fun _ => 0) label then m.step (fun _ => 0) label else none
  have added : ∃ m, Machine.step (fun _ => 0) .start first = some m ∧
      (follow quietStep m labels).map (fun final =>
        ((final.wrapper.devices (.pointer seat)).current,
          (final.wrapper.boxes 0).map fun inner => (inner.kind, inner.surface, inner.edges),
          (final.wrapper.recs.lookup surface).isSome)) =
        some (some 0, some (.resize, surface, 8), true) := ⟨_, rfl, rfl⟩
  obtain ⟨start, began, reached⟩ := added
  obtain ⟨final, found, same⟩ := Option.map_eq_some_iff.mp reached
  simp only [Prod.mk.injEq] at same
  obtain ⟨current, boxed, registered⟩ := same
  obtain ⟨inner, stored, fields⟩ := Option.map_eq_some_iff.mp boxed
  simp only [Prod.mk.injEq] at fields
  obtain ⟨kind, on, edges⟩ := fields
  obtain ⟨rec, flags⟩ := Option.isSome_iff_exists.mp registered
  rw [← on] at flags
  have initial : SparingStep (fun _ => 0) .start first start := by
    refine ⟨⟨fun _ _ ended => (by cases ended), fun _ _ next => (by cases next), ?_⟩, began⟩
    rintro _ _ box ⟨_, impossible, _⟩
    cases impossible
  have rest : Run (SparingStep fun _ => 0) start labels final := by
    refine Run.mono ?_ (run_of_follow found)
    intro m label next taken
    obtain ⟨uneventful, stepped⟩ := Option.ite_none_right_eq_some.mp taken
    exact ⟨.of_uneventful uneventful, stepped⟩
  have run := Run.cons initial rest
  obtain ⟨sameEdges, grabbed, _⟩ := resize_keeps_marks run current stored kind flags
  exact ⟨_, final, seat, 0, inner, rec, run, current, stored, kind, flags, edges, sameEdges,
    grabbed⟩

/-- A ping times out while the pointer of a second seat is on the window that the
first resizes: the busy cursor leaves the window unmarked, and it can be resized
again. -/
theorem busy_cursor_unmarks_resize :
    ∃ labels m seat box inner rec, Run (Machine.Step fun _ => 0) .start labels m ∧
      (m.wrapper.devices (.pointer seat)).current = some box ∧ m.wrapper.boxes box = some inner ∧
      inner.kind = .resize ∧ m.wrapper.recs.lookup inner.surface = some rec ∧
      m.wrapper.known inner.surface ∧ rec.grabbed = false ∧
      ∃ other serial, (m.wrapper.handleResizeRequest inner.surface other serial 4 (100, 100)).2 ≠ []
    := by
  let surface : DesktopSurfaceId := ⟨⟨0, 1⟩⟩
  let seat : SeatId := ⟨⟨0, 1⟩⟩
  let other : SeatId := ⟨⟨1, 1⟩⟩
  let labels : List Label :=
    [.input (.seatAdded seat), .run, .input (.plug (.pointer seat)), .run,
      .input (.seatAdded other), .run, .input (.plug (.pointer other)), .run,
      .input (.surfaceAdded surface), .run,
      .input (.deviceMoved (.pointer seat) (some ⟨some surface, some surface⟩) 1 7 (0, 0)), .run,
      .input (.resizeRequest surface seat 7 8 (100, 100)), .proceed, .run, .picked none, .run,
      -- the subsurface under the first pointer goes
      .input (.deviceMoved (.pointer seat) none 1 7 (0, 0)), .run,
      .input (.deviceMoved (.pointer other) (some ⟨some surface, some surface⟩) 1 9 (0, 0)), .run,
      .input (.pingTimeout 0 [surface]), .run, .run, .run, .proceed, .run, .picked (some surface),
      .run, .run, .run]
  have reached : (follow (Machine.step fun _ => 0) .start labels).map (fun final =>
      ((final.wrapper.devices (.pointer seat)).current,
        (final.wrapper.boxes 0).map fun inner => (inner.kind, inner.surface),
        (final.wrapper.recs.lookup surface).map SurfaceRec.grabbed, final.wrapper.known surface,
        (final.wrapper.handleResizeRequest surface other 9 4 (100, 100)).2)) =
      some (some 0, some (.resize, surface), some false, true, [.callbacks, .handOver 2]) := by
    rfl
  obtain ⟨final, found, same⟩ := Option.map_eq_some_iff.mp reached
  simp only [Prod.mk.injEq] at same
  obtain ⟨current, boxed, flags, known, again⟩ := same
  obtain ⟨inner, stored, fields⟩ := Option.map_eq_some_iff.mp boxed
  obtain ⟨kind, on⟩ := Prod.mk.inj fields
  obtain ⟨rec, recorded, free⟩ := Option.map_eq_some_iff.mp flags
  rw [← on] at recorded known again
  refine ⟨labels, final, seat, 0, inner, rec, run_of_follow found, current, stored, kind, recorded,
    known, free, other, 9, ?_⟩
  rw [again]
  simp

end Westonite.Grab
