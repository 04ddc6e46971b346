import Westonite.Xwayland.Resources

/-! When the module is told that a server is ready, and when that it has gone. -/

set_option autoImplicit false

namespace Westonite.Xwayland

open Library

variable {m next : Machine} {label : Label}

/-- A server is announced as ready once, and not after its exit. -/
def Timely (calls : List Call) : Prop :=
  calls.Pairwise fun earlier later => ∀ spawn, later = .xserverLoaded spawn →
    earlier ≠ .xserverExited spawn ∧ earlier ≠ .xserverLoaded spawn

namespace Machine

/-- A line that ends is read while a WM socket is held. -/
def hands (m : Machine) : Label → Bool
  | .displayFd readable read =>
      m.wmFd.isSome && XwaylandState.readDisplayFd readable read == some true
  | _ => false

/-- A server is tracked when a line that ends is read while a WM socket is held. -/
def timely (m : Machine) (label : Label) : Bool := !m.hands label || m.server.isSome

end Machine

/-- The WM socket that is held is of the server that is tracked, or of one that was. -/
structure Attended (m : Machine) : Prop where
  wm : ∀ spawn, m.calls.count (.wmOpened spawn) =
    m.calls.count (.xserverLoaded spawn) + m.calls.count (.wmClosed spawn) + held m.wmFd spawn
  server : ∀ spawn, m.calls.count (.xserverExited spawn) +
    held (m.server.map Server.spawn) spawn ≤ m.calls.count (.tracked spawn)
  opens : ∀ spawn, Opens m spawn (spawned m.spawns spawn)
  parked : ∀ spawn, m.wmFd = some spawn →
    m.server.map Server.spawn = some spawn ∨ m.server = none ∧ .xserverExited spawn ∈ m.calls

theorem Attended.start : Attended .start where
  wm _ := rfl
  server _ := Nat.le_refl _
  opens _ := ⟨Nat.zero_le _, Nat.zero_le _, Nat.le_refl _⟩
  parked _ found := by cases found

private theorem Attended.unhanded (attended : Attended m) {spawn : Spawn}
    (parked : m.wmFd = some spawn) : .xserverLoaded spawn ∉ m.calls := by
  have most := Nat.le_trans (attended.opens spawn).wm (spawned_le m.spawns spawn)
  have same := attended.wm spawn
  rw [parked, held_some, if_pos rfl] at same
  exact List.count_eq_zero.mp (by omega)

theorem Attended.running (attended : Attended m) {spawn : Spawn}
    (tracked : m.server.map Server.spawn = some spawn) : .xserverExited spawn ∉ m.calls := by
  have most := Nat.le_trans (attended.opens spawn).wm (spawned_le m.spawns spawn)
  have opened := (attended.opens spawn).tracked
  have served := attended.server spawn
  rw [tracked, held_some, if_pos rfl] at served
  exact List.count_eq_zero.mp (by omega)

private theorem parked_step (taken : Transition m label next)
    (before : ∀ spawn, m.wmFd = some spawn → m.server.map Server.spawn = some spawn ∨
      m.server = none ∧ .xserverExited spawn ∈ m.calls) {spawn : Spawn}
    (parked : next.wmFd = some spawn) :
    next.server.map Server.spawn = some spawn ∨
      next.server = none ∧ .xserverExited spawn ∈ next.calls := by
  cases taken with
  | gone => exact before spawn parked
  | same => exact before spawn parked
  | failed =>
      exact (before spawn parked).imp_right fun gone => ⟨gone.1, List.mem_append_left _ gone.2⟩
  | created => exact .inl parked
  | unready alive =>
      have was := before spawn (by rw [Machine.wmFd, alive]; exact parked)
      rw [Machine.server, alive] at was
      exact was.imp_right fun gone => ⟨gone.1, List.mem_append_left _ gone.2⟩
  | ready => cases parked
  | exited alive tracked =>
      have was := before spawn (by rw [Machine.wmFd, alive]; exact parked)
      rw [Machine.server, alive, Option.bind_some, tracked] at was
      rcases was with same | ⟨impossible, _⟩
      · obtain rfl := Option.some.inj same
        exact .inr ⟨rfl, List.mem_append_right _ List.mem_cons_self⟩
      · cases impossible
  | teardown => cases parked

theorem Attended.step (attended : Attended m) (taken : m.Step label next) : Attended next := by
  have moved := Machine.transition taken
  refine ⟨?_, ?_, ?_, ?_⟩
  · exact fun spawn => wm_step moved (attended.wm spawn)
  · intro spawn
    have before := attended.server spawn
    obtain ⟨lost, same, _⟩ := server_step moved spawn
    omega
  · exact fun spawn => opens_step moved (attended.opens spawn)
  · exact fun spawn parked => parked_step moved attended.parked parked

theorem Timely.append {calls new : List Call} (timely : Timely calls)
    (none : ∀ spawn, .xserverLoaded spawn ∉ new) : Timely (calls ++ new) := by
  refine List.pairwise_append.mpr ⟨timely, ?_, ?_⟩
  · refine List.pairwise_of_forall_mem_list ?_
    intro _ _ later member spawn same
    exact absurd (same ▸ member) (none spawn)
  · intro _ _ later member spawn same
    exact absurd (same ▸ member) (none spawn)

theorem Timely.left {calls new : List Call} (timely : Timely (calls ++ new)) : Timely calls :=
  (List.pairwise_append.mp timely).1

/-- A server that is tracked is announced in time. -/
private theorem Attended.timely_step (attended : Attended m) (before : Timely m.calls)
    (condition : m.timely label = true) (taken : m.Step label next) : Timely next.calls := by
  have moved := Machine.transition taken
  cases moved with
  | gone => exact before
  | same => exact before
  | failed failed => exact before.append (by cases failed <;> simp)
  | created =>
      exact before.append (by simp [XwaylandState.createdCalls, XwaylandState.closeDisplayWatch])
  | unready => exact before.append (by simp [XwaylandState.closeDisplayWatch])
  | @ready st spawn readable read alive installed line =>
      have slot : m.wmFd = st.wmFd := by rw [Machine.wmFd, alive, Option.bind_some]
      cases parked : st.wmFd with
      | none => exact before.append (by simp [parked, XwaylandState.closeDisplayWatch])
      | some wm =>
          rw [parked] at slot
          have tracked : m.server.map Server.spawn = some wm := by
            rcases attended.parked wm slot with tracked | ⟨idle, _⟩
            · exact tracked
            · simp [Machine.timely, Machine.hands, slot, line, idle] at condition
          have shape : m.calls ++ (.lineRead spawn :: ((some wm).toList.map .xserverLoaded ++
              st.closeDisplayWatch.2)) =
              (m.calls ++ [.lineRead spawn]) ++ [.xserverLoaded wm] ++ st.closeDisplayWatch.2 := by
            simp
          dsimp only
          rw [shape]
          refine Timely.append ?_ (by simp [XwaylandState.closeDisplayWatch])
          refine List.pairwise_append.mpr ⟨before.append (by simp), List.pairwise_singleton _ _, ?_⟩
          intro earlier listed later member other same
          rw [List.mem_singleton.mp member] at same
          cases same
          constructor
          · intro exited
            rw [exited] at listed
            simp [attended.running tracked] at listed
          · intro loaded
            rw [loaded] at listed
            simp [attended.unhanded slot] at listed
  | exited => exact before.append (by simp)
  | teardown =>
      exact before.append (by simp [XwaylandState.teardown, XwaylandState.closeDisplayWatch])

/-- Without a tracked server, the socket is of one that has exited. -/
private theorem Attended.timely_of_step (attended : Attended m) (taken : m.Step label next)
    (after : Timely next.calls) : m.timely label = true := by
  by_contra late
  rw [Machine.timely, Bool.or_eq_true, not_or, Bool.not_eq_true', Bool.not_eq_false] at late
  obtain ⟨hands, idle⟩ := late
  have moved := Machine.transition taken
  cases moved with
  | gone => cases hands
  | same waits =>
      cases label with
      | displayFd readable read => simp [Machine.hands, waits readable read rfl] at hands
      | spawnXserver => cases hands
      | childExit => cases hands
      | teardown => cases hands
  | failed => cases hands
  | created => cases hands
  | unready alive installed line =>
      simp [Machine.hands, line] at hands
  | @ready st spawn readable read alive installed line =>
      have slot : m.wmFd = st.wmFd := by rw [Machine.wmFd, alive, Option.bind_some]
      have idle : m.server = none := by simpa using idle
      cases parked : st.wmFd with
      | none => simp [Machine.hands, slot, parked] at hands
      | some wm =>
          rw [parked] at slot
          have exited : .xserverExited wm ∈ m.calls := by
            rcases attended.parked wm slot with tracked | ⟨_, exited⟩
            · rw [idle] at tracked
              cases tracked
            · exact exited
          dsimp only at after
          rw [parked] at after
          have late :=
            (List.pairwise_append.mp after).2.2 _ exited (.xserverLoaded wm) (by simp) wm rfl
          exact late.1 rfl
  | exited => cases hands
  | teardown => cases hands

/-- Every server is announced once and not after its exit, on the whole way, just when
no line is read for a WM socket whose server has gone. -/
theorem announced_timely_iff (labels : List Label) :
    Always Machine.Step .start labels (fun m => Timely m.calls) ↔
      EachStep Machine.Step .start labels (fun m label => m.timely label = true) := by
  constructor
  · intro always
    refine @EachStep.of_always Machine Label Machine.Step _ labels Attended
      (fun m => Timely m.calls) _ .start ?_ ?_ always
    · exact fun _ _ _ attended taken => attended.step taken
    · exact fun _ _ _ attended taken after => attended.timely_of_step taken after
  · intro each taken m short run
    have kept := @Always.of_eachStep Machine Label Machine.Step _ labels
      (fun m => Attended m ∧ Timely m.calls) (fun m label => m.timely label = true)
      ⟨.start, List.Pairwise.nil⟩
      (fun _ _ _ kept condition taken =>
        ⟨kept.1.step taken, kept.1.timely_step kept.2 condition taken⟩) each
    exact (kept taken m short run).2

/-- The exit of the server comes before its buffered line. -/
theorem announced_after_exit :
    ∃ labels m, Run Machine.Step .start labels m ∧
      m.calls = [.wmOpened 0, .pipeOpened 0, .tracked 0, .sourceAdded 0, .xserverExited 0,
        .lineRead 0, .xserverLoaded 0, .sourceRemoved 0, .pipeClosed 0] ∧
      ¬ Timely m.calls := by
  let labels : List Label :=
    [.spawnXserver (.created 7 true), .childExit 7, .displayFd true (.bytes [48, 10])]
  have reached : (follow Machine.step .start labels).map Machine.calls =
      some [.wmOpened 0, .pipeOpened 0, .tracked 0, .sourceAdded 0, .xserverExited 0,
        .lineRead 0, .xserverLoaded 0, .sourceRemoved 0, .pipeClosed 0] := by
    rfl
  obtain ⟨m, found, same⟩ := Option.map_eq_some_iff.mp reached
  refine ⟨labels, m, run_of_follow found, same, ?_⟩
  intro timely
  rw [same] at timely
  simp [Timely] at timely

end Westonite.Xwayland
