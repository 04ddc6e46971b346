import Westonite.Children.Machine

/-! What one step can do to the children, the slots and the clients. -/

set_option autoImplicit false

namespace Westonite.Children

open Library Xwayland

/-- A step, by what it changes. -/
inductive Transition (m : Machine) : Label → Machine → Prop where
  | exits {pid : Int} {launch status : Nat} {owner : Owner} :
      m.processes.lookup pid = some ⟨launch, owner, none⟩ →
      Transition m (.exits pid status)
        { m with processes := m.processes.insert pid ⟨launch, owner, some status⟩ }
  | autolaunch {pid : Int} {watch : Bool} :
      m.running → m.processes.lookup pid = none →
      Transition m (.autolaunch pid watch)
        { m.forked pid (.autolaunch watch) with autolaunch := some (pid, watch) }
  | served {pid : Int} {watched : Bool} {after : Xwayland.Machine} {calls : List Xwayland.Call} :
      m.running → m.processes.lookup pid = none →
      after.server = some ⟨pid, m.xwayland.spawns⟩ →
      Transition m (.spawnXserver (.created pid watched))
        { m.forked pid (.xserver m.xwayland.spawns) with
          xwayland := after
          effects := m.effects ++ calls.map .xwayland }
  | orphaned {pid : Int} {after : Xwayland.Machine} {calls : List Xwayland.Call} :
      m.running → m.processes.lookup pid = none → after.server = m.xwayland.server →
      Transition m (.spawnXserver (.clientFailed pid))
        { m.forked pid .orphan with
          xwayland := after
          effects := m.effects ++ calls.map .xwayland }
  /-- A spawn that launches nothing. -/
  | unserved {outcome : SpawnOutcome} {after : Xwayland.Machine} {calls : List Xwayland.Call} :
      m.running → after.server = m.xwayland.server →
      Transition m (.spawnXserver outcome)
        { m with
          xwayland := after
          effects := m.effects ++ calls.map .xwayland }
  | displayFd {readable : Bool} {read : ReadResult} {after : Xwayland.Machine}
      {calls : List Xwayland.Call} :
      m.running → after.server = m.xwayland.server →
      Transition m (.displayFd readable read)
        { m with
          xwayland := after
          effects := m.effects ++ calls.map .xwayland }
  /-- A press of Super+S that launches nothing. -/
  | unshot {outcome : ShotOutcome} {texts : List String} :
      m.running →
      Transition m (.superS outcome) { m with effects := m.effects ++ texts.map .line }
  | clientFailed {exe : String} {pid : Int} {texts : List String} :
      m.running → m.screenshooter.client = none → m.processes.lookup pid = none →
      Transition m (.superS (.clientFailed exe pid))
        { m.forked pid (.screenshooter exe) with
          screenshooter := { m.screenshooter with pid := some pid, exe := some exe }
          effects := m.effects ++ texts.map .line }
  | shot {exe : String} {pid : Int} {client : Client} {texts : List String} :
      m.running → m.screenshooter.client = none → m.processes.lookup pid = none →
      m.clients.lookup client = none →
      Transition m (.superS (.started exe pid client))
        { m.forked pid (.screenshooter exe) with
          screenshooter :=
            { m.screenshooter with
              pid := some pid, exe := some exe
              client := some client, clientDestroy := some client }
          clients := m.clients.insert client (.screenshooter m.launched.length)
          effects := m.effects ++ texts.map .line }
  | recorderStopped {focus : Option Nat} {outputs : List Nat} {started : Option Nat}
      {recorder : Nat} :
      m.running → m.screenshooter.recorder = some recorder →
      Transition m (.superR focus outputs started)
        { m with
          screenshooter := { m.screenshooter with recorder := none }
          effects := m.effects ++ [.recorderStopped recorder] }
  | recorderStarted {focus : Option Nat} {outputs : List Nat} {started : Option Nat}
      {output : Nat} :
      m.running → m.screenshooter.recorder = none →
      Transition m (.superR focus outputs started)
        { m with
          screenshooter := { m.screenshooter with recorder := started }
          effects := m.effects ++ started.toList.map (.recorderStarted output) }
  | noOutput {focus : Option Nat} {outputs : List Nat} {started : Option Nat} {text : String} :
      m.running →
      Transition m (.superR focus outputs started)
        { m with effects := m.effects ++ [.line text] }
  | connects {client : Client} :
      m.running → m.clients.lookup client = none →
      Transition m (.connects client) { m with clients := m.clients.insert client .other }
  | clientDies {client : Client} :
      m.running →
      Transition m (.clientDies client)
        { m with
          clients := m.clients.erase client
          screenshooter := m.screenshooter.clientDestroyed client }
  | attempts {who : Option Client} {authorized : Bool} :
      m.running →
      Transition m (.attempts who authorized)
        { m with
          effects := m.effects ++ [.answered who (m.screenshooter.authorize who authorized)] }
  | sigchld {order : List Int} {next : Machine} :
      m.running → m.onSigchld order = some next → Transition m (.sigchld order) next
  | teardown {after : Xwayland.Machine} {calls : List Xwayland.Call} :
      m.running →
      Transition m .teardown
        { m with
          running := false
          xwayland := after
          screenshooter := { m.screenshooter with clientDestroy := none }
          effects := m.effects ++ calls.map .xwayland }

/-! ### The server of the glue -/

private theorem server_spawnXserver {before after : Xwayland.Machine} {outcome : SpawnOutcome}
    {st : XwaylandState} (up : before.xwayland = some st)
    (taken : before.step (.spawnXserver outcome) = some after) :
    after.server =
      match outcome with
      | .created pid _ => some ⟨pid, before.spawns⟩
      | _ => before.server := by
  simp only [Xwayland.Machine.step, up] at taken
  cases taken
  cases outcome with
  | created pid watched => rfl
  | wlSocketpairFailed | wmSocketpairFailed | pipeFailed | dupFailed | launchFailed
  | clientFailed pid =>
      simp only [Xwayland.Machine.server, up]
      rfl

private theorem server_displayFd {before after : Xwayland.Machine} {readable : Bool}
    {read : ReadResult}
    (taken : before.step (.displayFd readable read) = some after) :
    after.server = before.server := by
  cases up : before.xwayland with
  | none =>
      simp only [Xwayland.Machine.step, up] at taken
      contradiction
  | some st =>
      simp only [Xwayland.Machine.step, up] at taken
      split at taken
      · contradiction
      · rename_i spawn installed
        cases taken
        simp only [Xwayland.Machine.server, up, Option.bind_some, XwaylandState.displayFdBody]
        split
        · rfl
        · rename_i complete line
          cases complete <;> rfl

/-! ### The parts of a step -/

namespace Machine

variable {m next : Machine} {pid : Int} {owner : Owner}

theorem fork_eq_some :
    m.fork pid owner = some next ↔ m.processes.lookup pid = none ∧ m.forked pid owner = next := by
  simp [fork]

theorem connect_eq_some {client : Client} {origin : Origin} :
    m.connect client origin = some next ↔
      m.clients.lookup client = none ∧
      { m with clients := m.clients.insert client origin } = next := by
  simp [connect]

private theorem callXwayland_eq_some {label : Xwayland.Label}
    (taken : m.callXwayland label = some next) :
    ∃ (after : Xwayland.Machine) (calls : List Xwayland.Call),
      m.xwayland.step label = some after ∧
      next = { m with xwayland := after, effects := m.effects ++ calls.map .xwayland } := by
  obtain ⟨after, stepped, rfl⟩ := Option.map_eq_some_iff.mp taken
  exact ⟨after, _, stepped, rfl⟩

private theorem transition_spawnXserver {outcome : SpawnOutcome} (alive : m.running)
    (taken : m.spawnXserver outcome = some next) : Transition m (.spawnXserver outcome) next := by
  obtain ⟨before, forked, called⟩ := Option.bind_eq_some_iff.mp taken
  obtain ⟨after, calls, stepped, rfl⟩ := callXwayland_eq_some called
  cases up : m.xwayland.xwayland with
  | none =>
      simp only [up, Option.some.injEq] at forked
      subst forked
      apply Transition.unserved alive
      simp only [Xwayland.Machine.step, up, Option.some.injEq] at stepped
      subst stepped
      simp only [Xwayland.Machine.server, up]
  | some st =>
      cases outcome with
      | created pid watched =>
          simp only [up] at forked
          obtain ⟨fresh, rfl⟩ := fork_eq_some.mp forked
          exact .served alive fresh (server_spawnXserver up stepped)
      | clientFailed pid =>
          simp only [up] at forked
          obtain ⟨fresh, rfl⟩ := fork_eq_some.mp forked
          exact .orphaned alive fresh (server_spawnXserver up stepped)
      | wlSocketpairFailed | wmSocketpairFailed | pipeFailed | dupFailed | launchFailed =>
          simp only [up, Option.some.injEq] at forked
          subst forked
          exact .unserved alive (server_spawnXserver up stepped)

private theorem transition_superS {outcome : ShotOutcome} (alive : m.running)
    (taken : m.superS outcome = some next) : Transition m (.superS outcome) next := by
  cases busy : m.screenshooter.client with
  | some client =>
      simp only [superS, ScreenshooterState.bindingBody, busy, Option.isSome_some, if_true,
        Option.some.injEq] at taken
      subst taken
      exact @Transition.unshot m outcome [] alive
  | none =>
      have idle : ¬ m.screenshooter.client.isSome := by
        rw [busy]
        exact Bool.false_ne_true
      simp only [superS, ScreenshooterState.bindingBody, if_neg idle] at taken
      cases outcome with
      | noPath =>
          cases taken
          exact @Transition.unshot m .noPath [_] alive
      | socketpairFailed exe =>
          cases taken
          exact @Transition.unshot m (.socketpairFailed exe) [_] alive
      | launchFailed exe error =>
          cases taken
          exact @Transition.unshot m (.launchFailed exe error) [_, _] alive
      | clientFailed exe pid =>
          obtain ⟨fresh, rfl⟩ := fork_eq_some.mp taken
          exact @Transition.clientFailed m exe pid [_, _] alive busy fresh
      | started exe pid client =>
          obtain ⟨before, forked, connected⟩ := Option.bind_eq_some_iff.mp taken
          obtain ⟨fresh, rfl⟩ := fork_eq_some.mp forked
          obtain ⟨unused, rfl⟩ := connect_eq_some.mp connected
          exact @Transition.shot m exe pid client [_] alive busy fresh unused

private theorem transition_superR {focus : Option Nat} {outputs : List Nat} {started : Option Nat}
    (alive : m.running) (taken : m.dispatch (.superR focus outputs started) = some next) :
    Transition m (.superR focus outputs started) next := by
  simp only [dispatch, ScreenshooterState.recorderBindingBody, Option.some.injEq] at taken
  subst taken
  split
  · rename_i recorder active
    exact .recorderStopped alive active
  · rename_i idle
    split
    · exact .noOutput alive
    · exact .recorderStarted alive idle

private theorem transition_dispatch {label : Label} (alive : m.running)
    (taken : m.dispatch label = some next) : Transition m label next := by
  cases label with
  | autolaunch pid watch =>
      obtain ⟨after, forked, rfl⟩ := Option.map_eq_some_iff.mp taken
      obtain ⟨fresh, rfl⟩ := fork_eq_some.mp forked
      exact .autolaunch alive fresh
  | spawnXserver outcome => exact transition_spawnXserver alive taken
  | displayFd readable read =>
      obtain ⟨after, calls, stepped, rfl⟩ := callXwayland_eq_some taken
      exact .displayFd alive (server_displayFd stepped)
  | superS outcome => exact transition_superS alive taken
  | superR focus outputs started => exact transition_superR alive taken
  | connects client =>
      obtain ⟨unused, rfl⟩ := connect_eq_some.mp taken
      exact .connects alive unused
  | clientDies client =>
      simp only [dispatch] at taken
      split at taken
      · cases taken
        exact .clientDies alive
      · contradiction
  | attempts who authorized =>
      simp only [dispatch] at taken
      split at taken
      · cases taken
        exact .attempts alive
      · contradiction
  | exits pid status => contradiction
  | sigchld order => exact .sigchld alive taken
  | teardown =>
      obtain ⟨before, called, rfl⟩ := Option.map_eq_some_iff.mp taken
      obtain ⟨after, calls, stepped, rfl⟩ := callXwayland_eq_some called
      exact .teardown alive

theorem transition {label : Label} (taken : Step m label next) : Transition m label next := by
  unfold Step step at taken
  split at taken
  · split at taken
    · rename_i found
      cases taken
      exact .exits found
    · contradiction
  · split at taken
    · rename_i alive
      exact transition_dispatch alive taken
    · contradiction

end Machine

end Westonite.Children
