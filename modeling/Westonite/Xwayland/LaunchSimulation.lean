import Westonite.Xwayland.LaunchRuns

/-! Every run over the table of descriptors is a run of the glue's state machine: what is
parked under a number is what the machine holds of a launch. -/

set_option autoImplicit false

namespace Westonite.Xwayland.Launch

open Library

variable {File : Type}

/-- How far a launch comes where these calls succeed, with the pipe watched. -/
def Works.outcome (works : Works) (pid : Int) : SpawnOutcome :=
  if !works.wl then .wlSocketpairFailed
  else if !works.wm then .wmSocketpairFailed
  else if !works.pipe then .pipeFailed
  else if !(works.abstractDup && works.unixDup) then .dupFailed
  else if !(works.fork && works.exec) then .launchFailed
  else if works.client then .created pid true
  else .clientFailed pid

/-- What the machine sees of it; `pid` is that of a server that is made. -/
def Event.label (pid : Int) : Event File → Option Label
  | .spawnXserver _ _ works _ => some (.spawnXserver (works.outcome pid))
  | .displayFd readable read => some (.displayFd readable read)
  | .childExit pid => some (.childExit pid)
  | .managerGone _ | .clientGone _ => none
  | .teardown => some .teardown

/-- The same slots are taken, and a pipe that is kept is watched. -/
inductive Related : Option Parked → Option XwaylandState → Prop where
  | gone : Related none none
  | alive {parked : Parked} {st : XwaylandState}
      (wm : parked.wmFd.isSome = st.wmFd.isSome)
      (pipe : parked.displayPipe.isSome = st.displayPipe.isSome)
      (source : st.displayFdSource.isSome = st.displayPipe.isSome) :
      Related (some parked) (some st)

/-- The machine's spawn, by the calls that succeed. -/
private theorem spawnXserverBody_outcome (st : XwaylandState) (spawn : Spawn) (works : Works)
    (pid : Int) :
    (st.spawnXserverBody spawn (works.outcome pid)).1 = (works.runs && works.client) ∧
      (st.spawnXserverBody spawn (works.outcome pid)).2.1 =
        if works.runs && works.client then
          ⟨some ⟨pid, spawn⟩, some spawn, some spawn, some spawn⟩
        else st := by
  obtain ⟨wl, wm, pipe, abstractDup, unixDup, fork, exec, client⟩ := works
  -- The first call that fails decides.
  cases wl
  · exact ⟨rfl, rfl⟩
  cases wm
  · exact ⟨rfl, rfl⟩
  cases pipe
  · exact ⟨rfl, rfl⟩
  cases abstractDup
  · exact ⟨rfl, rfl⟩
  cases unixDup
  · exact ⟨rfl, rfl⟩
  cases fork
  · exact ⟨rfl, rfl⟩
  cases exec
  · exact ⟨rfl, rfl⟩
  cases client
  · exact ⟨rfl, rfl⟩
  · exact ⟨rfl, rfl⟩

section Steps

variable {base : Descriptors File} {table next : Table File} {m : Machine}
variable {parked : Parked} {st : XwaylandState}

private theorem related_spawnXserver (owned : Owned base table) (alive : table.parked = some parked)
    (related : Related (some parked) (some st)) {request : Request}
    (abstractOpen : (table.fds.lookup request.abstractFd).isSome)
    (unixOpen : (table.fds.lookup request.unixFd).isSome) (ends : Ends File) (works : Works)
    (env : List Spawn.Entry) (spawn : Spawn) (pid : Int) :
    Related (table.spawnXserver parked request ends works env).parked
      (some (st.spawnXserverBody spawn (works.outcome pid)).2.1) := by
  obtain ⟨abstractSocket, abstractIs⟩ := Option.isSome_iff_exists.mp abstractOpen
  obtain ⟨unixSocket, unixIs⟩ := Option.isSome_iff_exists.mp unixOpen
  have left := (spawnXserver_outcome request ends works env parked table.fds abstractIs
    unixIs (owned.parkedOpen alive)).left
  rw [(spawnXserverBody_outcome st spawn works pid).2]
  unfold Table.spawnXserver
  dsimp only
  split at left
  · rename_i connected
    rw [left.parks, if_pos connected]
    -- `rfl` would compare the numbers first.
    exact .alive (Eq.refl true) (Eq.refl true) rfl
  · rename_i undone
    rw [left.parked, if_neg undone]
    exact related

private theorem Related.gone_of_none {xwayland : Option XwaylandState}
    (related : Related none xwayland) :
    xwayland = none := by
  cases related
  rfl

private theorem Related.alive_of_some {xwayland : Option XwaylandState}
    (related : Related (some parked) xwayland) :
    ∃ st, xwayland = some st ∧ Related (some parked) (some st) := by
  cases related with
  | alive wm pipe source => exact ⟨_, rfl, .alive wm pipe source⟩

private theorem related_displayFdBody (alive : table.parked = some parked)
    (related : Related (some parked) (some st)) (readable : Bool) (read : ReadResult)
    (spawn : Spawn) :
    Related (table.displayFdBody parked readable read).parked
      (some (st.displayFdBody spawn readable read).2.1) := by
  unfold Table.displayFdBody XwaylandState.displayFdBody
  cases line : XwaylandState.readDisplayFd readable read with
  | none =>
      dsimp only
      rw [alive]
      exact related
  | some complete =>
      obtain _ | ⟨wm, pipe, source⟩ := related
      cases complete with
      | false => exact .alive wm rfl rfl
      | true => exact .alive rfl rfl rfl

/-! ### The machine's steps -/

private theorem step_spawnXserver (held : m.xwayland = some st) (outcome : SpawnOutcome) :
    ∃ after, m.Step (.spawnXserver outcome) after ∧
      after.xwayland = some (st.spawnXserverBody m.spawns outcome).2.1 := by
  unfold Machine.Step Machine.step
  rw [held]
  exact ⟨_, rfl, rfl⟩

private theorem step_spawnXserver_gone (gone : m.xwayland = none) (outcome : SpawnOutcome) :
    ∃ after, m.Step (.spawnXserver outcome) after ∧ after.xwayland = none := by
  unfold Machine.Step Machine.step
  rw [gone]
  exact ⟨_, rfl, rfl⟩

private theorem step_displayFd (held : m.xwayland = some st) {spawn : Spawn}
    (watch : st.displayFdSource = some spawn) (readable : Bool) (read : ReadResult) :
    ∃ after, m.Step (.displayFd readable read) after ∧
      after.xwayland = some (st.displayFdBody spawn readable read).2.1 := by
  unfold Machine.Step Machine.step
  simp only [held, watch]
  exact ⟨_, rfl, rfl⟩

private theorem step_teardown (m : Machine) :
    ∃ after, m.Step .teardown after ∧ after.xwayland = none := by
  unfold Machine.Step Machine.step
  cases held : m.xwayland with
  | none => exact ⟨m, rfl, held⟩
  | some st => exact ⟨_, rfl, rfl⟩

/-- An exit takes no slot but that of the server. -/
private theorem step_childExit {parked : Option Parked} (related : Related parked m.xwayland)
    (pid : Int) :
    ∃ after, m.Step (.childExit pid) after ∧ Related parked after.xwayland := by
  unfold Machine.Step Machine.step
  cases held : m.xwayland with
  | none => exact ⟨m, rfl, related⟩
  | some st =>
      refine ⟨_, rfl, ?_⟩
      rw [held] at related
      obtain _ | ⟨wm, pipe, source⟩ := related
      dsimp only
      split
      · exact .alive wm pipe source
      · split
        · exact .alive wm pipe source
        · exact .alive wm pipe source

/-- A step of the table is a step of the machine, or none where only libwayland or the module
closes something. -/
theorem related_step (owned : Owned base table) (related : Related table.parked m.xwayland)
    {event : Event File} (taken : table.Step event next) (pid : Int) :
    ∃ after, Run Machine.Step m (event.label pid).toList after ∧
      Related next.parked after.xwayland := by
  cases event with
  | spawnXserver request ends works env =>
      cases alive : table.parked with
      | none =>
          simp only [Table.Step, Table.step, alive] at taken
          cases taken
          rw [alive] at related
          obtain ⟨after, moved, gone⟩ :=
            step_spawnXserver_gone related.gone_of_none (works.outcome pid)
          refine ⟨after, .single moved, ?_⟩
          rw [alive, gone]
          exact .gone
      | some parked =>
          simp only [Table.Step, Table.step, alive] at taken
          obtain ⟨sockets, same⟩ := Option.ite_none_right_eq_some.mp taken
          obtain ⟨abstractOpen, unixOpen⟩ := Bool.and_eq_true_iff.mp sockets
          cases same
          rw [alive] at related
          obtain ⟨st, held, live⟩ := related.alive_of_some
          obtain ⟨after, moved, reached⟩ := step_spawnXserver held (works.outcome pid)
          refine ⟨after, .single moved, ?_⟩
          rw [reached]
          exact related_spawnXserver owned alive live abstractOpen unixOpen ends works env _ pid
  | displayFd readable read =>
      cases alive : table.parked with
      | none => simp [Table.Step, Table.step, alive] at taken
      | some parked =>
          simp only [Table.Step, Table.step, alive] at taken
          obtain ⟨kept, same⟩ := Option.ite_none_right_eq_some.mp taken
          cases same
          rw [alive] at related
          obtain ⟨st, held, live⟩ := related.alive_of_some
          have watched : st.displayFdSource.isSome := by
            cases live with
            | alive wm pipe source => rw [source, ← pipe, kept]
          obtain ⟨spawn, watch⟩ := Option.isSome_iff_exists.mp watched
          obtain ⟨after, moved, reached⟩ := step_displayFd held watch readable read
          refine ⟨after, .single moved, ?_⟩
          rw [reached]
          exact related_displayFdBody alive live readable read spawn
  | childExit exited =>
      cases taken
      obtain ⟨after, moved, reached⟩ := step_childExit related exited
      exact ⟨after, .single moved, reached⟩
  | managerGone fd =>
      obtain ⟨-, same⟩ := Option.ite_none_right_eq_some.mp taken
      cases same
      exact ⟨m, .nil, related⟩
  | clientGone fd =>
      obtain ⟨-, same⟩ := Option.ite_none_right_eq_some.mp taken
      cases same
      exact ⟨m, .nil, related⟩
  | teardown =>
      obtain ⟨after, moved, gone⟩ := step_teardown m
      refine ⟨after, .single moved, ?_⟩
      rw [gone]
      cases alive : table.parked with
      | none =>
          simp only [Table.Step, Table.step, alive] at taken
          cases taken
          rw [alive]
          exact .gone
      | some parked =>
          simp only [Table.Step, Table.step, alive] at taken
          cases taken
          exact .gone

end Steps

/-- Every run over the table is a run of the machine, with a launch for every launch and a
callback for every callback, that ends with the same slots taken. -/
theorem tables_simulated {base : Descriptors File} {events : List (Event File)}
    {table : Table File} (run : Run Table.Step (.start base) events table) (pid : Int) :
    ∃ m, Run Machine.Step .start (events.filterMap (Event.label pid)) m ∧
      Related table.parked m.xwayland := by
  induction run with
  | nil => exact ⟨.start, .nil, .alive rfl rfl rfl⟩
  | @snoc table next events event before taken ih =>
      obtain ⟨m, reached, related⟩ := ih
      obtain ⟨after, moved, still⟩ := related_step (Owned.run before) related taken pid
      refine ⟨after, ?_, still⟩
      have labels : (events ++ [event]).filterMap (Event.label pid) =
          events.filterMap (Event.label pid) ++ (event.label pid).toList := by
        rw [List.filterMap_append]
        cases event <;> rfl
      rw [labels]
      exact reached.append moved

theorem tables_simulated_three :
    ∃ table m, Run Table.Step (.start listening) threeServers table ∧
      Run Machine.Step .start (threeServers.filterMap (Event.label 7)) m ∧
      Related table.parked m.xwayland := by
  have goes : (follow Table.step (.start listening) threeServers).isSome := by
    decide +kernel
  obtain ⟨table, found⟩ := Option.isSome_iff_exists.mp goes
  have run : Run Table.Step (.start listening) threeServers table := run_of_follow found
  obtain ⟨m, moved, related⟩ := tables_simulated run 7
  exact ⟨table, m, run, moved, related⟩

end Westonite.Xwayland.Launch
