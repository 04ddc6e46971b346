import Westonite.Xwayland.Machine

/-! What one call into the glue can do. -/

set_option autoImplicit false

namespace Westonite.Xwayland

/-- The spawn a call is about. -/
def Call.spawn : Call → Spawn
  | .wmOpened spawn | .wmClosed spawn | .pipeOpened spawn | .pipeClosed spawn | .tracked spawn
  | .sourceAdded spawn | .sourceRemoved spawn | .lineRead spawn | .xserverLoaded spawn
  | .xserverExited spawn => spawn

/-- The calls of a spawn that fails: it closes what it opened. -/
inductive Failed (spawn : Spawn) : List Call → Prop where
  | nothing : Failed spawn []
  | noPipe : Failed spawn [.wmOpened spawn, .wmClosed spawn]
  | noServer :
      Failed spawn [.wmOpened spawn, .pipeOpened spawn, .pipeClosed spawn, .wmClosed spawn]

/-- The calls of a spawn that succeeds: it closes what an earlier server left. -/
def XwaylandState.createdCalls (st : XwaylandState) (spawn : Spawn) (source : Option Spawn) :
    List Call :=
  [.wmOpened spawn, .pipeOpened spawn, .tracked spawn] ++ st.wmFd.toList.map .wmClosed ++
    st.closeDisplayWatch.2 ++ source.toList.map .sourceAdded

/-- A step, by the slots it fills and empties. -/
inductive Transition (m : Machine) : Label → Machine → Prop where
  | gone {outcome : SpawnOutcome} :
      m.xwayland = none →
      Transition m (.spawnXserver outcome) { m with spawns := m.spawns + 1 }
  | same {label : Label} :
      (∀ readable read, label = .displayFd readable read →
        XwaylandState.readDisplayFd readable read = none) →
      Transition m label m
  | failed {outcome : SpawnOutcome} {calls : List Call} :
      Failed m.spawns calls →
      Transition m (.spawnXserver outcome)
        { m with spawns := m.spawns + 1, calls := m.calls ++ calls }
  | created {st : XwaylandState} {pid : Int} {watched : Bool} {source : Option Spawn} :
      m.xwayland = some st → (∀ spawn, source = some spawn → spawn = m.spawns) →
      Transition m (.spawnXserver (.created pid watched))
        { xwayland := some ⟨some ⟨pid, m.spawns⟩, some m.spawns, source, some m.spawns⟩
          spawns := m.spawns + 1
          calls := m.calls ++ st.createdCalls m.spawns source }
  | unready {st : XwaylandState} {spawn : Spawn} {readable : Bool} {read : ReadResult} :
      m.xwayland = some st → st.displayFdSource = some spawn →
      XwaylandState.readDisplayFd readable read = some false →
      Transition m (.displayFd readable read)
        { m with
          xwayland := some ⟨st.pid, st.wmFd, none, none⟩
          calls := m.calls ++ st.closeDisplayWatch.2 }
  | ready {st : XwaylandState} {spawn : Spawn} {readable : Bool} {read : ReadResult} :
      m.xwayland = some st → st.displayFdSource = some spawn →
      XwaylandState.readDisplayFd readable read = some true →
      Transition m (.displayFd readable read)
        { m with
          xwayland := some ⟨st.pid, none, none, none⟩
          calls := m.calls ++
            (.lineRead spawn :: (st.wmFd.toList.map .xserverLoaded ++ st.closeDisplayWatch.2)) }
  | exited {st : XwaylandState} {server : Server} :
      m.xwayland = some st → st.pid = some server →
      Transition m (.childExit server.pid)
        { m with
          xwayland := some { st with pid := none }
          calls := m.calls ++ [.xserverExited server.spawn] }
  | teardown {st : XwaylandState} :
      m.xwayland = some st →
      Transition m .teardown { m with xwayland := none, calls := m.calls ++ st.teardown }

namespace Machine

variable {m next : Machine} {label : Label}

private theorem transition_spawn {st : XwaylandState} (alive : m.xwayland = some st)
    (outcome : SpawnOutcome) :
    Transition m (.spawnXserver outcome)
      { xwayland := some (st.spawnXserverBody m.spawns outcome).2.1
        spawns := m.spawns + 1
        calls := m.calls ++ (st.spawnXserverBody m.spawns outcome).2.2 } := by
  have failed : ∀ calls, Failed m.spawns calls →
      Transition m (.spawnXserver outcome)
        { xwayland := some st, spawns := m.spawns + 1, calls := m.calls ++ calls } := by
    intro calls failed
    rw [← alive]
    exact .failed failed
  cases outcome with
  | wlSocketpairFailed => exact failed _ .nothing
  | wmSocketpairFailed => exact failed _ .nothing
  | pipeFailed => exact failed _ .noPipe
  | dupFailed => exact failed _ .noServer
  | launchFailed => exact failed _ .noServer
  | clientFailed pid => exact failed _ .noServer
  | created pid watched =>
      apply Transition.created alive
      intro spawn installed
      cases watched with
      | false => cases installed
      | true =>
          cases installed
          rfl

private theorem transition_displayFd {st : XwaylandState} {spawn : Spawn} {readable : Bool}
    {read : ReadResult} (alive : m.xwayland = some st)
    (installed : st.displayFdSource = some spawn) :
    Transition m (.displayFd readable read)
      { m with
        xwayland := some (st.displayFdBody spawn readable read).2.1
        calls := m.calls ++ (st.displayFdBody spawn readable read).2.2 } := by
  unfold XwaylandState.displayFdBody
  cases line : XwaylandState.readDisplayFd readable read with
  | none =>
      rw [← alive, List.append_nil]
      apply Transition.same
      intro _ _ same
      cases same
      exact line
  | some complete =>
      cases complete with
      | false => exact .unready alive installed line
      | true => exact .ready alive installed line

private theorem transition_childExit {st : XwaylandState} (alive : m.xwayland = some st)
    (pid : Int) :
    Transition m (.childExit pid)
      { m with
        xwayland := some (st.handleChildExit pid).2.1
        calls := m.calls ++ (st.handleChildExit pid).2.2 } := by
  unfold XwaylandState.handleChildExit
  cases tracked : st.pid with
  | none =>
      rw [← alive, List.append_nil]
      exact .same (by intro _ _ same; cases same)
  | some server =>
      dsimp only
      split
      · rename_i same
        rw [← same]
        exact .exited alive tracked
      · rw [← alive, List.append_nil]
        exact .same (by intro _ _ same; cases same)

theorem transition (taken : Step m label next) : Transition m label next := by
  unfold Step step at taken
  cases alive : m.xwayland with
  | none =>
      rw [alive] at taken
      cases label with
      | spawnXserver outcome =>
          cases taken
          rw [← alive]
          exact .gone alive
      | displayFd readable read => cases taken
      | childExit pid =>
          cases taken
          exact .same (by intro _ _ same; cases same)
      | teardown =>
          cases taken
          exact .same (by intro _ _ same; cases same)
  | some st =>
      rw [alive] at taken
      cases label with
      | spawnXserver outcome =>
          cases taken
          exact transition_spawn alive outcome
      | displayFd readable read =>
          dsimp only at taken
          cases installed : st.displayFdSource with
          | none =>
              rw [installed] at taken
              cases taken
          | some spawn =>
              rw [installed] at taken
              cases taken
              exact transition_displayFd alive installed
      | childExit pid =>
          cases taken
          exact transition_childExit alive pid
      | teardown =>
          cases taken
          exact .teardown alive

end Machine

end Westonite.Xwayland
