import Westonite.Children.Transition

/-! The wrapper finds the child a SIGCHLD is about by its pid alone, and the kernel
uses pids again. In every run it acts as if it knew the child itself. -/

set_option autoImplicit false

namespace Westonite.Children

open Library Xwayland

/-- What the exit of a child that is still in its slot makes the wrapper do. -/
def Owner.reaction (xserverPath : String) (status : Nat) : Owner → List Effect
  | .autolaunch watch =>
      if watch then [.line "westonite: autolaunched client exited, terminating", .terminate]
      else []
  | .xserver spawn => [logChildExit xserverPath status, .xwayland (.xserverExited spawn)]
  | .orphan => []
  | .screenshooter exe => [logChildExit exe status]

namespace Machine

/-- A later child took the slot. -/
def superseded (m : Machine) (launch : Nat) (owner : Owner) : Bool :=
  (m.launched.drop (launch + 1)).any fun later => later.slot = owner.slot

/-- What the wrapper owes a child that waits to be reaped, by what it was launched as. -/
def reaction (m : Machine) (pid : Int) : List Effect :=
  match m.processes.lookup pid with
  | some ⟨launch, owner, some status⟩ =>
      if m.superseded launch owner then [] else owner.reaction m.xserverPath status
  | _ => []

/-- The child a slot of the wrapper holds. -/
def held (m : Machine) : Slot → Option (Int × Owner)
  | .autolaunch => m.autolaunch.map fun entry => (entry.1, .autolaunch entry.2)
  | .xserver => m.xwayland.server.map fun server => (server.pid, .xserver server.spawn)
  | .screenshooter =>
      m.screenshooter.pid.map fun pid =>
        (pid, .screenshooter (m.screenshooter.exe.getD ""))

/-- Every slot holds the last child launched for it, while the kernel has it. -/
structure Tracked (m : Machine) : Prop where
  launched : ∀ pid process, m.processes.lookup pid = some process →
    m.launched[process.launch]? = some process.owner
  distinct : ∀ pid other process process', m.processes.lookup pid = some process →
    m.processes.lookup other = some process' → process.launch = process'.launch → pid = other
  held_iff : m.running → ∀ slot pid owner, m.held slot = some (pid, owner) ↔
    ∃ launch status, m.processes.lookup pid = some ⟨launch, owner, status⟩ ∧
      owner.slot = some slot ∧ m.superseded launch owner = false
  named : m.screenshooter.pid.isSome → m.screenshooter.exe.isSome

variable {m next : Machine}

/-! ### The turns of the loop -/

private theorem reap_autolaunch {pid : Int} {watch : Bool} (status : Nat)
    (held : m.autolaunch = some (pid, watch)) :
    m.reap pid status =
      { m with
        processes := m.processes.erase pid
        autolaunch := none
        effects := m.effects ++ (Owner.autolaunch watch).reaction m.xserverPath status } := by
  simp only [reap, held, if_pos]
  rfl

private theorem reap_other {pid : Int} (status : Nat)
    (other : ∀ watch, m.autolaunch ≠ some (pid, watch)) :
    m.reap pid status =
      { m with processes := m.processes.erase pid }.handleChildExit pid status := by
  unfold reap
  cases watched : m.autolaunch with
  | none => rfl
  | some entry =>
      have different : pid ≠ entry.1 := by
        intro same
        exact other entry.2 (by rw [watched, same])
      exact if_neg different

private theorem handleChildExit_xserver {pid : Int} {st : XwaylandState} {spawn : Spawn}
    (status : Nat)
    (alive : m.xwayland.xwayland = some st) (server : st.pid = some ⟨pid, spawn⟩) :
    m.handleChildExit pid status =
      { m with
        xwayland :=
          { m.xwayland with
            xwayland := some { st with pid := none }
            calls := m.xwayland.calls ++ [.xserverExited spawn] }
        effects := m.effects ++ (Owner.xserver spawn).reaction m.xserverPath status } := by
  have handled : st.handleChildExit pid =
      (true, { st with pid := none }, [.xserverExited spawn]) := by
    simp only [XwaylandState.handleChildExit, server, if_pos]
  simp only [handleChildExit, alive, Option.map_some, handled]
  rfl

private theorem handleChildExit_other {pid : Int} (status : Nat)
    (other : ∀ spawn, m.xwayland.server ≠ some ⟨pid, spawn⟩) :
    m.handleChildExit pid status =
      { m with
        screenshooter := (m.screenshooter.handleChildExit pid status).2.1
        effects := m.effects ++ (m.screenshooter.handleChildExit pid status).2.2 } := by
  unfold handleChildExit
  cases alive : m.xwayland.xwayland with
  | none => rfl
  | some st =>
      have missed : (st.handleChildExit pid).1 = false := by
        unfold XwaylandState.handleChildExit
        cases tracked : st.pid with
        | none => rfl
        | some server =>
            have different : server.pid ≠ pid := by
              intro same
              apply other server.spawn
              rw [Xwayland.Machine.server, alive, Option.bind_some, tracked, ← same]
            simp only [if_neg different]
      rcases result : st.handleChildExit pid with ⟨handled, after, calls⟩
      rw [result] at missed
      cases missed
      simp only [Option.map_some, result]

/-! ### What is held and by whom -/

namespace Tracked

variable {pid : Int} {launch status : Nat} {owner : Owner} {slot : Slot}

/-- A slot that has the pid of a child is the slot of this child. -/
private theorem held_of_lookup (tracked : m.Tracked) (alive : m.running)
    {process : Process} (found : m.processes.lookup pid = some process)
    {other : Owner} (held : m.held slot = some (pid, other)) :
    other = process.owner ∧ process.owner.slot = some slot ∧
      m.superseded process.launch process.owner = false := by
  obtain ⟨launch, status, named, ofSlot, last⟩ := (tracked.held_iff alive slot pid other).mp held
  obtain rfl := Option.some.inj (named.symm.trans found)
  exact ⟨rfl, ofSlot, last⟩

/-- A child is in one slot at most. -/
private theorem slot_unique (tracked : m.Tracked) (alive : m.running) {other : Slot}
    {owner owner' : Owner} (first : m.held slot = some (pid, owner))
    (second : m.held other = some (pid, owner')) : slot = other := by
  obtain ⟨launch, status, named, ofSlot, last⟩ := (tracked.held_iff alive slot pid owner).mp first
  obtain ⟨_, ofOther, _⟩ := tracked.held_of_lookup alive named second
  exact Option.some.inj (ofSlot.symm.trans ofOther)

private theorem reaction_of_held (tracked : m.Tracked) (alive : m.running)
    (found : m.processes.lookup pid = some ⟨launch, owner, some status⟩)
    {other : Owner} (held : m.held slot = some (pid, other)) :
    other.reaction m.xserverPath status = m.reaction pid := by
  obtain ⟨rfl, _, last⟩ := tracked.held_of_lookup alive found held
  simp only [reaction, found, last, Bool.false_eq_true, if_false]

private theorem reaction_of_unheld (tracked : m.Tracked) (alive : m.running)
    (found : m.processes.lookup pid = some ⟨launch, owner, some status⟩)
    (unheld : ∀ slot other, m.held slot ≠ some (pid, other)) : m.reaction pid = [] := by
  simp only [reaction, found]
  cases last : m.superseded launch owner with
  | true => rfl
  | false =>
      cases ofSlot : owner.slot with
      | none =>
          cases owner with
          | orphan => rfl
          | autolaunch _ | xserver _ | screenshooter _ => cases ofSlot
      | some slot =>
          have held := (tracked.held_iff alive slot pid owner).mpr
            ⟨launch, some status, found, ofSlot, last⟩
          exact absurd held (unheld slot owner)

end Tracked

/-- What a turn of the loop changes. -/
structure Reaped (m : Machine) (pid : Int) (next : Machine) : Prop where
  effects : next.effects = m.effects ++ m.reaction pid
  held : ∀ slot, next.held slot = (m.held slot).filter fun entry => entry.1 ≠ pid
  processes : next.processes = m.processes.erase pid
  launched : next.launched = m.launched
  clients : next.clients = m.clients
  running : next.running = m.running
  xserverPath : next.xserverPath = m.xserverPath
  screenshooter : ∃ kept, next.screenshooter = { m.screenshooter with pid := kept } ∧
    (kept.isSome → m.screenshooter.pid.isSome)

/-- Slots that do not hold the pid do not change. -/
private theorem filter_held {pid : Int} {slot : Slot}
    (unheld : ∀ other, m.held slot ≠ some (pid, other)) :
    m.held slot = (m.held slot).filter fun entry => entry.1 ≠ pid := by
  cases holding : m.held slot with
  | none => rfl
  | some entry =>
      have different : entry.1 ≠ pid := by
        intro same
        exact unheld entry.2 (by rw [holding, ← same])
      simp [Option.filter, different]

/-- The slot that held the child is empty, and the others are as they were. -/
private theorem held_after {pid : Int} {slot : Slot} {owner : Owner} (tracked : m.Tracked)
    (alive : m.running) (held : m.held slot = some (pid, owner)) (cleared : next.held slot = none)
    (kept : ∀ other, other ≠ slot → next.held other = m.held other) (other : Slot) :
    next.held other = (m.held other).filter fun entry => entry.1 ≠ pid := by
  by_cases same : other = slot
  · subst same
    rw [held, cleared]
    simp [Option.filter]
  · rw [kept other same]
    apply filter_held
    intro owner' also
    exact same (tracked.slot_unique alive also held)

variable {pid : Int} {launch status : Nat} {owner : Owner}

private theorem reaped_autolaunch {watch : Bool} (tracked : m.Tracked) (alive : m.running)
    (found : m.processes.lookup pid = some ⟨launch, owner, some status⟩)
    (watched : m.autolaunch = some (pid, watch)) : m.Reaped pid (m.reap pid status) := by
  have held : m.held .autolaunch = some (pid, .autolaunch watch) := by
    simp only [Machine.held, watched, Option.map_some]
  rw [reap_autolaunch status watched]
  constructor
  case effects => rw [tracked.reaction_of_held alive found held]
  case held =>
    apply held_after tracked alive held rfl
    intro other different
    cases other with
    | autolaunch => exact absurd rfl different
    | xserver | screenshooter => rfl
  case screenshooter => exact ⟨m.screenshooter.pid, rfl, id⟩
  all_goals rfl

private theorem reaped_xserver {spawn : Spawn} (tracked : m.Tracked) (alive : m.running)
    (found : m.processes.lookup pid = some ⟨launch, owner, some status⟩)
    (notWatched : ∀ watch, m.autolaunch ≠ some (pid, watch))
    (serving : m.xwayland.server = some ⟨pid, spawn⟩) : m.Reaped pid (m.reap pid status) := by
  obtain ⟨st, up, server⟩ := Option.bind_eq_some_iff.mp serving
  have held : m.held .xserver = some (pid, .xserver spawn) := by
    simp only [Machine.held, serving, Option.map_some]
  rw [reap_other status notWatched,
    @handleChildExit_xserver { m with processes := m.processes.erase pid }
      pid st spawn status up server]
  constructor
  case effects => rw [tracked.reaction_of_held alive found held]
  case held =>
    apply held_after tracked alive held rfl
    intro other different
    cases other with
    | xserver => exact absurd rfl different
    | autolaunch | screenshooter => rfl
  case screenshooter => exact ⟨m.screenshooter.pid, rfl, id⟩
  all_goals rfl

private theorem reaped_screenshooter (tracked : m.Tracked) (alive : m.running)
    (found : m.processes.lookup pid = some ⟨launch, owner, some status⟩)
    (notWatched : ∀ watch, m.autolaunch ≠ some (pid, watch))
    (notServing : ∀ spawn, m.xwayland.server ≠ some ⟨pid, spawn⟩)
    (shooting : m.screenshooter.pid = some pid) : m.Reaped pid (m.reap pid status) := by
  have named : m.screenshooter.exe.isSome := tracked.named (by rw [shooting]; rfl)
  obtain ⟨exe, named⟩ := Option.isSome_iff_exists.mp named
  have held : m.held .screenshooter = some (pid, .screenshooter exe) := by
    simp only [Machine.held, shooting, named, Option.map_some, Option.getD_some]
  have handled : m.screenshooter.handleChildExit pid status =
      (true, { m.screenshooter with pid := none }, [logChildExit exe status]) := by
    simp only [ScreenshooterState.handleChildExit, shooting, named, if_pos]
    rfl
  rw [reap_other status notWatched,
    @handleChildExit_other { m with processes := m.processes.erase pid } pid status notServing,
    handled]
  constructor
  case effects =>
    rw [← tracked.reaction_of_held alive found held]
    rfl
  case held =>
    apply held_after tracked alive held rfl
    intro other different
    cases other with
    | screenshooter => exact absurd rfl different
    | autolaunch | xserver => rfl
  case screenshooter => exact ⟨none, rfl, by intro absent; cases absent⟩
  all_goals rfl

private theorem reaped_unknown (tracked : m.Tracked) (alive : m.running)
    (found : m.processes.lookup pid = some ⟨launch, owner, some status⟩)
    (notWatched : ∀ watch, m.autolaunch ≠ some (pid, watch))
    (notServing : ∀ spawn, m.xwayland.server ≠ some ⟨pid, spawn⟩)
    (notShooting : m.screenshooter.pid ≠ some pid) : m.Reaped pid (m.reap pid status) := by
  have unheld : ∀ slot other, m.held slot ≠ some (pid, other) := by
    intro slot other held
    cases slot with
    | autolaunch =>
        obtain ⟨entry, watched, same⟩ := Option.map_eq_some_iff.mp held
        cases same
        exact notWatched entry.2 watched
    | xserver =>
        obtain ⟨server, serving, same⟩ := Option.map_eq_some_iff.mp held
        cases same
        exact notServing server.spawn serving
    | screenshooter =>
        obtain ⟨shooter, shooting, same⟩ := Option.map_eq_some_iff.mp held
        cases same
        exact notShooting shooting
  have handled : m.screenshooter.handleChildExit pid status = (false, m.screenshooter, []) := by
    simp only [ScreenshooterState.handleChildExit, if_neg notShooting]
  rw [reap_other status notWatched,
    @handleChildExit_other { m with processes := m.processes.erase pid } pid status notServing,
    handled]
  constructor
  case effects => rw [tracked.reaction_of_unheld alive found unheld]
  case held =>
    intro slot
    exact filter_held (unheld slot)
  case screenshooter => exact ⟨m.screenshooter.pid, rfl, id⟩
  all_goals rfl

/-- One turn of the loop answers for the child itself. -/
theorem reap_spec (tracked : m.Tracked) (alive : m.running)
    (found : m.processes.lookup pid = some ⟨launch, owner, some status⟩) :
    m.Reaped pid (m.reap pid status) := by
  by_cases watched : ∃ watch, m.autolaunch = some (pid, watch)
  · obtain ⟨watch, watched⟩ := watched
    exact reaped_autolaunch tracked alive found watched
  have notWatched := not_exists.mp watched
  by_cases serving : ∃ spawn, m.xwayland.server = some ⟨pid, spawn⟩
  · obtain ⟨spawn, serving⟩ := serving
    exact reaped_xserver tracked alive found notWatched serving
  have notServing := not_exists.mp serving
  by_cases shooting : m.screenshooter.pid = some pid
  · exact reaped_screenshooter tracked alive found notWatched notServing shooting
  · exact reaped_unknown tracked alive found notWatched notServing shooting

/-! ### Every step keeps the slots true -/

/-- `next` has one more child than `m`, in the slot of its kind. -/
structure Forked (m : Machine) (pid : Int) (owner : Owner) (next : Machine) : Prop where
  fresh : m.processes.lookup pid = none
  processes : next.processes = m.processes.insert pid ⟨m.launched.length, owner, none⟩
  launched : next.launched = m.launched ++ [owner]
  held : ∀ slot, next.held slot =
    if owner.slot = some slot then some (pid, owner) else m.held slot
  running : next.running = m.running
  named : next.screenshooter.pid.isSome → next.screenshooter.exe.isSome

/-- The children and the slots are as they were. -/
structure Settled (m next : Machine) : Prop where
  processes : next.processes = m.processes
  launched : next.launched = m.launched
  held : next.running → ∀ slot, next.held slot = m.held slot
  running : next.running → m.running
  named : next.screenshooter.pid.isSome → next.screenshooter.exe.isSome

theorem superseded_new {owner : Owner} (appended : next.launched = m.launched ++ [owner]) :
    next.superseded m.launched.length owner = false := by
  have drained : (m.launched ++ [owner]).drop (m.launched.length + 1) = [] := by
    rw [List.drop_eq_nil_iff, List.length_append]
    exact Nat.le_refl _
  rw [superseded, appended, drained]
  rfl

theorem superseded_append {owner other : Owner} {launch : Nat}
    (appended : next.launched = m.launched ++ [owner]) (earlier : launch < m.launched.length) :
    next.superseded launch other =
      (m.superseded launch other || decide (owner.slot = other.slot)) := by
  rw [superseded, appended, List.drop_append_of_le_length earlier, List.any_append]
  simp [superseded]

namespace Tracked

theorem earlier (tracked : m.Tracked) {process : Process}
    (found : m.processes.lookup pid = some process) : process.launch < m.launched.length :=
  (List.getElem?_eq_some_iff.mp (tracked.launched pid process found)).1

theorem settled (tracked : m.Tracked) (kept : m.Settled next) : next.Tracked where
  launched := by
    rw [kept.processes, kept.launched]
    exact tracked.launched
  distinct := by
    rw [kept.processes]
    exact tracked.distinct
  held_iff := by
    intro alive slot pid owner
    rw [kept.held alive, kept.processes]
    unfold superseded
    rw [kept.launched]
    exact tracked.held_iff (kept.running alive) slot pid owner
  named := kept.named

theorem forked (tracked : m.Tracked) (forked : m.Forked pid owner next) : next.Tracked where
  launched := by
    intro other process found
    rw [forked.processes, AssocMap.lookup_insert] at found
    rw [forked.launched]
    split at found
    · cases found
      exact List.getElem?_concat_length
    · rw [List.getElem?_append_left (tracked.earlier found)]
      exact tracked.launched other process found
  distinct := by
    intro first second process process' foundFirst foundSecond same
    rw [forked.processes, AssocMap.lookup_insert] at foundFirst foundSecond
    split at foundFirst <;> split at foundSecond
    · rename_i isFirst isSecond
      rw [isFirst, isSecond]
    · cases foundFirst
      have earlier := tracked.earlier foundSecond
      dsimp only at same
      omega
    · cases foundSecond
      have earlier := tracked.earlier foundFirst
      dsimp only at same
      omega
    · exact tracked.distinct first second process process' foundFirst foundSecond same
  held_iff := by
    intro alive slot other owner'
    rw [forked.held slot, forked.processes, AssocMap.lookup_insert]
    have before := tracked.held_iff (forked.running ▸ alive) slot other owner'
    constructor
    · intro held
      split at held
      · rename_i ofSlot
        cases held
        exact ⟨m.launched.length, none, if_pos rfl, ofSlot, superseded_new forked.launched⟩
      · rename_i elsewhere
        obtain ⟨launch, status, found, ofSlot, last⟩ := before.mp held
        have different : other ≠ pid := by
          intro same
          rw [same, forked.fresh] at found
          cases found
        refine ⟨launch, status, (if_neg different).trans found, ofSlot, ?_⟩
        rw [superseded_append forked.launched (tracked.earlier found), last, ofSlot]
        simpa using elsewhere
    · intro present
      obtain ⟨launch, status, found, ofSlot, last⟩ := present
      split at found
      · rename_i same
        cases found
        rw [if_pos ofSlot, same]
      · rw [superseded_append forked.launched (tracked.earlier found), ofSlot] at last
        obtain ⟨last, elsewhere⟩ := Bool.or_eq_false_iff.mp last
        rw [if_neg (of_decide_eq_false elsewhere)]
        exact before.mpr ⟨launch, status, found, ofSlot, last⟩
  named := forked.named

theorem exited (tracked : m.Tracked) (code : Nat)
    (found : m.processes.lookup pid = some ⟨launch, owner, none⟩) :
    { m with processes := m.processes.insert pid ⟨launch, owner, some code⟩ }.Tracked := by
  have same : ∀ other process,
      (m.processes.insert pid ⟨launch, owner, some code⟩).lookup other = some process →
      ∃ status, m.processes.lookup other = some { process with status := status } := by
    intro other process present
    rw [AssocMap.lookup_insert] at present
    split at present
    · rename_i isPid
      cases present
      exact ⟨none, isPid ▸ found⟩
    · exact ⟨process.status, present⟩
  constructor
  case launched =>
    intro other process present
    obtain ⟨status, before⟩ := same other process present
    exact tracked.launched other { process with status := status } before
  case distinct =>
    intro first second process process' presentFirst presentSecond sameLaunch
    obtain ⟨status, before⟩ := same first process presentFirst
    obtain ⟨status', before'⟩ := same second process' presentSecond
    exact tracked.distinct first second _ _ before before' sameLaunch
  case held_iff =>
    intro alive slot other owner'
    apply Iff.trans (tracked.held_iff alive slot other owner')
    constructor
    · intro present
      obtain ⟨launch', status, before, ofSlot, last⟩ := present
      by_cases isPid : other = pid
      · rw [isPid, found] at before
        cases before
        refine ⟨launch, some code, ?_, ofSlot, last⟩
        rw [AssocMap.lookup_insert, if_pos isPid]
      · refine ⟨launch', status, ?_, ofSlot, last⟩
        rw [AssocMap.lookup_insert, if_neg isPid]
        exact before
    · intro present
      obtain ⟨launch', status, after, ofSlot, last⟩ := present
      obtain ⟨status', before⟩ := same other _ after
      exact ⟨launch', status', before, ofSlot, last⟩
  case named => exact tracked.named

theorem reaped (tracked : m.Tracked) (reaped : m.Reaped pid next) : next.Tracked where
  launched := by
    intro other process found
    rw [reaped.processes, AssocMap.lookup_erase_eq_some] at found
    rw [reaped.launched]
    exact tracked.launched other process found.2
  distinct := by
    intro first second process process' foundFirst foundSecond
    rw [reaped.processes, AssocMap.lookup_erase_eq_some] at foundFirst foundSecond
    exact tracked.distinct first second process process' foundFirst.2 foundSecond.2
  held_iff := by
    intro alive slot other owner'
    have before := tracked.held_iff (reaped.running ▸ alive) slot other owner'
    rw [reaped.held slot, Option.filter_eq_some_iff, before, reaped.processes]
    unfold superseded
    rw [reaped.launched]
    simp only [AssocMap.lookup_erase_eq_some, decide_eq_true_iff]
    constructor
    · intro present
      obtain ⟨⟨launch, status, found, ofSlot, last⟩, different⟩ := present
      exact ⟨launch, status, ⟨different, found⟩, ofSlot, last⟩
    · intro present
      obtain ⟨launch, status, ⟨different, found⟩, ofSlot, last⟩ := present
      exact ⟨⟨launch, status, found, ofSlot, last⟩, different⟩
  named := by
    obtain ⟨kept, same, tracking⟩ := reaped.screenshooter
    rw [same]
    intro present
    exact tracked.named (tracking present)

end Tracked

/-! ### SIGCHLD -/

/-- What `on_sigchld` leaves. -/
structure Answered (m : Machine) (order : List Int) (next : Machine) : Prop where
  effects : next.effects = m.effects ++ order.flatMap m.reaction
  processes : ∀ pid process, next.processes.lookup pid = some process ↔
    pid ∉ order ∧ m.processes.lookup pid = some process
  waited : ∀ pid ∈ order, ∃ launch owner status,
    m.processes.lookup pid = some ⟨launch, owner, some status⟩
  nodup : order.Nodup
  allReaped : next.allReaped
  launched : next.launched = m.launched
  clients : next.clients = m.clients
  screenshooter : ∃ kept, next.screenshooter = { m.screenshooter with pid := kept }
  tracked : next.Tracked

private theorem reaction_of_reaped {other : Int} (reaped : m.Reaped pid next)
    (different : other ≠ pid) :
    next.reaction other = m.reaction other := by
  unfold reaction superseded
  rw [reaped.processes, reaped.launched, reaped.xserverPath, AssocMap.lookup_erase,
    if_neg different]

theorem onSigchld_spec {order : List Int} (tracked : m.Tracked) (alive : m.running)
    (taken : m.onSigchld order = some next) : m.Answered order next := by
  induction order generalizing m with
  | nil =>
      unfold onSigchld at taken
      split at taken
      · rename_i clean
        cases taken
        constructor
        case effects => rw [List.flatMap_nil, List.append_nil]
        case processes => simp
        case waited => simp
        case nodup => exact List.nodup_nil
        case allReaped => exact clean
        case screenshooter => exact ⟨_, rfl⟩
        case tracked => exact tracked
        all_goals rfl
      · contradiction
  | cons pid order ih =>
      unfold onSigchld at taken
      split at taken
      · rename_i launch owner status found
        have reaped := reap_spec tracked alive found
        have rest := ih (tracked.reaped reaped) (reaped.running ▸ alive) taken
        have others : ∀ other ∈ order, other ≠ pid := by
          intro other member same
          obtain ⟨launch', owner', status', present⟩ := rest.waited other member
          rw [reaped.processes, AssocMap.lookup_erase, if_pos same] at present
          cases present
        constructor
        case effects =>
          have same : order.flatMap (m.reap pid status).reaction = order.flatMap m.reaction := by
            apply List.flatMap_congr
            intro other member
            exact reaction_of_reaped reaped (others other member)
          rw [rest.effects, reaped.effects, same, List.flatMap_cons, List.append_assoc]
        case processes =>
          intro other process
          rw [rest.processes, reaped.processes, AssocMap.lookup_erase_eq_some, List.mem_cons]
          tauto
        case waited =>
          intro other member
          rcases List.mem_cons.mp member with rfl | later
          · exact ⟨launch, owner, status, found⟩
          · obtain ⟨launch', owner', status', present⟩ := rest.waited other later
            rw [reaped.processes, AssocMap.lookup_erase_eq_some] at present
            exact ⟨launch', owner', status', present.2⟩
        case nodup =>
          rw [List.nodup_cons]
          refine ⟨?_, rest.nodup⟩
          intro member
          exact others pid member rfl
        case allReaped => exact rest.allReaped
        case launched => rw [rest.launched, reaped.launched]
        case clients => rw [rest.clients, reaped.clients]
        case screenshooter =>
          obtain ⟨first, same, _⟩ := reaped.screenshooter
          obtain ⟨kept, after⟩ := rest.screenshooter
          exact ⟨kept, by rw [after, same]⟩
        case tracked => exact rest.tracked
      · contradiction

/-! ### Every run -/

theorem transition_tracked {label : Label} (tracked : m.Tracked)
    (taken : Transition m label next) : next.Tracked := by
  cases taken with
  | exits found => exact tracked.exited _ found
  | @autolaunch pid watch _ fresh =>
      apply @Tracked.forked m _ pid (.autolaunch watch) tracked
      constructor
      case fresh => exact fresh
      case held => intro slot; cases slot <;> rfl
      case named => exact tracked.named
      all_goals rfl
  | @served pid watched after calls _ fresh server =>
      apply @Tracked.forked m _ pid (.xserver m.xwayland.spawns) tracked
      constructor
      case fresh => exact fresh
      case held =>
        intro slot
        cases slot with
        | xserver =>
            simp only [held, server]
            rfl
        | autolaunch | screenshooter => rfl
      case named => exact tracked.named
      all_goals rfl
  | @orphaned pid after calls _ fresh server =>
      apply @Tracked.forked m _ pid .orphan tracked
      constructor
      case fresh => exact fresh
      case held =>
        intro slot
        cases slot with
        | xserver =>
            simp only [held, server]
            rfl
        | autolaunch | screenshooter => rfl
      case named => exact tracked.named
      all_goals rfl
  | @clientFailed exe pid texts _ _ fresh =>
      apply @Tracked.forked m _ pid (.screenshooter exe) tracked
      constructor
      case fresh => exact fresh
      case held => intro slot; cases slot <;> rfl
      case named => intro _; rfl
      all_goals rfl
  | @shot exe pid client texts _ _ fresh _ =>
      apply @Tracked.forked m _ pid (.screenshooter exe) tracked
      constructor
      case fresh => exact fresh
      case held => intro slot; cases slot <;> rfl
      case named => intro _; rfl
      all_goals rfl
  | unserved _ server | displayFd _ server =>
      apply tracked.settled
      constructor
      case held =>
        intro _ slot
        cases slot with
        | xserver => simp only [held, server]
        | autolaunch | screenshooter => rfl
      case running => exact id
      case named => exact tracked.named
      all_goals rfl
  | @clientDies client _ =>
      apply tracked.settled
      constructor
      case held =>
        intro _ slot
        cases slot with
        | screenshooter =>
            simp only [held, ScreenshooterState.clientDestroyed]
            split <;> rfl
        | autolaunch | xserver => rfl
      case running => exact id
      case named =>
        simp only [ScreenshooterState.clientDestroyed]
        split
        · exact tracked.named
        · exact tracked.named
      all_goals rfl
  | sigchld alive answered => exact (onSigchld_spec tracked alive answered).tracked
  | teardown _ =>
      apply tracked.settled
      constructor
      case held => intro alive; cases alive
      case running => intro alive; cases alive
      case named => exact tracked.named
      all_goals rfl
  | unshot _ | recorderStopped _ _ | recorderStarted _ _ | noOutput _ | connects _ _
  | attempts _ =>
      apply tracked.settled
      constructor
      case held => intro _ slot; cases slot <;> rfl
      case running => exact id
      case named => exact tracked.named
      all_goals rfl

theorem tracked_start (loaded : Bool) (xserverPath : String) :
    (start loaded xserverPath).Tracked where
  launched := by intro pid process found; cases found
  distinct := by intro pid other process process' found; cases found
  held_iff := by
    intro _ slot pid owner
    constructor
    · intro held
      cases slot with
      | autolaunch | screenshooter => cases held
      | xserver => cases loaded <;> cases held
    · intro present
      obtain ⟨launch, status, found, _⟩ := present
      cases found
  named := by intro absent; cases absent

theorem tracked_run {loaded : Bool} {xserverPath : String} {labels : List Label}
    (run : Run Step (start loaded xserverPath) labels m) : m.Tracked := by
  have keeps : ∀ state label next, Tracked state → Step state label next → Tracked next := by
    intro state label next tracked taken
    exact transition_tracked tracked (transition taken)
  exact Run.invariant keeps (tracked_start loaded xserverPath) run

/-- In every run, a SIGCHLD reaps exactly the children that wait, each once, and
answers for each by what it was launched as: in its own words while its slot is its
own, and not at all once a later child took the slot. -/
theorem sigchld_answers {loaded : Bool} {xserverPath : String} {labels : List Label}
    {order : List Int} (run : Run Step (start loaded xserverPath) labels m)
    (taken : Step m (.sigchld order) next) :
    next.effects = m.effects ++ order.flatMap m.reaction ∧ order.Nodup ∧
    (∀ pid, pid ∈ order ↔
      ∃ launch owner status, m.processes.lookup pid = some ⟨launch, owner, some status⟩) ∧
    ∀ pid process, next.processes.lookup pid = some process ↔
      m.processes.lookup pid = some process ∧ process.status = none := by
  have tracked := tracked_run run
  have answered : m.Answered order next := by
    cases transition taken with
    | sigchld alive answered => exact onSigchld_spec tracked alive answered
  have clean : ∀ pid process, next.processes.lookup pid = some process → process.status = none := by
    intro pid process found
    have each := List.all_eq_true.mp answered.allReaped ⟨pid, process⟩
      (AssocMap.mem_entries_iff.mpr found)
    exact Option.isNone_iff_eq_none.mp each
  have given : ∀ pid, pid ∈ order ↔
      ∃ launch owner status, m.processes.lookup pid = some ⟨launch, owner, some status⟩ := by
    intro pid
    constructor
    · exact answered.waited pid
    · intro waiting
      obtain ⟨launch, owner, status, found⟩ := waiting
      by_contra missed
      have left := clean pid _ ((answered.processes pid _).mpr ⟨missed, found⟩)
      cases left
  refine ⟨answered.effects, answered.nodup, given, ?_⟩
  intro pid process
  rw [answered.processes]
  constructor
  · intro left
    exact ⟨left.2, clean pid process ((answered.processes pid process).mpr left)⟩
  · intro left
    obtain ⟨found, idle⟩ := left
    refine ⟨?_, found⟩
    intro member
    obtain ⟨launch, owner, status, waiting⟩ := (given pid).mp member
    rw [found] at waiting
    cases waiting
    cases idle

/-- A second screenshot client takes the slot of one that still runs, at its address. -/
def reused : List Label :=
  [.autolaunch 10 true, .superS (.started "shot" 11 1), .clientDies 1,
    .superS (.started "shot" 12 1), .exits 11 0, .exits 12 9, .exits 10 256]

theorem sigchld_answers_reused : ∃ m next : Machine,
    next.effects = m.effects ++ [11, 12, 10].flatMap m.reaction ∧
    [11, 12, 10].flatMap m.reaction =
      [.line "shot died on signal 9",
        .line "westonite: autolaunched client exited, terminating", .terminate] := by
  have reached : (follow step (start true "X") reused).map (fun m =>
      ([11, 12, 10].flatMap m.reaction, (m.step (.sigchld [11, 12, 10])).isSome)) =
      some ([.line "shot died on signal 9",
        .line "westonite: autolaunched client exited, terminating", .terminate], true) := by
    decide
  obtain ⟨m, found, same⟩ := Option.map_eq_some_iff.mp reached
  obtain ⟨next, taken⟩ := Option.isSome_iff_exists.mp (congrArg Prod.snd same)
  exact ⟨m, next, (sigchld_answers (run_of_follow found) taken).1, congrArg Prod.fst same⟩

end Machine

end Westonite.Children
