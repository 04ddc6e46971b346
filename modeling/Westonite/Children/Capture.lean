import Westonite.Children.Reaping

/-! Who may capture the screen, and the recorder. The wrapper knows its client by the
address alone, and the address of a dead client is used again. -/

set_option autoImplicit false

namespace Westonite.Children

open Library

namespace Machine

variable {m next : Machine}

/-- The slot of the capture client is the truth about the clients there are. -/
structure Guarded (m : Machine) : Prop where
  listening : m.running → m.screenshooter.clientDestroy = m.screenshooter.client
  client_iff : m.running → ∀ client, m.screenshooter.client = some client ↔
    ∃ launch, m.clients.lookup client = some (.screenshooter launch)
  latest : m.running → ∀ client launch, m.clients.lookup client = some (.screenshooter launch) →
    ∃ exe, m.launched[launch]? = some (.screenshooter exe) ∧
      m.superseded launch (.screenshooter exe) = false

namespace Guarded

/-- The clients, their slot and the launches are as they were. -/
theorem settled (guarded : m.Guarded) (running : next.running → m.running)
    (listening : next.running → next.screenshooter.clientDestroy = m.screenshooter.clientDestroy)
    (client : next.screenshooter.client = m.screenshooter.client)
    (clients : next.clients = m.clients) (launched : next.launched = m.launched) :
    next.Guarded where
  listening := by
    intro alive
    rw [listening alive, client]
    exact guarded.listening (running alive)
  client_iff := by
    intro alive
    rw [client, clients]
    exact guarded.client_iff (running alive)
  latest := by
    intro alive
    unfold superseded
    rw [clients, launched]
    exact guarded.latest (running alive)

/-- A child for another slot. -/
theorem forked {owner : Owner} (guarded : m.Guarded) (running : next.running → m.running)
    (screenshooter : next.screenshooter = m.screenshooter) (clients : next.clients = m.clients)
    (launched : next.launched = m.launched ++ [owner])
    (elsewhere : owner.slot ≠ some .screenshooter) : next.Guarded where
  listening := by
    intro alive
    rw [screenshooter]
    exact guarded.listening (running alive)
  client_iff := by
    intro alive
    rw [screenshooter, clients]
    exact guarded.client_iff (running alive)
  latest := by
    intro alive client launch made
    rw [clients] at made
    obtain ⟨exe, since, last⟩ := guarded.latest (running alive) client launch made
    have earlier : launch < m.launched.length := (List.getElem?_eq_some_iff.mp since).1
    refine ⟨exe, ?_, ?_⟩
    · rw [launched, List.getElem?_append_left earlier]
      exact since
    · rw [superseded_append launched earlier, last, Bool.false_or]
      exact decide_eq_false elsewhere

/-- Without a client in the slot no client is one of the screenshooter's. -/
private theorem unmade (guarded : m.Guarded) (alive : m.running)
    (idle : m.screenshooter.client = none) (client : Client) (launch : Nat) :
    m.clients.lookup client ≠ some (.screenshooter launch) := by
  intro made
  have held := (guarded.client_iff alive client).mpr ⟨launch, made⟩
  rw [idle] at held
  cases held

theorem connects {client : Client} (guarded : m.Guarded)
    (unused : m.clients.lookup client = none) :
    { m with clients := m.clients.insert client .other }.Guarded := by
  have same : ∀ other launch,
      (m.clients.insert client .other).lookup other = some (.screenshooter launch) ↔
      m.clients.lookup other = some (.screenshooter launch) := by
    intro other launch
    rw [AssocMap.lookup_insert]
    split
    · rename_i isClient
      rw [isClient, unused]
      simp
    · rfl
  constructor
  case listening => exact guarded.listening
  case client_iff =>
    intro alive other
    simp only [same]
    exact guarded.client_iff alive other
  case latest =>
    intro alive other launch made
    exact guarded.latest alive other launch ((same other launch).mp made)

theorem clientDies {client : Client} (guarded : m.Guarded) (alive : m.running) :
    { m with
      clients := m.clients.erase client
      screenshooter := m.screenshooter.clientDestroyed client }.Guarded := by
  have listening := guarded.listening alive
  unfold ScreenshooterState.clientDestroyed
  split
  · rename_i ours
    rw [listening] at ours
    have gone : ∀ other launch,
        (m.clients.erase client).lookup other ≠ some (.screenshooter launch) := by
      intro other launch made
      obtain ⟨different, made⟩ := AssocMap.lookup_erase_eq_some.mp made
      have held := (guarded.client_iff alive other).mpr ⟨launch, made⟩
      rw [ours] at held
      cases held
      exact different rfl
    constructor
    case listening => intro _; rfl
    case client_iff =>
      intro _ other
      constructor
      · intro held
        cases held
      · intro made
        obtain ⟨launch, made⟩ := made
        exact absurd made (gone other launch)
    case latest =>
      intro _ other launch made
      exact absurd made (gone other launch)
  · rename_i other
    rw [listening] at other
    constructor
    case listening => exact guarded.listening
    case client_iff =>
      intro _ asked
      rw [guarded.client_iff alive asked]
      simp only [AssocMap.lookup_erase_eq_some]
      constructor
      · intro made
        obtain ⟨launch, made⟩ := made
        refine ⟨launch, ?_, made⟩
        intro same
        exact other ((guarded.client_iff alive client).mpr ⟨launch, same ▸ made⟩)
      · intro made
        obtain ⟨launch, _, made⟩ := made
        exact ⟨launch, made⟩
    case latest =>
      intro _ asked launch made
      exact guarded.latest alive asked launch (AssocMap.lookup_erase_eq_some.mp made).2

theorem clientFailed {exe : String} {texts : List String} {pid : Int} (guarded : m.Guarded)
    (alive : m.running) (idle : m.screenshooter.client = none) :
    { m.forked pid (.screenshooter exe) with
      screenshooter := { m.screenshooter with pid := some pid, exe := some exe }
      effects := m.effects ++ texts.map Effect.line }.Guarded where
  listening := guarded.listening
  client_iff := guarded.client_iff
  latest := by
    intro _ client launch made
    exact absurd made (guarded.unmade alive idle client launch)

theorem shot {exe : String} {texts : List String} {pid : Int} {client : Client}
    (guarded : m.Guarded) (alive : m.running) (idle : m.screenshooter.client = none) :
    { m.forked pid (.screenshooter exe) with
      screenshooter :=
        { m.screenshooter with
          pid := some pid, exe := some exe
          client := some client, clientDestroy := some client }
      clients := m.clients.insert client (.screenshooter m.launched.length)
      effects := m.effects ++ texts.map Effect.line }.Guarded := by
  have made_iff : ∀ other launch,
      (m.clients.insert client (.screenshooter m.launched.length)).lookup other =
        some (.screenshooter launch) ↔ other = client ∧ launch = m.launched.length := by
    intro other launch
    rw [AssocMap.lookup_insert]
    split
    · rename_i same
      simp [same, eq_comm]
    · rename_i different
      constructor
      · intro made
        exact absurd made (guarded.unmade alive idle other launch)
      · intro both
        exact absurd both.1 different
  constructor
  case listening => intro _; rfl
  case client_iff =>
    intro _ other
    simp only [made_iff, exists_and_left, exists_eq, and_true, Option.some.injEq]
    exact eq_comm
  case latest =>
    intro _ other launch made
    obtain ⟨_, rfl⟩ := (made_iff other launch).mp made
    exact ⟨exe, List.getElem?_concat_length, superseded_new rfl⟩

theorem sigchld {order : List Int} (guarded : m.Guarded) (alive : m.running)
    (answered : m.Answered order next) : next.Guarded := by
  obtain ⟨kept, same⟩ := answered.screenshooter
  apply guarded.settled (fun _ => alive) ?_ ?_ answered.clients answered.launched
  · intro _
    rw [same]
  · rw [same]

end Guarded

private theorem transition_guarded {label : Label} (tracked : m.Tracked) (guarded : m.Guarded)
    (taken : Transition m label next) : next.Guarded := by
  cases taken with
  | autolaunch _ _ | served _ _ _ | orphaned _ _ _ =>
      exact guarded.forked id rfl rfl rfl (by intro same; cases same)
  | connects _ unused => exact guarded.connects unused
  | clientDies alive => exact guarded.clientDies alive
  | clientFailed alive idle _ => exact guarded.clientFailed alive idle
  | shot alive idle _ _ => exact guarded.shot alive idle
  | sigchld alive taken => exact guarded.sigchld alive (onSigchld_spec tracked alive taken)
  | teardown _ =>
      constructor
      all_goals
        intro alive
        cases alive
  | exits _ | unserved _ _ | displayFd _ _ | unshot _ | recorderStopped _ _
  | recorderStarted _ _ | noOutput _ | attempts _ =>
      exact guarded.settled id (fun _ => rfl) rfl rfl rfl

private theorem guarded_start (loaded : Bool) (xserverPath : String) :
    (start loaded xserverPath).Guarded where
  listening := by intro _; rfl
  client_iff := by
    intro _ client
    constructor
    · intro held
      cases held
    · intro made
      obtain ⟨launch, made⟩ := made
      cases made
  latest := by intro _ client launch made; cases made

theorem guarded_run {loaded : Bool} {xserverPath : String} {labels : List Label}
    (run : Run Step (start loaded xserverPath) labels m) : m.Guarded := by
  have keeps : ∀ state label next, Tracked state ∧ Guarded state → Step state label next →
      Tracked next ∧ Guarded next := by
    intro state label next both taken
    have moved := transition taken
    exact ⟨transition_tracked both.1 moved, transition_guarded both.1 both.2 moved⟩
  exact (Run.invariant keeps ⟨tracked_start loaded xserverPath, guarded_start loaded xserverPath⟩
    run).2

/-- In every run, a capture is authorized exactly for the client the latest launch of
the screenshooter made, while it lives, whoever had its address before; there is one
such client at most. -/
theorem attempt_answered {loaded : Bool} {xserverPath : String} {labels : List Label}
    {client : Client} (run : Run Step (start loaded xserverPath) labels m)
    (taken : Step m (.attempts (some client) false) next) :
    ∃ answer, next.effects = m.effects ++ [.answered (some client) answer] ∧
      (answer = true ↔ ∃ launch exe,
        m.clients.lookup client = some (.screenshooter launch) ∧
        m.launched[launch]? = some (.screenshooter exe) ∧
        m.superseded launch (.screenshooter exe) = false) ∧
      ∀ other launch, answer = true → m.clients.lookup other = some (.screenshooter launch) →
        other = client := by
  have guarded := guarded_run run
  cases transition taken with
  | attempts alive =>
      have authorized : m.screenshooter.authorize (some client) false = true ↔
          m.screenshooter.client = some client := by
        unfold ScreenshooterState.authorize
        cases m.screenshooter.client with
        | none => simp
        | some held => simp [eq_comm]
      refine ⟨_, rfl, ?_, ?_⟩
      · rw [authorized, guarded.client_iff alive]
        constructor
        · intro made
          obtain ⟨launch, made⟩ := made
          obtain ⟨exe, since, last⟩ := guarded.latest alive client launch made
          exact ⟨launch, exe, made, since, last⟩
        · intro made
          obtain ⟨launch, _, made, _⟩ := made
          exact ⟨launch, made⟩
      · intro other launch allowed made
        have held := (guarded.client_iff alive other).mpr ⟨launch, made⟩
        rw [authorized.mp allowed] at held
        cases held
        rfl

/-- A stranger takes the address of a dead screenshot client. -/
theorem attempt_answered_stranger : ∃ m next : Machine,
    m.clients.lookup 1 = some .other ∧
    (∃ answer, next.effects = m.effects ++ [.answered (some 1) answer] ∧
      (answer = true ↔ ∃ launch exe,
        m.clients.lookup 1 = some (.screenshooter launch) ∧
        m.launched[launch]? = some (.screenshooter exe) ∧
        m.superseded launch (.screenshooter exe) = false) ∧
      ∀ other launch, answer = true → m.clients.lookup other = some (.screenshooter launch) →
        other = 1) := by
  have reached : (follow step (start false "X") [.superS (.started "shot" 11 1), .clientDies 1,
        .connects 1, .superS (.started "shot" 12 2)]).map (fun m =>
      (m.clients.lookup 1, (m.step (.attempts (some 1) false)).isSome)) =
      some (some .other, true) := by
    decide
  obtain ⟨m, found, same⟩ := Option.map_eq_some_iff.mp reached
  obtain ⟨next, taken⟩ := Option.isSome_iff_exists.mp (congrArg Prod.snd same)
  exact ⟨m, next, congrArg Prod.fst same, attempt_answered (run_of_follow found) taken⟩

/-! ### The recorder -/

/-- The start of a recorder, or its stop. -/
def recording : Effect → Option (Bool × Nat)
  | .recorderStarted _ recorder => some (true, recorder)
  | .recorderStopped recorder => some (false, recorder)
  | _ => none

private theorem reaction_recording (pid : Int) : (m.reaction pid).filterMap recording = [] := by
  unfold reaction
  split
  · split
    · rfl
    · rename_i launch owner status found last
      cases owner with
      | autolaunch watch => cases watch <;> rfl
      | xserver spawn | orphan | screenshooter exe => rfl
  · rfl

/-- Every recorder that ended was started and stopped before the next one started. -/
def Alternating (m : Machine) : Prop :=
  ∃ finished : List Nat, m.effects.filterMap recording =
    finished.flatMap (fun recorder => [(true, recorder), (false, recorder)]) ++
      m.screenshooter.recorder.toList.map (true, ·)

theorem Alternating.silent {effects : List Effect} (alternating : m.Alternating)
    (appended : next.effects = m.effects ++ effects)
    (silent : effects.filterMap recording = [])
    (recorder : next.screenshooter.recorder = m.screenshooter.recorder) : next.Alternating := by
  unfold Alternating
  rw [appended, List.filterMap_append, silent, List.append_nil, recorder]
  exact alternating

private theorem transition_alternating {label : Label} (tracked : m.Tracked)
    (alternating : m.Alternating) (taken : Transition m label next) : next.Alternating := by
  have calls : ∀ calls : List Xwayland.Call,
      (calls.map Effect.xwayland).filterMap recording = [] := by
    intro calls
    rw [List.filterMap_map, List.filterMap_eq_nil_iff]
    intro call _
    rfl
  have lines : ∀ texts : List String, (texts.map Effect.line).filterMap recording = [] := by
    intro texts
    rw [List.filterMap_map, List.filterMap_eq_nil_iff]
    intro text _
    rfl
  cases taken with
  | exits _ | autolaunch _ _ | connects _ _ => exact alternating
  | served _ _ _ | orphaned _ _ _ | unserved _ _ | displayFd _ _ | teardown _ =>
      exact alternating.silent rfl (calls _) rfl
  | unshot _ | clientFailed _ _ _ | shot _ _ _ _ =>
      exact alternating.silent rfl (lines _) rfl
  | noOutput _ | attempts _ => exact alternating.silent rfl rfl rfl
  | clientDies _ =>
      have same : ∀ client,
          (m.screenshooter.clientDestroyed client).recorder = m.screenshooter.recorder := by
        intro client
        unfold ScreenshooterState.clientDestroyed
        split <;> rfl
      exact alternating.silent (List.append_nil _).symm rfl (same _)
  | sigchld alive taken =>
      have answered := onSigchld_spec tracked alive taken
      obtain ⟨kept, same⟩ := answered.screenshooter
      apply alternating.silent answered.effects
      · rw [List.filterMap_flatMap, List.flatMap_eq_nil_iff]
        intro pid _
        exact reaction_recording pid
      · rw [same]
  | @recorderStopped _ _ _ recorder _ active =>
      obtain ⟨finished, before⟩ := alternating
      refine ⟨finished ++ [recorder], ?_⟩
      rw [List.filterMap_append, before, active]
      simp [recording]
  | @recorderStarted _ _ started output _ idle =>
      obtain ⟨finished, before⟩ := alternating
      refine ⟨finished, ?_⟩
      rw [List.filterMap_append, before, idle]
      cases started <;> simp [recording]

/-- In every run the recorders take turns, and the slot holds the one that is on. -/
theorem alternating_run {loaded : Bool} {xserverPath : String} {labels : List Label}
    (run : Run Step (start loaded xserverPath) labels m) : m.Alternating := by
  have keeps : ∀ state label next, Tracked state ∧ Alternating state → Step state label next →
      Tracked next ∧ Alternating next := by
    intro state label next both taken
    have moved := transition taken
    exact ⟨transition_tracked both.1 moved, transition_alternating both.1 both.2 moved⟩
  exact (Run.invariant keeps ⟨tracked_start loaded xserverPath, [], rfl⟩ run).2

end Machine

end Westonite.Children
