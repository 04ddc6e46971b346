import Westonite.Children.Transition
import Westonite.Lifetime.Startup
import Westonite.Xwayland.Transition

/-! The event loop: what its children acquire, and what of it they leave. -/

set_option autoImplicit false

namespace Westonite.Lifetime

open Library
open Xwayland (XwaylandState Spawn SpawnOutcome ReadResult)
open Children (Client)
open Compositor (callActions)

/-! ### The slots of the Xwayland glue -/

/-- What the slots of the glue stand for. -/
def Slots (x : Option XwaylandState) : Resource → Prop
  | .wmFd spawn => x.bind XwaylandState.wmFd = some spawn
  | .displayPipe spawn => x.bind XwaylandState.displayPipe = some spawn
  | .displayFdSource spawn => x.bind XwaylandState.displayFdSource = some spawn
  | _ => False

/-- The slots are of spawns there were, and the watch is on the pipe in its slot. -/
structure Settled (x : Xwayland.Machine) : Prop where
  wm : ∀ spawn, x.wmFd = some spawn → spawn < x.spawns
  pipe : ∀ spawn, x.displayPipe = some spawn → spawn < x.spawns
  source : ∀ spawn, x.displayFdSource = some spawn → x.displayPipe = some spawn

/-- What is there beside the slots, and the glue needs. -/
structure Around (base : Resource → Prop) : Prop where
  display : base .display
  current : base .current
  compositor : base .compositor
  wm : ∀ spawn, ¬ base (.wmFd spawn)
  pipe : ∀ spawn, ¬ base (.displayPipe spawn)
  source : ∀ spawn, ¬ base (.displayFdSource spawn)

section

variable {base : Resource → Prop} {log : List (Action Resource)}
  {pid : Option Xwayland.Server} {wm source pipe : Option Spawn}

/-- The WM socket in its slot, whatever else is there. -/
private theorem closeWm_tallied {extra : Resource → Prop}
    (tallied : Tallied needs log fun resource =>
      extra resource ∨ Slots (some ⟨pid, wm, source, pipe⟩) resource)
    (apart : ∀ spawn, extra (.wmFd spawn) → wm ≠ some spawn) :
    Tallied needs (log ++ (wm.toList.map Resource.wmFd).map .release)
      fun resource => extra resource ∨ Slots (some ⟨pid, none, source, pipe⟩) resource := by
  apply tallied.releaseAll (wm.toList.map .wmFd)
  · cases wm <;> simp
  · intro old member
    obtain ⟨spawn, there, rfl⟩ := List.mem_map.mp member
    exact .inr (Option.mem_toList.mp there)
  · intro old member other _
    obtain ⟨spawn, _, rfl⟩ := List.mem_map.mp member
    exact Resource.leaf_free rfl other
  · intro resource
    cases resource with
    | wmFd spawn =>
        simp only [Slots, Option.bind_some, List.mem_map, Option.mem_toList,
          Resource.wmFd.injEq, exists_eq_right, reduceCtorEq, or_false]
        constructor
        · exact fun held => ⟨apart spawn held, .inl held⟩
        · exact fun both => both.2.resolve_right both.1
    | _ => simp [Slots]

/-- `close_display_watch`: the watch and then its pipe, whatever else is there. -/
private theorem closeDisplayWatch_tallied {extra : Resource → Prop}
    (tallied : Tallied needs log fun resource =>
      extra resource ∨ Slots (some ⟨pid, wm, source, pipe⟩) resource)
    (unwatched : ∀ spawn, ¬ extra (.displayFdSource spawn))
    (apart : ∀ spawn, extra (.displayPipe spawn) → pipe ≠ some spawn) :
    Tallied needs
      (log ++ (XwaylandState.closeDisplayWatch ⟨pid, wm, source, pipe⟩).2.flatMap callActions)
      fun resource => extra resource ∨ Slots (some ⟨pid, wm, none, none⟩) resource := by
  have removed : Tallied needs (log ++ (source.toList.map Resource.displayFdSource).map .release)
      fun resource => extra resource ∨ Slots (some ⟨pid, wm, none, pipe⟩) resource := by
    apply tallied.releaseAll (source.toList.map .displayFdSource)
    · cases source <;> simp
    · intro old member
      obtain ⟨spawn, there, rfl⟩ := List.mem_map.mp member
      exact .inr (Option.mem_toList.mp there)
    · intro old member other _
      obtain ⟨spawn, _, rfl⟩ := List.mem_map.mp member
      exact Resource.leaf_free rfl other
    · intro resource
      cases resource with
      | displayFdSource spawn => simp [Slots, unwatched]
      | _ => simp [Slots]
  have closed : Tallied needs
      (log ++ (source.toList.map Resource.displayFdSource).map .release ++
        (pipe.toList.map Resource.displayPipe).map .release)
      fun resource => extra resource ∨ Slots (some ⟨pid, wm, none, none⟩) resource := by
    apply removed.releaseAll (pipe.toList.map .displayPipe)
    · cases pipe <;> simp
    · intro old member
      obtain ⟨spawn, there, rfl⟩ := List.mem_map.mp member
      exact .inr (Option.mem_toList.mp there)
    · intro old member other held needed
      obtain ⟨spawn, _, rfl⟩ := List.mem_map.mp member
      cases other <;> simp [needs, Slots, unwatched] at needed held
    · intro resource
      cases resource with
      | displayPipe spawn =>
          simp only [Slots, Option.bind_some, List.mem_map, Option.mem_toList,
            Resource.displayPipe.injEq, exists_eq_right, reduceCtorEq, or_false]
          constructor
          · exact fun held => ⟨apart spawn held, .inl held⟩
          · exact fun both => both.2.resolve_right both.1
      | _ => simp [Slots]
  rw [List.append_assoc] at closed
  convert closed using 2
  cases source <;> cases pipe <;> rfl

/-- A spawn that fails closes what it opened. -/
private theorem failed_tallied {held : Resource → Prop} {spawn : Spawn} {calls : List Xwayland.Call}
    (tallied : Tallied needs log held) (failed : Xwayland.Failed spawn calls)
    (noWm : ¬ held (.wmFd spawn)) (noPipe : ¬ held (.displayPipe spawn))
    (unwatched : ¬ held (.displayFdSource spawn)) :
    Tallied needs (log ++ calls.flatMap callActions) held := by
  have opened := tallied.acquire (.wmFd spawn) noWm (by simp [needs])
    (fun resource => Iff.rfl)
  cases failed with
  | nothing => simpa using tallied
  | noPipe =>
      have closed : Tallied needs _ held := opened.release (.wmFd spawn) (.inl rfl)
        (fun other _ => Resource.leaf_free rfl other) (by grind)
      simpa [callActions] using closed
  | noServer =>
      have piped := opened.acquire (.displayPipe spawn) (by simp [noPipe])
        (by simp [needs]) (fun resource => Iff.rfl)
      have unpiped : Tallied needs
          (log ++ [.acquire (.wmFd spawn)] ++ [.acquire (.displayPipe spawn)] ++
            [.release (.displayPipe spawn)])
          fun resource => resource = .wmFd spawn ∨ held resource := by
        apply piped.release (.displayPipe spawn) (.inl rfl)
        · intro other holds needed
          cases other <;> simp [needs] at needed
          subst needed
          simp [unwatched] at holds
        · grind
      have closed : Tallied needs _ held := unpiped.release (.wmFd spawn) (.inl rfl)
        (fun other _ => Resource.leaf_free rfl other) (by grind)
      simpa [callActions] using closed

/-- A spawn that succeeds takes over from the one before. -/
private theorem created_tallied {m : Xwayland.Machine} {st : XwaylandState}
    {server : Xwayland.Server} (alive : m.xwayland = some st) (settled : Settled m)
    (around : Around base) (own : ∀ spawn, source = some spawn → spawn = m.spawns)
    (tallied : Tallied needs log fun resource => base resource ∨ Slots (some st) resource) :
    Tallied needs (log ++ (st.createdCalls m.spawns source).flatMap callActions)
      fun resource => base resource ∨
        Slots (some ⟨some server, some m.spawns, source, some m.spawns⟩) resource := by
  obtain ⟨pid, wmFd, watched, polled⟩ := st
  have newWm : wmFd ≠ some m.spawns := by
    intro same
    have below := settled.wm m.spawns (by simp [Xwayland.Machine.wmFd, alive, same])
    exact Nat.lt_irrefl _ below
  have newPipe : polled ≠ some m.spawns := by
    intro same
    have below := settled.pipe m.spawns (by simp [Xwayland.Machine.displayPipe, alive, same])
    exact Nat.lt_irrefl _ below
  have opened := tallied.acquire (.wmFd m.spawns)
    (by simp [Slots, around.wm, newWm]) (by simp [needs]) (fun resource => Iff.rfl)
  have piped := opened.acquire (.displayPipe m.spawns)
    (by simp [Slots, around.pipe, newPipe]) (by simp [needs]) (fun resource => Iff.rfl)
  let extra : Resource → Prop := fun resource =>
    resource = .displayPipe m.spawns ∨ resource = .wmFd m.spawns ∨ base resource
  have beside : Tallied needs _ fun resource =>
      extra resource ∨ Slots (some ⟨pid, wmFd, watched, polled⟩) resource :=
    piped.congr fun resource => by simp only [extra, or_assoc]
  have replaced := closeWm_tallied beside (by simp [extra, around.wm, newWm])
  have unwatched := closeDisplayWatch_tallied replaced
    (by simp [extra, around.source])
    (by simp [extra, around.pipe, newPipe])
  have calls : log ++ (XwaylandState.createdCalls ⟨pid, wmFd, watched, polled⟩ m.spawns
        source).flatMap callActions =
      log ++ [.acquire (.wmFd m.spawns)] ++ [.acquire (.displayPipe m.spawns)] ++
        (wmFd.toList.map Resource.wmFd).map .release ++
        (XwaylandState.closeDisplayWatch ⟨pid, none, watched, polled⟩).2.flatMap callActions ++
        (source.toList.map Resource.displayFdSource).map .acquire := by
    cases wmFd <;> cases watched <;> cases polled <;> cases source <;>
      simp [XwaylandState.createdCalls, XwaylandState.closeDisplayWatch, callActions]
  rw [calls]
  apply unwatched.acquireAll (source.toList.map .displayFdSource)
  · cases source <;> simp
  · simp [extra, around.source, Slots]
  · intro new member other needed
    obtain ⟨spawn, there, rfl⟩ := List.mem_map.mp member
    rw [own spawn (Option.mem_toList.mp there)] at needed
    simp only [needs, List.mem_cons, List.not_mem_nil, or_false] at needed
    rcases needed with rfl | rfl | rfl
    · exact .inl (.inr (.inr around.display))
    · exact .inl (.inr (.inr around.current))
    · exact .inl (.inl rfl)
  · intro resource
    cases resource <;> simp [extra, Slots, around.wm, around.pipe, around.source, eq_comm]

/-- One call into the glue. -/
private theorem glue_tallied {m next : Xwayland.Machine} {label : Xwayland.Label}
    (taken : Xwayland.Transition m label next) (live : label ≠ .teardown) (settled : Settled m)
    (around : Around base)
    (tallied : Tallied needs log fun resource =>
      base resource ∨ Slots m.xwayland resource) :
    ∃ calls, next.calls = m.calls ++ calls ∧ Settled next ∧
      Tallied needs (log ++ calls.flatMap callActions) fun resource =>
        base resource ∨ Slots next.xwayland resource := by
  cases taken with
  | gone none =>
      refine ⟨[], by simp, ⟨?_, ?_, ?_⟩, by simpa using tallied⟩ <;>
        simp [Xwayland.Machine.wmFd, Xwayland.Machine.displayPipe,
          Xwayland.Machine.displayFdSource, none]
  | same => exact ⟨[], by simp, settled, by simpa using tallied⟩
  | @failed outcome calls failed =>
      refine ⟨calls, rfl, ⟨?_, ?_, settled.source⟩, ?_⟩
      · exact fun spawn held => Nat.lt_succ_of_lt (settled.wm spawn held)
      · exact fun spawn held => Nat.lt_succ_of_lt (settled.pipe spawn held)
      · apply failed_tallied tallied failed
        · rintro (held | held)
          · exact around.wm _ held
          · exact Nat.lt_irrefl _ (settled.wm _ held)
        · rintro (held | held)
          · exact around.pipe _ held
          · exact Nat.lt_irrefl _ (settled.pipe _ held)
        · rintro (held | held)
          · exact around.source _ held
          · exact Nat.lt_irrefl _ (settled.pipe _ (settled.source _ held))
  | @created st pid watched source alive own =>
      rw [alive] at tallied
      refine ⟨_, rfl, ⟨?_, ?_, ?_⟩, created_tallied alive settled around own tallied⟩
      · intro spawn held
        cases held
        exact Nat.lt_succ_self _
      · intro spawn held
        cases held
        exact Nat.lt_succ_self _
      · intro spawn held
        rw [own spawn held]
        rfl
  | @unready st spawn readable read alive installed =>
      rw [alive] at tallied
      have closed := closeDisplayWatch_tallied tallied around.source
        (fun spawn held => absurd held (around.pipe spawn))
      refine ⟨_, rfl, ⟨?_, by simp [Xwayland.Machine.displayPipe],
        by simp [Xwayland.Machine.displayFdSource]⟩, closed⟩
      intro spawn held
      apply settled.wm spawn
      simpa [Xwayland.Machine.wmFd, alive] using held
  | @ready st spawn readable read alive installed =>
      rw [alive] at tallied
      obtain ⟨pid, wmFd, watched, polled⟩ := st
      have handed := closeWm_tallied tallied fun spawn held => absurd held (around.wm spawn)
      have closed := closeDisplayWatch_tallied handed around.source
        (fun spawn held => absurd held (around.pipe spawn))
      refine ⟨_, rfl, ⟨by simp [Xwayland.Machine.wmFd], by simp [Xwayland.Machine.displayPipe],
        by simp [Xwayland.Machine.displayFdSource]⟩, ?_⟩
      convert closed using 1
      cases wmFd <;> simp [XwaylandState.closeDisplayWatch, callActions]
  | @exited st server alive tracked =>
      rw [alive] at tallied
      refine ⟨_, rfl, ⟨?_, ?_, ?_⟩, ?_⟩
      · intro spawn held
        apply settled.wm spawn
        simpa [Xwayland.Machine.wmFd, alive] using held
      · intro spawn held
        apply settled.pipe spawn
        simpa [Xwayland.Machine.displayPipe, alive] using held
      · intro spawn held
        have polled := settled.source spawn
        simp only [Xwayland.Machine.displayFdSource, Xwayland.Machine.displayPipe, alive]
          at polled held ⊢
        exact polled held
      · have used := tallied.use .compositor (.inl around.compositor)
        exact used.congr fun resource => by cases resource <;> rfl
  | teardown => exact absurd rfl live

end

/-! ### One event -/

/-- The listener on the client of the screenshooter. -/
def Listening (m : Children.Machine) : Resource → Prop
  | .clientDestroy client => m.screenshooter.clientDestroy = some client
  | _ => False

variable {lc : LogContext} {front done : List (Action Resource)} {c : Compositor}
  {m next : Children.Machine}

/-- The accounts while the event loop runs, `done` since it began. -/
structure Running (lc : LogContext) (front : List (Action Resource)) (c : Compositor)
    (m : Children.Machine) (done : List (Action Resource)) : Prop where
  tallied : Tallied needs (front ++ c.actions ++ done) fun resource =>
    ((resource ∈ lc.held ∨ c.Holds resource) ∨ Listening m resource) ∨
      Slots m.xwayland.xwayland resource
  settled : Settled m.xwayland
  listening : m.screenshooter.clientDestroy = m.screenshooter.client

namespace Rising

private theorem unserved_slot {Value : Type} (rising : Rising lc front c)
    (slot : XwaylandState → Option Value) (empty : slot .loaded = none) :
    c.xwayland.bind slot = none := by
  cases loaded : c.xwayland with
  | none => rfl
  | some st =>
      rw [rising.unserved st loaded]
      exact empty

/-- What was brought up is there, and nothing of the glue. -/
theorem around (rising : Rising lc front c) (m : Children.Machine) :
    Around fun resource => (resource ∈ lc.held ∨ c.Holds resource) ∨ Listening m resource where
  display := .inl (.inr rising.ready.display)
  current := .inl (.inr rising.ready.current)
  compositor := .inl (.inr rising.ready.compositor)
  wm := by
    rintro spawn ((held | held) | held)
    · cases LogContext.ofLog_of_held held
    · cases (rising.unserved_slot XwaylandState.wmFd rfl).symm.trans held
    · exact held
  pipe := by
    rintro spawn ((held | held) | held)
    · cases LogContext.ofLog_of_held held
    · cases (rising.unserved_slot XwaylandState.displayPipe rfl).symm.trans held
    · exact held
  source := by
    rintro spawn ((held | held) | held)
    · cases LogContext.ofLog_of_held held
    · cases (rising.unserved_slot XwaylandState.displayFdSource rfl).symm.trans held
    · exact held

private theorem unheard (rising : Rising lc front c) (client : Client) :
    ¬ (.clientDestroy client ∈ lc.held ∨ c.Holds (.clientDestroy client)) := by
  rintro (held | held)
  · cases LogContext.ofLog_of_held held
  · cases rising.unshot.symm.trans held

end Rising

/-- A step that calls nothing but what is there anyway, and leaves the slots. -/
structure Calm (m next : Children.Machine) (new : List Children.Effect) : Prop where
  effects : next.effects = m.effects ++ new
  uses : ∀ action ∈ new.flatMap effectActions,
    action = .use .compositor ∨ action = .use .display
  slots : ∀ resource, Slots next.xwayland.xwayland resource ↔ Slots m.xwayland.xwayland resource
  spawns : next.xwayland.spawns = m.xwayland.spawns
  client : next.screenshooter.client = m.screenshooter.client
  clientDestroy : next.screenshooter.clientDestroy = m.screenshooter.clientDestroy

namespace Calm

theorem refl (m : Children.Machine) : Calm m m [] :=
  ⟨by simp, by simp, fun _ => Iff.rfl, rfl, rfl, rfl⟩

theorem trans {middle : Children.Machine} {first second : List Children.Effect}
    (left : Calm m middle first) (right : Calm middle next second) :
    Calm m next (first ++ second) where
  effects := by rw [right.effects, left.effects, List.append_assoc]
  uses := by
    intro action member
    rw [List.flatMap_append, List.mem_append] at member
    exact member.elim (left.uses action) (right.uses action)
  slots := fun resource => (right.slots resource).trans (left.slots resource)
  spawns := right.spawns.trans left.spawns
  client := right.client.trans left.client
  clientDestroy := right.clientDestroy.trans left.clientDestroy

theorem settled {new : List Children.Effect} (calm : Calm m next new)
    (settled : Settled m.xwayland) : Settled next.xwayland where
  wm := by
    intro spawn held
    rw [calm.spawns]
    exact settled.wm spawn ((calm.slots (.wmFd spawn)).mp held)
  pipe := by
    intro spawn held
    rw [calm.spawns]
    exact settled.pipe spawn ((calm.slots (.displayPipe spawn)).mp held)
  source := by
    intro spawn held
    apply (calm.slots (.displayPipe spawn)).mpr
    exact settled.source spawn ((calm.slots (.displayFdSource spawn)).mp held)

/-- The accounts go on. -/
theorem running {new : List Children.Effect} (calm : Calm m next new)
    (rising : Rising lc front c) (running : Running lc front c m done) :
    Running lc front c next (done ++ new.flatMap effectActions) where
  tallied := by
    have around := rising.around m
    have used := running.tallied.useAll (new.flatMap effectActions) (by
      intro action member
      rcases calm.uses action member with rfl | rfl
      · exact ⟨_, rfl, .inl around.compositor⟩
      · exact ⟨_, rfl, .inl around.display⟩)
    rw [List.append_assoc] at used
    apply used.congr
    intro resource
    apply or_congr (or_congr Iff.rfl _) (calm.slots resource).symm
    cases resource <;> simp [Listening, calm.clientDestroy]
  settled := calm.settled running.settled
  listening := calm.clientDestroy.trans (running.listening.trans calm.client.symm)

theorem step {new : List Children.Effect} {label : Children.Label} (calm : Calm m next new)
    (rising : Rising lc front c) (running : Running lc front c m done)
    (silent : listenerActions m label = []) :
    Running lc front c next (done ++ stepActions m label next) := by
  have same : stepActions m label next = new.flatMap effectActions := by
    rw [stepActions, calm.effects, List.drop_left, silent, List.append_nil]
  rw [same]
  exact calm.running rising running

/-- More effects, and otherwise the same. -/
private theorem of_effects {new : List Children.Effect} (effects : next.effects = m.effects ++ new)
    (none : new.flatMap effectActions = []) (xwayland : next.xwayland = m.xwayland)
    (screenshooter : next.screenshooter.client = m.screenshooter.client ∧
      next.screenshooter.clientDestroy = m.screenshooter.clientDestroy) : Calm m next new where
  effects := effects
  uses := by simp [none]
  slots := fun resource => by rw [xwayland]
  spawns := by rw [xwayland]
  client := screenshooter.1
  clientDestroy := screenshooter.2

theorem handleChildExit (m : Children.Machine) (pid : Int) (status : Nat) :
    ∃ new, Calm m (m.handleChildExit pid status) new := by
  unfold Children.Machine.handleChildExit
  split
  · rename_i xst calls found
    obtain ⟨st, up, exited⟩ := Option.map_eq_some_iff.mp found
    unfold XwaylandState.handleChildExit at exited
    cases tracked : st.pid with
    | none =>
        rw [tracked] at exited
        cases exited
    | some server =>
        rw [tracked] at exited
        dsimp only at exited
        split at exited
        · cases exited
          refine ⟨_, rfl, by simp [effectActions, Children.logChildExit, callActions], ?_, rfl, rfl,
            rfl⟩
          intro resource
          rw [up]
          cases resource <;> rfl
        · cases exited
  · by_cases ours : m.screenshooter.pid = some pid
    · simp only [Children.ScreenshooterState.handleChildExit, if_pos ours]
      refine ⟨_, of_effects rfl ?_ rfl ⟨rfl, rfl⟩⟩
      cases m.screenshooter.exe <;> simp [effectActions, Children.logChildExit]
    · simp only [Children.ScreenshooterState.handleChildExit, if_neg ours]
      exact ⟨_, of_effects rfl rfl rfl ⟨rfl, rfl⟩⟩

theorem reap (m : Children.Machine) (pid : Int) (status : Nat) :
    ∃ new, Calm m (m.reap pid status) new := by
  have erased : Calm m { m with processes := m.processes.erase pid } [] :=
    of_effects (by simp) rfl rfl ⟨rfl, rfl⟩
  have exited : ∃ new, Calm m
      (Children.Machine.handleChildExit { m with processes := m.processes.erase pid } pid status)
      new := by
    obtain ⟨new, calm⟩ := handleChildExit { m with processes := m.processes.erase pid } pid status
    exact ⟨_, erased.trans calm⟩
  unfold Children.Machine.reap
  dsimp only
  split
  · split
    · rename_i watched watch _ _
      refine ⟨if watch then
        [.line "westonite: autolaunched client exited, terminating", .terminate] else [],
        rfl, ?_, fun _ => Iff.rfl, rfl, rfl, rfl⟩
      cases watch <;> simp [effectActions]
    · exact exited
  · exact exited

theorem onSigchld {m : Children.Machine} {order : List Int}
    (taken : m.onSigchld order = some next) :
    ∃ new, Calm m next new := by
  induction order generalizing m with
  | nil =>
      unfold Children.Machine.onSigchld at taken
      split at taken
      · cases taken
        exact ⟨[], refl _⟩
      · cases taken
  | cons pid order ih =>
      unfold Children.Machine.onSigchld at taken
      split at taken
      · rename_i launch owner status found
        obtain ⟨first, reaped⟩ := reap m pid status
        obtain ⟨rest, later⟩ := ih taken
        exact ⟨_, reaped.trans later⟩
      · cases taken

private theorem of_fork {pid : Int} {owner : Children.Owner}
    (taken : m.fork pid owner = some next) :
    Calm m next [] := by
  obtain ⟨_, rfl⟩ := Children.Machine.fork_eq_some.mp taken
  exact of_effects (List.append_nil _).symm rfl rfl ⟨rfl, rfl⟩

private theorem of_connect {client : Client} {origin : Children.Origin}
    (taken : m.connect client origin = some next) : Calm m next [] := by
  obtain ⟨_, rfl⟩ := Children.Machine.connect_eq_some.mp taken
  exact of_effects (List.append_nil _).symm rfl rfl ⟨rfl, rfl⟩

end Calm

/-! ### The labels -/

/-- What starts with the effects there are already. -/
private theorem stepActions_eq {label : Children.Label} (new : List Children.Effect)
    (effects : next.effects = m.effects ++ new) :
    stepActions m label next = new.flatMap effectActions ++ listenerActions m label := by
  rw [stepActions, effects, List.drop_left]

namespace Running

/-- A call into the glue. -/
theorem callXwayland {label : Xwayland.Label} (rising : Rising lc front c)
    (running : Running lc front c m done) (live : label ≠ .teardown)
    (taken : m.callXwayland label = some next) :
    ∃ new, next.effects = m.effects ++ new ∧
      Running lc front c next (done ++ new.flatMap effectActions) := by
  obtain ⟨after, stepped, rfl⟩ := Option.map_eq_some_iff.mp taken
  obtain ⟨calls, logged, settled, tallied⟩ := glue_tallied
    (Xwayland.Machine.transition stepped) live running.settled (rising.around m) running.tallied
  have added : after.calls.drop m.xwayland.calls.length = calls := by
    rw [logged, List.drop_left]
  refine ⟨_, rfl, ?_, settled, running.listening⟩
  rw [added, List.flatMap_map, ← List.append_assoc]
  exact tallied

theorem spawnXserver {outcome : SpawnOutcome} (rising : Rising lc front c)
    (running : Running lc front c m done) (taken : m.spawnXserver outcome = some next) :
    Running lc front c next (done ++ stepActions m (.spawnXserver outcome) next) := by
  obtain ⟨before, forked, called⟩ := Option.bind_eq_some_iff.mp taken
  have calm : Calm m before [] := by
    split at forked
    · exact .of_fork forked
    · exact .of_fork forked
    · cases forked
      exact .refl m
  have ready := calm.running rising running
  obtain ⟨new, effects, called⟩ := ready.callXwayland rising (by nofun) called
  rw [calm.effects, List.append_nil] at effects
  rw [stepActions_eq new effects]
  simpa [listenerActions] using called

theorem displayFd {readable : Bool} {read : ReadResult} (rising : Rising lc front c)
    (running : Running lc front c m done)
    (taken : m.callXwayland (.displayFd readable read) = some next) :
    Running lc front c next (done ++ stepActions m (.displayFd readable read) next) := by
  obtain ⟨new, effects, called⟩ := running.callXwayland rising (by nofun) taken
  rw [stepActions_eq new effects]
  simpa [listenerActions] using called

/-- The listener comes with the client it is on. -/
private theorem listen {client : Client} (rising : Rising lc front c)
    (running : Running lc front c m done)
    (before : m.screenshooter.clientDestroy = none) (xwayland : next.xwayland = m.xwayland)
    (after : next.screenshooter.clientDestroy = some client)
    (alive : next.screenshooter.client = some client) :
    Running lc front c next (done ++ [.acquire (.clientDestroy client)]) where
  tallied := by
    have around := rising.around m
    rw [← List.append_assoc]
    apply running.tallied.acquire (.clientDestroy client)
    · simp [Listening, before, Slots, rising.unheard]
    · simp [needs, around.display, around.current]
    · intro resource
      rw [xwayland]
      cases resource with
      | clientDestroy other =>
          simp [Listening, before, after, Slots, rising.unheard, eq_comm]
      | _ => simp [Listening]
  settled := by
    rw [xwayland]
    exact running.settled
  listening := after.trans alive.symm

/-- The listener goes with the client it is on. -/
private theorem unlisten {client : Client} (rising : Rising lc front c)
    (running : Running lc front c m done) (before : m.screenshooter.clientDestroy = some client)
    (xwayland : next.xwayland = m.xwayland) (after : next.screenshooter.clientDestroy = none)
    (dead : next.screenshooter.client = none) :
    Running lc front c next (done ++ [.release (.clientDestroy client)]) where
  tallied := by
    rw [← List.append_assoc]
    apply running.tallied.release (.clientDestroy client)
    · exact .inl (.inr before)
    · exact fun other _ => Resource.leaf_free rfl other
    · intro resource
      rw [xwayland]
      cases resource with
      | clientDestroy other =>
          simp [Listening, before, after, Slots, rising.unheard, eq_comm]
      | _ => simp [Listening]
  settled := by
    rw [xwayland]
    exact running.settled
  listening := after.trans dead.symm

/-- Neither the glue nor the client of the screenshooter is changed. -/
theorem quiet {label : Children.Label} {new : List Children.Effect} (rising : Rising lc front c)
    (running : Running lc front c m done) (silent : listenerActions m label = [])
    (effects : next.effects = m.effects ++ new) (none : new.flatMap effectActions = [])
    (xwayland : next.xwayland = m.xwayland)
    (screenshooter : next.screenshooter.client = m.screenshooter.client ∧
      next.screenshooter.clientDestroy = m.screenshooter.clientDestroy) :
    Running lc front c next (done ++ stepActions m label next) :=
  (Calm.of_effects effects none xwayland screenshooter).step rising running silent

theorem superS {outcome : Children.ShotOutcome} (rising : Rising lc front c)
    (running : Running lc front c m done) (taken : m.superS outcome = some next) :
    Running lc front c next (done ++ stepActions m (.superS outcome) next) := by
  by_cases busy : m.screenshooter.client.isSome
  · simp only [Children.Machine.superS, Children.ScreenshooterState.bindingBody, if_pos busy,
      Option.some.injEq] at taken
    subst taken
    refine running.quiet rising ?_ rfl rfl rfl ⟨rfl, rfl⟩
    cases outcome <;> simp [listenerActions, busy]
  · have unheard : m.screenshooter.clientDestroy = none := by
      rw [running.listening]
      exact Option.not_isSome_iff_eq_none.mp busy
    simp only [Children.Machine.superS, Children.ScreenshooterState.bindingBody, if_neg busy]
      at taken
    cases outcome with
    | noPath | socketpairFailed exe | launchFailed exe error =>
        cases taken
        exact running.quiet rising rfl rfl rfl rfl ⟨rfl, rfl⟩
    | clientFailed exe pid =>
        obtain ⟨_, rfl⟩ := Children.Machine.fork_eq_some.mp taken
        exact running.quiet rising rfl rfl rfl rfl ⟨rfl, rfl⟩
    | started exe pid client =>
        obtain ⟨called, forked, connected⟩ := Option.bind_eq_some_iff.mp taken
        obtain ⟨_, rfl⟩ := Children.Machine.fork_eq_some.mp forked
        obtain ⟨_, rfl⟩ := Children.Machine.connect_eq_some.mp connected
        rw [stepActions_eq [.line ("launching '" ++ exe ++ "'")]]
        · simp only [listenerActions, if_neg busy]
          exact running.listen rising unheard rfl rfl rfl
        · rfl

theorem clientDies {client : Client} (rising : Rising lc front c)
    (running : Running lc front c m done) (taken : m.dispatch (.clientDies client) = some next) :
    Running lc front c next (done ++ stepActions m (.clientDies client) next) := by
  simp only [Children.Machine.dispatch] at taken
  split at taken
  · cases taken
    by_cases ours : m.screenshooter.clientDestroy = some client
    · rw [stepActions_eq []]
      · simp only [listenerActions, if_pos ours]
        refine running.unlisten rising ours rfl ?_ ?_
        · simp only [Children.ScreenshooterState.clientDestroyed, if_pos ours]
        · simp only [Children.ScreenshooterState.clientDestroyed, if_pos ours]
      · exact (List.append_nil _).symm
    · refine running.quiet rising ?_ (List.append_nil _).symm rfl rfl ?_
      · simp only [listenerActions, if_neg ours]
      · simp only [Children.ScreenshooterState.clientDestroyed, if_neg ours, and_self]
  · cases taken

/-- The recorder is of the module. -/
private theorem recorder_silent (st : Children.ScreenshooterState) (focus : Option Nat)
    (outputs : List Nat) (started : Option Nat) :
    (st.recorderBindingBody focus outputs started).2.flatMap effectActions = [] ∧
      (st.recorderBindingBody focus outputs started).1.client = st.client ∧
      (st.recorderBindingBody focus outputs started).1.clientDestroy = st.clientDestroy := by
  unfold Children.ScreenshooterState.recorderBindingBody
  split
  · exact ⟨rfl, rfl, rfl⟩
  · split
    · exact ⟨rfl, rfl, rfl⟩
    · cases started <;> exact ⟨rfl, rfl, rfl⟩

theorem dispatch {label : Children.Label} (rising : Rising lc front c)
    (running : Running lc front c m done) (live : label ≠ .teardown)
    (taken : m.dispatch label = some next) :
    Running lc front c next (done ++ stepActions m label next) := by
  cases label with
  | autolaunch pid watch =>
      obtain ⟨called, forked, rfl⟩ := Option.map_eq_some_iff.mp taken
      obtain ⟨_, rfl⟩ := Children.Machine.fork_eq_some.mp forked
      exact running.quiet rising rfl (List.append_nil _).symm rfl rfl ⟨rfl, rfl⟩
  | spawnXserver outcome => exact running.spawnXserver rising taken
  | displayFd readable read => exact running.displayFd rising taken
  | superS outcome => exact running.superS rising taken
  | superR focus outputs started =>
      cases taken
      obtain ⟨silent, same⟩ := recorder_silent m.screenshooter focus outputs started
      exact running.quiet rising rfl rfl silent rfl same
  | connects client => exact (Calm.of_connect taken).step rising running rfl
  | clientDies client => exact running.clientDies rising taken
  | attempts who authorized =>
      simp only [Children.Machine.dispatch] at taken
      split at taken
      · cases taken
        exact running.quiet rising rfl rfl rfl rfl ⟨rfl, rfl⟩
      · cases taken
  | exits pid status => cases taken
  | sigchld order =>
      obtain ⟨new, calm⟩ := Calm.onSigchld taken
      exact calm.step rising running rfl
  | teardown => exact absurd rfl live

/-- One event. -/
theorem step {label : Children.Label} (rising : Rising lc front c)
    (running : Running lc front c m done) (live : label ≠ .teardown)
    (taken : m.step label = some next) :
    Running lc front c next (done ++ stepActions m label next) := by
  unfold Children.Machine.step at taken
  split at taken
  · split at taken
    · cases taken
      exact running.quiet rising rfl (List.append_nil _).symm rfl rfl ⟨rfl, rfl⟩
    · cases taken
  · split at taken
    · exact running.dispatch rising live taken
    · cases taken

/-- Before the first event. -/
theorem start (rising : Rising lc front c) (path : String) :
    Running lc front c (.start c.xwayland.isSome path) [] where
  tallied := by
    rw [List.append_nil]
    apply Tallied.congr rising.ready.accounts
    intro resource
    cases c.xwayland <;> cases resource <;> simp [Listening, Slots, Children.Machine.start,
      Children.ScreenshooterState.create, Xwayland.Machine.start, XwaylandState.loaded]
  settled := by
    cases c.xwayland <;> constructor <;>
      simp [Children.Machine.start, Xwayland.Machine.start, XwaylandState.loaded,
        Xwayland.Machine.wmFd, Xwayland.Machine.displayPipe, Xwayland.Machine.displayFdSource]
  listening := rfl

end Running

/-! ### The loop -/

private theorem eventLoop_cons {final : Children.Machine} {label : Children.Label}
    {labels : List Children.Label} {actions : List (Action Resource)}
    (taken : eventLoop m (label :: labels) = some (final, actions)) :
    label ≠ .teardown ∧ ∃ next later, m.step label = some next ∧
      eventLoop next labels = some (final, later) ∧
      actions = stepActions m label next ++ later := by
  by_cases live : label = .teardown
  · rw [live] at taken
    cases taken
  · rw [eventLoop.eq_3 _ _ _ live] at taken
    obtain ⟨next, stepped, taken⟩ := Option.bind_eq_some_iff.mp taken
    obtain ⟨⟨last, later⟩, looped, same⟩ := Option.bind_eq_some_iff.mp taken
    cases same
    exact ⟨live, next, later, stepped, looped, rfl⟩

/-- The whole loop. -/
theorem eventLoop_running {final : Children.Machine} {labels : List Children.Label}
    {actions : List (Action Resource)} (rising : Rising lc front c)
    (running : Running lc front c m done) (taken : eventLoop m labels = some (final, actions)) :
    Running lc front c final (done ++ actions) := by
  induction labels generalizing m done actions with
  | nil =>
      cases taken
      rw [List.append_nil]
      exact running
  | cons label labels ih =>
      obtain ⟨live, next, later, stepped, looped, rfl⟩ := eventLoop_cons taken
      rw [← List.append_assoc]
      exact ih (running.step rising live stepped) looped

/-- What only the slots of the glue stand for. -/
private theorem only_slots {logged held listening slot : Prop}
    (none : ¬ ((logged ∨ held) ∨ listening)) :
    ((logged ∨ held) ∨ listening) ∨ slot ↔ logged ∨ slot := by
  tauto

/-- The compositor at the end of its loop. -/
theorem Running.ended (rising : Rising lc front c) (running : Running lc front c m done) :
    Ready lc front (c.ended m done) := by
  have around := rising.around m
  have accounts : Accounts lc front (c.ended m done) := by
    unfold Accounts
    rw [Compositor.ended, Compositor.log, ← List.append_assoc]
    apply running.tallied.congr
    intro resource
    cases resource with
    | wmFd spawn => exact only_slots (around.wm spawn)
    | displayPipe spawn => exact only_slots (around.pipe spawn)
    | displayFdSource spawn => exact only_slots (around.source spawn)
    | clientDestroy client =>
        simp [Listening, Slots, Compositor.Holds, rising.unshot]
    | _ => simp [Listening, Slots, Compositor.Holds]
  exact rising.ready.step accounts rfl rfl rfl rising.ready.frontendOnce rising.ready.sourcesOnce
    rfl rfl rfl

end Westonite.Lifetime
