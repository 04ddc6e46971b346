import Mathlib.Data.List.Count
import Westonite.Xwayland.Transition

/-! Whose the resources of a spawn are: each is given up once, or is in its slot. -/

set_option autoImplicit false

namespace Westonite.Xwayland

open Library

variable {m next : Machine} {label : Label}

/-! ### Counting calls -/

/-- One for what is in a slot. -/
def held (slot : Option Spawn) (spawn : Spawn) : Nat := slot.toList.count spawn

@[simp] theorem held_none (spawn : Spawn) : held none spawn = 0 := rfl

@[simp] theorem held_some (other spawn : Spawn) :
    held (some other) spawn = if other = spawn then 1 else 0 := by
  simp [held, List.count_singleton]

/-- The calls made for what is in a slot. -/
@[simp] theorem count_slot {make : Spawn → Call} (injective : ∀ a b, make a = make b → a = b)
    (slot : Option Spawn) (spawn : Spawn) :
    (slot.toList.map make).count (make spawn) = held slot spawn :=
  List.count_map_of_injective slot.toList make (fun a b => injective a b) spawn

@[simp] theorem count_slot_other {make : Spawn → Call} {call : Call}
    (other : ∀ spawn, make spawn ≠ call) (slot : Option Spawn) :
    (slot.toList.map make).count call = 0 := by
  rw [List.count_eq_zero, List.mem_map]
  rintro ⟨spawn, _, same⟩
  exact other spawn same

/-! ### One step -/

theorem wm_step (taken : Transition m label next) {spawn : Spawn}
    (before : m.calls.count (.wmOpened spawn) = m.calls.count (.xserverLoaded spawn) +
      m.calls.count (.wmClosed spawn) + held m.wmFd spawn) :
    next.calls.count (.wmOpened spawn) = next.calls.count (.xserverLoaded spawn) +
      next.calls.count (.wmClosed spawn) + held next.wmFd spawn := by
  cases taken with
  | gone => exact before
  | same => exact before
  | failed failed => cases failed <;> simp [Machine.wmFd, List.count_cons] at before ⊢ <;> omega
  | created alive =>
      simp [Machine.wmFd, alive, XwaylandState.createdCalls, XwaylandState.closeDisplayWatch,
        List.count_cons] at before ⊢
      omega
  | unready alive =>
      simp [Machine.wmFd, alive, XwaylandState.closeDisplayWatch] at before ⊢
      omega
  | ready alive =>
      simp [Machine.wmFd, alive, XwaylandState.closeDisplayWatch] at before ⊢
      omega
  | exited alive =>
      simp [Machine.wmFd, alive] at before ⊢
      omega
  | teardown alive =>
      simp [Machine.wmFd, alive, XwaylandState.teardown, XwaylandState.closeDisplayWatch]
        at before ⊢
      omega

private theorem source_step (taken : Transition m label next) {spawn : Spawn}
    (before : m.calls.count (.sourceAdded spawn) =
      m.calls.count (.sourceRemoved spawn) + held m.displayFdSource spawn) :
    next.calls.count (.sourceAdded spawn) =
      next.calls.count (.sourceRemoved spawn) + held next.displayFdSource spawn := by
  cases taken with
  | gone => exact before
  | same => exact before
  | failed failed => cases failed <;> simpa [Machine.displayFdSource] using before
  | created alive =>
      simp [Machine.displayFdSource, alive, XwaylandState.createdCalls,
        XwaylandState.closeDisplayWatch] at before ⊢
      omega
  | unready alive =>
      simp [Machine.displayFdSource, alive, XwaylandState.closeDisplayWatch] at before ⊢
      omega
  | ready alive =>
      simp [Machine.displayFdSource, alive, XwaylandState.closeDisplayWatch] at before ⊢
      omega
  | exited alive =>
      simp [Machine.displayFdSource, alive] at before ⊢
      omega
  | teardown alive =>
      simp [Machine.displayFdSource, alive, XwaylandState.teardown,
        XwaylandState.closeDisplayWatch] at before ⊢
      omega

/-- A server is told to the module as gone when it leaves its slot; only a spawn
while one is tracked takes the slot away from it. -/
theorem server_step (taken : Transition m label next) (spawn : Spawn) :
    ∃ lost, next.calls.count (.tracked spawn) + m.calls.count (.xserverExited spawn) +
        held (m.server.map Server.spawn) spawn =
      m.calls.count (.tracked spawn) + next.calls.count (.xserverExited spawn) +
        held (next.server.map Server.spawn) spawn + lost ∧
      (lost ≠ 0 → m.server ≠ none ∧ ∃ outcome, label = .spawnXserver outcome) := by
  have kept : ∀ {left right : Nat}, left = right → ∃ lost, left = right + lost ∧
      (lost ≠ 0 → m.server ≠ none ∧ ∃ outcome, label = .spawnXserver outcome) :=
    fun same => ⟨0, same, fun impossible => absurd rfl impossible⟩
  cases taken with
  | gone => exact kept rfl
  | same => exact kept rfl
  | failed failed => exact kept (by cases failed <;> simp [Machine.server])
  | created alive =>
      refine ⟨held (m.server.map Server.spawn) spawn, ?_, ?_⟩
      · simp [Machine.server, XwaylandState.createdCalls, XwaylandState.closeDisplayWatch,
          List.count_cons]
        omega
      · intro lost
        refine ⟨?_, _, rfl⟩
        intro idle
        rw [idle] at lost
        exact lost rfl
  | unready alive => exact kept (by simp [Machine.server, alive, XwaylandState.closeDisplayWatch])
  | ready alive => exact kept (by simp [Machine.server, alive, XwaylandState.closeDisplayWatch])
  | exited alive tracked =>
      exact kept (by simp [Machine.server, alive, tracked, List.count_cons]; omega)
  | teardown alive =>
      exact kept (by
        simp [Machine.server, alive, XwaylandState.teardown, XwaylandState.closeDisplayWatch]
        omega)

/-- A spawn opens its own socket, is tracked and watched at most once. -/
structure Opens (m : Machine) (spawn : Spawn) (bound : Nat) : Prop where
  wm : m.calls.count (.wmOpened spawn) ≤ bound
  source : m.calls.count (.sourceAdded spawn) ≤ bound
  tracked : m.calls.count (.tracked spawn) ≤ m.calls.count (.wmOpened spawn)

private theorem Opens.of_calls {spawn : Spawn} {bound : Nat} {calls : List Call}
    (opens : Opens m spawn bound)
    (same : next.calls = m.calls ++ calls)
    (none : .wmOpened spawn ∉ calls ∧ .sourceAdded spawn ∉ calls ∧ .tracked spawn ∉ calls) :
    Opens next spawn bound := by
  have wm := List.count_eq_zero.mpr none.1
  have source := List.count_eq_zero.mpr none.2.1
  have tracked := List.count_eq_zero.mpr none.2.2
  refine ⟨?_, ?_, ?_⟩
  · rw [same, List.count_append, wm]
    exact opens.wm
  · rw [same, List.count_append, source]
    exact opens.source
  · rw [same, List.count_append, List.count_append, wm, tracked]
    exact opens.tracked

/-- One for a spawn there has been. -/
def spawned (spawns spawn : Nat) : Nat := if spawn < spawns then 1 else 0

private theorem spawned_succ (spawns spawn : Nat) :
    spawned (spawns + 1) spawn = spawned spawns spawn + if spawns = spawn then 1 else 0 := by
  unfold spawned
  split <;> split <;> split <;> omega

theorem spawned_le (spawns spawn : Nat) : spawned spawns spawn ≤ 1 := by
  unfold spawned
  split <;> omega

theorem opens_step (taken : Transition m label next) {spawn : Spawn}
    (opens : Opens m spawn (spawned m.spawns spawn)) :
    Opens next spawn (spawned next.spawns spawn) := by
  have later := spawned_succ m.spawns spawn
  cases taken with
  | gone =>
      have more : spawned m.spawns spawn ≤ spawned (m.spawns + 1) spawn := by omega
      exact ⟨Nat.le_trans opens.wm more, Nat.le_trans opens.source more, opens.tracked⟩
  | same => exact opens
  | failed failed =>
      obtain ⟨wm, source, tracked⟩ := opens
      refine ⟨?_, ?_, ?_⟩
      · cases failed <;> simp [List.count_cons, later] <;> omega
      · cases failed <;> simp [later] <;> omega
      · cases failed <;> simp <;> omega
  | @created st pid watched source alive own =>
      have fresh : held source spawn ≤ if m.spawns = spawn then 1 else 0 := by
        cases source with
        | none => exact Nat.zero_le _
        | some other => simp [own other rfl]
      obtain ⟨wm, added, tracked⟩ := opens
      refine ⟨?_, ?_, ?_⟩ <;> simp [XwaylandState.createdCalls, XwaylandState.closeDisplayWatch,
        List.count_cons, later] <;> omega
  | unready => exact opens.of_calls rfl (by simp [XwaylandState.closeDisplayWatch])
  | ready => exact opens.of_calls rfl (by simp [XwaylandState.closeDisplayWatch])
  | exited => exact opens.of_calls rfl (by simp)
  | teardown =>
      exact opens.of_calls rfl (by simp [XwaylandState.teardown, XwaylandState.closeDisplayWatch])

/-! ### The line before the handover -/

/-- The module is given the WM socket of a spawn right after a line of its pipe. -/
def Announced (calls : List Call) : Prop :=
  ∀ place spawn, calls[place]? = some (.xserverLoaded spawn) →
    ∃ before, place = before + 1 ∧ calls[before]? = some (.lineRead spawn)

theorem Announced.append {calls new : List Call} (old : Announced calls)
    (announced : Announced new) :
    Announced (calls ++ new) := by
  intro place spawn found
  rw [List.getElem?_append] at found
  split at found
  · obtain ⟨before, rfl, line⟩ := old place spawn found
    refine ⟨before, rfl, ?_⟩
    rw [List.getElem?_append_left (by omega), line]
  · obtain ⟨before, same, line⟩ := announced _ spawn found
    refine ⟨calls.length + before, by omega, ?_⟩
    rw [List.getElem?_append_right (Nat.le_add_right _ _), Nat.add_sub_cancel_left, line]

private theorem Announced.of_none {calls : List Call}
    (none : ∀ spawn, .xserverLoaded spawn ∉ calls) :
    Announced calls := by
  intro place spawn found
  exact absurd (List.mem_of_getElem? found) (none spawn)

theorem Announced.line (spawn : Spawn) {held : Option Spawn} {closed : List Call}
    (own : ∀ other, held = some other → other = spawn)
    (none : ∀ spawn, .xserverLoaded spawn ∉ closed) :
    Announced (.lineRead spawn :: (held.toList.map .xserverLoaded ++ closed)) := by
  cases held with
  | none =>
      apply Announced.of_none
      intro other member
      rcases List.mem_cons.mp member with impossible | member
      · cases impossible
      · exact none other member
  | some other =>
      obtain rfl := own other rfl
      have both : Announced [.lineRead other, .xserverLoaded other] := by
        intro place spawn found
        match place with
        | 0 => cases found
        | 1 =>
            cases found
            exact ⟨0, rfl, rfl⟩
        | place + 2 => cases found
      exact both.append (.of_none none)

/-- The WM socket and the watch are of one spawn. -/
def Paired (m : Machine) : Prop :=
  ∀ wm source, m.wmFd = some wm → m.displayFdSource = some source → wm = source

theorem Paired.step (paired : Paired m) (taken : Transition m label next) : Paired next := by
  intro wm source parked installed
  cases taken with
  | gone => exact paired wm source parked installed
  | same => exact paired wm source parked installed
  | failed => exact paired wm source parked installed
  | created alive own =>
      cases parked
      exact (own source installed).symm
  | unready => cases installed
  | ready => cases installed
  | exited alive =>
      apply paired wm source
      · rw [Machine.wmFd, alive]
        exact parked
      · rw [Machine.displayFdSource, alive]
        exact installed
  | teardown => cases installed

theorem Announced.step (announced : Announced m.calls) (paired : Paired m)
    (taken : Transition m label next) : Announced next.calls := by
  cases taken with
  | gone => exact announced
  | same => exact announced
  | failed failed => exact announced.append (.of_none (by cases failed <;> simp))
  | created =>
      exact announced.append (.of_none (by
        simp [XwaylandState.createdCalls, XwaylandState.closeDisplayWatch]))
  | unready => exact announced.append (.of_none (by simp [XwaylandState.closeDisplayWatch]))
  | @ready st spawn _ _ alive installed =>
      refine announced.append (.line spawn ?_ (by simp [XwaylandState.closeDisplayWatch]))
      intro other parked
      apply paired other spawn
      · rw [Machine.wmFd, alive]
        exact parked
      · rw [Machine.displayFdSource, alive]
        exact installed
  | exited => exact announced.append (.of_none (by simp))
  | teardown =>
      exact announced.append (.of_none (by
        simp [XwaylandState.teardown, XwaylandState.closeDisplayWatch]))

/-! ### Runs -/

namespace Machine

/-- The module asks for a new server only when none is tracked. -/
def asks (m : Machine) : Label → Bool
  | .spawnXserver _ => m.server.isNone
  | _ => true

def askedStep (m : Machine) (label : Label) : Option Machine :=
  if m.asks label then m.step label else none

def AskedStep (m : Machine) (label : Label) (next : Machine) : Prop :=
  m.askedStep label = some next

/-- A watch that was added and not removed. -/
def Installed (m : Machine) (spawn : Spawn) : Prop :=
  .sourceAdded spawn ∈ m.calls ∧ .sourceRemoved spawn ∉ m.calls

end Machine

/-- What becomes of the watches, the sockets and the servers: a thing that is made is
given up once, or is in its slot and is not given up yet. -/
structure Disciplined (m : Machine) : Prop where
  installed : ∀ first second, m.Installed first → m.Installed second → first = second
  watches : ∀ spawn, .sourceAdded spawn ∈ m.calls →
    m.calls.count (.sourceAdded spawn) = 1 ∧
    m.calls.count (.sourceRemoved spawn) + held m.displayFdSource spawn = 1
  unwatched : ∀ spawn, .sourceRemoved spawn ∈ m.calls → .sourceAdded spawn ∈ m.calls
  sockets : ∀ spawn, .tracked spawn ∈ m.calls →
    m.calls.count (.xserverLoaded spawn) + m.calls.count (.wmClosed spawn) +
      held m.wmFd spawn = 1
  handed : Announced m.calls
  exits : ∀ spawn, .tracked spawn ∈ m.calls →
    m.calls.count (.xserverExited spawn) + held (m.server.map Server.spawn) spawn = 1
  untracked : ∀ spawn, .xserverExited spawn ∈ m.calls → .tracked spawn ∈ m.calls
  ended : m.xwayland = none → ∀ spawn, held m.displayFdSource spawn = 0 ∧
    held m.wmFd spawn = 0 ∧ held (m.server.map Server.spawn) spawn = 0

/-- What every step keeps of it. -/
structure Balanced (m : Machine) : Prop where
  wm : ∀ spawn, m.calls.count (.wmOpened spawn) =
    m.calls.count (.xserverLoaded spawn) + m.calls.count (.wmClosed spawn) + held m.wmFd spawn
  source : ∀ spawn, m.calls.count (.sourceAdded spawn) =
    m.calls.count (.sourceRemoved spawn) + held m.displayFdSource spawn
  server : ∀ spawn, m.calls.count (.tracked spawn) =
    m.calls.count (.xserverExited spawn) + held (m.server.map Server.spawn) spawn
  opens : ∀ spawn, Opens m spawn (spawned m.spawns spawn)
  paired : Paired m
  announced : Announced m.calls

theorem Balanced.start : Balanced .start where
  wm _ := rfl
  source _ := rfl
  server _ := rfl
  opens _ := ⟨Nat.zero_le _, Nat.zero_le _, Nat.le_refl _⟩
  paired _ _ parked := by cases parked
  announced _ _ found := by cases found

theorem Balanced.step (balanced : Balanced m) (taken : m.AskedStep label next) :
    Balanced next := by
  unfold Machine.AskedStep Machine.askedStep at taken
  split at taken
  · rename_i asks
    have moved := Machine.transition taken
    refine ⟨?_, ?_, ?_, ?_, balanced.paired.step moved,
      balanced.announced.step balanced.paired moved⟩
    · exact fun spawn => wm_step moved (balanced.wm spawn)
    · exact fun spawn => source_step moved (balanced.source spawn)
    · intro spawn
      have before := balanced.server spawn
      obtain ⟨lost, same, taken⟩ := server_step moved spawn
      cases lost with
      | zero => omega
      | succ lost =>
          obtain ⟨tracked, outcome, rfl⟩ := taken (Nat.succ_ne_zero lost)
          exact absurd (Option.isNone_iff_eq_none.mp asks) tracked
    · exact fun spawn => opens_step moved (balanced.opens spawn)
  · cases taken

private theorem held_unique {slot : Option Spawn} {first second : Spawn}
    (left : held slot first ≠ 0)
    (right : held slot second ≠ 0) : first = second := by
  cases slot with
  | none => exact absurd rfl left
  | some other => simp_all

private theorem Balanced.disciplined (balanced : Balanced m) : Disciplined m where
  installed first second left right := by
    have one := balanced.source first
    have two := balanced.source second
    rw [List.count_eq_zero.mpr left.2] at one
    rw [List.count_eq_zero.mpr right.2] at two
    have first := List.count_pos_iff.mpr left.1
    have second := List.count_pos_iff.mpr right.1
    exact @held_unique m.displayFdSource _ _ (by omega) (by omega)
  watches spawn added := by
    have pos := List.count_pos_iff.mpr added
    have most := Nat.le_trans (balanced.opens spawn).source (spawned_le m.spawns spawn)
    have same := balanced.source spawn
    omega
  unwatched spawn removed := by
    have pos := List.count_pos_iff.mpr removed
    have same := balanced.source spawn
    exact List.count_pos_iff.mp (by omega)
  sockets spawn tracked := by
    have pos := List.count_pos_iff.mpr tracked
    have most := Nat.le_trans (balanced.opens spawn).wm (spawned_le m.spawns spawn)
    have opened := (balanced.opens spawn).tracked
    have same := balanced.wm spawn
    omega
  handed := balanced.announced
  exits spawn tracked := by
    have pos := List.count_pos_iff.mpr tracked
    have most := Nat.le_trans (balanced.opens spawn).wm (spawned_le m.spawns spawn)
    have opened := (balanced.opens spawn).tracked
    have same := balanced.server spawn
    omega
  untracked spawn exited := by
    have pos := List.count_pos_iff.mpr exited
    have same := balanced.server spawn
    exact List.count_pos_iff.mp (by omega)
  ended gone spawn := by
    simp [Machine.displayFdSource, Machine.wmFd, Machine.server, gone]

/-- In every run, watches, WM sockets and servers are each given up exactly once. -/
theorem xwayland_resources {labels : List Label}
    (run : Run Machine.AskedStep .start labels m) : Disciplined m := by
  have balanced : Balanced m := by
    induction run with
    | nil => exact .start
    | snoc _ taken ih => exact ih.step taken
  exact balanced.disciplined

/-- A server that is ready and exits, one that dies before it is ready, and one that
the teardown meets. -/
theorem xwayland_resources_respawns :
    ∃ labels m, Run Machine.AskedStep .start labels m ∧ m.calls.length = 25 ∧ Disciplined m := by
  let labels : List Label :=
    [.spawnXserver (.created 7 true), .displayFd true (.bytes [48, 10]), .childExit 7,
      .spawnXserver (.created 8 true), .childExit 8, .spawnXserver (.created 9 true), .teardown]
  have reached :
      (follow Machine.askedStep .start labels).map (fun m => m.calls.length) = some 25 := by
    rfl
  obtain ⟨m, found, length⟩ := Option.map_eq_some_iff.mp reached
  exact ⟨labels, m, run_of_follow found, length, xwayland_resources (run_of_follow found)⟩

end Westonite.Xwayland
