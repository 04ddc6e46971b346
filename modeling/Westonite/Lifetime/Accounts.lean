import Westonite.Lifetime.Main

/-! What the log and the compositor hold, against what was acquired and not released. -/

set_option autoImplicit false

namespace Westonite.Lifetime

open Library
open Xwayland (XwaylandState Spawn)

/-! ### The log -/

namespace Resource

/-- Resources of the log context. -/
def ofLog : Resource → Bool
  | .logContext | .logScope | .logFile | .fallbackLog | .logger | .flightRec | .logHandlers => true
  | _ => false

private theorem ofLog_of_needs {resource needed : Resource} (log : resource.ofLog = true)
    (member : needed ∈ needs resource) : needed.ofLog = true := by
  cases resource <;> simp [ofLog, needs] at log member
  · simp [member, ofLog]
  · rcases member with rfl | rfl <;> rfl
  · simp [member, ofLog]
  · simp [member, ofLog]

/-- Resources that no other one needs. -/
def leaf : Resource → Bool
  | .logContext | .logScope | .logFile | .flightRec | .current | .display | .compositor
  | .protocolScope | .displayPipe _ => false
  | _ => true

theorem leaf_free {resource : Resource} (leaf : resource.leaf = true) (other : Resource) :
    resource ∉ needs other := by
  intro needed
  cases other <;> simp [needs] at needed <;> grind [Resource.leaf]

end Resource

@[simp] theorem mem_flag {there : Bool} {resource other : Resource} :
    other ∈ flag there resource ↔ other = resource ∧ there = true := by
  cases there <;> simp [flag]

theorem nodup_flag (there : Bool) (resource : Resource) : (flag there resource).Nodup := by
  cases there <;> simp [flag]

namespace LogContext

variable {lc : LogContext} {setup : LogSetup} {answers : LogAnswers}

theorem ofLog_of_held {resource : Resource} (held : resource ∈ lc.held) :
    resource.ofLog = true := by
  simp only [LogContext.held, LogContext.owned, List.mem_append, mem_flag,
    List.mem_singleton] at held
  obtain ⟨rfl, _⟩ | ((((⟨rfl, _⟩ | ⟨rfl, _⟩) | ⟨rfl, _⟩) | ⟨rfl, _⟩) | rfl) | ⟨rfl, _⟩ := held <;>
    rfl

theorem logContext_held : Resource.logContext ∈ lc.held := by
  simp [LogContext.held, LogContext.owned]

/-- The context of `new` before its handlers are installed, and what it did so far. -/
theorem new_eq_ok {actions : List (Action Resource)}
    (made : LogContext.new setup answers = (.ok lc, actions)) :
    lc.scope = true ∧ lc.file = true ∧ lc.installed = true ∧
      lc.fallback = leavesClone setup answers ∧
      actions = [.acquire .logContext, .acquire .logScope, .acquire .logFile] ++
        (flag lc.fallback .fallbackLog).map .acquire ++
        (flag lc.logger .logger ++ flag lc.flightRec .flightRec).map .acquire ++
        lc.subscriptions setup ++ [.acquire .logHandlers] := by
  unfold LogContext.new at made
  split at made
  · cases made
  · rename_i ctx
    dsimp only at made
    split at made
    · cases made
    · rename_i scope
      split at made
      · cases made
      · rename_i descriptor
        split at made
        · cases made
        · rename_i clone
          split at made
          · cases made
          · cases made
            refine ⟨rfl, rfl, rfl, ?_, rfl⟩
            simp only [Bool.not_eq_true', Bool.not_eq_false] at ctx scope descriptor
            unfold leavesClone
            rw [ctx, scope, descriptor]
            cases named : setup.file.isSome with
            | false => rfl
            | true => simpa [named] using clone

private theorem subscribe_uses {there : Bool} {subscriber : Resource} {name : String}
    {action : Action Resource} (member : action ∈ subscribe there subscriber name) :
    there = true ∧ (action = .use .logContext ∨ action = .use subscriber) := by
  unfold subscribe at member
  split at member
  · rename_i both
    simp only [Bool.and_eq_true] at both
    simp only [List.mem_cons, List.not_mem_nil, or_false] at member
    exact ⟨both.1, member⟩
  · cases member

private theorem subscriptions_use {action : Action Resource}
    (member : action ∈ lc.subscriptions setup) :
    ∃ resource, action = .use resource ∧
      (resource = .logContext ∨ resource = .logger ∧ lc.logger = true ∨
        resource = .flightRec ∧ lc.flightRec = true) := by
  unfold subscriptions at member
  rcases List.mem_append.mp member with member | member
  · obtain ⟨name, _, member⟩ := List.mem_flatMap.mp member
    obtain ⟨there, rfl | rfl⟩ := subscribe_uses member
    · exact ⟨_, rfl, .inl rfl⟩
    · exact ⟨_, rfl, .inr (.inl ⟨rfl, there⟩)⟩
  · obtain ⟨name, _, member⟩ := List.mem_flatMap.mp member
    obtain ⟨there, rfl | rfl⟩ := subscribe_uses member
    · exact ⟨_, rfl, .inl rfl⟩
    · exact ⟨_, rfl, .inr (.inr ⟨rfl, there⟩)⟩

/-- A context that comes up has acquired what it holds. -/
theorem new_tallied {actions : List (Action Resource)}
    (made : LogContext.new setup answers = (.ok lc, actions)) :
    Tallied needs actions (· ∈ lc.held) := by
  obtain ⟨scope, file, installed, _, rfl⟩ := new_eq_ok made
  have opened : Tallied needs [.acquire .logContext, .acquire .logScope, .acquire .logFile]
      fun resource => resource ∈ [Resource.logContext, .logScope, .logFile] :=
    ⟨{.logContext, .logScope, .logFile}, by decide, fun resource => by simp⟩
  have cloned : Tallied needs
      ([.acquire .logContext, .acquire .logScope, .acquire .logFile] ++
        (flag lc.fallback .fallbackLog).map .acquire)
      fun resource => resource ∈ [Resource.logContext, .logScope, .logFile] ∨
        resource = .fallbackLog ∧ lc.fallback = true := by
    apply opened.acquireAll (flag lc.fallback .fallbackLog) (nodup_flag _ _)
    · simp
    · simp [needs]
    · intro resource
      rw [mem_flag]
      exact or_comm
  have subscribed : Tallied needs
      ([.acquire .logContext, .acquire .logScope, .acquire .logFile] ++
        (flag lc.fallback .fallbackLog).map .acquire ++
        (flag lc.logger .logger ++ flag lc.flightRec .flightRec).map .acquire)
      fun resource => (resource ∈ [Resource.logContext, .logScope, .logFile] ∨
          resource = .fallbackLog ∧ lc.fallback = true) ∨
        resource = .logger ∧ lc.logger = true ∨
        resource = .flightRec ∧ lc.flightRec = true := by
    apply cloned.acquireAll (flag lc.logger .logger ++ flag lc.flightRec .flightRec)
    · cases lc.logger <;> cases lc.flightRec <;> decide
    · simp [or_imp, forall_and]
    · intro new member
      simp only [List.mem_append, mem_flag] at member
      rcases member with ⟨rfl, _⟩ | ⟨rfl, _⟩ <;> simp [needs]
    · intro resource
      simp only [List.mem_append, mem_flag]
      exact or_comm
  have used := subscribed.useAll (lc.subscriptions setup) (by
    intro action member
    obtain ⟨resource, same, which⟩ := subscriptions_use member
    refine ⟨resource, same, ?_⟩
    rcases which with rfl | held
    · exact .inl (.inl (by simp))
    · exact .inr held)
  refine used.acquire .logHandlers (by simp) (by simp [needs]) ?_
  intro resource
  simp only [LogContext.held, LogContext.owned, scope, file, installed, List.mem_append, mem_flag,
    List.mem_cons, List.not_mem_nil, or_false, and_true]
  tauto

/-- A context that does not come up leaves nothing but the clone. -/
theorem new_error {error : LogError} {actions : List (Action Resource)}
    (failed : LogContext.new setup answers = (.error error, actions)) :
    replay needs ∅ actions =
      some (flag (leavesClone setup answers) .fallbackLog).toFinset := by
  unfold leavesClone
  unfold LogContext.new at failed
  split at failed
  · rename_i ctx
    rw [(Bool.not_eq_true' _).mp ctx]
    cases failed
    rfl
  · rename_i ctx
    dsimp only at failed
    split at failed
    · rename_i scope
      simp only [(Bool.not_eq_true' _).mp scope, Bool.and_false, Bool.false_and]
      cases failed
      decide
    · rename_i scope
      split at failed
      · rename_i descriptor
        simp only [(Bool.not_eq_true' _).mp descriptor, Bool.and_false, Bool.false_and]
        cases failed
        decide
      · rename_i descriptor
        simp only [Bool.not_eq_true', Bool.not_eq_false] at ctx scope descriptor
        rw [ctx, scope, descriptor]
        split at failed
        · rename_i unlike
          rw [Bool.and_eq_true, Bool.not_eq_true'] at unlike
          rw [unlike.2, Bool.and_false]
          cases failed
          decide
        · rename_i clone
          split at failed
          · cases failed
            cases named : setup.file.isSome with
            | false =>
                rw [Bool.and_false, Bool.false_and]
                decide
            | true =>
                have cloned : answers.clone = true := by simpa [named] using clone
                rw [cloned]
                decide
          · cases failed

/-- Dropping it releases all that it owns, in an order that works. -/
private theorem drop_releases (lc : LogContext) :
    replay needs lc.held.toFinset lc.drop = some (flag lc.fallback .fallbackLog).toFinset := by
  obtain ⟨scope, logger, flightRec, file, installed, fallback⟩ := lc
  revert scope logger flightRec file installed fallback
  decide

theorem drop_tallied {log : List (Action Resource)}
    (tallied : Tallied needs log (· ∈ lc.held)) :
    replay needs ∅ (log ++ lc.drop) = some (flag lc.fallback .fallbackLog).toFinset := by
  obtain ⟨live, replayed, holds⟩ := tallied
  have same : live = lc.held.toFinset := by
    apply Finset.ext
    intro resource
    rw [holds, List.mem_toFinset]
  rw [replay_append, replayed, Option.bind_some, same, drop_releases]

end LogContext

/-! ### The compositor -/

namespace Compositor

/-- What the handles of the compositor stand for. -/
def Holds (c : Compositor) : Resource → Prop
  | .logContext | .logScope | .logFile | .fallbackLog | .logger | .flightRec | .logHandlers =>
      False
  | .current => c.current = true
  | .display => c.display = true
  | .compositor => c.compositor = true
  | .xkbNames => c.xkbNames = true
  | .protocolScope => c.protocolScope = true
  | .protologger => c.protologger = true
  | .signalSource signal => signal ∈ c.signalSources
  | .headsChanged => c.headsChanged = true
  | .frontendListener listener => listener ∈ c.frontendListeners
  | .recorderBinding => c.recorderBinding = true
  | .shellListener listener => listener ∈ c.listeners
  | .shellLayers => c.shellLayers = true
  | .desktop => c.desktop = true
  | .wmFd spawn => c.xwayland.bind XwaylandState.wmFd = some spawn
  | .displayPipe spawn => c.xwayland.bind XwaylandState.displayPipe = some spawn
  | .displayFdSource spawn => c.xwayland.bind XwaylandState.displayFdSource = some spawn
  | .clientDestroy client => c.clientDestroy = some client

private theorem ofLog_of_holds {c : Compositor} {resource : Resource} (holds : c.Holds resource) :
    resource.ofLog = false := by
  cases resource <;> first | rfl | exact holds.elim

end Compositor

/-- All that was done since the process began leaves what the log context and the
compositor hold. -/
def Accounts (lc : LogContext) (front : List (Action Resource)) (c : Compositor) : Prop :=
  Tallied needs (front ++ c.actions) fun resource => resource ∈ lc.held ∨ c.Holds resource

namespace Accounts

variable {lc : LogContext} {front : List (Action Resource)} {c next : Compositor}

theorem congr (accounts : Accounts lc front c) (logged : next.actions = c.actions)
    (same : ∀ resource, next.Holds resource ↔ c.Holds resource) : Accounts lc front next := by
  unfold Accounts
  rw [logged]
  exact Tallied.congr accounts fun resource => or_congr Iff.rfl (same resource).symm

theorem use (accounts : Accounts lc front c) (resource : Resource)
    (there : resource ∈ lc.held ∨ c.Holds resource) :
    Accounts lc front (c.log [.use resource]) := by
  unfold Accounts
  rw [Compositor.log, ← List.append_assoc]
  exact Tallied.use accounts resource there

theorem acquire (accounts : Accounts lc front c) (news : List Resource) (once : news.Nodup)
    (fresh : ∀ new ∈ news, ¬ c.Holds new) (own : ∀ new ∈ news, new.ofLog = false)
    (needed : ∀ new ∈ news, ∀ other ∈ needs new, other ∈ lc.held ∨ c.Holds other)
    (logged : next.actions = c.actions ++ news.map .acquire)
    (gained : ∀ resource, next.Holds resource ↔ resource ∈ news ∨ c.Holds resource) :
    Accounts lc front next := by
  unfold Accounts
  rw [logged, ← List.append_assoc]
  apply Tallied.acquireAll accounts news once
  · intro new member held
    rcases held with log | held
    · have different := own new member
      rw [LogContext.ofLog_of_held log] at different
      cases different
    · exact fresh new member held
  · exact needed
  · intro resource
    rw [gained, or_left_comm]

theorem release (accounts : Accounts lc front c) (olds : List Resource) (once : olds.Nodup)
    (there : ∀ old ∈ olds, c.Holds old)
    (free : ∀ old ∈ olds, ∀ other, c.Holds other → old ∉ needs other)
    (logged : next.actions = c.actions ++ olds.map .release)
    (lost : ∀ resource, next.Holds resource ↔ resource ∉ olds ∧ c.Holds resource) :
    Accounts lc front next := by
  have own : ∀ old ∈ olds, old.ofLog = false := fun old member =>
    Compositor.ofLog_of_holds (there old member)
  unfold Accounts
  rw [logged, ← List.append_assoc]
  apply Tallied.releaseAll accounts olds once
  · exact fun old member => .inr (there old member)
  · intro old member other held needed
    rcases held with log | held
    · have ours := Resource.ofLog_of_needs (LogContext.ofLog_of_held log) needed
      rw [own old member] at ours
      cases ours
    · exact free old member other held needed
  · intro resource
    rw [lost]
    constructor
    · rintro (log | ⟨kept, held⟩)
      · refine ⟨fun member => ?_, .inl log⟩
        have ours := own resource member
        rw [LogContext.ofLog_of_held log] at ours
        cases ours
      · exact ⟨kept, .inr held⟩
    · rintro ⟨kept, log | held⟩
      · exact .inl log
      · exact .inr ⟨kept, held⟩

theorem releaseLeaves (accounts : Accounts lc front c) (olds : List Resource) (once : olds.Nodup)
    (leaves : ∀ old ∈ olds, old.leaf = true) (there : ∀ old ∈ olds, c.Holds old)
    (logged : next.actions = c.actions ++ olds.map .release)
    (lost : ∀ resource, next.Holds resource ↔ resource ∉ olds ∧ c.Holds resource) :
    Accounts lc front next :=
  accounts.release olds once there
    (fun old member other _ => Resource.leaf_free (leaves old member) other) logged lost

end Accounts

end Westonite.Lifetime
