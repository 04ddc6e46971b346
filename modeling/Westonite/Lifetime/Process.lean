import Westonite.Lifetime.EventLoop

/-! The whole process: all that it acquires it releases, and nothing before what needs it. -/

set_option autoImplicit false

namespace Westonite.Lifetime

open Library Library.Binary
open Resolve (Cli Env Host Settings)

variable {lc : LogContext} {front actions : List (Action Resource)} {outside : Outside}
  {cli : Cli} {settings : Settings} {b : CompositorBuilder} {labels : List Children.Label}

/-! ### The session -/

/-- A dropped compositor leaves the log context. -/
theorem Ready.dropped {c : Compositor} (ready : Ready lc front c) :
    Tallied needs (front ++ c.drop.actions) (· ∈ lc.held) := by
  obtain ⟨accounts, empty⟩ := ready.drop
  apply Tallied.congr accounts
  intro resource
  simp only [empty, or_false]

/-- A compositor that runs its event loop. -/
theorem run_tallied {c : Compositor} {path : String} {final : Children.Machine}
    (rising : Rising lc front c)
    (taken : eventLoop (.start c.xwayland.isSome path) labels = some (final, actions)) :
    Tallied needs (front ++ (c.ended final (.use .display :: actions)).drop.actions)
      (· ∈ lc.held) := by
  have dispatching := rising.use .display (.inr rising.ready.display)
  have running := eventLoop_running dispatching (Running.start dispatching path) taken
  have same : c.ended final (.use .display :: actions) =
      (c.log [.use .display]).ended final ([] ++ actions) := by
    simp [Compositor.ended, Compositor.log]
  rw [same]
  exact (running.ended dispatching).dropped

private theorem session_tallied (opened : Tallied needs front (· ∈ lc.held))
    (recorder : b.flightRec = true → lc.flightRec = true) (owned : ¬ b.Orphans outside.build)
    (taken : session outside cli settings b labels = some actions) :
    Tallied needs (front ++ actions) (· ∈ lc.held) := by
  have built : CompositorBuilder.Built lc front b outside.build (b.build outside.build) :=
    CompositorBuilder.build_built opened recorder
  unfold session at taken
  generalize b.build outside.build = outcome at built taken
  cases built with
  | failed _ accounts empty =>
      cases taken
      apply Tallied.congr accounts
      intro resource
      simp only [empty, or_false]
  | orphaned orphans _ _ => exact absurd orphans owned
  | built _ rising =>
      dsimp only at taken
      split at taken
      · cases taken
        exact rising.ready.dropped
      · obtain ⟨⟨final, looped⟩, run, rfl⟩ := Option.map_eq_some_iff.mp taken
        exact run_tallied rising run

/-- An orphan is there when the session is over. -/
private theorem session_orphaned (opened : Tallied needs front (· ∈ lc.held))
    (recorder : b.flightRec = true → lc.flightRec = true) (orphans : b.Orphans outside.build)
    (taken : session outside cli settings b labels = some actions) :
    ∃ held, Tallied needs (front ++ actions) held ∧ held .compositor := by
  have built : CompositorBuilder.Built lc front b outside.build (b.build outside.build) :=
    CompositorBuilder.build_built opened recorder
  unfold session at taken
  generalize b.build outside.build = outcome at built taken
  cases built with
  | failed owned _ _ => exact absurd orphans owned
  | orphaned _ accounts holds =>
      cases taken
      exact ⟨_, accounts, .inr holds⟩
  | built owned _ => exact absurd orphans owned

/-! ### The process -/

/-- The log context goes while an orphan needs it. -/
private theorem LogContext.drop_needed {held : Resource → Prop} (tallied : Tallied needs front held)
    (holds : held .compositor) : replay needs ∅ (front ++ lc.drop) = none := by
  have split : lc.drop =
      (flag lc.installed .logHandlers ++ flag lc.scope .logScope ++ flag lc.logger .logger ++
        flag lc.flightRec .flightRec).map .release ++
      .release .logContext :: (flag lc.file .logFile).map .release := by
    simp [LogContext.drop, LogContext.owned]
  rw [split]
  apply tallied.replay_release_needed holds
  · simp [needs]
  · simp

section

variable (display : F64 → String) (evdev : String → Int) (host : Host) (outside : Outside)
  (cli : Cli) (env : Env)

/-- The process comes as far as to a compositor that nobody owns. -/
def Orphaned : Prop :=
  cli.version = false ∧ outside.xdgRuntimeDir = true ∧
    ∃ lc front settings, LogContext.new (.ofCli cli) outside.log = (.ok lc, front) ∧
      prepare display evdev host cli env = .ok settings ∧
      (builderOf lc settings).Orphans outside.build

end

variable {display : F64 → String} {evdev : String → Int} {host : Host} {env : Env}

/-- Only a session leaves anything. -/
private theorem orphaned_iff (printed : cli.version = false)
    (directory : outside.xdgRuntimeDir = true)
    (made : LogContext.new (.ofCli cli) outside.log = (.ok lc, front))
    (prepared : prepare display evdev host cli env = .ok settings) :
    Orphaned display evdev host outside cli env ↔
      (builderOf lc settings).Orphans outside.build := by
  constructor
  · rintro ⟨_, _, other, before, others, again, ready, orphans⟩
    cases made.symm.trans again
    cases prepared.symm.trans ready
    exact orphans
  · exact fun orphans => ⟨printed, directory, lc, front, settings, made, prepared, orphans⟩

/-- The log file is cloned for `LOG_FILE`. -/
def clonesLog (outside : Outside) (cli : Cli) : Bool :=
  !cli.version && LogContext.leavesClone (.ofCli cli) outside.log

/-- What a process leaves at its end. -/
def left (outside : Outside) (cli : Cli) : Finset Resource :=
  (flag (clonesLog outside cli) .fallbackLog).toFinset

/-- A run of the process ends with nothing left but the clone of the log file, and releases
nothing that is needed or used later, unless the color manager is asked for and does not
load. -/
theorem main_balanced
    (taken : main display evdev host outside cli env labels = some actions) :
    (¬ Orphaned display evdev host outside cli env →
      replay needs ∅ actions = some (left outside cli)) ∧
      (Orphaned display evdev host outside cli env → replay needs ∅ actions = none) := by
  have ended : ¬ Orphaned display evdev host outside cli env →
      replay needs ∅ actions = some (left outside cli) →
      (¬ Orphaned display evdev host outside cli env →
        replay needs ∅ actions = some (left outside cli)) ∧
        (Orphaned display evdev host outside cli env → replay needs ∅ actions = none) :=
    fun owned empty => ⟨fun _ => empty, fun orphaned => absurd orphaned owned⟩
  unfold main at taken
  split at taken
  · rename_i printed
    cases taken
    apply ended (fun orphaned => by simp [orphaned.1] at printed)
    unfold left clonesLog
    rw [printed]
    rfl
  · rename_i printed
    have remains : left outside cli =
        (flag (LogContext.leavesClone (.ofCli cli) outside.log) .fallbackLog).toFinset := by
      unfold left clonesLog
      rw [eq_false_of_ne_true printed]
      rfl
    cases made : LogContext.new (.ofCli cli) outside.log with
    | mk result before =>
        rw [made] at taken
        cases result with
        | error failure =>
            cases taken
            apply ended _ ((LogContext.new_error made).trans (congrArg some remains.symm))
            rintro ⟨_, _, lc, front, settings, again, _⟩
            cases made.symm.trans again
        | ok lc =>
            have opened := LogContext.new_tallied made
            rw [← (LogContext.new_eq_ok made).2.2.2.1] at remains
            have idle : replay needs ∅ (before ++ [] ++ lc.drop) = some (left outside cli) := by
              rw [List.append_nil, remains]
              exact LogContext.drop_tallied opened
            obtain ⟨middle, session, rfl⟩ := Option.map_eq_some_iff.mp taken
            split at session
            · rename_i directory
              cases session
              apply ended _ idle
              intro orphaned
              simp [orphaned.2.1] at directory
            · rename_i directory
              cases prepared : prepare display evdev host cli env with
              | error text =>
                  rw [prepared] at session
                  cases session
                  apply ended _ idle
                  rintro ⟨_, _, lc, front, settings, _, ready, _⟩
                  cases prepared.symm.trans ready
              | ok settings =>
                  rw [prepared] at session
                  rw [orphaned_iff (by simpa using printed) (by simpa using directory) made
                    prepared]
                  constructor
                  · intro owned
                    rw [remains]
                    exact LogContext.drop_tallied (session_tallied opened id owned session)
                  · intro orphans
                    obtain ⟨held, tallied, holds⟩ := session_orphaned opened id orphans session
                    exact LogContext.drop_needed tallied holds

/-- A world in which everything works. -/
def working : Outside where
  log := ⟨true, true, true, true, true, true, true⟩
  xdgRuntimeDir := true
  build :=
    { display := true, compositor := true, xkbRuleNames := true, colorManager := true,
      protocolScope := true, protologger := true, signalSource := fun _ => true,
      load := fun _ => none, backendsLoaded := true, destroyListenerOnce := true,
      desktop := true, outputs := true, socket := true, xwayland := true }
  executable := fun _ => true
  spawned := some 40

/-- A host without files. -/
def emptyHost : Host where
  isFile _ := false
  readToString _ := .error ""
  parse _ := .ok []
  tryInto _ := .ok {}

def serving : Cli := { backend := some "headless", xwayland := true, log := some "weston.log" }

/-- A server whose display is up and a screenshot that is taken, when the session ends. -/
def servingLabels : List Children.Label :=
  [.spawnXserver (.created 41 true), .superS (.started "shot" 42 7), .displayFd true (.bytes [10]),
    .exits 41 0, .sigchld [41]]

theorem main_balanced_serving :
    ∃ actions,
      main (fun _ => "") (fun _ => 0) emptyHost working serving (fun _ => none) servingLabels =
        some actions ∧
      .acquire (.displayFdSource 0) ∈ actions ∧ .acquire (.clientDestroy 7) ∈ actions ∧
      replay needs ∅ actions = some {.fallbackLog} := by
  have taken : main (fun _ => "") (fun _ => 0) emptyHost working serving (fun _ => none)
      servingLabels = some _ := rfl
  refine ⟨_, taken, ?_, ?_, (main_balanced taken).1 ?_⟩
  · decide
  · decide
  · rintro ⟨_, _, _, _, _, _, _, orphans⟩
    cases orphans.2.2.2.2.2.2

end Westonite.Lifetime
