import Westonite.Lifetime.Accounts

/-! Dropping the compositor, in the order of its steps. -/

set_option autoImplicit false

namespace Westonite.Lifetime

open Library
open Xwayland (XwaylandState)

namespace Accounts

variable {lc : LogContext} {front : List (Action Resource)} {c : Compositor}

/-! ### The steps before the compositor goes -/

/-- The watch before the pipe it polls. -/
theorem xwaylandTeardown (accounts : Accounts lc front c) (up : c.compositor = true) :
    Accounts lc front c.xwaylandTeardown := by
  unfold Compositor.xwaylandTeardown
  cases loaded : c.xwayland with
  | none => exact accounts
  | some st =>
      obtain ⟨pid, wmFd, source, pipe⟩ := st
      have unwatched : Accounts lc front
          { c.log (source.toList.map fun spawn => .release (.displayFdSource spawn)) with
            xwayland := some ⟨pid, wmFd, none, pipe⟩ } := by
        apply accounts.releaseLeaves (source.toList.map .displayFdSource)
        · cases source <;> simp
        · simp [Resource.leaf]
        · simp [Compositor.Holds, loaded]
        · simp [Compositor.log]
        · intro resource
          cases resource <;> simp [Compositor.Holds, Compositor.log, loaded]
      have closed : Accounts lc front
          { c.log ((source.toList.map fun spawn => .release (.displayFdSource spawn)) ++
              pipe.toList.map fun spawn => .release (.displayPipe spawn)) with
            xwayland := some ⟨pid, wmFd, none, none⟩ } := by
        apply unwatched.release (pipe.toList.map .displayPipe)
        · cases pipe <;> simp
        · simp [Compositor.Holds]
        · intro old member other held needed
          obtain ⟨spawn, _, rfl⟩ := List.mem_map.mp member
          cases other <;> simp [needs, Compositor.Holds] at needed held
        · simp [Compositor.log]
        · intro resource
          cases resource <;> simp [Compositor.Holds, Compositor.log]
      have dropped : Accounts lc front
          { c.log ((source.toList.map fun spawn => .release (.displayFdSource spawn)) ++
              (pipe.toList.map fun spawn => .release (.displayPipe spawn)) ++
              wmFd.toList.map fun spawn => .release (.wmFd spawn)) with
            xwayland := none } := by
        apply closed.releaseLeaves (wmFd.toList.map .wmFd)
        · cases wmFd <;> simp
        · simp [Resource.leaf]
        · simp [Compositor.Holds]
        · simp [Compositor.log]
        · intro resource
          cases resource <;> simp [Compositor.Holds, Compositor.log]
      cases pid with
      | none =>
          apply dropped.congr
          · cases source <;> cases pipe <;> cases wmFd <;> rfl
          · exact fun resource => Iff.rfl
      | some server =>
          apply (dropped.use .compositor (.inr up)).congr
          · cases source <;> cases pipe <;> cases wmFd <;>
              simp [Compositor.log, XwaylandState.teardown, XwaylandState.closeDisplayWatch,
                Compositor.callActions]
          · exact fun resource => Iff.rfl

theorem screenshooterTeardown (accounts : Accounts lc front c) :
    Accounts lc front c.screenshooterTeardown := by
  apply accounts.releaseLeaves (c.clientDestroy.toList.map .clientDestroy)
  · cases c.clientDestroy <;> simp
  · simp [Resource.leaf]
  · simp [Compositor.Holds]
  · simp [Compositor.screenshooterTeardown, Compositor.log]
  · intro resource
    cases resource <;> simp [Compositor.Holds, Compositor.screenshooterTeardown, Compositor.log]

theorem detachHeadsChanged (accounts : Accounts lc front c) :
    Accounts lc front c.detachHeadsChanged := by
  apply accounts.releaseLeaves (flag c.headsChanged .headsChanged) (nodup_flag _ _)
  · simp [Resource.leaf]
  · simp [Compositor.Holds]
  · rfl
  · intro resource
    cases resource <;> simp [Compositor.Holds, Compositor.detachHeadsChanged, Compositor.log]

theorem detachFrontendListeners (accounts : Accounts lc front c)
    (once : c.frontendListeners.Nodup) : Accounts lc front c.detachFrontendListeners := by
  apply accounts.releaseLeaves (c.frontendListeners.map .frontendListener)
  · exact once.map fun first second same => Resource.frontendListener.inj same
  · simp [Resource.leaf]
  · simp [Compositor.Holds]
  · simp [Compositor.detachFrontendListeners, Compositor.log]
  · intro resource
    cases resource <;>
      simp [Compositor.Holds, Compositor.detachFrontendListeners, Compositor.log]

theorem removeSignalSources (accounts : Accounts lc front c)
    (once : c.signalSources.Nodup) : Accounts lc front c.removeSignalSources := by
  apply accounts.releaseLeaves (c.signalSources.map .signalSource)
  · exact once.map fun first second same => Resource.signalSource.inj same
  · simp [Resource.leaf]
  · simp [Compositor.Holds]
  · simp [Compositor.removeSignalSources, Compositor.log]
  · intro resource
    cases resource <;> simp [Compositor.Holds, Compositor.removeSignalSources, Compositor.log]

/-- The logger before the scope it points at. -/
theorem destroyProtocolLogger (accounts : Accounts lc front c) :
    Accounts lc front c.destroyProtocolLogger := by
  have unlogged : Accounts lc front
      { c.log ((flag c.protologger .protologger).map .release) with protologger := false } := by
    apply accounts.releaseLeaves (flag c.protologger .protologger) (nodup_flag _ _)
    · simp [Resource.leaf]
    · simp [Compositor.Holds]
    · rfl
    · intro resource
      cases resource <;> simp [Compositor.Holds, Compositor.log]
  apply unlogged.release (flag c.protocolScope .protocolScope) (nodup_flag _ _)
  · simp [Compositor.Holds, Compositor.log]
  · intro old member other held needed
    obtain ⟨rfl, _⟩ := mem_flag.mp member
    cases other <;> simp [needs, Compositor.Holds] at needed held
  · simp [Compositor.destroyProtocolLogger, Compositor.log]
  · intro resource
    cases resource <;> simp [Compositor.Holds, Compositor.destroyProtocolLogger, Compositor.log]

end Accounts

/-! ### The compositor, the slot and the display -/

/-- Nothing calls back but the listeners of the shell. -/
structure Quiet (c : Compositor) : Prop where
  headsChanged : c.headsChanged = false
  frontendListeners : c.frontendListeners = []
  signalSources : c.signalSources = []
  protologger : c.protologger = false
  protocolScope : c.protocolScope = false
  xwayland : c.xwayland = none
  clientDestroy : c.clientDestroy = none

/-- What the shell made is there with the listener that takes it down. -/
structure Shelled (c : Compositor) : Prop where
  once : c.listeners.Nodup
  covered : .compositorDestroy ∈ c.listeners ∨
    c.listeners = [] ∧ c.shellLayers = false ∧ c.desktop = false

namespace Accounts

variable {lc : LogContext} {front : List (Action Resource)} {c : Compositor}

/-- The listeners of the `Ctx`, and then the slot. -/
theorem teardown (accounts : Accounts lc front c) (quiet : Quiet c) (once : c.listeners.Nodup)
    (layers : c.shellLayers = false) : Accounts lc front c.teardown := by
  have detached : Accounts lc front
      { c.log (c.listeners.map fun l => .release (.shellListener l)) with listeners := [] } := by
    apply accounts.releaseLeaves (c.listeners.map .shellListener)
    · exact once.map fun first second same => Resource.shellListener.inj same
    · simp [Resource.leaf]
    · simp [Compositor.Holds]
    · simp [Compositor.log]
    · intro resource
      cases resource <;> simp [Compositor.Holds, Compositor.log]
  apply detached.release (flag c.current .current) (nodup_flag _ _)
  · simp [Compositor.Holds, Compositor.log]
  · intro old member other held needed
    obtain ⟨rfl, _⟩ := mem_flag.mp member
    cases other <;> simp [needs, Compositor.Holds, Compositor.log, quiet.headsChanged,
      quiet.frontendListeners, quiet.signalSources, quiet.xwayland, quiet.clientDestroy]
      at needed held
  · simp [Compositor.teardown, Compositor.log]
  · intro resource
    cases resource <;> simp [Compositor.Holds, Compositor.teardown, Compositor.log, layers]

theorem shellDestroy (accounts : Accounts lc front c) (quiet : Quiet c) (once : c.listeners.Nodup)
    (listening : .compositorDestroy ∈ c.listeners) : Accounts lc front c.shellDestroy := by
  have destroyed : Accounts lc front
      { c.log (.release (.shellListener .compositorDestroy) ::
          (flag c.desktop .desktop ++ flag c.shellLayers .shellLayers).map .release) with
        listeners := c.listeners.erase .compositorDestroy
        desktop := false
        shellLayers := false } := by
    apply accounts.releaseLeaves (.shellListener .compositorDestroy ::
      (flag c.desktop .desktop ++ flag c.shellLayers .shellLayers))
    · cases c.desktop <;> cases c.shellLayers <;> decide
    · simp [Resource.leaf, or_imp, forall_and]
    · simp [Compositor.Holds, listening, or_imp, forall_and]
    · rfl
    · intro resource
      cases resource <;> simp [Compositor.Holds, Compositor.log, once.mem_erase_iff]
  apply destroyed.teardown
  · exact ⟨quiet.headsChanged, quiet.frontendListeners, quiet.signalSources, quiet.protologger,
      quiet.protocolScope, quiet.xwayland, quiet.clientDestroy⟩
  · exact once.erase _
  · rfl

/-- What the compositor owns, and then itself. -/
private theorem freeCompositor (accounts : Accounts lc front c) (quiet : Quiet c)
    (up : c.compositor = true) (listeners : c.listeners = []) (layers : c.shellLayers = false)
    (desktop : c.desktop = false) :
    Accounts lc front
      { c.log ((flag c.recorderBinding .recorderBinding ++ flag c.xkbNames .xkbNames ++
          [Resource.compositor]).map .release) with
        recorderBinding := false, xkbNames := false, compositor := false } := by
  have owned : Accounts lc front
      { c.log ((flag c.recorderBinding .recorderBinding ++ flag c.xkbNames .xkbNames).map
          .release) with
        recorderBinding := false, xkbNames := false } := by
    apply accounts.releaseLeaves
      (flag c.recorderBinding .recorderBinding ++ flag c.xkbNames .xkbNames)
    · cases c.recorderBinding <;> cases c.xkbNames <;> decide
    · simp [Resource.leaf, or_imp, forall_and]
    · simp [Compositor.Holds, or_imp, forall_and]
    · rfl
    · intro resource
      cases resource <;> simp [Compositor.Holds, Compositor.log]
  apply owned.release [.compositor] (List.nodup_singleton _)
  · simp [Compositor.Holds, Compositor.log, up]
  · intro old member other held needed
    cases List.mem_singleton.mp member
    cases other <;> simp [needs, Compositor.Holds, Compositor.log, quiet.headsChanged,
      quiet.frontendListeners, listeners, layers, desktop] at needed held
  · simp [Compositor.log]
  · intro resource
    cases resource <;> simp [Compositor.Holds, Compositor.log]

/-- What is left after the compositor, and the accounts of it. -/
theorem destroyCompositor (accounts : Accounts lc front c) (quiet : Quiet c)
    (shelled : Shelled c) (up : c.compositor = true) :
    Accounts lc front c.destroyCompositor ∧ Quiet c.destroyCompositor ∧
      c.destroyCompositor.listeners = [] ∧ c.destroyCompositor.shellLayers = false ∧
      c.destroyCompositor.desktop = false ∧ c.destroyCompositor.compositor = false ∧
      c.destroyCompositor.recorderBinding = false ∧ c.destroyCompositor.xkbNames = false := by
  have same : ∀ {c : Compositor} {actions : List (Action Resource)}, Quiet c →
      Quiet { c.log actions with
        recorderBinding := false, xkbNames := false, compositor := false } :=
    fun quiet => ⟨quiet.headsChanged, quiet.frontendListeners, quiet.signalSources,
      quiet.protologger, quiet.protocolScope, quiet.xwayland, quiet.clientDestroy⟩
  unfold Compositor.destroyCompositor
  rw [if_pos up]
  rcases shelled.covered with listening | ⟨listeners, layers, desktop⟩
  · rw [if_pos (List.contains_iff_mem.mpr listening)]
    have quieter : Quiet c.shellDestroy :=
      ⟨quiet.headsChanged, quiet.frontendListeners, quiet.signalSources, quiet.protologger,
        quiet.protocolScope, quiet.xwayland, quiet.clientDestroy⟩
    have destroyed := accounts.shellDestroy quiet shelled.once listening
    exact ⟨destroyed.freeCompositor quieter up rfl rfl rfl, same quieter, rfl, rfl, rfl, rfl, rfl,
      rfl⟩
  · rw [if_neg (by simp [listeners])]
    exact ⟨accounts.freeCompositor quiet up listeners layers desktop, same quiet, listeners, layers,
      desktop, rfl, rfl, rfl⟩

theorem destroyDisplay (accounts : Accounts lc front c) (quiet : Quiet c)
    (down : c.compositor = false) : Accounts lc front c.destroyDisplay := by
  apply accounts.release (flag c.display .display) (nodup_flag _ _)
  · simp [Compositor.Holds]
  · intro old member other held needed
    obtain ⟨rfl, _⟩ := mem_flag.mp member
    cases other <;> simp [needs, Compositor.Holds, quiet.signalSources, quiet.protologger,
      quiet.xwayland, quiet.clientDestroy, down] at needed held
  · rfl
  · intro resource
    cases resource <;> simp [Compositor.Holds, Compositor.destroyDisplay, Compositor.log]

end Accounts

/-! ### Drop -/

/-- A compositor that was brought up, as far as it came. -/
structure Ready (lc : LogContext) (front : List (Action Resource)) (c : Compositor) : Prop where
  accounts : Accounts lc front c
  current : c.current = true
  display : c.display = true
  compositor : c.compositor = true
  frontendOnce : c.frontendListeners.Nodup
  sourcesOnce : c.signalSources.Nodup
  shelled : Shelled c

private theorem xwaylandTeardown_eq (c : Compositor) :
    ∃ actions, c.xwaylandTeardown = { c.log actions with xwayland := none } := by
  unfold Compositor.xwaylandTeardown
  cases loaded : c.xwayland with
  | none => exact ⟨[], by simp [Compositor.log, ← loaded]⟩
  | some st => exact ⟨_, rfl⟩

/-- The steps before the compositor goes. -/
def Compositor.silenced (c : Compositor) : Compositor :=
  c.xwaylandTeardown.screenshooterTeardown.detachHeadsChanged.detachFrontendListeners
    |>.destroyProtocolLogger.removeSignalSources

private theorem silenced_quiet (c : Compositor) : Quiet c.silenced := by
  unfold Compositor.silenced
  obtain ⟨actions, gone⟩ := xwaylandTeardown_eq c
  rw [gone]
  generalize c.log actions = c
  constructor
  all_goals rfl

namespace Ready

variable {lc : LogContext} {front : List (Action Resource)} {c next : Compositor}

/-- A step that leaves what every step but its own needs. -/
theorem step (ready : Ready lc front c) (accounts : Accounts lc front next)
    (current : next.current = c.current) (display : next.display = c.display)
    (compositor : next.compositor = c.compositor)
    (frontendOnce : next.frontendListeners.Nodup) (sourcesOnce : next.signalSources.Nodup)
    (listeners : next.listeners = c.listeners) (layers : next.shellLayers = c.shellLayers)
    (desktop : next.desktop = c.desktop) : Ready lc front next where
  accounts := accounts
  current := current.trans ready.current
  display := display.trans ready.display
  compositor := compositor.trans ready.compositor
  frontendOnce := frontendOnce
  sourcesOnce := sourcesOnce
  shelled := by
    constructor
    · rw [listeners]
      exact ready.shelled.once
    · rw [listeners, layers, desktop]
      exact ready.shelled.covered

theorem xwaylandTeardown (ready : Ready lc front c) : Ready lc front c.xwaylandTeardown := by
  obtain ⟨actions, gone⟩ := xwaylandTeardown_eq c
  have accounts := ready.accounts.xwaylandTeardown ready.compositor
  rw [gone] at accounts ⊢
  exact ready.step accounts rfl rfl rfl ready.frontendOnce ready.sourcesOnce rfl rfl rfl

theorem screenshooterTeardown (ready : Ready lc front c) :
    Ready lc front c.screenshooterTeardown :=
  ready.step ready.accounts.screenshooterTeardown rfl rfl rfl ready.frontendOnce
    ready.sourcesOnce rfl rfl rfl

theorem detachHeadsChanged (ready : Ready lc front c) : Ready lc front c.detachHeadsChanged :=
  ready.step ready.accounts.detachHeadsChanged rfl rfl rfl ready.frontendOnce ready.sourcesOnce
    rfl rfl rfl

theorem detachFrontendListeners (ready : Ready lc front c) :
    Ready lc front c.detachFrontendListeners :=
  ready.step (ready.accounts.detachFrontendListeners ready.frontendOnce) rfl rfl rfl .nil
    ready.sourcesOnce rfl rfl rfl

theorem destroyProtocolLogger (ready : Ready lc front c) :
    Ready lc front c.destroyProtocolLogger :=
  ready.step ready.accounts.destroyProtocolLogger rfl rfl rfl ready.frontendOnce
    ready.sourcesOnce rfl rfl rfl

theorem removeSignalSources (ready : Ready lc front c) : Ready lc front c.removeSignalSources :=
  ready.step (ready.accounts.removeSignalSources ready.sourcesOnce) rfl rfl rfl
    ready.frontendOnce .nil rfl rfl rfl

private theorem silenced (ready : Ready lc front c) : Ready lc front c.silenced :=
  ready.xwaylandTeardown.screenshooterTeardown.detachHeadsChanged.detachFrontendListeners
    |>.destroyProtocolLogger.removeSignalSources

/-- A dropped compositor holds nothing any more. -/
theorem drop (ready : Ready lc front c) :
    Accounts lc front c.drop ∧ ∀ resource, ¬ c.drop.Holds resource := by
  have same : c.drop = c.silenced.destroyCompositor.teardown.destroyDisplay := rfl
  have quiet := silenced_quiet c
  have ready := ready.silenced
  rw [same]
  generalize c.silenced = silent at quiet ready
  obtain ⟨destroyed, quiet, listeners, layers, desktop, compositor, recorder, names⟩ :=
    ready.accounts.destroyCompositor quiet ready.shelled ready.compositor
  generalize silent.destroyCompositor = after at *
  have slotless := destroyed.teardown quiet (by rw [listeners]; exact .nil) layers
  have quieter : Quiet after.teardown :=
    ⟨quiet.headsChanged, quiet.frontendListeners, quiet.signalSources, quiet.protologger,
      quiet.protocolScope, quiet.xwayland, quiet.clientDestroy⟩
  refine ⟨slotless.destroyDisplay quieter compositor, ?_⟩
  intro resource
  cases resource <;> simp [Compositor.Holds, Compositor.destroyDisplay, Compositor.teardown,
    Compositor.log, quiet.headsChanged, quiet.frontendListeners, quiet.signalSources,
    quiet.protologger, quiet.protocolScope, quiet.xwayland, quiet.clientDestroy, desktop,
    compositor, recorder, names]

end Ready

end Westonite.Lifetime
