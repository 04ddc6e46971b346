import Westonite.Lifetime.Teardown

/-! Bringing the compositor up: every stage keeps the accounts, whether it works or not. -/

set_option autoImplicit false

namespace Westonite.Lifetime

open Library
open Xwayland (XwaylandState)

/-- A compositor on its way up: the event loop did not run yet. -/
structure Rising (lc : LogContext) (front : List (Action Resource)) (c : Compositor) : Prop where
  ready : Ready lc front c
  unserved : ∀ st, c.xwayland = some st → st = .loaded
  unshot : c.clientDestroy = none

/-- The same but for one handle. -/
structure Alike (c next : Compositor) : Prop where
  current : next.current = c.current
  display : next.display = c.display
  compositor : next.compositor = c.compositor
  frontendListeners : next.frontendListeners = c.frontendListeners
  signalSources : next.signalSources = c.signalSources
  xwayland : next.xwayland = c.xwayland
  clientDestroy : next.clientDestroy = c.clientDestroy

namespace Rising

variable {lc : LogContext} {front : List (Action Resource)} {c next : Compositor}

theorem use (rising : Rising lc front c) (resource : Resource)
    (there : resource ∈ lc.held ∨ c.Holds resource) :
    Rising lc front (c.log [.use resource]) where
  ready := rising.ready.step (rising.ready.accounts.use resource there) rfl rfl rfl
    rising.ready.frontendOnce rising.ready.sourcesOnce rfl rfl rfl
  unserved := rising.unserved
  unshot := rising.unshot

private theorem useCompositor (rising : Rising lc front c) :
    Rising lc front (c.log [.use .compositor]) :=
  rising.use .compositor (.inr rising.ready.compositor)

/-- One handle more that is not a listener of a list. -/
theorem acquire (rising : Rising lc front c) (new : Resource) (fresh : ¬ c.Holds new)
    (own : new.ofLog = false) (needed : ∀ other ∈ needs new, other ∈ lc.held ∨ c.Holds other)
    (logged : next.actions = c.actions ++ [.acquire new])
    (gained : ∀ resource, next.Holds resource ↔ resource = new ∨ c.Holds resource)
    (alike : Alike c next) (shelled : Shelled next) : Rising lc front next where
  ready :=
    { accounts := by
        apply rising.ready.accounts.acquire [new] (List.nodup_singleton new)
        · simpa using fresh
        · simpa using own
        · simpa using needed
        · exact logged
        · simpa using gained
      current := alike.current.trans rising.ready.current
      display := alike.display.trans rising.ready.display
      compositor := alike.compositor.trans rising.ready.compositor
      frontendOnce := alike.frontendListeners ▸ rising.ready.frontendOnce
      sourcesOnce := alike.signalSources ▸ rising.ready.sourcesOnce
      shelled := shelled }
  unserved := alike.xwayland ▸ rising.unserved
  unshot := alike.clientDestroy.trans rising.unshot

/-- A stage that makes one handle. -/
theorem acquired (rising : Rising lc front c) (new : Resource)
    (fresh : ∀ resource ∈ [new], ¬ c.Holds resource) (own : new.ofLog = false)
    (needed : ∀ other ∈ needs new, other ∈ lc.held ∨ c.Holds other)
    (logged : next.actions = c.actions ++ [.acquire new])
    (gained : ∀ resource, next.Holds resource ↔ resource = new ∨ c.Holds resource)
    (alike : Alike c next) (shelled : Shelled next) :
    Rising lc front next ∧
      ∀ resource, next.Holds resource → c.Holds resource ∨ resource ∈ [new] := by
  constructor
  · exact rising.acquire new (fresh new (List.mem_singleton_self new)) own needed logged gained
      alike shelled
  · intro resource held
    rw [List.mem_singleton, or_comm]
    exact (gained resource).mp held

theorem addFrontendListeners {added : List FrontendListener} (rising : Rising lc front c)
    (once : added.Nodup) (fresh : ∀ listener ∈ added, listener ∉ c.frontendListeners) :
    Rising lc front (c.addFrontendListeners added) where
  ready := by
    have accounts : Accounts lc front (c.addFrontendListeners added) := by
      apply rising.ready.accounts.acquire (added.map .frontendListener)
      · exact once.map fun first second same => Resource.frontendListener.inj same
      · simpa [Compositor.Holds] using fresh
      · simp [Resource.ofLog]
      · simp [needs, Compositor.Holds, rising.ready.compositor, rising.ready.current]
      · simp [Compositor.addFrontendListeners, Compositor.log]
      · intro resource
        cases resource <;> simp [Compositor.Holds, Compositor.addFrontendListeners,
          Compositor.log, or_comm]
    refine rising.ready.step accounts rfl rfl rfl (rising.ready.frontendOnce.append once ?_)
      rising.ready.sourcesOnce rfl rfl rfl
    intro listener before new
    exact fresh listener new before
  unserved := rising.unserved
  unshot := rising.unshot

theorem addShellListeners (rising : Rising lc front c) (added : List ShellListener)
    (once : added.Nodup) (fresh : ∀ listener ∈ added, listener ∉ c.listeners)
    (covered : .compositorDestroy ∈ c.listeners ++ added) :
    Rising lc front (c.addShellListeners added) where
  ready :=
    { current := rising.ready.current
      display := rising.ready.display
      compositor := rising.ready.compositor
      frontendOnce := rising.ready.frontendOnce
      sourcesOnce := rising.ready.sourcesOnce
      accounts := by
        apply rising.ready.accounts.acquire (added.map .shellListener)
        · exact once.map fun first second same => Resource.shellListener.inj same
        · simpa [Compositor.Holds] using fresh
        · simp [Resource.ofLog]
        · simp [needs, Compositor.Holds, rising.ready.compositor, rising.ready.current]
        · simp [Compositor.addShellListeners, Compositor.log]
        · intro resource
          cases resource <;> simp [Compositor.Holds, Compositor.addShellListeners,
            Compositor.log, or_comm]
      shelled := by
        refine ⟨rising.ready.shelled.once.append once ?_, .inl covered⟩
        intro listener before new
        exact fresh listener new before }
  unserved := rising.unserved
  unshot := rising.unshot

private theorem addShellLayers (rising : Rising lc front c) (fresh : ¬ c.shellLayers = true)
    (covered : .compositorDestroy ∈ c.listeners) :
    Rising lc front { c.log [.acquire .shellLayers] with shellLayers := true } := by
  have gained : ∀ resource, Compositor.Holds
      { c.log [.acquire .shellLayers] with shellLayers := true } resource ↔
        resource = .shellLayers ∨ c.Holds resource := by
    intro resource
    cases resource <;> simp [Compositor.Holds, Compositor.log]
  apply rising.acquire .shellLayers fresh rfl _ rfl gained ⟨rfl, rfl, rfl, rfl, rfl, rfl, rfl⟩
    ⟨rising.ready.shelled.once, .inl covered⟩
  simp [needs, Compositor.Holds, rising.ready.compositor]

private theorem addDesktop (rising : Rising lc front c) (fresh : ¬ c.desktop = true)
    (covered : .compositorDestroy ∈ c.listeners) :
    Rising lc front { c.log [.acquire .desktop] with desktop := true } := by
  have gained : ∀ resource, Compositor.Holds
      { c.log [.acquire .desktop] with desktop := true } resource ↔
        resource = .desktop ∨ c.Holds resource := by
    intro resource
    cases resource <;> simp [Compositor.Holds, Compositor.log]
  apply rising.acquire .desktop fresh rfl _ rfl gained ⟨rfl, rfl, rfl, rfl, rfl, rfl, rfl⟩
    ⟨rising.ready.shelled.once, .inl covered⟩
  simp [needs, Compositor.Holds, rising.ready.compositor]

end Rising

/-! ### The stages -/

section

variable (lc : LogContext) (front : List (Action Resource))

/-- A stage that keeps the accounts of a compositor on its way up. -/
abbrev Sound (stage : Stage Compositor CompositorError Resource) : Prop :=
  stage.Sound (Rising lc front) Compositor.Holds

end

namespace Sound

open Compositor

variable {lc : LogContext} {front : List (Action Resource)} {answers : Answers}

theorem call (failure : Option CompositorError) : Sound lc front ⟨call failure, []⟩ := by
  intro c rising _
  exact ⟨rising.useCompositor, fun resource held => .inl held⟩

theorem acquireProtocolScope :
    Sound lc front ⟨acquireProtocolScope answers, [.protocolScope]⟩ := by
  intro c rising fresh
  dsimp only [Compositor.acquireProtocolScope]
  split
  · have gained : ∀ resource, Compositor.Holds
        { c.log [.acquire .protocolScope] with protocolScope := true } resource ↔
          resource = .protocolScope ∨ c.Holds resource := by
      intro resource
      cases resource <;> simp [Compositor.Holds, Compositor.log]
    apply rising.acquired .protocolScope fresh rfl _ rfl gained ⟨rfl, rfl, rfl, rfl, rfl, rfl, rfl⟩
      ⟨rising.ready.shelled.once, rising.ready.shelled.covered⟩
    simp [needs, LogContext.logContext_held]
  · exact ⟨rising, fun resource held => .inl held⟩

theorem acquireProtologger :
    Sound lc front ⟨acquireProtologger answers, [.protologger]⟩ := by
  intro c rising fresh
  dsimp only [Compositor.acquireProtologger]
  split
  · rename_i both
    simp only [Bool.and_eq_true] at both
    have gained : ∀ resource, Compositor.Holds
        { c.log [.acquire .protologger] with protologger := true } resource ↔
          resource = .protologger ∨ c.Holds resource := by
      intro resource
      cases resource <;> simp [Compositor.Holds, Compositor.log]
    apply rising.acquired .protologger fresh rfl _ rfl gained ⟨rfl, rfl, rfl, rfl, rfl, rfl, rfl⟩
      ⟨rising.ready.shelled.once, rising.ready.shelled.covered⟩
    simp [needs, Compositor.Holds, rising.ready.display, both.1]
  · exact ⟨rising, fun resource held => .inl held⟩

theorem addHeadsChangedListener :
    Sound lc front ⟨addHeadsChangedListener, [.headsChanged]⟩ := by
  intro c rising fresh
  have gained : ∀ resource, Compositor.Holds
      { c.log [.acquire .headsChanged] with headsChanged := true } resource ↔
        resource = .headsChanged ∨ c.Holds resource := by
    intro resource
    cases resource <;> simp [Compositor.Holds, Compositor.log]
  apply rising.acquired .headsChanged fresh rfl _ rfl gained ⟨rfl, rfl, rfl, rfl, rfl, rfl, rfl⟩
    ⟨rising.ready.shelled.once, rising.ready.shelled.covered⟩
  simp [needs, Compositor.Holds, rising.ready.compositor, rising.ready.current]

/-- The binding points at the recorder of the log context. -/
theorem addRecorderBinding {flightRec : Bool} (recorder : flightRec = true → lc.flightRec = true) :
    Sound lc front ⟨addRecorderBinding flightRec, [.recorderBinding]⟩ := by
  intro c rising fresh
  dsimp only [Compositor.addRecorderBinding]
  split
  · rename_i there
    have gained : ∀ resource, Compositor.Holds
        { c.log [.acquire .recorderBinding] with recorderBinding := true } resource ↔
          resource = .recorderBinding ∨ c.Holds resource := by
      intro resource
      cases resource <;> simp [Compositor.Holds, Compositor.log]
    apply rising.acquired .recorderBinding fresh rfl _ rfl gained
      ⟨rfl, rfl, rfl, rfl, rfl, rfl, rfl⟩
      ⟨rising.ready.shelled.once, rising.ready.shelled.covered⟩
    simp [needs, Compositor.Holds, rising.ready.compositor, LogContext.held, LogContext.owned,
      recorder there]
  · exact ⟨rising, fun resource held => .inl held⟩

private theorem holds_addFrontendListeners {c : Compositor} {added : List FrontendListener}
    {resource : Resource} (held : (c.addFrontendListeners added).Holds resource) :
    c.Holds resource ∨ resource ∈ added.map .frontendListener := by
  cases resource with
  | frontendListener listener =>
      simpa [Compositor.Holds, Compositor.addFrontendListeners, Compositor.log] using held
  | _ => exact .inl held

theorem enableDebug (on : Bool) :
    Sound lc front ⟨enableDebug on, [.frontendListener .allowAllScreenshots]⟩ := by
  intro c rising fresh
  dsimp only [Compositor.enableDebug]
  split
  · constructor
    · apply rising.useCompositor.addFrontendListeners (List.nodup_singleton _)
      simpa [Compositor.Holds, Compositor.log] using fresh
    · intro resource held
      exact holds_addFrontendListeners held
  · exact ⟨rising, fun resource held => .inl held⟩

theorem addMirrorListeners :
    Sound lc front ⟨addMirrorListeners,
      [.frontendListener .outputCreated, .frontendListener .outputResized]⟩ := by
  intro c rising fresh
  constructor
  · apply rising.addFrontendListeners (by decide)
    simpa [Compositor.Holds] using fresh
  · intro resource held
    exact holds_addFrontendListeners held

theorem createScreenshooter :
    Sound lc front ⟨createScreenshooter, [.frontendListener .authorize]⟩ := by
  intro c rising fresh
  constructor
  · apply rising.useCompositor.addFrontendListeners (List.nodup_singleton _)
    simpa [Compositor.Holds, Compositor.log] using fresh
  · intro resource held
    exact holds_addFrontendListeners held

theorem bindSocket : Sound lc front ⟨bindSocket answers, []⟩ := by
  intro c rising _
  exact ⟨rising.use .display (.inr rising.ready.display), fun resource held => .inl held⟩

/-- All three sources, or none of them. -/
theorem installSignalSources : Sound lc front ⟨installSignalSources answers,
    [.signalSource .sigterm, .signalSource .sigusr2, .signalSource .sigchld]⟩ := by
  intro c rising fresh
  dsimp only [Compositor.installSignalSources]
  have once : ([Signal.sigterm, .sigusr2, .sigchld].filter answers.signalSource).Nodup :=
    List.Nodup.filter _ (by decide)
  have three : ∀ signal, Resource.signalSource signal ∈
      [Resource.signalSource .sigterm, .signalSource .sigusr2, .signalSource .sigchld] := by
    intro signal
    cases signal <;> decide
  generalize [Signal.sigterm, .sigusr2, .sigchld].filter answers.signalSource = installed at once
  have none : ∀ signal, signal ∉ c.signalSources := fun signal =>
    fresh (.signalSource signal) (three signal)
  have accounts : Accounts lc front
      { c.log (installed.map fun signal => .acquire (.signalSource signal)) with
        signalSources := c.signalSources ++ installed } := by
    apply rising.ready.accounts.acquire (installed.map .signalSource)
    · exact once.map fun first second same => Resource.signalSource.inj same
    · simp [Compositor.Holds, none]
    · simp [Resource.ofLog]
    · simp [needs, Compositor.Holds, rising.ready.display, rising.ready.current]
    · simp [Compositor.log]
    · intro resource
      cases resource <;> simp [Compositor.Holds, Compositor.log, or_comm]
  have distinct : (c.signalSources ++ installed).Nodup := by
    refine rising.ready.sourcesOnce.append once ?_
    intro signal before _
    exact none signal before
  have ready := rising.ready.step accounts rfl rfl rfl rising.ready.frontendOnce distinct
    rfl rfl rfl
  split
  · have undone : Accounts lc front ((c.log (installed.map fun signal =>
        .acquire (.signalSource signal))).log (installed.map fun signal =>
          .release (.signalSource signal))) := by
      apply accounts.releaseLeaves (installed.map .signalSource)
      · exact once.map fun first second same => Resource.signalSource.inj same
      · simp [Resource.leaf]
      · simp only [Compositor.Holds, List.mem_map, List.mem_append]
        rintro old ⟨signal, member, rfl⟩
        exact .inr member
      · simp [Compositor.log]
      · intro resource
        cases resource with
        | signalSource signal => simp [Compositor.Holds, Compositor.log, none]
        | _ => simp [Compositor.Holds, Compositor.log]
    have again := rising.ready.step undone rfl rfl rfl rising.ready.frontendOnce
      rising.ready.sourcesOnce rfl rfl rfl
    exact ⟨⟨again, rising.unserved, rising.unshot⟩, fun resource held => .inl held⟩
  · refine ⟨⟨ready, rising.unserved, rising.unshot⟩, ?_⟩
    intro resource held
    cases resource with
    | signalSource signal => exact .inr (three signal)
    | _ => exact .inl held

private theorem holds_addShellListeners {c : Compositor} {added : List ShellListener}
    {resource : Resource} (held : (c.addShellListeners added).Holds resource) :
    c.Holds resource ∨ resource ∈ added.map .shellListener := by
  cases resource with
  | shellListener listener =>
      simpa [Compositor.Holds, Compositor.addShellListeners, Compositor.log] using held
  | _ => exact .inl held

private theorem holds_addShellLayers {c : Compositor} {actions : List (Action Resource)}
    {resource : Resource}
    (held : Compositor.Holds { c.log actions with shellLayers := true } resource) :
    c.Holds resource ∨ resource = .shellLayers := by
  cases resource with
  | shellLayers => exact .inr rfl
  | _ => exact .inl held

private theorem holds_addDesktop {c : Compositor} {actions : List (Action Resource)}
    {resource : Resource}
    (held : Compositor.Holds { c.log actions with desktop := true } resource) :
    c.Holds resource ∨ resource = .desktop := by
  cases resource with
  | desktop => exact .inr rfl
  | _ => exact .inl held

/-- The listener that takes the shell down is there before anything it takes down. -/
theorem attachShell : Sound lc front ⟨attachShell answers,
    [.shellListener .compositorDestroy, .shellListener .transform, .shellLayers, .desktop,
      .shellListener .outputCreated, .shellListener .outputMoved,
      .shellListener .outputResized, .shellListener .session,
      .shellListener .seatCreated]⟩ := by
  intro c rising fresh
  have all : ∀ listener, Resource.shellListener listener ∈
      [Resource.shellListener .compositorDestroy, .shellListener .transform, .shellLayers,
        .desktop, .shellListener .outputCreated, .shellListener .outputMoved,
        .shellListener .outputResized, .shellListener .session,
        .shellListener .seatCreated] := by
    intro listener
    cases listener <;> decide
  have unlistened : ∀ listener, listener ∉ c.listeners := fun listener =>
    fresh (.shellListener listener) (all listener)
  dsimp only [Compositor.attachShell]
  split
  · exact ⟨rising, fun resource held => .inl held⟩
  · have listening := rising.addShellListeners [.compositorDestroy, .transform]
      (by decide) (fun listener _ => unlistened listener) (by simp)
    have layered := listening.addShellLayers (fresh .shellLayers (by simp))
      (List.mem_append_right _ List.mem_cons_self)
    split
    · refine ⟨layered, fun resource held => ?_⟩
      cases resource with
      | shellListener listener => exact .inr (all listener)
      | shellLayers => exact .inr (by simp)
      | _ => exact .inl held
    · have desktop := layered.addDesktop (fresh .desktop (by simp))
        (List.mem_append_right _ List.mem_cons_self)
      refine ⟨desktop.addShellListeners _ (by decide) ?_ ?_, fun resource held => ?_⟩
      · simp [Compositor.addShellListeners, Compositor.log, unlistened]
      · simp [Compositor.addShellListeners, Compositor.log]
      · rcases holds_addShellListeners held with held | added
        · rcases holds_addDesktop held with held | rfl
          · rcases holds_addShellLayers held with held | rfl
            · rcases holds_addShellListeners held with held | added
              · exact .inl held
              · obtain ⟨listener, _, rfl⟩ := List.mem_map.mp added
                exact .inr (all listener)
            · exact .inr (by simp)
          · exact .inr (by simp)
        · obtain ⟨listener, _, rfl⟩ := List.mem_map.mp added
          exact .inr (all listener)

/-- The state of a module that listens has no resources yet. -/
theorem loadXwayland : Sound lc front ⟨loadXwayland answers, []⟩ := by
  intro c rising _
  have used := rising.useCompositor
  dsimp only [Compositor.loadXwayland]
  split
  · have idle : ∀ {Value : Type} (slot : XwaylandState → Option Value),
        slot .loaded = none → c.xwayland.bind slot = none := by
      intro Value slot empty
      cases loaded : c.xwayland with
      | none => rfl
      | some st =>
          rw [rising.unserved st loaded]
          exact empty
    have same : ∀ resource, Compositor.Holds
        { c.log [.use .compositor] with xwayland := some .loaded } resource ↔
          c.Holds resource := by
      intro resource
      cases resource <;> simp [Compositor.Holds, Compositor.log,
        idle XwaylandState.wmFd rfl, idle XwaylandState.displayPipe rfl,
        idle XwaylandState.displayFdSource rfl, XwaylandState.loaded]
    constructor
    · have accounts : Accounts lc front
          { c.log [.use .compositor] with xwayland := some .loaded } :=
        used.ready.accounts.congr rfl same
      exact
        { ready := used.ready.step accounts rfl rfl rfl used.ready.frontendOnce
            used.ready.sourcesOnce rfl rfl rfl
          unserved := fun st loaded => (Option.some.inj loaded).symm
          unshot := rising.unshot }
    · intro resource held
      exact .inl ((same resource).mp held)
  · exact ⟨used, fun resource held => .inl held⟩

end Sound

/-! ### All of them -/

namespace CompositorBuilder

variable {lc : LogContext} {front : List (Action Resource)} {b : CompositorBuilder}
  {answers : Answers}

private theorem bringUp_sound (recorder : b.flightRec = true → lc.flightRec = true) :
    ∀ stage ∈ b.bringUp answers, Sound lc front stage := by
  intro stage member
  simp only [bringUp, List.mem_append, List.mem_cons, List.not_mem_nil, or_false,
    List.mem_mapIdx] at member
  rcases member with
    ((((((first | ⟨place, _, rfl⟩) | loaded) | shell) | rfl) | socket) | xwayland) | rfl
  · rcases first with rfl | rfl | rfl | rfl | rfl | rfl
    · exact Sound.acquireProtocolScope
    · exact Sound.acquireProtologger
    · exact Sound.enableDebug _
    · exact Sound.installSignalSources
    · exact Sound.addHeadsChangedListener
    · exact Sound.addMirrorListeners
  · exact Sound.call _
  · rcases loaded with rfl | rfl
    · exact Sound.call _
    · exact Sound.addRecorderBinding recorder
  · split at shell
    · simp only [List.mem_cons, List.not_mem_nil, or_false] at shell
      rcases shell with rfl | rfl
      · exact Sound.attachShell
      · exact Sound.createScreenshooter
    · cases shell
  · exact Sound.call _
  · split at socket
    · cases List.mem_singleton.mp socket
      exact Sound.bindSocket
    · cases socket
  · split at xwayland
    · cases List.mem_singleton.mp xwayland
      exact Sound.loadXwayland
    · cases xwayland
  · exact Sound.call _

/-- What the stages may acquire, in their order. -/
theorem bringUp_adds (b : CompositorBuilder) (answers : Answers) : ∃ shell, (shell = [] ∨ shell =
      [Resource.shellListener .compositorDestroy, .shellListener .transform, .shellLayers,
        .desktop, .shellListener .outputCreated, .shellListener .outputMoved,
        .shellListener .outputResized, .shellListener .session, .shellListener .seatCreated,
        .frontendListener .authorize]) ∧
    (b.bringUp answers).flatMap Stage.adds =
      [.protocolScope, .protologger, .frontendListener .allowAllScreenshots,
        .signalSource .sigterm, .signalSource .sigusr2, .signalSource .sigchld, .headsChanged,
        .frontendListener .outputCreated, .frontendListener .outputResized,
        .recorderBinding] ++ shell := by
  have loads : (b.backends.mapIdx fun place _ => (⟨Compositor.call (answers.load place), []⟩ :
      Stage Compositor CompositorError Resource)).flatMap Stage.adds = [] := by
    rw [List.flatMap_eq_nil_iff]
    intro stage member
    obtain ⟨place, _, rfl⟩ := List.mem_mapIdx.mp member
    rfl
  unfold bringUp
  simp only [List.flatMap_append, loads]
  cases b.shell with
  | false =>
      refine ⟨[], .inl rfl, ?_⟩
      cases b.socket <;> cases b.xwayland <;> rfl
  | true =>
      refine ⟨_, .inr rfl, ?_⟩
      cases b.socket <;> cases b.xwayland <;> rfl

/-- The stages begin with a compositor that holds nothing of them. -/
theorem bringUp_keeps {c : Compositor} (recorder : b.flightRec = true → lc.flightRec = true)
    (rising : Rising lc front c)
    (few : ∀ resource, c.Holds resource →
      resource ∈ [Resource.current, .display, .compositor, .xkbNames]) :
    Rising lc front (stages ((b.bringUp answers).map Stage.run) c).2 := by
  obtain ⟨shell, alternatives, adds⟩ := bringUp_adds b answers
  apply stages_sound (bringUp_sound recorder) _ rising
  · rw [adds]
    rcases alternatives with rfl | rfl <;> grind
  · rw [adds]
    rcases alternatives with rfl | rfl <;> decide

/-! ### Before the stages -/

/-- `build` returns while there is a compositor that nobody owns: the color manager is
asked for, everything before it works, and it does not load. -/
def Orphans (b : CompositorBuilder) (answers : Answers) : Prop :=
  b.backends ≠ [] ∧ answers.display = true ∧ b.logCtx = true ∧ answers.compositor = true ∧
    answers.xkbRuleNames = true ∧ b.colorManagement = true ∧ answers.colorManager = false

/-- A compositor with the slot, as `create` makes it first. -/
def slotted : Compositor := { ({} : Compositor).log [.acquire .current] with current := true }

def displayed : Compositor := { slotted.log [.acquire .display] with display := true }

def created : Compositor :=
  { displayed.log [.acquire .compositor, .acquire .xkbNames] with
    compositor := true, xkbNames := true }

private theorem empty_accounts (opened : Tallied needs front (· ∈ lc.held)) :
    Accounts lc front {} := by
  unfold Accounts
  rw [List.append_nil]
  apply opened.congr
  intro resource
  cases resource <;> simp [Compositor.Holds]

private theorem slotted_accounts (opened : Tallied needs front (· ∈ lc.held)) :
    Accounts lc front slotted := by
  apply (empty_accounts opened).acquire [.current]
  · decide
  · simp [Compositor.Holds]
  · simp [Resource.ofLog]
  · simp [needs]
  · rfl
  · intro resource
    cases resource <;> simp [Compositor.Holds, slotted, Compositor.log]

private theorem displayed_accounts (opened : Tallied needs front (· ∈ lc.held)) :
    Accounts lc front displayed := by
  apply (slotted_accounts opened).acquire [.display]
  · decide
  · simp [Compositor.Holds, slotted, Compositor.log]
  · simp [Resource.ofLog]
  · simp [needs]
  · rfl
  · intro resource
    cases resource <;> simp [Compositor.Holds, displayed, slotted, Compositor.log]

private theorem created_accounts (opened : Tallied needs front (· ∈ lc.held)) :
    Accounts lc front created := by
  apply (displayed_accounts opened).acquire [.compositor, .xkbNames]
  · decide
  · simp [Compositor.Holds, displayed, slotted, Compositor.log]
  · simp [Resource.ofLog]
  · simp [needs, Compositor.Holds, displayed, slotted, Compositor.log,
      LogContext.logContext_held]
  · rfl
  · intro resource
    cases resource <;>
      simp [Compositor.Holds, created, displayed, slotted, Compositor.log, or_comm]

private theorem created_rising (opened : Tallied needs front (· ∈ lc.held)) :
    Rising lc front (created.log [.use .compositor]) := by
  apply Rising.useCompositor
  exact
    { ready :=
        { accounts := created_accounts opened
          current := rfl
          display := rfl
          compositor := rfl
          frontendOnce := .nil
          sourcesOnce := .nil
          shelled := ⟨.nil, .inr ⟨rfl, rfl, rfl⟩⟩ }
      unserved := fun st loaded => nomatch loaded
      unshot := rfl }

/-- The names that libweston did not take over are freed first. -/
private theorem unnamed_accounts (opened : Tallied needs front (· ∈ lc.held)) :
    Accounts lc front
      { created.log [.use .compositor, .release .xkbNames] with xkbNames := false } := by
  have used := (created_accounts opened).use .compositor (.inr rfl)
  apply used.releaseLeaves [.xkbNames]
  · decide
  · decide
  · simp [Compositor.Holds, created, Compositor.log]
  · rfl
  · intro resource
    cases resource <;> simp [Compositor.Holds, created, displayed, slotted, Compositor.log]

/-- What `create` leaves: nothing, a compositor on its way up, or an orphan. -/
inductive Created (lc : LogContext) (front : List (Action Resource)) (b : CompositorBuilder)
    (answers : Answers) : Option CompositorError × Compositor → Prop where
  | failed {error : CompositorError} {c : Compositor} : ¬ b.Orphans answers →
      Accounts lc front c → (∀ resource, ¬ c.Holds resource) →
      Created lc front b answers (some error, c)
  | orphaned {c : Compositor} : b.Orphans answers → Accounts lc front c →
      c.Holds .compositor → Created lc front b answers (some .colorManager, c)
  | rising {c : Compositor} : ¬ b.Orphans answers → Rising lc front c →
      (∀ resource, c.Holds resource →
        resource ∈ [Resource.current, .display, .compositor, .xkbNames]) →
      Created lc front b answers (none, c)

private theorem few_of_created {actions : List (Action Resource)} {resource : Resource}
    (held : (created.log actions).Holds resource) :
    resource ∈ [Resource.current, .display, .compositor, .xkbNames] := by
  cases resource <;>
    simp [Compositor.Holds, created, displayed, slotted, Compositor.log] at held ⊢

/-- The compositor whose names libweston did not take over. -/
def unnamed : Compositor :=
  { created.log [.use .compositor, .release .xkbNames] with xkbNames := false }

private theorem slotted_torn (opened : Tallied needs front (· ∈ lc.held)) :
    Accounts lc front slotted.teardown ∧ ∀ resource, ¬ slotted.teardown.Holds resource := by
  refine ⟨(slotted_accounts opened).teardown ⟨rfl, rfl, rfl, rfl, rfl, rfl, rfl⟩ .nil rfl, ?_⟩
  intro resource
  cases resource <;> simp [Compositor.Holds, Compositor.teardown, slotted, Compositor.log]

private theorem displayed_torn (opened : Tallied needs front (· ∈ lc.held)) :
    Accounts lc front displayed.destroyDisplay.teardown ∧
      ∀ resource, ¬ displayed.destroyDisplay.teardown.Holds resource := by
  have dark := (displayed_accounts opened).destroyDisplay ⟨rfl, rfl, rfl, rfl, rfl, rfl, rfl⟩ rfl
  refine ⟨dark.teardown ⟨rfl, rfl, rfl, rfl, rfl, rfl, rfl⟩ .nil rfl, ?_⟩
  intro resource
  cases resource <;> simp [Compositor.Holds, Compositor.teardown, Compositor.destroyDisplay,
    displayed, slotted, Compositor.log]

private theorem unnamed_torn (opened : Tallied needs front (· ∈ lc.held)) :
    Accounts lc front unnamed.destroyCompositor.destroyDisplay.teardown ∧
      ∀ resource, ¬ unnamed.destroyCompositor.destroyDisplay.teardown.Holds resource := by
  have destroyed := ((unnamed_accounts opened).destroyCompositor
    ⟨rfl, rfl, rfl, rfl, rfl, rfl, rfl⟩ ⟨.nil, .inr ⟨rfl, rfl, rfl⟩⟩ rfl).1
  have dark := destroyed.destroyDisplay ⟨rfl, rfl, rfl, rfl, rfl, rfl, rfl⟩ rfl
  refine ⟨dark.teardown ⟨rfl, rfl, rfl, rfl, rfl, rfl, rfl⟩ .nil rfl, ?_⟩
  intro resource
  cases resource <;> simp [Compositor.Holds, Compositor.teardown, Compositor.destroyDisplay,
    Compositor.destroyCompositor, unnamed, created, displayed, slotted, Compositor.log]

private theorem create_created (opened : Tallied needs front (· ∈ lc.held)) :
    Created lc front b answers (b.create answers) := by
  unfold create
  split
  · rename_i none
    apply Created.failed (fun orphans => orphans.1 none) (empty_accounts opened)
    intro resource
    cases resource <;> simp [Compositor.Holds]
  · rename_i some
    dsimp only
    split
    · rename_i failed
      obtain ⟨accounts, empty⟩ := slotted_torn opened
      exact .failed (fun orphans => by simp [orphans.2.1] at failed) accounts empty
    · rename_i display
      obtain ⟨accounts, empty⟩ := displayed_torn opened
      split
      · rename_i failed
        exact .failed (fun orphans => by simp [orphans.2.2.1] at failed) accounts empty
      · rename_i logCtx
        split
        · rename_i failed
          exact .failed (fun orphans => by simp [orphans.2.2.2.1] at failed) accounts empty
        · rename_i compositor
          split
          · rename_i failed
            obtain ⟨accounts, empty⟩ := unnamed_torn opened
            exact .failed (fun orphans => by simp [orphans.2.2.2.2.1] at failed) accounts empty
          · rename_i names
            have rising := created_rising opened
            split
            · rename_i managed
              cases manager : answers.colorManager with
              | false =>
                  exact .orphaned
                    ⟨some, by simpa using display, by simpa using logCtx, by simpa using compositor,
                      by simpa using names, managed, manager⟩
                    rising.useCompositor.ready.accounts rfl
              | true =>
                  exact .rising (fun orphans => by simp [orphans.2.2.2.2.2.2] at manager)
                    rising.useCompositor fun resource held => few_of_created held
            · rename_i unmanaged
              exact .rising (fun orphans => unmanaged orphans.2.2.2.2.2.1) rising
                fun resource held => few_of_created held

/-- What `build` leaves. -/
inductive Built (lc : LogContext) (front : List (Action Resource)) (b : CompositorBuilder)
    (answers : Answers) : Option CompositorError × Compositor → Prop where
  | failed {error : CompositorError} {c : Compositor} : ¬ b.Orphans answers →
      Accounts lc front c → (∀ resource, ¬ c.Holds resource) →
      Built lc front b answers (some error, c)
  | orphaned {c : Compositor} : b.Orphans answers → Accounts lc front c →
      c.Holds .compositor → Built lc front b answers (some .colorManager, c)
  | built {c : Compositor} : ¬ b.Orphans answers → Rising lc front c →
      Built lc front b answers (none, c)

theorem build_built (opened : Tallied needs front (· ∈ lc.held))
    (recorder : b.flightRec = true → lc.flightRec = true) :
    Built lc front b answers (b.build answers) := by
  have created : Created lc front b answers (b.create answers) := create_created opened
  unfold build
  generalize b.create answers = outcome at created
  cases created with
  | failed unowned accounts empty => exact .failed unowned accounts empty
  | orphaned orphans accounts holds => exact .orphaned orphans accounts holds
  | @rising c unowned rising few =>
      have kept : Rising lc front (stages ((b.bringUp answers).map Stage.run) c).2 :=
        bringUp_keeps recorder rising few
      dsimp only
      generalize stages ((b.bringUp answers).map Stage.run) c = outcome at kept
      obtain ⟨failure, c⟩ := outcome
      cases failure with
      | none => exact .built unowned kept
      | some error =>
          obtain ⟨accounts, empty⟩ := kept.ready.drop
          exact .failed unowned accounts empty

end CompositorBuilder

end Westonite.Lifetime
