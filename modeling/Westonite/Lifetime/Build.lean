import Westonite.Lifetime.Resources

/-! The compositor: how `build` brings it up, and what dropping it takes down. -/

set_option autoImplicit false

namespace Westonite.Lifetime

open Library
open Xwayland (XwaylandState)
open Children (Client)

inductive CompositorError where
  | displayCreate
  | logCtxCreate
  | compositorCreate
  | backendLoad
  | windowedOutputApi
  | headCreate
  | socketAdd
  | signalSource
  | shellInit
  | outputInit
  | xwayland
  | colorManager
  deriving DecidableEq, Repr

/-- What of the builder decides on the stages. -/
structure CompositorBuilder where
  backends : List Resolve.Backend
  socket : Bool
  shell : Bool
  xwayland : Bool
  colorManagement : Bool
  debugProtocol : Bool
  logCtx : Bool
  flightRec : Bool

/-- What the calls of `build` answer; `load` is what is wrong with a backend, by its
place, and `xwayland` is there when the module loads and listens. -/
structure Answers where
  display : Bool
  compositor : Bool
  xkbRuleNames : Bool
  colorManager : Bool
  protocolScope : Bool
  protologger : Bool
  signalSource : Signal → Bool
  load : Nat → Option CompositorError
  backendsLoaded : Bool
  destroyListenerOnce : Bool
  desktop : Bool
  outputs : Bool
  socket : Bool
  xwayland : Bool

/-- The `Compositor` with what it keeps in its `Ctx`. `listeners` are those of the `Ctx`
that are attached, `clientDestroy` is the client the screenshooter listens to, and
`actions` is what happened since `build` began. -/
structure Compositor where
  current : Bool := false
  display : Bool := false
  compositor : Bool := false
  xkbNames : Bool := false
  protocolScope : Bool := false
  protologger : Bool := false
  headsChanged : Bool := false
  frontendListeners : List FrontendListener := []
  signalSources : List Signal := []
  recorderBinding : Bool := false
  listeners : List ShellListener := []
  shellLayers : Bool := false
  desktop : Bool := false
  xwayland : Option XwaylandState := none
  clientDestroy : Option Client := none
  actions : List (Action Resource) := []

namespace Compositor

def log (c : Compositor) (actions : List (Action Resource)) : Compositor :=
  { c with actions := c.actions ++ actions }

/-! ### Down -/

/-- What a call of the Xwayland glue does to its resources; the module takes over the
WM socket of a server that is ready. -/
def callActions : Xwayland.Call → List (Action Resource)
  | .wmOpened spawn => [.acquire (.wmFd spawn)]
  | .wmClosed spawn | .xserverLoaded spawn => [.release (.wmFd spawn)]
  | .pipeOpened spawn => [.acquire (.displayPipe spawn)]
  | .pipeClosed spawn => [.release (.displayPipe spawn)]
  | .sourceAdded spawn => [.acquire (.displayFdSource spawn)]
  | .sourceRemoved spawn => [.release (.displayFdSource spawn)]
  | .xserverExited _ => [.use .compositor]
  | .tracked _ | .lineRead _ => []

/-- `xwayland::teardown`. -/
def xwaylandTeardown (c : Compositor) : Compositor :=
  match c.xwayland with
  | none => c
  | some st => { c.log (st.teardown.flatMap callActions) with xwayland := none }

/-- `screenshooter::teardown`. -/
def screenshooterTeardown (c : Compositor) : Compositor :=
  { c.log (c.clientDestroy.toList.map fun client => .release (.clientDestroy client)) with
    clientDestroy := none }

def detachHeadsChanged (c : Compositor) : Compositor :=
  { c.log ((flag c.headsChanged .headsChanged).map .release) with headsChanged := false }

def detachFrontendListeners (c : Compositor) : Compositor :=
  { c.log (c.frontendListeners.map fun l => .release (.frontendListener l)) with
    frontendListeners := [] }

/-- The logger points at the scope. -/
def destroyProtocolLogger (c : Compositor) : Compositor :=
  { c.log ((flag c.protologger .protologger ++ flag c.protocolScope .protocolScope).map
      .release) with
    protologger := false, protocolScope := false }

def removeSignalSources (c : Compositor) : Compositor :=
  { c.log (c.signalSources.map fun signal => .release (.signalSource signal)) with
    signalSources := [] }

/-- `Ctx::teardown`: the layers are dropped as they are. -/
def teardown (c : Compositor) : Compositor :=
  { c.log ((c.listeners.map Resource.shellListener ++ flag c.current .current).map .release) with
    listeners := [], shellLayers := false, current := false }

/-- The listener of the shell on the destroy signal; a oneshot leaves its list first. -/
def shellDestroy (c : Compositor) : Compositor :=
  teardown
    { c.log (.release (.shellListener .compositorDestroy) ::
        (flag c.desktop .desktop ++ flag c.shellLayers .shellLayers).map .release) with
      listeners := c.listeners.erase .compositorDestroy, desktop := false, shellLayers := false }

/-- `weston_compositor_destroy`: the destroy signal, and then what the compositor owns. -/
def destroyCompositor (c : Compositor) : Compositor :=
  if c.compositor then
    let c := if c.listeners.contains .compositorDestroy then c.shellDestroy else c
    { c.log ((flag c.recorderBinding .recorderBinding ++ flag c.xkbNames .xkbNames ++
        [Resource.compositor]).map .release) with
      recorderBinding := false, xkbNames := false, compositor := false }
  else c

def destroyDisplay (c : Compositor) : Compositor :=
  { c.log ((flag c.display .display).map .release) with display := false }

def drop (c : Compositor) : Compositor :=
  c.xwaylandTeardown.screenshooterTeardown.detachHeadsChanged.detachFrontendListeners
    |>.destroyProtocolLogger.removeSignalSources.destroyCompositor.teardown.destroyDisplay

/-! ### Up -/

def acquireProtocolScope (answers : Answers) (c : Compositor) :
    Option CompositorError × Compositor :=
  if answers.protocolScope then
    (none, { c.log [.acquire .protocolScope] with protocolScope := true })
  else (none, c)

def acquireProtologger (answers : Answers) (c : Compositor) :
    Option CompositorError × Compositor :=
  if c.protocolScope && answers.protologger then
    (none, { c.log [.acquire .protologger] with protologger := true })
  else (none, c)

/-- Listeners on signals of the compositor, for `frontend_listeners`. -/
def addFrontendListeners (added : List FrontendListener) (c : Compositor) : Compositor :=
  { c.log (added.map fun l => .acquire (.frontendListener l)) with
    frontendListeners := c.frontendListeners ++ added }

/-- `debug::enable`, for `--debug`. -/
def enableDebug (on : Bool) (c : Compositor) : Option CompositorError × Compositor :=
  if on then (none, (c.log [.use .compositor]).addFrontendListeners [.allowAllScreenshots])
  else (none, c)

/-- A source that did install is removed where another one did not. -/
def installSignalSources (answers : Answers) (c : Compositor) :
    Option CompositorError × Compositor :=
  let signals := [Signal.sigterm, .sigusr2, .sigchld]
  let installed := signals.filter answers.signalSource
  let c := c.log (installed.map fun signal => .acquire (.signalSource signal))
  if installed.length < signals.length then
    (some .signalSource, c.log (installed.map fun signal => .release (.signalSource signal)))
  else (none, { c with signalSources := c.signalSources ++ installed })

def addHeadsChangedListener (c : Compositor) : Option CompositorError × Compositor :=
  (none, { c.log [.acquire .headsChanged] with headsChanged := true })

def addMirrorListeners (c : Compositor) : Option CompositorError × Compositor :=
  (none, c.addFrontendListeners [.outputCreated, .outputResized])

/-- A call on the compositor that may fail. -/
def call (failure : Option CompositorError) (c : Compositor) :
    Option CompositorError × Compositor :=
  (failure, c.log [.use .compositor])

def addRecorderBinding (flightRec : Bool) (c : Compositor) :
    Option CompositorError × Compositor :=
  if flightRec then (none, { c.log [.acquire .recorderBinding] with recorderBinding := true })
  else (none, c)

def addShellListeners (added : List ShellListener) (c : Compositor) : Compositor :=
  { c.log (added.map fun l => .acquire (.shellListener l)) with
    listeners := c.listeners ++ added }

/-- `attach_shell_native` and the wiring below it. -/
def attachShell (answers : Answers) (c : Compositor) : Option CompositorError × Compositor :=
  if !answers.destroyListenerOnce then (some .shellInit, c)
  else
    let c := c.addShellListeners [.compositorDestroy, .transform]
    let c := { c.log [.acquire .shellLayers] with shellLayers := true }
    if !answers.desktop then (some .shellInit, c)
    else
      let c := { c.log [.acquire .desktop] with desktop := true }
      (none, c.addShellListeners
        [.outputCreated, .outputMoved, .outputResized, .session, .seatCreated])

/-- `screenshooter::create`. -/
def createScreenshooter (c : Compositor) : Option CompositorError × Compositor :=
  (none, (c.log [.use .compositor]).addFrontendListeners [.authorize])

def bindSocket (answers : Answers) (c : Compositor) : Option CompositorError × Compositor :=
  (if answers.socket then none else some .socketAdd, c.log [.use .display])

/-- `xwayland::load`; the state stays only where everything worked. -/
def loadXwayland (answers : Answers) (c : Compositor) : Option CompositorError × Compositor :=
  if answers.xwayland then (none, { c.log [.use .compositor] with xwayland := some .loaded })
  else (some .xwayland, c.log [.use .compositor])

end Compositor

namespace CompositorBuilder

open Compositor

def failsWith (worked : Bool) (error : CompositorError) : Option CompositorError :=
  if worked then none else some error

/-- The part of `build` in which there is no `Compositor` that would be dropped. -/
def create (b : CompositorBuilder) (answers : Answers) : Option CompositorError × Compositor :=
  if b.backends = [] then (some .backendLoad, {})
  else
    let c : Compositor := { ({} : Compositor).log [.acquire .current] with current := true }
    if !answers.display then (some .displayCreate, c.teardown)
    else
      let c := { c.log [.acquire .display] with display := true }
      if !b.logCtx then (some .logCtxCreate, c.destroyDisplay.teardown)
      else if !answers.compositor then (some .compositorCreate, c.destroyDisplay.teardown)
      else
        let c := { c.log [.acquire .compositor, .acquire .xkbNames] with
          compositor := true, xkbNames := true }
        if !answers.xkbRuleNames then
          -- libweston did not take the names over.
          let c := { c.log [.use .compositor, .release .xkbNames] with xkbNames := false }
          (some .compositorCreate, c.destroyCompositor.destroyDisplay.teardown)
        else
          let c := c.log [.use .compositor]
          if b.colorManagement then
            (failsWith answers.colorManager .colorManager, c.log [.use .compositor])
          else (none, c)

/-- The rest of `build`, with what each stage may acquire. -/
def bringUp (b : CompositorBuilder) (answers : Answers) :
    List (Stage Compositor CompositorError Resource) :=
  [⟨acquireProtocolScope answers, [.protocolScope]⟩,
    ⟨acquireProtologger answers, [.protologger]⟩,
    ⟨enableDebug b.debugProtocol, [.frontendListener .allowAllScreenshots]⟩,
    ⟨installSignalSources answers,
      [.signalSource .sigterm, .signalSource .sigusr2, .signalSource .sigchld]⟩,
    ⟨addHeadsChangedListener, [.headsChanged]⟩,
    ⟨addMirrorListeners, [.frontendListener .outputCreated, .frontendListener .outputResized]⟩] ++
  b.backends.mapIdx (fun place _ => ⟨call (answers.load place), []⟩) ++
  [⟨call (failsWith answers.backendsLoaded .backendLoad), []⟩,
    ⟨addRecorderBinding b.flightRec, [.recorderBinding]⟩] ++
  (if b.shell then
    [⟨attachShell answers,
        [.shellListener .compositorDestroy, .shellListener .transform, .shellLayers, .desktop,
          .shellListener .outputCreated, .shellListener .outputMoved,
          .shellListener .outputResized, .shellListener .session, .shellListener .seatCreated]⟩,
      ⟨createScreenshooter, [.frontendListener .authorize]⟩]
  else []) ++
  [⟨call (failsWith answers.outputs .outputInit), []⟩] ++
  (if b.socket then [⟨bindSocket answers, []⟩] else []) ++
  (if b.xwayland then [⟨loadXwayland answers, []⟩] else []) ++
  [⟨call none, []⟩]

/-- The error and what is left, or the compositor. -/
def build (b : CompositorBuilder) (answers : Answers) : Option CompositorError × Compositor :=
  match b.create answers with
  | (some error, c) => (some error, c)
  | (none, c) =>
      match stages ((b.bringUp answers).map Stage.run) c with
      | (some error, c) => (some error, c.drop)
      | (none, c) => (none, c)

end CompositorBuilder

end Westonite.Lifetime
