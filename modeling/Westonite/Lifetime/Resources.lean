import Westonite.Children.Machine
import Westonite.Library.Lifetimes
import Westonite.Resolve.ResolveFrom

/-! What the process acquires from libweston, libwayland and the kernel for the session and
for the servers it starts, what of it needs what, and the owner of the log. What there is for
each seat, output, surface or client goes with these, and is left to the modules about them. -/

set_option autoImplicit false

namespace Westonite.Lifetime

open Library
open Xwayland (Spawn)
open Children (Client)

/-- The signals that are sources of the event loop. -/
inductive Signal where
  | sigterm
  | sigusr2
  | sigchld
  deriving DecidableEq, Repr

/-- The listeners of `frontend_listeners`, on signals inside the compositor. -/
inductive FrontendListener where
  | allowAllScreenshots
  | outputCreated
  | outputResized
  | authorize
  deriving DecidableEq, Repr

/-- The listeners the shell gives to the `Ctx`, on signals inside the compositor. -/
inductive ShellListener where
  | compositorDestroy
  | transform
  | outputCreated
  | outputMoved
  | outputResized
  | session
  | seatCreated
  deriving DecidableEq, Repr

inductive Resource where
  | logContext
  | logScope
  | logFile
  /-- The clone of the log file that `LOG_FILE` keeps until the process ends. -/
  | fallbackLog
  | logger
  | flightRec
  /-- The handlers of `weston_log`, while they print into the scope. -/
  | logHandlers
  /-- The thread-local slot that leads callbacks to the `Ctx`. -/
  | current
  | display
  | compositor
  | xkbNames
  | protocolScope
  | protologger
  | signalSource (signal : Signal)
  | headsChanged
  | frontendListener (listener : FrontendListener)
  /-- The binding that dumps the flight recorder. -/
  | recorderBinding
  | shellListener (listener : ShellListener)
  | shellLayers
  | desktop
  | wmFd (spawn : Spawn)
  | displayPipe (spawn : Spawn)
  | displayFdSource (spawn : Spawn)
  /-- The listener on the destroy signal of the screenshooter's client. -/
  | clientDestroy (client : Client)
  deriving DecidableEq, Repr

/-- What has to be there before a resource and as long as it. A callback needs the slot
that it finds the `Ctx` in. -/
def needs : Resource → List Resource
  | .logContext | .logFile | .fallbackLog | .current | .display | .xkbNames => []
  | .wmFd _ | .displayPipe _ => []
  | .logScope | .flightRec => [.logContext]
  | .logger => [.logContext, .logFile]
  | .logHandlers => [.logScope]
  | .compositor => [.display, .logContext]
  | .protocolScope => [.logContext]
  | .protologger => [.display, .protocolScope]
  | .signalSource _ => [.display, .current]
  | .headsChanged | .frontendListener _ | .shellListener _ => [.compositor, .current]
  | .recorderBinding => [.compositor, .flightRec]
  | .shellLayers | .desktop => [.compositor]
  | .displayFdSource spawn => [.display, .current, .displayPipe spawn]
  | .clientDestroy _ => [.display, .current]

/-- What a handle that may be null stands for. -/
def flag (there : Bool) (resource : Resource) : List Resource := if there then [resource] else []

/-! ### The log -/

structure LogSetup where
  file : Option String
  loggerScopes : List String
  flightRecScopes : Option (List String)

/-- `split_scopes`. -/
def splitScopes (v : Option String) : List String := Resolve.splitList (v.getD "")

def LogSetup.ofCli (cli : Resolve.Cli) : LogSetup where
  file := cli.log
  loggerScopes := splitScopes cli.loggerScopes
  flightRecScopes := cli.flightRecScopes.map fun v => splitScopes (some v)

/-- What the calls of `LogContext::new` answer; `descriptor` is the file of `--log` or a
copy of stderr, and `stream` is made of it. -/
structure LogAnswers where
  ctx : Bool
  scope : Bool
  descriptor : Bool
  clone : Bool
  stream : Bool
  logger : Bool
  flightRec : Bool

inductive LogError where
  | ctxCreate
  | scopeCreate
  | fileOpen
  deriving DecidableEq, Repr

/-- `installed` is the state of the shim: whether its handlers print into the scope; and
`fallback` that of `LOG_FILE`: whether it has a clone of the file. -/
structure LogContext where
  scope : Bool := false
  logger : Bool := false
  flightRec : Bool := false
  file : Bool := false
  installed : Bool := false
  fallback : Bool := false
  deriving DecidableEq, Repr

namespace LogContext

/-- In the order of `drop`. -/
def owned (lc : LogContext) : List Resource :=
  flag lc.installed .logHandlers ++ flag lc.scope .logScope ++ flag lc.logger .logger ++
    flag lc.flightRec .flightRec ++ [.logContext] ++ flag lc.file .logFile

def held (lc : LogContext) : List Resource := flag lc.fallback .fallbackLog ++ lc.owned

/-- The clone stays. -/
def drop (lc : LogContext) : List (Action Resource) := lc.owned.map .release

def defaultFlightRecScopes : List String := ["log", "drm-backend"]

/-- A null subscriber and a name with a NUL subscribe nothing. -/
def subscribe (there : Bool) (subscriber : Resource) (name : String) : List (Action Resource) :=
  if there && !name.toList.contains '\x00' then [.use .logContext, .use subscriber] else []

def subscriptions (setup : LogSetup) (lc : LogContext) : List (Action Resource) :=
  (if setup.loggerScopes = [] then ["log"] else setup.loggerScopes).flatMap
      (subscribe lc.logger .logger) ++
    (setup.flightRecScopes.getD defaultFlightRecScopes).flatMap (subscribe lc.flightRec .flightRec)

/-- `LogContext::new`; a context that is not complete is dropped. -/
def new (setup : LogSetup) (answers : LogAnswers) :
    Except LogError LogContext × List (Action Resource) :=
  if !answers.ctx then (.error .ctxCreate, [])
  else
    let lc : LogContext := {}
    let actions := [.acquire .logContext]
    if !answers.scope then (.error .scopeCreate, actions ++ lc.drop)
    else
      let lc := { lc with scope := true }
      let actions := actions ++ [.acquire .logScope]
      if !answers.descriptor then (.error .fileOpen, actions ++ lc.drop)
      else
        let actions := actions ++ [.acquire .logFile]
        let closed := .release .logFile :: lc.drop
        if setup.file.isSome && !answers.clone then (.error .fileOpen, actions ++ closed)
        else
          let lc := { lc with fallback := setup.file.isSome }
          let actions := actions ++ (flag lc.fallback .fallbackLog).map .acquire
          if !answers.stream then (.error .fileOpen, actions ++ closed)
          else
            let wanted := (setup.flightRecScopes.getD defaultFlightRecScopes) ≠ []
            let lc :=
              { lc with
                file := true, logger := answers.logger, flightRec := wanted && answers.flightRec }
            let actions := actions ++
              (flag lc.logger .logger ++ flag lc.flightRec .flightRec).map .acquire ++
              lc.subscriptions setup
            (.ok { lc with installed := true }, actions ++ [.acquire .logHandlers])

/-- `LOG_FILE` has a clone, also where the context did not come up. -/
def leavesClone (setup : LogSetup) (answers : LogAnswers) : Bool :=
  answers.ctx && answers.scope && answers.descriptor && setup.file.isSome && answers.clone

end LogContext

end Westonite.Lifetime
