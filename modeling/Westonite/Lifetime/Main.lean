import Westonite.Frontend.Gate
import Westonite.Frontend.Libinput
import Westonite.Frontend.OutputRules
import Westonite.Lifetime.Build
import Westonite.Output.Layoutput

/-! The whole process, from its command line to its end. -/

set_option autoImplicit false

namespace Westonite.Lifetime

open Library Library.Binary
open Resolve (Cli Env Host Settings resolveFrom)
open Frontend (rejectUnported buildOutputPolicy buildInputConfig)
open Xwayland (Spawn)
open Children (Client)

/-! ### The event loop -/

/-- The listener on the destroy signal of the screenshooter's client. -/
def listenerActions (m : Children.Machine) : Children.Label → List (Action Resource)
  | .superS (.started _ _ client) =>
      if m.screenshooter.client.isSome then [] else [.acquire (.clientDestroy client)]
  | .clientDies client =>
      if m.screenshooter.clientDestroy = some client then [.release (.clientDestroy client)]
      else []
  | _ => []

def effectActions : Children.Effect → List (Action Resource)
  | .xwayland call => Compositor.callActions call
  | .terminate => [.use .display]
  | .line _ | .answered _ _ | .recorderStarted _ _ | .recorderStopped _ => []

/-- What one step does, from the effects that are new. -/
def stepActions (m : Children.Machine) (label : Children.Label) (next : Children.Machine) :
    List (Action Resource) :=
  (next.effects.drop m.effects.length).flatMap effectActions ++ listenerActions m label

/-- The loop over the events, which do not include the teardown. -/
def eventLoop (m : Children.Machine) :
    List Children.Label → Option (Children.Machine × List (Action Resource))
  | [] => some (m, [])
  | .teardown :: _ => none
  | label :: labels => do
      let next ← m.step label
      let (final, later) ← eventLoop next labels
      return (final, stepActions m label next ++ later)

/-! ### From the settings to the builder -/

-- The text of a double, and the code of an evdev name.
variable (display : F64 → String) (evdev : String → Int)

def unknownRequireOutputs (r : String) : String :=
  "[core] require-outputs: unknown value \"" ++ r ++ "\" (any|all|none)"

/-- The builder of the settings; the gate lets no rdp through. -/
def builderOf (lc : LogContext) (settings : Settings) : CompositorBuilder where
  backends := settings.backends.filter fun backend => backend != .rdp
  socket := true
  shell := true
  xwayland := settings.xwayland
  colorManagement := settings.colorManagement
  debugProtocol := settings.debugProtocol
  logCtx := true
  flightRec := lc.flightRec

def errorText : Westonite.Config.ConfigError → String
  | .invalid text => text

/-- What `main` refuses before anything is built. -/
def prepare (host : Host) (cli : Cli) (env : Env) : Except String Settings := do
  let settings ← (resolveFrom host cli env).mapError errorText
  ensure (rejectUnported cli settings)
  let _ ← (buildOutputPolicy display settings).2
  let _ ← buildInputConfig evdev display settings.config.libinput
  let _ ← readName Output.RequireOutputs.parse unknownRequireOutputs
    settings.config.core.requireOutputs
  return settings

/-- What the rest of the world answers. -/
structure Outside where
  log : LogAnswers
  xdgRuntimeDir : Bool
  build : Answers
  executable : String → Bool
  /-- The pid of the autolaunched client, where the launch works. -/
  spawned : Option Int

/-- `start_autolaunch`: nothing when it is fatal, otherwise what was launched. -/
def startAutolaunch (outside : Outside) (cli : Cli) (settings : Settings) :
    Option (List Children.Label) :=
  match settings.autolaunch with
  | none => some []
  | some [] => none
  | some (path :: _) =>
      if cli.autolaunch = [] && !outside.executable path then none
      else outside.spawned.map fun pid => [.autolaunch pid settings.autolaunchWatch]

/-! ### The process -/

/-- The compositor at the end of its event loop. -/
def Compositor.ended (c : Compositor) (m : Children.Machine)
    (actions : List (Action Resource)) : Compositor :=
  { c.log actions with
    xwayland := m.xwayland.xwayland, clientDestroy := m.screenshooter.clientDestroy }

/-- From the builder to the end of the compositor, whose last owner is `main`. -/
def session (outside : Outside) (cli : Cli) (settings : Settings) (builder : CompositorBuilder)
    (labels : List Children.Label) : Option (List (Action Resource)) :=
  match builder.build outside.build with
  | (some _, c) => some c.actions
  | (none, c) =>
      match startAutolaunch outside cli settings with
      | none => some c.drop.actions
      | some launched =>
          (eventLoop (.start c.xwayland.isSome settings.xwaylandPath) (launched ++ labels)).map
            fun (final, actions) => (c.ended final (.use .display :: actions)).drop.actions

/-- Everything the process acquires and releases, where its event loop takes the labels
and ends. The log is the first thing there is and the last one. -/
def main (host : Host) (outside : Outside) (cli : Cli) (env : Env)
    (labels : List Children.Label) : Option (List (Action Resource)) :=
  if cli.version then some []
  else
    match LogContext.new (.ofCli cli) outside.log with
    | (.error _, actions) => some actions
    | (.ok lc, actions) =>
        let middle :=
          if !outside.xdgRuntimeDir then some []
          else
            match prepare display evdev host cli env with
            | .error _ => some []
            | .ok settings => session outside cli settings (builderOf lc settings) labels
        middle.map fun middle => actions ++ middle ++ lc.drop

end Westonite.Lifetime
