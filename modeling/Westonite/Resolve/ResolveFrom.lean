import Westonite.Config.Color
import Westonite.Config.IntegerColor
import Westonite.Config.Overrides
import Westonite.Library.Fallible
import Westonite.Resolve.Discover
import Westonite.Resolve.Model

/-! Resolution: the file, the overrides and the flags, into one set of settings. -/

set_option autoImplicit false

namespace Westonite.Resolve

open Library
open Westonite.Config (ConfigError trim parseColor defaultBackgroundColor deserializeError)

/-! ### Names -/

namespace Backend

def suffix : List Char := "-backend.so".toList

/-- `strip_suffix("-backend.so")` -/
def stripSuffix (s : List Char) : List Char :=
  if suffix <:+ s then s.take (s.length - suffix.length) else s

/-- The short name and C's module name are both known. -/
def parse (s : String) : Option Backend :=
  match String.ofList (stripSuffix s.toList) with
  | "drm" => some .drm
  | "headless" => some .headless
  | "x11" => some .x11
  | "wayland" => some .wayland
  | "rdp" => some .rdp
  | "vnc" => some .vnc
  | "pipewire" => some .pipewire
  | _ => none

def name : Backend → String
  | .drm => "drm"
  | .headless => "headless"
  | .x11 => "x11"
  | .wayland => "wayland"
  | .rdp => "rdp"
  | .vnc => "vnc"
  | .pipewire => "pipewire"

end Backend

/-- The comma list of a flag or of a string in the file. -/
def splitList (s : String) : List String :=
  (((s.toList.splitOn ',').map trim).filter fun piece => !piece.isEmpty).map String.ofList

/-! ### The file -/

/-- What is not under the control of the configuration: the files, and the reader and
the deserializer of TOML with the texts of their errors. -/
structure Host where
  isFile : String → Bool
  readToString : String → Except String String
  parse : String → Except String Westonite.Config.Table
  tryInto : Westonite.Config.Table → Except String Config

def Host.parseTable (host : Host) (text : String) : Option Westonite.Config.Table :=
  (host.parse text).toOption

/-- The file that is read, and the ini file that is reported. -/
def configFile (host : Host) (cli : Cli) (env : Env) : Option String × Option String :=
  if cli.noConfig then (none, none)
  else
    match cli.config with
    | some path => (some path, none)
    | none => discover host.isFile env

def readError (path e : String) : ConfigError :=
  .invalid ("cannot read config file '" ++ path ++ "': " ++ e)

def fileError (path e : String) : ConfigError :=
  .invalid ("config file '" ++ path ++ "': " ++ e)

def loadTree (host : Host) : Option String → Except ConfigError Westonite.Config.Table
  | none => .ok []
  | some path => do
      let text ← (host.readToString path).mapError (readError path)
      (host.parse text).mapError (fileError path)

/-- One override; the tree of a rejected one is of no use to anyone. -/
def applyOverride (host : Host) (tree : Westonite.Config.Table) (spec : String) :
    Except ConfigError Westonite.Config.Table :=
  match Westonite.Config.apply host.parseTable tree spec with
  | (.ok (), tree) => .ok tree
  | (.error e, _) => .error (.invalid e)

/-! ### The flags on top -/

/-- The flag, then the list of the section, then its string, then C's default. -/
def backendNames (cli : Cli) (core : Core) : List String :=
  match cli.backend with
  | some list => splitList list
  | none =>
      if core.backends ≠ [] then core.backends
      else
        match core.backend with
        | some list => splitList list
        | none => ["drm"]

def unknownBackend (name : String) : ConfigError := .invalid ("unknown backend \"" ++ name ++ "\"")

/-- Each backend once, where it is named first. -/
def parseBackends : List String → List Backend → Except ConfigError (List Backend)
  | [], backends => .ok backends
  | name :: rest, backends =>
      match Backend.parse name with
      | none => .error (unknownBackend name)
      | some backend =>
          parseBackends rest
            (if backends.contains backend then backends else backends ++ [backend])

def conflictingRenderers : ConfigError := .invalid "Conflicting renderer specifications"

def unknownRenderer (name : String) : ConfigError :=
  .invalid ("unknown renderer \"" ++ name ++ "\"")

def parseRenderer : Option String → Except ConfigError Renderer
  | none => .ok .auto
  | some "auto" => .ok .auto
  | some "gl" => .ok .gl
  | some "pixman" => .ok .pixman
  | some "noop" => .ok .noop
  | some other => .error (unknownRenderer other)

def resolveRenderer (cli : Cli) (core : Core) : Except ConfigError Renderer :=
  let useGl := cli.useGl || core.useGl
  let usePixman := cli.usePixman || core.usePixman
  let rendererGiven := cli.renderer.isSome || core.renderer.isSome
  if (useGl && usePixman) || (rendererGiven && (useGl || usePixman)) then
    .error conflictingRenderers
  else
    parseRenderer
      ((cli.renderer.or
        (if useGl then some "gl" else if usePixman then some "pixman" else none)).or core.renderer)

def resolveBackgroundColor (shell : Shell) : Except ConfigError Nat :=
  match shell.backgroundColor with
  | some s => parseColor s "[shell] background-color"
  | none => .ok defaultBackgroundColor

def resolveAutolaunch (cli : Cli) (autolaunch : Autolaunch) : Option (List String) :=
  if cli.autolaunch ≠ [] then some cli.autolaunch else autolaunch.path.map fun path => [path]

def resolveModules (cli : Cli) (core : Core) : List String :=
  match cli.modules with
  | some list => splitList list
  | none => core.modules

/-- What is wrong with a value that is given and not positive. -/
def notPositive (message : Int → String) (value : Option Int) : Option ConfigError :=
  match value with
  | some v => if v ≤ 0 then some (.invalid (message v)) else none
  | none => none

def flagNotPositive (flag : String) (v : Int) : String :=
  flag ++ " must be positive (got " ++ toString v ++ ")"

def checkGeometry (cli : Cli) : Option ConfigError :=
  [("--width", cli.width), ("--height", cli.height), ("--scale", cli.scale)].findSome?
    fun entry => notPositive (flagNotPositive entry.1) entry.2

def scaleNotPositive (name : Option String) (v : Int) : String :=
  "[output] '" ++ name.getD "<unnamed>" ++ "': scale must be positive (got " ++ toString v ++ ")"

def checkScales (outputs : List Output) : Option ConfigError :=
  outputs.findSome? fun out => notPositive (scaleNotPositive out.name) out.scale

/-- The section of the backend that is loaded, the vnc one first. -/
def sectionPort (backends : List Backend) (config : Config) : Option Nat :=
  if backends.contains .vnc then config.vnc.port
  else if backends.contains .rdp then config.rdp.port
  else none

/-- The settings of the steps below; a flag stands above the section. -/
def assemble (cli : Cli) (config : Config) (backends : List Backend) (renderer : Renderer)
    (backgroundColor : Nat) (configPath legacyIniFound : Option String) : Settings where
  backends := backends
  renderer := renderer
  socket := cli.socket
  debugProtocol := cli.debug
  waitForDebugger := cli.waitForDebugger || config.core.waitForDebugger
  xwayland := cli.xwayland || config.core.xwayland
  idleTime := cli.idleTime.or config.core.idleTime
  modules := resolveModules cli config.core
  requireInput := config.core.requireInput
  colorManagement := config.core.colorManagement
  gbmFormat := config.core.gbmFormat
  backgroundColor := backgroundColor
  shellClient := config.shell.client
  width := cli.width
  height := cli.height
  scale := cli.scale
  transform := cli.transform
  fullscreen := cli.fullscreen
  outputCount := cli.outputCount
  noInput := cli.noInput
  sprawl := cli.sprawl
  waylandDisplay := cli.display
  cursorTheme := config.shell.cursorTheme
  cursorSize := config.shell.cursorSize.getD 32
  pipewireNumOutputs := config.pipewire.numOutputs
  parentDisplay := cli.display
  noOutputs := cli.noOutputs
  refreshRate := cli.refreshRate
  drmSeat := cli.seat
  drmDevice := cli.drmDevice
  drmAdditionalDevices := cli.additionalDevices
  drmCurrentMode := cli.currentMode
  continueWithoutInput := cli.continueWithoutInput
  rdpVncPort := cli.port.or (sectionPort backends config)
  vncBindAddress := cli.address.or config.vnc.address
  vncRefreshRate := config.vnc.refreshRate
  vncDisableTls := cli.disableTransportLayerSecurity ||
    config.vnc.disableTransportLayerSecurity.getD false
  rdpTlsCert := cli.rdpTlsCert.or config.rdp.tlsCert
  rdpTlsKey := cli.rdpTlsKey.or config.rdp.tlsKey
  vncTlsCert := cli.vncTlsCert.or config.vnc.tlsCert
  vncTlsKey := cli.vncTlsKey.or config.vnc.tlsKey
  rdpExternalListenerFd := cli.externalListenerFd.or config.rdp.externalListenerFd
  rdpResizeable := !cli.noResizeable && config.rdp.resizeable.getD true
  rdpForceNoCompression := cli.forceNoCompression || config.rdp.forceNoCompression.getD false
  rdp4Key := cli.rdp4Key
  rdpEnvSocket := cli.envSocket
  rdpRemotefxCodec := !cli.noRemotefxCodec && config.rdp.remotefxCodec.getD true
  autolaunch := resolveAutolaunch cli config.autolaunch
  autolaunchWatch := config.autolaunch.watch || cli.autolaunch ≠ []
  xwaylandPath := config.xwayland.path.getD "/usr/bin/Xwayland"
  configPath := configPath
  legacyIniFound := legacyIniFound
  config := config

def resolveFrom (host : Host) (cli : Cli) (env : Env) : Except ConfigError Settings := do
  let (configPath, legacyIniFound) := configFile host cli env
  let tree ← loadTree host configPath
  let tree ← cli.set.foldlM (applyOverride host) tree
  let config ← (host.tryInto tree).mapError (deserializeError configPath)
  let backends ← parseBackends (backendNames cli config.core) []
  let renderer ← resolveRenderer cli config.core
  let backgroundColor ← resolveBackgroundColor config.shell
  ensure (checkGeometry cli)
  ensure (checkScales config.output)
  return assemble cli config backends renderer backgroundColor configPath legacyIniFound

end Westonite.Resolve
