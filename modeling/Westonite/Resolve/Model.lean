import Westonite.Library.Binary

/-! The configuration surface: the flags, the sections of the file, and what both
resolve to. -/

set_option autoImplicit false

namespace Westonite.Resolve

open Library.Binary

inductive Backend where
  | drm
  | headless
  | x11
  | wayland
  | rdp
  | vnc
  | pipewire
  deriving DecidableEq, Repr

inductive Renderer where
  | auto
  | gl
  | pixman
  | noop
  deriving DecidableEq, Repr

/-! ### Flags -/

structure Cli where
  version : Bool := false
  /-- `--backend` and `--backends`, which are one flag. -/
  backend : Option String := none
  renderer : Option String := none
  useGl : Bool := false
  usePixman : Bool := false
  socket : Option String := none
  log : Option String := none
  config : Option String := none
  noConfig : Bool := false
  set : List String := []
  waitForDebugger : Bool := false
  debug : Bool := false
  loggerScopes : Option String := none
  flightRecScopes : Option String := none
  width : Option Int := none
  height : Option Int := none
  scale : Option Int := none
  transform : Option String := none
  fullscreen : Bool := false
  outputCount : Option Nat := none
  noInput : Bool := false
  sprawl : Bool := false
  display : Option String := none
  noOutputs : Bool := false
  refreshRate : Option Int := none
  seat : Option String := none
  drmDevice : Option String := none
  additionalDevices : Option String := none
  currentMode : Bool := false
  continueWithoutInput : Bool := false
  port : Option Nat := none
  address : Option String := none
  rdpTlsCert : Option String := none
  rdpTlsKey : Option String := none
  vncTlsCert : Option String := none
  vncTlsKey : Option String := none
  disableTransportLayerSecurity : Bool := false
  externalListenerFd : Option Int := none
  noResizeable : Bool := false
  rdp4Key : Option String := none
  envSocket : Bool := false
  noRemotefxCodec : Bool := false
  forceNoCompression : Bool := false
  xwayland : Bool := false
  idleTime : Option Nat := none
  modules : Option String := none
  shell : Option String := none
  autolaunch : List String := []

/-! ### Sections -/

structure Core where
  backend : Option String := none
  backends : List String := []
  renderer : Option String := none
  useGl : Bool := false
  usePixman : Bool := false
  outputDecorations : Bool := false
  gbmFormat : Option String := none
  requireInput : Bool := true
  colorManagement : Bool := false
  xwayland : Bool := false
  idleTime : Option Nat := none
  pageflipTimeout : Option Nat := none
  pixmanShadow : Option Bool := none
  requireOutputs : Option String := none
  waitForDebugger : Bool := false
  repaintWindow : Option Int := none
  modules : List String := []
  shell : Option String := none

structure Shell where
  backgroundColor : Option String := none
  client : Option String := none
  cursorTheme : Option String := none
  cursorSize : Option Int := none

structure Keyboard where
  keymapRules : Option String := none
  keymapModel : Option String := none
  keymapLayout : Option String := none
  keymapVariant : Option String := none
  keymapOptions : Option String := none
  repeatRate : Option Nat := none
  repeatDelay : Option Nat := none
  numlockOn : Option Bool := none
  vtSwitching : Option Bool := none

structure Libinput where
  enableTap : Option Bool := none
  /-- C's spelling with an underscore, kept so that its refusal can name the other. -/
  enableTapDeprecated : Option Bool := none
  tapAndDrag : Option Bool := none
  tapAndDragLock : Option Bool := none
  disableWhileTyping : Option Bool := none
  naturalScroll : Option Bool := none
  leftHanded : Option Bool := none
  middleButtonEmulation : Option Bool := none
  rotation : Option Nat := none
  accelProfile : Option String := none
  accelSpeed : Option F64 := none
  scrollMethod : Option String := none
  scrollButton : Option String := none
  touchscreenCalibrator : Option Bool := none
  calibrationHelper : Option String := none

structure Autolaunch where
  path : Option String := none
  watch : Bool := false

structure Xwayland where
  path : Option String := none

structure Rdp where
  port : Option Nat := none
  address : Option String := none
  resizeable : Option Bool := none
  forceNoCompression : Option Bool := none
  remotefxCodec : Option Bool := none
  externalListenerFd : Option Int := none
  refreshRate : Option Nat := none
  tlsCert : Option String := none
  tlsKey : Option String := none

structure Vnc where
  port : Option Nat := none
  refreshRate : Option Nat := none
  address : Option String := none
  tlsCert : Option String := none
  tlsKey : Option String := none
  disableTransportLayerSecurity : Option Bool := none

structure Pipewire where
  numOutputs : Option Nat := none

structure Output where
  name : Option String := none
  mode : Option String := none
  scale : Option Int := none
  transform : Option String := none
  position : Option String := none
  cloneOf : Option String := none
  mirrorOf : Option String := none
  seat : Option String := none
  gbmFormat : Option String := none
  pixmanShadow : Option Bool := none
  iccProfile : Option String := none
  eotfMode : Option String := none
  colorimetryMode : Option String := none
  colorCharacteristics : Option String := none
  maxBpc : Option Nat := none
  contentType : Option String := none
  forceOn : Option Bool := none
  resizeable : Option Bool := none
  off : Option Bool := none
  allowHdcp : Option Bool := none

structure RemoteOutput where
  name : Option String := none
  mode : Option String := none
  host : Option String := none
  port : Option Nat := none
  gstPipeline : Option String := none

structure PipewireOutput where
  name : Option String := none
  mode : Option String := none
  gbmFormat : Option String := none

structure ColorCharacteristics where
  name : Option String := none
  maxLuminance : Option F64 := none
  minLuminance : Option F64 := none
  maxFall : Option F64 := none
  redX : Option F64 := none
  redY : Option F64 := none
  greenX : Option F64 := none
  greenY : Option F64 := none
  blueX : Option F64 := none
  blueY : Option F64 := none
  whiteX : Option F64 := none
  whiteY : Option F64 := none

structure Config where
  core : Core := {}
  shell : Shell := {}
  keyboard : Keyboard := {}
  libinput : Libinput := {}
  autolaunch : Autolaunch := {}
  xwayland : Xwayland := {}
  rdp : Rdp := {}
  vnc : Vnc := {}
  pipewire : Pipewire := {}
  output : List Output := []
  remoteOutput : List RemoteOutput := []
  pipewireOutput : List PipewireOutput := []
  colorCharacteristics : List ColorCharacteristics := []

/-! ### What they resolve to -/

structure Settings where
  /-- The primary backend first. -/
  backends : List Backend
  renderer : Renderer
  socket : Option String
  debugProtocol : Bool
  waitForDebugger : Bool
  xwayland : Bool
  idleTime : Option Nat
  modules : List String
  requireInput : Bool
  colorManagement : Bool
  gbmFormat : Option String
  backgroundColor : Nat
  shellClient : Option String
  width : Option Int
  height : Option Int
  scale : Option Int
  transform : Option String
  fullscreen : Bool
  outputCount : Option Nat
  noInput : Bool
  sprawl : Bool
  waylandDisplay : Option String
  cursorTheme : Option String
  cursorSize : Int
  pipewireNumOutputs : Option Nat
  parentDisplay : Option String
  noOutputs : Bool
  refreshRate : Option Int
  drmSeat : Option String
  drmDevice : Option String
  drmAdditionalDevices : Option String
  drmCurrentMode : Bool
  continueWithoutInput : Bool
  rdpVncPort : Option Nat
  vncBindAddress : Option String
  vncRefreshRate : Option Nat
  vncDisableTls : Bool
  rdpTlsCert : Option String
  rdpTlsKey : Option String
  vncTlsCert : Option String
  vncTlsKey : Option String
  rdpExternalListenerFd : Option Int
  rdpResizeable : Bool
  rdpForceNoCompression : Bool
  rdp4Key : Option String
  rdpEnvSocket : Bool
  rdpRemotefxCodec : Bool
  autolaunch : Option (List String)
  autolaunchWatch : Bool
  xwaylandPath : String
  /-- The file that was read, if any. -/
  configPath : Option String
  /-- An ini file of the old name that was ignored. -/
  legacyIniFound : Option String
  config : Config

end Westonite.Resolve
