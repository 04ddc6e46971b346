import Westonite.Frontend.OptionParser
import Westonite.Resolve.Resolved

/-! The gate in front of the compositor: what would be without effect is an error. -/

set_option autoImplicit false

namespace Westonite.Frontend

open Resolve

def unhandledOption (flag : String) : String :=
  "unhandled option: " ++ flag ++ " (not consumed by any loaded backend)"

/-- A flag, whether it is given, and whether a loaded backend consumes it. -/
def perBackendFlags (cli : Cli) (settings : Settings) : List (Bool × String × Bool) :=
  let hasHeadless := settings.backends.contains .headless
  let hasVnc := settings.backends.contains .vnc
  let hasX11 := settings.backends.contains .x11
  let hasWayland := settings.backends.contains .wayland
  let hasDrm := settings.backends.contains .drm
  [(cli.seat.isSome, "--seat", hasDrm),
    (cli.drmDevice.isSome, "--drm-device", hasDrm),
    (cli.additionalDevices.isSome, "--additional-devices", hasDrm),
    (cli.currentMode, "--current-mode", hasDrm),
    (cli.continueWithoutInput, "--continue-without-input", hasDrm),
    (settings.scale.isSome, "--scale", hasHeadless || hasX11 || hasWayland),
    (settings.transform.isSome, "--transform", hasHeadless),
    (settings.noOutputs, "--no-outputs", hasHeadless),
    (settings.refreshRate.isSome, "--refresh-rate", hasHeadless),
    (cli.useGl, "--use-gl", hasHeadless),
    (cli.usePixman, "--use-pixman", hasHeadless || hasX11 || hasWayland),
    (cli.fullscreen, "--fullscreen", hasX11 || hasWayland),
    (cli.outputCount.isSome, "--output-count", hasX11 || hasWayland),
    (cli.noInput, "--no-input", hasX11),
    (cli.sprawl, "--sprawl", hasWayland),
    (cli.display.isSome, "--display", hasWayland),
    (cli.port.isSome, "--port", hasVnc),
    (cli.address.isSome, "--address", hasVnc),
    (cli.vncTlsCert.isSome, "--vnc-tls-cert", hasVnc),
    (cli.vncTlsKey.isSome, "--vnc-tls-key", hasVnc),
    (cli.disableTransportLayerSecurity, "--disable-transport-layer-security", hasVnc)]

def unconsumedFlags (cli : Cli) : List (Bool × String) :=
  [(cli.rdpTlsCert.isSome, "--rdp-tls-cert"),
    (cli.rdpTlsKey.isSome, "--rdp-tls-key"),
    (cli.externalListenerFd.isSome, "--external-listener-fd"),
    (cli.noResizeable, "--no-resizeable"),
    (cli.rdp4Key.isSome, "--rdp4-key"),
    (cli.envSocket, "--env-socket"),
    (cli.noRemotefxCodec, "--no-remotefx-codec"),
    (cli.forceNoCompression, "--force-no-compression")]

def rejectPerBackendFlags (cli : Cli) (settings : Settings) : Option String :=
  (perBackendFlags cli settings).findSome? fun entry =>
    if entry.1 && !entry.2.2 then some (unhandledOption entry.2.1) else none

def rejectUnconsumedFlags (cli : Cli) : Option String :=
  (unconsumedFlags cli).findSome? fun entry =>
    if entry.1 then some (unhandledOption entry.2) else none

/-- A refusal with its text. -/
def refuse (wrong : Bool) (message : String) : Option String := if wrong then some message else none

def rejectLibinput (li : Libinput) : Option String :=
  refuse (li.touchscreenCalibrator.getD false)
      ("[libinput] touchscreen-calibrator is not supported by westonite (the touch calibration " ++
       "protocol is deliberately dropped; no calibrator client ships with it)") <|>
    refuse (li.calibrationHelper.any fun helper => helper != "")
      ("[libinput] calibration-helper is only consulted by touchscreen-calibrator, which is not " ++
       "supported by westonite") <|>
    refuse li.enableTapDeprecated.isSome
      ("[libinput] enable_tap is C's deprecated spelling and is not supported by westonite; " ++
       "spell it enable-tap")

def outputMessage (out : Output) (rest : String) : String :=
  "[[output]] '" ++ out.name.getD "<unnamed>" ++ "': " ++ rest

/-- Only the one head of the vnc backend mirrors, and not itself. -/
def rejectMirrorOf (settings : Settings) (out : Output) : Option String :=
  match out.mirrorOf with
  | none => none
  | some src =>
      refuse (!settings.backends.contains .vnc)
          (outputMessage out
            "mirror-of requires a remote backend (vnc) in the loaded backends") <|>
        refuse (out.name.getD "<unnamed>" != "vnc")
          (outputMessage out "mirror-of is supported on remote outputs only (the vnc head)") <|>
        refuse (src == out.name.getD "<unnamed>")
          (outputMessage out "mirror-of must name a different output")

def rejectOutput (settings : Settings) (out : Output) : Option String :=
  let hasDrm := settings.backends.contains .drm
  refuse (out.cloneOf.isSome && !hasDrm)
      (outputMessage out "clone-of applies to the drm backend only") <|>
    rejectMirrorOf settings out <|>
    refuse (out.maxBpc.isSome && !hasDrm)
      (outputMessage out "max-bpc applies to the drm backend only") <|>
    refuse (!hasDrm && (out.eotfMode.isSome || out.colorimetryMode.isSome ||
        out.colorCharacteristics.isSome))
      (outputMessage out
        "eotf-mode, colorimetry-mode and color-characteristics apply to the drm backend only") <|>
    refuse (out.iccProfile.isSome && !settings.colorManagement)
      (outputMessage out "icc-profile requires [core] color-management = true")

def rejectShell (cli : Cli) : Option String :=
  match cli.shell with
  | none => none
  | some shell =>
      refuse (shell != "desktop" && shell != "desktop-shell.so")
        ("unknown shell \"" ++ shell ++
          "\": the Rust frontend ships only the built-in desktop shell")

/-- The text of the first refusal, if there is one. -/
def rejectUnported (cli : Cli) (settings : Settings) : Option String :=
  refuse (settings.backends.contains .rdp)
      ("the rdp backend is not supported by westonite (deliberately dropped); use the vnc " ++
       "backend for remote access") <|>
    refuse (settings.config.remoteOutput.length != 0)
      ("[[remote-output]] is not supported by westonite (the remoting plugin is deliberately " ++
       "dropped); use the vnc backend for remote access") <|>
    refuse (settings.config.pipewireOutput.length != 0)
      ("[[pipewire-output]] is not supported by westonite (the pipewire virtual-output plugin " ++
       "is deliberately dropped); the pipewire *backend* (--backend=pipewire) is supported") <|>
    rejectPerBackendFlags cli settings <|>
    rejectUnconsumedFlags cli <|>
    rejectLibinput settings.config.libinput <|>
    refuse (settings.modules.length != 0)
      ("--modules / [core] modules is not supported by westonite (third-party plugin loading is " ++
       "deliberately dropped); the shell is built in") <|>
    settings.config.output.findSome? (rejectOutput settings) <|>
    rejectShell cli

/-! ### What passes the gate -/

theorem refuse_eq_none {wrong : Bool} {message : String} :
    refuse wrong message = none ↔ wrong = false := by
  cases wrong <;> simp [refuse]

theorem orElse_eq_none {first second : Option String} :
    (first <|> second) = none ↔ first = none ∧ second = none := by
  cases first with
  | none => simp
  | some message => simp

end Westonite.Frontend
