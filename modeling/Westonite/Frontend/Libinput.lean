import Westonite.Frontend.Gate
import Westonite.Library.Binary
import Westonite.Library.Fallible

/-! The `[libinput]` section on a device: the frontend reads it once, where C reads it
again for every device and passes over what it cannot use. -/

set_option autoImplicit false

namespace Westonite.Frontend

open Library Library.Binary
open Resolve (Libinput)

/-! ### Devices -/

/-- What a device can do. -/
structure Device where
  name : String
  tapFingerCount : Int
  dwtAvailable : Bool
  middleEmulationAvailable : Bool
  leftHandedAvailable : Bool
  rotationAvailable : Bool
  accelAvailable : Bool
  /-- The profiles of the device, by their bits. -/
  accelProfiles : Nat
  hasNaturalScroll : Bool
  scrollMethods : Nat
  deriving DecidableEq, Repr

inductive Setter where
  | tapEnabled (v : Bool)
  | tapDragEnabled (v : Bool)
  | tapDragLockEnabled (v : Bool)
  | dwtEnabled (v : Bool)
  | middleEmulationEnabled (v : Bool)
  | leftHanded (v : Bool)
  | rotationAngle (degrees : Nat)
  | accelProfile (profile : Nat)
  | accelSpeed (speed : F64)
  | naturalScroll (v : Bool)
  | scrollMethod (method : Nat)
  | scrollButton (code : Nat)
  deriving DecidableEq, Repr

/-- The key that a call is about. -/
def Setter.key : Setter → String
  | tapEnabled _ => "enable-tap"
  | tapDragEnabled _ => "tap-and-drag"
  | tapDragLockEnabled _ => "tap-and-drag-lock"
  | dwtEnabled _ => "disable-while-typing"
  | middleEmulationEnabled _ => "middle-button-emulation"
  | leftHanded _ => "left-handed"
  | rotationAngle _ => "rotation"
  | accelProfile _ => "accel-profile"
  | accelSpeed _ => "accel-speed"
  | naturalScroll _ => "natural-scroll"
  | scrollMethod _ => "scroll-method"
  | scrollButton _ => "scroll-button"

/-- What a configuration does: a line in the log, a call on the device. -/
inductive Effect where
  | log (line : String)
  | set (setter : Setter)
  deriving DecidableEq, Repr

def bstr (v : Bool) : String := if v then "true" else "false"

/-! ### The frontend -/

inductive AccelProfile where
  | flat
  | adaptive
  deriving DecidableEq, Repr

namespace AccelProfile

def names : List String := ["flat", "adaptive"]

def parse : String → Option AccelProfile
  | "flat" => some .flat
  | "adaptive" => some .adaptive
  | _ => none

def toC : AccelProfile → Nat
  | .flat => 1
  | .adaptive => 2

def name : AccelProfile → String
  | .flat => "flat"
  | .adaptive => "adaptive"

end AccelProfile

inductive ScrollMethod where
  | twoFinger
  | edge
  | button
  | none
  deriving DecidableEq, Repr

namespace ScrollMethod

def names : List String := ["two-finger", "edge", "button", "none"]

def parse : String → Option ScrollMethod
  | "two-finger" => some .twoFinger
  | "edge" => some .edge
  | "button" => some .button
  | "none" => some .none
  | _ => Option.none

def toC : ScrollMethod → Nat
  | .twoFinger => 1
  | .edge => 2
  | .button => 4
  | .none => 0

def name : ScrollMethod → String
  | .twoFinger => "two-finger"
  | .edge => "edge"
  | .button => "button"
  | .none => "none"

end ScrollMethod

/-- The name is kept for the log. -/
structure ScrollButton where
  name : String
  code : Nat
  deriving DecidableEq, Repr

structure InputConfig where
  enableTap : Option Bool
  tapAndDrag : Option Bool
  tapAndDragLock : Option Bool
  disableWhileTyping : Option Bool
  middleButtonEmulation : Option Bool
  leftHanded : Option Bool
  rotation : Option Nat
  accelProfile : Option AccelProfile
  accelSpeed : Option F64
  naturalScroll : Option Bool
  scrollMethod : Option ScrollMethod
  scrollButton : Option ScrollButton
  deriving DecidableEq, Repr

/-- `-1.0` -/
def minusOne : F64 := 0xbff0000000000000

/-- `1.0` -/
def plusOne : F64 := 0x3ff0000000000000

section

-- The codes of libevdev, negative for a name it does not know.
variable (evdev : String → Int)

/-- No name with a NUL reaches libevdev. -/
def ScrollButton.parse (name : String) : Option ScrollButton :=
  if name.toList.contains '\x00' then none
  else if 0 ≤ evdev name then some ⟨name, (evdev name).toNat⟩
  else none

-- The texts of a double, in full and to three places.
variable (display display3 : F64 → String)

def buildInputConfig (li : Libinput) : Except String InputConfig := do
  let accelProfile ← readName AccelProfile.parse (fun p => "[libinput] '" ++ p ++
    "' is not a valid accel-profile. Try one of: " ++ " ".intercalate AccelProfile.names)
    li.accelProfile
  ensure (li.accelSpeed.bind fun s =>
    refuse (!(F64.le minusOne s && F64.le s plusOne))
      ("[libinput] accel-speed " ++ display s ++ " is out of range (-1.0 to 1.0)"))
  let scrollMethod ← readName ScrollMethod.parse (fun m => "[libinput] '" ++ m ++
    "' is not a valid scroll-method. Try one of: " ++ " ".intercalate ScrollMethod.names)
    li.scrollMethod
  let scrollButton ← readName (ScrollButton.parse evdev) (fun b => "[libinput] '" ++ b ++
    "' is not an evdev button name (e.g. BTN_RIGHT)") li.scrollButton
  ensure (refuse (scrollButton.isSome && scrollMethod != some .button)
    "[libinput] scroll-button only applies with scroll-method = \"button\"")
  return {
    enableTap := li.enableTap, tapAndDrag := li.tapAndDrag, tapAndDragLock := li.tapAndDragLock,
    disableWhileTyping := li.disableWhileTyping, middleButtonEmulation := li.middleButtonEmulation,
    leftHanded := li.leftHanded, rotation := li.rotation, accelProfile,
    accelSpeed := li.accelSpeed, naturalScroll := li.naturalScroll, scrollMethod, scrollButton }

/-- A value that is given, on a device that can take it. -/
def setting {Value : Type} (able : Bool) (given : Option Value) (line : Value → String)
    (setter : Value → Setter) : List Effect :=
  match given with
  | some v => if able then [.log (line v), .set (setter v)] else []
  | none => []

def applyAccel (dev : Device) (cfg : InputConfig) : List Effect :=
  (match cfg.accelProfile with
    | some profile =>
        if profile.toC &&& dev.accelProfiles ≠ 0 then
          [.log ("          accel-profile=" ++ profile.name), .set (.accelProfile profile.toC)]
        else []
    | none => []) ++
  setting true cfg.accelSpeed (fun speed => "          accel-speed=" ++ display3 speed) .accelSpeed

def applyScroll (dev : Device) (cfg : InputConfig) : List Effect :=
  setting dev.hasNaturalScroll cfg.naturalScroll (fun v => "          natural-scroll=" ++ bstr v)
    .naturalScroll ++
  match cfg.scrollMethod with
  | none => []
  | some method =>
      if method ≠ .none ∧ method.toC &&& dev.scrollMethods = 0 then []
      else
        [.log ("          scroll-method=" ++ method.name), .set (.scrollMethod method.toC)] ++
        match method, cfg.scrollButton with
        | .button, some button =>
            [.log ("          scroll-button=" ++ button.name), .set (.scrollButton button.code)]
        | _, _ => []

/-- `apply`; some of C's lines end with a period. -/
def apply (dev : Device) (cfg : InputConfig) : List Effect :=
  .log ("libinput: configuring device \"" ++ dev.name ++ "\".") ::
  ((if dev.tapFingerCount > 0 then
      setting true cfg.enableTap (fun v => "          enable-tap=" ++ bstr v ++ ".") .tapEnabled ++
      setting true cfg.tapAndDrag (fun v => "          tap-and-drag=" ++ bstr v ++ ".")
        .tapDragEnabled ++
      setting true cfg.tapAndDragLock (fun v => "          tap-and-drag-lock=" ++ bstr v ++ ".")
        .tapDragLockEnabled
    else []) ++
  setting dev.dwtAvailable cfg.disableWhileTyping
    (fun v => "          disable-while-typing=" ++ bstr v ++ ".") .dwtEnabled ++
  setting dev.middleEmulationAvailable cfg.middleButtonEmulation
    (fun v => "          middle-button-emulation=" ++ bstr v) .middleEmulationEnabled ++
  setting dev.leftHandedAvailable cfg.leftHanded (fun v => "          left-handed=" ++ bstr v)
    .leftHanded ++
  setting dev.rotationAvailable cfg.rotation (fun v => "          rotation=" ++ toString v)
    .rotationAngle ++
  (if dev.accelAvailable then applyAccel display3 dev cfg else []) ++
  applyScroll dev cfg)

/-! ### C -/

/-- A section of the ini file, by what each key reads as. -/
structure InputSection where
  getBool : String → Option Bool
  getUint : String → Option Nat
  getDouble : String → Option F64
  getString : String → Option String

/-- The comparisons of `configure_input_device_accel`. -/
def profileOf (profileString : String) : Option Nat :=
  if profileString = "flat" then some 1
  else if profileString = "adaptive" then some 2
  else none

def configureInputDeviceAccel (s : InputSection) (device : Device) : List Effect :=
  (match s.getString "accel-profile" with
    | none => []
    | some profileString =>
        match profileOf profileString with
        | none => [.log ("warning: no such accel-profile: " ++ profileString)]
        | some profile =>
            if profile &&& device.accelProfiles ≠ 0 then
              [.log ("          accel-profile=" ++ profileString), .set (.accelProfile profile)]
            else []) ++
  match s.getDouble "accel-speed" with
  | some speed =>
      if F64.le minusOne speed && F64.le speed plusOne then
        [.log ("          accel-speed=" ++ display3 speed), .set (.accelSpeed speed)]
      else []
  | none => []

/-- The comparisons of `configure_input_device_scroll`. -/
def methodOf (methodString : String) : Option Nat :=
  if methodString = "two-finger" then some 1
  else if methodString = "edge" then some 2
  else if methodString = "button" then some 4
  else if methodString = "none" then some 0
  else none

/-- The button of the `button` method. -/
def configureScrollButton (s : InputSection) : List Effect :=
  match s.getString "scroll-button" with
  | none => []
  | some buttonString =>
      let button := evdev buttonString
      if button = -1 then [.log ("          Bad scroll-button: " ++ buttonString)]
      else
        [.log ("          scroll-button=" ++ buttonString), .set (.scrollButton button.toNat)]

def configureInputDeviceScroll (s : InputSection) (device : Device) : List Effect :=
  (if device.hasNaturalScroll then
      match s.getBool "natural-scroll" with
      | some natural =>
          [.log ("          natural-scroll=" ++ bstr natural), .set (.naturalScroll natural)]
      | none => []
    else []) ++
  match s.getString "scroll-method" with
  | none => []
  | some methodString =>
      match methodOf methodString with
      | none => [.log ("warning: no such scroll-method: " ++ methodString)]
      | some method =>
          if method ≠ 0 ∧ method &&& device.scrollMethods = 0 then []
          else
            [.log ("          scroll-method=" ++ methodString), .set (.scrollMethod method)] ++
            if method = 4 then configureScrollButton evdev s else []

/-- The second reading of the switch writes its default over the first one. -/
def configureTap (s : InputSection) : List Effect :=
  let deprecated := s.getBool "enable_tap"
  let enableTap := s.getBool "enable-tap"
  (if deprecated.isSome then
      [.log ("!!DEPRECATION WARNING!!: In weston.ini, enable_tap is deprecated in favour of " ++
        "enable-tap. Support for it may be removed at any time!")]
    else []) ++
  (if deprecated.isSome || enableTap.isSome then
      [.log ("          enable-tap=" ++ bstr (enableTap.getD false) ++ "."),
        .set (.tapEnabled (enableTap.getD false))]
    else [])

/-- A switch of the section on a device that has it. -/
def configureSwitch (s : InputSection) (able : Bool) (key line period : String)
    (setter : Bool → Setter) : List Effect :=
  if able then
    match s.getBool key with
    | some v => [.log (line ++ bstr v ++ period), .set (setter v)]
    | none => []
  else []

def configureInputDevice (s : InputSection) (device : Device) : List Effect :=
  .log ("libinput: configuring device \"" ++ device.name ++ "\".") ::
  ((if device.tapFingerCount > 0 then
      configureTap s ++
      configureSwitch s true "tap-and-drag" "          tap-and-drag=" "." .tapDragEnabled ++
      configureSwitch s true "tap-and-drag-lock" "          tap-and-drag-lock=" "."
        .tapDragLockEnabled
    else []) ++
  configureSwitch s device.dwtAvailable "disable-while-typing"
    "          disable-while-typing=" "." .dwtEnabled ++
  configureSwitch s device.middleEmulationAvailable "middle-button-emulation"
    "          middle-button-emulation=" "" .middleEmulationEnabled ++
  configureSwitch s device.leftHandedAvailable "left-handed" "          left-handed=" ""
    .leftHanded ++
  (if device.rotationAvailable then
      match s.getUint "rotation" with
      | some rotation =>
          [.log ("          rotation=" ++ toString rotation), .set (.rotationAngle rotation)]
      | none => []
    else []) ++
  (if device.accelAvailable then configureInputDeviceAccel display3 s device else []) ++
  configureInputDeviceScroll evdev s device)

end

/-- The section in the ini file. -/
def iniSection (li : Libinput) : InputSection where
  getBool
    | "enable_tap" => li.enableTapDeprecated
    | "enable-tap" => li.enableTap
    | "tap-and-drag" => li.tapAndDrag
    | "tap-and-drag-lock" => li.tapAndDragLock
    | "disable-while-typing" => li.disableWhileTyping
    | "middle-button-emulation" => li.middleButtonEmulation
    | "left-handed" => li.leftHanded
    | "natural-scroll" => li.naturalScroll
    | _ => none
  getUint
    | "rotation" => li.rotation
    | _ => none
  getDouble
    | "accel-speed" => li.accelSpeed
    | _ => none
  getString
    | "accel-profile" => li.accelProfile
    | "scroll-method" => li.scrollMethod
    | "scroll-button" => li.scrollButton
    | _ => none

/-! ### What the frontend accepts -/

theorem AccelProfile.parse_eq_some {text : String} {profile : AccelProfile} :
    parse text = some profile ↔ text = profile.name := by
  constructor
  · intro read
    unfold parse at read
    split at read
    · cases read
      rfl
    · cases read
      rfl
    · cases read
  · intro same
    rw [same]
    cases profile <;> rfl

theorem ScrollMethod.parse_eq_some {text : String} {method : ScrollMethod} :
    parse text = some method ↔ text = method.name := by
  constructor
  · intro read
    unfold parse at read
    split at read
    · cases read
      rfl
    · cases read
      rfl
    · cases read
      rfl
    · cases read
      rfl
    · cases read
  · intro same
    rw [same]
    cases method <;> rfl

theorem ScrollButton.parse_eq_some {evdev : String → Int} {text : String} {button : ScrollButton} :
    ScrollButton.parse evdev text = some button ↔
      '\x00' ∉ text.toList ∧ 0 ≤ evdev text ∧ button = ⟨text, (evdev text).toNat⟩ := by
  unfold ScrollButton.parse
  split
  · rename_i nul
    simp only [reduceCtorEq, false_iff, not_and]
    intro clear
    exact absurd (by simpa using nul) clear
  · rename_i clear
    split
    · rename_i known
      simp only [Option.some.injEq]
      constructor
      · intro same
        exact ⟨by simpa using clear, known, same.symm⟩
      · intro all
        exact all.2.2.symm
    · rename_i unknown
      simp only [reduceCtorEq, false_iff, not_and]
      intro _ known
      exact absurd known unknown

/-- The section, read. -/
structure InputBuilt (evdev : String → Int) (li : Libinput) (cfg : InputConfig) : Prop where
  enableTap : cfg.enableTap = li.enableTap
  tapAndDrag : cfg.tapAndDrag = li.tapAndDrag
  tapAndDragLock : cfg.tapAndDragLock = li.tapAndDragLock
  disableWhileTyping : cfg.disableWhileTyping = li.disableWhileTyping
  middleButtonEmulation : cfg.middleButtonEmulation = li.middleButtonEmulation
  leftHanded : cfg.leftHanded = li.leftHanded
  rotation : cfg.rotation = li.rotation
  accelProfile : Named AccelProfile.parse li.accelProfile cfg.accelProfile
  accelSpeed : cfg.accelSpeed = li.accelSpeed
  speedRange : ∀ s, li.accelSpeed = some s → F64.le minusOne s = true ∧ F64.le s plusOne = true
  naturalScroll : cfg.naturalScroll = li.naturalScroll
  scrollMethod : Named ScrollMethod.parse li.scrollMethod cfg.scrollMethod
  scrollButton : Named (ScrollButton.parse evdev) li.scrollButton cfg.scrollButton
  buttonMethod : cfg.scrollButton.isSome = true → cfg.scrollMethod = some .button

private theorem speed_checked {display : F64 → String} {speed : Option F64} :
    (speed.bind fun s => refuse (!(F64.le minusOne s && F64.le s plusOne))
      ("[libinput] accel-speed " ++ display s ++ " is out of range (-1.0 to 1.0)")) = none ↔
      ∀ s, speed = some s → F64.le minusOne s = true ∧ F64.le s plusOne = true := by
  cases speed with
  | none => simp
  | some s => simp [refuse_eq_none]

private theorem buildInputConfig_eq_ok {evdev : String → Int} {display : F64 → String}
    {li : Libinput}
    {cfg : InputConfig} :
    buildInputConfig evdev display li = .ok cfg ↔ InputBuilt evdev li cfg := by
  unfold buildInputConfig
  constructor
  · intro built
    obtain ⟨accelProfile, profile, built⟩ := bind_eq_ok.mp built
    obtain ⟨_, speed, built⟩ := bind_eq_ok.mp built
    obtain ⟨scrollMethod, method, built⟩ := bind_eq_ok.mp built
    obtain ⟨scrollButton, button, built⟩ := bind_eq_ok.mp built
    obtain ⟨_, paired, last⟩ := bind_eq_ok.mp built
    have together := refuse_eq_none.mp (ensure_eq_ok.mp paired)
    cases last
    exact
      { enableTap := rfl
        tapAndDrag := rfl
        tapAndDragLock := rfl
        disableWhileTyping := rfl
        middleButtonEmulation := rfl
        leftHanded := rfl
        rotation := rfl
        accelProfile := readName_eq_ok.mp profile
        accelSpeed := rfl
        speedRange := speed_checked.mp (ensure_eq_ok.mp speed)
        naturalScroll := rfl
        scrollMethod := readName_eq_ok.mp method
        scrollButton := readName_eq_ok.mp button
        buttonMethod := fun given => by
          rw [given, Bool.true_and, bne_eq_false_iff_eq] at together
          exact together }
  · intro built
    have paired : (cfg.scrollButton.isSome && cfg.scrollMethod != some .button) = false := by
      cases given : cfg.scrollButton.isSome with
      | false => rfl
      | true => simp [built.buttonMethod given]
    refine bind_eq_ok.mpr ⟨_, readName_eq_ok.mpr built.accelProfile, ?_⟩
    refine bind_eq_ok.mpr ⟨(), ensure_eq_ok.mpr (speed_checked.mpr built.speedRange), ?_⟩
    refine bind_eq_ok.mpr ⟨_, readName_eq_ok.mpr built.scrollMethod, ?_⟩
    refine bind_eq_ok.mpr ⟨_, readName_eq_ok.mpr built.scrollButton, ?_⟩
    refine bind_eq_ok.mpr ⟨(), ensure_eq_ok.mpr (refuse_eq_none.mpr paired), ?_⟩
    rw [← built.enableTap, ← built.tapAndDrag, ← built.tapAndDragLock, ← built.disableWhileTyping,
      ← built.middleButtonEmulation, ← built.leftHanded, ← built.rotation, ← built.accelSpeed,
      ← built.naturalScroll]
    rfl

/-! ### The same on every device -/

private theorem profileOf_name (profile : AccelProfile) :
    profileOf profile.name = some profile.toC := by
  cases profile <;> rfl

private theorem methodOf_name (method : ScrollMethod) : methodOf method.name = some method.toC := by
  cases method <;> rfl

private theorem ScrollMethod.toC_ne_zero (method : ScrollMethod) :
    method.toC ≠ 0 ↔ method ≠ .none := by
  cases method <;> decide

private theorem ScrollMethod.toC_eq_four (method : ScrollMethod) :
    method.toC = 4 ↔ method = .button := by
  cases method <;> decide

private theorem configureSwitch_eq (s : InputSection) (able : Bool) (key line period : String)
    (setter : Bool → Setter) :
    configureSwitch s able key line period setter =
      setting able (s.getBool key) (fun v => line ++ bstr v ++ period) setter := by
  unfold configureSwitch setting
  cases s.getBool key <;> cases able <;> rfl

private theorem applyAccel_eq {evdev : String → Int} {display3 : F64 → String} {li : Libinput}
    {cfg : InputConfig} (built : InputBuilt evdev li cfg) (device : Device) :
    applyAccel display3 device cfg =
      configureInputDeviceAccel display3 (iniSection li) device := by
  unfold applyAccel configureInputDeviceAccel
  congr 1
  · cases built.accelProfile with
    | inl absent =>
        have key : (iniSection li).getString "accel-profile" = none := absent.1
        rw [absent.2, key]
    | inr given =>
        obtain ⟨text, profile, there, read, known⟩ := given
        have key : (iniSection li).getString "accel-profile" = some text := there
        rw [read, key, AccelProfile.parse_eq_some.mp known]
        dsimp only
        rw [profileOf_name]
  · have key : (iniSection li).getDouble "accel-speed" = li.accelSpeed := rfl
    rw [key, built.accelSpeed]
    cases speed : li.accelSpeed with
    | none => rfl
    | some s =>
        obtain ⟨low, high⟩ := built.speedRange s speed
        simp [setting, low, high]

private theorem scrollButton_eq {evdev : String → Int} {li : Libinput} {cfg : InputConfig}
    (built : InputBuilt evdev li cfg) :
    (match cfg.scrollButton with
      | some button =>
          [Effect.log ("          scroll-button=" ++ button.name), .set (.scrollButton button.code)]
      | none => []) = configureScrollButton evdev (iniSection li) := by
  have key : (iniSection li).getString "scroll-button" = li.scrollButton := rfl
  unfold configureScrollButton
  rw [key]
  cases built.scrollButton with
  | inl absent => rw [absent.1, absent.2]
  | inr pressed =>
      obtain ⟨name, code, named, found, is⟩ := pressed
      obtain ⟨_, positive, rfl⟩ := ScrollButton.parse_eq_some.mp is
      have listed : evdev name ≠ -1 := by omega
      rw [named, found]
      dsimp only
      rw [if_neg listed]

private theorem applyScroll_eq {evdev : String → Int} {li : Libinput} {cfg : InputConfig}
    (built : InputBuilt evdev li cfg) (device : Device) :
    applyScroll device cfg = configureInputDeviceScroll evdev (iniSection li) device := by
  unfold applyScroll configureInputDeviceScroll
  congr 1
  · have key : (iniSection li).getBool "natural-scroll" = li.naturalScroll := rfl
    rw [key, built.naturalScroll]
    cases li.naturalScroll <;> cases device.hasNaturalScroll <;> rfl
  · cases built.scrollMethod with
    | inl absent =>
        have key : (iniSection li).getString "scroll-method" = none := absent.1
        rw [absent.2, key]
    | inr given =>
        obtain ⟨text, method, there, read, known⟩ := given
        have key : (iniSection li).getString "scroll-method" = some text := there
        rw [read, key, ScrollMethod.parse_eq_some.mp known]
        dsimp only
        rw [methodOf_name]
        simp only [ScrollMethod.toC_ne_zero, ScrollMethod.toC_eq_four]
        congr 2
        by_cases button : method = .button
        · rw [if_pos button, button, ← scrollButton_eq built]
          cases cfg.scrollButton <;> rfl
        · rw [if_neg button]
          cases method with
          | button => exact absurd rfl button
          | twoFinger => rfl
          | edge => rfl
          | none => rfl

/-- On every device an accepted section does what it does in C: the same lines, the same
calls, in the same order. -/
theorem apply_eq_configureInputDevice {evdev : String → Int} {display display3 : F64 → String}
    {li : Libinput} {cfg : InputConfig} (built : buildInputConfig evdev display li = .ok cfg)
    (dashed : li.enableTapDeprecated = none) (device : Device) :
    apply display3 device cfg = configureInputDevice evdev display3 (iniSection li) device := by
  have fields := buildInputConfig_eq_ok.mp built
  have tap : configureTap (iniSection li) =
      setting true cfg.enableTap (fun v => "          enable-tap=" ++ bstr v ++ ".")
        .tapEnabled := by
    have deprecated : (iniSection li).getBool "enable_tap" = none := dashed
    have enableTap : (iniSection li).getBool "enable-tap" = li.enableTap := rfl
    unfold configureTap
    rw [deprecated, enableTap, fields.enableTap]
    cases li.enableTap <;> rfl
  have rotation : (iniSection li).getUint "rotation" = cfg.rotation := fields.rotation.symm
  have tapAndDrag : (iniSection li).getBool "tap-and-drag" = cfg.tapAndDrag :=
    fields.tapAndDrag.symm
  have tapAndDragLock : (iniSection li).getBool "tap-and-drag-lock" = cfg.tapAndDragLock :=
    fields.tapAndDragLock.symm
  have typing : (iniSection li).getBool "disable-while-typing" = cfg.disableWhileTyping :=
    fields.disableWhileTyping.symm
  have middle : (iniSection li).getBool "middle-button-emulation" = cfg.middleButtonEmulation :=
    fields.middleButtonEmulation.symm
  have leftHanded : (iniSection li).getBool "left-handed" = cfg.leftHanded :=
    fields.leftHanded.symm
  have turned : (if device.rotationAvailable then
      match cfg.rotation with
      | some rotation => [Effect.log ("          rotation=" ++ toString rotation),
          .set (.rotationAngle rotation)]
      | none => []
      else []) = setting device.rotationAvailable cfg.rotation
        (fun v => "          rotation=" ++ toString v) .rotationAngle := by
    cases cfg.rotation <;> cases device.rotationAvailable <;> rfl
  unfold apply configureInputDevice
  rw [tap, rotation, turned, applyAccel_eq fields, applyScroll_eq fields]
  simp only [configureSwitch_eq, tapAndDrag, tapAndDragLock, typing, middle, leftHanded,
    String.append_empty]

/-- The codes of a few names. -/
def someButtons (name : String) : Int :=
  if name = "BTN_LEFT" then 0x110 else if name = "BTN_RIGHT" then 0x111 else -1

/-- Scrolling while the right button is held. -/
def buttonScroll : Libinput :=
  { scrollMethod := some "button", scrollButton := some "BTN_RIGHT", enableTap := some true }

/-- A mouse that scrolls on a button and does not tap. -/
def mouse : Device where
  name := "mouse"
  tapFingerCount := 0
  dwtAvailable := false
  middleEmulationAvailable := true
  leftHandedAvailable := true
  rotationAvailable := false
  accelAvailable := true
  accelProfiles := 3
  hasNaturalScroll := true
  scrollMethods := 4

theorem apply_eq_configureInputDevice_mouse :
    ∃ cfg, buildInputConfig someButtons (fun _ => "") buttonScroll = .ok cfg ∧
      (apply (fun _ => "") mouse cfg).tail =
        [.log "          scroll-method=button", .set (.scrollMethod 4),
          .log "          scroll-button=BTN_RIGHT", .set (.scrollButton 0x111)] ∧
      apply (fun _ => "") mouse cfg =
        configureInputDevice someButtons (fun _ => "") (iniSection buttonScroll) mouse := by
  refine ⟨_, rfl, rfl, ?_⟩
  exact @apply_eq_configureInputDevice someButtons (fun _ => "") _ _ _ rfl rfl mouse

/-! ### No key without effect -/

/-- A device with everything that the section is about. -/
def ableDevice : Device where
  name := "able"
  tapFingerCount := 2
  dwtAvailable := true
  middleEmulationAvailable := true
  leftHandedAvailable := true
  rotationAvailable := true
  accelAvailable := true
  accelProfiles := 3
  hasNaturalScroll := true
  scrollMethods := 7

/-- A key that is there under a condition. -/
def keyIf (there : Bool) (key : String) : List String := if there then [key] else []

/-- The keys of the section that are given, of those that a device is configured by. -/
def requested (li : Libinput) : List String :=
  [("enable-tap", li.enableTap.isSome), ("tap-and-drag", li.tapAndDrag.isSome),
    ("tap-and-drag-lock", li.tapAndDragLock.isSome),
    ("disable-while-typing", li.disableWhileTyping.isSome),
    ("middle-button-emulation", li.middleButtonEmulation.isSome),
    ("left-handed", li.leftHanded.isSome), ("rotation", li.rotation.isSome),
    ("accel-profile", li.accelProfile.isSome), ("accel-speed", li.accelSpeed.isSome),
    ("natural-scroll", li.naturalScroll.isSome), ("scroll-method", li.scrollMethod.isSome),
    ("scroll-button", li.scrollButton.isSome)].flatMap fun entry => keyIf entry.2 entry.1

/-- The section asks for nothing that the frontend drops on purpose: neither for the
touch calibration nor in C's old spelling. -/
structure NothingDropped (li : Libinput) : Prop where
  touchscreenCalibrator : li.touchscreenCalibrator ≠ some true
  calibrationHelper : ∀ helper, li.calibrationHelper = some helper → helper = ""
  enableTap : li.enableTapDeprecated = none

private theorem rejectLibinput_eq_none {li : Libinput} :
    rejectLibinput li = none ↔ NothingDropped li := by
  unfold rejectLibinput
  simp only [orElse_eq_none, refuse_eq_none]
  constructor
  · intro passed
    obtain ⟨calibrator, helper, dashed⟩ := passed
    refine ⟨fun asked => ?_, fun text given => ?_, ?_⟩
    · rw [asked, Option.getD_some] at calibrator
      cases calibrator
    · rw [given] at helper
      simpa using helper
    · simpa using dashed
  · intro nothing
    refine ⟨?_, ?_, ?_⟩
    · cases asked : li.touchscreenCalibrator with
      | none => rfl
      | some value =>
          cases value with
          | false => rfl
          | true => exact absurd asked nothing.touchscreenCalibrator
    · cases given : li.calibrationHelper with
      | none => rfl
      | some text => simp [nothing.calibrationHelper text given]
    · rw [nothing.enableTap]
      rfl

/-- The keys of the calls. -/
def keysOf (trace : List Effect) : List String :=
  trace.filterMap fun effect =>
    match effect with
    | .set setter => some setter.key
    | .log _ => none

/-- The conditions on the values whose key C may pass over. -/
structure Usable (evdev : String → Int) (li : Libinput) : Prop where
  profile : ∀ text, li.accelProfile = some text → (profileOf text).isSome = true
  speed : ∀ s, li.accelSpeed = some s → F64.le minusOne s = true ∧ F64.le s plusOne = true
  method : ∀ text, li.scrollMethod = some text → (methodOf text).isSome = true
  button : ∀ text, li.scrollButton = some text →
    li.scrollMethod.bind methodOf = some 4 ∧ evdev text ≠ -1

private theorem profileOf_isSome {text : String} :
    (profileOf text).isSome = true ↔ ∃ profile, AccelProfile.parse text = some profile := by
  simp only [AccelProfile.parse_eq_some]
  constructor
  · intro known
    unfold profileOf at known
    split at known
    · exact ⟨.flat, ‹_›⟩
    · split at known
      · exact ⟨.adaptive, ‹_›⟩
      · cases known
  · intro known
    obtain ⟨profile, rfl⟩ := known
    rw [profileOf_name]
    rfl

private theorem methodOf_isSome {text : String} :
    (methodOf text).isSome = true ↔ ∃ method, ScrollMethod.parse text = some method := by
  simp only [ScrollMethod.parse_eq_some]
  constructor
  · intro known
    unfold methodOf at known
    split at known
    · exact ⟨.twoFinger, ‹_›⟩
    · split at known
      · exact ⟨.edge, ‹_›⟩
      · split at known
        · exact ⟨.button, ‹_›⟩
        · split at known
          · exact ⟨.none, ‹_›⟩
          · cases known
  · intro known
    obtain ⟨method, rfl⟩ := known
    rw [methodOf_name]
    rfl

private theorem named_of {Value : Type} {parse : String → Option Value} (text : Option String)
    (known : ∀ name, text = some name → ∃ value, parse name = some value) :
    Named parse text (text.bind parse) := by
  cases text with
  | none => exact .inl ⟨rfl, rfl⟩
  | some name =>
      obtain ⟨value, is⟩ := known name rfl
      exact .inr ⟨name, value, rfl, is, is⟩

theorem Named.known {Value : Type} {parse : String → Option Value} {text : Option String}
    {value : Option Value} (named : Named parse text value) {name : String}
    (given : text = some name) : ∃ found, value = some found ∧ parse name = some found := by
  cases named with
  | inl absent => exact absurd (given.symm.trans absent.1) (Option.some_ne_none name)
  | inr is =>
      obtain ⟨other, found, there, read, parsed⟩ := is
      obtain rfl := Option.some.inj (given.symm.trans there)
      exact ⟨found, read, parsed⟩

private theorem methodOf_button {text : String} :
    methodOf text = some 4 ↔ ScrollMethod.parse text = some .button := by
  rw [ScrollMethod.parse_eq_some]
  constructor
  · intro four
    obtain ⟨method, is⟩ := methodOf_isSome.mp (by rw [four]; rfl)
    obtain rfl := ScrollMethod.parse_eq_some.mp is
    rw [methodOf_name, Option.some.injEq, ScrollMethod.toC_eq_four] at four
    rw [four]
  · intro button
    rw [button]
    rfl

/-- The frontend accepts what is usable. -/
private theorem buildInputConfig_usable {evdev : String → Int} {display : F64 → String}
    {li : Libinput}
    (codes : ∀ name, evdev name = -1 ∨ 0 ≤ evdev name)
    (clear : ∀ text, li.scrollButton = some text → '\x00' ∉ text.toList) :
    (∃ cfg, buildInputConfig evdev display li = .ok cfg) ↔ Usable evdev li := by
  simp only [buildInputConfig_eq_ok]
  constructor
  · intro accepted
    obtain ⟨cfg, built⟩ := accepted
    refine ⟨fun text given => ?_, built.speedRange, fun text given => ?_, fun text given => ?_⟩
    · obtain ⟨profile, _, is⟩ := Named.known built.accelProfile given
      exact profileOf_isSome.mpr ⟨profile, is⟩
    · obtain ⟨method, _, is⟩ := Named.known built.scrollMethod given
      exact methodOf_isSome.mpr ⟨method, is⟩
    · obtain ⟨button, read, is⟩ := Named.known built.scrollButton given
      have pressed := built.buttonMethod (by rw [read]; rfl)
      obtain ⟨_, known, _⟩ := ScrollButton.parse_eq_some.mp is
      cases method : built.scrollMethod with
      | inl absent => exact absurd (pressed.symm.trans absent.2) (Option.some_ne_none _)
      | inr named =>
          obtain ⟨name, found, there, same, parsed⟩ := named
          obtain rfl := Option.some.inj (pressed.symm.trans same)
          exact ⟨by rw [there]; exact methodOf_button.mpr parsed, by omega⟩
  · intro usable
    have profile := named_of li.accelProfile fun name given =>
      profileOf_isSome.mp (usable.profile name given)
    have method := named_of li.scrollMethod fun name given =>
      methodOf_isSome.mp (usable.method name given)
    have button : Named (ScrollButton.parse evdev) li.scrollButton
        (li.scrollButton.bind (ScrollButton.parse evdev)) := by
      refine named_of li.scrollButton fun name given => ⟨_, ScrollButton.parse_eq_some.mpr
        ⟨clear name given, ?_, rfl⟩⟩
      have listed := (usable.button name given).2
      have code := codes name
      omega
    refine ⟨⟨_, _, _, _, _, _, _, _, _, _, _, _⟩, rfl, rfl, rfl, rfl, rfl, rfl, rfl, profile, rfl,
      usable.speed, rfl, method, button, fun pressed => ?_⟩
    obtain ⟨found, is⟩ := Option.isSome_iff_exists.mp pressed
    obtain ⟨name, given, _⟩ := Option.bind_eq_some_iff.mp is
    obtain ⟨text, there, four⟩ := Option.bind_eq_some_iff.mp (usable.button name given).1
    rw [there]
    exact methodOf_button.mp four

/-! ### What C calls on an able device -/

private theorem mem_keyIf {there : Bool} {key other : String} :
    other ∈ keyIf there key ↔ there = true ∧ other = key := by
  cases there <;> simp [keyIf]

private theorem keysOf_append (first second : List Effect) :
    keysOf (first ++ second) = keysOf first ++ keysOf second := List.filterMap_append

private theorem keysOf_switch (s : InputSection) {able : Bool} (on : able = true) (key : String)
    (setter : Bool → Setter) (about : ∀ v, (setter v).key = key) {line period : String} :
    keysOf (configureSwitch s able key line period setter) =
      keyIf (s.getBool key).isSome key := by
  unfold configureSwitch
  rw [if_pos on]
  cases s.getBool key with
  | none => rfl
  | some v => simp [keysOf, keyIf, about]

private theorem keysOf_tap {s : InputSection} (dashed : s.getBool "enable_tap" = none) :
    keysOf (configureTap s) = keyIf (s.getBool "enable-tap").isSome "enable-tap" := by
  unfold configureTap
  rw [dashed]
  cases s.getBool "enable-tap" <;> rfl

private theorem profileOf_able {text : String} {profile : Nat}
    (is : profileOf text = some profile) :
    profile &&& 3 ≠ 0 := by
  obtain ⟨found, parsed⟩ := profileOf_isSome.mp (by rw [is]; rfl)
  obtain rfl := AccelProfile.parse_eq_some.mp parsed
  rw [profileOf_name, Option.some.injEq] at is
  rw [← is]
  cases found <;> decide

private theorem methodOf_able {text : String} {method : Nat} (is : methodOf text = some method) :
    ¬ (method ≠ 0 ∧ method &&& 7 = 0) := by
  obtain ⟨found, parsed⟩ := methodOf_isSome.mp (by rw [is]; rfl)
  obtain rfl := ScrollMethod.parse_eq_some.mp parsed
  rw [methodOf_name, Option.some.injEq] at is
  rw [← is]
  cases found <;> decide

private theorem keysOf_accel {display3 : F64 → String} {li : Libinput} :
    keysOf (configureInputDeviceAccel display3 (iniSection li) ableDevice) =
      keyIf (li.accelProfile.bind profileOf).isSome "accel-profile" ++
        keyIf (li.accelSpeed.any fun s => F64.le minusOne s && F64.le s plusOne) "accel-speed" := by
  have profile : (iniSection li).getString "accel-profile" = li.accelProfile := rfl
  have speed : (iniSection li).getDouble "accel-speed" = li.accelSpeed := rfl
  unfold configureInputDeviceAccel
  rw [keysOf_append, profile, speed]
  congr 1
  · cases given : li.accelProfile with
    | none => rfl
    | some text =>
        cases known : profileOf text with
        | none => simp [known, keysOf, keyIf]
        | some profile =>
            have bits : profile &&& ableDevice.accelProfiles ≠ 0 := profileOf_able known
            simp [known, keysOf, keyIf, bits, Setter.key]
  · cases given : li.accelSpeed with
    | none => rfl
    | some s =>
        cases inside : F64.le minusOne s && F64.le s plusOne with
        | false => simp [inside, keysOf, keyIf]
        | true => simp [inside, keysOf, keyIf, Setter.key]

/-- Whether C comes to the button and knows it. -/
def pressed (evdev : String → Int) (li : Libinput) : Bool :=
  li.scrollMethod.bind methodOf == some 4 && li.scrollButton.any fun text => evdev text != -1

private theorem keysOf_scroll {evdev : String → Int} {li : Libinput} :
    keysOf (configureInputDeviceScroll evdev (iniSection li) ableDevice) =
      keyIf li.naturalScroll.isSome "natural-scroll" ++
        (keyIf (li.scrollMethod.bind methodOf).isSome "scroll-method" ++
          keyIf (pressed evdev li) "scroll-button") := by
  have natural : (iniSection li).getBool "natural-scroll" = li.naturalScroll := rfl
  have method : (iniSection li).getString "scroll-method" = li.scrollMethod := rfl
  have button : (iniSection li).getString "scroll-button" = li.scrollButton := rfl
  unfold configureInputDeviceScroll
  rw [keysOf_append, natural, method]
  congr 1
  · cases li.naturalScroll <;> rfl
  · cases given : li.scrollMethod with
    | none => simp [keysOf, keyIf, pressed, given]
    | some text =>
        cases known : methodOf text with
        | none => simp [known, keysOf, keyIf, pressed, given]
        | some method =>
            have bits : ¬ (method ≠ 0 ∧ method &&& ableDevice.scrollMethods = 0) :=
              methodOf_able known
            dsimp only
            rw [known]
            dsimp only
            rw [if_neg bits, keysOf_append]
            by_cases four : method = 4
            · rw [if_pos four]
              unfold configureScrollButton
              rw [button]
              cases named : li.scrollButton with
              | none => simp [keysOf, keyIf, pressed, given, known, named, Setter.key]
              | some name =>
                  by_cases listed : evdev name = -1
                  · simp [keysOf, keyIf, pressed, given, known, named, Setter.key, listed]
                  · simp [keysOf, keyIf, pressed, given, known, named, Setter.key, listed, four]
            · rw [if_neg four]
              simp [keysOf, keyIf, pressed, given, known, Setter.key, four]

private theorem keysOf_rotation {s : InputSection} :
    keysOf (match s.getUint "rotation" with
      | some rotation => [.log ("          rotation=" ++ toString rotation),
          .set (.rotationAngle rotation)]
      | none => []) = keyIf (s.getUint "rotation").isSome "rotation" := by
  cases s.getUint "rotation" <;> rfl

/-- C makes a call for every key that is given exactly when the section is usable. -/
private theorem configureInputDevice_usable {evdev : String → Int} {display3 : F64 → String}
    {li : Libinput} (dashed : li.enableTapDeprecated = none) :
    (∀ key ∈ requested li,
      key ∈ keysOf (configureInputDevice evdev display3 (iniSection li) ableDevice)) ↔
      Usable evdev li := by
  have tap := keysOf_tap (s := iniSection li) dashed
  have keys : keysOf (configureInputDevice evdev display3 (iniSection li) ableDevice) =
      keyIf li.enableTap.isSome "enable-tap" ++ keyIf li.tapAndDrag.isSome "tap-and-drag" ++
        keyIf li.tapAndDragLock.isSome "tap-and-drag-lock" ++
        keyIf li.disableWhileTyping.isSome "disable-while-typing" ++
        keyIf li.middleButtonEmulation.isSome "middle-button-emulation" ++
        keyIf li.leftHanded.isSome "left-handed" ++ keyIf li.rotation.isSome "rotation" ++
        (keyIf (li.accelProfile.bind profileOf).isSome "accel-profile" ++
          keyIf (li.accelSpeed.any fun s => F64.le minusOne s && F64.le s plusOne) "accel-speed") ++
        (keyIf li.naturalScroll.isSome "natural-scroll" ++
          (keyIf (li.scrollMethod.bind methodOf).isSome "scroll-method" ++
            keyIf (pressed evdev li) "scroll-button")) := by
    have line : ∀ rest, keysOf (.log ("libinput: configuring device \"" ++ ableDevice.name ++
        "\".") :: rest) = keysOf rest := fun rest => rfl
    have fingers : ableDevice.tapFingerCount > 0 := by decide
    have rotates : ableDevice.rotationAvailable = true := rfl
    have accelerates : ableDevice.accelAvailable = true := rfl
    have types : ableDevice.dwtAvailable = true := rfl
    have emulates : ableDevice.middleEmulationAvailable = true := rfl
    have turns : ableDevice.leftHandedAvailable = true := rfl
    have switch := @keysOf_switch (iniSection li)
    unfold configureInputDevice
    rw [line, if_pos fingers, if_pos rotates, if_pos accelerates]
    simp only [keysOf_append]
    rw [tap, switch rfl "tap-and-drag" .tapDragEnabled fun _ => rfl,
      switch rfl "tap-and-drag-lock" .tapDragLockEnabled fun _ => rfl,
      switch types "disable-while-typing" .dwtEnabled fun _ => rfl,
      switch emulates "middle-button-emulation" .middleEmulationEnabled fun _ => rfl,
      switch turns "left-handed" .leftHanded fun _ => rfl, keysOf_rotation, keysOf_accel,
      keysOf_scroll]
    rfl
  rw [keys]
  simp only [requested, List.flatMap_cons, List.flatMap_nil, List.mem_append, mem_keyIf]
  constructor
  · intro all
    have profile := all "accel-profile"
    have speed := all "accel-speed"
    have method := all "scroll-method"
    have button := all "scroll-button"
    simp only [String.reduceEq, and_false, and_true, or_false, false_or, List.not_mem_nil]
      at profile speed method button
    refine ⟨fun text given => ?_, fun s given => ?_, fun text given => ?_, fun text given => ?_⟩
    · simpa [given] using profile (by rw [given]; rfl)
    · simpa [given] using speed (by rw [given]; rfl)
    · simpa [given] using method (by rw [given]; rfl)
    · simpa [given, pressed] using button (by rw [given]; rfl)
  · intro usable
    have profile : li.accelProfile.isSome = true →
        (li.accelProfile.bind profileOf).isSome = true := by
      intro there
      obtain ⟨text, given⟩ := Option.isSome_iff_exists.mp there
      rw [given]
      exact usable.profile text given
    have speed : li.accelSpeed.isSome = true →
        (li.accelSpeed.any fun s => F64.le minusOne s && F64.le s plusOne) = true := by
      intro there
      obtain ⟨s, given⟩ := Option.isSome_iff_exists.mp there
      simp [given, usable.speed s given]
    have method : li.scrollMethod.isSome = true →
        (li.scrollMethod.bind methodOf).isSome = true := by
      intro there
      obtain ⟨text, given⟩ := Option.isSome_iff_exists.mp there
      rw [given]
      exact usable.method text given
    have button : li.scrollButton.isSome = true → pressed evdev li = true := by
      intro there
      obtain ⟨text, given⟩ := Option.isSome_iff_exists.mp there
      simp [pressed, given, usable.button text given]
    grind

/-- The frontend accepts a section exactly when it asks for nothing that is dropped and C,
on a device that can do everything, makes a call for each of its device keys. -/
theorem accepted_iff_effective {evdev : String → Int} {display display3 : F64 → String}
    {li : Libinput} (codes : ∀ name, evdev name = -1 ∨ 0 ≤ evdev name)
    (clear : ∀ text, li.scrollButton = some text → '\x00' ∉ text.toList) :
    (rejectLibinput li = none ∧ ∃ cfg, buildInputConfig evdev display li = .ok cfg) ↔
      NothingDropped li ∧ ∀ key ∈ requested li,
        key ∈ keysOf (configureInputDevice evdev display3 (iniSection li) ableDevice) := by
  rw [rejectLibinput_eq_none, buildInputConfig_usable codes clear]
  refine and_congr_right fun nothing => ?_
  rw [configureInputDevice_usable nothing.enableTap]

theorem accepted_iff_effective_button :
    requested buttonScroll = ["enable-tap", "scroll-method", "scroll-button"] ∧
      ((rejectLibinput buttonScroll = none ∧
          ∃ cfg, buildInputConfig someButtons (fun _ => "") buttonScroll = .ok cfg) ↔
        NothingDropped buttonScroll ∧ ∀ key ∈ requested buttonScroll, key ∈ keysOf
          (configureInputDevice someButtons (fun _ => "") (iniSection buttonScroll)
            ableDevice)) := by
  refine ⟨rfl, accepted_iff_effective (fun name => ?_) fun text given => ?_⟩
  · unfold someButtons
    split
    · exact .inr (by decide)
    · split
      · exact .inr (by decide)
      · exact .inl rfl
  · cases given
    decide

end Westonite.Frontend
