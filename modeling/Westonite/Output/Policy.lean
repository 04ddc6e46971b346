import Mathlib.Data.List.Basic

/-! The configuration policy of the outputs: lookups in the `[[output]]` rules. -/

set_option autoImplicit false

namespace Westonite.Output

/-- An `f32`, by its bits. -/
abbrev F32 := UInt32

inductive OutputTransform where
  | normal
  | rotate90
  | rotate180
  | rotate270
  | flipped
  | flippedRotate90
  | flippedRotate180
  | flippedRotate270
  deriving DecidableEq, Repr

inductive EotfMode where
  | sdr
  | hdrGamma
  | st2084
  | hlg
  deriving DecidableEq, Repr

inductive ColorimetryMode where
  | default
  | bt2020Cycc
  | bt2020Ycc
  | bt2020Rgb
  | p3d65
  | p3dci
  | ictcp
  deriving DecidableEq, Repr

structure ColorCharacteristics where
  primaries : Option ((F32 × F32) × (F32 × F32) × (F32 × F32))
  white : Option (F32 × F32)
  maxLuminance : Option F32
  minLuminance : Option F32
  maxFall : Option F32
  deriving DecidableEq, Repr

structure ColorSetup where
  iccProfile : Option String
  eotfMode : Option EotfMode
  colorimetryMode : Option ColorimetryMode
  characteristics : Option ColorCharacteristics
  allowHdcp : Bool
  deriving DecidableEq, Repr

/-- `ColorSetup::default`, as derived. -/
def ColorSetup.default : ColorSetup where
  iccProfile := none
  eotfMode := none
  colorimetryMode := none
  characteristics := none
  allowHdcp := false

/-- One `[[output]]` section. -/
structure OutputRule where
  name : String
  off : Bool
  size : Option (Int × Int)
  scale : Option Int
  transform : Option OutputTransform
  resizeable : Option Bool
  gbmFormat : Option String
  modeString : Option String
  maxBpc : Option Nat
  contentType : Option String
  seat : Option String
  forceOn : Bool
  cloneOf : Option String
  color : ColorSetup
  mirrorOf : Option String
  deriving DecidableEq, Repr

/-- A rule that sets nothing for a name. -/
def OutputRule.named (name : String) : OutputRule where
  name := name
  off := false
  size := none
  scale := none
  transform := none
  resizeable := none
  gbmFormat := none
  modeString := none
  maxBpc := none
  contentType := none
  seat := none
  forceOn := false
  cloneOf := none
  color := .default
  mirrorOf := none

structure OutputCliOverrides where
  width : Option Int
  height : Option Int
  scale : Option Int
  transform : Option OutputTransform
  deriving DecidableEq, Repr

structure OutputSetup where
  width : Int
  height : Int
  scale : Int
  transform : OutputTransform
  deriving DecidableEq, Repr

structure VncOutputSetup where
  width : Int
  height : Int
  scale : Int
  resizeable : Bool
  deriving DecidableEq, Repr

structure PipewireOutputSetup where
  width : Int
  height : Int
  scale : Int
  gbmFormat : Option String
  deriving DecidableEq, Repr

inductive DrmMode where
  | preferred
  | current
  | modeline (line : String)
  deriving DecidableEq, Repr

structure DrmOutputSetup where
  mode : DrmMode
  maxBpc : Nat
  scale : Int
  /-- `none` takes the transform of the head. -/
  transform : Option OutputTransform
  gbmFormat : Option String
  contentType : Option String
  seat : String
  color : ColorSetup
  deriving DecidableEq, Repr

structure DrmEnablePlan where
  outputName : String
  setup : DrmOutputSetup
  deriving DecidableEq, Repr

inductive DrmHeadPlan where
  | enable (plan : DrmEnablePlan)
  | off
  | nonDesktop
  | badCloneOf (message : String)
  deriving DecidableEq, Repr

structure OutputPolicy where
  defaultSize : Int × Int
  defaultScale : Int
  defaultTransform : OutputTransform
  cli : OutputCliOverrides
  rules : List OutputRule
  deriving DecidableEq, Repr

namespace OutputPolicy

/-- Backend defaults only. -/
def defaults (width height : Int) : OutputPolicy where
  defaultSize := (width, height)
  defaultScale := 1
  defaultTransform := .normal
  cli := ⟨none, none, none, none⟩
  rules := []

variable (policy : OutputPolicy)

/-- The first rule of a name. -/
def ruleFor (name : String) : Option OutputRule :=
  policy.rules.find? fun rule => rule.name == name

def decideSized (headName : String) (defaultSize : Int × Int) : Option OutputSetup :=
  let rule := policy.ruleFor headName
  if rule.any OutputRule.off then none
  else
    let size := (rule.bind OutputRule.size).getD defaultSize
    let scale := (rule.bind OutputRule.scale).getD policy.defaultScale
    let transform := (rule.bind OutputRule.transform).getD policy.defaultTransform
    some
      { width := policy.cli.width.getD size.1
        height := policy.cli.height.getD size.2
        scale := policy.cli.scale.getD scale
        transform := policy.cli.transform.getD transform }

def decide (headName : String) : Option OutputSetup :=
  policy.decideSized headName policy.defaultSize

def decidePipewire (headName : String) : Option PipewireOutputSetup :=
  let rule := policy.ruleFor headName
  if rule.any OutputRule.off then none
  else
    let size := (rule.bind OutputRule.size).getD (640, 480)
    some
      { width := policy.cli.width.getD size.1
        height := policy.cli.height.getD size.2
        scale := (rule.bind OutputRule.scale).getD 1
        gbmFormat := rule.bind OutputRule.gbmFormat }

def decideVnc (headName : String) : Option VncOutputSetup :=
  let rule := policy.ruleFor headName
  if rule.any OutputRule.off then none
  else
    let size := (rule.bind OutputRule.size).getD (640, 480)
    some
      { width := policy.cli.width.getD size.1
        height := policy.cli.height.getD size.2
        scale := (rule.bind OutputRule.scale).getD 1
        resizeable := (rule.bind OutputRule.resizeable).getD true }

def hasMirrorOf (headName : String) : Bool :=
  policy.rules.any fun rule => rule.name == headName && rule.mirrorOf.isSome

def mirrorRuleForSource (sourceName : String) : Option OutputRule :=
  policy.rules.find? fun rule => rule.mirrorOf == some sourceName

/-! ### DRM -/

/-- The loop of `drm_controlling_rule` with some hops left of ten. -/
def drmControllingFrom (headName want : String) (left : Nat) :
    Except String (Option OutputRule) :=
  match policy.ruleFor want, left with
  | none, left =>
      if left < 10 then
        .error ("Configuration error: output section referred to with 'clone-of=" ++ want ++
          "' not found.")
      else .ok none
  | some _, 0 =>
      .error ("Configuration error: 'clone-of' nested too deep for output '" ++ headName ++ "'.")
  | some rule, left + 1 =>
      match rule.cloneOf with
      | some next => drmControllingFrom headName next left
      | none => .ok (some rule)

def drmControllingRule (headName : String) : Except String (Option OutputRule) :=
  policy.drmControllingFrom headName headName 10

def drmSetup (rule : Option OutputRule) (currentModeCli : Bool) : DrmOutputSetup :=
  let mode :=
    if currentModeCli then .current
    else
      match rule.bind OutputRule.modeString with
      | none => .preferred
      | some "preferred" => .preferred
      | some "current" => .current
      | some other => .modeline other
  { mode
    maxBpc := (rule.bind OutputRule.maxBpc).getD (if mode = .current then 0 else 16)
    scale := (rule.bind OutputRule.scale).getD 1
    transform := rule.bind OutputRule.transform
    gbmFormat := rule.bind OutputRule.gbmFormat
    contentType := rule.bind OutputRule.contentType
    seat := (rule.bind OutputRule.seat).getD ""
    color := (rule.map OutputRule.color).getD .default }

def decideDrm (headName : String) (nonDesktop currentModeCli : Bool) : DrmHeadPlan :=
  match policy.drmControllingRule headName with
  | .error message => .badCloneOf message
  | .ok none => .enable ⟨headName, drmSetup none currentModeCli⟩
  | .ok (some rule) =>
      if rule.off then .off
      else if nonDesktop && rule.modeString.isNone then .nonDesktop
      else .enable ⟨rule.name, drmSetup (some rule) currentModeCli⟩

def drmDefaults (currentModeCli : Bool) : DrmOutputSetup :=
  drmSetup none currentModeCli

def drmForceOn (headName : String) : Bool :=
  match policy.drmControllingRule headName with
  | .ok (some rule) => rule.forceOn
  | _ => false

def decideColor (headName : String) : ColorSetup :=
  ((policy.ruleFor headName).map OutputRule.color).getD .default

end OutputPolicy

end Westonite.Output
