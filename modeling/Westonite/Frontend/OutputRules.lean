import Westonite.Frontend.Characteristics
import Westonite.Output.MirrorModes
import Westonite.Output.SimpleMode

/-! The policy of the outputs, as the frontend builds it from the `[[output]]`
sections and the flags. -/

set_option autoImplicit false

namespace Westonite.Output

def OutputTransform.parse : String → Option OutputTransform
  | "normal" => some .normal
  | "rotate-90" => some .rotate90
  | "rotate-180" => some .rotate180
  | "rotate-270" => some .rotate270
  | "flipped" => some .flipped
  | "flipped-rotate-90" => some .flippedRotate90
  | "flipped-rotate-180" => some .flippedRotate180
  | "flipped-rotate-270" => some .flippedRotate270
  | _ => none

def EotfMode.parse : String → Option EotfMode
  | "sdr" => some .sdr
  | "hdr-gamma" => some .hdrGamma
  | "st2084" => some .st2084
  | "hlg" => some .hlg
  | _ => none

def EotfMode.names : List String := ["sdr", "hdr-gamma", "st2084", "hlg"]

def ColorimetryMode.parse : String → Option ColorimetryMode
  | "default" => some .default
  | "bt2020cycc" => some .bt2020Cycc
  | "bt2020ycc" => some .bt2020Ycc
  | "bt2020rgb" => some .bt2020Rgb
  | "p3d65" => some .p3d65
  | "p3dci" => some .p3dci
  | "ictcp" => some .ictcp
  | _ => none

def ColorimetryMode.names : List String :=
  ["default", "bt2020cycc", "bt2020ycc", "bt2020rgb", "p3d65", "p3dci", "ictcp"]

end Westonite.Output

namespace Westonite.Frontend

open Library Library.Binary
open Resolve (Backend Settings)
open Westonite.Output (OutputTransform EotfMode ColorimetryMode ColorSetup OutputRule OutputPolicy
  World HeadSetup parseMode)

/-! ### The policy -/

section

variable (display : F64 → String)

/-- The characteristics that a section names. -/
def namedCharacteristics (settings : Settings) (name : String) :
    Option String → Except String (Option Westonite.Output.ColorCharacteristics)
  | some ccName => (resolveCharacteristics display settings ccName name).map some
  | none => .ok none

def buildColorSetup (settings : Settings) (out : Resolve.Output) (name : String) :
    Except String ColorSetup := do
  let eotfMode ← readName EotfMode.parse (fun m => "[[output]] '" ++ name ++ "': '" ++ m ++
    "' is not a valid EOTF mode. Try one of: " ++ " ".intercalate EotfMode.names) out.eotfMode
  let colorimetryMode ← readName ColorimetryMode.parse (fun m => "[[output]] '" ++ name ++ "': '" ++
    m ++ "' is not a valid colorimetry mode. Try one of: " ++
    " ".intercalate ColorimetryMode.names) out.colorimetryMode
  ensure (refuse ((eotfMode.any fun m => m != .sdr) && !settings.colorManagement)
    ("[[output]] '" ++ name ++
      "': a non-SDR eotf-mode requires [core] color-management = true"))
  ensure (refuse ((colorimetryMode.any fun m => m != .default) && !settings.colorManagement)
    ("[[output]] '" ++ name ++
      "': a non-default colorimetry-mode requires [core] color-management = true"))
  let characteristics ← namedCharacteristics display settings name out.colorCharacteristics
  return { iccProfile := out.iccProfile, eotfMode, colorimetryMode, characteristics,
           allowHdcp := out.allowHdcp.getD true }

/-- The rule of a section before its mode and its transform. -/
def sectionRule (out : Resolve.Output) (name : String) (color : ColorSetup) : OutputRule where
  name := name
  off := out.off == some true
  size := none
  scale := out.scale
  transform := none
  resizeable := out.resizeable
  gbmFormat := out.gbmFormat
  modeString := out.mode
  maxBpc := out.maxBpc
  contentType := out.contentType
  seat := out.seat
  forceOn := out.forceOn == some true
  cloneOf := out.cloneOf
  color := color
  mirrorOf := out.mirrorOf

/-- One section, with what is logged. -/
def buildRule (settings : Settings) (out : Resolve.Output) :
    List String × Except String OutputRule :=
  match out.name with
  | none => ([], .error "[[output]] section without a name= key")
  | some name =>
      match buildColorSetup display settings out name with
      | .error e => ([], .error e)
      | .ok color =>
          let (rule, logged) := (sectionRule out name color).setMode out.mode
          (logged, (readName OutputTransform.parse (fun t => "Invalid transform \"" ++ t ++
            "\" for output " ++ name) out.transform).map fun transform => { rule with transform })

def buildRules (settings : Settings) :
    List Resolve.Output → List String × Except String (List OutputRule)
  | [] => ([], .ok [])
  | out :: rest =>
      match buildRule display settings out with
      | (logged, .error e) => (logged, .error e)
      | (logged, .ok rule) =>
          let (more, rules) := buildRules settings rest
          (logged ++ more, rules.map (rule :: ·))

def buildOutputPolicy (settings : Settings) : List String × Except String OutputPolicy :=
  match buildRules display settings settings.config.output with
  | (logged, .error e) => (logged, .error e)
  | (logged, .ok rules) =>
      (logged, (readName OutputTransform.parse (fun t => "Invalid transform \"" ++ t ++ "\"")
        settings.transform).map fun transform =>
          { OutputPolicy.defaults 1024 640 with
            cli := ⟨settings.width, settings.height, settings.scale, transform⟩, rules })

end

/-! ### One section, one rule -/

/-- The colors of a section. -/
structure ColorBuilt (display : F64 → String) (settings : Settings) (out : Resolve.Output)
    (name : String) (color : ColorSetup) : Prop where
  iccProfile : color.iccProfile = out.iccProfile
  eotfMode : Named EotfMode.parse out.eotfMode color.eotfMode
  colorimetryMode : Named ColorimetryMode.parse out.colorimetryMode color.colorimetryMode
  managedEotf : settings.colorManagement = false → color.eotfMode.all fun m => m == .sdr
  managedColorimetry :
    settings.colorManagement = false → color.colorimetryMode.all fun m => m == .default
  characteristics : color.characteristics.isSome = out.colorCharacteristics.isSome
  resolved : ∀ ccName, out.colorCharacteristics = some ccName →
    ∃ found, color.characteristics = some found ∧
      resolveCharacteristics display settings ccName name = .ok found
  allowHdcp : color.allowHdcp = out.allowHdcp.getD true

private theorem buildColorSetup_built {display : F64 → String} {settings : Settings}
    {out : Resolve.Output}
    {name : String} {color : ColorSetup}
    (built : buildColorSetup display settings out name = .ok color) :
    ColorBuilt display settings out name color := by
  unfold buildColorSetup at built
  obtain ⟨eotfMode, eotf, built⟩ := bind_eq_ok.mp built
  obtain ⟨colorimetryMode, colorimetry, built⟩ := bind_eq_ok.mp built
  obtain ⟨_, first, built⟩ := bind_eq_ok.mp built
  obtain ⟨_, second, built⟩ := bind_eq_ok.mp built
  obtain ⟨characteristics, third, last⟩ := bind_eq_ok.mp built
  have managedEotf := refuse_eq_none.mp (ensure_eq_ok.mp first)
  have managedColorimetry := refuse_eq_none.mp (ensure_eq_ok.mp second)
  have found : characteristics.isSome = out.colorCharacteristics.isSome ∧
      ∀ ccName, out.colorCharacteristics = some ccName → ∃ found, characteristics = some found ∧
        resolveCharacteristics display settings ccName name = .ok found := by
    cases given : out.colorCharacteristics with
    | none =>
        rw [given] at third
        cases third
        exact ⟨rfl, fun ccName impossible => by cases impossible⟩
    | some ccName =>
        rw [given] at third
        simp only [namedCharacteristics] at third
        cases resolved : resolveCharacteristics display settings ccName name with
        | error e =>
            rw [resolved] at third
            cases third
        | ok result =>
            rw [resolved] at third
            cases third
            refine ⟨rfl, fun other same => ?_⟩
            cases same
            exact ⟨result, rfl, resolved⟩
  cases last
  exact
    { iccProfile := rfl
      eotfMode := readName_eq_ok.mp eotf
      colorimetryMode := readName_eq_ok.mp colorimetry
      managedEotf := fun off => by
        cases eotfMode with
        | none => rfl
        | some mode => simpa [off] using managedEotf
      managedColorimetry := fun off => by
        cases colorimetryMode with
        | none => rfl
        | some mode => simpa [off] using managedColorimetry
      characteristics := found.1
      resolved := found.2
      allowHdcp := rfl }

/-- The rule that a section becomes. -/
structure RuleBuilt (display : F64 → String) (settings : Settings) (out : Resolve.Output)
    (rule : OutputRule) : Prop where
  name : out.name = some rule.name
  off : rule.off = (out.off == some true || out.mode == some "off")
  size : rule.size = out.mode.bind parseMode
  scale : rule.scale = out.scale
  transform : Named OutputTransform.parse out.transform rule.transform
  resizeable : rule.resizeable = out.resizeable
  gbmFormat : rule.gbmFormat = out.gbmFormat
  modeString : rule.modeString = out.mode
  maxBpc : rule.maxBpc = out.maxBpc
  contentType : rule.contentType = out.contentType
  seat : rule.seat = out.seat
  forceOn : rule.forceOn = (out.forceOn == some true)
  cloneOf : rule.cloneOf = out.cloneOf
  mirrorOf : rule.mirrorOf = out.mirrorOf
  color : ColorBuilt display settings out rule.name rule.color

private theorem setMode_fst (rule : OutputRule) (fresh : rule.size = none) (mode : Option String) :
    (rule.setMode mode).1 =
      { rule with off := rule.off || mode == some "off", size := mode.bind parseMode } := by
  cases mode with
  | none => cases rule; cases fresh; simp [OutputRule.setMode]
  | some text =>
      unfold OutputRule.setMode
      dsimp only
      by_cases off : text = "off"
      · have none : parseMode "off" = none := by decide +kernel
        rw [if_pos off, off]
        cases rule
        cases fresh
        simp [none]
      · rw [if_neg off]
        have other : (some text == some "off") = false := by simpa using off
        cases read : parseMode text with
        | some size => simp [other, read]
        | none =>
            cases rule
            cases fresh
            dsimp only
            split <;> simp [other, read]

private theorem buildRule_built {display : F64 → String} {settings : Settings}
    {out : Resolve.Output}
    {rule : OutputRule} (built : (buildRule display settings out).2 = .ok rule) :
    RuleBuilt display settings out rule := by
  unfold buildRule at built
  cases named : out.name with
  | none =>
      rw [named] at built
      cases built
  | some name =>
      rw [named] at built
      dsimp only at built
      cases colors : buildColorSetup display settings out name with
      | error e =>
          rw [colors] at built
          cases built
      | ok color =>
          rw [colors] at built
          dsimp only at built
          cases turned : readName OutputTransform.parse (fun t => "Invalid transform \"" ++ t ++
              "\" for output " ++ name) out.transform with
          | error e =>
              rw [turned] at built
              cases built
          | ok transform =>
              rw [turned, setMode_fst _ rfl] at built
              cases built
              exact
                { name := named
                  off := rfl
                  size := rfl
                  scale := rfl
                  transform := readName_eq_ok.mp turned
                  resizeable := rfl
                  gbmFormat := rfl
                  modeString := rfl
                  maxBpc := rfl
                  contentType := rfl
                  seat := rfl
                  forceOn := rfl
                  cloneOf := rfl
                  mirrorOf := rfl
                  color := buildColorSetup_built colors }

private theorem buildRules_built {display : F64 → String} {settings : Settings}
    {outs : List Resolve.Output} {rules : List OutputRule}
    (built : (buildRules display settings outs).2 = .ok rules) :
    List.Forall₂ (RuleBuilt display settings) outs rules := by
  induction outs generalizing rules with
  | nil =>
      cases built
      exact .nil
  | cons out rest ih =>
      unfold buildRules at built
      cases first : buildRule display settings out with
      | mk logged result =>
          rw [first] at built
          cases result with
          | error e => cases built
          | ok rule =>
              cases others : (buildRules display settings rest).2 with
              | error e =>
                  dsimp only at built
                  rw [others] at built
                  cases built
              | ok later =>
                  dsimp only at built
                  rw [others] at built
                  cases built
                  exact .cons (buildRule_built (by rw [first])) (ih others)

/-- What the policy is built of. -/
structure PolicyBuilt (display : F64 → String) (settings : Settings) (policy : OutputPolicy) :
    Prop where
  rules : List.Forall₂ (RuleBuilt display settings) settings.config.output policy.rules
  width : policy.cli.width = settings.width
  height : policy.cli.height = settings.height
  scale : policy.cli.scale = settings.scale
  transform : Named OutputTransform.parse settings.transform policy.cli.transform
  defaultSize : policy.defaultSize = (1024, 640)
  defaultScale : policy.defaultScale = 1
  defaultTransform : policy.defaultTransform = .normal

theorem buildOutputPolicy_built {display : F64 → String} {settings : Settings}
    {policy : OutputPolicy} (built : (buildOutputPolicy display settings).2 = .ok policy) :
    PolicyBuilt display settings policy := by
  unfold buildOutputPolicy at built
  cases each : buildRules display settings settings.config.output with
  | mk logged result =>
      rw [each] at built
      cases result with
      | error e => cases built
      | ok rules =>
          dsimp only at built
          cases turned : readName OutputTransform.parse
              (fun t => "Invalid transform \"" ++ t ++ "\"") settings.transform with
          | error e =>
              rw [turned] at built
              cases built
          | ok transform =>
              rw [turned] at built
              cases built
              exact
                { rules := buildRules_built (by rw [each])
                  width := rfl
                  height := rfl
                  scale := rfl
                  transform := readName_eq_ok.mp turned
                  defaultSize := rfl
                  defaultScale := rfl
                  defaultTransform := rfl }

end Westonite.Frontend
