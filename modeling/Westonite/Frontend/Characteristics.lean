import Mathlib.Data.Nat.Bitwise
import Westonite.Frontend.Gate
import Westonite.Library.Fallible
import Westonite.Output.Policy

/-! The color characteristics of an output: one section of the file becomes the
record that libweston is given, here and in C. -/

set_option autoImplicit false

namespace Westonite.Frontend

open Library Library.Binary
open Resolve (Settings)
open Westonite.Output (ColorCharacteristics)

/-! ### The frontend -/

def zero : F64 := 0

def one : F64 := 0x3ff0000000000000

/-- `1e5` -/
def luminanceLimit : F64 := 0x40f86a0000000000

section

-- The text of a double, which only messages show.
variable (display : F64 → String)

def range (ccName : String) (v : Option F64) (key : String) (lo hi : F64) :
    Except String (Option F32) :=
  match v with
  | some x =>
      if F64.isNan x || F64.lt x lo || F64.lt hi x then
        .error ("[[color-characteristics]] name=" ++ ccName ++ ": " ++ key ++ " value " ++
          display x ++ " is outside of the range " ++ display lo ++ " - " ++ display hi ++ ".")
      else .ok (some (narrow x))
  | none => .ok none

def primaryKeys (cc : Resolve.ColorCharacteristics) : List (String × Option F64) :=
  [("red-x", cc.redX), ("red-y", cc.redY), ("green-x", cc.greenX), ("green-y", cc.greenY),
    ("blue-x", cc.blueX), ("blue-y", cc.blueY)]

def whiteKeys (cc : Resolve.ColorCharacteristics) : List (String × Option F64) :=
  [("white-x", cc.whiteX), ("white-y", cc.whiteY)]

/-- Each group entirely or not at all. -/
def group (ccName : String) (keys : List (String × Option F64)) (label : String) :
    Except String Bool :=
  let set := keys.countP fun entry => entry.2.isSome
  if set = 0 then .ok false
  else if set ≠ keys.length then
    .error ("[[color-characteristics]] name=" ++ ccName ++ ": group " ++ label ++ " key " ++
      ", ".intercalate ((keys.filter fun entry => entry.2.isNone).map Prod.fst) ++
      " is missing. You must set either none or all keys of a group.")
  else .ok true

def resolvePrimaries (ccName : String) (cc : Resolve.ColorCharacteristics) : Bool →
    Except String (Option ((F32 × F32) × (F32 × F32) × (F32 × F32)))
  | false => .ok none
  | true => do
      let v ← (primaryKeys cc).mapM fun entry => do
        let x ← range display ccName entry.2 entry.1 zero one
        return x.getD 0
      return some ((v.getD 0 0, v.getD 1 0), (v.getD 2 0, v.getD 3 0), (v.getD 4 0, v.getD 5 0))

def resolveWhite (ccName : String) (cc : Resolve.ColorCharacteristics) : Bool →
    Except String (Option (F32 × F32))
  | false => .ok none
  | true => do
      let x ← range display ccName cc.whiteX "white-x" zero one
      let y ← range display ccName cc.whiteY "white-y" zero one
      return some (x.getD 0, y.getD 0)

def resolveCharacteristics (settings : Settings) (ccName output : String) :
    Except String ColorCharacteristics :=
  match settings.config.colorCharacteristics.find? fun c => c.name == some ccName with
  | none =>
      .error ("output " ++ output ++ ": no [[color-characteristics]] section with 'name = \"" ++
        ccName ++ "\"' found")
  | some cc => do
      ensure (refuse (ccName.toList.contains ':') ("[[color-characteristics]] name=" ++ ccName ++
        ": reserved name. Do not use ':' character in the name."))
      let havePrimaries ← group ccName (primaryKeys cc) "primaries"
      let haveWhite ← group ccName (whiteKeys cc) "white"
      let primaries ← resolvePrimaries display ccName cc havePrimaries
      let white ← resolveWhite display ccName cc haveWhite
      let maxLuminance ← range display ccName cc.maxLuminance "max-luminance" zero luminanceLimit
      let minLuminance ← range display ccName cc.minLuminance "min-luminance" zero luminanceLimit
      let maxFall ← range display ccName cc.maxFall "max-fall" zero luminanceLimit
      return { primaries, white, maxLuminance, minLuminance, maxFall }

end

/-! ### The record of libweston -/

structure WestonColorCharacteristics where
  groupMask : Nat
  primary : (F32 × F32) × (F32 × F32) × (F32 × F32)
  white : F32 × F32
  maxLuminance : F32
  minLuminance : F32
  maxFALL : F32
  deriving DecidableEq, Repr

/-- The bit of a group that is there. -/
def groupBit (there : Bool) (index : Nat) : Nat := if there then 2 ^ index else 0

def groupMask (cc : ColorCharacteristics) : Nat :=
  0 ||| groupBit cc.primaries.isSome 0 ||| groupBit cc.white.isSome 1 |||
    groupBit cc.maxLuminance.isSome 2 ||| groupBit cc.minLuminance.isSome 3 |||
    groupBit cc.maxFall.isSome 4

/-- The last step of `apply_color`. -/
def characteristicsToC (cc : ColorCharacteristics) : WestonColorCharacteristics where
  groupMask := groupMask cc
  primary := cc.primaries.getD ((0, 0), (0, 0), (0, 0))
  white := cc.white.getD (0, 0)
  maxLuminance := cc.maxLuminance.getD 0
  minLuminance := cc.minLuminance.getD 0
  maxFALL := cc.maxFall.getD 0

/-! ### C's parser -/

structure ColorKey where
  name : String
  /-- The place of the group's bit in the mask. -/
  group : Nat
  minval : F32
  maxval : F32
  deriving DecidableEq, Repr

/-- `keys`; the numbers are `1.0f` and `1e5f`. -/
def colorKeys : List ColorKey :=
  [⟨"red_x", 0, 0, 0x3f800000⟩, ⟨"red_y", 0, 0, 0x3f800000⟩, ⟨"green_x", 0, 0, 0x3f800000⟩,
    ⟨"green_y", 0, 0, 0x3f800000⟩, ⟨"blue_x", 0, 0, 0x3f800000⟩, ⟨"blue_y", 0, 0, 0x3f800000⟩,
    ⟨"white_x", 1, 0, 0x3f800000⟩, ⟨"white_y", 1, 0, 0x3f800000⟩, ⟨"max_L", 2, 0, 0x47c35000⟩,
    ⟨"min_L", 3, 0, 0x47c35000⟩, ⟨"maxFALL", 4, 0, 0x47c35000⟩]

/-- A section of the ini file: its name, and what a key reads as, `some none` where
that is no number. -/
structure ColorSection where
  name : String
  getDouble : String → Option (Option F64)

namespace ColorSection

variable (ini : ColorSection)

def found (key : ColorKey) : Bool := (ini.getDouble key.name).isSome

/-- What the loop leaves in the field of a key, `none` where it is an error. -/
def keyval (key : ColorKey) : Option F32 :=
  match ini.getDouble key.name with
  | none => some 0
  | some none => none
  | some (some value) =>
      if F32.le key.minval (narrow value) && F32.le (narrow value) key.maxval then
        some (narrow value)
      else none

/-- The groups of the keys that are found, or of those that are not. -/
def mask (found : Bool) : Nat :=
  colorKeys.foldl (fun mask key => mask ||| groupBit (ini.found key == found) key.group) 0

/-- A group that is given in part. -/
def parted : Bool :=
  colorKeys.any fun key =>
    ini.mask true &&& 2 ^ key.group != 0 && ini.mask false &&& 2 ^ key.group != 0

def built : WestonColorCharacteristics :=
  let keyvals := colorKeys.map fun key => (ini.keyval key).getD 0
  { groupMask := ini.mask true
    primary := ((keyvals.getD 0 0, keyvals.getD 1 0), (keyvals.getD 2 0, keyvals.getD 3 0),
      (keyvals.getD 4 0, keyvals.getD 5 0))
    white := (keyvals.getD 6 0, keyvals.getD 7 0)
    maxLuminance := keyvals.getD 8 0
    minLuminance := keyvals.getD 9 0
    maxFALL := keyvals.getD 10 0 }

/-- `parse_color_characteristics`, without its log lines: every error is met before
the end, and any of them is one too many. -/
def parseColorCharacteristics : Option WestonColorCharacteristics :=
  if !ini.name.toList.contains ':' && (colorKeys.all fun key => (ini.keyval key).isSome) &&
      !ini.parted then
    some ini.built
  else none

end ColorSection

/-! ### What the frontend accepts -/

private theorem between_iff {x lo hi : F64} (low : F64.isNan lo = false)
    (high : F64.isNan hi = false) :
    (F64.isNan x || F64.lt x lo || F64.lt hi x) = false ↔
      F64.le lo x = true ∧ F64.le x hi = true := by
  cases number : F64.isNan x with
  | true => simp [F64.le, number]
  | false => simp [F64.le, F64.lt, number, low, high]

/-- A value that is given is a number of the range. -/
def Within (v : Option F64) (hi : F64) : Prop :=
  ∀ x, v = some x → F64.le zero x = true ∧ F64.le x hi = true

private theorem range_eq_ok {display : F64 → String} {ccName key : String} {v : Option F64}
    {hi : F64}
    (high : F64.isNan hi = false) {r : Option F32} :
    range display ccName v key zero hi = .ok r ↔ Within v hi ∧ r = v.map narrow := by
  cases v with
  | none =>
      constructor
      · intro read
        cases read
        exact ⟨fun x given => (Option.some_ne_none x given.symm).elim, rfl⟩
      · intro read
        rw [read.2]
        rfl
  | some x =>
      have between := @between_iff x zero hi rfl high
      unfold range
      dsimp only
      cases outside : F64.isNan x || F64.lt x zero || F64.lt hi x with
      | true =>
          rw [outside] at between
          constructor
          · intro read
            cases read
          · intro read
            exact absurd (between.mpr (read.1 x rfl)) Bool.noConfusion
      | false =>
          have inside := between.mp outside
          constructor
          · intro read
            cases read
            refine ⟨fun y same => ?_, rfl⟩
            cases same
            exact inside
          · intro read
            rw [read.2]
            rfl

private theorem group_eq_ok {ccName label : String} {keys : List (String × Option F64)}
    (some : keys ≠ []) {there : Bool} :
    group ccName keys label = .ok there ↔ ∀ entry ∈ keys, entry.2.isSome = there := by
  have length : keys.length ≠ 0 := fun empty => some (List.length_eq_zero_iff.mp empty)
  unfold group
  dsimp only
  cases there with
  | false =>
      have none : keys.countP (fun entry => entry.2.isSome) = 0 ↔
          ∀ entry ∈ keys, entry.2.isSome = false := by
        rw [List.countP_eq_zero]
        simp
      rw [← none]
      split
      · rename_i empty
        simp [empty]
      · rename_i other
        split <;> simp [other]
  | true =>
      rw [← List.countP_eq_length]
      split
      · rename_i empty
        simp only [empty]
        constructor
        · intro read
          cases read
        · intro full
          exact absurd full.symm length
      · split
        · rename_i other
          constructor
          · intro read
            cases read
          · intro full
            exact absurd full other
        · rename_i full
          exact ⟨fun _ => Decidable.not_not.mp full, fun _ => rfl⟩

/-- No group is given in part. -/
structure Whole (cc : Resolve.ColorCharacteristics) : Prop where
  primaries : ∀ entry ∈ primaryKeys cc, entry.2.isSome = cc.redX.isSome
  white : ∀ entry ∈ whiteKeys cc, entry.2.isSome = cc.whiteX.isSome

/-- Every value that is given is in its range. -/
structure InRange (cc : Resolve.ColorCharacteristics) : Prop where
  primaries : ∀ entry ∈ primaryKeys cc, Within entry.2 one
  white : ∀ entry ∈ whiteKeys cc, Within entry.2 one
  maxLuminance : Within cc.maxLuminance luminanceLimit
  minLuminance : Within cc.minLuminance luminanceLimit
  maxFall : Within cc.maxFall luminanceLimit

def single (v : Option F64) : F32 := (v.map narrow).getD 0

/-- The section in single precision. -/
def narrowed (cc : Resolve.ColorCharacteristics) : ColorCharacteristics where
  primaries :=
    if cc.redX.isSome then
      some ((single cc.redX, single cc.redY), (single cc.greenX, single cc.greenY),
        (single cc.blueX, single cc.blueY))
    else none
  white := if cc.whiteX.isSome then some (single cc.whiteX, single cc.whiteY) else none
  maxLuminance := cc.maxLuminance.map narrow
  minLuminance := cc.minLuminance.map narrow
  maxFall := cc.maxFall.map narrow

private theorem resolvePrimaries_eq_ok {display : F64 → String} {ccName : String}
    {cc : Resolve.ColorCharacteristics} (whole : Whole cc)
    {primaries : Option ((F32 × F32) × (F32 × F32) × (F32 × F32))} :
    resolvePrimaries display ccName cc cc.redX.isSome = .ok primaries ↔
      (∀ entry ∈ primaryKeys cc, Within entry.2 one) ∧ primaries = (narrowed cc).primaries := by
  have read : ∀ (entry : String × Option F64) (value : F32),
      (do
        let x ← range display ccName entry.2 entry.1 zero one
        return x.getD 0 : Except String F32) = .ok value ↔
        Within entry.2 one ∧ value = single entry.2 := by
    intro entry value
    rw [bind_eq_ok]
    constructor
    · intro done
      obtain ⟨x, first, last⟩ := done
      obtain ⟨within, rfl⟩ := (range_eq_ok rfl).mp first
      cases last
      exact ⟨within, rfl⟩
    · intro done
      obtain ⟨within, rfl⟩ := done
      exact ⟨_, (range_eq_ok rfl).mpr ⟨within, rfl⟩, rfl⟩
  cases there : cc.redX.isSome with
  | false =>
      have absent : ∀ entry ∈ primaryKeys cc, Within entry.2 one := by
        intro entry member x given
        have none := whole.primaries entry member
        rw [there, given] at none
        cases none
      constructor
      · intro done
        cases done
        exact ⟨absent, by simp [narrowed, there]⟩
      · intro done
        rw [done.2]
        simp [narrowed, there, resolvePrimaries]
  | true =>
      have values : ∀ v, (primaryKeys cc).mapM (fun entry => do
          let x ← range display ccName entry.2 entry.1 zero one
          return x.getD 0) = .ok v ↔
          (∀ entry ∈ primaryKeys cc, Within entry.2 one) ∧
            v = (primaryKeys cc).map fun entry => single entry.2 :=
        fun v => mapM_eq_ok_map read
      unfold resolvePrimaries
      rw [bind_eq_ok]
      constructor
      · intro done
        obtain ⟨v, first, last⟩ := done
        obtain ⟨within, rfl⟩ := (values v).mp first
        cases last
        exact ⟨within, by simp [narrowed, there, primaryKeys]⟩
      · intro done
        obtain ⟨within, rfl⟩ := done
        refine ⟨_, (values _).mpr ⟨within, rfl⟩, ?_⟩
        simp [narrowed, there, primaryKeys, pure, Except.pure]

private theorem resolveWhite_eq_ok {display : F64 → String} {ccName : String}
    {cc : Resolve.ColorCharacteristics} (whole : Whole cc) {white : Option (F32 × F32)} :
    resolveWhite display ccName cc cc.whiteX.isSome = .ok white ↔
      (∀ entry ∈ whiteKeys cc, Within entry.2 one) ∧ white = (narrowed cc).white := by
  cases there : cc.whiteX.isSome with
  | false =>
      have absent : ∀ entry ∈ whiteKeys cc, Within entry.2 one := by
        intro entry member x given
        have none := whole.white entry member
        rw [there, given] at none
        cases none
      constructor
      · intro done
        cases done
        exact ⟨absent, by simp [narrowed, there]⟩
      · intro done
        rw [done.2]
        simp [narrowed, there, resolveWhite]
  | true =>
      unfold resolveWhite
      rw [bind_eq_ok]
      constructor
      · intro done
        obtain ⟨x, first, done⟩ := done
        obtain ⟨y, second, last⟩ := bind_eq_ok.mp done
        obtain ⟨left, rfl⟩ := (range_eq_ok rfl).mp first
        obtain ⟨right, rfl⟩ := (range_eq_ok rfl).mp second
        cases last
        exact ⟨by simp [whiteKeys, left, right], by simp [narrowed, there, single]⟩
      · intro done
        obtain ⟨within, rfl⟩ := done
        have both : Within cc.whiteX one ∧ Within cc.whiteY one := by
          simpa [whiteKeys] using within
        refine ⟨_, (range_eq_ok rfl).mpr ⟨both.1, rfl⟩, bind_eq_ok.mpr
          ⟨_, (range_eq_ok rfl).mpr ⟨both.2, rfl⟩, ?_⟩⟩
        simp [narrowed, there, single, pure, Except.pure]

/-- The section of a name. -/
def sectionOf (settings : Settings) (ccName : String) : Option Resolve.ColorCharacteristics :=
  settings.config.colorCharacteristics.find? fun c => c.name == some ccName

private theorem resolveCharacteristics_eq_ok {display : F64 → String} {settings : Settings}
    {ccName output : String} {result : ColorCharacteristics} :
    resolveCharacteristics display settings ccName output = .ok result ↔
      ∃ cc, sectionOf settings ccName = some cc ∧ ':' ∉ ccName.toList ∧ Whole cc ∧ InRange cc ∧
        result = narrowed cc := by
  unfold resolveCharacteristics
  cases found : settings.config.colorCharacteristics.find? fun c => c.name == some ccName with
  | none =>
      constructor
      · intro done
        cases done
      · intro done
        obtain ⟨cc, is, _⟩ := done
        exact absurd (found.symm.trans is) (Option.some_ne_none cc).symm
  | some cc =>
      dsimp only
      constructor
      · intro done
        obtain ⟨_, named, done⟩ := bind_eq_ok.mp done
        obtain ⟨havePrimaries, six, done⟩ := bind_eq_ok.mp done
        obtain ⟨haveWhite, two, done⟩ := bind_eq_ok.mp done
        obtain ⟨primaries, first, done⟩ := bind_eq_ok.mp done
        obtain ⟨white, second, done⟩ := bind_eq_ok.mp done
        obtain ⟨maxLuminance, third, done⟩ := bind_eq_ok.mp done
        obtain ⟨minLuminance, fourth, done⟩ := bind_eq_ok.mp done
        obtain ⟨maxFall, fifth, last⟩ := bind_eq_ok.mp done
        cases last
        have allSix := (group_eq_ok (List.cons_ne_nil _ _)).mp six
        have allTwo := (group_eq_ok (List.cons_ne_nil _ _)).mp two
        obtain rfl : cc.redX.isSome = havePrimaries := allSix _ List.mem_cons_self
        obtain rfl : cc.whiteX.isSome = haveWhite := allTwo _ List.mem_cons_self
        have whole : Whole cc := ⟨allSix, allTwo⟩
        obtain ⟨primariesWithin, rfl⟩ := (resolvePrimaries_eq_ok whole).mp first
        obtain ⟨whiteWithin, rfl⟩ := (resolveWhite_eq_ok whole).mp second
        obtain ⟨maxWithin, rfl⟩ := (range_eq_ok rfl).mp third
        obtain ⟨minWithin, rfl⟩ := (range_eq_ok rfl).mp fourth
        obtain ⟨fallWithin, rfl⟩ := (range_eq_ok rfl).mp fifth
        refine ⟨cc, found, ?_, whole, ⟨primariesWithin, whiteWithin, maxWithin, minWithin,
          fallWithin⟩, rfl⟩
        simpa using refuse_eq_none.mp (ensure_eq_ok.mp named)
      · intro done
        obtain ⟨other, is, named, whole, inRange, rfl⟩ := done
        obtain rfl : cc = other := Option.some.inj (found.symm.trans is)
        refine bind_eq_ok.mpr ⟨(), ensure_eq_ok.mpr (refuse_eq_none.mpr (by simpa using named)), ?_⟩
        refine bind_eq_ok.mpr ⟨_, (group_eq_ok (List.cons_ne_nil _ _)).mpr whole.primaries, ?_⟩
        refine bind_eq_ok.mpr ⟨_, (group_eq_ok (List.cons_ne_nil _ _)).mpr whole.white, ?_⟩
        refine bind_eq_ok.mpr ⟨_, (resolvePrimaries_eq_ok whole).mpr ⟨inRange.primaries, rfl⟩, ?_⟩
        refine bind_eq_ok.mpr ⟨_, (resolveWhite_eq_ok whole).mpr ⟨inRange.white, rfl⟩, ?_⟩
        refine bind_eq_ok.mpr ⟨_, (range_eq_ok rfl).mpr ⟨inRange.maxLuminance, rfl⟩, ?_⟩
        refine bind_eq_ok.mpr ⟨_, (range_eq_ok rfl).mpr ⟨inRange.minLuminance, rfl⟩, ?_⟩
        exact bind_eq_ok.mpr ⟨_, (range_eq_ok rfl).mpr ⟨inRange.maxFall, rfl⟩, rfl⟩

/-! ### What C accepts -/

private theorem groupBit_testBit (there : Bool) (index i : Nat) :
    (groupBit there index).testBit i = (there && decide (index = i)) := by
  cases there with
  | false => simp [groupBit]
  | true => simp [groupBit, Nat.testBit_two_pow]

namespace ColorSection

private theorem mask_testBit (ini : ColorSection) (found : Bool) (i : Nat) :
    (ini.mask found).testBit i =
      colorKeys.any fun key => ini.found key == found && decide (key.group = i) := by
  have from_start : ∀ (keys : List ColorKey) (start : Nat),
      (keys.foldl (fun mask key => mask ||| groupBit (ini.found key == found) key.group)
        start).testBit i =
        (start.testBit i ||
          keys.any fun key => ini.found key == found && decide (key.group = i)) := by
    intro keys
    induction keys with
    | nil => simp
    | cons key rest ih =>
        intro start
        rw [List.foldl_cons, ih, Nat.testBit_or, groupBit_testBit, List.any_cons, Bool.or_assoc]
  unfold mask
  rw [from_start, Nat.zero_testBit, Bool.false_or]

private theorem mask_and_bit (ini : ColorSection) (found : Bool) (i : Nat) :
    (ini.mask found &&& 2 ^ i != 0) =
      colorKeys.any fun key => ini.found key == found && decide (key.group = i) := by
  rw [← mask_testBit, Nat.and_two_pow]
  cases (ini.mask found).testBit i <;> simp

/-- No group is given in part. -/
private theorem parted_eq_false {ini : ColorSection} :
    ini.parted = false ↔ ∀ key ∈ colorKeys, ∀ other ∈ colorKeys, key.group = other.group →
      ini.found key = ini.found other := by
  unfold parted
  simp only [mask_and_bit]
  rw [List.any_eq_false]
  constructor
  · intro clear key member other listed same
    have apart := clear key member
    simp only [Bool.and_eq_true, List.any_eq_true, not_and, beq_iff_eq, decide_eq_true_eq] at apart
    cases first : ini.found key with
    | true =>
        cases second : ini.found other with
        | true => rfl
        | false => exact absurd ⟨other, listed, second, same.symm⟩ (apart ⟨key, member, first, rfl⟩)
    | false =>
        cases second : ini.found other with
        | true => exact absurd ⟨key, member, first, rfl⟩ (apart ⟨other, listed, second, same.symm⟩)
        | false => rfl
  · intro same key member
    simp only [Bool.and_eq_true, List.any_eq_true, not_and, beq_iff_eq, decide_eq_true_eq]
    intro there missing
    obtain ⟨first, left, yes, here⟩ := there
    obtain ⟨second, right, no, also⟩ := missing
    have equal := same first left second right (here.trans also.symm)
    rw [yes, no] at equal
    cases equal

theorem parse_eq_some {ini : ColorSection} {out : WestonColorCharacteristics} :
    ini.parseColorCharacteristics = some out ↔
      ':' ∉ ini.name.toList ∧ (∀ key ∈ colorKeys, (ini.keyval key).isSome = true) ∧
        ini.parted = false ∧ out = ini.built := by
  unfold parseColorCharacteristics
  split
  · rename_i good
    simp only [Bool.and_eq_true, Bool.not_eq_true', List.all_eq_true] at good
    obtain ⟨⟨named, valued⟩, whole⟩ := good
    have clear : ':' ∉ ini.name.toList := by simpa using named
    constructor
    · intro done
      cases done
      exact ⟨clear, valued, whole, rfl⟩
    · intro done
      rw [done.2.2.2]
  · rename_i bad
    constructor
    · intro done
      cases done
    · intro done
      refine absurd ?_ bad
      simpa [List.all_eq_true] using ⟨⟨done.1, done.2.1⟩, done.2.2.1⟩

/-- A value of the range is in the range of the singles. -/
private theorem keyval_within {ini : ColorSection} {key : ColorKey} {v : Option F64} {hi : F64}
    (read : ini.getDouble key.name = v.map some) (within : Within v hi)
    (low : key.minval = narrow zero) (high : key.maxval = narrow hi) :
    ini.keyval key = some (single v) := by
  unfold keyval
  rw [read]
  cases v with
  | none => rfl
  | some x =>
      obtain ⟨above, below⟩ := within x rfl
      have lower := narrow_le above
      have upper := narrow_le below
      rw [← low] at lower
      rw [← high] at upper
      simp [lower, upper, single]

end ColorSection

/-! ### Both -/

/-- The value under C's name of the key. -/
def iniValue (cc : Resolve.ColorCharacteristics) : String → Option F64
  | "red_x" => cc.redX
  | "red_y" => cc.redY
  | "green_x" => cc.greenX
  | "green_y" => cc.greenY
  | "blue_x" => cc.blueX
  | "blue_y" => cc.blueY
  | "white_x" => cc.whiteX
  | "white_y" => cc.whiteY
  | "max_L" => cc.maxLuminance
  | "min_L" => cc.minLuminance
  | "maxFALL" => cc.maxFall
  | _ => none

/-- The same section in the ini file. -/
def iniOf (name : String) (cc : Resolve.ColorCharacteristics) : ColorSection where
  name := name
  getDouble key := (iniValue cc key).map some

private theorem iniOf_keyval {name : String} {cc : Resolve.ColorCharacteristics}
    (inRange : InRange cc) :
    ∀ key ∈ colorKeys, (iniOf name cc).keyval key = some (single (iniValue cc key.name)) := by
  have chromaticity : (0x3f800000 : F32) = narrow one := by decide
  have luminance : (0x47c35000 : F32) = narrow luminanceLimit := by decide
  have low : (0 : F32) = narrow zero := narrow_zero.symm
  have primaries := inRange.primaries
  have white := inRange.white
  simp only [primaryKeys, whiteKeys, List.forall_mem_cons] at primaries white
  obtain ⟨redX, redY, greenX, greenY, blueX, blueY, _⟩ := primaries
  obtain ⟨whiteX, whiteY, _⟩ := white
  have keyval := @ColorSection.keyval_within (iniOf name cc)
  simp only [colorKeys, List.forall_mem_cons]
  exact ⟨keyval rfl redX low chromaticity, keyval rfl redY low chromaticity,
    keyval rfl greenX low chromaticity, keyval rfl greenY low chromaticity,
    keyval rfl blueX low chromaticity, keyval rfl blueY low chromaticity,
    keyval rfl whiteX low chromaticity, keyval rfl whiteY low chromaticity,
    keyval rfl inRange.maxLuminance low luminance, keyval rfl inRange.minLuminance low luminance,
    keyval rfl inRange.maxFall low luminance, fun key none => absurd none List.not_mem_nil⟩

private theorem iniOf_found (name : String) (cc : Resolve.ColorCharacteristics) (key : ColorKey) :
    (iniOf name cc).found key = (iniValue cc key.name).isSome := Option.isSome_map

private theorem iniOf_parted {name : String} {cc : Resolve.ColorCharacteristics} :
    (iniOf name cc).parted = false ↔ Whole cc := by
  rw [ColorSection.parted_eq_false]
  simp only [iniOf_found]
  constructor
  · intro same
    constructor
    · intro entry member
      have alike : ∀ key ∈ colorKeys, key.group = 0 →
          (iniValue cc key.name).isSome = cc.redX.isSome := fun key listed group =>
        same key listed _ List.mem_cons_self group
      simp [colorKeys, iniValue] at alike
      simp only [primaryKeys, List.mem_cons, List.not_mem_nil, or_false] at member
      grind
    · intro entry member
      have alike : ∀ key ∈ colorKeys, key.group = 1 →
          (iniValue cc key.name).isSome = cc.whiteX.isSome := fun key listed group =>
        same key listed ⟨"white_x", 1, 0, 0x3f800000⟩ (by decide) group
      simp [colorKeys, iniValue] at alike
      simp only [whiteKeys, List.mem_cons, List.not_mem_nil, or_false] at member
      grind
  · intro whole
    have primaries := whole.primaries
    have white := whole.white
    simp only [primaryKeys, whiteKeys, List.forall_mem_cons] at primaries white
    simp [colorKeys, iniValue, primaries, white]

private theorem single_none {v : Option F64} (absent : v.isSome = false) : single v = 0 := by
  rw [Option.isSome_eq_false_iff, Option.isNone_iff_eq_none] at absent
  rw [absent]
  rfl

private theorem iniOf_mask {name : String} {cc : Resolve.ColorCharacteristics} (whole : Whole cc) :
    (iniOf name cc).mask true = groupMask (narrowed cc) := by
  have primaries := whole.primaries
  have white := whole.white
  simp only [primaryKeys, whiteKeys, List.forall_mem_cons] at primaries white
  obtain ⟨_, redY, greenX, greenY, blueX, blueY, _⟩ := primaries
  obtain ⟨_, whiteY, _⟩ := white
  have six : (narrowed cc).primaries.isSome = cc.redX.isSome := by
    cases there : cc.redX.isSome <;> simp [narrowed, there]
  have two : (narrowed cc).white.isSome = cc.whiteX.isSome := by
    cases there : cc.whiteX.isSome <;> simp [narrowed, there]
  have luminances : (narrowed cc).maxLuminance.isSome = cc.maxLuminance.isSome ∧
      (narrowed cc).minLuminance.isSome = cc.minLuminance.isSome ∧
      (narrowed cc).maxFall.isSome = cc.maxFall.isSome := by
    simp [narrowed]
  have bits : ∀ a b c d e : Bool,
      0 ||| groupBit a 0 ||| groupBit a 0 ||| groupBit a 0 ||| groupBit a 0 ||| groupBit a 0 |||
        groupBit a 0 ||| groupBit b 1 ||| groupBit b 1 ||| groupBit c 2 ||| groupBit d 3 |||
        groupBit e 4 =
      0 ||| groupBit a 0 ||| groupBit b 1 ||| groupBit c 2 ||| groupBit d 3 ||| groupBit e 4 := by
    decide
  unfold groupMask ColorSection.mask
  rw [six, two, luminances.1, luminances.2.1, luminances.2.2]
  simp only [colorKeys, List.foldl_cons, List.foldl_nil, iniOf_found, iniValue, beq_true,
    redY, greenX, greenY, blueX, blueY, whiteY, bits]

/-- The record of a section that both accept. -/
private theorem iniOf_built {name : String} {cc : Resolve.ColorCharacteristics} (whole : Whole cc)
    (inRange : InRange cc) : (iniOf name cc).built = characteristicsToC (narrowed cc) := by
  have keyvals : colorKeys.map (fun key => ((iniOf name cc).keyval key).getD 0) =
      colorKeys.map fun key => single (iniValue cc key.name) :=
    List.map_congr_left fun key member => by
      rw [iniOf_keyval inRange key member, Option.getD_some]
  have primaries := whole.primaries
  have white := whole.white
  simp only [primaryKeys, whiteKeys, List.forall_mem_cons] at primaries white
  obtain ⟨_, redY, greenX, greenY, blueX, blueY, _⟩ := primaries
  obtain ⟨_, whiteY, _⟩ := white
  have six : (narrowed cc).primaries.getD ((0, 0), (0, 0), (0, 0)) =
      ((single cc.redX, single cc.redY), (single cc.greenX, single cc.greenY),
        (single cc.blueX, single cc.blueY)) := by
    cases there : cc.redX.isSome with
    | true => simp [narrowed, there]
    | false =>
        rw [there] at redY greenX greenY blueX blueY
        simp [narrowed, there, single_none there, single_none redY, single_none greenX,
          single_none greenY, single_none blueX, single_none blueY]
  have two : (narrowed cc).white.getD (0, 0) = (single cc.whiteX, single cc.whiteY) := by
    cases there : cc.whiteX.isSome with
    | true => simp [narrowed, there]
    | false =>
        rw [there] at whiteY
        simp [narrowed, there, single_none there, single_none whiteY]
  unfold ColorSection.built characteristicsToC
  rw [keyvals, iniOf_mask whole, six, two]
  simp [colorKeys, iniValue, narrowed, single]

/-- The mask says which fields are there. -/
private theorem groupMask_testBit (cc : ColorCharacteristics) :
    [0, 1, 2, 3, 4].map (groupMask cc).testBit =
      [cc.primaries.isSome, cc.white.isSome, cc.maxLuminance.isSome, cc.minLuminance.isSome,
        cc.maxFall.isSome] := by
  have bits : ∀ a b c d e : Bool,
      [0, 1, 2, 3, 4].map (0 ||| groupBit a 0 ||| groupBit b 1 ||| groupBit c 2 ||| groupBit d 3 |||
        groupBit e 4).testBit = [a, b, c, d, e] := by
    decide
  exact bits _ _ _ _ _

private theorem option_eq {Value : Type} {a b : Option Value} {absent : Value}
    (there : a.isSome = b.isSome)
    (same : a.getD absent = b.getD absent) : a = b := by
  cases a with
  | none => exact (Option.isNone_iff_eq_none.mp (by simpa using there.symm)).symm
  | some x =>
      obtain ⟨y, rfl⟩ := Option.isSome_iff_exists.mp there.symm
      exact congrArg some same

private theorem characteristicsToC_injective : Function.Injective characteristicsToC := by
  intro a b same
  have masks := congrArg WestonColorCharacteristics.groupMask same
  have bits := (groupMask_testBit a).symm.trans
    ((congrArg (fun mask => [0, 1, 2, 3, 4].map mask.testBit) masks).trans (groupMask_testBit b))
  simp only [List.cons.injEq, and_true] at bits
  obtain ⟨primaries, white, maxLuminance, minLuminance, maxFall⟩ := bits
  have first := option_eq primaries (congrArg WestonColorCharacteristics.primary same)
  have second := option_eq white (congrArg WestonColorCharacteristics.white same)
  have third := option_eq maxLuminance (congrArg WestonColorCharacteristics.maxLuminance same)
  have fourth := option_eq minLuminance (congrArg WestonColorCharacteristics.minLuminance same)
  have fifth := option_eq maxFall (congrArg WestonColorCharacteristics.maxFALL same)
  cases a
  cases b
  cases first
  cases second
  cases third
  cases fourth
  cases fifth
  rfl

/-- The frontend accepts a section when C does and no value is outside of its range
before it is rounded, and both hand libweston the same record. -/
theorem resolveCharacteristics_iff_parse {display : F64 → String} {settings : Settings}
    {ccName output : String} {result : ColorCharacteristics} :
    resolveCharacteristics display settings ccName output = .ok result ↔
      ∃ cc, sectionOf settings ccName = some cc ∧ InRange cc ∧
        (iniOf ccName cc).parseColorCharacteristics = some (characteristicsToC result) := by
  rw [resolveCharacteristics_eq_ok]
  refine exists_congr fun cc => and_congr_right fun _ => ?_
  rw [ColorSection.parse_eq_some, iniOf_parted]
  constructor
  · intro accepted
    obtain ⟨named, whole, inRange, rfl⟩ := accepted
    refine ⟨inRange, named, fun key member => ?_, whole, (iniOf_built whole inRange).symm⟩
    rw [iniOf_keyval inRange key member]
    rfl
  · intro accepted
    obtain ⟨inRange, named, _, whole, same⟩ := accepted
    have built := same.trans (iniOf_built whole inRange)
    exact ⟨named, whole, inRange, characteristicsToC_injective built⟩

end Westonite.Frontend
