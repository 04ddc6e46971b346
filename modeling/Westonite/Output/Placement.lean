import Mathlib.Algebra.Order.Ring.Cast
import Mathlib.Algebra.Order.Ring.Rat
import Mathlib.Data.List.Pairwise
import Mathlib.Data.Set.Prod
import Mathlib.Order.CompletePartialOrder
import Mathlib.Order.Interval.Set.Disjoint
import Westonite.Output.StagedHeads

/-! Where outputs are placed: from left to right in the order they come up, so that
those that mirror nothing keep clear of each other. -/

set_option autoImplicit false

namespace Westonite.Output

open Library

/-! ### Rectangles -/

/-- The right edge. -/
def WestonOutput.right (out : WestonOutput) : Coord := out.pos.1 + out.width

/-- The points of the global space an output shows. -/
def WestonOutput.rectangle (out : WestonOutput) : Set (Coord × Coord) :=
  Set.Ico out.pos.1 out.right ×ˢ Set.Ico out.pos.2 (out.pos.2 + out.height)

private theorem rectangle_disjoint {left right : WestonOutput} (apart : left.right ≤ right.pos.1) :
    Disjoint left.rectangle right.rectangle := by
  apply Set.disjoint_prod.mpr
  left
  rw [Set.Ico_disjoint_Ico]
  exact (min_le_left _ _).trans (apart.trans (le_max_right _ _))

/-- Up, and no mirror. -/
def World.IsNative (w : World) (output : OutputPtr) (out : WestonOutput) : Prop :=
  w.outputs output = some out ∧ out.enabled = true ∧ out.mirrorOf = none

def World.NativesDisjoint (w : World) : Prop :=
  ∀ first second left right, first ≠ second → w.IsNative first left → w.IsNative second right →
    Disjoint left.rectangle right.rectangle

/-! ### The operations -/

/-- What of an output says where it is. -/
def WestonOutput.place (out : WestonOutput) :
    Bool × Option OutputPtr × (Coord × Coord) × Int × Int :=
  (out.enabled, out.mirrorOf, out.pos, out.width, out.height)

/-- No output comes up, goes, moves or is resized. -/
structure SamePlaces (w now : World) : Prop where
  outputList : now.outputList = w.outputList
  nextOutput : w.nextOutput ≤ now.nextOutput
  listed : ∀ output ∈ w.outputList, (now.outputs output).map WestonOutput.place =
    (w.outputs output).map WestonOutput.place
  others : ∀ output out, output ∉ w.outputList → now.outputs output = some out →
    out.enabled = false ∧ output < now.nextOutput

inductive PlacementLabel where
  /-- `enable_head` for a head that mirrors nothing. -/
  | enableHead (head : HeadPtr) (setup : HeadSetup) (color : ColorSetup)
  /-- A try of `try_enable`. -/
  | tryEnable (output : OutputPtr)
  | destroy (output : OutputPtr)
  | quiet

/-- Outputs are enabled, each with the mirrors that its creation brings, and
destroyed, in any order. -/
inductive PlacementStep (answers : Answers) (policy : OutputPolicy) :
    World → PlacementLabel → World → Prop where
  | enableHead (w : World) (head : HeadPtr) (setup : HeadSetup) (color : ColorSetup) :
      PlacementStep answers policy w (.enableHead head setup color)
        (w.enableHead answers (World.outputCreated answers policy) head setup none color)
  | tryEnable (w : World) (output : OutputPtr) :
      PlacementStep answers policy w (.tryEnable output) (w.tryOnce answers policy output).2
  | destroy (w : World) (output : OutputPtr) :
      PlacementStep answers policy w (.destroy output) (w.destroyOutput output)
  | quiet {w now : World} (same : SamePlaces w now) : PlacementStep answers policy w .quiet now

namespace World

/-- The output enabled last. -/
def lastOutput (w : World) : Option WestonOutput := w.outputList.getLast?.bind w.outputs

/-- The outputs that are up and mirror nothing. -/
def natives (w : World) : List WestonOutput :=
  (w.outputList.filterMap w.outputs).filter fun out => out.mirrorOf.isNone

def sized (w : World) : Bool :=
  w.natives.all fun out => decide (0 < out.width) && decide (0 < out.height)

/-- The output enabled last ends within the integers, and, if it is a mirror, no
output that mirrors nothing ends further to the right. -/
def roomy (w : World) : Bool :=
  w.lastOutput.all fun last =>
    decide (last.right ≤ 2147483647) &&
      (last.mirrorOf.isNone || w.natives.all fun out => decide (out.right ≤ last.right))

/-- The step aligns a new output with the one enabled last. -/
def aligns (w : World) : PlacementLabel → Bool
  | .enableHead _ _ _ => true
  | .tryEnable output => !w.isEnabled output
  | .destroy _ | .quiet => false

end World

/-- Whenever an output is aligned, the others have a size. -/
def SizedStep (answers : Answers) (policy : OutputPolicy) (w : World) (label : PlacementLabel)
    (now : World) : Prop :=
  (w.aligns label = true → w.sized = true) ∧ PlacementStep answers policy w label now

/-- Whenever an output is aligned, there is also room for it. -/
def RoomyStep (answers : Answers) (policy : OutputPolicy) (w : World) (label : PlacementLabel)
    (now : World) : Prop :=
  (w.aligns label = true → w.roomy = true) ∧ SizedStep answers policy w label now

/-! ### Aligning -/

private theorem le_asI32_intCast {value : Int} (fits : value ≤ 2147483647) :
    value ≤ asI32 (value : Coord) := by
  unfold asI32
  rw [Rat.num_intCast, Rat.den_intCast, Nat.cast_one, Int.tdiv_one, min_eq_right fits]
  exact le_max_right _ _

/-- The outputs that are up are those of the list, and the ones that mirror nothing
stand from left to right in its order. -/
structure Placed (apart : Coord → Coord → Prop) (w : World) : Prop where
  listed : ∀ output ∈ w.outputList, ∃ out, w.outputs output = some out ∧ out.enabled = true
  enabled : ∀ output out, w.outputs output = some out → out.enabled = true →
    output ∈ w.outputList
  bounded : ∀ output out, w.outputs output = some out → output < w.nextOutput
  grid : ∀ output out, w.outputs output = some out → out.enabled = true →
    ∃ x : Int, out.pos.1 = x
  distinct : w.outputList.Nodup
  ordered : w.outputList.Pairwise fun first second => ∀ left right, w.IsNative first left →
    w.IsNative second right → apart left.right right.pos.1

variable {apart : Coord → Coord → Prop} {w now : World}

theorem Placed.nativesDisjoint (placed : Placed (· ≤ ·) w) : w.NativesDisjoint := by
  intro first second left right different isLeft isRight
  have disjoint : w.outputList.Pairwise fun first second => ∀ left right,
      w.IsNative first left → w.IsNative second right →
      Disjoint left.rectangle right.rectangle := by
    apply placed.ordered.imp
    intro first second order left right isLeft isRight
    exact rectangle_disjoint (order left right isLeft isRight)
  have symmetric : Std.Symm fun first second => ∀ left right, w.IsNative first left →
      w.IsNative second right → Disjoint left.rectangle right.rectangle := by
    constructor
    intro first second order left right isLeft isRight
    exact (order right left isRight isLeft).symm
  have firstListed := placed.enabled first left isLeft.1 isLeft.2.1
  have secondListed := placed.enabled second right isRight.1 isRight.2.1
  exact disjoint.forall firstListed secondListed different left right isLeft isRight

/-- An output on its way up is not in the list. -/
private theorem Placed.not_listed (placed : Placed apart w) {output : OutputPtr}
    (down : ∀ out, w.outputs output = some out → out.enabled = false) :
    output ∉ w.outputList := by
  intro member
  obtain ⟨out, there, up⟩ := placed.listed output member
  rw [down out there] at up
  cases up

theorem Placed.new (apart : Coord → Coord → Prop) (backends : List (BackendPtr × BackendKind))
    (useColorManager : Bool) : Placed apart (.new backends useColorManager) where
  listed _ member := by cases member
  enabled _ _ there := by cases there
  bounded _ _ there := by cases there
  grid _ _ there := by cases there
  distinct := List.nodup_nil
  ordered := .nil

/-! ### Calls that bring no output up -/

namespace SamePlaces

private theorem map_place {out : WestonOutput} {before after : Option WestonOutput}
    (same : after.map WestonOutput.place = before.map WestonOutput.place)
    (there : after = some out) : ∃ old, before = some old ∧ old.place = out.place := by
  rw [there, Option.map_some] at same
  obtain ⟨old, found, place⟩ := Option.map_eq_some_iff.mp same.symm
  exact ⟨old, found, place⟩

theorem old (same : SamePlaces w now) {output : OutputPtr} {out : WestonOutput}
    (there : now.outputs output = some out) (up : out.enabled = true) :
    output ∈ w.outputList ∧
      ∃ before, w.outputs output = some before ∧ before.place = out.place := by
  by_cases member : output ∈ w.outputList
  · exact ⟨member, map_place (same.listed output member) there⟩
  · rw [(same.others output out member there).1] at up
    cases up

theorem native (same : SamePlaces w now) {output : OutputPtr} {out : WestonOutput}
    (isNative : now.IsNative output out) :
    ∃ before, w.IsNative output before ∧ before.place = out.place := by
  obtain ⟨_, before, found, place⟩ := same.old isNative.1 isNative.2.1
  simp only [WestonOutput.place, Prod.mk.injEq] at place
  exact ⟨before, ⟨found, place.1.trans isNative.2.1, place.2.1.trans isNative.2.2⟩, by
    simp only [WestonOutput.place, Prod.mk.injEq]
    exact place⟩

private theorem right_eq {before after : WestonOutput} (place : before.place = after.place) :
    before.right = after.right ∧ before.pos = after.pos ∧ before.width = after.width := by
  simp only [WestonOutput.place, Prod.mk.injEq] at place
  refine ⟨?_, place.2.2.1, place.2.2.2.1⟩
  unfold WestonOutput.right
  rw [place.2.2.1, place.2.2.2.1]

theorem placed (same : SamePlaces w now) (placed : Placed apart w) : Placed apart now where
  listed output member := by
    rw [same.outputList] at member
    obtain ⟨out, there, up⟩ := placed.listed output member
    obtain ⟨after, found, place⟩ := map_place (same.listed output member).symm there
    simp only [WestonOutput.place, Prod.mk.injEq] at place
    exact ⟨after, found, place.1.trans up⟩
  enabled output out there up := by
    rw [same.outputList]
    exact (same.old there up).1
  bounded output out there := by
    by_cases member : output ∈ w.outputList
    · obtain ⟨before, found, _⟩ := map_place (same.listed output member) there
      exact Nat.lt_of_lt_of_le (placed.bounded output before found) same.nextOutput
    · exact (same.others output out member there).2
  grid output out there up := by
    obtain ⟨_, before, found, place⟩ := same.old there up
    have isUp := congrArg Prod.fst place
    obtain ⟨x, at_x⟩ := placed.grid output before found (isUp.trans up)
    exact ⟨x, by rw [← (right_eq place).2.1, at_x]⟩
  distinct := by
    rw [same.outputList]
    exact placed.distinct
  ordered := by
    rw [same.outputList]
    apply placed.ordered.imp
    intro first second order left right isLeft isRight
    obtain ⟨leftBefore, wasLeft, leftPlace⟩ := same.native isLeft
    obtain ⟨rightBefore, wasRight, rightPlace⟩ := same.native isRight
    rw [← (right_eq leftPlace).1, ← (right_eq rightPlace).2.1]
    exact order leftBefore rightBefore wasLeft wasRight

theorem of_same (placed : Placed apart w) (outputs : now.outputs = w.outputs)
    (outputList : now.outputList = w.outputList) (nextOutput : now.nextOutput = w.nextOutput) :
    SamePlaces w now where
  outputList := outputList
  nextOutput := Nat.le_of_eq nextOutput.symm
  listed output _ := by rw [outputs]
  others output out absent there := by
    rw [outputs] at there
    rw [nextOutput]
    refine ⟨?_, placed.bounded output out there⟩
    cases up : out.enabled with
    | false => rfl
    | true => exact absurd (placed.enabled output out there up) absent

theorem setOutput (placed : Placed apart w) {output : OutputPtr}
    (down : ∀ out, w.outputs output = some out → out.enabled = false)
    {change : WestonOutput → WestonOutput} (same : ∀ out, (change out).enabled = out.enabled) :
    SamePlaces w (w.setOutput output change) where
  outputList := rfl
  nextOutput := Nat.le_refl _
  listed other member := by
    change (Function.update w.outputs output _ other).map _ = _
    rw [Function.update_of_ne]
    rintro rfl
    exact placed.not_listed down member
  others other out absent there := by
    change Function.update w.outputs output _ other = some out at there
    rw [Function.update_apply] at there
    split at there
    · rename_i here
      obtain ⟨before, found, rfl⟩ := Option.map_eq_some_iff.mp there
      rw [same, down before found]
      exact ⟨rfl, here ▸ placed.bounded output before found⟩
    · refine ⟨?_, placed.bounded other out there⟩
      cases up : out.enabled with
      | false => rfl
      | true => exact absurd (placed.enabled other out there up) absent

theorem addOutput (placed : Placed apart w) (head : HeadPtr) (name : String)
    (backend : BackendPtr) :
    SamePlaces w (w.addOutput head name backend) where
  outputList := rfl
  nextOutput := Nat.le_succ _
  listed other member := by
    obtain ⟨out, there, _⟩ := placed.listed other member
    rw [addOutput_outputs, if_neg]
    exact Nat.ne_of_lt (placed.bounded other out there)
  others other out absent there := by
    rw [addOutput_outputs] at there
    split at there
    · rename_i here
      obtain rfl := Option.some.inj there
      exact ⟨rfl, here ▸ Nat.lt_succ_self w.nextOutput⟩
    · refine ⟨?_, Nat.lt_succ_of_lt (placed.bounded other out there)⟩
      cases up : out.enabled with
      | false => rfl
      | true => exact absurd (placed.enabled other out there up) absent

end SamePlaces

/-! ### An output on its way up -/

/-- Where `lazy_align` puts an output. -/
def World.nextX (w : World) : Int :=
  match w.lastOutput with
  | none => 0
  | some peer => asI32 peer.right

theorem lazyAlign_eq (w : World) (output : OutputPtr) :
    w.lazyAlign output = w.setOutput output fun out => { out with pos := ((w.nextX : Int), 0) } :=
  rfl

/-- No output that mirrors nothing reaches beyond this. -/
def World.ClearFrom (apart : Coord → Coord → Prop) (w : World) (x : Coord) : Prop :=
  ∀ output out, w.IsNative output out → apart out.right x

private theorem Placed.mem_natives (placed : Placed apart w) {output : OutputPtr}
    {out : WestonOutput}
    (isNative : w.IsNative output out) : out ∈ w.natives := by
  refine List.mem_filter.mpr ⟨?_, by rw [isNative.2.2]; rfl⟩
  exact List.mem_filterMap.mpr
    ⟨output, placed.enabled output out isNative.1 isNative.2.1, isNative.1⟩

/-- The output enabled last ends where the others have ended, if it is no mirror. -/
private theorem Placed.last_reaches (placed : Placed (· ≤ ·) w) (sized : w.sized = true)
    {last : OutputPtr}
    {peer : WestonOutput} (isLast : w.outputList.getLast? = some last)
    (isNative : w.IsNative last peer) : w.ClearFrom (· ≤ ·) peer.right := by
  intro output out other
  have listed := placed.enabled output out other.1 other.2.1
  obtain ⟨before, split⟩ := List.getLast?_eq_some_iff.mp isLast
  rw [split] at listed
  rcases List.mem_append.mp listed with earlier | here
  · have order := placed.ordered
    rw [split] at order
    have apart := (List.pairwise_append.mp order).2.2 output earlier last List.mem_cons_self out
      peer other isNative
    have positive := List.all_eq_true.mp sized peer (placed.mem_natives isNative)
    simp only [Bool.and_eq_true, decide_eq_true_eq] at positive
    have width : (0 : Coord) ≤ peer.width := Int.cast_nonneg (Int.le_of_lt positive.1)
    exact apart.trans (le_add_of_nonneg_right width)
  · obtain rfl := List.mem_singleton.mp here
    obtain rfl := Option.some.inj (other.1.symm.trans isNative.1)
    exact le_refl _

theorem Placed.clearFrom_nextX (placed : Placed (· ≤ ·) w) (sized : w.sized = true)
    (roomy : w.roomy = true) : w.ClearFrom (· ≤ ·) w.nextX := by
  unfold World.nextX
  cases isLast : w.lastOutput with
  | none =>
      intro output out isNative
      have listed := placed.enabled output out isNative.1 isNative.2.1
      unfold World.lastOutput at isLast
      cases tail : w.outputList.getLast? with
      | none =>
          rw [List.getLast?_eq_none_iff.mp tail] at listed
          cases listed
      | some last =>
          obtain ⟨found, there, _⟩ := placed.listed last (List.mem_of_getLast? tail)
          rw [tail, Option.bind_some, there] at isLast
          cases isLast
  | some peer =>
      unfold World.roomy at roomy
      rw [isLast, Option.all_some, Bool.and_eq_true, decide_eq_true_eq] at roomy
      obtain ⟨last, tail, there⟩ := Option.bind_eq_some_iff.mp isLast
      obtain ⟨found, same, up⟩ := placed.listed last (List.mem_of_getLast? tail)
      obtain rfl := Option.some.inj (there.symm.trans same)
      obtain ⟨x, grid⟩ := placed.grid last peer there up
      have reaches : w.ClearFrom (· ≤ ·) peer.right := by
        cases mirror : peer.mirrorOf with
        | none => exact placed.last_reaches sized tail ⟨there, up, mirror⟩
        | some source =>
            intro output out isNative
            have all := roomy.2
            rw [mirror] at all
            simp only [Option.isNone_some, Bool.false_or] at all
            exact of_decide_eq_true (List.all_eq_true.mp all out (placed.mem_natives isNative))
      have integral : peer.right = ((x + peer.width : Int) : Coord) := by
        unfold WestonOutput.right
        rw [grid, Int.cast_add]
      have fits : x + peer.width ≤ 2147483647 := by
        have bound := roomy.1
        rw [integral] at bound
        exact_mod_cast bound
      have aligned : peer.right ≤ (asI32 peer.right : Int) := by
        rw [integral]
        exact_mod_cast le_asI32_intCast fits
      intro output out isNative
      exact (reaches output out isNative).trans aligned

theorem SamePlaces.clearFrom (same : SamePlaces w now) {x : Coord} (clear : w.ClearFrom apart x) :
    now.ClearFrom apart x := by
  intro output out isNative
  obtain ⟨before, wasNative, place⟩ := same.native isNative
  rw [← (right_eq place).1]
  exact clear output before wasNative

theorem SamePlaces.nextX (same : SamePlaces w now) (placed : Placed apart w) :
    now.nextX = w.nextX := by
  unfold World.nextX World.lastOutput
  rw [same.outputList]
  cases tail : w.outputList.getLast? with
  | none => rfl
  | some last =>
      have member := List.mem_of_getLast? tail
      obtain ⟨peer, there, _⟩ := placed.listed last member
      obtain ⟨after, found, place⟩ := map_place (same.listed last member).symm there
      rw [Option.bind_some, Option.bind_some, there, found]
      dsimp only
      rw [(right_eq place).1]

/-- An output that is not up and stands where it may come up. -/
structure Waiting (apart : Coord → Coord → Prop) (w : World) (output : OutputPtr)
    (mirrorOf : Option OutputPtr) : Prop where
  placed : Placed apart w
  down : ∀ out, w.outputs output = some out → out.enabled = false
  mirrors : ∀ out, w.outputs output = some out → out.mirrorOf = mirrorOf
  grid : ∀ out, w.outputs output = some out → ∃ x : Int, out.pos.1 = x
  clear : mirrorOf = none → ∀ out, w.outputs output = some out → w.ClearFrom apart out.pos.1

/-- What the listeners of a created output do keeps the places. -/
def KeepsPlaces (apart : Coord → Coord → Prop) (created : OutputPtr → World → World) : Prop :=
  ∀ output w, Placed apart w → w.isEnabled output = true → Placed apart (created output w)

namespace Waiting

variable {output : OutputPtr} {mirrorOf : Option OutputPtr}

theorem of_same (waiting : Waiting apart w output mirrorOf) (outputs : now.outputs = w.outputs)
    (outputList : now.outputList = w.outputList) (nextOutput : now.nextOutput = w.nextOutput) :
    Waiting apart now output mirrorOf := by
  have same := SamePlaces.of_same waiting.placed outputs outputList nextOutput
  refine ⟨same.placed waiting.placed, ?_, ?_, ?_, ?_⟩
  · rw [outputs]
    exact waiting.down
  · rw [outputs]
    exact waiting.mirrors
  · rw [outputs]
    exact waiting.grid
  · intro native out there
    rw [outputs] at there
    exact same.clearFrom (waiting.clear native out there)

theorem call (waiting : Waiting apart w output mirrorOf) (answers : Answers) :
    Waiting apart (w.call answers).2 output mirrorOf :=
  waiting.of_same rfl rfl rfl

theorem setOutput (waiting : Waiting apart w output mirrorOf) {change : WestonOutput → WestonOutput}
    (same : ∀ out, (change out).enabled = out.enabled ∧ (change out).mirrorOf = out.mirrorOf ∧
      (change out).pos = out.pos) : Waiting apart (w.setOutput output change) output mirrorOf := by
  have places := SamePlaces.setOutput waiting.placed waiting.down fun out => (same out).1
  have before : ∀ out, (w.setOutput output change).outputs output = some out →
      ∃ old, w.outputs output = some old ∧ out.enabled = old.enabled ∧
        out.mirrorOf = old.mirrorOf ∧ out.pos = old.pos := by
    intro out there
    change Function.update w.outputs output _ output = some out at there
    rw [Function.update_self] at there
    obtain ⟨old, found, rfl⟩ := Option.map_eq_some_iff.mp there
    exact ⟨old, found, same old⟩
  refine ⟨places.placed waiting.placed, ?_, ?_, ?_, ?_⟩
  · intro out there
    obtain ⟨old, found, enabled, _⟩ := before out there
    rw [enabled, waiting.down old found]
  · intro out there
    obtain ⟨old, found, _, mirrors, _⟩ := before out there
    rw [mirrors, waiting.mirrors old found]
  · intro out there
    obtain ⟨old, found, _, _, pos⟩ := before out there
    rw [pos]
    exact waiting.grid old found
  · intro native out there
    obtain ⟨old, found, _, _, pos⟩ := before out there
    rw [pos]
    exact places.clearFrom (waiting.clear native old found)

theorem configureHead (waiting : Waiting apart w output mirrorOf) (answers : Answers)
    (setup : HeadSetup) (mirrors : Bool) (color : ColorSetup) :
    Waiting apart (w.configureHead answers output setup mirrors color).2 output mirrorOf := by
  have set : Waiting apart (w.setOutput output (World.configureSetup setup mirrors)) output
      mirrorOf := by
    apply waiting.setOutput
    intro out
    unfold World.configureSetup
    cases setup with
    | windowed => exact ⟨rfl, rfl, rfl⟩
    | vnc => exact ⟨rfl, rfl, rfl⟩
    | pipewire => exact ⟨rfl, rfl, rfl⟩
  unfold World.configureHead
  dsimp only
  split
  · exact set.call answers
  · split
    · exact (set.call answers).call answers
    · obtain ⟨calls, same⟩ := applyColor_calls answers _ color false
      rw [same]
      exact ((set.call answers).call answers).of_same rfl rfl rfl

theorem markEnabled (waiting : Waiting apart w output mirrorOf) {value : WestonOutput}
    (there : w.outputs output = some value) (geometry : Geometry) :
    Placed apart (w.markEnabled output geometry) := by
  have placed := waiting.placed
  have fresh : output ∉ w.outputList := placed.not_listed waiting.down
  have here : ∀ out, (w.markEnabled output geometry).outputs output = some out →
      out.pos = value.pos ∧ out.mirrorOf = value.mirrorOf := by
    intro out marked
    rw [markEnabled_outputs, if_pos rfl, there] at marked
    obtain rfl := Option.some.inj marked
    exact ⟨rfl, rfl⟩
  have elsewhere : ∀ other, other ≠ output →
      (w.markEnabled output geometry).outputs other = w.outputs other := by
    intro other different
    rw [markEnabled_outputs, if_neg different]
  have older : ∀ other out, other ≠ output → (w.markEnabled output geometry).IsNative other out →
      w.IsNative other out := by
    intro other out different isNative
    exact ⟨(elsewhere other different).symm.trans isNative.1, isNative.2⟩
  refine ⟨?_, ?_, ?_, ?_, ?_, ?_⟩
  · intro other member
    rcases List.mem_append.mp member with old | new
    · obtain ⟨out, found, up⟩ := placed.listed other old
      refine ⟨out, ?_, up⟩
      rw [elsewhere other fun same => fresh (same ▸ old), found]
    · obtain rfl := List.mem_singleton.mp new
      rw [markEnabled_outputs, if_pos rfl, there]
      exact ⟨_, rfl, rfl⟩
  · intro other out found up
    by_cases same : other = output
    · rw [same]
      exact List.mem_append_right _ List.mem_cons_self
    · rw [elsewhere other same] at found
      exact List.mem_append_left _ (placed.enabled other out found up)
  · intro other out found
    by_cases same : other = output
    · rw [same]
      exact placed.bounded output value there
    · rw [elsewhere other same] at found
      exact placed.bounded other out found
  · intro other out found up
    by_cases same : other = output
    · rw [same] at found
      obtain ⟨x, grid⟩ := waiting.grid value there
      exact ⟨x, by rw [(here out found).1, grid]⟩
    · rw [elsewhere other same] at found
      exact placed.grid other out found up
  · apply List.nodup_append.mpr
    refine ⟨placed.distinct, List.nodup_cons.mpr ⟨List.not_mem_nil, List.nodup_nil⟩, ?_⟩
    intro other old last new
    obtain rfl := List.mem_singleton.mp new
    rintro rfl
    exact fresh old
  · refine List.pairwise_append.mpr ⟨?_, List.pairwise_singleton _ _, ?_⟩
    · apply placed.ordered.imp_of_mem
      intro first second firstOld secondOld order left right isLeft isRight
      exact order left right (older first left (fun same => fresh (same ▸ firstOld)) isLeft)
        (older second right (fun same => fresh (same ▸ secondOld)) isRight)
    · intro other old last new left right isLeft isRight
      obtain rfl := List.mem_singleton.mp new
      obtain ⟨pos, mirrors⟩ := here right isRight.1
      have native : mirrorOf = none := by
        rw [← waiting.mirrors value there, ← mirrors]
        exact isRight.2.2
      rw [pos]
      apply waiting.clear native value there other
      exact older other left (fun same => fresh (same ▸ old)) isLeft

theorem enable (waiting : Waiting apart w output mirrorOf) {created : OutputPtr → World → World}
    (listens : KeepsPlaces apart created) (answers : Answers) :
    Placed apart (w.enable answers created output).2 := by
  rcases enable_cases w answers created output with ⟨_, down⟩ | ⟨_, value, found, _, up⟩
  · rw [down]
    exact (waiting.call answers).placed
  · rw [up]
    apply listens output _ ((waiting.call answers).markEnabled found _)
    unfold World.isEnabled
    rw [markEnabled_outputs, if_pos rfl]
    have there : (w.call answers).2.outputs output = some value := found
    rw [there]
    rfl

end Waiting

end Westonite.Output
