import Westonite.Output.Around
import Westonite.Output.Flush

/-! Where the mirrors of the remote heads point, kept through everything that
destroys no output they mirror. -/

set_option autoImplicit false

namespace Westonite.Output

variable {policy : OutputPolicy} {base w after : World}

/-- A remote head whose rule mirrors. -/
def World.IsMirror (policy : OutputPolicy) (w : World) (value : WestonHead) : Prop :=
  w.backendKind value.backend = some .vnc ∧ policy.hasMirrorOf value.name

/-- The output that a mirror of this name shows is there, with a name to mirror. -/
def World.Shows (policy : OutputPolicy) (w : World) (name : String) (mirrorOf : Option OutputPtr) :
    Prop :=
  ∃ source src, mirrorOf = some source ∧ w.outputs source = some src ∧ src.enabled = true ∧
    ∃ rule ∈ policy.rules, rule.name = name ∧ rule.mirrorOf = some src.name

/-- A head of the DRM backend. -/
def World.IsDrm (w : World) (head : HeadPtr) : Prop :=
  ∃ value, w.heads head = some value ∧ w.backendKind value.backend = some .drm

/-- Every mirror that is up shows a live output, every reference is to an output
that was created, and only DRM heads are staged. -/
structure Mirrored (policy : OutputPolicy) (w : World) : Prop where
  shows : ∀ head value output out, w.heads head = some value → w.IsMirror policy value →
    value.output = some output → w.outputs output = some out → out.enabled = true →
    w.Shows policy value.name out.mirrorOf
  outputs : ∀ output out, w.outputs output = some out → output < w.nextOutput
  attached : ∀ head value output, w.heads head = some value → value.output = some output →
    output < w.nextOutput
  staged : ∀ group ∈ w.layoutputs, ∀ head, some head ∈ group.add → w.IsDrm head
  listed : ∀ head value, w.heads head = some value → head ∈ w.headList

/-- What the mirrors depend on in an output. -/
def WestonOutput.identity (out : WestonOutput) : String × Bool × Option OutputPtr :=
  (out.name, out.enabled, out.mirrorOf)

def WestonHead.identity (head : WestonHead) : String × BackendPtr := (head.name, head.backend)

/-- Names and mirrors stay, and heads move only to outputs where no mirror is. -/
structure Calm (w after : World) : Prop where
  outputs : ∀ output, (after.outputs output).map WestonOutput.identity =
    (w.outputs output).map WestonOutput.identity
  nextOutput : after.nextOutput = w.nextOutput
  heads : ∀ head, (after.heads head).map WestonHead.identity =
    (w.heads head).map WestonHead.identity
  attached : ∀ head value output, after.heads head = some value → value.output = some output →
    w.outputOf head = some output ∨
      output < w.nextOutput ∧ w.backendKind value.backend = some .drm
  backends : after.backends = w.backends
  staged : ∀ group ∈ after.layoutputs, ∀ head, some head ∈ group.add →
    (∃ old ∈ w.layoutputs, some head ∈ old.add) ∨ w.IsDrm head
  headList : after.headList = w.headList
  cells : after.cells = w.cells

theorem identity_of_map {Value Identity : Type} {identity : Value → Identity}
    {before later : Option Value} (same : later.map identity = before.map identity) {value : Value}
    (found : later = some value) : ∃ old, before = some old ∧ identity value = identity old := by
  rw [found, Option.map_some] at same
  obtain ⟨old, there, equal⟩ := Option.map_eq_some_iff.mp same.symm
  exact ⟨old, there, equal.symm⟩

theorem Calm.backendKind (calm : Calm w after) (backend : BackendPtr) :
    after.backendKind backend = w.backendKind backend := by
  unfold World.backendKind
  rw [calm.backends]

theorem Calm.shows (calm : Calm w after) {name : String} {mirrorOf : Option OutputPtr}
    (shows : w.Shows policy name mirrorOf) : after.Shows policy name mirrorOf := by
  obtain ⟨source, src, same, found, up, rule, member, named, mirrors⟩ := shows
  obtain ⟨later, there, identity⟩ := identity_of_map (calm.outputs source).symm found
  simp only [WestonOutput.identity, Prod.mk.injEq] at identity
  obtain ⟨sameName, sameUp, _⟩ := identity
  exact ⟨source, later, same, there, sameUp ▸ up, rule, member, named, sameName ▸ mirrors⟩

theorem Calm.isDrm (calm : Calm w after) {head : HeadPtr} (drm : w.IsDrm head) :
    after.IsDrm head := by
  obtain ⟨value, found, kind⟩ := drm
  obtain ⟨later, there, identity⟩ := identity_of_map (calm.heads head).symm found
  simp only [WestonHead.identity, Prod.mk.injEq] at identity
  refine ⟨later, there, ?_⟩
  rw [calm.backendKind, ← identity.2]
  exact kind

private theorem Calm.isMirror (calm : Calm w after) {value old : WestonHead}
    (identity : value.identity = old.identity) (mirror : after.IsMirror policy value) :
    w.IsMirror policy old := by
  simp only [WestonHead.identity, Prod.mk.injEq] at identity
  obtain ⟨vnc, mirrors⟩ := mirror
  rw [calm.backendKind] at vnc
  exact ⟨identity.2 ▸ vnc, identity.1 ▸ mirrors⟩

/-- A mirror is after a calm call where it was before. -/
theorem Calm.mirror (calm : Calm w after) {head : HeadPtr} {value : WestonHead}
    {output : OutputPtr} (found : after.heads head = some value)
    (mirror : after.IsMirror policy value) (on : value.output = some output) :
    ∃ old, w.heads head = some old ∧ w.IsMirror policy old ∧ old.output = some output ∧
      old.name = value.name := by
  obtain ⟨old, foundOld, identity⟩ := identity_of_map (calm.heads head) found
  have before := calm.isMirror identity mirror
  refine ⟨old, foundOld, before, ?_, (congrArg Prod.fst identity).symm⟩
  rcases calm.attached head value output found on with onBefore | ⟨_, drm⟩
  · rwa [World.outputOf, foundOld, Option.bind_some] at onBefore
  · rw [← calm.backendKind, mirror.1] at drm
    cases drm

theorem Mirrored.calm (mirrored : Mirrored policy w) (calm : Calm w after) :
    Mirrored policy after where
  shows head value output out found mirror on there up := by
    obtain ⟨old, foundOld, before, onOld, name⟩ := calm.mirror found mirror on
    obtain ⟨outOld, thereOld, identity⟩ := identity_of_map (calm.outputs output) there
    simp only [WestonOutput.identity, Prod.mk.injEq] at identity
    rw [identity.2.2, ← name]
    apply calm.shows
    exact mirrored.shows head old output outOld foundOld before onOld thereOld (identity.2.1 ▸ up)
  outputs output out there := by
    obtain ⟨before, thereBefore, _⟩ := identity_of_map (calm.outputs output) there
    rw [calm.nextOutput]
    exact mirrored.outputs output before thereBefore
  attached head value output found on := by
    rw [calm.nextOutput]
    obtain ⟨old, foundOld, _⟩ := identity_of_map (calm.heads head) found
    rcases calm.attached head value output found on with onBefore | ⟨bound, _⟩
    · rw [World.outputOf, foundOld, Option.bind_some] at onBefore
      exact mirrored.attached head old output foundOld onBefore
    · exact bound
  staged group member head staged := by
    apply calm.isDrm
    rcases calm.staged group member head staged with ⟨old, there, before⟩ | drm
    · exact mirrored.staged old there head before
    · exact drm
  listed head value found := by
    obtain ⟨old, foundOld, _⟩ := identity_of_map (calm.heads head) found
    rw [calm.headList]
    exact mirrored.listed head old foundOld

theorem Calm.refl (w : World) : Calm w w where
  outputs _ := rfl
  nextOutput := rfl
  heads _ := rfl
  attached head value output found on := .inl (by rw [World.outputOf, found, Option.bind_some, on])
  backends := rfl
  staged group member head staged := .inl ⟨group, member, staged⟩
  headList := rfl
  cells := rfl

theorem Calm.trans {middle : World} (first : Calm w middle) (second : Calm middle after) :
    Calm w after where
  outputs output := (second.outputs output).trans (first.outputs output)
  nextOutput := second.nextOutput.trans first.nextOutput
  heads head := (second.heads head).trans (first.heads head)
  attached head value output found on := by
    obtain ⟨old, foundOld, identity⟩ := identity_of_map (second.heads head) found
    simp only [WestonHead.identity, Prod.mk.injEq] at identity
    rcases second.attached head value output found on with before | ⟨bound, drm⟩
    · rw [World.outputOf, foundOld, Option.bind_some] at before
      rw [identity.2]
      exact first.attached head old output foundOld before
    · exact .inr ⟨first.nextOutput ▸ bound, first.backendKind _ ▸ drm⟩
  backends := second.backends.trans first.backends
  staged group member head staged := by
    rcases second.staged group member head staged with ⟨old, there, before⟩ | ⟨value, found, drm⟩
    · exact first.staged old there head before
    · obtain ⟨old, foundOld, identity⟩ := identity_of_map (first.heads head) found
      simp only [WestonHead.identity, Prod.mk.injEq] at identity
      rw [first.backendKind, identity.2] at drm
      exact .inr ⟨old, foundOld, drm⟩
  headList := second.headList.trans first.headList
  cells := second.cells.trans first.cells

/-! ### Calm calls -/

theorem Calm.of_same (outputs : after.outputs = w.outputs)
    (nextOutput : after.nextOutput = w.nextOutput) (heads : after.heads = w.heads)
    (backends : after.backends = w.backends) (layoutputs : after.layoutputs = w.layoutputs)
    (headList : after.headList = w.headList) (cells : after.cells = w.cells) : Calm w after where
  outputs output := by rw [outputs]
  nextOutput := nextOutput
  heads head := by rw [heads]
  attached head value output found on := by
    rw [heads] at found
    exact .inl (by rw [World.outputOf, found, Option.bind_some, on])
  backends := backends
  staged group member head staged := .inl ⟨group, layoutputs ▸ member, staged⟩
  headList := headList
  cells := cells

theorem Calm.setOutput (w : World) (output : OutputPtr) {change : WestonOutput → WestonOutput}
    (same : ∀ out, (change out).identity = out.identity) : Calm w (w.setOutput output change) where
  outputs other := by
    change (Function.update w.outputs output _ other).map _ = _
    rw [Function.update_apply]
    split
    · rename_i here
      rw [here, Option.map_map]
      congr 1
      funext out
      exact same out
    · rfl
  nextOutput := rfl
  heads _ := rfl
  attached head value output found on := .inl (by
    have there : w.heads head = some value := found
    rw [World.outputOf, there, Option.bind_some, on])
  backends := rfl
  staged group member head staged := .inl ⟨group, member, staged⟩
  headList := rfl
  cells := rfl

theorem Calm.setHead (w : World) (head : HeadPtr) {change : WestonHead → WestonHead}
    (same : ∀ value, (change value).identity = value.identity)
    (off : ∀ value output, w.heads head = some value → (change value).output = some output →
      value.output = some output ∨
        output < w.nextOutput ∧ w.backendKind value.backend = some .drm) :
    Calm w (w.setHead head change) where
  outputs _ := rfl
  nextOutput := rfl
  heads other := by
    rw [setHead_heads]
    split
    · rename_i here
      rw [here, Option.map_map]
      congr 1
      funext value
      exact same value
    · rfl
  attached other value output found on := by
    rw [setHead_heads] at found
    split at found
    · rename_i here
      obtain ⟨old, there, rfl⟩ := Option.map_eq_some_iff.mp found
      have backend : (change old).backend = old.backend := congrArg Prod.snd (same old)
      rcases off old output there on with before | drm
      · exact .inl (by rw [here, World.outputOf, there, Option.bind_some, before])
      · exact .inr (backend ▸ drm)
    · exact .inl (by rw [World.outputOf, found, Option.bind_some, on])
  backends := rfl
  staged group member head staged := .inl ⟨group, member, staged⟩
  headList := rfl
  cells := rfl

theorem Calm.call (w : World) (answers : Answers) : Calm w (w.call answers).2 :=
  .of_same rfl rfl rfl rfl rfl rfl rfl

theorem Calm.fail (w : World) : Calm w w.fail := .of_same rfl rfl rfl rfl rfl rfl rfl

theorem Calm.registerHead (w : World) (head : HeadPtr) : Calm w (w.registerHead head) := by
  unfold World.registerHead
  split <;> exact .of_same rfl rfl rfl rfl rfl rfl rfl

theorem Calm.registerOutput (w : World) (output : OutputPtr) :
    Calm w (w.registerOutput output) := by
  unfold World.registerOutput
  split <;> exact .of_same rfl rfl rfl rfl rfl rfl rfl

theorem Calm.resetDeviceChanged (w : World) (head : HeadPtr) :
    Calm w (w.resetDeviceChanged head) :=
  .setHead w head (fun _ => rfl) fun _ _ _ => .inl

theorem Calm.detachHead (w : World) (head : HeadPtr) : Calm w (w.detachHead head) :=
  .setHead w head (fun _ => rfl) fun _ _ _ none => by cases none

theorem Calm.lazyAlign (w : World) (output : OutputPtr) : Calm w (w.lazyAlign output) :=
  .setOutput w output fun _ => rfl

theorem Calm.applyColor (w : World) (answers : Answers) (color : ColorSetup) (full : Bool) :
    Calm w (w.applyColor answers color full).2 := by
  obtain ⟨calls, same⟩ := applyColor_calls answers w color full
  rw [same]
  exact .of_same rfl rfl rfl rfl rfl rfl rfl

theorem Calm.applyMirrorModeline (w : World) (source output : OutputPtr) :
    Calm w (w.applyMirrorModeline source output) := by
  unfold World.applyMirrorModeline
  split
  · exact .of_same rfl rfl rfl rfl rfl rfl rfl
  · dsimp only
    split
    · exact .fail w
    · exact .setOutput w output fun _ => rfl

/-! ### An output on its way up -/

/-- No mirror that is up shows this output. -/
def World.Unmirrored (policy : OutputPolicy) (w : World) (source : OutputPtr) : Prop :=
  ∀ head value output out, w.heads head = some value → w.IsMirror policy value →
    value.output = some output → w.outputs output = some out → out.enabled = true →
    out.mirrorOf ≠ some source

/-- An output that is not up, that nothing mirrors, and whose heads may have it as
a mirror of what it mirrors. -/
structure Pending (policy : OutputPolicy) (w : World) (output : OutputPtr)
    (mirrorOf : Option OutputPtr) : Prop where
  unmirrored : w.Unmirrored policy output
  down : ∃ out, w.outputs output = some out ∧ out.enabled = false ∧ out.mirrorOf = mirrorOf
  right : ∀ head value, w.heads head = some value → w.IsMirror policy value →
    value.output = some output → w.Shows policy value.name mirrorOf

theorem Calm.unmirrored (calm : Calm w after) {source : OutputPtr}
    (unmirrored : w.Unmirrored policy source) : after.Unmirrored policy source := by
  intro head value output out found mirror on there up
  obtain ⟨old, foundOld, before, onOld, _⟩ := calm.mirror found mirror on
  obtain ⟨outOld, thereOld, identity⟩ := identity_of_map (calm.outputs output) there
  simp only [WestonOutput.identity, Prod.mk.injEq] at identity
  rw [identity.2.2]
  exact unmirrored head old output outOld foundOld before onOld thereOld (identity.2.1 ▸ up)

theorem Pending.calm {output : OutputPtr} {mirrorOf : Option OutputPtr}
    (pending : Pending policy w output mirrorOf) (calm : Calm w after) :
    Pending policy after output mirrorOf where
  unmirrored := calm.unmirrored pending.unmirrored
  down := by
    obtain ⟨out, there, isDown, mirrors⟩ := pending.down
    obtain ⟨later, thereLater, identity⟩ := identity_of_map (calm.outputs output).symm there
    simp only [WestonOutput.identity, Prod.mk.injEq] at identity
    exact ⟨later, thereLater, identity.2.1 ▸ isDown, identity.2.2 ▸ mirrors⟩
  right head value found mirror on := by
    obtain ⟨old, foundOld, before, onOld, name⟩ := calm.mirror found mirror on
    apply calm.shows
    rw [← name]
    exact pending.right head old foundOld before onOld

/-- An output that nothing mirrors goes. -/
theorem Mirrored.destroyOutput (mirrored : Mirrored policy w) {output : OutputPtr}
    (unmirrored : w.Unmirrored policy output) : Mirrored policy (w.destroyOutput output) := by
  have heads : ∀ head value, (w.destroyOutput output).heads head = some value →
      ∃ old, w.heads head = some old ∧ value.identity = old.identity ∧
        ∀ other, value.output = some other → old.output = some other := by
    intro head value found
    obtain ⟨old, there, same⟩ := Option.map_eq_some_iff.mp found
    refine ⟨old, there, ?_, ?_⟩
    · rw [← same]
      split <;> rfl
    · intro other on
      rw [← same] at on
      split at on
      · cases on
      · exact on
  have outputs : ∀ other out, (w.destroyOutput output).outputs other = some out →
      w.outputs other = some out := by
    intro other out there
    rw [destroyOutput_outputs] at there
    split at there
    · cases there
    · exact there
  constructor
  · intro head value other out found mirror on there up
    obtain ⟨old, foundOld, identity, before⟩ := heads head value found
    simp only [WestonHead.identity, Prod.mk.injEq] at identity
    have wasMirror : w.IsMirror policy old := ⟨identity.2 ▸ mirror.1, identity.1 ▸ mirror.2⟩
    obtain ⟨source, src, same, live, rest⟩ := mirrored.shows head old other out foundOld wasMirror
      (before other on) (outputs other out there) up
    have different : source ≠ output := by
      rintro rfl
      exact unmirrored head old other out foundOld wasMirror (before other on)
        (outputs other out there) up same
    refine ⟨source, src, same, ?_, identity.1 ▸ rest⟩
    rw [destroyOutput_outputs, if_neg different, live]
  · exact fun other out there => mirrored.outputs other out (outputs other out there)
  · intro head value other found on
    obtain ⟨old, foundOld, _, before⟩ := heads head value found
    exact mirrored.attached head old other foundOld (before other on)
  · intro group member head staged
    obtain ⟨value, found, kind⟩ := mirrored.staged group member head staged
    refine ⟨if value.output = some output then { value with output := none } else value, ?_, ?_⟩
    · change (w.heads head).map _ = _
      rw [found, Option.map_some]
    · split <;> exact kind
  · intro head value found
    obtain ⟨old, foundOld, _⟩ := heads head value found
    exact mirrored.listed head old foundOld

/-- A new output is not up, nothing mirrors it, and one head is on it. -/
structure Bare (policy : OutputPolicy) (w : World) (output : OutputPtr) (head : HeadPtr) : Prop
    where
  unmirrored : w.Unmirrored policy output
  down : ∃ out, w.outputs output = some out ∧ out.enabled = false ∧ out.mirrorOf = none
  only : ∀ other value, w.heads other = some value → value.output = some output → other = head

theorem addOutput_heads {head other : HeadPtr} {later : WestonHead} {name : String}
    {backend : BackendPtr} (there : (w.addOutput head name backend).heads other = some later) :
    ∃ old, w.heads other = some old ∧ later.identity = old.identity ∧
      ∀ output, later.output = some output →
        old.output = some output ∨ other = head ∧ output = w.nextOutput := by
  change (w.setHead head _).heads other = some later at there
  rw [setHead_heads] at there
  split at there
  · rename_i here
    obtain ⟨old, foundOld, rfl⟩ := Option.map_eq_some_iff.mp there
    exact ⟨old, here ▸ foundOld, rfl, fun output on => .inr ⟨here, (Option.some.inj on).symm⟩⟩
  · exact ⟨later, there, rfl, fun _ => .inl⟩

private theorem addOutput_shows (mirrored : Mirrored policy w) {head : HeadPtr}
    {name output : String}
    {backend : BackendPtr} {mirrorOf : Option OutputPtr} (shows : w.Shows policy name mirrorOf) :
    (w.addOutput head output backend).Shows policy name mirrorOf := by
  obtain ⟨source, src, same, live, rest⟩ := shows
  refine ⟨source, src, same, ?_, rest⟩
  rw [addOutput_outputs, if_neg, live]
  exact Nat.ne_of_lt (mirrored.outputs source src live)

theorem Mirrored.addOutput (mirrored : Mirrored policy w) (head : HeadPtr) (name : String)
    (backend : BackendPtr) :
    Mirrored policy (w.addOutput head name backend) ∧
      Bare policy (w.addOutput head name backend) w.nextOutput head := by
  have older : ∀ output out, (w.addOutput head name backend).outputs output = some out →
      out.enabled = true → w.outputs output = some out := by
    intro output out there up
    rw [addOutput_outputs] at there
    split at there
    · obtain rfl := Option.some.inj there
      cases up
    · exact there
  have before : ∀ other later output out,
      (w.addOutput head name backend).heads other = some later →
      (w.addOutput head name backend).IsMirror policy later → later.output = some output →
      (w.addOutput head name backend).outputs output = some out → out.enabled = true →
      w.Shows policy later.name out.mirrorOf := by
    intro other later output out found mirror on there up
    obtain ⟨old, foundOld, identity, places⟩ := addOutput_heads found
    simp only [WestonHead.identity, Prod.mk.injEq] at identity
    have thereOld := older output out there up
    rcases places output on with onOld | ⟨_, fresh⟩
    · rw [identity.1]
      exact mirrored.shows other old output out foundOld
        ⟨identity.2 ▸ mirror.1, identity.1 ▸ mirror.2⟩ onOld thereOld up
    · have bound := mirrored.outputs output out thereOld
      rw [fresh] at bound
      exact absurd bound (Nat.lt_irrefl _)
  refine ⟨⟨?_, ?_, ?_, ?_, ?_⟩, ?_, ?_, ?_⟩
  · intro other later output out found mirror on there up
    exact addOutput_shows mirrored (before other later output out found mirror on there up)
  · intro output out there
    rw [addOutput_outputs] at there
    split at there
    · rename_i here
      rw [here]
      exact Nat.lt_succ_self _
    · exact Nat.lt_succ_of_lt (mirrored.outputs output out there)
  · intro other later output found on
    obtain ⟨old, foundOld, _, places⟩ := addOutput_heads found
    rcases places output on with onOld | ⟨_, rfl⟩
    · exact Nat.lt_succ_of_lt (mirrored.attached other old output foundOld onOld)
    · exact Nat.lt_succ_self _
  · intro group member other staged
    obtain ⟨value, found, kind⟩ := mirrored.staged group member other staged
    by_cases here : other = head
    · refine ⟨{ value with output := some w.nextOutput }, ?_, kind⟩
      change (w.setHead head _).heads other = _
      rw [setHead_heads, if_pos here, ← here, found]
      rfl
    · refine ⟨value, ?_, kind⟩
      change (w.setHead head _).heads other = _
      rw [setHead_heads, if_neg here, found]
  · intro other later found
    obtain ⟨old, foundOld, _⟩ := addOutput_heads found
    exact mirrored.listed other old foundOld
  · intro other later output out found mirror on there up same
    obtain ⟨source, src, shows, live, _⟩ := before other later output out found mirror on there up
    obtain rfl := Option.some.inj (same.symm.trans shows)
    exact Nat.lt_irrefl _ (mirrored.outputs _ src live)
  · refine ⟨.created name backend, ?_, rfl, rfl⟩
    rw [addOutput_outputs, if_pos rfl]
  · intro other later found on
    obtain ⟨old, foundOld, _, places⟩ := addOutput_heads found
    rcases places _ on with onOld | ⟨here, _⟩
    · exact absurd (mirrored.attached other old _ foundOld onOld) (Nat.lt_irrefl _)
    · exact here

/-- The new output of a head that may mirror what it is placed over. -/
theorem Bare.pending {output : OutputPtr} {head : HeadPtr} (bare : Bare policy w output head)
    (right : ∀ value, w.heads head = some value → ¬ w.IsMirror policy value) :
    Pending policy w output none where
  unmirrored := bare.unmirrored
  down := bare.down
  right other value found mirror on := by
    obtain rfl := bare.only other value found on
    exact absurd mirror (right value found)

theorem Bare.placeOutput {output source : OutputPtr} {head : HeadPtr}
    (bare : Bare policy w output head) (mirrored : Mirrored policy w)
    (right : ∀ value, w.heads head = some value → w.IsMirror policy value →
      w.Shows policy value.name (some source)) :
    Mirrored policy (w.placeOutput output (some source)) ∧
      Pending policy (w.placeOutput output (some source)) output (some source) := by
  obtain ⟨new, foundNew, down, _⟩ := bare.down
  have outputs : ∀ other, (w.placeOutput output (some source)).outputs other =
      if other = output then (w.outputs output).map fun value =>
        { value with
          mirrorOf := some source
          pos := ((w.outputs source).map WestonOutput.pos).getD (0, 0) }
      else w.outputs other := Function.update_apply w.outputs output _
  have older : ∀ other out, (w.placeOutput output (some source)).outputs other = some out →
      out.enabled = true → w.outputs other = some out := by
    intro other out there up
    rw [outputs] at there
    split at there
    · rw [foundNew] at there
      obtain rfl := Option.some.inj there
      exact absurd (down.symm.trans up) Bool.false_ne_true
    · exact there
  have keeps : ∀ name mirrorOf, w.Shows policy name mirrorOf →
      (w.placeOutput output (some source)).Shows policy name mirrorOf := by
    rintro name mirrorOf ⟨place, src, same, live, up, rest⟩
    refine ⟨place, src, same, ?_, up, rest⟩
    rw [outputs, if_neg, live]
    rintro rfl
    obtain rfl := Option.some.inj (live.symm.trans foundNew)
    exact absurd (down.symm.trans up) Bool.false_ne_true
  refine ⟨⟨?_, ?_, mirrored.attached, mirrored.staged, mirrored.listed⟩, ?_, ?_, ?_⟩
  · intro other value place out found mirror on there up
    exact keeps _ _ (mirrored.shows other value place out found mirror on
      (older place out there up) up)
  · intro other out there
    rw [outputs] at there
    split at there
    · rename_i here
      rw [here]
      exact mirrored.outputs output new foundNew
    · exact mirrored.outputs other out there
  · intro other value place out found mirror on there up
    exact bare.unmirrored other value place out found mirror on (older place out there up) up
  · rw [outputs, if_pos rfl, foundNew]
    exact ⟨_, rfl, down, rfl⟩
  · intro other value found mirror on
    obtain rfl := bare.only other value found on
    exact keeps _ _ (right value found mirror)

/-- An output comes up with mirrors on it that show what it mirrors. -/
theorem Mirrored.markEnabled (mirrored : Mirrored policy w) {output : OutputPtr}
    {mirrorOf : Option OutputPtr} (pending : Pending policy w output mirrorOf)
    (geometry : Geometry) : Mirrored policy (w.markEnabled output geometry) := by
  obtain ⟨new, foundNew, _, mirrors⟩ := pending.down
  have keeps : ∀ name mirrorOf, w.Shows policy name mirrorOf →
      (w.markEnabled output geometry).Shows policy name mirrorOf := by
    rintro name mirrorOf ⟨source, src, same, live, up, rest⟩
    by_cases here : source = output
    · subst here
      have there := markEnabled_outputs w source source geometry
      rw [if_pos rfl, live, Option.map_some] at there
      exact ⟨source, _, same, there, rfl, rest⟩
    · refine ⟨source, src, same, ?_, up, rest⟩
      rw [markEnabled_outputs, if_neg here, live]
  refine ⟨?_, ?_, mirrored.attached, mirrored.staged, mirrored.listed⟩
  · intro head value other out found mirror on there up
    rw [markEnabled_outputs] at there
    split at there
    · rename_i here
      rw [foundNew] at there
      obtain rfl := Option.some.inj there
      rw [here] at on
      dsimp only
      rw [mirrors]
      exact keeps _ _ (pending.right head value found mirror on)
    · exact keeps _ _ (mirrored.shows head value other out found mirror on there up)
  · intro other out there
    rw [markEnabled_outputs] at there
    split at there
    · rename_i here
      rw [here]
      exact mirrored.outputs output new foundNew
    · exact mirrored.outputs other out there

/-! ### Whole functions -/

/-- What the listeners of a created output do keeps the mirrors. -/
def KeepsMirrors (policy : OutputPolicy) (created : OutputPtr → World → World) : Prop :=
  ∀ output w, Mirrored policy w → w.isEnabled output = true → Mirrored policy (created output w)

variable {created : OutputPtr → World → World}

theorem Mirrored.enable (mirrored : Mirrored policy w) (keeps : KeepsMirrors policy created)
    (answers : Answers) {output : OutputPtr} {mirrorOf : Option OutputPtr}
    (pending : Pending policy w output mirrorOf) :
    Mirrored policy (w.enable answers created output).2 ∧
      ((w.enable answers created output).1 = false →
        Calm w (w.enable answers created output).2) := by
  have calm := Calm.call w answers
  rcases enable_cases w answers created output with ⟨_, down⟩ | ⟨up, value, found, _, after⟩
  · rw [down]
    exact ⟨mirrored.calm calm, fun _ => calm⟩
  · rw [up, after]
    refine ⟨?_, fun impossible => by cases impossible⟩
    apply keeps
    · exact (mirrored.calm calm).markEnabled (pending.calm calm) _
    · have there : ((w.call answers).2).outputs output = some value := found
      unfold World.isEnabled
      rw [markEnabled_outputs, if_pos rfl, there]
      rfl

private theorem configureHead_mirrored {answers : Answers} {output : OutputPtr} {setup : HeadSetup}
    {mirrors : Bool} {color : ColorSetup} {mirrorOf : Option OutputPtr}
    (mirrored : Mirrored policy w) (pending : Pending policy w output mirrorOf) :
    Mirrored policy (w.configureHead answers output setup mirrors color).2 ∧
      Pending policy (w.configureHead answers output setup mirrors color).2 output mirrorOf := by
  have set : Calm w (w.setOutput output (World.configureSetup setup mirrors)) := by
    apply Calm.setOutput
    intro out
    cases setup <;> rfl
  have mirrored := mirrored.calm set
  have pending := pending.calm set
  have api := Calm.call (w.setOutput output (World.configureSetup setup mirrors)) answers
  have sized := Calm.call ((w.setOutput output (World.configureSetup setup mirrors)).call
    answers).2 answers
  unfold World.configureHead
  dsimp only
  split
  · exact ⟨mirrored.calm api, pending.calm api⟩
  · split
    · exact ⟨(mirrored.calm api).calm sized, (pending.calm api).calm sized⟩
    · have colored := Calm.applyColor (((w.setOutput output
        (World.configureSetup setup mirrors)).call answers).2.call answers).2 answers color false
      exact ⟨((mirrored.calm api).calm sized).calm colored,
        ((pending.calm api).calm sized).calm colored⟩

theorem Mirrored.settleOutput (mirrored : Mirrored policy w) (head : HeadPtr)
    (output : OutputPtr) (mirrorOf : Option OutputPtr) :
    Mirrored policy (w.settleOutput head output mirrorOf) := by
  unfold World.settleOutput
  have registered := (mirrored.calm (Calm.registerHead w head)).calm
    (Calm.registerOutput (w.registerHead head) output)
  cases mirrorOf with
  | none => exact registered
  | some source => exact registered.calm (Calm.applyMirrorModeline _ source output)

theorem Mirrored.enableHead (mirrored : Mirrored policy w) (keeps : KeepsMirrors policy created)
    (answers : Answers) (head : HeadPtr) (setup : HeadSetup) (mirrorOf : Option OutputPtr)
    (color : ColorSetup)
    (right : ∀ value, w.heads head = some value → w.IsMirror policy value →
      w.Shows policy value.name mirrorOf) :
    Mirrored policy (w.enableHead answers created head setup mirrorOf color) := by
  unfold World.enableHead
  have called := Calm.call w answers
  rcases createOutput_cases w answers head (w.headName head) with failed | ⟨value, _, _, made⟩
  · rw [failed]
    exact (mirrored.calm called).calm (.fail _)
  · rw [made]
    obtain ⟨added, bare⟩ := (mirrored.calm called).addOutput head (w.headName head) value.backend
    have shown : ∀ later, ((w.call answers).2.addOutput head (w.headName head)
        value.backend).heads head = some later →
        ((w.call answers).2.addOutput head (w.headName head) value.backend).IsMirror policy later →
        ((w.call answers).2.addOutput head (w.headName head) value.backend).Shows policy
          later.name mirrorOf := by
      intro later found mirror
      obtain ⟨old, foundOld, identity, _⟩ := addOutput_heads found
      simp only [WestonHead.identity, Prod.mk.injEq] at identity
      have shows := right old foundOld ⟨identity.2 ▸ mirror.1, identity.1 ▸ mirror.2⟩
      rw [identity.1]
      exact addOutput_shows (mirrored.calm called) (called.shows shows)
    have placed : Mirrored policy (((w.call answers).2.addOutput head (w.headName head)
        value.backend).placeOutput w.nextOutput mirrorOf) ∧
        Pending policy (((w.call answers).2.addOutput head (w.headName head)
          value.backend).placeOutput w.nextOutput mirrorOf) w.nextOutput mirrorOf := by
      cases mirrorOf with
      | some source => exact bare.placeOutput added shown
      | none =>
          have aligned := Calm.lazyAlign ((w.call answers).2.addOutput head (w.headName head)
            value.backend) w.nextOutput
          have unshown := bare.pending fun later found mirror => by
            obtain ⟨source, _, impossible, _⟩ := shown later found mirror
            cases impossible
          exact ⟨added.calm aligned, unshown.calm aligned⟩
    obtain ⟨placed, pending⟩ := placed
    have configured := @configureHead_mirrored _ _ answers w.nextOutput setup mirrorOf.isSome color
      mirrorOf placed pending
    obtain ⟨configured, pending⟩ := configured
    dsimp only at configured ⊢
    split
    · exact (configured.calm (.fail _)).destroyOutput (pending.calm (.fail _)).unmirrored
    · obtain ⟨up, down⟩ := configured.enable keeps answers pending
      split
      · rename_i failed
        have calm := (down (by simpa using failed))
        exact (up.calm (.fail _)).destroyOutput ((pending.calm calm).calm (.fail _)).unmirrored
      · exact up.settleOutput head w.nextOutput mirrorOf

theorem KeepsMirrors.mirrorWith (keeps : KeepsMirrors policy created) (answers : Answers) :
    KeepsMirrors policy (World.mirrorWith answers policy created) := by
  intro output w mirrored up
  have made := mirrorWith_made answers policy created output w
  generalize w.mirrorWith answers policy created output = after at made ⊢
  cases made with
  | none => exact mirrored
  | enabled source rule head setup there ruled named _ =>
      refine (mirrored.enableHead keeps answers head _ _ _ ?_).calm (.resetDeviceChanged _ head)
      intro value found _
      have sameName := List.find?_some named
      have mirrors := List.find?_some ruled
      rw [World.headName, found, beq_iff_eq] at sameName
      rw [World.isEnabled, there] at up
      exact ⟨output, source, rfl, there, up, rule, List.mem_of_find?_eq_some ruled,
        sameName.symm, beq_iff_eq.mp mirrors⟩

private theorem mirrorOnOutputCreated_mirrored (answers : Answers) (policy : OutputPolicy)
    (left : Nat) :
    KeepsMirrors policy (World.mirrorOnOutputCreated answers policy left) := by
  induction left with
  | zero => exact fun _ _ mirrored _ => mirrored
  | succ left ih => exact ih.mirrorWith answers

theorem outputCreated_mirrored (answers : Answers) (policy : OutputPolicy) :
    KeepsMirrors policy (World.outputCreated answers policy) :=
  fun output w => mirrorOnOutputCreated_mirrored answers policy (w.headList.length + 1) output w

end Westonite.Output
