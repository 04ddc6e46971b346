import Westonite.Output.MirrorGroups

/-! Runs of flushes, resizes and destructions: the mirrors of the remote heads
are live as long as no output goes that an enabled mirror shows. -/

set_option autoImplicit false

namespace Westonite.Output

open Library

variable {policy : OutputPolicy} {w after : World}

/-- Every remote head that is up and whose section mirrors has an output that
mirrors an output that is up and has the name of the section. -/
def World.MirrorsLive (policy : OutputPolicy) (w : World) : Prop :=
  ∀ head value, w.heads head = some value → w.IsMirror policy value → w.headEnabled head = true →
    ∃ output out source src, value.output = some output ∧ w.outputs output = some out ∧
      out.mirrorOf = some source ∧ w.outputs source = some src ∧ src.enabled = true ∧
      ∃ rule ∈ policy.rules, rule.name = value.name ∧ rule.mirrorOf = some src.name

/-- An enabled mirror shows this output. -/
def World.isMirrored (policy : OutputPolicy) (w : World) (source : OutputPtr) : Bool :=
  w.headList.any fun head =>
    (w.heads head).any fun value =>
      w.backendKind value.backend = some .vnc && policy.hasMirrorOf value.name &&
        ((value.output.bind w.outputs).any fun out => out.enabled && out.mirrorOf == some source)

/-- The output that goes when a flush visits this head: the head is enabled and is
to be disabled, and no other DRM head is on the output. -/
def World.visitDestroys (config : Config) (w : World) (head : HeadPtr) : Option OutputPtr :=
  (w.heads head).bind fun value =>
    if value.connected || !w.headEnabled head then none
    else
      value.output.bind fun output =>
        match w.backendKind value.backend with
        | none => none
        | some .drm =>
            let shared := w.headList.any fun other =>
              other != head && w.outputOf other == some output
            if config.policy.drmForceOn value.name || shared then none else some output
        | some _ => some output

namespace Machine

/-- No output goes that an enabled mirror shows. -/
def spares (config : Config) (m : Machine) : Label → Bool
  | .next =>
      match m.flushing with
      | some (head :: _, _) =>
          (m.world.visitDestroys config head).all fun output => !m.world.isMirrored config.policy output
      | _ => true
  | .outputDestroyed output => !m.world.isMirrored config.policy output
  | _ => true

def sparingStep (answers : Answers) (config : Config) (m : Machine) (label : Label) :
    Option Machine :=
  if m.spares config label then m.step answers config label else none

def SparingStep (answers : Answers) (config : Config) (m : Machine) (label : Label)
    (next : Machine) : Prop :=
  m.sparingStep answers config label = some next

end Machine

/-! ### Single heads -/

private theorem Mirrored.mirrorsLive (mirrored : Mirrored policy w) : w.MirrorsLive policy := by
  intro head value found mirror up
  unfold World.headEnabled World.outputOf World.isEnabled at up
  rw [found, Option.bind_some] at up
  cases on : value.output with
  | none =>
      rw [on] at up
      cases up
  | some output =>
      rw [on, Option.any_some] at up
      cases there : w.outputs output with
      | none =>
          rw [there] at up
          cases up
      | some out =>
          rw [there, Option.any_some] at up
          obtain ⟨source, src, rest⟩ :=
            mirrored.shows head value output out found mirror on there up
          exact ⟨output, out, source, src, rfl, there, rest⟩

theorem Mirrored.unmirrored (mirrored : Mirrored policy w) {output : OutputPtr}
    (spared : (!w.isMirrored policy output) = true) : w.Unmirrored policy output := by
  intro head value other out found mirror on there up same
  rw [Bool.not_eq_true', World.isMirrored, List.any_eq_false] at spared
  apply spared head (mirrored.listed head value found)
  rw [found, Option.any_some, on, Option.bind_some, there, Option.any_some, up, same, mirror.1,
    mirror.2]
  simp

theorem Calm.addHead (outputName sectionHead : String) {head : HeadPtr} (drm : w.IsDrm head) :
    Calm w (w.addHead outputName sectionHead head) := by
  have grouped : Calm w (if w.layoutputs.any fun lo => lo.name == outputName then w
      else { w with layoutputs := w.layoutputs ++ [⟨outputName, sectionHead, [], []⟩] }) := by
    split
    · exact .refl w
    · refine { Calm.refl w with staged := ?_ }
      intro group member other staged
      rcases List.mem_append.mp member with member | member
      · exact .inl ⟨group, member, staged⟩
      · rw [List.mem_singleton.mp member] at staged
        cases staged
  unfold World.addHead
  generalize (if w.layoutputs.any fun lo => lo.name == outputName then w
      else { w with layoutputs := w.layoutputs ++ [⟨outputName, sectionHead, [], []⟩] }) = joined
    at grouped ⊢
  dsimp only
  split
  · exact grouped
  · refine grouped.trans (.setLayoutput _ _ ?_)
    intro group other staged
    split at staged
    · exact .inl staged
    · rcases List.mem_append.mp staged with staged | staged
      · exact .inl staged
      · obtain rfl := Option.some.inj (List.mem_singleton.mp staged)
        exact .inr (grouped.isDrm drm)

theorem Mirrored.headDetached (mirrored : Mirrored policy w) {output : OutputPtr}
    (spared : w.countHeads output = 0 → w.Unmirrored policy output) :
    Mirrored policy (w.headDetached output) := by
  unfold World.headDetached
  split
  · exact mirrored
  · rename_i alone
    dsimp only
    split
    · exact mirrored
    · split
      · exact mirrored
      · rename_i cell found
        have held : w.cells cell = some output := by
          simpa using List.find?_some found
        unfold World.destroyEntry
        rw [held]
        exact (mirrored.destroyOutput (spared (not_not.mp alone))).calm (.removeOutput _ _ cell)

theorem Calm.drmPrepareEnable {config : Config} {head : HeadPtr} {value : WestonHead}
    (drm : w.IsDrm head) : Calm w (w.drmPrepareEnable config head value) := by
  unfold World.drmPrepareEnable
  split
  · exact .addHead _ value.name drm
  · exact .refl w
  · exact .refl w
  · exact .addHead _ value.name drm

/-- A shared output has another head on it. -/
private theorem detachHead_shared {head : HeadPtr} {output : OutputPtr}
    (shared : (w.headList.any fun other =>
      other != head && w.outputOf other == some output) = true) :
    (w.detachHead head).countHeads output ≠ 0 := by
  obtain ⟨other, listed, on⟩ := List.any_eq_true.mp shared
  simp only [Bool.and_eq_true, bne_iff_ne, beq_iff_eq] at on
  have attached : other ∈ (w.detachHead head).attachedHeads output := by
    refine List.mem_filter.mpr ⟨listed, ?_⟩
    rw [decide_eq_true_eq, detachHead_outputOf, if_neg on.1, on.2]
  exact Nat.ne_of_gt (List.length_pos_of_mem attached)

theorem Mirrored.drmHeadDisable (mirrored : Mirrored policy w) {head : HeadPtr}
    (spared : ∀ output, w.outputOf head = some output →
      (w.headList.any fun other => other != head && w.outputOf other == some output) = false →
      w.Unmirrored policy output) : Mirrored policy (w.drmHeadDisable head) := by
  have detached := Calm.detachHead w head
  unfold World.drmHeadDisable
  cases on : w.outputOf head with
  | none => exact mirrored.calm detached
  | some output =>
      apply (mirrored.calm detached).headDetached
      intro alone
      apply detached.unmirrored
      apply spared output on
      cases shared :
          w.headList.any fun other => other != head && w.outputOf other == some output with
      | false => rfl
      | true => exact absurd alone (detachHead_shared shared)

theorem Mirrored.visitHead (answers : Answers) {config : Config} {head : HeadPtr}
    (mirrored : Mirrored config.policy w)
    (spares : (w.visitDestroys config head).all fun output =>
      !w.isMirrored config.policy output) :
    Mirrored config.policy (w.visitHead answers config head).2 := by
  refine @World.visitHead_keeps answers config (Mirrored config.policy) w head ?_
    fun now mirrored => mirrored.calm (.resetDeviceChanged now head)
  intro now visited
  unfold World.visitDestroys at spares
  cases visited with
  | left => exact mirrored
  | prepared value there drm => exact mirrored.calm (.drmPrepareEnable ⟨value, there, drm⟩)
  | drmDisabled value there drm gone up =>
      rw [there, Option.bind_some] at spares
      apply mirrored.drmHeadDisable
      intro output on alone
      apply mirrored.unmirrored
      rw [Bool.or_eq_false_iff] at gone
      rw [World.outputOf, there, Option.bind_some] at on
      simpa only [gone.1, gone.2, up, on, drm, alone, Option.bind_some, Bool.not_true,
        Bool.or_false, Bool.false_eq_true, if_false, Option.all_some] using spares
  | enabled value kind setup there isKind plain =>
      apply mirrored.enableHead (outputCreated_mirrored answers config.policy) answers
      intro old foundOld mirror
      obtain rfl := Option.some.inj (there.symm.trans foundOld)
      obtain rfl := Option.some.inj (isKind.symm.trans mirror.1)
      rw [mirror.2] at plain
      cases plain
  | registered => exact mirrored.calm (.registerHead w head)
  | disabled value kind there isKind other gone up =>
      rw [there, Option.bind_some] at spares
      unfold World.disableHead
      cases on : w.outputOf head with
      | none => exact mirrored
      | some output =>
          apply mirrored.destroyOutput
          apply mirrored.unmirrored
          rw [World.outputOf, there, Option.bind_some] at on
          simpa [gone, up, on, isKind, other] using spares

theorem Calm.mirrorOnOutputResized (policy : OutputPolicy) (w : World) (resized : OutputPtr) :
    Calm w (w.mirrorOnOutputResized policy resized) := by
  unfold World.mirrorOnOutputResized
  split
  · exact .refl w
  · split
    · exact .refl w
    · split
      · refine Calm.trans ?_ (.applyMirrorModeline _ resized _)
        exact .setOutput w _ fun _ => rfl
      · exact .refl w

theorem Mirrored.headAdded (mirrored : Mirrored policy w) {head : HeadPtr} {value : WestonHead}
    (unknown : (w.heads head).isSome = false) (free : value.output = none) :
    Mirrored policy { w with
      heads := Function.update w.heads head (some value)
      headList := w.headList ++ [head] } := by
  have older : ∀ other later output, Function.update w.heads head (some value) other = some later →
      later.output = some output → w.heads other = some later := by
    intro other later output found on
    rw [Function.update_apply] at found
    split at found
    · obtain rfl := Option.some.inj found
      rw [free] at on
      cases on
    · exact found
  refine ⟨?_, mirrored.outputs, ?_, ?_, ?_⟩
  · intro other later output out found mirror on
    exact mirrored.shows other later output out (older other later output found on) mirror on
  · intro other later output found on
    exact mirrored.attached other later output (older other later output found on) on
  · intro group member other staged
    obtain ⟨later, found, kind⟩ := mirrored.staged group member other staged
    refine ⟨later, ?_, kind⟩
    change Function.update w.heads head _ other = _
    rw [Function.update_of_ne, found]
    rintro rfl
    rw [found] at unknown
    cases unknown
  · intro other later found
    rw [List.mem_append, List.mem_singleton]
    change Function.update w.heads head _ other = _ at found
    rw [Function.update_apply] at found
    split at found
    · rename_i here
      exact .inr here
    · exact .inl (mirrored.listed other later found)

/-! ### Runs -/

theorem Mirrored.new (policy : OutputPolicy) (backends : List (BackendPtr × BackendKind))
    (useColorManager : Bool) : Mirrored policy (.new backends useColorManager) where
  shows _ _ _ _ found := by cases found
  outputs _ _ found := by cases found
  attached _ _ _ found := by cases found
  staged _ member := by cases member
  listed _ _ found := by cases found

theorem Mirrored.step {answers : Answers} {config : Config} {m next : Machine} {label : Label}
    (mirrored : Mirrored config.policy m.world)
    (taken : Machine.SparingStep answers config m label next) :
    Mirrored config.policy next.world := by
  unfold Machine.SparingStep Machine.sparingStep at taken
  split at taken
  · rename_i spares
    cases Machine.moved_of_step answers config taken with
    | headAdded head name backend transform unknown =>
        exact mirrored.headAdded (by rw [unknown]; rfl) rfl
    | headChanged head connected nonDesktop =>
        exact mirrored.calm (.setHead _ _ (fun _ => rfl) fun _ _ _ => .inl)
    | flush => exact mirrored
    | groups => exact flushGroups_mirrored answers mirrored
    | flushed => exact mirrored
    | visit head heads sawDrm flushing =>
        unfold Machine.spares at spares
        rw [flushing] at spares
        exact mirrored.visitHead answers spares
    | resized output geometry =>
        refine (mirrored.calm ?_).calm (.mirrorOnOutputResized _ _ output)
        exact .setOutput _ output fun _ => rfl
    | outputDestroyed => exact mirrored.destroyOutput (mirrored.unmirrored spares)
  · cases taken

/-- While no output goes that an enabled mirror shows, the mirrors are live. -/
theorem mirrors_live {answers : Answers} {config : Config}
    {backends : List (BackendPtr × BackendKind)} {useColorManager : Bool} {labels : List Label}
    {final : Machine}
    (run : Run (Machine.SparingStep answers config) (.start backends useColorManager) labels
      final) :
    final.world.MirrorsLive config.policy := by
  have mirrored : Mirrored config.policy final.world :=
    @Run.invariant _ _ _ (fun m => Mirrored config.policy m.world)
      (fun _ _ _ mirrored taken => mirrored.step taken) _ _ _
      (.new config.policy backends useColorManager) run
  exact mirrored.mirrorsLive

/-- A remote head that mirrors the internal panel. -/
def panelConfig : Config where
  policy :=
    { OutputPolicy.defaults 1024 640 with
      rules := [{ OutputRule.named "vnc" with mirrorOf := some "eDP-1" }] }
  currentMode := false
  requireOutputs := .any

/-- Every call succeeds, on a panel of 1920 by 1080. -/
def Answers.panel : Answers where
  ok _ := true
  geometry _ := ⟨⟨1920, 1080, 60000⟩, some ⟨1920, 1080, 60000⟩, 1920, 1080⟩

/-- The panel comes up, and the remote head with it. -/
theorem mirrors_live_panel :
    ∃ labels final, Run (Machine.SparingStep .panel panelConfig)
        (.start [(0, .drm), (1, .vnc)] false) labels final ∧
      (final.world.heads 1).bind WestonHead.output = some 1 ∧
      (final.world.outputs 1).bind WestonOutput.mirrorOf = some 0 ∧
      final.world.MirrorsLive panelConfig.policy := by
  let labels : List Label :=
    [.headAdded 0 "eDP-1" 0 .normal, .headAdded 1 "vnc" 1 .normal, .headChanged 0 true false,
      .headChanged 1 true false, .flush, .next, .next, .next]
  have reached : (follow (Machine.sparingStep .panel panelConfig)
      (.start [(0, .drm), (1, .vnc)] false) labels).map (fun m =>
        ((m.world.heads 1).bind WestonHead.output,
          (m.world.outputs 1).bind WestonOutput.mirrorOf)) = some (some 1, some 0) := by
    rfl
  obtain ⟨final, found, same⟩ := Option.map_eq_some_iff.mp reached
  obtain ⟨attached, mirrors⟩ := Prod.mk.inj same
  have run := run_of_follow found
  exact ⟨labels, final, run, attached, mirrors, mirrors_live run⟩

/-- A mirror that is up shows an output that is gone. -/
private theorem not_mirrorsLive_of_dead {source : OutputPtr}
    (mirrored : w.isMirrored policy source = true)
    (dead : (w.outputs source).isNone = true) : ¬ w.MirrorsLive policy := by
  intro live
  obtain ⟨head, _, shows⟩ := List.any_eq_true.mp mirrored
  obtain ⟨value, found, shows⟩ := (Option.any_eq_true _ _).mp shows
  simp only [Bool.and_eq_true, decide_eq_true_eq] at shows
  obtain ⟨mirror, shows⟩ := shows
  obtain ⟨out, there, shows⟩ := (Option.any_eq_true _ _).mp shows
  obtain ⟨output, on, there⟩ := Option.bind_eq_some_iff.mp there
  simp only [Bool.and_eq_true, beq_iff_eq] at shows
  have up : w.headEnabled head = true := by
    unfold World.headEnabled World.outputOf World.isEnabled
    rw [found, Option.bind_some, on, Option.any_some, there, Option.any_some, shows.1]
  obtain ⟨place, later, shown, src, onLater, thereLater, same, alive, _⟩ :=
    live head value found mirror up
  obtain rfl := Option.some.inj (on.symm.trans onLater)
  obtain rfl := Option.some.inj (there.symm.trans thereLater)
  obtain rfl := Option.some.inj (shows.2.symm.trans same)
  rw [alive] at dead
  cases dead

/-- The panel goes and comes back: the mirror stays up, over the output that went. -/
theorem mirror_outlives_source :
    ∃ gone middle back final,
      Run (Machine.Step .panel panelConfig) (.start [(0, .drm), (1, .vnc)] false) gone middle ∧
      ¬ middle.world.MirrorsLive panelConfig.policy ∧
      Run (Machine.Step .panel panelConfig) middle back final ∧
      final.world.headEnabled 0 = true ∧ ¬ final.world.MirrorsLive panelConfig.policy := by
  let gone : List Label :=
    [.headAdded 0 "eDP-1" 0 .normal, .headAdded 1 "vnc" 1 .normal, .headChanged 0 true false,
      .headChanged 1 true false, .flush, .next, .next, .next, .headChanged 0 false false, .flush,
      .next, .next, .next]
  let back : List Label := [.headChanged 0 true false, .flush, .next, .next, .next]
  let dangles (m : Machine) : Bool × Bool :=
    (m.world.isMirrored panelConfig.policy 0, (m.world.outputs 0).isNone)
  have left : (follow (Machine.step .panel panelConfig)
      (.start [(0, .drm), (1, .vnc)] false) gone).map dangles = some (true, true) := by
    decide +kernel
  have again : ((follow (Machine.step .panel panelConfig)
      (.start [(0, .drm), (1, .vnc)] false) gone).bind fun m =>
        follow (Machine.step .panel panelConfig) m back).map (fun m =>
          (m.world.headEnabled 0, dangles m)) = some (true, true, true) := by
    decide +kernel
  obtain ⟨middle, found, same⟩ := Option.map_eq_some_iff.mp left
  obtain ⟨mirrored, dead⟩ := Prod.mk.inj same
  rw [found, Option.bind_some] at again
  obtain ⟨final, returned, same⟩ := Option.map_eq_some_iff.mp again
  obtain ⟨source, same⟩ := Prod.mk.inj same
  obtain ⟨mirroredBack, deadBack⟩ := Prod.mk.inj same
  exact ⟨gone, middle, back, final, run_of_follow found, not_mirrorsLive_of_dead mirrored dead,
    run_of_follow returned, source, not_mirrorsLive_of_dead mirroredBack deadBack⟩

end Westonite.Output
