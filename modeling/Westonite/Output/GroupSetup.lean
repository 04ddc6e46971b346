import Westonite.Output.GroupNames

/-! The setup of a group of heads: every head staged on it decides the same. -/

set_option autoImplicit false

namespace Westonite.Output

open Library

/-! ### Which group a head is staged on -/

namespace OutputPolicy

variable {policy : OutputPolicy} {name headName want : String} {rule : OutputRule}

private theorem ruleFor_name (found : policy.ruleFor name = some rule) : rule.name = name := by
  simpa using List.find?_some found

/-- What one hop of the search decides. -/
private theorem drmControllingFrom_cases {left : Nat} {result : Except String (Option OutputRule)}
    (ended : policy.drmControllingFrom headName want left = result) :
    (left < 10 ∧ policy.ruleFor want = none ∧ ∃ message, result = .error message) ∨
      (10 ≤ left ∧ policy.ruleFor want = none ∧ result = .ok none) ∨
      (left = 0 ∧ ∃ message, result = .error message) ∨
      (∃ rule, policy.ruleFor want = some rule ∧ rule.cloneOf = none ∧
        result = .ok (some rule)) ∨
      ∃ rule next rest, policy.ruleFor want = some rule ∧ rule.cloneOf = some next ∧
        left = rest + 1 ∧ policy.drmControllingFrom headName next rest = result := by
  unfold drmControllingFrom at ended
  cases found : policy.ruleFor want with
  | none =>
      simp only [found] at ended
      split at ended
      · rename_i hopped
        exact .inl ⟨hopped, rfl, _, ended.symm⟩
      · rename_i first
        exact .inr (.inl ⟨Nat.le_of_not_lt first, rfl, ended.symm⟩)
  | some rule =>
      cases left with
      | zero =>
          simp only [found] at ended
          exact .inr (.inr (.inl ⟨rfl, _, ended.symm⟩))
      | succ rest =>
          simp only [found] at ended
          cases clone : rule.cloneOf with
          | none =>
              rw [clone] at ended
              exact .inr (.inr (.inr (.inl ⟨rule, rfl, clone, ended.symm⟩)))
          | some next =>
              rw [clone] at ended
              exact .inr (.inr (.inr (.inr ⟨rule, next, rest, rfl, clone, rfl, ended⟩)))

/-- The search ends in a section that is no clone. -/
private theorem drmControllingFrom_some {left : Nat}
    (ended : policy.drmControllingFrom headName want left = .ok (some rule)) :
    policy.ruleFor rule.name = some rule ∧ rule.cloneOf = none := by
  induction left using Nat.strongRecOn generalizing want with
  | _ left ih =>
      rcases drmControllingFrom_cases ended with ⟨_, _, _, failed⟩ | ⟨_, _, nothing⟩ |
        ⟨_, _, failed⟩ | ⟨other, found, plain, same⟩ | ⟨_, _, rest, _, _, rfl, later⟩
      · cases failed
      · cases nothing
      · cases failed
      · cases same
        exact ⟨by rw [ruleFor_name found, found], plain⟩
      · exact ih rest (Nat.lt_succ_self rest) later

/-- Once it has left the head, the search never ends without a section. -/
private theorem drmControllingFrom_ne_none {left : Nat} (hopped : left < 10) :
    policy.drmControllingFrom headName want left ≠ .ok none := by
  intro ended
  induction left using Nat.strongRecOn generalizing want with
  | _ left ih =>
      rcases drmControllingFrom_cases ended with ⟨_, _, _, failed⟩ | ⟨first, _, _⟩ |
        ⟨_, _, failed⟩ | ⟨_, _, _, some⟩ | ⟨_, _, rest, _, _, rfl, later⟩
      · cases failed
      · exact absurd hopped (Nat.not_lt_of_le first)
      · cases failed
      · cases some
      · exact ih rest (Nat.lt_succ_self rest) (Nat.lt_of_succ_lt hopped) later

/-- The section of a name, unless it makes the name a clone. -/
def groupRule (policy : OutputPolicy) (name : String) : Option OutputRule :=
  (policy.ruleFor name).filter fun rule => rule.cloneOf.isNone

/-- The section makes the name a clone. -/
def isClone (policy : OutputPolicy) (name : String) : Bool :=
  (policy.ruleFor name).any fun rule => rule.cloneOf.isSome

private theorem groupRule_of_isClone (clone : policy.isClone name = true) :
    policy.groupRule name = none := by
  unfold isClone at clone
  unfold groupRule
  cases found : policy.ruleFor name with
  | none => rfl
  | some rule =>
      rw [found, Option.any_some] at clone
      cases here : rule.cloneOf with
      | none =>
          rw [here] at clone
          cases clone
      | some next => simp [Option.filter, here]

private theorem drmControllingRule_some (ended : policy.drmControllingRule name = .ok (some rule)) :
    policy.groupRule rule.name = some rule ∧ policy.isClone rule.name = false := by
  obtain ⟨found, plain⟩ := drmControllingFrom_some ended
  constructor
  · rw [groupRule, found, Option.filter_some, plain]
    rfl
  · rw [isClone, found, Option.any_some, plain]
    rfl

private theorem drmControllingRule_none (ended : policy.drmControllingRule name = .ok none) :
    policy.groupRule name = none ∧ policy.isClone name = false := by
  unfold drmControllingRule at ended
  rcases drmControllingFrom_cases ended with ⟨_, _, _, failed⟩ | ⟨_, found, _⟩ |
    ⟨_, _, failed⟩ | ⟨_, _, _, some⟩ | ⟨_, _, rest, _, _, length, later⟩
  · cases failed
  · constructor
    · rw [groupRule, found]
      rfl
    · rw [isClone, found]
      rfl
  · cases failed
  · cases some
  · exact absurd later (drmControllingFrom_ne_none (by omega))

/-- Only the chain of a clone can be broken. -/
private theorem drmControllingRule_error {message : String}
    (ended : policy.drmControllingRule name = .error message) : policy.isClone name = true := by
  unfold drmControllingRule at ended
  rcases drmControllingFrom_cases ended with ⟨hopped, _⟩ | ⟨_, _, nothing⟩ |
    ⟨impossible, _⟩ | ⟨_, _, _, some⟩ | ⟨rule, next, _, found, clone, _⟩
  · exact absurd hopped (Nat.lt_irrefl 10)
  · cases nothing
  · cases impossible
  · cases some
  · rw [isClone, found, Option.any_some, clone]
    rfl

end OutputPolicy

/-- The group a head with this plan is staged on, and the setup the plan carries:
every default for a broken chain of clones. -/
def DrmHeadPlan.staging (plan : DrmHeadPlan) (headName : String) (currentMode : Bool) :
    Option (String × DrmOutputSetup) :=
  match plan with
  | .enable plan => some (plan.outputName, plan.setup)
  | .off | .nonDesktop => none
  | .badCloneOf _ => some (headName, OutputPolicy.drmDefaults currentMode)

/-- `staging` of the decision for a head. -/
def Config.staging (config : Config) (value : WestonHead) : Option (String × DrmOutputSetup) :=
  (config.policy.decideDrm value.name value.nonDesktop config.currentMode).staging value.name
    config.currentMode

variable {config : Config} {w : World}

private theorem drmPrepareEnable_staged {head : HeadPtr} {value : WestonHead} {group : String}
    {setup : DrmOutputSetup} (staged : config.staging value = some (group, setup)) :
    w.drmPrepareEnable config head value = w.addHead group value.name head := by
  unfold Config.staging at staged
  unfold World.drmPrepareEnable
  cases decided : config.policy.decideDrm value.name value.nonDesktop config.currentMode with
  | enable plan =>
      rw [decided] at staged
      cases staged
      rfl
  | off =>
      rw [decided] at staged
      cases staged
  | nonDesktop =>
      rw [decided] at staged
      cases staged
  | badCloneOf message =>
      rw [decided] at staged
      cases staged
      rfl

private theorem drmPrepareEnable_unstaged {head : HeadPtr} {value : WestonHead}
    (unstaged : config.staging value = none) : w.drmPrepareEnable config head value = w := by
  unfold Config.staging at unstaged
  unfold World.drmPrepareEnable
  cases decided : config.policy.decideDrm value.name value.nonDesktop config.currentMode with
  | enable plan =>
      rw [decided] at unstaged
      cases unstaged
  | off => rfl
  | nonDesktop => rfl
  | badCloneOf message =>
      rw [decided] at unstaged
      cases unstaged

/-- What the name of a group says about each head that is staged on it. -/
structure Agrees (config : Config) (group : String) (setup : DrmOutputSetup)
    (headName : String) : Prop where
  shared : setup = OutputPolicy.drmSetup (config.policy.groupRule group) config.currentMode
  applied : World.groupSetup config.policy headName config.currentMode = setup
  plan : config.policy.isClone group = false →
    ∃ plan, config.policy.decideDrm headName false config.currentMode = .enable plan
  broken : config.policy.isClone group = true →
    headName = group ∧
      ∃ message, config.policy.decideDrm headName false config.currentMode = .badCloneOf message

private theorem agrees_of_staging {value : WestonHead} {group : String} {setup : DrmOutputSetup}
    (staged : config.staging value = some (group, setup)) :
    Agrees config group setup value.name := by
  unfold Config.staging OutputPolicy.decideDrm at staged
  cases ended : config.policy.drmControllingRule value.name with
  | error message =>
      have clone := OutputPolicy.drmControllingRule_error ended
      have decided : config.policy.decideDrm value.name false config.currentMode =
          .badCloneOf message := by
        rw [OutputPolicy.decideDrm, ended]
      rw [ended] at staged
      cases staged
      refine ⟨?_, ?_, ?_, fun _ => ⟨rfl, message, decided⟩⟩
      · rw [OutputPolicy.groupRule_of_isClone clone, OutputPolicy.drmDefaults]
      · rw [World.groupSetup, decided]
      · intro plain
        rw [clone] at plain
        cases plain
  | ok controlling =>
      cases controlling with
      | none =>
          obtain ⟨absent, plain⟩ := OutputPolicy.drmControllingRule_none ended
          have decided : config.policy.decideDrm value.name false config.currentMode =
              .enable ⟨value.name, OutputPolicy.drmSetup none config.currentMode⟩ := by
            rw [OutputPolicy.decideDrm, ended]
          rw [ended] at staged
          cases staged
          refine ⟨?_, ?_, fun _ => ⟨_, decided⟩, ?_⟩
          · rw [absent]
          · rw [World.groupSetup, decided]
          · intro clone
            rw [plain] at clone
            cases clone
      | some rule =>
          obtain ⟨found, plain⟩ := OutputPolicy.drmControllingRule_some ended
          rw [ended] at staged
          dsimp only at staged
          split at staged
          · cases staged
          · rename_i shown
            have decided : config.policy.decideDrm value.name false config.currentMode =
                .enable ⟨rule.name, OutputPolicy.drmSetup (some rule) config.currentMode⟩ := by
              rw [OutputPolicy.decideDrm, ended]
              dsimp only
              rw [if_neg shown, Bool.false_and, if_neg Bool.false_ne_true]
            split at staged
            · cases staged
            · cases staged
              refine ⟨?_, ?_, fun _ => ⟨_, decided⟩, ?_⟩
              · rw [found]
              · rw [World.groupSetup, decided]
              · intro clone
                rw [plain] at clone
                cases clone

/-! ### Staging a head -/

/-- A head joins the groups there are, or brings the one it is staged on. -/
private theorem addHead_key {group sectionHead : String} {head : HeadPtr} {lo : Layoutput}
    (member : lo ∈ (w.addHead group sectionHead head).layoutputs) :
    (∃ old ∈ w.layoutputs, old.key = lo.key) ∨ lo.key = (group, sectionHead) := by
  have joined : ∀ other ∈ (if w.layoutputs.any fun lo => lo.name == group then w
      else { w with layoutputs := w.layoutputs ++ [⟨group, sectionHead, [], []⟩] }).layoutputs,
      other ∈ w.layoutputs ∨ other.key = (group, sectionHead) := by
    intro other listed
    split at listed
    · exact .inl listed
    · rcases List.mem_append.mp listed with old | new
      · exact .inl old
      · exact .inr (List.mem_singleton.mp new ▸ rfl)
  unfold World.addHead at member
  dsimp only at member
  split at member
  · exact (joined lo member).imp (fun old => ⟨lo, old, rfl⟩) id
  · obtain ⟨other, listed, same⟩ := (SameGroups.setLayoutput _ _ (by
      intro lo
      split <;> rfl)).mem member
    rw [← same]
    exact (joined other listed).imp (fun old => ⟨other, old, rfl⟩) id

/-- The group of a head that was just staged has heads. -/
private theorem addHead_staged (w : World) (group sectionHead : String) (head : HeadPtr) :
    ∃ lo ∈ (w.addHead group sectionHead head).layoutputs, lo.name = group ∧ lo.add ≠ [] := by
  have there : ∃ lo ∈ (if w.layoutputs.any fun lo => lo.name == group then w
      else { w with layoutputs := w.layoutputs ++ [⟨group, sectionHead, [], []⟩] }).layoutputs,
      (lo.name == group) = true := by
    split
    · rename_i known
      exact List.any_eq_true.mp known
    · exact ⟨⟨group, sectionHead, [], []⟩, List.mem_append_right _ List.mem_cons_self, by simp⟩
  unfold World.addHead
  dsimp only
  generalize (if w.layoutputs.any fun lo => lo.name == group then w
      else { w with layoutputs := w.layoutputs ++ [⟨group, sectionHead, [], []⟩] }) = joined
    at there ⊢
  cases found : joined.layoutputs.findIdx? fun lo => lo.name == group with
  | none =>
      obtain ⟨lo, listed, named⟩ := there
      rw [List.findIdx?_eq_none_iff] at found
      rw [found lo listed] at named
      cases named
  | some index =>
      obtain ⟨inside, named, _⟩ := List.findIdx?_eq_some_iff_getElem.mp found
      have placed := List.getElem?_modify_eq (fun lo : Layoutput =>
        if lo.add.length + 1 ≥ World.maxCloneHeads then lo
        else { lo with add := lo.add ++ [some head] }) index joined.layoutputs
      rw [List.getElem?_eq_getElem inside] at placed
      refine ⟨_, List.mem_of_getElem? placed, ?_, ?_⟩
      · dsimp only
        split
        · simpa using named
        · simpa using named
      · dsimp only
        split
        · rename_i full
          intro empty
          rw [empty] at full
          exact absurd full (by decide)
        · simp

/-! ### Runs -/

/-- The head a flush passes to `drm_prepare_enable` when it visits this one. -/
def World.prepared (config : Config) (w : World) (head : HeadPtr) : Option WestonHead :=
  (w.heads head).bind fun value =>
    if w.backendKind value.backend = some .drm &&
        ((value.connected || config.policy.drmForceOn value.name) && !w.headEnabled head) then
      some value
    else none

theorem SameGroups.drmHeadDisable (w : World) (head : HeadPtr) :
    SameGroups w (w.drmHeadDisable head) := by
  unfold World.drmHeadDisable
  cases w.outputOf head with
  | none => exact .refl w
  | some output => exact .headDetached (w.detachHead head) output

private theorem visitHead_unprepared (answers : Answers) {head : HeadPtr}
    (unprepared : w.prepared config head = none) :
    SameGroups w (w.visitHead answers config head).2 := by
  refine @World.visitHead_keeps answers config (SameGroups w) w head ?_ fun _ same => same
  intro now visited
  cases visited with
  | left => exact .refl w
  | prepared value there drm wanted down =>
      unfold World.prepared at unprepared
      rw [there, Option.bind_some, drm, wanted, down] at unprepared
      cases unprepared
  | drmDisabled => exact .drmHeadDisable w head
  | enabled =>
      exact .of_layoutputs ((Around.refl w).enableHead
        (.outputCreated answers config.policy) answers _ _ _ _).layoutputs
  | registered => exact .of_layoutputs ((Around.refl w).registerHead head).layoutputs
  | disabled =>
      unfold World.disableHead
      cases w.outputOf head with
      | none => exact .refl w
      | some output => exact .refl w

private theorem visitHead_prepared (answers : Answers) {head : HeadPtr} {value : WestonHead}
    (prepared : w.prepared config head = some value) :
    (w.visitHead answers config head).2.layoutputs =
      (w.drmPrepareEnable config head value).layoutputs := by
  unfold World.prepared at prepared
  unfold World.visitHead
  cases found : w.heads head with
  | none =>
      rw [found] at prepared
      cases prepared
  | some other =>
      rw [found, Option.bind_some] at prepared
      split at prepared
      · rename_i wanted
        cases prepared
        rw [Bool.and_eq_true, decide_eq_true_eq] at wanted
        dsimp only
        rw [wanted.1]
        dsimp only
        rw [wanted.2, if_pos rfl]
        rfl
      · cases prepared

namespace Machine

/-- The head that a step passes to `drm_prepare_enable`. -/
def prepares (config : Config) (m : Machine) : Label → Option (HeadPtr × WestonHead)
  | .next =>
      match m.flushing with
      | some (head :: _, _) => (m.world.prepared config head).map fun value => (head, value)
      | _ => none
  | _ => none

/-- The chain of clones of the head that is prepared comes to an end. -/
def resolves (config : Config) (m : Machine) (label : Label) : Bool :=
  (m.prepares config label).all fun prepared =>
    (config.policy.drmControllingRule prepared.2.name).isOk

variable {m next : Machine} {answers : Answers} {label : Label}

/-- Only a head that is prepared changes the groups. -/
private theorem step_groups (taken : Step answers config m label next) :
    (m.prepares config label = none ∧ SameGroups m.world next.world) ∨
    ∃ head value, m.prepares config label = some (head, value) ∧
      next.world.layoutputs = (m.world.drmPrepareEnable config head value).layoutputs := by
  cases moved_of_step answers config taken with
  | headAdded => exact .inl ⟨rfl, .refl m.world⟩
  | headChanged => exact .inl ⟨rfl, .refl m.world⟩
  | flush => exact .inl ⟨rfl, .refl m.world⟩
  | groups flushing =>
      exact .inl ⟨by rw [prepares, flushing], .flushGroups m.world answers config⟩
  | flushed flushing => exact .inl ⟨by rw [prepares, flushing], .refl m.world⟩
  | visit head heads sawDrm flushing =>
      rw [prepares, flushing]
      dsimp only
      cases prepared : m.world.prepared config head with
      | none => exact .inl ⟨rfl, visitHead_unprepared answers prepared⟩
      | some value => exact .inr ⟨head, value, rfl, visitHead_prepared answers prepared⟩
  | resized output geometry =>
      exact .inl ⟨rfl, .mirrorOnOutputResized (m.world.setOutput output _) config.policy output⟩
  | outputDestroyed => exact .inl ⟨rfl, .refl m.world⟩

/-- A fact of the groups that every staged head brings with it. -/
private theorem step_keeps_groups {fact : String × String → Prop}
    (taken : Step answers config m label next)
    (facts : ∀ lo ∈ m.world.layoutputs, fact lo.key)
    (brings : ∀ head value group setup, m.prepares config label = some (head, value) →
      config.staging value = some (group, setup) → fact (group, value.name)) :
    ∀ lo ∈ next.world.layoutputs, fact lo.key := by
  intro lo member
  rcases step_groups taken with ⟨_, same⟩ | ⟨head, value, prepared, changed⟩
  · obtain ⟨old, listed, key⟩ := same.mem member
    exact key ▸ facts old listed
  · rw [changed] at member
    cases staged : config.staging value with
    | none =>
        rw [drmPrepareEnable_unstaged staged] at member
        exact facts lo member
    | some staging =>
        obtain ⟨group, setup⟩ := staging
        rw [drmPrepareEnable_staged staged] at member
        rcases addHead_key member with ⟨old, listed, key⟩ | key
        · exact key ▸ facts old listed
        · exact key ▸ brings head value group setup prepared staged

end Machine

/-- Every group was brought by a head that is staged on it. -/
def Founded (config : Config) (w : World) : Prop :=
  ∀ lo ∈ w.layoutputs, ∃ setup, Agrees config lo.key.1 setup lo.key.2

theorem Founded.step {answers : Answers} {m next : Machine} {label : Label}
    (founded : Founded config m.world) (taken : Machine.Step answers config m label next) :
    Founded config next.world := by
  apply @Machine.step_keeps_groups config m next answers label
    (fun key => ∃ setup, Agrees config key.1 setup key.2) taken founded
  intro head value group setup _ staged
  exact ⟨setup, agrees_of_staging staged⟩

theorem Founded.start (config : Config) (backends : List (BackendPtr × BackendKind))
    (useColorManager : Bool) : Founded config (Machine.start backends useColorManager).world := by
  intro lo member
  cases member

theorem Founded.drmPrepareEnable (founded : Founded config w) (head : HeadPtr)
    (value : WestonHead) : Founded config (w.drmPrepareEnable config head value) := by
  intro lo member
  cases staged : config.staging value with
  | none =>
      rw [drmPrepareEnable_unstaged staged] at member
      exact founded lo member
  | some staging =>
      obtain ⟨group, setup⟩ := staging
      rw [drmPrepareEnable_staged staged] at member
      rcases addHead_key member with ⟨old, listed, key⟩ | key
      · exact key ▸ founded old listed
      · exact key ▸ ⟨setup, agrees_of_staging staged⟩

/-- The setup of a group is the one of any head staged on it. -/
theorem Founded.groupSetup (founded : Founded config w) {lo : Layoutput}
    (member : lo ∈ w.layoutputs) {value : WestonHead} {setup : DrmOutputSetup}
    (staged : config.staging value = some (lo.name, setup)) :
    World.groupSetup config.policy lo.sectionHead config.currentMode = setup := by
  obtain ⟨own, agrees⟩ := founded lo member
  have applied := agrees.applied
  rw [agrees.shared] at applied
  exact applied.trans (agrees_of_staging staged).shared.symm

/-- Whichever of two heads came first, their group gets the setup that both decide. -/
theorem group_setup_of_heads {answers : Answers} {backends : List (BackendPtr × BackendKind)}
    {useColorManager : Bool} {labels : List Label} {m : Machine}
    (run : Run (Machine.Step answers config) (.start backends useColorManager) labels m)
    (a b : HeadPtr) {first second : WestonHead} {group : String}
    {firstSetup secondSetup : DrmOutputSetup}
    (firstStaged : config.staging first = some (group, firstSetup))
    (secondStaged : config.staging second = some (group, secondSetup)) :
    ∀ w ∈ [m.world, (m.world.drmPrepareEnable config a first).drmPrepareEnable config b second,
        (m.world.drmPrepareEnable config b second).drmPrepareEnable config a first],
      ∀ lo ∈ w.layoutputs, lo.name = group →
        World.groupSetup config.policy lo.sectionHead config.currentMode = firstSetup ∧
        World.groupSetup config.policy lo.sectionHead config.currentMode = secondSetup := by
  have founded : Founded config m.world := by
    induction run with
    | nil => exact .start config backends useColorManager
    | snoc _ taken ih => exact ih.step taken
  have agree : ∀ w, Founded config w → ∀ lo ∈ w.layoutputs, lo.name = group →
      World.groupSetup config.policy lo.sectionHead config.currentMode = firstSetup ∧
      World.groupSetup config.policy lo.sectionHead config.currentMode = secondSetup := by
    intro w founded lo member named
    rw [← named] at firstStaged secondStaged
    exact ⟨founded.groupSetup member firstStaged, founded.groupSetup member secondStaged⟩
  intro w listed
  rcases List.mem_cons.mp listed with rfl | listed
  · exact agree _ founded
  · rcases List.mem_cons.mp listed with rfl | listed
    · exact agree _ ((founded.drmPrepareEnable a first).drmPrepareEnable b second)
    · rw [List.mem_singleton.mp listed]
      exact agree _ ((founded.drmPrepareEnable b second).drmPrepareEnable a first)

/-- A head as it is announced, on no output. -/
def WestonHead.announced (name : String) (nonDesktop : Bool) : WestonHead :=
  ⟨name, 0, true, true, nonDesktop, .normal, none⟩

/-- A connector and its clone, which comes first. -/
theorem group_setup_of_heads_clones :
    ∃ w lo, w = ((Machine.start [(0, .drm)] false).world.drmPrepareEnable
          ⟨clonePolicy, false, .any⟩ 1 (.announced "DP-2" false)).drmPrepareEnable
          ⟨clonePolicy, false, .any⟩ 0 (.announced "DP-1" false) ∧
      lo ∈ w.layoutputs ∧ lo.name = "DP-1" ∧
      World.groupSetup clonePolicy lo.sectionHead false =
        OutputPolicy.drmSetup (some (.named "DP-1")) false := by
  let w := ((Machine.start [(0, .drm)] false).world.drmPrepareEnable
    ⟨clonePolicy, false, .any⟩ 1 (.announced "DP-2" false)).drmPrepareEnable
    ⟨clonePolicy, false, .any⟩ 0 (.announced "DP-1" false)
  have names : w.layoutputs.map Layoutput.name = ["DP-1"] := rfl
  have listed : "DP-1" ∈ w.layoutputs.map Layoutput.name := by simp [names]
  obtain ⟨lo, member, named⟩ := List.mem_map.mp listed
  have setup := @group_setup_of_heads ⟨clonePolicy, false, .any⟩ .granting [(0, .drm)] false []
    (.start [(0, .drm)] false) .nil 0 1 (.announced "DP-1" false) (.announced "DP-2" false) "DP-1"
    _ _ rfl rfl w (by simp [w]) lo member named
  exact ⟨w, lo, rfl, member, named, setup.1⟩

/-! ### The plan of a staged group -/

/-- The decision for every group with staged heads is a plan to enable. -/
def World.StagedEnabled (config : Config) (w : World) : Prop :=
  ∀ lo ∈ w.layoutputs, lo.add ≠ [] →
    ∃ plan, config.policy.decideDrm lo.sectionHead false config.currentMode = .enable plan

/-- No group was brought by a head with a broken chain of clones. -/
def Unbroken (config : Config) (w : World) : Prop :=
  ∀ lo ∈ w.layoutputs, config.policy.isClone lo.key.1 = false

private theorem isClone_of_ok {value : WestonHead} {controlling : Option OutputRule}
    {group : String}
    {setup : DrmOutputSetup}
    (resolved : config.policy.drmControllingRule value.name = .ok controlling)
    (staged : config.staging value = some (group, setup)) :
    config.policy.isClone group = false := by
  cases clone : config.policy.isClone group with
  | false => rfl
  | true =>
      obtain ⟨_, message, decided⟩ := (agrees_of_staging staged).broken clone
      rw [OutputPolicy.decideDrm, resolved] at decided
      cases controlling with
      | none => cases decided
      | some rule =>
          dsimp only at decided
          split at decided
          · cases decided
          · split at decided <;> cases decided

private theorem Unbroken.stagedEnabled (unbroken : Unbroken config w) (founded : Founded config w) :
    w.StagedEnabled config := by
  intro lo member _
  obtain ⟨setup, agrees⟩ := founded lo member
  exact agrees.plan (unbroken lo member)

theorem Unbroken.step {answers : Answers} {m next : Machine} {label : Label}
    (unbroken : Unbroken config m.world) (resolves : m.resolves config label = true)
    (taken : Machine.Step answers config m label next) : Unbroken config next.world := by
  apply @Machine.step_keeps_groups config m next answers label
    (fun key => config.policy.isClone key.1 = false) taken unbroken
  intro head value group setup prepared staged
  rw [Machine.resolves, prepared, Option.all_some] at resolves
  cases ended : config.policy.drmControllingRule value.name with
  | error message =>
      rw [ended] at resolves
      cases resolves
  | ok controlling => exact isClone_of_ok ended staged

/-- Where a broken head was prepared, its group has no plan. -/
private theorem resolves_of_stagedEnabled {answers : Answers} {m next : Machine} {label : Label}
    (founded : Founded config m.world) (taken : Machine.Step answers config m label next)
    (enabled : next.world.StagedEnabled config) : m.resolves config label = true := by
  unfold Machine.resolves
  rcases Machine.step_groups taken with ⟨none, _⟩ | ⟨head, value, prepared, changed⟩
  · rw [none]
    rfl
  · rw [prepared, Option.all_some]
    cases ended : config.policy.drmControllingRule value.name with
    | ok controlling => rfl
    | error message =>
        have staged : config.staging value =
            some (value.name, OutputPolicy.drmDefaults config.currentMode) := by
          rw [Config.staging, OutputPolicy.decideDrm, ended, DrmHeadPlan.staging]
        rw [drmPrepareEnable_staged staged] at changed
        obtain ⟨lo, member, named, heads⟩ := addHead_staged m.world value.name value.name head
        rw [← changed] at member
        obtain ⟨plan, planned⟩ := enabled lo member heads
        obtain ⟨setup, agrees⟩ := founded.step taken lo member
        have clone := OutputPolicy.drmControllingRule_error ended
        rw [← named] at clone
        obtain ⟨_, message, decided⟩ := agrees.broken clone
        have sectionHead : lo.key.2 = lo.sectionHead := rfl
        rw [sectionHead, planned] at decided
        cases decided

/-- Every staged group has a plan to enable, on the whole way, just when no head is
prepared whose chain of clones is broken. -/
theorem staged_groups_enabled_iff (answers : Answers) (config : Config)
    (backends : List (BackendPtr × BackendKind)) (useColorManager : Bool) (labels : List Label) :
    Always (Machine.Step answers config) (.start backends useColorManager) labels
        (fun m => m.world.StagedEnabled config) ↔
      EachStep (Machine.Step answers config) (.start backends useColorManager) labels
        (fun m label => m.resolves config label = true) := by
  have founded := Founded.start config backends useColorManager
  constructor
  · intro always
    exact @EachStep.of_always Machine Label (Machine.Step answers config) _ labels
      (fun m => Founded config m.world) (fun m => m.world.StagedEnabled config) _ founded
      (fun _ _ _ founded taken => founded.step taken)
      (fun _ _ _ founded taken enabled => resolves_of_stagedEnabled founded taken enabled) always
  · intro each taken m short run
    have kept := @Always.of_eachStep Machine Label (Machine.Step answers config) _ labels
      (fun m => Founded config m.world ∧ Unbroken config m.world)
      (fun m label => m.resolves config label = true)
      ⟨founded, fun lo member => by cases member⟩
      (fun _ _ _ kept resolves taken => ⟨kept.1.step taken, kept.2.step resolves taken⟩) each
    obtain ⟨founded, unbroken⟩ := kept taken m short run
    exact unbroken.stagedEnabled founded

/-- A connector that clones one without a section. -/
def danglingPolicy : OutputPolicy :=
  { OutputPolicy.defaults 1024 640 with
    rules := [{ OutputRule.named "DP-2" with cloneOf := some "DP-1" }] }

/-- It is staged under its own name, without a plan. -/
theorem staged_group_without_plan :
    ∃ labels m, Run (Machine.Step .granting ⟨danglingPolicy, false, .any⟩)
        (.start [(0, .drm)] false) labels m ∧
      ∃ lo ∈ m.world.layoutputs, lo.add = [some 0] ∧
        ¬ ∃ plan, danglingPolicy.decideDrm lo.sectionHead false false = .enable plan := by
  let labels : List Label :=
    [.headAdded 0 "DP-2" 0 .normal, .headChanged 0 true false, .flush, .next]
  have reached : (follow (Machine.step .granting ⟨danglingPolicy, false, .any⟩)
      (.start [(0, .drm)] false) labels).map (fun m => m.world.layoutputs) =
      some [⟨"DP-2", "DP-2", [], [some 0]⟩] := by
    rfl
  obtain ⟨m, found, same⟩ := Option.map_eq_some_iff.mp reached
  refine ⟨labels, m, run_of_follow found, ⟨"DP-2", "DP-2", [], [some 0]⟩, ?_, rfl, ?_⟩
  · rw [same]
    exact List.mem_cons_self
  · rintro ⟨plan, planned⟩
    cases planned

end Westonite.Output
