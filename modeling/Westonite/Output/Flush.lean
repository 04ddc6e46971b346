import Westonite.Library.Run
import Westonite.Output.Layoutput

/-! The heads-changed flush, head by head, and the events of libweston around
it. -/

set_option autoImplicit false

namespace Westonite.Output

open Library

/-- The configuration the heads-changed listener closes over. -/
structure Config where
  policy : OutputPolicy
  currentMode : Bool
  requireOutputs : RequireOutputs
  deriving DecidableEq, Repr

namespace World

/-- `drm_prepare_enable`. -/
def drmPrepareEnable (w : World) (config : Config) (head : HeadPtr) (value : WestonHead) : World :=
  match config.policy.decideDrm value.name value.nonDesktop config.currentMode with
  | .enable plan => w.addHead plan.outputName value.name head
  | .off | .nonDesktop => w
  | .badCloneOf _ => w.addHead value.name value.name head

/-- `drm_head_disable`. -/
def drmHeadDisable (w : World) (head : HeadPtr) : World :=
  let output := w.outputOf head
  let w := w.detachHead head
  match output with
  | none => w
  | some output => w.headDetached output

variable (answers : Answers) (config : Config)

/-- A head of the flush, and whether it is a DRM head of a loaded backend. -/
def visitHead (w : World) (head : HeadPtr) : Bool × World :=
  match w.heads head with
  | none => (false, w)
  | some value =>
      let enabled := w.headEnabled head
      match w.backendKind value.backend with
      | none => (false, w)
      | some .drm =>
          let wanted := value.connected || config.policy.drmForceOn value.name
          let w :=
            if wanted && !enabled then w.drmPrepareEnable config head value
            else if !wanted && enabled then w.drmHeadDisable head
            else w
          (true, w.resetDeviceChanged head)
      | some kind =>
          let w :=
            if value.connected && !enabled && !value.nonDesktop then
              -- a remote mirror waits for its source
              if kind = .vnc && config.policy.hasMirrorOf value.name then w
              else
                match headSetupFor config.policy kind value.name with
                | some setup =>
                    w.enableHead answers (outputCreated answers config.policy) head setup none
                      (config.policy.decideColor value.name)
                | none => w.registerHead head
            else if !value.connected && enabled then w.disableHead head
            else w
          (false, w.resetDeviceChanged head)

/-- What the visit of a head comes to, before its change flag is reset. -/
inductive Visited (w : World) (head : HeadPtr) : World → Prop where
  | left : Visited w head w
  | prepared (value : WestonHead) (there : w.heads head = some value)
      (drm : w.backendKind value.backend = some .drm)
      (wanted : (value.connected || config.policy.drmForceOn value.name) = true)
      (down : w.headEnabled head = false) : Visited w head (w.drmPrepareEnable config head value)
  | drmDisabled (value : WestonHead) (there : w.heads head = some value)
      (drm : w.backendKind value.backend = some .drm)
      (gone : (value.connected || config.policy.drmForceOn value.name) = false)
      (up : w.headEnabled head = true) : Visited w head (w.drmHeadDisable head)
  | enabled (value : WestonHead) (kind : BackendKind) (setup : HeadSetup)
      (there : w.heads head = some value) (isKind : w.backendKind value.backend = some kind)
      (plain : (decide (kind = .vnc) && config.policy.hasMirrorOf value.name) = false)
      (other : kind ≠ .drm) :
      Visited w head
        (w.enableHead answers (outputCreated answers config.policy) head setup none
          (config.policy.decideColor value.name))
  | registered : Visited w head (w.registerHead head)
  | disabled (value : WestonHead) (kind : BackendKind) (there : w.heads head = some value)
      (isKind : w.backendKind value.backend = some kind) (other : kind ≠ .drm)
      (gone : value.connected = false) (up : w.headEnabled head = true) :
      Visited w head (w.disableHead head)

private theorem visitHead_visited (w : World) (head : HeadPtr) :
    ∃ visited, Visited answers config w head visited ∧
      ((w.visitHead answers config head).2 = visited ∨
        (w.visitHead answers config head).2 = visited.resetDeviceChanged head) := by
  unfold visitHead
  cases there : w.heads head with
  | none => exact ⟨w, .left, .inl rfl⟩
  | some value =>
      dsimp only
      split
      · exact ⟨w, .left, .inl rfl⟩
      · rename_i drm
        refine ⟨_, ?_, .inr rfl⟩
        split
        · rename_i wanted
          rw [Bool.and_eq_true, Bool.not_eq_true'] at wanted
          exact .prepared value there drm wanted.1 wanted.2
        · split
          · rename_i gone
            rw [Bool.and_eq_true, Bool.not_eq_true'] at gone
            exact .drmDisabled value there drm gone.1 gone.2
          · exact .left
      · rename_i kind other isKind
        refine ⟨_, ?_, .inr rfl⟩
        split
        · split
          · exact .left
          · rename_i plain
            split
            · rename_i setup _
              exact .enabled value kind setup there isKind (by simpa using plain) other
            · exact .registered
        · split
          · rename_i gone
            rw [Bool.and_eq_true, Bool.not_eq_true'] at gone
            exact .disabled value kind there isKind other gone.1 gone.2
          · exact .left

/-- A visit keeps what each of its outcomes and the reset of the flag keep. -/
theorem visitHead_keeps {kept : World → Prop} {w : World} {head : HeadPtr}
    (visited : ∀ now, Visited answers config w head now → kept now)
    (reset : ∀ now, kept now → kept (now.resetDeviceChanged head)) :
    kept (w.visitHead answers config head).2 := by
  obtain ⟨now, outcome, same | same⟩ := visitHead_visited answers config w head
  · rw [same]
    exact visited now outcome
  · rw [same]
    exact reset now (visited now outcome)

/-- The end of `heads_changed`, for a flush that saw a DRM head. -/
def flushGroups (w : World) : World :=
  let (up, w) := w.processAll answers config.policy config.currentMode config.requireOutputs
  if up then w else w.fail

end World

/-- What happens to the heads and outputs. -/
inductive Label where
  | headAdded (head : HeadPtr) (name : String) (backend : BackendPtr) (transform : OutputTransform)
  | headChanged (head : HeadPtr) (connected nonDesktop : Bool)
  | flush
  /-- The flush goes on with its next head, or with the groups. -/
  | next
  | resized (output : OutputPtr) (geometry : Geometry)
  /-- An output goes for reasons of libweston. -/
  | outputDestroyed (output : OutputPtr)
  deriving DecidableEq, Repr

/-- The heads a flush has left to visit, and whether it saw a DRM head. -/
structure Machine where
  world : World
  flushing : Option (List HeadPtr × Bool)

namespace Machine

def start (backends : List (BackendPtr × BackendKind)) (useColorManager : Bool) : Machine where
  world := .new backends useColorManager
  flushing := none

variable (answers : Answers) (config : Config)

def step (m : Machine) (label : Label) : Option Machine :=
  match m.flushing, label with
  | none, .headAdded head name backend transform =>
      if (m.world.heads head).isSome then none
      else
        some { m with world := { m.world with
          heads := Function.update m.world.heads head
            (some ⟨name, backend, false, true, false, transform, none⟩)
          headList := m.world.headList ++ [head] } }
  | none, .headChanged head connected nonDesktop =>
      some { m with world := m.world.setHead head fun value =>
        { value with connected, nonDesktop, deviceChanged := true } }
  | none, .flush => some { m with flushing := some (m.world.headList, false) }
  | some ([], sawDrm), .next =>
      some
        { world := if sawDrm then m.world.flushGroups answers config else m.world
          flushing := none }
  | some (head :: heads, sawDrm), .next =>
      let (drm, world) := m.world.visitHead answers config head
      some { world, flushing := some (heads, sawDrm || drm) }
  | none, .resized output geometry =>
      let resized := m.world.setOutput output fun value =>
        { value with
          nativeModeCopy := geometry.nativeModeCopy
          currentMode := geometry.currentMode
          width := geometry.width
          height := geometry.height }
      some { m with world := resized.mirrorOnOutputResized config.policy output }
  | none, .outputDestroyed output => some { m with world := m.world.destroyOutput output }
  | _, _ => none

/-- `step` as a relation. -/
def Step (m : Machine) (label : Label) (next : Machine) : Prop :=
  m.step answers config label = some next

/-- What each label does. -/
inductive Moved (m : Machine) : Label → Machine → Prop where
  | headAdded (head : HeadPtr) (name : String) (backend : BackendPtr) (transform : OutputTransform)
      (unknown : m.world.heads head = none) :
      Moved m (.headAdded head name backend transform)
        { m with world := { m.world with
          heads := Function.update m.world.heads head
            (some ⟨name, backend, false, true, false, transform, none⟩)
          headList := m.world.headList ++ [head] } }
  | headChanged (head : HeadPtr) (connected nonDesktop : Bool) :
      Moved m (.headChanged head connected nonDesktop)
        { m with world := m.world.setHead head fun value =>
          { value with connected, nonDesktop, deviceChanged := true } }
  | flush : Moved m .flush { m with flushing := some (m.world.headList, false) }
  | groups (flushing : m.flushing = some ([], true)) :
      Moved m .next { world := m.world.flushGroups answers config, flushing := none }
  | flushed (flushing : m.flushing = some ([], false)) :
      Moved m .next { world := m.world, flushing := none }
  | visit (head : HeadPtr) (heads : List HeadPtr) (sawDrm : Bool)
      (flushing : m.flushing = some (head :: heads, sawDrm)) :
      Moved m .next
        { world := (m.world.visitHead answers config head).2
          flushing := some (heads, sawDrm || (m.world.visitHead answers config head).1) }
  | resized (output : OutputPtr) (geometry : Geometry) :
      Moved m (.resized output geometry)
        { m with world := (m.world.setOutput output fun value =>
            { value with
              nativeModeCopy := geometry.nativeModeCopy
              currentMode := geometry.currentMode
              width := geometry.width
              height := geometry.height }).mirrorOnOutputResized config.policy output }
  | outputDestroyed (output : OutputPtr) :
      Moved m (.outputDestroyed output) { m with world := m.world.destroyOutput output }

theorem moved_of_step {m next : Machine} {label : Label}
    (taken : Step answers config m label next) :
    Moved answers config m label next := by
  unfold Step step at taken
  split at taken
  · split at taken
    · cases taken
    · rename_i head name backend transform _ unknown
      cases taken
      exact .headAdded head name backend transform (by simpa using unknown)
  · cases taken
    exact .headChanged _ _ _
  · cases taken
    exact .flush
  · rename_i sawDrm flushing
    cases taken
    cases sawDrm with
    | true => exact .groups flushing
    | false => exact .flushed flushing
  · rename_i head heads sawDrm flushing
    cases taken
    exact .visit head heads sawDrm flushing
  · cases taken
    exact .resized _ _
  · cases taken
    exact .outputDestroyed _
  · cases taken

end Machine

end Westonite.Output
