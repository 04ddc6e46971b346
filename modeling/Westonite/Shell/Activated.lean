import Westonite.Shell.FocusCount

/-! The activated state a root was last sent against the focus counts in its
tree. -/

set_option autoImplicit false

namespace Westonite

open Library

variable {Host : Type}

def Focused (surfaces : Surfaces) (id : DesktopSurfaceId) : Prop :=
  ∃ st, surfaces.lookup id = some st ∧ 0 < st.focusCount

/-- The surface or a transitive child of it is focused. -/
def Active (surfaces : Surfaces) (top : DesktopSurfaceId) : Prop :=
  ∃ s, Focused surfaces s ∧ Below (parentOf surfaces) s top

/-- Something below `top` is focused that is not below `id`. -/
def ActiveBeside (surfaces : Surfaces) (id top : DesktopSurfaceId) : Prop :=
  ∃ s, Focused surfaces s ∧ Below (parentOf surfaces) s top ∧ ¬ Below (parentOf surfaces) s id

/-- The root above a surface. -/
def RootOf (surfaces : Surfaces) (id root : DesktopSurfaceId) : Prop :=
  Below (parentOf surfaces) id root ∧ parentOf surfaces root = none

private theorem active_congr {before after : Surfaces} (same : SameLinks before after)
    (focused : ∀ id, Focused after id ↔ Focused before id) (top : DesktopSurfaceId) :
    Active after top ↔ Active before top := by
  have parents : parentOf after = parentOf before := funext same.parent
  unfold Active
  simp only [focused, parents]

theorem active_iff_beside {surfaces : Surfaces} (id : DesktopSurfaceId)
    {root : DesktopSurfaceId} (isRoot : parentOf surfaces root = none) :
    Active surfaces root ↔
      ActiveBeside surfaces id root ∨
        Active surfaces id ∧ Below (parentOf surfaces) id root := by
  constructor
  · rintro ⟨s, focused, below⟩
    by_cases under : Below (parentOf surfaces) s id
    · exact .inr ⟨⟨s, focused, under⟩, under.rest below isRoot⟩
    · exact .inl ⟨s, focused, below, under⟩
  · rintro (⟨s, focused, below, _⟩ | ⟨⟨s, focused, under⟩, up⟩)
    · exact ⟨s, focused, below⟩
    · exact ⟨s, focused, under.trans up⟩

/-! ### The walks of `sync_activated` -/

theorem climb_eq {shell : Shell} {steps hops : Nat} {id root : DesktopSurfaceId}
    (path : Path (parentOf shell.surfaces) steps id root)
    (isRoot : parentOf shell.surfaces root = none) (within : steps < hops) :
    shell.climb hops id = root := by
  induction path generalizing hops with
  | refl node =>
      cases hops with
      | zero => rfl
      | succ hops =>
          unfold parentOf at isRoot
          simp [Shell.climb, isRoot]
  | @up steps node above top link rest ih =>
      cases hops with
      | zero => omega
      | succ hops =>
          unfold parentOf at link
          simp only [Shell.climb, link]
          exact ih isRoot (by omega)

theorem hasFocusedDescendant_iff {shell : Shell} (linked : Linked shell.surfaces) (fuel : Nat)
    (id : DesktopSurfaceId) :
    shell.hasFocusedDescendant fuel id ↔
      ∃ steps s, steps < fuel ∧ Focused shell.surfaces s ∧
        Path (parentOf shell.surfaces) steps s id := by
  induction fuel generalizing id with
  | zero => simp [Shell.hasFocusedDescendant]
  | succ fuel ih =>
      have children : ∀ c, c ∈ childrenOf shell.surfaces id ↔
          parentOf shell.surfaces c = some id := linked.child_iff id
      unfold Shell.hasFocusedDescendant
      constructor
      · intro found
        cases present : shell.surfaces.lookup id with
        | none => simp [present] at found
        | some st =>
            simp only [present, Bool.or_eq_true, decide_eq_true_eq, List.any_eq_true] at found
            rcases found with here | ⟨c, member, below⟩
            · exact ⟨0, id, by omega, ⟨st, present, here⟩, .refl id⟩
            · have link := (children c).mp (by simpa [childrenOf, present] using member)
              obtain ⟨steps, s, within, focused, path⟩ := (ih c).mp below
              exact ⟨steps + 1, s, by omega, focused, path.trans (.up link (.refl id))⟩
      · rintro ⟨steps, s, within, focused, path⟩
        cases steps with
        | zero =>
            cases path with
            | refl =>
                obtain ⟨st, present, positive⟩ := focused
                simp [present, positive]
        | succ steps =>
            obtain ⟨c, lower, link⟩ := path.last
            obtain ⟨st, present⟩ := Option.isSome_iff_exists.mp (linked.parent_known link)
            have member : c ∈ st.children := by
              simpa [childrenOf, present] using (children c).mpr link
            have below := (ih c).mpr ⟨steps, s, by omega, focused, lower⟩
            simp only [present, Bool.or_eq_true, List.any_eq_true]
            exact .inr ⟨c, member, below⟩

private theorem hasFocusedDescendant_active {shell : Shell} (linked : Linked shell.surfaces)
    (shallow : Shallow (parentOf shell.surfaces) 64) (id : DesktopSurfaceId) :
    shell.hasFocusedDescendant 65 id ↔ Active shell.surfaces id := by
  rw [hasFocusedDescendant_iff linked]
  constructor
  · rintro ⟨steps, s, _, focused, path⟩
    exact ⟨s, focused, steps, path⟩
  · rintro ⟨s, focused, steps, path⟩
    have within := shallow.length_le path
    exact ⟨steps, s, by omega, focused, path⟩

/-! ### A host that records what was sent -/

/-- The values sent with `set_activated`, the last one for each surface. -/
abbrev Sent := AssocMap DesktopSurfaceId Bool

def lastSent (sent : Sent) (id : DesktopSurfaceId) : Bool := (sent.lookup id).getD false

/-- Any host, with a record of `set_activated` beside its own state. -/
def ShellHost.recording (host : ShellHost Host) : ShellHost (Host × Sent) where
  outputs h := host.outputs h.1
  outputInfo h := host.outputInfo h.1
  seats h := host.seats h.1
  pointerPos h := host.pointerPos h.1
  pointerFocus h := host.pointerFocus h.1
  workspaceViewsTopDown h := host.workspaceViewsTopDown h.1
  isViewMapped h := host.isViewMapped h.1
  viewPos h := host.viewPos h.1
  viewOutput h := host.viewOutput h.1
  surfaceGeometry h := host.surfaceGeometry h.1
  activateInput h target seat flags :=
    let (surface, base) := host.activateInput h.1 target seat flags
    (surface, base, h.2)
  untrackSurface h surface := (host.untrackSurface h.1 surface, h.2)
  setActivated h surface active :=
    (host.setActivated h.1 surface active, h.2.insert surface active)
  raiseToWorkspaceTop h surface := (host.raiseToWorkspaceTop h.1 surface, h.2)
  mapSurface h surface := (host.mapSurface h.1 surface, h.2)
  setViewPosition h surface x y := (host.setViewPosition h.1 surface x y, h.2)
  setViewPositionWithOffset h surface x y dx dy :=
    (host.setViewPositionWithOffset h.1 surface x y dx dy, h.2)
  updateTransforms h surface := (host.updateTransforms h.1 surface, h.2)
  markViewDirty h surface := (host.markViewDirty h.1 surface, h.2)
  destroySurfaceState h surface := (host.destroySurfaceState h.1 surface, h.2)
  setBusyCursor h surface seat := (host.setBusyCursor h.1 surface seat, h.2)
  endBusyGrabsForClientOf h surface := (host.endBusyGrabsForClientOf h.1 surface, h.2)
  recreateBackground h output argb := (host.recreateBackground h.1 output argb, h.2)

/-- Every known root was last sent whether it is active. -/
def Synced (surfaces : Surfaces) (sent : Sent) : Prop :=
  ∀ root, (surfaces.lookup root).isSome → parentOf surfaces root = none →
    (lastSent sent root ↔ Active surfaces root)

private theorem lastSent_insert (sent : Sent) (id other : DesktopSurfaceId) (active : Bool) :
    lastSent (sent.insert id active) other =
      if other = id then active else lastSent sent other := by
  unfold lastSent
  rw [AssocMap.lookup_insert]
  split <;> rfl

theorem Synced.of_same {before after : Surfaces} {sent : Sent} (synced : Synced before sent)
    (same : SameLinks before after)
    (focused : ∀ id, Focused after id ↔ Focused before id) : Synced after sent := by
  intro root known isRoot
  rw [active_congr same focused]
  rw [same.known] at known
  rw [same.parent] at isRoot
  exact synced root known isRoot

/-- One count moves, and the root above it is told when that matters. -/
theorem changeFocusCount_synced (host : ShellHost Host) {shell : Shell} {h : Host × Sent}
    (linked : Linked shell.surfaces) (shallow : Shallow (parentOf shell.surfaces) 64)
    {id : DesktopSurfaceId} {st : SurfState} (found : shell.surfaces.lookup id = some st)
    {delta : Int} (before : 0 ≤ st.focusCount) (after : 0 ≤ (st.bump delta).focusCount)
    (synced : Synced shell.surfaces h.2) :
    Synced (shell.changeFocusCount host.recording h id delta).1.surfaces
      (shell.changeFocusCount host.recording h id delta).2.2 := by
  have same : SameLinks shell.surfaces (shell.surfaces.modify id fun st => st.bump delta) :=
    sameLinks_modify _ _ (fun _ => rfl) fun _ => rfl
  have others : ∀ other, other ≠ id →
      (Focused (shell.surfaces.modify id fun st => st.bump delta) other ↔
        Focused shell.surfaces other) := by
    intro other different
    unfold Focused
    rw [AssocMap.lookup_modify]
    simp [different]
  have self : Focused (shell.surfaces.modify id fun st => st.bump delta) id ↔
      0 < (st.bump delta).focusCount := by
    unfold Focused
    rw [AssocMap.lookup_modify, found]
    simp
  have selfBefore : Focused shell.surfaces id ↔ 0 < st.focusCount := by
    unfold Focused
    rw [found]
    simp
  unfold Shell.changeFocusCount
  simp only [found]
  split
  · -- the count crosses zero: the root above `id` is sent its state
    obtain ⟨steps, root, within, path, isRoot⟩ := shallow id
    have parents : parentOf (shell.surfaces.modify id fun st => st.bump delta) =
        parentOf shell.surfaces := funext same.parent
    have linkedAfter := linked.of_same same
    intro other known otherRoot
    rw [parents] at otherRoot
    rw [same.known] at known
    unfold Shell.syncActivated
    dsimp only [ShellHost.recording]
    rw [climb_eq (parents ▸ path) (parents ▸ isRoot) (by omega), lastSent_insert]
    by_cases top : other = root
    · rw [if_pos top, top]
      exact hasFocusedDescendant_active linkedAfter (parents ▸ shallow) root
    · rw [if_neg top, synced other known otherRoot]
      unfold Active
      rw [parents]
      apply exists_congr
      intro s
      apply and_congr_left
      intro below
      refine (others s ?_).symm
      rintro rfl
      exact top (below.root_unique ⟨steps, path⟩ otherRoot isRoot)
  · rename_i uncrossed
    simp only [ne_eq, decide_eq_decide, not_not] at uncrossed
    apply synced.of_same same
    intro other
    by_cases here : other = id
    · subst here
      rw [self, selfBefore]
      omega
    · exact others other here

end Westonite
