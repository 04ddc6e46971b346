import Westonite.Shell.ActivatedRuns
import Westonite.Shell.FamilyRuns

/-! What a root is sent when a surface below it takes its first focus. -/

set_option autoImplicit false

namespace Westonite

open Library

variable {Host : Type}

def focusCountOf (surfaces : Surfaces) (id : DesktopSurfaceId) : Option Int :=
  (surfaces.lookup id).map SurfState.focusCount

private theorem focusCountOf_changeFocusCount (host : ShellHost Host) (shell : Shell) (h : Host)
    {id other : DesktopSurfaceId} (different : other ≠ id) (delta : Int) :
    focusCountOf (shell.changeFocusCount host h id delta).1.surfaces other =
      focusCountOf shell.surfaces other := by
  have bumped : focusCountOf (shell.surfaces.modify id fun st => st.bump delta) other =
      focusCountOf shell.surfaces other := by
    unfold focusCountOf
    rw [AssocMap.lookup_modify, Option.map_map]
    congr 1
    funext st
    exact congrArg SurfState.focusCount (if_neg different)
  unfold Shell.changeFocusCount
  split
  · rfl
  · dsimp only
    split <;> exact bumped

/-- The first focus of a surface is announced at its root. -/
private theorem changeFocusCount_sent (host : ShellHost Host) {shell : Shell} (h : Host × Sent)
    (linked : Linked shell.surfaces) {id root : DesktopSurfaceId}
    (unfocused : focusCountOf shell.surfaces id = some 0) {steps : Nat}
    (path : Path (parentOf shell.surfaces) steps id root)
    (isRoot : parentOf shell.surfaces root = none) (within : steps ≤ 64) :
    (shell.changeFocusCount host.recording h id 1).2.2 = h.2.insert root true := by
  obtain ⟨st, found, zero⟩ := Option.map_eq_some_iff.mp unfocused
  have one : (st.bump 1).focusCount = 1 := by
    unfold SurfState.bump
    dsimp only
    rw [zero]
    rfl
  have same : SameLinks shell.surfaces (shell.surfaces.modify id fun st => st.bump 1) :=
    sameLinks_modify _ _ (fun _ => rfl) fun _ => rfl
  have parents : parentOf (shell.surfaces.modify id fun st => st.bump 1) =
      parentOf shell.surfaces := funext same.parent
  have focused : Focused (shell.surfaces.modify id fun st => st.bump 1) id := by
    refine ⟨st.bump 1, ?_, by omega⟩
    rw [AssocMap.lookup_modify, found, Option.map_some, if_pos rfl]
  let bumped : Shell :=
    { shell with surfaces := shell.surfaces.modify id fun st => st.bump 1 }
  have top : bumped.climb 65 id = root := climb_eq (parents ▸ path) (parents ▸ isRoot) (by omega)
  have active : bumped.hasFocusedDescendant 65 root = true :=
    (hasFocusedDescendant_iff (linked.of_same same) 65 root).mpr
      ⟨steps, id, by omega, focused, parents ▸ path⟩
  have crossed : decide (st.focusCount = 0) ≠ decide ((st.bump 1).focusCount = 0) := by
    rw [zero, one]
    decide
  unfold Shell.changeFocusCount
  simp only [found]
  rw [if_pos crossed]
  unfold Shell.syncActivated
  change h.2.insert (bumped.climb 65 id) (bumped.hasFocusedDescendant 65 (bumped.climb 65 id)) = _
  rw [top, active]

/-- A move of the focus that gives a surface its first focus announces it last. -/
private theorem moveSeatFocus_sent (host : ShellHost Host) {shell : Shell} (h : Host × Sent)
    (linked : Linked shell.surfaces) {surface root : DesktopSurfaceId} (seat : SeatId)
    (unfocused : focusCountOf shell.surfaces surface = some 0)
    (focused : focusCountOf (shell.moveSeatFocus host.recording h surface seat).1.surfaces
      surface = some 1) {steps : Nat}
    (path : Path (parentOf shell.surfaces) steps surface root)
    (isRoot : parentOf shell.surfaces root = none) (within : steps ≤ 64) :
    (shell.moveSeatFocus host.recording h surface seat).2.2.lookup root = some true := by
  have announced : ∀ (before : Shell) (h : Host × Sent),
      SameLinks shell.surfaces before.surfaces →
      focusCountOf before.surfaces surface = some 0 →
      (before.changeFocusCount host.recording h surface 1).2.2.lookup root = some true := by
    intro before h same unfocused
    have parents : parentOf before.surfaces = parentOf shell.surfaces := funext same.parent
    rw [changeFocusCount_sent host h (linked.of_same same) unfocused (parents ▸ path)
      (parents ▸ isRoot) within]
    exact AList.lookup_insert _
  have unmoved : ¬ some (0 : Int) = some 1 := by decide
  have refl : SameLinks shell.surfaces shell.surfaces :=
    ⟨fun _ => rfl, fun _ => rfl, fun _ => rfl⟩
  unfold Shell.moveSeatFocus at focused ⊢
  cases found : shell.seats.lookup seat with
  | none =>
      simp only [found] at focused
      exact absurd (unfocused.symm.trans focused) unmoved
  | some st =>
      simp only [found] at focused ⊢
      cases held : st.focusedSurface with
      | none => exact announced shell h refl unfocused
      | some prev =>
          by_cases same : prev = surface
          · simp only [held, same, ne_eq, not_true_eq_false, false_and, if_false] at focused
            exact absurd (unfocused.symm.trans focused) unmoved
          · have moved : some prev ≠ some surface := fun eq => same (Option.some.inj eq)
            dsimp only
            rw [if_pos moved]
            split
            · apply announced
              · exact sameLinks_changeFocusCount host.recording shell h prev (-1)
              · rw [focusCountOf_changeFocusCount host.recording shell h (Ne.symm same)]
                exact unfocused
            · exact announced shell h refl unfocused

/-- The links, the counts and the record after an activation are those of the move of
the focus in it. -/
private theorem activate_recorded (host : ShellHost Host) {shell : Shell} (h : Host × Sent)
    {surface : DesktopSurfaceId} (known : shell.known surface = true) (seat : SeatId)
    (flags : ActivateFlags) (target : ActivateTarget) :
    ∃ base,
      (shell.activate host.recording h surface seat flags target).1.surfaces =
          (shell.moveSeatFocus host.recording (base, h.2)
            (shell.redirect host.recording h 65 surface target).1 seat).1.surfaces ∧
        (shell.activate host.recording h surface seat flags target).2.2 =
          (shell.moveSeatFocus host.recording (base, h.2)
            (shell.redirect host.recording h 65 surface target).1 seat).2.2 := by
  unfold Shell.activate
  rw [if_pos known]
  generalize shell.redirect host.recording h 65 surface target = destination
  refine ⟨(host.activateInput h.1 destination.2 seat flags).2, ?_⟩
  obtain ⟨surfaces, _, sent⟩ := replaceFocus_fields host
    (shell.moveSeatFocus host.recording
      ((host.activateInput h.1 destination.2 seat flags).2, h.2) destination.1 seat).1
    (shell.moveSeatFocus host.recording
      ((host.activateInput h.1 destination.2 seat flags).2, h.2) destination.1 seat).2
    seat (host.activateInput h.1 destination.2 seat flags).1
  exact ⟨surfaces, sent⟩

/-- When an activation gives the surface it lands on its first focus, and that one is at
most 64 levels below its root, the root was last sent that it is active. -/
theorem root_activated (host : ShellHost Host) {shell : Shell} (h : Host × Sent)
    (linked : Linked shell.surfaces) (surface : DesktopSurfaceId) (seat : SeatId)
    (flags : ActivateFlags) (target : ActivateTarget) {landed root : DesktopSurfaceId}
    (lands : (shell.redirect host.recording h 65 surface target).1 = landed)
    (unfocused : focusCountOf shell.surfaces landed = some 0)
    (focused : focusCountOf
      (shell.activate host.recording h surface seat flags target).1.surfaces landed = some 1)
    {steps : Nat} (path : Path (parentOf shell.surfaces) steps landed root)
    (isRoot : parentOf shell.surfaces root = none) (within : steps ≤ 64) :
    (shell.activate host.recording h surface seat flags target).2.2.lookup root = some true := by
  by_cases known : shell.known surface = true
  · obtain ⟨base, surfaces, sent⟩ := activate_recorded host h known seat flags target
    rw [lands] at surfaces sent
    rw [surfaces] at focused
    rw [sent]
    exact moveSeatFocus_sent host _ linked seat unfocused focused path isRoot within
  · have same : shell.activate host.recording h surface seat flags target = (shell, h) := by
      unfold Shell.activate
      exact if_neg known
    rw [same] at focused
    exact absurd (unfocused.symm.trans focused) (by decide)

/-! ### Chains of windows -/

/-- A chain of windows `depth` levels deep, and a seat on the first. -/
def Shell.nestedEvents (depth : Nat) : List Event :=
  (List.range (depth + 1)).map (fun level => .surfaceAdded ⟨⟨level, 1⟩⟩) ++
    (List.range depth).map (fun level => .parentSet ⟨⟨level + 1, 1⟩⟩ (some ⟨⟨level, 1⟩⟩)) ++
    [.seatCreated ⟨⟨0, 1⟩⟩, .activate ⟨⟨0, 1⟩⟩ ⟨⟨0, 1⟩⟩ .busyClick]

def Shell.nested (depth : Nat) : Shell × (Unit × Sent) :=
  Shell.handleAll ShellHost.inert.recording (Shell.new .default, (), ∅) (nestedEvents depth)

private theorem Shell.nested_linked {depth : Nat}
    (checked : checkAll ShellHost.inert.recording (fun state ev => decide (ev.Fresh state.1))
      (Shell.new .default, (), ∅) (nestedEvents depth)) : Linked (nested depth).1.surfaces := by
  have run : Run (Shell.Step ShellHost.inert.recording fun _ _ => True)
      (Shell.new .default, (), ∅) (nestedEvents depth) (nested depth) := by
    apply handleAll_run _ checked
    intro state ev fresh
    exact .event (.refl _) trivial (of_decide_eq_true fresh)
  exact @Run.invariant _ _ _ (fun state => Linked state.1.surfaces)
    (fun _ _ _ linked taken => taken.linked linked) _ _ _ Linked.empty run

theorem root_activated_nested :
    ((Shell.nested 2).1.activate ShellHost.inert.recording (Shell.nested 2).2 ⟨⟨2, 1⟩⟩ ⟨⟨0, 1⟩⟩
      .configure (.surfaceView ⟨⟨2, 1⟩⟩)).2.2.lookup ⟨⟨0, 1⟩⟩ = some true := by
  have path : Path (parentOf (Shell.nested 2).1.surfaces) 2 ⟨⟨2, 1⟩⟩ ⟨⟨0, 1⟩⟩ :=
    @Path.up _ _ _ _ ⟨⟨1, 1⟩⟩ _ (by decide)
      (@Path.up _ _ _ _ ⟨⟨0, 1⟩⟩ _ (by decide) (.refl _))
  exact root_activated .inert _ (Shell.nested_linked (by decide)) ⟨⟨2, 1⟩⟩ _ _ _ rfl (by decide)
    (by decide) path (by decide) (by decide)

/-- The focus goes from the first window of a chain to the one 66 levels below. -/
theorem root_deactivated :
    ∃ (shell : Shell) (h : Unit × Sent), Linked shell.surfaces ∧
      (shell.redirect ShellHost.inert.recording h 65 ⟨⟨66, 1⟩⟩ (.surfaceView ⟨⟨66, 1⟩⟩)).1 =
        ⟨⟨66, 1⟩⟩ ∧
      shell.climb 66 ⟨⟨66, 1⟩⟩ = ⟨⟨0, 1⟩⟩ ∧ parentOf shell.surfaces ⟨⟨0, 1⟩⟩ = none ∧
      focusCountOf shell.surfaces ⟨⟨66, 1⟩⟩ = some 0 ∧
      focusCountOf (shell.activate ShellHost.inert.recording h ⟨⟨66, 1⟩⟩ ⟨⟨0, 1⟩⟩ .configure
        (.surfaceView ⟨⟨66, 1⟩⟩)).1.surfaces ⟨⟨66, 1⟩⟩ = some 1 ∧
      (shell.activate ShellHost.inert.recording h ⟨⟨66, 1⟩⟩ ⟨⟨0, 1⟩⟩ .configure
        (.surfaceView ⟨⟨66, 1⟩⟩)).2.2.lookup ⟨⟨0, 1⟩⟩ = some false := by
  refine ⟨(Shell.nested 66).1, (Shell.nested 66).2, Shell.nested_linked ?_, ?_⟩
  · decide +kernel
  · decide +kernel

end Westonite
