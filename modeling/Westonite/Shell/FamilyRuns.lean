import Westonite.Shell.Runs

/-! Runs of the policy keep the two ends of every parent link together. -/

set_option autoImplicit false

namespace Westonite

open Library

variable {Host : Type}

theorem sameLinks_changeFocusCount (host : ShellHost Host) (shell : Shell) (h : Host)
    (id : DesktopSurfaceId) (delta : Int) :
    SameLinks shell.surfaces (shell.changeFocusCount host h id delta).1.surfaces := by
  unfold Shell.changeFocusCount
  split
  · exact ⟨fun _ => rfl, fun _ => rfl, fun _ => rfl⟩
  · have bumped := sameLinks_modify shell.surfaces id
      (fun st => show (st.bump delta).parent = st.parent from rfl) fun _ => rfl
    dsimp only
    split <;> exact bumped

theorem Linked.moveSeatFocus (host : ShellHost Host) {shell : Shell}
    (linked : Linked shell.surfaces) (h : Host) (surface : DesktopSurfaceId) (seat : SeatId) :
    Linked (shell.moveSeatFocus host h surface seat).1.surfaces := by
  refine @moveSeatFocus_keeps _ host (fun shell _ => Linked shell.surfaces) ?_
    (fun _ linked => linked) shell h surface seat linked
  intro shell h id delta linked
  exact linked.of_same (sameLinks_changeFocusCount host shell h id delta)

/-- Every handler step keeps the links. -/
private theorem linked_keeps (host : ShellHost Host) :
    Keeps host (fun shell _ => Linked shell.surfaces) (fun _ _ shell _ => Linked shell.surfaces)
      (fun _ _ => True) where
  lands _ _ _ := trivial
  acquire _ _ _ linked := linked
  move _ linked := linked.moveSeatFocus host _ _ _
  store := by
    intro shell h seat es linked
    unfold Shell.replaceFocus
    cases es with
    | none => exact linked
    | some es =>
        dsimp only
        split <;> exact linked
  rng _ linked := linked
  edit linked same :=
    linked.of_same (sameLinks_modify _ _ (fun st => (same st).1) fun st => (same st).2.1)
  raise _ linked := linked
  mapSurface _ linked := linked
  position _ _ _ linked := linked
  positionWithOffset _ _ _ _ _ linked := linked
  transforms _ linked := linked
  dirty _ linked := linked
  busy _ _ linked := linked
  endBusy _ linked := linked
  background _ _ linked := linked

theorem Linked.onEvent (host : ShellHost Host) {shell : Shell} (linked : Linked shell.surfaces)
    (h : Host) {ev : Event} (fresh : ev.Fresh shell) :
    Linked (shell.onEvent host h ev).1.surfaces := by
  cases structural : ev.structural with
  | false => exact (linked_keeps host).onEvent structural linked
  | true =>
      cases ev with
      | surfaceAdded surface => exact linked.insert_default fresh
      | surfaceRemoved surface => exact surfaceRemoved_linked host linked h surface
      | parentSet surface parent => exact setParent_linked linked surface parent
      | trackedSurfaceGone surface main =>
          exact (linked_keeps host).focusSurfaceGone surface main linked fun _ linked => linked
      | seatCreated seat => exact linked
      | seatGone seat =>
          unfold Shell.onEvent
          dsimp only
          split <;> exact linked
      | shutdown => exact .empty
      | _ => cases structural

theorem Shell.Step.linked {host : ShellHost Host} {drift : Host → Host → Prop}
    {state next : Shell × Host} {ev : Event} (linked : Linked state.1.surfaces)
    (taken : Shell.Step host drift state ev next) : Linked next.1.surfaces := by
  cases taken with
  | event same _ fresh => exact (linked.of_same same.links).onEvent host _ (same.fresh fresh)

private theorem known_surfaceRemoved (host : ShellHost Host) (shell : Shell) (h : Host)
    (id : DesktopSurfaceId) : ¬ (shell.surfaceRemoved host h id).1.known id := by
  cases found : shell.surfaces.lookup id with
  | none => simp [Shell.surfaceRemoved, Shell.known, found]
  | some st =>
      unfold Shell.known
      rw [lookup_surfaceRemoved host h found]
      simp

/-- A surface is among the children of just its parent, once, and both are
known. A removed one is neither known nor at an end of any link. -/
theorem children_of_parents {host : ShellHost Host} {drift : Host → Host → Prop}
    {config : ShellConfig} {h : Host} {events : List Event} {final : Shell × Host}
    (run : Run (Shell.Step host drift) (Shell.new config, h) events final)
    (p c : DesktopSurfaceId) :
    (c ∈ childrenOf final.1.surfaces p ↔ parentOf final.1.surfaces c = some p) ∧
      (c ∈ childrenOf final.1.surfaces p →
        (childrenOf final.1.surfaces p).count c = 1 ∧ final.1.known p ∧ final.1.known c) ∧
      ∀ next, Shell.Step host drift final (.surfaceRemoved c) next →
        ¬ next.1.known c ∧ parentOf next.1.surfaces p ≠ some c ∧
          c ∉ childrenOf next.1.surfaces p := by
  have linked : Linked final.1.surfaces :=
    @Run.invariant _ _ _ (fun state => Linked state.1.surfaces)
      (fun _ _ _ linked taken => taken.linked linked) _ _ _ Linked.empty run
  refine ⟨linked.child_iff p c, ?_, ?_⟩
  · intro listed
    exact ⟨List.count_eq_one_of_mem (linked.nodup p) listed, known_of_childrenOf listed,
      linked.child_known listed⟩
  · intro next taken
    have after : Linked next.1.surfaces := taken.linked linked
    have gone : ¬ next.1.known c := by
      cases taken with
      | event same drifted fresh => exact known_surfaceRemoved host _ _ c
    exact ⟨gone, fun link => gone (after.parent_known link),
      fun listed => gone (after.child_known listed)⟩

/-- A surface that is its own parent goes, and one in a cycle stays until it goes too. -/
theorem children_of_parents_cyclic :
    ∃ events final, Run (Shell.Step .inert fun _ _ => True) (Shell.new .default, ()) events
        final ∧
      parentOf final.1.surfaces ⟨⟨1, 1⟩⟩ = some ⟨⟨2, 1⟩⟩ ∧
      (⟨⟨1, 1⟩⟩ ∈ childrenOf final.1.surfaces ⟨⟨2, 1⟩⟩ ↔
        parentOf final.1.surfaces ⟨⟨1, 1⟩⟩ = some ⟨⟨2, 1⟩⟩) ∧
      ∃ next, Shell.Step .inert (fun _ _ => True) final (.surfaceRemoved ⟨⟨1, 1⟩⟩) next ∧
        ¬ next.1.known ⟨⟨1, 1⟩⟩ ∧ parentOf next.1.surfaces ⟨⟨2, 1⟩⟩ ≠ some ⟨⟨1, 1⟩⟩ ∧
          ⟨⟨1, 1⟩⟩ ∉ childrenOf next.1.surfaces ⟨⟨2, 1⟩⟩ := by
  let events : List Event :=
    [.surfaceAdded ⟨⟨0, 1⟩⟩, .surfaceAdded ⟨⟨1, 1⟩⟩, .surfaceAdded ⟨⟨2, 1⟩⟩,
      .parentSet ⟨⟨0, 1⟩⟩ (some ⟨⟨0, 1⟩⟩), .parentSet ⟨⟨1, 1⟩⟩ (some ⟨⟨2, 1⟩⟩),
      .parentSet ⟨⟨2, 1⟩⟩ (some ⟨⟨1, 1⟩⟩), .parentSet ⟨⟨2, 1⟩⟩ (some ⟨⟨9, 1⟩⟩),
      .surfaceRemoved ⟨⟨0, 1⟩⟩]
  have checked : Shell.checkAll .inert (fun state ev => decide (ev.Fresh state.1))
      (Shell.new .default, ()) events := by
    decide
  have one : ∀ (state : Shell × Unit) (ev : Event), decide (ev.Fresh state.1) →
      Shell.Step .inert (fun _ _ => True) state ev (state.1.onEvent .inert state.2 ev) :=
    fun state ev fresh => .event (.refl _) trivial (of_decide_eq_true fresh)
  obtain ⟨final, run, link⟩ : ∃ final,
      Run (Shell.Step .inert fun _ _ => True) (Shell.new .default, ()) events final ∧
        parentOf final.1.surfaces ⟨⟨1, 1⟩⟩ = some ⟨⟨2, 1⟩⟩ :=
    ⟨_, Shell.handleAll_run one checked, by decide⟩
  obtain ⟨both, _, removed⟩ := children_of_parents run ⟨⟨2, 1⟩⟩ ⟨⟨1, 1⟩⟩
  have taken := one final (.surfaceRemoved ⟨⟨1, 1⟩⟩) rfl
  exact ⟨events, final, run, link, both, _, taken, removed _ taken⟩

end Westonite
