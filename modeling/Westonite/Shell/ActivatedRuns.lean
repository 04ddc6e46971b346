import Westonite.Shell.Activated

/-! The activated state over runs: which parent changes and removals keep it. -/

set_option autoImplicit false

namespace Westonite

open Library

variable {Host : Type}

/-- What the steps of a handler keep of the displayed state. -/
structure Displayed (extra : DesktopSurfaceId → Nat) (shell : Shell) (h : Host × Sent) :
    Prop where
  accounted : Accounted extra shell
  room : Room extra shell
  shallow : Shallow (parentOf shell.surfaces) 64
  synced : Synced shell.surfaces h.2

private theorem Accounted.nonneg {extra : DesktopSurfaceId → Nat} {shell : Shell}
    (accounted : Accounted extra shell) {id : DesktopSurfaceId} {st : SurfState}
    (found : shell.surfaces.lookup id = some st) : 0 ≤ st.focusCount := by
  rw [accounted.count id st found]
  omega

private theorem moveSeatFocus_synced {extra : DesktopSurfaceId → Nat} (host : ShellHost Host)
    {shell : Shell} {h : Host × Sent} (before : Displayed extra shell h)
    {surface : DesktopSurfaceId} (known : (shell.surfaces.lookup surface).isSome)
    (seat : SeatId) :
    Synced (shell.moveSeatFocus host.recording h surface seat).1.surfaces
      (shell.moveSeatFocus host.recording h surface seat).2.2 := by
  obtain ⟨accounted, room, shallow, synced⟩ := before
  obtain ⟨st, present⟩ := Option.isSome_iff_exists.mp known
  unfold Shell.moveSeatFocus
  cases found : shell.seats.lookup seat with
  | none => exact synced
  | some value =>
      by_cases same : value.focusedSurface = some surface
      · simpa [same] using synced
      · have moved := accounted.focusMoved room found known same
        have counts : ∀ id st,
            (shell.focusMoved value.focusedSurface surface seat).surfaces.lookup id = some st →
              0 ≤ st.focusCount := fun id st found => moved.nonneg found
        simp only [lookup_focusMoved] at counts
        cases prev : value.focusedSurface with
        | none =>
            have after : 0 ≤ (st.bump 1).focusCount := by
              apply counts surface
              simp [present, prev]
            simpa [prev] using changeFocusCount_synced host accounted.linked shallow present
              (accounted.nonneg present) after synced
        | some p =>
            have apart : p ≠ surface := by
              rintro rfl
              exact same prev
            have pKnown := accounted.focused seat value p found prev
            obtain ⟨left, leftFound⟩ := Option.isSome_iff_exists.mp pKnown
            have leftAfter : 0 ≤ (left.bump (-1)).focusCount := by
              apply counts p
              simp [leftFound, prev, apart]
            have joinedAfter : 0 ≤ (st.bump 1).focusCount := by
              apply counts surface
              simp [present, prev, apart]
            have middle := changeFocusCount_synced host accounted.linked shallow leftFound
              (accounted.nonneg leftFound) leftAfter synced
            have links : SameLinks shell.surfaces
                (shell.surfaces.modify p fun st => st.bump (-1)) :=
              sameLinks_modify _ _ (fun _ => rfl) fun _ => rfl
            have parents := funext links.parent
            have stillPresent : (shell.surfaces.modify p fun st => st.bump (-1)).lookup surface =
                some st := by
              rw [AssocMap.lookup_modify, present]
              simp [Ne.symm apart]
            have shape := changeFocusCount_fst host.recording h pKnown (-1)
            rw [shape] at middle
            have joined := changeFocusCount_synced host (accounted.linked.of_same links)
              (parents ▸ shallow) stillPresent (accounted.nonneg present) joinedAfter middle
            simpa [prev, apart, Shell.known, pKnown, shape] using joined

theorem Displayed.moveSeatFocus {extra : DesktopSurfaceId → Nat} (host : ShellHost Host)
    {shell : Shell} {h : Host × Sent} (before : Displayed extra shell h)
    {surface : DesktopSurfaceId} (known : (shell.surfaces.lookup surface).isSome)
    (seat : SeatId) :
    Displayed extra (shell.moveSeatFocus host.recording h surface seat).1
      (shell.moveSeatFocus host.recording h surface seat).2 := by
  have counted := before.accounted.moveSeatFocus host.recording before.room h known seat
  refine ⟨counted.1, counted.2, ?_, moveSeatFocus_synced host before known seat⟩
  have links : SameLinks shell.surfaces
      (shell.moveSeatFocus host.recording h surface seat).1.surfaces := by
    cases found : shell.seats.lookup seat with
    | none =>
        simp only [Shell.moveSeatFocus, found]
        exact ⟨fun _ => rfl, fun _ => rfl, fun _ => rfl⟩
    | some st =>
        rw [moveSeatFocus_fst host.recording h found known
          fun p => before.accounted.focused seat st p found]
        split
        · exact ⟨fun _ => rfl, fun _ => rfl, fun _ => rfl⟩
        · exact sameLinks_focusMoved shell st.focusedSurface surface seat
  rw [funext links.parent]
  exact before.shallow

/-- A change outside the surfaces and the record. -/
theorem Displayed.of_same {extra : DesktopSurfaceId → Nat} {before after : Shell}
    {h next : Host × Sent} (displayed : Displayed extra before h)
    (surfaces : after.surfaces = before.surfaces) (seats : after.seats = before.seats)
    (sent : next.2 = h.2) : Displayed extra after next where
  accounted := by
    apply displayed.accounted.of_same _ _ _ seats
    · rw [surfaces]
      exact displayed.accounted.linked
    · intro id
      rw [surfaces]
    · intro id st found
      rw [surfaces] at found
      exact ⟨st, found, rfl⟩
  room id := by
    rw [seats]
    exact displayed.room id
  shallow := by
    rw [surfaces]
    exact displayed.shallow
  synced := by
    rw [surfaces, sent]
    exact displayed.synced

theorem replaceFocus_fields (host : ShellHost Host) (shell : Shell) (h : Host × Sent)
    (seat : SeatId) (es : Option SurfaceId) :
    (shell.replaceFocus host.recording h seat es).1.surfaces = shell.surfaces ∧
      (shell.replaceFocus host.recording h seat es).1.seats = shell.seats ∧
      (shell.replaceFocus host.recording h seat es).2.2 = h.2 := by
  unfold Shell.replaceFocus
  cases es with
  | none => exact ⟨rfl, rfl, rfl⟩
  | some es =>
      dsimp only
      split <;> exact ⟨rfl, rfl, rfl⟩

/-- Every handler step keeps what is displayed. -/
private theorem displayed_keeps (extra : DesktopSurfaceId → Nat) (host : ShellHost Host) :
    Keeps host.recording (Displayed extra) (fun _ _ => Displayed extra)
      (fun shell surface => shell.known surface) where
  lands before known target :=
    redirect_known host.recording before.accounted.linked _ 65 known target
  acquire _ _ _ before := before.of_same rfl rfl rfl
  move known before := before.moveSeatFocus host known _
  store := by
    intro shell h seat es before
    obtain ⟨surfaces, seats, sent⟩ := replaceFocus_fields host shell h seat es
    exact before.of_same surfaces seats sent
  rng _ before := before.of_same rfl rfl rfl
  edit := by
    intro shell h id change before kept
    have links := sameLinks_modify shell.surfaces id (fun st => (kept st).1)
      fun st => (kept st).2.1
    have counted := @Keeps.edit _ _ _ _ _ (accounted_keeps extra host.recording) shell h id change
      ⟨before.accounted, before.room⟩ kept
    refine ⟨counted.1, counted.2, (funext links.parent).symm ▸ before.shallow, ?_⟩
    apply before.synced.of_same links
    intro other
    unfold Focused
    rw [AssocMap.lookup_modify]
    cases shell.surfaces.lookup other with
    | none => simp
    | some st =>
        by_cases here : other = id
        · simp [here, (kept st).2.2]
        · simp [here]
  raise _ before := before.of_same rfl rfl rfl
  mapSurface _ before := before.of_same rfl rfl rfl
  position _ _ _ before := before.of_same rfl rfl rfl
  positionWithOffset _ _ _ _ _ before := before.of_same rfl rfl rfl
  transforms _ before := before.of_same rfl rfl rfl
  dirty _ before := before.of_same rfl rfl rfl
  busy _ _ before := before.of_same rfl rfl rfl
  endBusy _ before := before.of_same rfl rfl rfl
  background _ _ before := before.of_same rfl rfl rfl

/-! ### Trees that change -/

/-- The root above a surface stays active without it. -/
def Detachable (surfaces : Surfaces) (id : DesktopSurfaceId) : Prop :=
  ∀ root, RootOf surfaces id root → root ≠ id → Active surfaces id →
    ActiveBeside surfaces id root

/-- Whether the trees an event changes show the same afterwards, for the values
that were sent. -/
def Event.KeepsActivity (surfaces : Surfaces) (sent : Sent) : Event → Prop
  | .parentSet id parent =>
      (surfaces.lookup id).isSome →
        match knownParent surfaces parent with
        | some p =>
            ∀ root newRoot, RootOf surfaces id root → RootOf surfaces p newRoot →
              root ≠ newRoot → Active surfaces id →
              (root ≠ id → ActiveBeside surfaces id root) ∧ Active surfaces newRoot
        | none =>
            parentOf surfaces id ≠ none →
              Detachable surfaces id ∧ (lastSent sent id ↔ Active surfaces id)
  | .surfaceRemoved id =>
      (surfaces.lookup id).isSome →
        Detachable surfaces id ∧
          ∀ c, parentOf surfaces c = some id → (lastSent sent c ↔ Active surfaces c)
  | _ => True

private theorem focused_insert_default {surfaces : Surfaces} {id : DesktopSurfaceId}
    (fresh : surfaces.lookup id = none) (other : DesktopSurfaceId) :
    Focused (surfaces.insert id .default) other ↔ Focused surfaces other := by
  unfold Focused
  rw [AssocMap.lookup_insert]
  by_cases here : other = id
  · subst here
    simp [fresh, SurfState.default]
  · simp [here]

theorem Synced.surfaceAdded {surfaces : Surfaces} {sent : Sent} (synced : Synced surfaces sent)
    (linked : Linked surfaces) {id : DesktopSurfaceId} (fresh : surfaces.lookup id = none)
    (unsent : sent.lookup id = none) : Synced (surfaces.insert id .default) sent := by
  have orphan : parentOf surfaces id = none := by simp [parentOf, fresh]
  have parents : parentOf (surfaces.insert id .default) = parentOf surfaces := by
    funext other
    rw [parentOf_insert_default]
    by_cases here : other = id
    · rw [if_pos here, here, orphan]
    · rw [if_neg here]
  intro root known isRoot
  unfold Active
  simp only [parents, focused_insert_default fresh] at isRoot ⊢
  by_cases here : root = id
  · subst here
    have quiet : ¬ lastSent sent root := by simp [lastSent, unsent]
    apply iff_of_false quiet
    rintro ⟨s, ⟨st, found, _⟩, steps, path⟩
    cases steps with
    | zero =>
        cases path with
        | refl => simp [fresh] at found
    | succ steps =>
        obtain ⟨child, _, link⟩ := path.last
        simpa [fresh] using linked.parent_known link
  · apply synced root _ isRoot
    rwa [AssocMap.lookup_insert, if_neg here] at known

private theorem focused_setParent {shell : Shell} (id : DesktopSurfaceId)
    (parent : Option DesktopSurfaceId) (other : DesktopSurfaceId) :
    Focused (shell.setParent id parent).surfaces other ↔ Focused shell.surfaces other := by
  cases found : shell.surfaces.lookup id with
  | none => simp [Shell.setParent, found]
  | some st =>
      unfold Focused
      rw [lookup_setParent found]
      cases shell.surfaces.lookup other with
      | none => simp
      | some value => simp [reparented_focusCount]

/-- The activity of a root after a parent change. -/
private theorem active_setParent {shell : Shell} {id : DesktopSurfaceId}
    (known : (shell.surfaces.lookup id).isSome) (parent : Option DesktopSurfaceId)
    {root : DesktopSurfaceId}
    (isRoot : parentOf (shell.setParent id parent).surfaces root = none) :
    Active (shell.setParent id parent).surfaces root ↔
      ActiveBeside shell.surfaces id root ∨
        Active shell.surfaces id ∧
          Below (parentOf (shell.setParent id parent).surfaces) id root := by
  have elsewhere : ∀ other, other ≠ id →
      parentOf (shell.setParent id parent).surfaces other = parentOf shell.surfaces other := by
    intro other different
    rw [parentOf_setParent known, if_neg different]
  unfold Active ActiveBeside
  simp only [focused_setParent]
  constructor
  · rintro ⟨s, focused, reached⟩
    rcases (below_root_iff elsewhere isRoot).mp reached with ⟨apart, below⟩ | ⟨under, up⟩
    · exact .inl ⟨s, focused, below, apart⟩
    · exact .inr ⟨⟨s, focused, under⟩, up⟩
  · rintro (⟨s, focused, below, apart⟩ | ⟨⟨s, focused, under⟩, up⟩)
    · exact ⟨s, focused, (below_root_iff elsewhere isRoot).mpr (.inl ⟨apart, below⟩)⟩
    · exact ⟨s, focused, (below_root_iff elsewhere isRoot).mpr (.inr ⟨under, up⟩)⟩

private theorem setParent_unknown {shell : Shell} {id : DesktopSurfaceId}
    (unknown : shell.surfaces.lookup id = none) (parent : Option DesktopSurfaceId) :
    shell.setParent id parent = shell := by
  simp [Shell.setParent, unknown]

/-- The moved surface is below the root its new parent was below. -/
private theorem below_setParent_iff {shell : Shell} {id p : DesktopSurfaceId}
    (known : (shell.surfaces.lookup id).isSome) {parent : Option DesktopSurfaceId}
    (new : knownParent shell.surfaces parent = some p)
    (shallowAfter : Shallow (parentOf (shell.setParent id parent).surfaces) 64)
    {root : DesktopSurfaceId}
    (isRoot : parentOf (shell.setParent id parent).surfaces root = none) :
    Below (parentOf (shell.setParent id parent).surfaces) id root ↔
      Below (parentOf shell.surfaces) p root := by
  have elsewhere : ∀ other, other ≠ id →
      parentOf (shell.setParent id parent).surfaces other = parentOf shell.surfaces other := by
    intro other different
    rw [parentOf_setParent known, if_neg different]
  have link : parentOf (shell.setParent id parent).surfaces id = some p := by
    rw [parentOf_setParent known, if_pos rfl, new]
  have apart : ¬ Below (parentOf shell.surfaces) p id := by
    intro under
    obtain ⟨steps, path⟩ := (below_moved_iff elsewhere).mpr under
    have length := shallowAfter.acyclic (Path.up link path)
    omega
  have above : Below (parentOf (shell.setParent id parent).surfaces) p root ↔
      Below (parentOf shell.surfaces) p root := by
    rw [below_root_iff elsewhere isRoot]
    simp only [apart, not_false_eq_true, true_and, false_and, or_false]
  rw [← above]
  constructor
  · intro below
    exact (Below.up link (.refl p)).rest below isRoot
  · exact Below.up link

/-- A root whose tree gains or loses the moved surface is active without it. -/
private theorem setParent_beside {shell : Shell} {sent : Sent} {id : DesktopSurfaceId}
    (known : (shell.surfaces.lookup id).isSome) {parent : Option DesktopSurfaceId}
    (shallow : Shallow (parentOf shell.surfaces) 64)
    (shallowAfter : Shallow (parentOf (shell.setParent id parent).surfaces) 64)
    (keeps : Event.KeepsActivity shell.surfaces sent (.parentSet id parent))
    {root : DesktopSurfaceId} (wasRoot : parentOf shell.surfaces root = none)
    (isRoot : parentOf (shell.setParent id parent).surfaces root = none)
    (changed : ¬ (Below (parentOf shell.surfaces) id root ↔
      Below (parentOf (shell.setParent id parent).surfaces) id root))
    (active : Active shell.surfaces id) : ActiveBeside shell.surfaces id root := by
  have kept := keeps known
  have different : root ≠ id := by
    rintro rfl
    exact changed (iff_of_true (.refl root) (.refl root))
  cases new : knownParent shell.surfaces parent with
  | none =>
      simp only [new] at kept
      have orphan : parentOf (shell.setParent id parent).surfaces id = none := by
        rw [parentOf_setParent known, if_pos rfl, new]
      have apart : ¬ Below (parentOf (shell.setParent id parent).surfaces) id root := by
        rintro ⟨_, path⟩
        exact different (path.of_root orphan).1
      have above : Below (parentOf shell.surfaces) id root := by
        by_contra below
        exact changed (iff_of_false below apart)
      have hadParent : parentOf shell.surfaces id ≠ none := by
        intro wasOrphan
        obtain ⟨_, path⟩ := above
        exact different (path.of_root wasOrphan).1
      exact (kept hadParent).1 root ⟨above, wasRoot⟩ different active
  | some p =>
      simp only [new] at kept
      rw [below_setParent_iff known new shallowAfter isRoot] at changed
      by_cases leaves : Below (parentOf shell.surfaces) id root
      · obtain ⟨newRoot, newBelow, newIsRoot⟩ := shallow.root p
        have apart : root ≠ newRoot := by
          rintro rfl
          exact changed (iff_of_true leaves newBelow)
        exact (kept root newRoot ⟨leaves, wasRoot⟩ ⟨newBelow, newIsRoot⟩ apart active).1 different
      · have joins : Below (parentOf shell.surfaces) p root := by
          by_contra below
          exact changed (iff_of_false leaves below)
        obtain ⟨oldRoot, oldBelow, oldIsRoot⟩ := shallow.root id
        have apart : oldRoot ≠ root := by
          rintro rfl
          exact leaves oldBelow
        have joined := (kept oldRoot root ⟨oldBelow, oldIsRoot⟩ ⟨joins, wasRoot⟩ apart active).2
        rw [active_iff_beside id wasRoot] at joined
        exact joined.resolve_right fun under => leaves under.2

theorem Synced.setParent {shell : Shell} {sent : Sent} (synced : Synced shell.surfaces sent)
    (id : DesktopSurfaceId) (parent : Option DesktopSurfaceId)
    (shallow : Shallow (parentOf shell.surfaces) 64)
    (shallowAfter : Shallow (parentOf (shell.setParent id parent).surfaces) 64)
    (keeps : Event.KeepsActivity shell.surfaces sent (.parentSet id parent)) :
    Synced (shell.setParent id parent).surfaces sent := by
  cases found : shell.surfaces.lookup id with
  | none => rwa [setParent_unknown found]
  | some st =>
      have known : (shell.surfaces.lookup id).isSome := by simp [found]
      have parents := parentOf_setParent known parent
      intro root rootKnown isRoot
      rw [lookup_setParent_isSome] at rootKnown
      rw [active_setParent known parent isRoot]
      by_cases wasRoot : parentOf shell.surfaces root = none
      · rw [synced root rootKnown wasRoot, active_iff_beside id wasRoot]
        by_cases changed : Below (parentOf shell.surfaces) id root ↔
            Below (parentOf (shell.setParent id parent).surfaces) id root
        · rw [changed]
        · have beside := setParent_beside known shallow shallowAfter keeps wasRoot isRoot changed
          exact (or_iff_left_of_imp fun under => beside under.1).trans
            (or_iff_left_of_imp fun under => beside under.1).symm
      · -- only the moved surface can become a root
        have self : root = id := by
          by_contra different
          rw [parents, if_neg different] at isRoot
          exact wasRoot isRoot
        subst self
        have new : knownParent shell.surfaces parent = none := by
          rw [parents, if_pos rfl] at isRoot
          exact isRoot
        have kept := keeps known
        simp only [new] at kept
        rw [(kept wasRoot).2]
        have none : ¬ ActiveBeside shell.surfaces root root := fun ⟨_, _, below, apart⟩ =>
          apart below
        simp [none, Below.refl root]

/-! ### A surface that goes -/

theorem Synced.surfaceRemoved (host : ShellHost Host) {shell : Shell} {sent : Sent}
    (synced : Synced shell.surfaces sent) (linked : Linked shell.surfaces)
    (shallow : Shallow (parentOf shell.surfaces) 64) (h : Host × Sent) (id : DesktopSurfaceId)
    (keeps : Event.KeepsActivity shell.surfaces sent (.surfaceRemoved id)) :
    Synced (shell.surfaceRemoved host.recording h id).1.surfaces sent := by
  cases found : shell.surfaces.lookup id with
  | none =>
      have same : (shell.surfaceRemoved host.recording h id).1.surfaces = shell.surfaces := by
        simp [Shell.surfaceRemoved, found]
      rwa [same]
  | some st =>
      have known : (shell.surfaces.lookup id).isSome := by simp [found]
      obtain ⟨detachable, orphans⟩ := keeps known
      have parents : parentOf (shell.surfaceRemoved host.recording h id).1.surfaces =
          without (parentOf shell.surfaces) id :=
        funext (parentOf_surfaceRemoved host.recording linked h known)
      have focused : ∀ other, Focused (shell.surfaceRemoved host.recording h id).1.surfaces other ↔
          other ≠ id ∧ Focused shell.surfaces other := by
        intro other
        unfold Focused
        rw [lookup_surfaceRemoved host.recording h found]
        by_cases same : other = id
        · simp [same]
        · cases shell.surfaces.lookup other with
          | none => simp [same]
          | some value => simp [same, orphaned_focusCount]
      intro root rootKnown isRoot
      rw [lookup_surfaceRemoved host.recording h found] at rootKnown
      have different : root ≠ id := by
        rintro rfl
        simp at rootKnown
      rw [if_neg different, Option.isSome_map] at rootKnown
      unfold Active
      simp only [parents, focused] at isRoot ⊢
      unfold without at isRoot
      by_cases wasRoot : parentOf shell.surfaces root = none
      · simp only [below_without_root_iff wasRoot different]
        rw [synced root rootKnown wasRoot, active_iff_beside id wasRoot]
        have beside : Active shell.surfaces id ∧ Below (parentOf shell.surfaces) id root →
            ActiveBeside shell.surfaces id root :=
          fun under => detachable root ⟨under.2, wasRoot⟩ different under.1
        rw [or_iff_left_of_imp beside]
        unfold ActiveBeside
        constructor
        · rintro ⟨s, focusedHere, below, apart⟩
          refine ⟨s, ⟨?_, focusedHere⟩, below, apart⟩
          rintro rfl
          exact apart (.refl s)
        · rintro ⟨s, ⟨_, focusedHere⟩, below, apart⟩
          exact ⟨s, focusedHere, below, apart⟩
      · have child : parentOf shell.surfaces root = some id := by
          by_contra other
          rw [if_neg (by simp [different, other])] at isRoot
          exact wasRoot isRoot
        rw [orphans root child]
        simp only [below_without_child_iff shallow child]
        unfold Active
        apply exists_congr
        intro s
        constructor
        · rintro ⟨focusedHere, below⟩
          refine ⟨⟨?_, focusedHere⟩, below⟩
          rintro rfl
          obtain ⟨_, path⟩ := below
          have length := shallow.acyclic (Path.up child path)
          omega
        · rintro ⟨⟨_, focusedHere⟩, below⟩
          exact ⟨focusedHere, below⟩

private theorem keepsActivity_congr {before after : Surfaces}
    (lookup : ∀ id, after.lookup id = before.lookup id) (sent : Sent) (ev : Event) :
    ev.KeepsActivity after sent ↔ ev.KeepsActivity before sent := by
  have parents : parentOf after = parentOf before := by
    funext id
    unfold parentOf
    rw [lookup]
  have focused : Focused after = Focused before := by
    funext id
    unfold Focused
    rw [lookup]
  have new : knownParent after = knownParent before := by
    funext parent
    unfold knownParent
    simp only [lookup]
  have detachable : Detachable after = Detachable before := by
    funext id
    unfold Detachable RootOf ActiveBeside Active
    rw [parents, focused]
  cases ev <;>
    simp only [Event.KeepsActivity, detachable, RootOf, ActiveBeside, Active, parents, focused,
      new, lookup]

/-! ### Runs -/

/-- An event on forests no deeper than 64; nothing was sent for a surface before
it was announced. -/
structure ForestStep (host : ShellHost Host) (state : Shell × (Host × Sent)) (ev : Event)
    (next : Shell × (Host × Sent)) : Prop where
  taken : Shell.Step host.recording (fun h drifted => drifted.2 = h.2) state ev next
  shallow : Shallow (parentOf next.1.surfaces) 64
  unsent : ∀ surface, ev = .surfaceAdded surface → state.2.2.lookup surface = none

/-- Such an event that keeps the activity of the trees, where no focus count can
leave the range of an `i32`. -/
structure ActivatedStep (host : ShellHost Host) (state : Shell × (Host × Sent)) (ev : Event)
    (next : Shell × (Host × Sent)) : Prop extends ForestStep host state ev next where
  few : state.1.seats.entries.length < 2147483648
  room : ∀ id st, state.1.surfaces.lookup id = some st →
    st.focusCount + state.1.seats.entries.length < 2147483648
  kept : ev.KeepsActivity state.1.surfaces state.2.2

/-- An excess of known surfaces only. -/
def Shell.restrict (shell : Shell) (extra : DesktopSurfaceId → Nat) (id : DesktopSurfaceId) :
    Nat :=
  if (shell.surfaces.lookup id).isSome then extra id else 0

private theorem Accounted.restrict {extra : DesktopSurfaceId → Nat} {shell : Shell}
    (accounted : Accounted extra shell) : Accounted (shell.restrict extra) shell where
  linked := accounted.linked
  count id st found := by
    rw [accounted.count id st found]
    simp [Shell.restrict, found]
  focused := accounted.focused

/-- What holds between two events. -/
structure Settled (state : Shell × (Host × Sent)) : Prop where
  counted : ∃ extra, Accounted extra state.1
  shallow : Shallow (parentOf state.1.surfaces) 64
  synced : Synced state.1.surfaces state.2.2

theorem Displayed.onEvent {extra : DesktopSurfaceId → Nat} (host : ShellHost Host)
    {shell : Shell} {h : Host × Sent} (displayed : Displayed extra shell h) {ev : Event}
    (fresh : ev.Fresh shell) (unsent : ∀ surface, ev = .surfaceAdded surface →
      h.2.lookup surface = none) (kept : ev.KeepsActivity shell.surfaces h.2)
    (shallow : Shallow (parentOf (shell.onEvent host.recording h ev).1.surfaces) 64) :
    Synced (shell.onEvent host.recording h ev).1.surfaces
      (shell.onEvent host.recording h ev).2.2 := by
  have keeps := displayed_keeps extra host
  cases structural : ev.structural with
  | false => exact (keeps.onEvent structural displayed).synced
  | true =>
      cases ev with
      | surfaceAdded surface =>
          exact displayed.synced.surfaceAdded displayed.accounted.linked fresh (unsent surface rfl)
      | surfaceRemoved surface =>
          exact displayed.synced.surfaceRemoved host displayed.accounted.linked displayed.shallow h
            surface kept
      | parentSet surface parent =>
          exact displayed.synced.setParent surface parent displayed.shallow shallow kept
      | trackedSurfaceGone gone main =>
          apply (keeps.focusSurfaceGone gone main displayed _).synced
          intro shell h seat before
          exact before.of_same rfl rfl rfl
      | seatCreated seat => exact displayed.synced
      | seatGone seat =>
          unfold Shell.onEvent
          dsimp only
          split <;> exact displayed.synced
      | shutdown =>
          intro root known
          cases known
      | committed | xwaylandPosition | pingTimeout | pong | activate | outputCreated | outputGone
      | outputResized | outputMoved | grabEnded | sessionActivated | headsChanged | headGone
      | compositorShutdown => cases structural

theorem ActivatedStep.settled {host : ShellHost Host} {state next : Shell × (Host × Sent)}
    {ev : Event} (settled : Settled state) (step : ActivatedStep host state ev next) :
    Settled next := by
  obtain ⟨⟨taken, shallow, unsent⟩, few, room, kept⟩ := step
  obtain ⟨⟨extra, accounted⟩, shallowBefore, synced⟩ := settled
  cases taken with
  | @event shell ordered h drifted ev same drift fresh =>
      have links := same.links
      have parents := funext links.parent
      have counted := (accounted.reordered same).restrict
      have bounded : Room (ordered.restrict extra) ordered := by
        intro id
        rw [same.seats.length_eq]
        unfold Shell.restrict
        split
        · rename_i known
          obtain ⟨st, found⟩ := Option.isSome_iff_exists.mp known
          rw [same.lookup_surfaces] at found
          have count := accounted.count id st found
          have limit := room id st found
          dsimp only at limit
          omega
        · simpa using few
      have displayed : Displayed (ordered.restrict extra) ordered drifted := by
        refine ⟨counted, bounded, parents.symm ▸ shallowBefore, ?_⟩
        rw [drift]
        apply synced.of_same links
        intro id
        unfold Focused
        rw [same.lookup_surfaces]
      have unsentThere : ∀ surface, ev = .surfaceAdded surface →
          drifted.2.lookup surface = none := by
        rw [drift]
        exact unsent
      have keptThere : ev.KeepsActivity ordered.surfaces drifted.2 := by
        rw [drift, keepsActivity_congr same.lookup_surfaces]
        exact kept
      have zero : ∀ id, ordered.surfaces.lookup id = none →
          ordered.restrict extra id = 0 := by
        intro id unknown
        simp [Shell.restrict, unknown]
      obtain ⟨after, held, _⟩ :=
        counted.onEvent host.recording bounded zero drifted (same.fresh fresh)
      exact ⟨⟨after, held⟩, shallow,
        displayed.onEvent host (same.fresh fresh) unsentThere keptThere shallow⟩

/-- Where parent changes and removals keep the activity of the trees, every
known root was last sent whether something in its tree is focused. -/
theorem activated_agrees_with_focus (host : ShellHost Host) (config : ShellConfig) (h : Host)
    {events : List Event} {final : Shell × (Host × Sent)}
    (run : Run (ActivatedStep host) (Shell.new config, h, ∅) events final) :
    ∀ root, final.1.known root → parentOf final.1.surfaces root = none →
      (lastSent final.2.2 root ↔ Active final.1.surfaces root) := by
  have start : Settled (Shell.new config, h, ∅) := by
    refine ⟨⟨fun _ => 0, .empty _ rfl rfl⟩, ?_, ?_⟩
    · intro node
      exact ⟨0, node, by omega, .refl node, rfl⟩
    · intro root known
      cases known
  exact (Run.invariant (fun _ _ _ settled step => step.settled settled) start run).synced

/-! ### Two runs -/

def Shell.shallowCheck (surfaces : Surfaces) : Bool :=
  surfaces.keys.all fun id => reachesRoot (parentOf surfaces) 64 id

private theorem Shell.shallowCheck_shallow {surfaces : Surfaces} (checked : shallowCheck surfaces) :
    Shallow (parentOf surfaces) 64 := by
  intro node
  cases found : surfaces.lookup node with
  | none => exact ⟨0, node, by omega, .refl node, by simp [parentOf, found]⟩
  | some st =>
      have member : node ∈ surfaces.keys := AList.lookup_isSome.mp (by simp [found])
      exact reachesRoot_path (List.all_eq_true.mp checked node member)

/-- Whether no known surface is focused. -/
def Shell.unfocused (surfaces : Surfaces) : Bool :=
  surfaces.entries.all fun entry => entry.2.focusCount ≤ 0

private theorem Shell.unfocused_not_active {surfaces : Surfaces} (none : unfocused surfaces)
    (top : DesktopSurfaceId) : ¬ Active surfaces top := by
  rintro ⟨s, ⟨st, found, positive⟩, _⟩
  have low := List.all_eq_true.mp none _ (AssocMap.mem_entries_iff.mpr found)
  simp only [decide_eq_true_eq] at low
  omega

/-- Whether every root above a known surface is itself focused. -/
def Shell.rootsFocused (surfaces : Surfaces) : Bool :=
  surfaces.entries.all fun entry =>
    match entry.2.parent with
    | none => 0 < entry.2.focusCount
    | some above => (surfaces.lookup above).isSome

private theorem Shell.rootsFocused_focused {surfaces : Surfaces} (focused : rootsFocused surfaces)
    {id root : DesktopSurfaceId} (known : (surfaces.lookup id).isSome)
    (isRoot : RootOf surfaces id root) : Focused surfaces root := by
  obtain ⟨⟨steps, path⟩, orphan⟩ := isRoot
  induction path with
  | refl node =>
      obtain ⟨st, found⟩ := Option.isSome_iff_exists.mp known
      have entry := List.all_eq_true.mp focused _ (AssocMap.mem_entries_iff.mpr found)
      have none : st.parent = none := by simpa [parentOf, found] using orphan
      exact ⟨st, found, by simpa [none] using entry⟩
  | @up _ node above top link path ih =>
      obtain ⟨st, found⟩ := Option.isSome_iff_exists.mp known
      have entry := List.all_eq_true.mp focused _ (AssocMap.mem_entries_iff.mpr found)
      have parent : st.parent = some above := by simpa [parentOf, found] using link
      exact ih (by simpa [parent] using entry) orphan

/-- Where the roots are focused themselves, each is active without the subtree
that leaves it. -/
private theorem Shell.rootsFocused_beside {surfaces : Surfaces} (focused : rootsFocused surfaces)
    {id root : DesktopSurfaceId} (known : (surfaces.lookup id).isSome)
    (isRoot : RootOf surfaces id root) (different : root ≠ id) :
    ActiveBeside surfaces id root := by
  refine ⟨root, rootsFocused_focused focused known isRoot, .refl root, ?_⟩
  rintro ⟨steps, path⟩
  cases path with
  | refl => exact different rfl
  | up link path => simp [isRoot.2] at link

def Shell.forestCheck (host : ShellHost Host) (state : Shell × (Host × Sent)) (ev : Event) :
    Bool :=
  decide (ev.Fresh state.1) &&
    shallowCheck (state.1.onEvent host.recording state.2 ev).1.surfaces &&
    match ev with
    | .surfaceAdded surface => (state.2.2.lookup surface).isNone
    | _ => true

private theorem Shell.forestCheck_step {host : ShellHost Host} {state : Shell × (Host × Sent)}
    {ev : Event} (checked : forestCheck host state ev) :
    ForestStep host state ev (state.1.onEvent host.recording state.2 ev) := by
  unfold forestCheck at checked
  simp only [Bool.and_eq_true, decide_eq_true_eq] at checked
  obtain ⟨⟨fresh, shallow⟩, unsent⟩ := checked
  refine ⟨.event (.refl _) rfl fresh, shallowCheck_shallow shallow, ?_⟩
  rintro surface rfl
  exact Option.isNone_iff_eq_none.mp unsent

/-- A step with room for the counts whose parent change, if it is one, happens
while nothing or every root is focused. A removed surface has no child, and
every root is focused. -/
def Shell.activatedCheck (host : ShellHost Host) (state : Shell × (Host × Sent)) (ev : Event) :
    Bool :=
  forestCheck host state ev && decide (state.1.seats.entries.length < 2147483648) &&
    (state.1.surfaces.entries.all fun entry =>
      decide (entry.2.focusCount + state.1.seats.entries.length < 2147483648)) &&
    match ev with
    | .parentSet _ parent =>
        (knownParent state.1.surfaces parent).isSome &&
          (unfocused state.1.surfaces || rootsFocused state.1.surfaces)
    | .surfaceRemoved id =>
        rootsFocused state.1.surfaces &&
          state.1.surfaces.entries.all fun entry => entry.2.parent != some id
    | _ => true

private theorem Shell.parentSet_keepsActivity {surfaces : Surfaces} (sent : Sent)
    {parent : Option DesktopSurfaceId} (new : (knownParent surfaces parent).isSome)
    (either : unfocused surfaces || rootsFocused surfaces) (id : DesktopSurfaceId) :
    Event.KeepsActivity surfaces sent (.parentSet id parent) := by
  intro known
  obtain ⟨p, found⟩ := Option.isSome_iff_exists.mp new
  simp only [found]
  intro root newRoot isRoot isNewRoot _ active
  cases Bool.or_eq_true_iff.mp either with
  | inl none => exact absurd active (unfocused_not_active none id)
  | inr focused =>
      have above := rootsFocused_focused focused (known_of_knownParent found) isNewRoot
      exact ⟨rootsFocused_beside focused known isRoot, newRoot, above, .refl newRoot⟩

private theorem Shell.surfaceRemoved_keepsActivity {surfaces : Surfaces} (sent : Sent)
    {id : DesktopSurfaceId} (focused : rootsFocused surfaces)
    (childless : surfaces.entries.all fun entry => entry.2.parent != some id) :
    Event.KeepsActivity surfaces sent (.surfaceRemoved id) := by
  intro known
  refine ⟨fun root isRoot different _ => rootsFocused_beside focused known isRoot different, ?_⟩
  intro c link
  obtain ⟨st, found⟩ := Option.isSome_iff_exists.mp (known_of_parentOf link)
  have parent : st.parent = some id := by simpa [parentOf, found] using link
  have entry := List.all_eq_true.mp childless _ (AssocMap.mem_entries_iff.mpr found)
  simp [parent] at entry

private theorem Shell.activatedCheck_step {host : ShellHost Host} {state : Shell × (Host × Sent)}
    {ev : Event} (checked : activatedCheck host state ev) :
    ActivatedStep host state ev (state.1.onEvent host.recording state.2 ev) := by
  unfold activatedCheck at checked
  simp only [Bool.and_eq_true, decide_eq_true_eq, List.all_eq_true] at checked
  obtain ⟨⟨⟨forest, few⟩, room⟩, kept⟩ := checked
  refine ⟨forestCheck_step forest, few, ?_, ?_⟩
  · intro id st found
    exact room _ (AssocMap.mem_entries_iff.mpr found)
  · cases ev with
    | parentSet id parent =>
        obtain ⟨new, either⟩ := Bool.and_eq_true_iff.mp kept
        exact parentSet_keepsActivity _ new either id
    | surfaceRemoved id =>
        obtain ⟨focused, childless⟩ := Bool.and_eq_true_iff.mp kept
        exact surfaceRemoved_keepsActivity _ focused childless
    | _ => trivial

/-- A child that is focused beside its window moves to another window that is
focused too, and goes away there. -/
theorem activated_agrees_with_focus_child :
    ∃ events final, Run (ActivatedStep .inert) (Shell.new .default, (), ∅) events final ∧
      [.parentSet ⟨⟨1, 1⟩⟩ (some ⟨⟨2, 1⟩⟩), .surfaceRemoved ⟨⟨1, 1⟩⟩] <:+ events ∧
      lastSent final.2.2 ⟨⟨0, 1⟩⟩ ∧ lastSent final.2.2 ⟨⟨2, 1⟩⟩ ∧
      ∀ root, final.1.known root → parentOf final.1.surfaces root = none →
        (lastSent final.2.2 root ↔ Active final.1.surfaces root) := by
  let events : List Event :=
    [.surfaceAdded ⟨⟨0, 1⟩⟩, .surfaceAdded ⟨⟨1, 1⟩⟩, .surfaceAdded ⟨⟨2, 1⟩⟩,
      .parentSet ⟨⟨1, 1⟩⟩ (some ⟨⟨0, 1⟩⟩), .seatCreated ⟨⟨0, 1⟩⟩, .seatCreated ⟨⟨1, 1⟩⟩,
      .seatCreated ⟨⟨2, 1⟩⟩, .activate ⟨⟨0, 1⟩⟩ ⟨⟨0, 1⟩⟩ .busyClick,
      .activate ⟨⟨1, 1⟩⟩ ⟨⟨1, 1⟩⟩ .busyClick, .activate ⟨⟨2, 1⟩⟩ ⟨⟨2, 1⟩⟩ .busyClick,
      .parentSet ⟨⟨1, 1⟩⟩ (some ⟨⟨2, 1⟩⟩), .surfaceRemoved ⟨⟨1, 1⟩⟩]
  have checked : Shell.checkAll ShellHost.inert.recording (Shell.activatedCheck .inert)
      (Shell.new .default, (), ∅) events := by
    decide
  have run := Shell.handleAll_run (fun _ _ passed => Shell.activatedCheck_step passed) checked
  have moved : [.parentSet ⟨⟨1, 1⟩⟩ (some ⟨⟨2, 1⟩⟩), .surfaceRemoved ⟨⟨1, 1⟩⟩] <:+ events :=
    List.drop_suffix 10 events
  exact ⟨events, _, run, moved, by decide, by decide,
    activated_agrees_with_focus .inert .default () run⟩

/-- The focused child of a window goes away: the window stays activated. -/
theorem activated_after_child_removed :
    ∃ events final, Run (ForestStep .inert) (Shell.new .default, (), ∅) events final ∧
      ∃ root, final.1.known root ∧ parentOf final.1.surfaces root = none ∧
        ¬ (lastSent final.2.2 root ↔ Active final.1.surfaces root) := by
  let events : List Event :=
    [.surfaceAdded ⟨⟨0, 1⟩⟩, .surfaceAdded ⟨⟨1, 1⟩⟩, .parentSet ⟨⟨1, 1⟩⟩ (some ⟨⟨0, 1⟩⟩),
      .seatCreated ⟨⟨0, 1⟩⟩, .activate ⟨⟨0, 1⟩⟩ ⟨⟨1, 1⟩⟩ .busyClick, .surfaceRemoved ⟨⟨1, 1⟩⟩]
  have checked : Shell.checkAll ShellHost.inert.recording (Shell.forestCheck .inert)
      (Shell.new .default, (), ∅) events := by
    decide
  have run := Shell.handleAll_run (fun _ _ passed => Shell.forestCheck_step passed) checked
  refine ⟨events, _, run, ⟨⟨0, 1⟩⟩, by decide, by decide, ?_⟩
  intro agree
  exact Shell.unfocused_not_active (by decide) _ (agree.mp (by decide))

end Westonite
