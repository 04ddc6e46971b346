import Westonite.Shell.Runs

/-! The focus count of a surface against the seats whose focused surface it
is. -/

set_option autoImplicit false

namespace Westonite

open Library

variable {Host : Type}

/-- The number of known seats whose focused surface is `id`. -/
def Shell.focusing (shell : Shell) (id : DesktopSurfaceId) : Nat :=
  shell.seats.count fun _ st => st.focusedSurface = some id

/-- Counts that exceed the focusing seats by `extra`, and focused surfaces that
are known. -/
structure Accounted (extra : DesktopSurfaceId → Nat) (shell : Shell) : Prop where
  linked : Linked shell.surfaces
  count : ∀ id st, shell.surfaces.lookup id = some st →
    st.focusCount = shell.focusing id + extra id
  focused : ∀ seat st id, shell.seats.lookup seat = some st → st.focusedSurface = some id →
    (shell.surfaces.lookup id).isSome

/-- No count can leave the range of an `i32` while these seats move. -/
def Room (extra : DesktopSurfaceId → Nat) (shell : Shell) : Prop :=
  ∀ id, extra id + shell.seats.entries.length < 2147483648

private theorem i32_eq {value : Int} (low : -2147483648 ≤ value) (high : value < 2147483648) :
    i32 value = value := by
  unfold i32
  exact Int.bmod_eq_of_le (by omega) (by omega)

/-! ### One seat moves its focus -/

theorem changeFocusCount_fst (host : ShellHost Host) {shell : Shell} (h : Host)
    {id : DesktopSurfaceId} (known : (shell.surfaces.lookup id).isSome) (delta : Int) :
    (shell.changeFocusCount host h id delta).1 =
      { shell with surfaces := shell.surfaces.modify id fun st => st.bump delta } := by
  obtain ⟨st, found⟩ := Option.isSome_iff_exists.mp known
  unfold Shell.changeFocusCount
  simp only [found]
  split <;> rfl

/-- The shell after a known seat moves its focus to a known surface. -/
def Shell.focusMoved (shell : Shell) (prev : Option DesktopSurfaceId)
    (surface : DesktopSurfaceId) (seat : SeatId) : Shell :=
  let surfaces :=
    match prev with
    | some p => shell.surfaces.modify p fun st => st.bump (-1)
    | none => shell.surfaces
  { shell with
    surfaces := AssocMap.modify surface (fun st => st.bump 1) surfaces
    seats := shell.seats.modify seat fun _ => { focusedSurface := some surface } }

theorem moveSeatFocus_fst (host : ShellHost Host) {shell : Shell} (h : Host)
    {surface : DesktopSurfaceId} {seat : SeatId} {st : SeatState}
    (found : shell.seats.lookup seat = some st) (known : (shell.surfaces.lookup surface).isSome)
    (focused : ∀ p, st.focusedSurface = some p → (shell.surfaces.lookup p).isSome) :
    (shell.moveSeatFocus host h surface seat).1 =
      if st.focusedSurface = some surface then shell
      else shell.focusMoved st.focusedSurface surface seat := by
  unfold Shell.moveSeatFocus
  simp only [found]
  cases prev : st.focusedSurface with
  | none =>
      simp [Shell.focusMoved, changeFocusCount_fst host h known]
  | some p =>
      have pKnown := focused p prev
      by_cases same : p = surface
      · simp [same]
      · have still : ((shell.surfaces.modify p fun st => st.bump (-1)).lookup surface).isSome := by
          rwa [AssocMap.lookup_modify, Option.isSome_map]
        have left := changeFocusCount_fst host h pKnown (-1)
        have joined := fun middle : Host =>
          @changeFocusCount_fst _ host
            { shell with surfaces := shell.surfaces.modify p fun st => st.bump (-1) } middle
            surface still 1
        simp [same, Shell.known, pKnown, Shell.focusMoved, left, joined]

private theorem focusing_focusMoved {shell : Shell} {seat : SeatId} {st : SeatState}
    (found : shell.seats.lookup seat = some st) (surface id : DesktopSurfaceId) :
    (shell.focusMoved st.focusedSurface surface seat).focusing id +
        (decide (st.focusedSurface = some id)).toNat =
      shell.focusing id + (decide (surface = id)).toNat := by
  have moved := AssocMap.count_modify found (fun _ => { focusedSurface := some surface })
    fun _ st => decide (st.focusedSurface = some id)
  simpa [Shell.focusMoved, Shell.focusing] using moved

theorem lookup_focusMoved (shell : Shell) (prev : Option DesktopSurfaceId)
    (surface : DesktopSurfaceId) (seat : SeatId) (id : DesktopSurfaceId) :
    (shell.focusMoved prev surface seat).surfaces.lookup id =
      (shell.surfaces.lookup id).map fun st =>
        let st := if prev = some id then st.bump (-1) else st
        if id = surface then st.bump 1 else st := by
  unfold Shell.focusMoved
  cases prev with
  | none =>
      simp only [reduceCtorEq, if_false]
      rw [AssocMap.lookup_modify]
  | some p =>
      simp only [Option.some.injEq]
      rw [AssocMap.lookup_modify, AssocMap.lookup_modify, Option.map_map]
      congr 1
      funext st
      simp [eq_comm]

theorem sameLinks_focusMoved (shell : Shell) (prev : Option DesktopSurfaceId)
    (surface : DesktopSurfaceId) (seat : SeatId) :
    SameLinks shell.surfaces (shell.focusMoved prev surface seat).surfaces := by
  apply sameLinks_map (lookup_focusMoved shell prev surface seat)
  · intro id st
    dsimp only
    split <;> split <;> rfl
  · intro id st
    dsimp only
    split <;> split <;> rfl

/-- Moving a focus moves one unit of the count with it. -/
theorem Accounted.focusMoved {extra : DesktopSurfaceId → Nat} {shell : Shell}
    (accounted : Accounted extra shell) (room : Room extra shell) {seat : SeatId}
    {st : SeatState} (found : shell.seats.lookup seat = some st) {surface : DesktopSurfaceId}
    (known : (shell.surfaces.lookup surface).isSome)
    (different : st.focusedSurface ≠ some surface) :
    Accounted extra (shell.focusMoved st.focusedSurface surface seat) where
  linked := accounted.linked.of_same (sameLinks_focusMoved shell st.focusedSurface surface seat)
  count id value present := by
    rw [lookup_focusMoved] at present
    obtain ⟨old, oldFound, rfl⟩ := Option.map_eq_some_iff.mp present
    have counted := accounted.count id old oldFound
    have balance := focusing_focusMoved found surface id
    have bounded := room id
    have within : (shell.focusMoved st.focusedSurface surface seat).focusing id ≤
        shell.seats.entries.length := by
      have limit := AssocMap.count_le_length
        (shell.focusMoved st.focusedSurface surface seat).seats
        fun _ st => decide (st.focusedSurface = some id)
      exact limit.trans_eq (AssocMap.length_update _ _)
    have kept : ∀ delta : Int, -2147483648 ≤ old.focusCount + delta →
        old.focusCount + delta < 2147483648 →
        (old.bump delta).focusCount = old.focusCount + delta :=
      fun delta low high => i32_eq low high
    by_cases left : st.focusedSurface = some id
    · have apart : id ≠ surface := fun same => different (same ▸ left)
      rw [if_pos left, if_neg apart]
      simp only [left, decide_true, Bool.toNat_true, Ne.symm apart, decide_false,
        Bool.toNat_false] at balance
      rw [left] at within ⊢
      rw [kept (-1) (by omega) (by omega)]
      omega
    · rw [if_neg left]
      simp only [left, decide_false, Bool.toNat_false] at balance
      by_cases landed : surface = id
      · subst landed
        simp only [decide_true, Bool.toNat_true] at balance
        rw [if_pos rfl, kept 1 (by omega) (by omega)]
        omega
      · simp only [landed, decide_false, Bool.toNat_false] at balance
        rw [if_neg (Ne.symm landed)]
        omega
  focused other value id present focus := by
    rw [(sameLinks_focusMoved shell st.focusedSurface surface seat).known]
    have moved : (shell.seats.modify seat fun _ => { focusedSurface := some surface }).lookup
        other = some value := present
    rw [AssocMap.lookup_modify] at moved
    obtain ⟨old, oldFound, rfl⟩ := Option.map_eq_some_iff.mp moved
    split at focus
    · obtain rfl := Option.some.inj focus
      exact known
    · exact accounted.focused other old id oldFound focus

theorem Accounted.moveSeatFocus {extra : DesktopSurfaceId → Nat} (host : ShellHost Host)
    {shell : Shell} (accounted : Accounted extra shell) (room : Room extra shell) (h : Host)
    {surface : DesktopSurfaceId} (known : (shell.surfaces.lookup surface).isSome)
    (seat : SeatId) :
    Accounted extra (shell.moveSeatFocus host h surface seat).1 ∧
      Room extra (shell.moveSeatFocus host h surface seat).1 := by
  cases found : shell.seats.lookup seat with
  | none =>
      have same : (shell.moveSeatFocus host h surface seat).1 = shell := by
        simp [Shell.moveSeatFocus, found]
      rw [same]
      exact ⟨accounted, room⟩
  | some st =>
      rw [moveSeatFocus_fst host h found known fun p => accounted.focused seat st p found]
      split
      · exact ⟨accounted, room⟩
      · rename_i different
        refine ⟨accounted.focusMoved room found known different, fun id => ?_⟩
        have length : (shell.focusMoved st.focusedSurface surface seat).seats.entries.length =
            shell.seats.entries.length := AssocMap.length_update _ _
        rw [length]
        exact room id

/-- Changes outside the links, the counts and the seats. -/
theorem Accounted.of_same {extra : DesktopSurfaceId → Nat} {before after : Shell}
    (accounted : Accounted extra before) (linked : Linked after.surfaces)
    (known : ∀ id, (after.surfaces.lookup id).isSome = (before.surfaces.lookup id).isSome)
    (count : ∀ id st, after.surfaces.lookup id = some st →
      ∃ old, before.surfaces.lookup id = some old ∧ st.focusCount = old.focusCount)
    (seats : after.seats = before.seats) : Accounted extra after where
  linked := linked
  count id st found := by
    obtain ⟨old, oldFound, same⟩ := count id st found
    unfold Shell.focusing
    rw [same, seats]
    exact accounted.count id old oldFound
  focused seat st id found focus := by
    rw [known]
    rw [seats] at found
    exact accounted.focused seat st id found focus

/-- Every handler step keeps the account of the focus counts. -/
theorem accounted_keeps (extra : DesktopSurfaceId → Nat) (host : ShellHost Host) :
    Keeps host (fun shell _ => Accounted extra shell ∧ Room extra shell)
      (fun _ _ shell _ => Accounted extra shell ∧ Room extra shell)
      (fun shell surface => shell.known surface) where
  lands before known target := redirect_known host before.1.linked _ 65 known target
  acquire _ _ _ before := before
  move known before := before.1.moveSeatFocus host before.2 _ known _
  store := by
    intro shell h seat es before
    unfold Shell.replaceFocus
    cases es with
    | none => exact before
    | some es =>
        dsimp only
        split <;>
          exact ⟨before.1.of_same before.1.linked (fun _ => rfl) (fun _ st found =>
            ⟨st, found, rfl⟩) rfl, before.2⟩
  rng _ before :=
    ⟨before.1.of_same before.1.linked (fun _ => rfl) (fun _ st found => ⟨st, found, rfl⟩) rfl,
      before.2⟩
  edit := by
    intro shell h id change before kept
    have links := sameLinks_modify shell.surfaces id (fun st => (kept st).1)
      fun st => (kept st).2.1
    refine ⟨before.1.of_same (before.1.linked.of_same links) links.known ?_ rfl, before.2⟩
    intro other st found
    rw [AssocMap.lookup_modify] at found
    obtain ⟨old, oldFound, rfl⟩ := Option.map_eq_some_iff.mp found
    refine ⟨old, oldFound, ?_⟩
    split
    · exact (kept old).2.2
    · rfl
  raise _ before := before
  mapSurface _ before := before
  position _ _ _ before := before
  positionWithOffset _ _ _ _ _ before := before
  transforms _ before := before
  dirty _ before := before
  busy _ _ before := before
  endBusy _ before := before
  background _ _ before := before

/-! ### The events with an obligation of their own -/

theorem Accounted.surfaceAdded {extra : DesktopSurfaceId → Nat} {shell : Shell}
    (accounted : Accounted extra shell) {id : DesktopSurfaceId}
    (fresh : shell.surfaces.lookup id = none) (none : extra id = 0) :
    Accounted extra { shell with surfaces := shell.surfaces.insert id .default } where
  linked := accounted.linked.insert_default fresh
  count other st found := by
    simp only [AssocMap.lookup_insert] at found
    split at found
    · rename_i same
      obtain rfl := Option.some.inj found
      have unfocused : shell.focusing id = 0 := by
        apply AssocMap.count_eq_zero_iff.mpr
        intro seat st present focus
        have known := accounted.focused seat st id present (of_decide_eq_true focus)
        simp [fresh] at known
      have zero : (shell.focusing id : Int) + extra id = 0 := by rw [unfocused, none]; rfl
      rw [same]
      exact zero.symm
    · exact accounted.count other st found
  focused seat st other found focus := by
    have known := accounted.focused seat st other found focus
    simp only [AssocMap.lookup_insert]
    split
    · rfl
    · exact known

theorem Accounted.surfaceRemoved {extra : DesktopSurfaceId → Nat} (host : ShellHost Host)
    {shell : Shell} (accounted : Accounted extra shell) (h : Host) (id : DesktopSurfaceId) :
    Accounted extra (shell.surfaceRemoved host h id).1 := by
  have remaining : ∀ other st, (shell.surfaceRemoved host h id).1.surfaces.lookup other = some st →
      ∃ old, other ≠ id ∧ shell.surfaces.lookup other = some old ∧
        st.focusCount = old.focusCount := by
    intro other st found
    cases present : shell.surfaces.lookup id with
    | none =>
        have same : (shell.surfaceRemoved host h id).1.surfaces = shell.surfaces := by
          simp [Shell.surfaceRemoved, present]
        rw [same] at found
        refine ⟨st, ?_, found, rfl⟩
        rintro rfl
        rw [present] at found
        cases found
    | some removed =>
        rw [lookup_surfaceRemoved host h present] at found
        split at found
        · cases found
        · rename_i different
          obtain ⟨old, oldFound, rfl⟩ := Option.map_eq_some_iff.mp found
          exact ⟨old, different, oldFound, orphaned_focusCount removed id other old⟩
  refine ⟨surfaceRemoved_linked host accounted.linked h id, ?_, ?_⟩
  · intro other st found
    obtain ⟨old, different, oldFound, same⟩ := remaining other st found
    have focusing : (shell.surfaceRemoved host h id).1.focusing other = shell.focusing other := by
      unfold Shell.focusing Shell.surfaceRemoved
      dsimp only
      rw [AssocMap.count_update]
      apply AssocMap.count_congr
      intro seat st _
      by_cases focus : st.focusedSurface = some id
      · simp [focus, Ne.symm different]
      · simp [focus]
    rw [focusing, same]
    exact accounted.count other old oldFound
  · intro seat st other found focus
    have updated : (shell.seats.update fun _ st =>
        if st.focusedSurface = some id then { focusedSurface := none } else st).lookup seat =
          some st := found
    rw [AssocMap.lookup_update] at updated
    obtain ⟨old, oldFound, rfl⟩ := Option.map_eq_some_iff.mp updated
    split at focus
    · cases focus
    · rename_i kept
      have different : other ≠ id := fun same => kept (same ▸ focus)
      have known := accounted.focused seat old other oldFound focus
      cases present : shell.surfaces.lookup id with
      | none =>
          have same : (shell.surfaceRemoved host h id).1.surfaces = shell.surfaces := by
            simp [Shell.surfaceRemoved, present]
          rwa [same]
      | some removed =>
          rw [lookup_surfaceRemoved host h present, if_neg different, Option.isSome_map]
          exact known

theorem Accounted.setParent {extra : DesktopSurfaceId → Nat} {shell : Shell}
    (accounted : Accounted extra shell) (id : DesktopSurfaceId)
    (parent : Option DesktopSurfaceId) : Accounted extra (shell.setParent id parent) := by
  refine accounted.of_same (setParent_linked accounted.linked id parent)
    (fun other => lookup_setParent_isSome shell id other parent) ?_ ?_
  · intro other st found
    cases present : shell.surfaces.lookup id with
    | none =>
        have same : shell.setParent id parent = shell := by simp [Shell.setParent, present]
        rw [same] at found
        exact ⟨st, found, rfl⟩
    | some old =>
        rw [lookup_setParent present] at found
        obtain ⟨value, valueFound, rfl⟩ := Option.map_eq_some_iff.mp found
        exact ⟨value, valueFound, reparented_focusCount old id _ other value⟩
  · unfold Shell.setParent
    split
    · rfl
    · dsimp only
      split <;> rfl

/-- A seat leaves: its focus stays in the count. -/
private theorem Accounted.eraseSeat {extra : DesktopSurfaceId → Nat} {shell : Shell}
    (accounted : Accounted extra shell) (seat : SeatId) (focus : AssocMap SeatId SurfaceId) :
    ∃ after, Accounted after { shell with focus, seats := shell.seats.erase seat } ∧
      ((∀ st, shell.seats.lookup seat = some st → st.focusedSurface = none) →
        after = extra) := by
  cases found : shell.seats.lookup seat with
  | none =>
      refine ⟨extra, ?_, fun _ => rfl⟩
      rw [AssocMap.erase_eq_self found]
      exact accounted.of_same accounted.linked (fun _ => rfl) (fun _ st present =>
        ⟨st, present, rfl⟩) rfl
  | some old =>
      refine ⟨fun id => extra id + (decide (old.focusedSurface = some id)).toNat,
        ⟨accounted.linked, ?_, ?_⟩, ?_⟩
      · intro id st present
        have counted := accounted.count id st present
        have split := AssocMap.count_erase found
          fun _ st => decide (st.focusedSurface = some id)
        unfold Shell.focusing at counted ⊢
        rw [counted, split]
        push_cast
        omega
      · intro other st id present held
        have kept : shell.seats.lookup other = some st :=
          (AssocMap.lookup_erase_eq_some.mp present).2
        exact accounted.focused other st id kept held
      · intro unfocused
        funext id
        simp [unfocused old rfl]

private theorem Accounted.insertSeat {extra : DesktopSurfaceId → Nat} {shell : Shell}
    (accounted : Accounted extra shell) (seat : SeatId) :
    ∃ after, Accounted after { shell with seats := shell.seats.insert seat .default } ∧
      ((∀ st, shell.seats.lookup seat = some st → st.focusedSurface = none) →
        after = extra) := by
  obtain ⟨after, erased, same⟩ := accounted.eraseSeat seat shell.focus
  refine ⟨after, ⟨accounted.linked, ?_, ?_⟩, same⟩
  · intro id st present
    have counted := erased.count id st present
    unfold Shell.focusing at counted ⊢
    dsimp only at counted ⊢
    rw [counted, AssocMap.count_insert]
    simp [SeatState.default]
  · intro other st id present held
    simp only [AssocMap.lookup_insert] at present
    split at present
    · obtain rfl := Option.some.inj present
      cases held
    · exact accounted.focused other st id present held

theorem Accounted.empty (extra : DesktopSurfaceId → Nat) {shell : Shell}
    (surfaces : shell.surfaces = ∅) (seats : shell.seats = ∅) : Accounted extra shell where
  linked := surfaces ▸ Linked.empty
  count id st found := by simp [surfaces] at found
  focused seat st id found _ := by simp [seats] at found

/-- Whether the seat of a seat event holds no focus, so that dropping it loses
none. -/
def Event.KeepsSeatFocus (shell : Shell) : Event → Prop
  | .seatGone seat | .seatCreated seat =>
      ∀ st, shell.seats.lookup seat = some st → st.focusedSurface = none
  | _ => True

instance (shell : Shell) (ev : Event) : Decidable (ev.KeepsSeatFocus shell) :=
  match ev with
  | .seatGone seat | .seatCreated seat =>
      decidable_of_iff ((shell.seats.lookup seat).bind SeatState.focusedSurface = none) <| by
        unfold Event.KeepsSeatFocus
        exact Option.bind_eq_none_iff
  | .surfaceAdded _ | .committed .. | .xwaylandPosition .. | .parentSet .. | .surfaceRemoved _
  | .pingTimeout _ | .pong _ | .trackedSurfaceGone .. | .activate .. | .outputCreated _
  | .outputGone .. | .outputResized _ | .outputMoved .. | .grabEnded _ | .sessionActivated
  | .headsChanged | .headGone .. | .shutdown | .compositorShutdown => .isTrue trivial

/-- Every event keeps the account; only a seat event can change the excess. -/
theorem Accounted.onEvent {extra : DesktopSurfaceId → Nat} (host : ShellHost Host)
    {shell : Shell} (accounted : Accounted extra shell) (room : Room extra shell)
    (zero : ∀ id, shell.surfaces.lookup id = none → extra id = 0) (h : Host) {ev : Event}
    (fresh : ev.Fresh shell) :
    ∃ after, Accounted after (shell.onEvent host h ev).1 ∧
      (ev.KeepsSeatFocus shell → after = extra) := by
  have keeps := accounted_keeps extra host
  cases structural : ev.structural with
  | false => exact ⟨extra, (keeps.onEvent structural ⟨accounted, room⟩).1, fun _ => rfl⟩
  | true =>
      cases ev with
      | surfaceAdded surface =>
          exact ⟨extra, accounted.surfaceAdded fresh (zero surface fresh), fun _ => rfl⟩
      | surfaceRemoved surface =>
          exact ⟨extra, accounted.surfaceRemoved host h surface, fun _ => rfl⟩
      | parentSet surface parent => exact ⟨extra, accounted.setParent surface parent, fun _ => rfl⟩
      | trackedSurfaceGone gone main =>
          refine ⟨extra, (keeps.focusSurfaceGone gone main ⟨accounted, room⟩ ?_).1, fun _ => rfl⟩
          intro shell h seat before
          exact ⟨before.1.of_same before.1.linked (fun _ => rfl) (fun _ st found =>
            ⟨st, found, rfl⟩) rfl, before.2⟩
      | seatCreated seat => exact accounted.insertSeat seat
      | seatGone seat =>
          obtain ⟨after, erased, same⟩ := accounted.eraseSeat seat (shell.focus.erase seat)
          refine ⟨after, ?_, same⟩
          unfold Shell.onEvent
          dsimp only
          split <;> exact erased
      | shutdown => exact ⟨extra, .empty extra rfl rfl, fun _ => rfl⟩
      | committed | xwaylandPosition | pingTimeout | pong | activate | outputCreated | outputGone
      | outputResized | outputMoved | grabEnded | sessionActivated | headsChanged | headGone
      | compositorShutdown => cases structural

theorem Accounted.reordered {extra : DesktopSurfaceId → Nat} {before after : Shell}
    (accounted : Accounted extra before) (same : Reordered before after) :
    Accounted extra after where
  linked := accounted.linked.of_same same.links
  count id st found := by
    rw [same.lookup_surfaces] at found
    unfold Shell.focusing
    rw [AssocMap.count_perm same.seats]
    exact accounted.count id st found
  focused seat st id found focus := by
    rw [same.lookup_surfaces]
    rw [same.lookup_seats] at found
    exact accounted.focused seat st id found focus

/-! ### Runs -/

/-- The steps that do not drop a focus with its seat, with fewer than two to
the power 31 seats known. -/
def FocusCountStep (host : ShellHost Host) (state : Shell × Host) (ev : Event)
    (next : Shell × Host) : Prop :=
  ev.KeepsSeatFocus state.1 ∧ state.1.seats.entries.length < 2147483648 ∧
    Shell.Step host (fun _ _ => True) state ev next

private theorem focusCountStep_accounted {host : ShellHost Host} {state next : Shell × Host}
    {ev : Event} (accounted : Accounted (fun _ => 0) state.1)
    (step : FocusCountStep host state ev next) : Accounted (fun _ => 0) next.1 := by
  obtain ⟨kept, few, taken⟩ := step
  cases taken with
  | @event shell ordered h drifted ev same drift fresh =>
      have room : Room (fun _ => 0) ordered := by
        intro id
        rw [same.seats.length_eq]
        simpa using few
      have keptThere : ev.KeepsSeatFocus ordered := by
        cases ev with
        | seatGone seat | seatCreated seat =>
            intro st found
            rw [same.lookup_seats] at found
            exact kept st found
        | _ => trivial
      obtain ⟨after, held, unchanged⟩ :=
        (accounted.reordered same).onEvent host room (fun _ _ => rfl) drifted
          (same.fresh fresh)
      rw [← unchanged keptThere]
      exact held

/-- Where no seat takes a focus with it, the focus count of every known surface
is the number of known seats that focus it. -/
theorem focusCount_counts_seats (host : ShellHost Host) (config : ShellConfig) (h : Host)
    {events : List Event} {final : Shell × Host}
    (run : Run (FocusCountStep host) (Shell.new config, h) events final) :
    (∀ id st, final.1.surfaces.lookup id = some st →
      st.focusCount = final.1.focusing id) ∧
    (∀ seat st id, final.1.seats.lookup seat = some st → st.focusedSurface = some id →
      final.1.known id) := by
  have start : Accounted (fun _ => 0) (Shell.new config) := .empty _ rfl rfl
  have accounted : Accounted (fun _ => 0) final.1 := by
    induction run with
    | nil => exact start
    | snoc _ taken ih => exact focusCountStep_accounted ih taken
  refine ⟨?_, accounted.focused⟩
  intro id st found
  simpa using accounted.count id st found

/-- A seat that focuses a surface, loses it and goes away. -/
theorem focusCount_counts_seats_unfocused :
    ∃ events final, Run (FocusCountStep .inert) (Shell.new .default, ()) events final ∧
      (∀ id st, final.1.surfaces.lookup id = some st →
        st.focusCount = final.1.focusing id) ∧
      (∀ seat st id, final.1.seats.lookup seat = some st → st.focusedSurface = some id →
        final.1.known id) := by
  let events : List Event :=
    [.surfaceAdded ⟨⟨0, 1⟩⟩, .seatCreated ⟨⟨0, 1⟩⟩, .activate ⟨⟨0, 1⟩⟩ ⟨⟨0, 1⟩⟩ .busyClick,
      .surfaceRemoved ⟨⟨0, 1⟩⟩, .surfaceAdded ⟨⟨0, 2⟩⟩, .seatGone ⟨⟨0, 1⟩⟩]
  have run : Run (FocusCountStep .inert) (Shell.new .default, ()) events
      (Shell.handleAll .inert (Shell.new .default, ()) events) := by
    have checked : Shell.checkAll .inert (fun state ev =>
        decide (ev.Fresh state.1 ∧ ev.KeepsSeatFocus state.1 ∧
          state.1.seats.entries.length < 2147483648)) (Shell.new .default, ()) events := by
      decide
    apply Shell.handleAll_run _ checked
    intro state ev passed
    obtain ⟨fresh, kept, few⟩ := of_decide_eq_true passed
    exact ⟨kept, few, .event (.refl _) trivial fresh⟩
  exact ⟨events, _, run, focusCount_counts_seats .inert .default () run⟩

/-- The seat that focuses a surface goes away, and the count stays at one. -/
theorem focusCount_after_seatGone :
    ∃ events final, Run (Shell.Step .inert fun _ _ => True) (Shell.new .default, ()) events
        final ∧
      ∃ id st, final.1.surfaces.lookup id = some st ∧
        st.focusCount ≠ final.1.focusing id := by
  let events : List Event :=
    [.surfaceAdded ⟨⟨0, 1⟩⟩, .seatCreated ⟨⟨0, 1⟩⟩, .activate ⟨⟨0, 1⟩⟩ ⟨⟨0, 1⟩⟩ .busyClick,
      .seatGone ⟨⟨0, 1⟩⟩]
  have run : Run (Shell.Step .inert fun _ _ => True) (Shell.new .default, ()) events
      (Shell.handleAll .inert (Shell.new .default, ()) events) := by
    have checked : Shell.checkAll .inert (fun state ev => decide (ev.Fresh state.1))
        (Shell.new .default, ()) events := by
      decide
    apply Shell.handleAll_run _ checked
    intro state ev fresh
    exact .event (.refl _) trivial (of_decide_eq_true fresh)
  refine ⟨events, _, run, ⟨⟨0, 1⟩⟩, { SurfState.default with focusCount := 1 }, ?_⟩
  decide

end Westonite
