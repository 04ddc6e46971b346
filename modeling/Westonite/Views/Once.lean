import Westonite.Shell.ShutdownOrder
import Westonite.Views.Records

/-! Each shell view is taken down once: by the policy, by the wrapper after it, or by
the shutdown. -/

set_option autoImplicit false

namespace Westonite.Views

open Library Registry

variable {Base : Type} (compositor : Compositor Base)

/-! ### Handlers -/

theorem Kept.overhear {before w : Wrapper} (happening : Happening) (kept : Kept before w) :
    Kept before (w.overhear happening) :=
  kept.trans (kept.sound.overhear happening)

theorem Kept.hear {before w : Wrapper} (kept : Kept before w) (base : Base) :
    Kept before (compositor.hear Wrapper.overhear w base).1 :=
  Underlay.hear_kept (Kept.overhear ·) kept base

theorem Kept.destroySurfaceState {before w : Wrapper} (kept : Kept before w)
    (id : DesktopSurfaceId) : Kept before (w.destroySurfaceState id) :=
  kept.trans (kept.sound.destroySurfaceState id)

/-- Whatever the policy asks of the host, the views are sound. -/
private theorem kept_commands (before : Wrapper) :
    Commands compositor.backing fun h => Kept before h.1 :=
  { @Underlay.passing_commands _ _ _ compositor _ _ (fun happening kept =>
      kept.overhear happening) with
    destroySurfaceState := fun id kept => (kept.destroySurfaceState id).hear compositor _ }

theorem Sound.onEvent {w : Wrapper} (sound : Sound w) (shell : Shell) (base : Base) (ev : Event) :
    Kept w (shell.onEvent compositor.backing (w, base) ev).2.1 :=
  (kept_commands compositor w).onEvent ev (.refl sound)

theorem Sound.dispatchSync {w : Wrapper} (sound : Sound w) (shell : Shell) (base : Base)
    (ev : Event) : Kept w (compositor.dispatchSync shell (w, base) ev).2.1 := by
  unfold Compositor.dispatchSync
  split
  · exact .refl sound
  · exact sound.onEvent compositor shell base ev

/-- The id of a surface stays live while its removal is handled, whoever destroys the
view of it. -/
theorem Sound.removed {w : Wrapper} (sound : Sound w) (shell : Shell) (base : Base)
    {ptr : SurfacePtr} (leaving : w.presence ptr = .leaving) :
    Sound ((compositor.surfaceRemoved shell (w, base) ptr).2.1.depart ptr) ∧
      Later w ((compositor.surfaceRemoved shell (w, base) ptr).2.1.depart ptr) := by
  unfold Compositor.surfaceRemoved
  dsimp only
  cases found : w.desktopSurfaces.idOf ptr with
  | none =>
      exact ⟨sound.depart (SlotTable.resolve_ne_of_idOf sound.valid found), fun _ gone => gone,
        fun _ member => member⟩
  | some id =>
      have resolved := (SlotTable.idOf_eq_some_iff_resolve sound.valid).mp found
      have handled := sound.dispatchSync compositor shell base (.surfaceRemoved ⟨id⟩)
      have live := (handled.leaving ptr id ⟨leaving, resolved⟩).2
      obtain ⟨removed, later, _⟩ := handled.sound.surfaceRemoved live
      exact ⟨removed, handled.later.trans later⟩

theorem Sound.happen {w : Wrapper} (sound : Sound w) (shell : Shell) (base : Base)
    (happening : Happening) :
    Sound (compositor.happen shell (w, base) happening).2.1 ∧
      Later w (compositor.happen shell (w, base) happening).2.1 := by
  cases happening with
  | added ptr viewMade surfaceThere =>
      unfold Compositor.happen
      dsimp only
      cases presence : w.presence ptr with
      | present | leaving => exact ⟨sound, .refl w⟩
      | absent =>
          have appeared := sound.appear presence viewMade surfaceThere
          generalize (w.setPresence ptr .present).surfaceAdded ptr viewMade surfaceThere = result
            at appeared
          obtain ⟨after, announced⟩ := result
          cases announced with
          | none => exact ⟨appeared.sound, appeared.later⟩
          | some ev =>
              have handled := appeared.trans (appeared.sound.dispatchSync compositor shell base ev)
              exact ⟨handled.sound, handled.later⟩
  | removed ptr =>
      unfold Compositor.happen
      dsimp only
      cases presence : w.presence ptr with
      | absent | leaving => exact ⟨sound, .refl w⟩
      | present =>
          have placed : Sound (w.setPresence ptr .leaving) := sound.setPresence ptr nofun
          have leaves : (w.setPresence ptr .leaving).presence ptr = .leaving := by
            simp [Wrapper.setPresence]
          obtain ⟨after, later⟩ := placed.removed compositor shell base leaves
          exact ⟨after, later.gone, later.registered⟩

/-! ### The shutdown -/

/-- A list of surfaces is destroyed, and so is every view that was registered for one
of them. -/
private theorem Sound.gone_foldl {w : Wrapper} (sound : Sound w) {id : DesktopSurfaceId}
    {view : ViewId}
    (listed : (id, view) ∈ w.registered) {ids : List DesktopSurfaceId} (member : id ∈ ids)
    (base : Base) :
    (ids.foldl compositor.backing.destroySurfaceState (w, base)).1.Gone view := by
  have folded : ∀ (ids : List DesktopSurfaceId) (h : Wrapper × Base), Sound h.1 →
      Kept h.1 (ids.foldl compositor.backing.destroySurfaceState h).1 := by
    intro ids
    induction ids with
    | nil => exact fun h sound => .refl sound
    | cons first ids ih =>
        intro h sound
        have one := (sound.destroySurfaceState first).hear compositor
          (compositor.host.destroySurfaceState h.2 first)
        exact one.trans (ih _ one.sound)
  obtain ⟨front, back, rfl⟩ := List.append_of_mem member
  rw [List.foldl_append, List.foldl_cons]
  have before := folded front (w, base) sound
  generalize front.foldl compositor.backing.destroySurfaceState (w, base) = h at before
  have destroyed := before.sound.destroySurfaceState id
  have gone := before.sound.gone_destroySurfaceState (before.later.registered _ listed)
  have heard := (Kept.refl destroyed.sound).hear compositor
    (compositor.host.destroySurfaceState h.2 id)
  have rest := folded back (compositor.backing.destroySurfaceState h id) heard.sound
  exact rest.later.gone view (heard.later.gone view gone)

/-- The shutdown destroys the surfaces that the snapshot shows, then the others. -/
private theorem shutdown_snd {Host : Type} (host : ShellHost Host) (shell : Shell) (h : Host) :
    (shell.onEvent host h .shutdown).2 =
      (shell.stackedIds (host.workspaceViewsTopDown h) ++
        shell.unstackedIds (host.workspaceViewsTopDown h)).foldl host.destroySurfaceState h :=
  rfl

private theorem Sound.gone_shutdown {w : Wrapper} (sound : Sound w) {shell : Shell} (base : Base)
    {id : DesktopSurfaceId} {view : ViewId} (known : shell.known id)
    (listed : (id, view) ∈ w.registered) :
    (shell.onEvent compositor.backing (w, base) .shutdown).2.1.Gone view := by
  rw [shutdown_snd]
  apply sound.gone_foldl compositor listed
  rw [List.mem_append, Shell.mem_stackedIds, Shell.mem_unstackedIds]
  by_cases seen : id ∈ compositor.backing.workspaceViewsTopDown (w, base)
  · exact .inl ⟨known, seen⟩
  · exact .inr ⟨known, seen⟩

/-- The next step has the shell handle the shutdown. -/
def shutsDown (w : Wrapper) : Label → Prop
  | .event ev => ev = .shutdown
  | .deliver => w.queue.head? = some .shutdown
  | _ => False

/-! ### Runs -/

variable {compositor}

theorem Step.sound {state next : Shell × Wrapper × Base} {label : Label}
    (step : Step compositor state label next) (sound : Sound state.2.1) :
    Sound next.2.1 ∧ Later state.2.1 next.2.1 := by
  cases step with
  | @event shell ordered w base drifted ev _ _ =>
      have handled := Sound.dispatchSync compositor sound ordered drifted ev
      exact ⟨handled.sound, handled.later⟩
  | @post shell w base ev _ =>
      have waits := Sound.enqueue sound ev
      exact ⟨waits.sound, waits.later⟩
  | @deliver shell ordered w base drifted ev queue _ _ _ =>
      have handled := (sound.queued queue w.shuttingDown).onEvent compositor ordered drifted ev
      exact ⟨handled.sound, handled.later.gone, handled.later.registered⟩
  | @discard shell w base ev queue _ =>
      exact ⟨sound.queued queue w.shuttingDown, fun _ gone => gone, fun _ member => member⟩
  | happen _ => exact Sound.happen compositor sound _ _ _
  | @overhear shell w base happening =>
      have heard := Sound.overhear sound happening
      exact ⟨heard.sound, heard.later⟩
  | @stop shell w base =>
      exact ⟨sound.queued w.queue true, fun _ gone => gone, fun _ member => member⟩

theorem run_sound {start final : Shell × Wrapper × Base} {labels : List Label}
    (sound : Sound start.2.1) (run : Run (Step compositor) start labels final) :
    Sound final.2.1 ∧ Later start.2.1 final.2.1 := by
  induction run with
  | nil => exact ⟨sound, .refl _⟩
  | snoc _ step ih =>
      obtain ⟨before, earlier⟩ := ih
      obtain ⟨after, later⟩ := step.sound before
      exact ⟨after, earlier.trans later⟩

private theorem Step.gone_shutdown {state next : Shell × Wrapper × Base} {label : Label}
    (step : Step compositor state label next) (sound : Sound state.2.1)
    (shuts : shutsDown state.2.1 label) {id : DesktopSurfaceId} {view : ViewId}
    (known : state.1.known id) (listed : (id, view) ∈ state.2.1.registered) :
    next.2.1.Gone view := by
  have still : ∀ {ordered : Shell}, Reordered state.1 ordered → ordered.known id := by
    intro ordered same
    unfold Shell.known
    rw [same.lookup_surfaces]
    exact known
  cases step with
  | @event shell ordered w base drifted ev same _ =>
      obtain rfl : ev = .shutdown := shuts
      unfold Compositor.dispatchSync
      rw [if_neg (by simp [isShutdown])]
      exact sound.gone_shutdown compositor drifted (still same) listed
  | @deliver shell ordered w base drifted ev queue same _ queued =>
      have head : w.queue.head? = some .shutdown := shuts
      rw [queued] at head
      obtain rfl := Option.some.inj head
      exact (sound.queued queue w.shuttingDown).gone_shutdown compositor drifted (still same) listed
  | post _ | discard _ | happen _ | overhear | stop => cases shuts

theorem Sound.once {w : Wrapper} (sound : Sound w) {view : ViewId} (gone : w.Gone view) :
    w.calls.count (.unlink view) = 1 ∧ w.calls.count (.destroy view) = 1 := by
  obtain ⟨views, nodup, calls⟩ := sound.log
  unfold Wrapper.Gone at gone
  rw [calls, destroy_mem_takeDown] at gone
  rw [calls, (count_takeDown views view).1, (count_takeDown views view).2]
  exact ⟨List.count_eq_one_of_mem nodup gone, List.count_eq_one_of_mem nodup gone⟩

/-- In every run a view is unlinked and destroyed at most once, and exactly once when
its surface is removed or the shutdown finds it known; a record is of a live id; and
the shutdown destroys the stacked surfaces top first, then the others by id. -/
theorem views_destroyed_once {shell : Shell} {base : Base} {labels : List Label}
    {final : Shell × Wrapper × Base}
    (run : Run (Step compositor) (shell, .new, base) labels final) :
    (∃ gone : List ViewId, gone.Nodup ∧
      final.2.1.calls = gone.flatMap fun view => [.unlink view, .destroy view]) ∧
    (∀ view, final.2.1.calls.count (.unlink view) ≤ 1 ∧
      final.2.1.calls.count (.destroy view) ≤ 1) ∧
    (∀ view ∈ final.2.1.removed, final.2.1.calls.count (.unlink view) = 1 ∧
      final.2.1.calls.count (.destroy view) = 1) ∧
    (∀ earlier label later middle, labels = earlier ++ label :: later →
      Run (Step compositor) (shell, .new, base) earlier middle →
      Run (Step compositor) middle (label :: later) final →
      shutsDown middle.2.1 label →
      ∀ id view, (id, view) ∈ middle.2.1.registered → middle.1.known id →
        final.2.1.calls.count (.unlink view) = 1 ∧ final.2.1.calls.count (.destroy view) = 1) ∧
    (∀ id view, final.2.1.surfaceRecs.lookup id = some view →
      ∃ ptr, final.2.1.desktopSurfaces.resolve id.raw = some ptr) ∧
    ∀ {Host : Type} (host : ShellHost Host) (shell : Shell) (h : Host),
      ∃ stacked rest : List DesktopSurfaceId,
      (shell.onEvent host h .shutdown).2 =
        (stacked ++ rest).foldl host.destroySurfaceState h ∧
      (∀ id, id ∈ stacked ↔ shell.known id ∧ id ∈ host.workspaceViewsTopDown h) ∧
      stacked.Pairwise (fun left right =>
        (host.workspaceViewsTopDown h).idxOf left < (host.workspaceViewsTopDown h).idxOf right) ∧
      (∀ id, id ∈ rest ↔ shell.known id ∧ id ∉ host.workspaceViewsTopDown h) ∧
      rest.Pairwise Shell.idLt := by
  have sound := (run_sound .new run).1
  refine ⟨sound.log, ?_, ?_, ?_, ?_, ?_⟩
  · intro view
    obtain ⟨gone, nodup, calls⟩ := sound.log
    rw [calls, (count_takeDown gone view).1, (count_takeDown gone view).2]
    exact ⟨List.nodup_iff_count_le_one.mp nodup view, List.nodup_iff_count_le_one.mp nodup view⟩
  · intro view member
    exact sound.once (sound.settled view member)
  · intro earlier label later middle _ before after shuts id view listed known
    have met := (run_sound .new before).1
    have whole : Run (Step compositor) middle ([label] ++ later) final := after
    obtain ⟨next, first, rest⟩ := whole.split
    have step := first.of_single
    have gone := step.gone_shutdown met shuts known listed
    exact sound.once ((run_sound (step.sound met).1 rest).2.gone view gone)
  · intro id view found
    exact (sound.backed id view found).2.2
  · intro Host host shell h
    exact ⟨_, _, shutdown_snd host shell h, fun _ => shell.mem_stackedIds,
      shell.stackedIds_pairwise _, fun _ => shell.mem_unstackedIds, shell.unstackedIds_pairwise _⟩

/-- Two surfaces come, the second inside a handler; one is removed, the other is known
to the shell at the shutdown and is removed after it. -/
theorem views_destroyed_once_two :
    ∃ (compositor : Compositor Unit) (labels : List Label) (final : Shell × Wrapper × Unit),
      Run (Step compositor) (.new .default, .new, ()) labels final ∧
      final.2.1.removed = [0, 1] ∧
      (final.2.1.calls.count (.unlink 0) = 1 ∧ final.2.1.calls.count (.destroy 0) = 1) ∧
      final.2.1.calls.count (.unlink 1) = 1 ∧ final.2.1.calls.count (.destroy 1) = 1 := by
  let compositor : Compositor Unit := ⟨.inert, fun _ => ([], ())⟩
  have signal : ∀ (shell : Shell) (w : Wrapper) (happening : Happening),
      Step compositor (shell, w, ()) (.happen happening)
        (compositor.happen shell (w, ()) happening) :=
    fun shell w happening => .happen (.refl shell)
  have heard : ∀ (shell : Shell) (w : Wrapper) (happening : Happening),
      Step compositor (shell, w, ()) (.overhear happening) (shell, w.overhear happening, ()) :=
    fun shell w happening => .overhear
  have deliver : ∀ (shell : Shell) (w : Wrapper) (ev : Event) (queue : List Event),
      w.shuttingDown = false → w.queue = ev :: queue →
      Step compositor (shell, w, ()) .deliver
        (shell.onEvent compositor.backing ({ w with queue }, ()) ev) :=
    fun shell w ev queue running queued => .deliver (.refl shell) running queued
  have shutdown : ∀ (shell : Shell) (w : Wrapper),
      Step compositor (shell, w, ()) (.event .shutdown)
        (compositor.dispatchSync shell (w, ()) .shutdown) :=
    fun shell w => .event (.refl shell) rfl
  have before : Run (Step compositor) (.new .default, .new, ())
      [.happen (.added 7 true true), .overhear (.added 8 true true), .happen (.removed 7),
        .deliver] _ :=
    .cons (signal _ _ _) <| .cons (heard _ _ _) <| .cons (signal _ _ _) <|
      .single (deliver _ _ _ _ rfl rfl)
  have after : ∀ (shell : Shell) (w : Wrapper),
      Run (Step compositor) (shell, w, ()) [.event .shutdown, .happen (.removed 8)] _ :=
    fun shell w => .cons (shutdown shell w) <| .single (signal _ _ _)
  have run := before.append (after _ _)
  obtain ⟨_, _, removed, known, _, _⟩ := views_destroyed_once run
  exact ⟨compositor, _, _, run, rfl, removed 0 (by decide),
    known _ _ _ _ rfl before (after _ _) rfl ⟨⟨1, 1⟩⟩ 1 (by decide) rfl⟩

end Westonite.Views
