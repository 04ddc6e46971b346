import Westonite.Background.Wrapper
import Westonite.Registry.LiveBijection

/-! Every output that is registered has its curtain where the output is, once the
events that were due are handled. -/

set_option autoImplicit false

namespace Westonite.Background

open Library Registry

/-- An event is due that has the curtain of an output made anew. -/
def Awaits (due : List Event) (id : OutputId) : Prop :=
  .outputCreated id ∈ due ∨ .outputResized id ∈ due

/-- The curtains fit the registered outputs but for what the due events change. -/
structure Consistent (due : List Event) (w : Wrapper) : Prop where
  valid : w.outputs.WellFormed
  live : ∀ id ptr, w.outputs.resolve id = some ptr → (w.live ptr).isSome
  listened : ∀ id ptr, w.outputs.resolve id = some ptr →
    ∃ listener, w.listeners ptr = some listener ∧ listener.id = ⟨id⟩
  listens : ∀ ptr listener, w.listeners ptr = some listener →
    w.outputs.resolve listener.id.raw = some ptr
  shown : ∀ id curtain, w.curtains.lookup id = some curtain →
    ∃ ptr output, w.outputs.resolve id.raw = some ptr ∧ w.live ptr = some output ∧
      curtain.pos = output.pos ∧
      (Awaits due id ∨ curtain.width = output.width ∧ curtain.height = output.height)
  missing : ∀ id ptr, w.outputs.resolve id.raw = some ptr →
    (w.curtains.lookup id).isSome ∨ Awaits due id

namespace Consistent

variable {due later : List Event} {w : Wrapper}

theorem new : Consistent [] .new where
  valid := SlotTable.default_wellFormed
  live _ _ resolved := by cases resolved
  listened _ _ resolved := by cases resolved
  listens _ _ found := by cases found
  shown _ _ found := by cases found
  missing _ _ resolved := by cases resolved

/-- The queue may grow, and events that make no curtain anew may go. -/
theorem mono (consistent : Consistent due w) (waits : ∀ id, Awaits due id → Awaits later id)
    (queue : List Event) : Consistent later { w with queue } where
  valid := consistent.valid
  live := consistent.live
  listened := consistent.listened
  listens := consistent.listens
  shown id curtain found := by
    obtain ⟨ptr, output, resolved, there, pos, size⟩ := consistent.shown id curtain found
    exact ⟨ptr, output, resolved, there, pos, size.imp_left (waits id)⟩
  missing id ptr resolved := (consistent.missing id ptr resolved).imp_right (waits id)

theorem enqueue (consistent : Consistent w.queue w) (ev : Event) :
    Consistent (w.enqueue ev).queue (w.enqueue ev) :=
  consistent.mono (fun _ => .imp (List.mem_append_left [ev]) (List.mem_append_left [ev])) _

/-! ### Curtains -/

/-- A curtain that is made anew fits its output, whatever the other events change. -/
theorem recreateBackground (consistent : Consistent due w) {id : OutputId}
    (waits : ∀ other, other ≠ id → Awaits due other → Awaits later other) (argb : UInt32) :
    Consistent later (w.recreateBackground id argb) := by
  have lookup : ∀ other, (w.recreateBackground id argb).curtains.lookup other =
      if other = id then
        ((w.outputs.resolve id.raw).bind w.live).map fun output =>
          ⟨output.pos, output.width, output.height, argb⟩
      else w.curtains.lookup other := by
    intro other
    unfold Wrapper.recreateBackground Wrapper.destroyBackground
    dsimp only
    cases (w.outputs.resolve id.raw).bind w.live with
    | none => exact AssocMap.lookup_erase w.curtains id other
    | some output =>
        dsimp only
        rw [AssocMap.lookup_insert, AssocMap.lookup_erase]
        split <;> rfl
  have fields : (w.recreateBackground id argb).outputs = w.outputs ∧
      (w.recreateBackground id argb).live = w.live ∧
      (w.recreateBackground id argb).listeners = w.listeners := by
    unfold Wrapper.recreateBackground
    dsimp only
    split <;> exact ⟨rfl, rfl, rfl⟩
  obtain ⟨outputs, live, listeners⟩ := fields
  constructor
  case valid => rw [outputs]; exact consistent.valid
  case live => rw [outputs, live]; exact consistent.live
  case listened => rw [outputs, listeners]; exact consistent.listened
  case listens => rw [outputs, listeners]; exact consistent.listens
  case shown =>
    intro other curtain found
    rw [lookup] at found
    rw [outputs, live]
    split at found
    · rename_i here
      obtain ⟨output, there, rfl⟩ := Option.map_eq_some_iff.mp found
      obtain ⟨ptr, resolved, present⟩ := Option.bind_eq_some_iff.mp there
      exact ⟨ptr, output, here ▸ resolved, present, rfl, .inr ⟨rfl, rfl⟩⟩
    · rename_i elsewhere
      obtain ⟨ptr, output, resolved, there, pos, size⟩ := consistent.shown other curtain found
      exact ⟨ptr, output, resolved, there, pos, size.imp_left (waits other elsewhere)⟩
  case missing =>
    intro other ptr resolved
    rw [outputs] at resolved
    rw [lookup]
    split
    · rename_i here
      subst here
      obtain ⟨output, there⟩ := Option.isSome_iff_exists.mp (consistent.live _ ptr resolved)
      simp [resolved, there]
    · rename_i elsewhere
      exact (consistent.missing other ptr resolved).imp_right (waits other elsewhere)

/-! ### Signals -/

/-- An output that is not registered changes, comes or goes. -/
theorem setLive (consistent : Consistent due w) {ptr : OutputPtr}
    (unregistered : ∀ id, w.outputs.resolve id ≠ some ptr) (output : Option Output) :
    Consistent due (w.setLive ptr output) := by
  have same : ∀ id other, w.outputs.resolve id = some other →
      (w.setLive ptr output).live other = w.live other := by
    intro id other resolved
    apply Function.update_of_ne
    rintro rfl
    exact unregistered id resolved
  refine ⟨consistent.valid, ?_, consistent.listened, consistent.listens, ?_, consistent.missing⟩
  · intro id other resolved
    rw [same id other resolved]
    exact consistent.live id other resolved
  · intro id curtain found
    obtain ⟨other, shape, resolved, there, fits⟩ := consistent.shown id curtain found
    exact ⟨other, shape, resolved, (same _ other resolved).trans there, fits⟩

theorem registerOutputShell (consistent : Consistent w.queue w) {ptr : OutputPtr}
    (live : (w.live ptr).isSome) (name : String) :
    Consistent ((w.registerOutputShell ptr name).2.toList ++ w.queue)
      (w.registerOutputShell ptr name).1 := by
  unfold Wrapper.registerOutputShell
  cases fresh : w.outputs.idOf ptr with
  | some id => exact consistent
  | none =>
      dsimp only
      cases inserted : w.outputs.insert ptr with
      | none => exact consistent
      | some pair =>
          obtain ⟨id, outputs⟩ := pair
          obtain ⟨unused, resolve⟩ := SlotTable.insert_resolve consistent.valid inserted
          have unregistered := SlotTable.resolve_ne_of_idOf consistent.valid fresh
          have kept : ∀ raw other, w.outputs.resolve raw = some other →
              outputs.resolve raw = some other := by
            intro raw other resolved
            rw [resolve, if_neg]
            · exact resolved
            · rintro rfl
              rw [unused] at resolved
              cases resolved
          have waits : ∀ other, Awaits w.queue other →
              Awaits (.outputCreated ⟨id⟩ :: w.queue) other :=
            fun other => .imp (List.mem_cons_of_mem _) (List.mem_cons_of_mem _)
          constructor
          case valid => exact SlotTable.insert_wellFormed consistent.valid fresh inserted
          case live =>
            intro raw other resolved
            dsimp only at resolved
            rw [resolve] at resolved
            split at resolved
            · obtain rfl := Option.some.inj resolved
              exact live
            · exact consistent.live raw other resolved
          case listened =>
            intro raw other resolved
            dsimp only at resolved ⊢
            rw [resolve] at resolved
            split at resolved
            · rename_i here
              obtain rfl := Option.some.inj resolved
              exact ⟨_, Function.update_self .., by rw [here]⟩
            · rw [Function.update_of_ne]
              · exact consistent.listened raw other resolved
              · rintro rfl
                exact unregistered raw resolved
          case listens =>
            intro other listener found
            dsimp only at found ⊢
            by_cases here : other = ptr
            · rw [here, Function.update_self] at found
              obtain rfl := Option.some.inj found
              rw [resolve, if_pos rfl, here]
            · rw [Function.update_of_ne here] at found
              exact kept _ other (consistent.listens other listener found)
          case shown =>
            intro other curtain found
            obtain ⟨old, shape, resolved, there, pos, size⟩ := consistent.shown other curtain found
            exact ⟨old, shape, kept _ old resolved, there, pos, size.imp_left (waits other)⟩
          case missing =>
            intro other old resolved
            dsimp only at resolved ⊢
            rw [resolve] at resolved
            split at resolved
            · rename_i here
              subst here
              exact .inr (.inl List.mem_cons_self)
            · exact (consistent.missing other old resolved).imp_right (waits other)

/-- A registered output changes and its curtain with it. -/
private theorem reshape (consistent : Consistent due w) {ptr : OutputPtr} {id : RawId}
    {old new : Output}
    (registered : w.outputs.resolve id = some ptr) (there : w.live ptr = some old)
    (waits : ∀ other, Awaits due other → Awaits later other) (change : Curtain → Curtain)
    (fits : ∀ curtain : Curtain, curtain.pos = old.pos → (change curtain).pos = new.pos)
    (size : Awaits later ⟨id⟩ ∨ ∀ curtain : Curtain, curtain.width = old.width ∧
      curtain.height = old.height → (change curtain).width = new.width ∧
        (change curtain).height = new.height) {curtains : AssocMap OutputId Curtain}
    (lookup : ∀ other, curtains.lookup other = (w.curtains.lookup other).map fun curtain =>
      if other = ⟨id⟩ then change curtain else curtain) (queue : List Event) :
    Consistent later { w.setLive ptr (some new) with curtains, queue } where
  valid := consistent.valid
  live raw other resolved := by
    by_cases here : other = ptr
    · rw [here]
      simp [Wrapper.setLive]
    · change (Function.update w.live ptr (some new) other).isSome
      rw [Function.update_of_ne here]
      exact consistent.live raw other resolved
  listened := consistent.listened
  listens := consistent.listens
  shown other curtain found := by
    dsimp only at found
    rw [lookup] at found
    obtain ⟨before, shown, rfl⟩ := Option.map_eq_some_iff.mp found
    obtain ⟨on, output, resolved, present, pos, sized⟩ := consistent.shown other before shown
    by_cases here : other = ⟨id⟩
    · subst here
      obtain rfl := Option.some.inj (registered.symm.trans resolved)
      obtain rfl := Option.some.inj (there.symm.trans present)
      refine ⟨ptr, new, resolved, Function.update_self .., ?_, ?_⟩
      · rw [if_pos rfl]
        exact fits before pos
      · rw [if_pos rfl]
        rcases sized with waiting | sized
        · exact .inl (waits _ waiting)
        · exact size.imp_right fun kept => kept before sized
    · have different : on ≠ ptr := by
        rintro rfl
        have same := SlotTable.resolve_injective consistent.valid resolved registered
        exact here (congrArg OutputId.mk same)
      refine ⟨on, output, resolved, ?_, ?_, ?_⟩
      · exact (Function.update_of_ne different _ _).trans present
      · rw [if_neg here]
        exact pos
      · rw [if_neg here]
        exact sized.imp_left (waits other)
  missing other on resolved := by
    dsimp only
    rw [lookup, Option.isSome_map]
    exact (consistent.missing other on resolved).imp_right (waits other)

theorem moved (consistent : Consistent w.queue w) {ptr : OutputPtr} {output : Output}
    (there : w.live ptr = some output) (dx dy : Coord) :
    Consistent
      ((w.setLive ptr (some { output with
        pos := (output.pos.1 + dx, output.pos.2 + dy) })).outputMoved ptr dx dy).queue
      ((w.setLive ptr (some { output with
        pos := (output.pos.1 + dx, output.pos.2 + dy) })).outputMoved ptr dx dy) := by
  unfold Wrapper.outputMoved
  have same : ∀ after, (w.setLive ptr after).outputs = w.outputs := fun _ => rfl
  rw [same]
  cases found : w.outputs.idOf ptr with
  | none => exact consistent.setLive (SlotTable.resolve_ne_of_idOf consistent.valid found) _
  | some id =>
      have registered := (SlotTable.idOf_eq_some_iff_resolve consistent.valid).mp found
      apply consistent.reshape registered there _ fun curtain =>
        { curtain with pos := (curtain.pos.1 + dx, curtain.pos.2 + dy) }
      · intro curtain pos
        dsimp only
        rw [pos]
      · exact .inr fun _ sized => sized
      · intro other
        exact AssocMap.lookup_modify (⟨id⟩ : OutputId) other (fun curtain : Curtain =>
          { curtain with pos := (curtain.pos.1 + dx, curtain.pos.2 + dy) }) w.curtains
      · exact fun _ => .imp (List.mem_append_left _) (List.mem_append_left _)

theorem resized (consistent : Consistent w.queue w) {ptr : OutputPtr} {output : Output}
    (there : w.live ptr = some output) (width height : Int) :
    Consistent ((w.setLive ptr (some { output with width, height })).outputResized ptr).queue
      ((w.setLive ptr (some { output with width, height })).outputResized ptr) := by
  unfold Wrapper.outputResized
  have same : ∀ after, (w.setLive ptr after).outputs = w.outputs := fun _ => rfl
  rw [same]
  cases found : w.outputs.idOf ptr with
  | none => exact consistent.setLive (SlotTable.resolve_ne_of_idOf consistent.valid found) _
  | some id =>
      have registered := (SlotTable.idOf_eq_some_iff_resolve consistent.valid).mp found
      have announced : Awaits (w.queue ++ [.outputResized ⟨id⟩]) ⟨id⟩ :=
        .inr (List.mem_append_right _ List.mem_cons_self)
      apply consistent.reshape registered there _ fun curtain => curtain
      · exact fun _ pos => pos
      · exact .inl announced
      · intro other
        simp only [ite_self, Option.map_id']
        rfl
      · exact fun _ => .imp (List.mem_append_left _) (List.mem_append_left _)

theorem destroyed (consistent : Consistent w.queue w) (ptr : OutputPtr) :
    Consistent ((w.setLive ptr none).outputDestroyed ptr).queue
      ((w.setLive ptr none).outputDestroyed ptr) := by
  unfold Wrapper.outputDestroyed
  have same : (w.setLive ptr none).listeners = w.listeners := rfl
  rw [same]
  cases found : w.listeners ptr with
  | none =>
      apply consistent.setLive
      intro id resolved
      obtain ⟨listener, there, _⟩ := consistent.listened id ptr resolved
      rw [found] at there
      cases there
  | some listener =>
      have registered := consistent.listens ptr listener found
      obtain ⟨valid, resolve⟩ := SlotTable.invalidatePtr_resolve consistent.valid ptr
      have waits : ∀ other, Awaits w.queue other →
          Awaits (w.queue ++ [.outputGone listener.id listener.name]) other :=
        fun _ => .imp (List.mem_append_left _) (List.mem_append_left _)
      dsimp only [Wrapper.destroyBackground, Wrapper.enqueue, Wrapper.setLive]
      constructor
      case valid => exact valid
      case live =>
        intro raw other after
        obtain ⟨before, elsewhere⟩ := (resolve raw other).mp after
        change (Function.update w.live ptr none other).isSome
        rw [Function.update_of_ne elsewhere]
        exact consistent.live raw other before
      case listened =>
        intro raw other after
        obtain ⟨before, elsewhere⟩ := (resolve raw other).mp after
        dsimp only
        rw [Function.update_of_ne elsewhere]
        exact consistent.listened raw other before
      case listens =>
        intro other value there
        dsimp only at there ⊢
        by_cases here : other = ptr
        · rw [here, Function.update_self] at there
          cases there
        · rw [Function.update_of_ne here] at there
          exact (resolve _ other).mpr ⟨consistent.listens other value there, here⟩
      case shown =>
        intro other curtain there
        obtain ⟨different, held⟩ := AssocMap.lookup_erase_eq_some.mp there
        obtain ⟨on, output, before, present, pos, size⟩ := consistent.shown other curtain held
        have elsewhere : on ≠ ptr := by
          rintro rfl
          have same := SlotTable.resolve_injective consistent.valid before registered
          exact different (congrArg OutputId.mk same)
        refine ⟨on, output, (resolve _ on).mpr ⟨before, elsewhere⟩, ?_, pos,
          size.imp_left (waits other)⟩
        change Function.update w.live ptr none on = some output
        rw [Function.update_of_ne elsewhere]
        exact present
      case missing =>
        intro other on after
        dsimp only at after ⊢
        obtain ⟨before, elsewhere⟩ := (resolve other.raw on).mp after
        rw [AssocMap.lookup_erase, if_neg]
        · exact (consistent.missing other on before).imp_right (waits other)
        · rintro rfl
          exact elsewhere (Option.some.inj (before.symm.trans registered))

/-- A signal leaves the curtains fit but for the event it asks to dispatch. -/
theorem happen (consistent : Consistent w.queue w) (happening : Happening) :
    Consistent ((w.happen happening).2.toList ++ (w.happen happening).1.queue)
      (w.happen happening).1 := by
  cases happening with
  | created ptr output =>
      unfold Wrapper.happen
      dsimp only
      cases absent : w.live ptr with
      | some _ => exact consistent
      | none =>
          have unregistered : ∀ id, w.outputs.resolve id ≠ some ptr := by
            intro id resolved
            have there := consistent.live id ptr resolved
            rw [absent] at there
            cases there
          have placed : Consistent (w.setLive ptr (some output)).queue
              (w.setLive ptr (some output)) := consistent.setLive unregistered _
          have present : ((w.setLive ptr (some output)).live ptr).isSome := by
            simp [Wrapper.setLive]
          have registered := placed.registerOutputShell present output.name
          have queue : ((w.setLive ptr (some output)).registerOutputShell ptr output.name).1.queue =
              w.queue := by
            unfold Wrapper.registerOutputShell
            split
            · rfl
            · split <;> rfl
          rw [queue]
          exact registered
  | moved ptr dx dy =>
      unfold Wrapper.happen
      dsimp only
      cases there : w.live ptr with
      | none => exact consistent
      | some output => exact consistent.moved there dx dy
  | resized ptr width height =>
      unfold Wrapper.happen
      dsimp only
      cases there : w.live ptr with
      | none => exact consistent
      | some output => exact consistent.resized there width height
  | destroyed ptr =>
      unfold Wrapper.happen
      dsimp only
      cases w.live ptr with
      | none => exact consistent
      | some output => exact consistent.destroyed ptr

theorem overhear (consistent : Consistent w.queue w) (happening : Happening) :
    Consistent (w.overhear happening).queue (w.overhear happening) := by
  have happened := consistent.happen happening
  unfold Wrapper.overhear
  generalize w.happen happening = result at happened
  obtain ⟨after, announced⟩ := result
  cases announced with
  | none => exact happened
  | some ev =>
      apply happened.mono
      intro id
      have moved : ∀ other, other ∈ ev :: after.queue → other ∈ after.queue ++ [ev] := by
        intro other member
        rcases List.mem_cons.mp member with rfl | member
        · exact List.mem_append_right _ List.mem_cons_self
        · exact List.mem_append_left _ member
      exact .imp (moved _) (moved _)

end Consistent

/-! ### Handlers and runs -/

variable {Base : Type} {compositor : Compositor Base}

theorem Consistent.hear {w : Wrapper} (consistent : Consistent w.queue w) (base : Base) :
    Consistent (compositor.hear Wrapper.overhear w base).1.queue
      (compositor.hear Wrapper.overhear w base).1 :=
  @Underlay.hear_kept _ _ _ compositor Wrapper.overhear (fun w => Consistent w.queue w)
    (fun happening consistent => consistent.overhear happening) w consistent base

private theorem Consistent.recreated {due : List Event} {w : Wrapper}
    (consistent : Consistent due w)
    {id : OutputId} (waits : ∀ other, other ≠ id → Awaits due other → Awaits w.queue other)
    (argb : UInt32) :
    Consistent (w.recreateBackground id argb).queue (w.recreateBackground id argb) := by
  have queue : (w.recreateBackground id argb).queue = w.queue := by
    unfold Wrapper.recreateBackground
    dsimp only
    split <;> rfl
  rw [queue]
  exact consistent.recreateBackground waits argb

/-- Whatever the policy asks of the host, the curtains fit. -/
private theorem consistent_commands (compositor : Compositor Base) :
    Commands compositor.backing fun h => Consistent h.1.queue h.1 :=
  { @Underlay.passing_commands _ _ _ compositor Wrapper.overhear (fun w => Consistent w.queue w)
      fun happening consistent => consistent.overhear happening with
    recreateBackground := fun _ argb consistent =>
      (consistent.recreated (fun _ _ waits => waits) argb).hear _ }

/-- The event that was due is handled: the curtain it asks for is made first. -/
theorem Consistent.onEvent {w : Wrapper} {ev : Event} (consistent : Consistent (ev :: w.queue) w)
    (shell : Shell) (base : Base) :
    Consistent (shell.onEvent compositor.backing (w, base) ev).2.1.queue
      (shell.onEvent compositor.backing (w, base) ev).2.1 := by
  have commands := consistent_commands compositor
  have remade : ∀ id, (∀ other, other ≠ id → Awaits (ev :: w.queue) other → Awaits w.queue other) →
      Consistent (compositor.backing.recreateBackground (w, base) id
          shell.config.backgroundColor).1.queue
        (compositor.backing.recreateBackground (w, base) id shell.config.backgroundColor).1 :=
    fun id waits => (consistent.recreated waits _).hear _
  have plain : (∀ id, ev ≠ .outputCreated id) → (∀ id, ev ≠ .outputResized id) →
      Consistent (shell.onEvent compositor.backing (w, base) ev).2.1.queue
        (shell.onEvent compositor.backing (w, base) ev).2.1 := by
    intro notCreated notResized
    apply commands.onEvent ev
    refine consistent.mono ?_ w.queue
    rintro id (member | member)
    · rcases List.mem_cons.mp member with same | member
      · exact absurd same.symm (notCreated id)
      · exact .inl member
    · rcases List.mem_cons.mp member with same | member
      · exact absurd same.symm (notResized id)
      · exact .inr member
  cases ev with
  | outputCreated id =>
      have shown := remade id fun other different => by
        simp [Awaits, different]
      unfold Shell.onEvent
      dsimp only
      split
      · exact commands.keeps.repositionAll shown
      · exact shown
  | outputResized id =>
      exact remade id fun other different => by
        simp [Awaits, different]
  | _ => exact plain nofun nofun

private theorem Step.consistent {state next : Shell × Wrapper × Base} {label : Label}
    (step : Step compositor state label next)
    (consistent : Consistent state.2.1.queue state.2.1) :
    Consistent next.2.1.queue next.2.1 := by
  cases step with
  | event _ _ => exact (consistent_commands compositor).onEvent _ consistent
  | post _ => exact consistent.enqueue _
  | @deliver shell ordered w base drifted ev queue _ queued =>
      have due : Consistent (ev :: queue) { w with queue } := by
        rw [← queued]
        exact consistent.mono (fun _ waits => waits) queue
      exact due.onEvent ordered drifted
  | @happen shell ordered w base drifted happening _ =>
      have happened := Consistent.happen consistent happening
      unfold Compositor.dispatch
      dsimp only at happened ⊢
      generalize w.happen happening = result at happened
      obtain ⟨after, announced⟩ := result
      cases announced with
      | none => exact happened
      | some ev => exact happened.onEvent ordered drifted

theorem run_consistent {shell : Shell} {base : Base} {labels : List Label}
    {final : Shell × Wrapper × Base}
    (run : Run (Step compositor) (shell, .new, base) labels final) :
    Consistent final.2.1.queue final.2.1 := by
  induction run with
  | nil => exact .new
  | snoc _ step ih => exact step.consistent ih

/-- When nothing waits, every registered output has the one curtain that is where it
is and as large, and there are no others. -/
theorem backgrounds_consistent {shell : Shell} {base : Base} {labels : List Label}
    {final : Shell × Wrapper × Base}
    (run : Run (Step compositor) (shell, .new, base) labels final)
    (drained : final.2.1.queue = []) :
    (∀ ptr id, final.2.1.outputs.idOf ptr = some id →
      ∃ output curtain, final.2.1.live ptr = some output ∧
        final.2.1.curtains.lookup ⟨id⟩ = some curtain ∧ curtain.pos = output.pos ∧
        curtain.width = output.width ∧ curtain.height = output.height ∧
        ∀ other, (final.2.1.curtains.lookup other).isSome →
          final.2.1.outputs.resolve other.raw = some ptr → other = ⟨id⟩) ∧
    ∀ id curtain, final.2.1.curtains.lookup id = some curtain →
      ∃ ptr, final.2.1.outputs.resolve id.raw = some ptr ∧ (final.2.1.live ptr).isSome := by
  have consistent := run_consistent run
  have settled : ∀ id, ¬ Awaits final.2.1.queue id := by
    intro id
    rw [drained]
    rintro (impossible | impossible) <;> cases impossible
  constructor
  · intro ptr id found
    have resolved := (SlotTable.idOf_eq_some_iff_resolve consistent.valid).mp found
    rcases consistent.missing ⟨id⟩ ptr resolved with present | waiting
    · obtain ⟨curtain, shown⟩ := Option.isSome_iff_exists.mp present
      obtain ⟨on, output, same, there, pos, size⟩ := consistent.shown ⟨id⟩ curtain shown
      obtain rfl := Option.some.inj (same.symm.trans resolved)
      have fits := size.resolve_left (settled _)
      refine ⟨output, curtain, there, shown, pos, fits.1, fits.2, ?_⟩
      intro other _ also
      exact congrArg OutputId.mk (SlotTable.resolve_injective consistent.valid also resolved)
    · exact absurd waiting (settled _)
  · intro id curtain shown
    obtain ⟨ptr, output, resolved, there, _⟩ := consistent.shown id curtain shown
    exact ⟨ptr, resolved, Option.isSome_of_eq_some there⟩

/-- An output comes, moves and is resized before its events are handled. -/
theorem backgrounds_consistent_resized :
    ∃ (compositor : Compositor Unit) (labels : List Label) (final : Shell × Wrapper × Unit),
      Run (Step compositor) (.new .default, .new, ()) labels final ∧ final.2.1.queue = [] ∧
      ∃ curtain, final.2.1.curtains.lookup ⟨⟨0, 1⟩⟩ = some curtain ∧ curtain.pos = (10, 0) ∧
        curtain.width = 800 ∧ curtain.height = 600 := by
  let compositor : Compositor Unit := ⟨.inert, fun _ => ([], ())⟩
  have signal : ∀ (shell : Shell) (w : Wrapper) (happening : Happening),
      Step compositor (shell, w, ()) (.happen happening)
        (compositor.dispatch shell (w.happen happening, ())) :=
    fun shell w happening => .happen (.refl shell)
  have deliver : ∀ (shell : Shell) (w : Wrapper) (ev : Event) (queue : List Event),
      w.queue = ev :: queue → Step compositor (shell, w, ()) .deliver
        (shell.onEvent compositor.backing ({ w with queue }, ()) ev) :=
    fun shell w ev queue queued => .deliver (.refl shell) queued
  have run : Run (Step compositor) (.new .default, .new, ())
      [.happen (.created 7 ⟨"DP-1", (0, 0), 640, 480⟩), .happen (.moved 7 10 0),
        .happen (.resized 7 800 600), .deliver, .deliver] _ :=
    .cons (signal _ _ _) <| .cons (signal _ _ _) <| .cons (signal _ _ _) <|
      .cons (deliver _ _ _ _ rfl) <| .single (deliver _ _ _ _ rfl)
  obtain ⟨shown, _⟩ := backgrounds_consistent run rfl
  obtain ⟨output, curtain, there, found, pos, width, height, _⟩ := shown 7 ⟨0, 1⟩ rfl
  obtain rfl := Option.some.inj there
  have moved : ((0 : Coord) + 10, (0 : Coord) + 0) = (10, 0) := by
    rw [Rat.zero_add, Rat.zero_add]
  exact ⟨compositor, _, _, run, rfl, curtain, found, pos.trans moved, width, height⟩

end Westonite.Background
