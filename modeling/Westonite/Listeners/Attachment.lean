import Westonite.Listeners.Pointers

/-! The `attached` flag of a listener tells whether its node is linked, whatever the
order of emissions, attachments and drops, and a one-shot listener is called once. -/

set_option autoImplicit false

namespace Westonite.Listeners

open Library

variable {Links Signal Listener : Type} [DecidableEq Signal] [DecidableEq Listener]
  {wl : WlLists Links Signal Listener} {Valid : Links → Prop} {oneshot : Listener → Bool}

def Frame.running : Frame Signal Listener → Option Listener
  | .emission _ _ => none
  | .handler l => some l

/-- What holds between any two steps. -/
structure Sound (wl : WlLists Links Signal Listener) (Valid : Links → Prop)
    (oneshot : Listener → Bool) (st : State Links Signal Listener) : Prop where
  valid : Valid st.links
  linked_iff : ∀ l, st.attached l = true ↔ ∃ s, l ∈ wl.nodes st.links s
  dropped : ∀ l, st.dropped l = true → st.attached l = false
  dead : ∀ s, st.dead s = true → wl.nodes st.links s = []
  awaited : ∀ s l, .emission s (some l) ∈ st.stack → l ∈ wl.nodes st.links s
  once : (st.stack.filterMap Frame.running).Nodup
  /-- A one-shot listener that is still attached was not called yet. -/
  unspent : ∀ l, oneshot l = true → st.attached l = true →
    st.notified l = false ∧ st.fired l = 0
  fired : ∀ l, oneshot l = true → st.fired l ≤ 1

omit [DecidableEq Signal] [DecidableEq Listener] in
private theorem mem_running {st : State Links Signal Listener} {l : Listener} :
    l ∈ st.stack.filterMap Frame.running ↔ .handler l ∈ st.stack := by
  rw [List.mem_filterMap]
  constructor
  · intro found
    obtain ⟨frame, member, runs⟩ := found
    cases frame with
    | emission _ _ => cases runs
    | handler k =>
        cases runs
        exact member
  · intro member
    exact ⟨_, member, rfl⟩

/-! ### What the running code does next -/

theorem turn_cases {st next : State Links Signal Listener}
    (taken : st.turn wl oneshot = some next) :
    (∃ s rest, st.stack = .emission s none :: rest ∧ next = { st with stack := rest }) ∨
      ∃ s l rest, st.stack = .emission s (some l) :: rest ∧
        next = ({ st with
          stack := .emission s (wl.next st.links s l) :: rest }).trampoline wl oneshot l := by
  unfold State.turn at taken
  split at taken
  · rename_i s rest top
    exact .inl ⟨s, rest, top, (Option.some.inj taken).symm⟩
  · rename_i s l rest top
    exact .inr ⟨s, l, rest, top, (Option.some.inj taken).symm⟩
  · cases taken

omit [DecidableEq Signal] [DecidableEq Listener] in
theorem handlerReturn_cases {st next : State Links Signal Listener}
    (taken : st.handlerReturn = some next) :
    ∃ l rest, st.stack = .handler l :: rest ∧ next = { st with stack := rest } := by
  unfold State.handlerReturn at taken
  split at taken
  · rename_i l rest top
    exact ⟨l, rest, top, (Option.some.inj taken).symm⟩
  · cases taken

/-! ### The invariant -/

namespace Sound

variable {st : State Links Signal Listener}

omit [DecidableEq Signal] [DecidableEq Listener] in
theorem unlinked (sound : Sound wl Valid oneshot st) {l : Listener}
    (detached : st.attached l = false) : wl.Unlinked st.links l := by
  intro s member
  rw [(sound.linked_iff l).mpr ⟨s, member⟩] at detached
  cases detached

theorem new (lists : wl.Documented Valid) (context : Bool) :
    Sound wl Valid oneshot (.new wl context) where
  valid := lists.newValid
  linked_iff l := by
    constructor
    · intro impossible
      cases impossible
    · intro linked
      obtain ⟨s, member⟩ := linked
      change l ∈ wl.nodes wl.new s at member
      rw [lists.new] at member
      cases member
  dropped _ := nofun
  dead _ := nofun
  awaited _ _ := nofun
  once := .nil
  unspent _ _ := nofun
  fired _ _ := Nat.zero_le 1

/-! ### Operations -/

theorem attach (lists : wl.Documented Valid) (sound : Sound wl Valid oneshot st) {s : Signal}
    {l : Listener} (detached : st.attached l = false) (kept : st.dropped l = false)
    (alive : st.dead s = false) : Sound wl Valid oneshot (st.attach wl s l) := by
  have outside := sound.unlinked detached
  have nodes : ∀ t, wl.nodes (st.attach wl s l).links t =
      if t = s then wl.nodes st.links s ++ [l] else wl.nodes st.links t :=
    fun t => lists.add st.links s l t sound.valid outside
  have member : ∀ t k, k ∈ wl.nodes (st.attach wl s l).links t ↔
      k ∈ wl.nodes st.links t ∨ t = s ∧ k = l := by
    intro t k
    rw [nodes]
    split
    · rename_i same
      simp [same]
    · rename_i other
      simp [other]
  have other : ∀ k, k ≠ l → (st.attach wl s l).attached k = st.attached k ∧
      (st.attach wl s l).notified k = st.notified k ∧ (st.attach wl s l).fired k = st.fired k := by
    intro k apart
    exact ⟨Function.update_of_ne apart .., Function.update_of_ne apart ..,
      Function.update_of_ne apart ..⟩
  have here : (st.attach wl s l).attached l = true ∧ (st.attach wl s l).notified l = false ∧
      (st.attach wl s l).fired l = 0 :=
    ⟨Function.update_self .., Function.update_self .., Function.update_self ..⟩
  constructor
  · exact lists.addValid st.links s l sound.valid outside
  · intro k
    by_cases same : k = l
    · subst same
      refine ⟨fun _ => ⟨s, (member s k).mpr (.inr ⟨rfl, rfl⟩)⟩, fun _ => here.1⟩
    · rw [(other k same).1, sound.linked_iff]
      refine exists_congr fun t => ?_
      rw [member]
      simp [same]
  · intro k gone
    have apart : k ≠ l := by
      rintro rfl
      rw [show st.dropped k = true from gone] at kept
      cases kept
    rw [(other k apart).1]
    exact sound.dropped k gone
  · intro t gone
    have apart : t ≠ s := by
      rintro rfl
      rw [show st.dead t = true from gone] at alive
      cases alive
    rw [nodes, if_neg apart]
    exact sound.dead t gone
  · intro t k waits
    exact (member t k).mpr (.inl (sound.awaited t k waits))
  · exact sound.once
  · intro k single flag
    by_cases same : k = l
    · exact same ▸ here.2
    · rw [(other k same).1] at flag
      rw [(other k same).2.1, (other k same).2.2]
      exact sound.unspent k single flag
  · intro k single
    by_cases same : k = l
    · rw [same, here.2.2]
      exact Nat.zero_le 1
    · rw [(other k same).2.2]
      exact sound.fired k single

theorem unlink (lists : wl.Documented Valid) (sound : Sound wl Valid oneshot st) {l : Listener}
    (flag : st.attached l = true) (spared : ¬ st.Awaited l) :
    Sound wl Valid oneshot (st.unlink wl l) ∧ (st.unlink wl l).attached l = false := by
  obtain ⟨s, linked⟩ := (sound.linked_iff l).mp flag
  have removed : Valid (wl.listRemove st.links l) :=
    lists.removeValid st.links s l sound.valid linked
  have erased : ∀ t, wl.nodes (wl.listRemove st.links l) t = (wl.nodes st.links t).erase l :=
    fun t => lists.remove st.links s l t sound.valid linked
  have outside : wl.Unlinked (wl.listRemove st.links l) l := by
    intro t member
    rw [erased] at member
    exact (lists.nodup st.links t sound.valid).not_mem_erase member
  have nodes : ∀ t, wl.nodes (st.unlink wl l).links t = (wl.nodes st.links t).erase l := by
    intro t
    rw [← erased]
    exact lists.init _ l t removed outside
  have other : ∀ k, k ≠ l → (st.unlink wl l).attached k = st.attached k :=
    fun k apart => Function.update_of_ne apart ..
  have here : (st.unlink wl l).attached l = false := Function.update_self ..
  refine ⟨⟨lists.initValid _ l removed outside, ?_, ?_, ?_, ?_, sound.once, ?_, sound.fired⟩, here⟩
  · intro k
    by_cases same : k = l
    · subst same
      rw [here]
      constructor
      · intro impossible
        cases impossible
      · intro still
        obtain ⟨t, member⟩ := still
        rw [nodes, ← erased] at member
        exact absurd member (outside t)
    · rw [other k same, sound.linked_iff]
      refine exists_congr fun t => ?_
      rw [nodes, List.mem_erase_of_ne same]
  · intro k gone
    by_cases same : k = l
    · exact same ▸ here
    · rw [other k same]
      exact sound.dropped k gone
  · intro t gone
    have empty := sound.dead t gone
    rw [nodes, empty]
    rfl
  · intro t k waits
    have apart : k ≠ l := by
      rintro rfl
      exact spared ⟨t, waits⟩
    rw [nodes, List.mem_erase_of_ne apart]
    exact sound.awaited t k waits
  · intro k single still
    have apart : k ≠ l := by
      rintro rfl
      rw [here] at still
      cases still
    rw [other k apart] at still
    exact sound.unspent k single still

theorem detach (lists : wl.Documented Valid) (sound : Sound wl Valid oneshot st) {l : Listener}
    (spared : st.attached l = true → ¬ st.Awaited l) :
    Sound wl Valid oneshot (st.detach wl l) ∧ (st.detach wl l).attached l = false := by
  unfold State.detach
  split
  · rename_i flag
    exact sound.unlink lists flag (spared flag)
  · rename_i flag
    exact ⟨sound, eq_false_of_ne_true flag⟩

theorem drop (lists : wl.Documented Valid) (sound : Sound wl Valid oneshot st) {l : Listener}
    (spared : st.attached l = true → ¬ st.Awaited l) :
    Sound wl Valid oneshot (st.drop wl l) := by
  obtain ⟨kept, detached⟩ := sound.detach lists spared
  refine { kept with dropped := ?_ }
  intro k gone
  by_cases same : k = l
  · exact same ▸ detached
  · have before : st.dropped k = true := by
      rw [← gone]
      exact (Function.update_of_ne same ..).symm
    have still : (st.detach wl l).dropped = st.dropped := by
      unfold State.detach
      split <;> rfl
    exact kept.dropped k (still ▸ before)

omit [DecidableEq Listener] in
theorem die (sound : Sound wl Valid oneshot st) {s : Signal}
    (called : ∀ l ∈ wl.nodes st.links s, oneshot l = true ∧ st.notified l = true) :
    Sound wl Valid oneshot { st with dead := Function.update st.dead s true } := by
  have empty : wl.nodes st.links s = [] := by
    apply List.eq_nil_iff_forall_not_mem.mpr
    intro l member
    obtain ⟨single, notified⟩ := called l member
    have flag := (sound.linked_iff l).mpr ⟨s, member⟩
    rw [(sound.unspent l single flag).1] at notified
    cases notified
  refine { sound with dead := ?_ }
  intro t gone
  by_cases same : t = s
  · exact same ▸ empty
  · apply sound.dead t
    rw [← gone]
    exact (Function.update_of_ne same ..).symm

/-! ### Emissions -/

omit [DecidableEq Signal] [DecidableEq Listener] in
private theorem restack (sound : Sound wl Valid oneshot st) {stack : List (Frame Signal Listener)}
    (awaited : ∀ s l, .emission s (some l) ∈ stack → l ∈ wl.nodes st.links s)
    (once : (stack.filterMap Frame.running).Nodup) :
    Sound wl Valid oneshot { st with stack := stack } :=
  { sound with
    awaited := awaited
    once := once }

omit [DecidableEq Signal] [DecidableEq Listener] in
/-- What is left when the innermost frame ends. -/
theorem pop (sound : Sound wl Valid oneshot st) {frame : Frame Signal Listener}
    {rest : List (Frame Signal Listener)} (top : st.stack = frame :: rest) :
    Sound wl Valid oneshot { st with stack := rest } := by
  have awaited := sound.awaited
  have once := sound.once
  rw [top] at awaited once
  apply sound.restack
  · intro s l waits
    exact awaited s l (List.mem_cons_of_mem _ waits)
  · cases frame with
    | emission _ _ => exact once
    | handler _ => exact (List.nodup_cons.mp once).2

omit [DecidableEq Signal] [DecidableEq Listener] in
/-- The node an emission has reached is linked. -/
theorem reached_linked (sound : Sound wl Valid oneshot st) {s : Signal} {l : Listener}
    {rest : List (Frame Signal Listener)} (top : st.stack = .emission s (some l) :: rest) :
    l ∈ wl.nodes st.links s := by
  apply sound.awaited s l
  rw [top]
  exact List.mem_cons_self

omit [DecidableEq Signal] in
private theorem notify (sound : Sound wl Valid oneshot st) {l : Listener}
    (spent : oneshot l = true → st.attached l = false) :
    Sound wl Valid oneshot { st with notified := Function.update st.notified l true } := by
  refine { sound with unspent := ?_ }
  intro k single flag
  have apart : k ≠ l := by
    rintro rfl
    rw [show st.attached k = true from flag] at spent
    cases spent single
  refine ⟨?_, (sound.unspent k single flag).2⟩
  exact (Function.update_of_ne apart ..).trans (sound.unspent k single flag).1

theorem callHandler (sound : Sound wl Valid oneshot st) {l : Listener}
    (spent : oneshot l = true → st.attached l = false ∧ st.fired l = 0) :
    Sound wl Valid oneshot (st.callHandler l) := by
  unfold State.callHandler
  split
  · exact sound
  · rename_i free
    have idle : .handler l ∉ st.stack := by
      intro member
      apply free
      simp [State.busy, member]
    have other : ∀ k, k ≠ l → Function.update st.fired l (st.fired l + 1) k = st.fired k :=
      fun k apart => Function.update_of_ne apart ..
    refine { sound with awaited := ?_, once := ?_, unspent := ?_, fired := ?_ }
    · intro s k waits
      rcases List.mem_cons.mp waits with impossible | below
      · cases impossible
      · exact sound.awaited s k below
    · exact List.nodup_cons.mpr ⟨fun member => idle (mem_running.mp member), sound.once⟩
    · intro k single flag
      have apart : k ≠ l := by
        rintro rfl
        rw [(spent single).1] at flag
        cases flag
      dsimp only
      rw [other k apart]
      exact sound.unspent k single flag
    · intro k single
      by_cases same : k = l
      · subst same
        dsimp only
        rw [Function.update_self, (spent single).2]
      · dsimp only
        rw [other k same]
        exact sound.fired k single

/-- The node behind a linked one is linked and another one. -/
theorem next_linked (lists : wl.Documented Valid) (sound : Sound wl Valid oneshot st) {s : Signal}
    {l k : Listener} (linked : l ∈ wl.nodes st.links s) (next : wl.next st.links s l = some k) :
    k ∈ wl.nodes st.links s ∧ k ≠ l := by
  obtain ⟨before, after, split⟩ := List.append_of_mem linked
  rw [lists.next st.links s l before after sound.valid split] at next
  have behind : k ∈ after := List.mem_of_mem_head? next
  have unique := lists.nodup st.links s sound.valid
  rw [split] at unique
  have apart := (List.nodup_append.mp unique).2.1
  constructor
  · rw [split]
    exact List.mem_append_right _ (List.mem_cons_of_mem l behind)
  · rintro rfl
    exact (List.nodup_cons.mp apart).1 behind

theorem trampoline (lists : wl.Documented Valid) (sound : Sound wl Valid oneshot st) {l : Listener}
    (linked : ∃ s, l ∈ wl.nodes st.links s)
    (spared : oneshot l = true → st.attached l = true → ¬ st.Awaited l) :
    Sound wl Valid oneshot (st.trampoline wl oneshot l) ∧
      (oneshot l = true → (st.trampoline wl oneshot l).attached l = false) := by
  have flag := (sound.linked_iff l).mpr linked
  have called : ∀ mid : State Links Signal Listener,
      (mid.callHandler l).attached = mid.attached := by
    intro mid
    unfold State.callHandler
    split <;> rfl
  unfold State.trampoline
  rw [called]
  cases single : oneshot l with
  | true =>
      have left : st.selfDetach wl oneshot l = st.unlink wl l := by
        unfold State.selfDetach
        rw [single, flag]
        rfl
      obtain ⟨kept, detached⟩ := sound.unlink lists flag (spared single flag)
      rw [left]
      have unfired : st.fired l = 0 := (sound.unspent l single flag).2
      exact ⟨(kept.notify fun _ => detached).callHandler fun _ => ⟨detached, unfired⟩,
        fun _ => detached⟩
  | false =>
      have stays : st.selfDetach wl oneshot l = st := by
        unfold State.selfDetach
        rw [single]
        rfl
      have never : oneshot l ≠ true := by
        rw [single]
        exact Bool.false_ne_true
      rw [stays]
      exact ⟨(sound.notify fun once => absurd once never).callHandler fun once => absurd once never,
        nofun⟩

theorem emit (lists : wl.Documented Valid) (sound : Sound wl Valid oneshot st) (s : Signal) :
    Sound wl Valid oneshot
      { st with stack := .emission s (wl.first st.links s) :: st.stack } := by
  apply sound.restack
  · intro t l waits
    rcases List.mem_cons.mp waits with here | below
    · injection here with same first
      rw [lists.first st.links s sound.valid] at first
      exact same ▸ List.mem_of_mem_head? first.symm
    · exact sound.awaited t l below
  · exact sound.once

/-- The loop has moved on before its node is called. -/
theorem move (lists : wl.Documented Valid) (sound : Sound wl Valid oneshot st) {s : Signal}
    {l : Listener} {rest : List (Frame Signal Listener)}
    (top : st.stack = .emission s (some l) :: rest) :
    Sound wl Valid oneshot { st with stack := .emission s (wl.next st.links s l) :: rest } := by
  have linked := sound.reached_linked top
  have ended := sound.pop top
  apply sound.restack
  · intro t k waits
    rcases List.mem_cons.mp waits with here | below
    · injection here with same next
      exact same ▸ (sound.next_linked lists linked next.symm).1
    · exact ended.awaited t k below
  · exact ended.once

/-- The node an emission has reached is called. -/
theorem call (lists : wl.Documented Valid) (sound : Sound wl Valid oneshot st) {s : Signal}
    {l : Listener} {rest : List (Frame Signal Listener)}
    (top : st.stack = .emission s (some l) :: rest) (spares : st.Spares oneshot .turn)
    {next : State Links Signal Listener}
    (reached : next = ({ st with
      stack := .emission s (wl.next st.links s l) :: rest }).trampoline wl oneshot l) :
    Sound wl Valid oneshot next ∧ (oneshot l = true → next.attached l = false) := by
  have linked := sound.reached_linked top
  rw [reached]
  refine (sound.move lists top).trampoline lists ⟨s, linked⟩ ?_
  intro single flag waits
  obtain ⟨t, member⟩ := waits
  rcases List.mem_cons.mp member with here | below
  · injection here with _ following
    exact (sound.next_linked lists linked following.symm).2 rfl
  · exact spares s l rest top single flag t below

theorem turn (lists : wl.Documented Valid) (sound : Sound wl Valid oneshot st)
    {next : State Links Signal Listener} (taken : st.turn wl oneshot = some next)
    (spares : st.Spares oneshot .turn) : Sound wl Valid oneshot next := by
  rcases turn_cases taken with ⟨s, rest, top, rfl⟩ | ⟨s, l, rest, top, rfl⟩
  · exact sound.pop top
  · exact (sound.call lists top spares rfl).1

omit [DecidableEq Signal] [DecidableEq Listener] in
theorem handlerReturn (sound : Sound wl Valid oneshot st) {next : State Links Signal Listener}
    (taken : st.handlerReturn = some next) : Sound wl Valid oneshot next := by
  obtain ⟨l, rest, top, rfl⟩ := handlerReturn_cases taken
  exact sound.pop top

theorem step (lists : wl.Documented Valid) (sound : Sound wl Valid oneshot st)
    {action : Action Signal Listener} {next : State Links Signal Listener}
    (step : Step wl oneshot st action next) : Sound wl Valid oneshot next := by
  obtain ⟨taken, orderly, spares⟩ := step
  cases action with
  | attach l s | attachByC l s =>
      cases taken
      exact sound.attach lists orderly.1 orderly.2.1 orderly.2.2
  | detach l =>
      cases taken
      exact (sound.detach lists spares).1
  | drop l =>
      cases taken
      exact sound.drop lists spares
  | emit s =>
      cases taken
      exact sound.emit lists s
  | turn => exact sound.turn lists taken spares
  | handlerReturn => exact sound.handlerReturn taken
  | die s =>
      cases taken
      exact sound.die orderly.2
  | setContext context =>
      cases taken
      exact { sound with }

end Sound

theorem run_sound (lists : wl.Documented Valid) {context : Bool}
    {actions : List (Action Signal Listener)} {st : State Links Signal Listener}
    (run : Run (Step wl oneshot) (.new wl context) actions st) : Sound wl Valid oneshot st :=
  run.invariant (fun _ _ _ sound taken => sound.step lists taken) (.new lists context)

/-! ### Handlers -/

/-- A step that starts the handler of a listener. -/
def Enters (before after : State Links Signal Listener) (l : Listener) : Prop :=
  ∃ frames, after.stack = .handler l :: frames ∧ frames.length = before.stack.length

theorem trampoline_stack (wl : WlLists Links Signal Listener) (oneshot : Listener → Bool)
    (st : State Links Signal Listener) (l : Listener) :
    (st.trampoline wl oneshot l).stack =
      if !st.context || st.busy l then st.stack else .handler l :: st.stack := by
  have context : (st.selfDetach wl oneshot l).context = st.context := by
    unfold State.selfDetach
    split <;> rfl
  have stack : (st.selfDetach wl oneshot l).stack = st.stack := by
    unfold State.selfDetach
    split <;> rfl
  unfold State.trampoline State.callHandler State.busy
  dsimp only
  rw [context, stack]
  split <;> rfl

omit [DecidableEq Signal] in
theorem detach_stack (wl : WlLists Links Signal Listener) (st : State Links Signal Listener)
    (l : Listener) : (st.detach wl l).stack = st.stack := by
  unfold State.detach
  split <;> rfl

/-- Only an emission starts a handler, of the listener it has reached. -/
theorem Enters.turn {st next : State Links Signal Listener} {action : Action Signal Listener}
    {l : Listener} (enters : Enters st next l) (taken : st.step wl oneshot action = some next) :
    action = .turn ∧ ∃ s rest, st.stack = .emission s (some l) :: rest ∧ .handler l ∉ st.stack ∧
      next = ({ st with
        stack := .emission s (wl.next st.links s l) :: rest }).trampoline wl oneshot l := by
  obtain ⟨frames, shape, length⟩ := enters
  have grown : next.stack.length = st.stack.length + 1 := by
    rw [shape, List.length_cons, length]
  cases action with
  | attach k s | attachByC k s | die s | setContext context =>
      cases taken
      exact absurd grown (Nat.ne_of_lt (Nat.lt_succ_self _))
  | detach k | drop k =>
      cases taken
      change (st.detach wl k).stack.length = _ at grown
      rw [detach_stack] at grown
      exact absurd grown (Nat.ne_of_lt (Nat.lt_succ_self _))
  | emit s =>
      cases taken
      cases shape
  | handlerReturn =>
      obtain ⟨k, rest, top, rfl⟩ := handlerReturn_cases taken
      rw [top, List.length_cons] at grown
      dsimp only at grown
      omega
  | turn =>
      rcases turn_cases taken with ⟨s, rest, top, rfl⟩ | ⟨s, k, rest, top, rfl⟩
      · rw [top, List.length_cons] at grown
        dsimp only at grown
        omega
      · have stack := shape
        rw [trampoline_stack] at stack
        split at stack
        · cases stack
        · rename_i free
          injection stack with head tail
          injection head with same
          subst same
          refine ⟨rfl, s, rest, top, ?_, rfl⟩
          intro member
          apply free
          rw [top] at member
          have below : .handler k ∈ rest := by
            rcases List.mem_cons.mp member with impossible | below
            · cases impossible
            · exact below
          simp [State.busy, below]

theorem Sound.entered (lists : wl.Documented Valid) {st next : State Links Signal Listener}
    (sound : Sound wl Valid oneshot st) {action : Action Signal Listener}
    (step : Step wl oneshot st action next) {l : Listener} (enters : Enters st next l) :
    .handler l ∉ st.stack ∧
      (oneshot l = true → next.attached l = false ∧ ∀ s, l ∉ wl.nodes next.links s) := by
  obtain ⟨rfl, s, rest, top, idle, reached⟩ := enters.turn step.taken
  refine ⟨idle, ?_⟩
  intro single
  obtain ⟨kept, detached⟩ := sound.call lists top step.spares reached
  exact ⟨detached single, kept.unlinked (detached single)⟩

/-! ### Runs -/

/-- In every run that keeps to the provisos, the flag tells whether the node is linked,
and on a living signal; a one-shot listener is called at most once for an attachment,
with its node unlinked; no handler is entered twice; nothing dropped or dead is linked. -/
theorem listener_attachment (lists : wl.Documented Valid) {context : Bool}
    {actions : List (Action Signal Listener)} {st : State Links Signal Listener}
    (run : Run (Step wl oneshot) (.new wl context) actions st) :
    (∀ l, st.attached l = true ↔ ∃ s, l ∈ wl.nodes st.links s) ∧
      (∀ l, oneshot l = true → st.fired l ≤ 1) ∧
      (∀ action next l, Step wl oneshot st action next → Enters st next l →
        .handler l ∉ st.stack ∧
          (oneshot l = true → next.attached l = false ∧ ∀ s, l ∉ wl.nodes next.links s)) ∧
      (∀ l, st.dropped l = true → ∀ s, l ∉ wl.nodes st.links s) ∧
      ∀ s, st.dead s = true → wl.nodes st.links s = [] := by
  have sound := run_sound lists run
  refine ⟨sound.linked_iff, sound.fired, ?_, ?_, sound.dead⟩
  · intro action next l step enters
    exact sound.entered lists step enters
  · intro l gone
    exact sound.unlinked (sound.dropped l gone)

/-- A one-shot listener and an emission to it. -/
theorem listener_attachment_oneshot :
    ∃ st : State (Pointers Unit Bool) Unit Bool,
      Run (Step Pointers.lists id) (.new Pointers.lists true)
        [.attach true (), .emit (), .turn] st ∧
        st.stack = [.handler true, .emission () none] ∧ st.fired true ≤ 1 ∧
        (st.attached true = true ↔ ∃ s, true ∈ Pointers.lists.nodes st.links s) := by
  have spares : ∀ s l rest, [Frame.emission () (some true)] = .emission s (some l) :: rest →
      ∀ t, Frame.emission t (some l) ∉ rest := by
    intro s l rest top t
    cases top
    nofun
  have linked : Run (Step Pointers.lists id) (.new Pointers.lists true) [.attach true ()] _ :=
    .single ⟨rfl, ⟨rfl, rfl, rfl⟩, trivial⟩
  have started : Run (Step Pointers.lists id) (.new Pointers.lists true)
      ([.attach true ()] ++ [.emit ()]) _ :=
    linked.snoc ⟨rfl, rfl, trivial⟩
  have run : Run (Step Pointers.lists id) (.new Pointers.lists true)
      (([.attach true ()] ++ [.emit ()]) ++ [.turn]) _ :=
    started.snoc ⟨rfl, trivial, fun s l rest top _ _ => spares s l rest top⟩
  have attachment := listener_attachment Pointers.lists_documented run
  exact ⟨_, run, rfl, attachment.2.1 true rfl, attachment.1 true⟩

/-! ### Nested emissions of one signal -/

/-- A step by which nothing is taken off a list but through an emission. -/
def State.tameStep (wl : WlLists Links Signal Listener) (oneshot : Listener → Bool)
    (st : State Links Signal Listener) (action : Action Signal Listener) :
    Option (State Links Signal Listener) :=
  match action with
  | .attach l s =>
      if st.attached l = false ∧ st.dropped l = false ∧ st.dead s = false then
        st.step wl oneshot action
      else none
  | .emit s => if st.dead s = false then st.step wl oneshot action else none
  | .turn | .handlerReturn => st.step wl oneshot action
  | _ => none

private theorem State.tameStep_keeps {st next : State Links Signal Listener}
    {action : Action Signal Listener} (taken : st.tameStep wl oneshot action = some next) :
    st.step wl oneshot action = some next ∧ st.Orderly wl oneshot action ∧
      st.Courteous wl action := by
  cases action with
  | attach l s =>
      unfold State.tameStep at taken
      dsimp only at taken
      split at taken
      · rename_i free
        exact ⟨taken, free, trivial⟩
      · cases taken
  | emit s =>
      unfold State.tameStep at taken
      dsimp only at taken
      split at taken
      · rename_i alive
        exact ⟨taken, alive, trivial⟩
      · cases taken
  | turn | handlerReturn => exact ⟨taken, trivial, trivial⟩
  | _ => cases taken

/-- The handler of the first listener emits again, and the one-shot listener behind it
is called by both emissions. -/
def calledTwice : List (Action Unit Bool) :=
  [.attach false (), .attach true (), .emit (), .turn, .emit (), .turn, .turn, .handlerReturn,
    .turn, .handlerReturn, .turn]

private theorem calledTwice_fired :
    (follow (State.tameStep Pointers.lists id) (.new Pointers.lists true) calledTwice).map
      (fun st => st.fired true) = some 2 := by
  decide +kernel

/-- A step by which no handler takes another listener off a signal that is being emitted. -/
structure CourteousStep (wl : WlLists Links Signal Listener) (oneshot : Listener → Bool)
    (st : State Links Signal Listener) (action : Action Signal Listener)
    (next : State Links Signal Listener) : Prop where
  taken : st.step wl oneshot action = some next
  orderly : st.Orderly wl oneshot action
  courteous : st.Courteous wl action

/-- With nothing detached and nothing dropped, a one-shot listener is called twice for
its only attachment. -/
theorem listener_attachment_nested :
    ¬ ∀ (actions : List (Action Unit Bool)) (st : State (Pointers Unit Bool) Unit Bool),
      Run (CourteousStep Pointers.lists id) (.new Pointers.lists true) actions st →
        ∀ l, id l = true → st.fired l ≤ 1 := by
  intro once
  obtain ⟨st, reached, fired⟩ := Option.map_eq_some_iff.mp calledTwice_fired
  have run := (run_of_follow reached).mono fun _ _ _ taken =>
    let ⟨step, orderly, courteous⟩ := State.tameStep_keeps taken
    CourteousStep.mk step orderly courteous
  have bound := once _ _ run true rfl
  omega

end Westonite.Listeners
