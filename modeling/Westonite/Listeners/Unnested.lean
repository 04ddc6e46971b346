import Westonite.Listeners.Attachment

/-! Where no signal is emitted within its own emission, it is enough that no handler
takes another listener off a signal that is being emitted. -/

set_option autoImplicit false

namespace Westonite.Listeners

open Library

variable {Links Signal Listener : Type} [DecidableEq Signal] [DecidableEq Listener]
  {wl : WlLists Links Signal Listener} {Valid : Links → Prop} {oneshot : Listener → Bool}

/-- Of two frames, the inner one first: they emit different signals, and the outer
loop does not go on to the listener whose handler runs. -/
def Frame.Apart : Frame Signal Listener → Frame Signal Listener → Prop
  | .handler l, .emission _ pos => pos ≠ some l
  | .emission s _, .emission t _ => s ≠ t
  | _, .handler _ => True

/-- A courteous step that does not emit a signal within its emission. -/
structure UnnestedStep (wl : WlLists Links Signal Listener) (oneshot : Listener → Bool)
    (st : State Links Signal Listener) (action : Action Signal Listener)
    (next : State Links Signal Listener) : Prop extends
    CourteousStep wl oneshot st action next where
  unnested : ∀ s, action = .emit s → ∀ pos, .emission s pos ∉ st.stack

variable {st next : State Links Signal Listener} {action : Action Signal Listener}

/-- No other emission goes on to the listener that one has reached. -/
private theorem emission_spares (lists : wl.Documented Valid) (sound : Sound wl Valid oneshot st)
    (apart : st.stack.Pairwise Frame.Apart) {s : Signal} {l : Listener}
    {rest : List (Frame Signal Listener)} (top : st.stack = .emission s (some l) :: rest)
    (t : Signal) : .emission t (some l) ∉ rest := by
  intro member
  have here := sound.reached_linked top
  have there := (sound.pop top).awaited t l member
  rw [top] at apart
  have differ : s ≠ t := (List.pairwise_cons.mp apart).1 _ member
  exact differ (lists.apart st.links s t l sound.valid here there)

theorem UnnestedStep.spares (lists : wl.Documented Valid) (sound : Sound wl Valid oneshot st)
    (apart : st.stack.Pairwise Frame.Apart) (step : UnnestedStep wl oneshot st action next) :
    Step wl oneshot st action next := by
  refine ⟨step.taken, step.orderly, ?_⟩
  have courteous := step.courteous
  cases action with
  | detach l | drop l =>
      intro _ waits
      obtain ⟨s, member⟩ := waits
      obtain ⟨rest, top⟩ := courteous s (some l) member (sound.awaited s l member)
      rw [top] at apart member
      rcases List.mem_cons.mp member with impossible | below
      · cases impossible
      · exact (List.pairwise_cons.mp apart).1 _ below rfl
  | turn =>
      intro s l rest top _ _
      exact emission_spares lists sound apart top
  | _ => trivial

theorem UnnestedStep.apart (lists : wl.Documented Valid) (sound : Sound wl Valid oneshot st)
    (apart : st.stack.Pairwise Frame.Apart) (step : UnnestedStep wl oneshot st action next) :
    next.stack.Pairwise Frame.Apart := by
  have taken := step.taken
  cases action with
  | attach l s | attachByC l s | die s | setContext context =>
      cases taken
      exact apart
  | detach l | drop l =>
      cases taken
      change (st.detach wl l).stack.Pairwise Frame.Apart
      rwa [detach_stack]
  | emit s =>
      cases taken
      refine List.pairwise_cons.mpr ⟨?_, apart⟩
      intro frame member
      cases frame with
      | emission t pos =>
          rintro rfl
          exact step.unnested s rfl pos member
      | handler l => trivial
  | handlerReturn =>
      obtain ⟨l, rest, top, rfl⟩ := handlerReturn_cases taken
      rw [top] at apart
      exact apart.tail
  | turn =>
      rcases turn_cases taken with ⟨s, rest, top, rfl⟩ | ⟨s, l, rest, top, rfl⟩
      · rw [top] at apart
        exact apart.tail
      · have linked := sound.reached_linked top
        have spared := emission_spares lists sound apart top
        rw [top] at apart
        obtain ⟨outer, below⟩ := List.pairwise_cons.mp apart
        have moved : (Frame.emission s (wl.next st.links s l) :: rest).Pairwise Frame.Apart := by
          refine List.pairwise_cons.mpr ⟨?_, below⟩
          intro frame member
          have differ := outer frame member
          cases frame <;> exact differ
        rw [trampoline_stack]
        split
        · exact moved
        · refine List.pairwise_cons.mpr ⟨?_, moved⟩
          intro frame member
          cases frame with
          | handler k => trivial
          | emission t pos =>
              rintro rfl
              rcases List.mem_cons.mp member with here | deeper
              · injection here with _ following
                exact (sound.next_linked lists linked following.symm).2 rfl
              · exact spared t deeper

/-- Such a run keeps to the provisos. -/
theorem unnested_run (lists : wl.Documented Valid) {context : Bool}
    {actions : List (Action Signal Listener)}
    (run : Run (UnnestedStep wl oneshot) (.new wl context) actions st) :
    Run (Step wl oneshot) (.new wl context) actions st ∧ st.stack.Pairwise Frame.Apart := by
  generalize start : State.new wl context = first at run
  induction run with
  | nil =>
      subst start
      exact ⟨.nil, .nil⟩
  | snoc _ taken ih =>
      obtain ⟨kept, apart⟩ := ih
      subst start
      have sound := run_sound lists kept
      exact ⟨kept.snoc (taken.spares lists sound apart), taken.apart lists sound apart⟩

end Westonite.Listeners
