import Westonite.Tracking.Balance

/-! What the other operations of the wrapper do to the balance, and what stays
queued through all of them. -/

set_option autoImplicit false

namespace Westonite.Tracking

open Library Registry

variable {focus : AssocMap SeatId SurfaceId} {w : Wrapper} {firing : List SurfaceId}
  {extra : Option SurfaceId}

/-! ### Acquisitions -/

/-- An id that nothing names any more is held by nobody when it is minted again. -/
theorem Balanced.unnamed (balanced : Balanced [] none focus w) {id : SurfaceId}
    (stale : w.surfaces.resolve id.raw = none) (unnamed : w.names id = false) :
    holders focus id = 0 := by
  apply Nat.eq_zero_of_not_pos
  intro held
  rcases balanced.announced id (.inl (holders_pos_iff.mp held)) with
    ⟨ptr, alive⟩ | ⟨main, queued⟩ | impossible
  · rw [stale] at alive
    cases alive
  · unfold Wrapper.names at unnamed
    rw [Bool.or_eq_false_iff, List.any_eq_false] at unnamed
    exact unnamed.1 _ queued (decide_eq_true rfl)
  · cases impossible

/-- One more acquisition of a surface that is tracked. -/
theorem Balanced.acquire (balanced : Balanced [] none focus w) {id : SurfaceId} {ptr : SurfacePtr}
    (live : w.surfaces.resolve id.raw = some ptr)
    (exact : wrappingAdd ((w.trackCounts id.raw).getD 0) 1 ≠ 0) :
    Balanced [] (some id) focus
      (w.setCount id.raw (some (wrappingAdd ((w.trackCounts id.raw).getD 0) 1))) := by
  have small := balanced.small id ptr live
  have count : wrappingAdd ((w.trackCounts id.raw).getD 0) 1 = holders focus id + 1 := by
    rw [balanced.counted id ptr live, Option.getD_some] at exact ⊢
    unfold owed at exact small ⊢
    rw [if_neg nofun] at exact small ⊢
    unfold wrappingAdd u32Size at *
    omega
  have bound : holders focus id + 1 < u32Size := by
    rw [← count]
    exact Nat.mod_lt _ (by decide)
  rw [count]
  refine { balanced with counted := ?_, positive := ?_, small := ?_, announced := ?_ }
  · intro other place alive
    by_cases here : other = id
    · rw [here, owed_self]
      exact Function.update_self id.raw _ w.trackCounts
    · rw [owed_other here, ← balanced.counted other place alive]
      exact Function.update_of_ne (fun equal => here (raw_injective equal)) _ _
  · intro other place alive
    by_cases here : other = id
    · rw [here, owed_self]
      exact Nat.succ_pos _
    · rw [owed_other here]
      exact balanced.positive other place alive
  · intro other place alive
    by_cases here : other = id
    · rw [here, owed_self]
      exact bound
    · rw [owed_other here]
      exact balanced.small other place alive
  · intro other holds
    cases holds with
    | inl slot => exact balanced.announced other (.inl slot)
    | inr new =>
        obtain rfl := Option.some.inj new
        exact .inl ⟨ptr, live⟩

/-- The first acquisition of a surface. -/
theorem Balanced.mint (balanced : Balanced [] none focus w) {es : SurfacePtr} {id : RawId}
    {surfaces : SlotTable SurfacePtr} (absent : w.surfaces.idOf es = none)
    (minted : w.surfaces.insert es = some (id, surfaces)) (unnamed : w.names ⟨id⟩ = false)
    (wrapped : Bool) :
    Balanced [] (some ⟨id⟩) focus
      { w.setCount id (some 1) with
        surfaces
        listeners := w.listeners ++ [⟨es, ⟨id⟩⟩]
        wrapped } := by
  obtain ⟨stale, resolve⟩ := SlotTable.insert_resolve balanced.valid minted
  have none : holders focus ⟨id⟩ = 0 := balanced.unnamed stale unnamed
  have older : ∀ {other : SurfaceId} {place}, surfaces.resolve other.raw = some place →
      other = ⟨id⟩ ∧ place = es ∨ other ≠ ⟨id⟩ ∧ w.surfaces.resolve other.raw = some place := by
    intro other place alive
    rw [resolve] at alive
    split at alive
    · rename_i here
      exact .inl ⟨raw_injective here, (Option.some.inj alive).symm⟩
    · rename_i elsewhere
      exact .inr ⟨fun same => elsewhere (congrArg SurfaceId.raw same), alive⟩
  have unused : ∀ other : SurfaceId, w.surfaces.resolve other.raw = .none → other ≠ ⟨id⟩ →
      surfaces.resolve other.raw = .none := by
    intro other dead different
    rw [resolve, if_neg, dead]
    exact fun same => different (raw_injective same)
  have apart : ∀ other : SurfaceId, w.names other = true → other ≠ ⟨id⟩ := by
    intro other named same
    rw [same, unnamed] at named
    cases named
  refine ⟨SlotTable.insert_wellFormed balanced.valid absent minted, ?_, ?_, ?_, ?_, ?_, ?_, ?_, ?_⟩
  · intro other place alive
    rcases older alive with ⟨rfl, rfl⟩ | ⟨different, alive⟩
    · rw [none, owed_self]
      exact Function.update_self id _ w.trackCounts
    · rw [owed_other different, ← balanced.counted other place alive]
      exact Function.update_of_ne (fun same => different (raw_injective same)) _ _
  · intro other place alive
    rcases older alive with ⟨rfl, rfl⟩ | ⟨different, alive⟩
    · rw [owed_self]
      exact Nat.succ_pos _
    · rw [owed_other different]
      exact balanced.positive other place alive
  · intro other place alive
    rcases older alive with ⟨rfl, rfl⟩ | ⟨different, alive⟩
    · rw [none, owed_self]
      decide
    · rw [owed_other different]
      exact balanced.small other place alive
  · intro listener
    rw [List.mem_append, List.mem_singleton, balanced.listened, resolve]
    by_cases here : listener.id.raw = id
    · rw [if_pos here, here, stale]
      constructor
      · intro either
        cases either with
        | inl impossible => cases impossible
        | inr same => rw [same]
      · intro same
        right
        cases listener
        exact congrArg₂ SurfaceListener.mk (Option.some.inj same).symm (raw_injective here)
    · rw [if_neg here]
      constructor
      · intro either
        cases either with
        | inl live => exact live
        | inr same => exact absurd (congrArg (fun listener => listener.id.raw) same) here
      · exact .inl
  · apply (List.perm_append_singleton _ _).nodup_iff.mpr
    refine List.nodup_cons.mpr ⟨?_, balanced.distinct⟩
    intro member
    have live := (balanced.listened _).mp member
    rw [stale] at live
    cases live
  · intro listener member
    apply unused listener.id (balanced.retired listener member)
    apply apart
    unfold Wrapper.names
    rw [Bool.or_eq_true, List.any_eq_true, List.any_eq_true]
    exact .inr ⟨listener, member, decide_eq_true rfl⟩
  · intro other main queued
    apply unused other (balanced.gone other main queued)
    apply apart
    unfold Wrapper.names
    rw [Bool.or_eq_true, List.any_eq_true, List.any_eq_true]
    exact .inl ⟨_, queued, decide_eq_true rfl⟩
  · intro other holds
    cases holds with
    | inr new =>
        obtain rfl := Option.some.inj new
        exact .inl ⟨es, (resolve id).trans (if_pos rfl)⟩
    | inl slot =>
        rcases balanced.announced other (.inl slot) with ⟨place, alive⟩ | told
        · have different : other.raw ≠ id := by
            intro same
            rw [same, stale] at alive
            cases alive
          exact .inl ⟨place, (resolve other.raw).trans ((if_neg different).trans alive)⟩
        · exact .inr told

theorem Balanced.trackSurface (balanced : Balanced [] none focus w) {es : SurfacePtr}
    (unwrapped : (w.trackSurface es).2.wrapped = false) :
    Balanced [] (w.trackSurface es).1 focus (w.trackSurface es).2 := by
  unfold Wrapper.trackSurface at unwrapped ⊢
  cases located : w.surfaces.idOf es with
  | some existing =>
      rw [located] at unwrapped
      simp only [Bool.or_eq_false_iff, beq_eq_false_iff_ne] at unwrapped
      have live := (SlotTable.idOf_eq_some_iff_resolve balanced.valid).mp located
      have acquired := @Balanced.acquire _ _ balanced ⟨existing⟩ es live unwrapped.2
      exact ⟨acquired.valid, acquired.counted, acquired.positive, acquired.small,
        acquired.listened, acquired.distinct, acquired.retired, acquired.gone, acquired.announced⟩
  | none =>
      rw [located] at unwrapped
      dsimp only at unwrapped ⊢
      cases minted : w.surfaces.insert es with
      | none => exact balanced
      | some result =>
          obtain ⟨id, surfaces⟩ := result
          rw [minted] at unwrapped
          simp only [Bool.or_eq_false_iff] at unwrapped
          exact balanced.mint located minted unwrapped.2 _

/-- What was acquired is live. -/
theorem Balanced.acquired (balanced : Balanced [] none focus w) {es : SurfacePtr} {id : SurfaceId}
    (acquired : (w.trackSurface es).1 = some id) :
    (w.trackSurface es).2.surfaces.resolve id.raw = some es := by
  unfold Wrapper.trackSurface at acquired ⊢
  split at acquired
  · rename_i existing located
    obtain rfl := Option.some.inj acquired
    exact (SlotTable.idOf_eq_some_iff_resolve balanced.valid).mp located
  · split at acquired
    · cases acquired
    · rename_i minted surfaces inserted
      obtain rfl := Option.some.inj acquired
      exact ((SlotTable.insert_resolve balanced.valid inserted).2 minted).trans (if_pos rfl)

/-! ### The other operations -/

/-- An event that is no death joins the queue. -/
theorem Balanced.enqueue (balanced : Balanced firing extra focus w) {ev : Event}
    (other : comesIn ev = true) (seats : SlotTable SeatPtr) :
    Balanced firing extra focus ({ w with seats }.enqueue ev) where
  valid := balanced.valid
  counted := balanced.counted
  positive := balanced.positive
  small := balanced.small
  listened := balanced.listened
  distinct := balanced.distinct
  retired := balanced.retired
  gone id main queued := by
    cases List.mem_append.mp queued with
    | inl old => exact balanced.gone id main old
    | inr new =>
        rw [← List.mem_singleton.mp new] at other
        cases other
  announced id holds := by
    rcases balanced.announced id holds with alive | ⟨main, queued⟩ | waits
    · exact .inl alive
    · exact .inr (.inl ⟨main, List.mem_append_left _ queued⟩)
    · exact .inr (.inr waits)

theorem Balanced.happen (balanced : Balanced [] extra focus w) (happening : Happening) :
    Balanced [] extra focus (w.happen happening) := by
  cases happening with
  | surfaceDestroyed ptr main => exact balanced.destroySurface ptr main
  | seatCreated ptr =>
      change Balanced [] extra focus (w.createSeat ptr)
      unfold Wrapper.createSeat
      split
      · exact balanced
      · split
        · exact balanced
        · exact balanced.enqueue rfl _
  | seatDestroyed ptr =>
      change Balanced [] extra focus (w.destroySeat ptr)
      unfold Wrapper.destroySeat
      split
      · exact balanced
      · exact balanced.enqueue rfl _

theorem Balanced.dropRetired (balanced : Balanced firing extra focus w) :
    Balanced firing extra focus w.dropRetired :=
  { balanced with retired := nofun }

/-- An event has been handled; a death, when no slot holds what died. -/
theorem Balanced.handled (balanced : Balanced [] none focus w) {ev : Event}
    (cleared : ∀ id main, ev = .trackedSurfaceGone id main →
      ∀ seat, focus.lookup seat ≠ some id) :
    Balanced [] none focus { w with queue := w.queue.erase ev } :=
  { balanced with
    gone := fun id main queued => balanced.gone id main (List.mem_of_mem_erase queued)
    announced := by
      intro id holds
      rcases balanced.announced id holds with alive | ⟨main, queued⟩ | impossible
      · exact .inl alive
      · refine .inr (.inl ⟨main, (List.mem_erase_of_ne ?_).mpr queued⟩)
        intro same
        cases holds with
        | inl slot =>
            obtain ⟨seat, found⟩ := slot
            exact cleared id main same.symm seat found
        | inr impossible => cases impossible
      · cases impossible }

/-! ### Waiting events -/

/-- The queue only grows, and a wrap stays on record. -/
structure Later (w after : Wrapper) : Prop where
  queue : ∀ ev ∈ w.queue, ev ∈ after.queue
  wrapped : after.wrapped = false → w.wrapped = false

theorem Later.refl (w : Wrapper) : Later w w := ⟨fun _ => id, id⟩

theorem Later.trans {middle after : Wrapper} (first : Later w middle)
    (second : Later middle after) : Later w after where
  queue ev queued := second.queue ev (first.queue ev queued)
  wrapped unwrapped := first.wrapped (second.wrapped unwrapped)

theorem Later.enqueue {after : Wrapper} (later : Later w after) (ev : Event) :
    Later w (after.enqueue ev) where
  queue other queued := List.mem_append_left _ (later.queue other queued)
  wrapped := later.wrapped

private theorem forget_later (w : Wrapper) (ptr : SurfacePtr) (id : RawId) :
    Later w (w.forget ptr id) := by
  unfold Wrapper.forget Wrapper.retireListener
  split
  · exact ⟨fun _ queued => queued, fun same => same⟩
  · split <;> exact ⟨fun _ queued => queued, fun same => same⟩

theorem untrackSurface_later (w : Wrapper) (id : SurfaceId) : Later w (w.untrackSurface id) := by
  unfold Wrapper.untrackSurface
  split
  · exact .refl w
  · dsimp only
    split
    · exact ⟨fun _ queued => queued, fun same => same⟩
    · exact forget_later w _ id.raw

theorem trackSurface_later (w : Wrapper) (es : SurfacePtr) :
    Later w (w.trackSurface es).2 := by
  unfold Wrapper.trackSurface
  split
  · exact ⟨fun _ queued => queued, fun same => (Bool.or_eq_false_iff.mp same).1⟩
  · split
    · exact .refl w
    · exact ⟨fun _ queued => queued, fun same => (Bool.or_eq_false_iff.mp same).1⟩

private theorem destroySurface_later (w : Wrapper) (ptr : SurfacePtr)
    (main : Option DesktopSurfaceId) : Later w (w.destroySurface ptr main) := by
  have fired : ∀ (attached : List SurfaceListener) (w : Wrapper),
      Later w (attached.foldl (fun w listener => w.surfaceGone ptr main listener.id) w) := by
    intro attached
    induction attached with
    | nil => exact .refl
    | cons listener attached ih =>
        intro w
        exact ((forget_later w ptr listener.id.raw).enqueue _).trans (ih _)
  have later := fired ((w.pendingDrop ++ w.listeners).filter fun listener => listener.key = ptr) w
  exact ⟨later.queue, later.wrapped⟩

theorem happen_later (w : Wrapper) (happening : Happening) : Later w (w.happen happening) := by
  cases happening with
  | surfaceDestroyed ptr main => exact destroySurface_later w ptr main
  | seatCreated ptr =>
      change Later w (w.createSeat ptr)
      unfold Wrapper.createSeat
      split
      · exact .refl w
      · split
        · exact .refl w
        · apply Later.enqueue
          exact ⟨fun _ queued => queued, fun same => same⟩
  | seatDestroyed ptr =>
      change Later w (w.destroySeat ptr)
      unfold Wrapper.destroySeat
      split
      · exact .refl w
      · apply Later.enqueue
        exact ⟨fun _ queued => queued, fun same => same⟩

end Westonite.Tracking
