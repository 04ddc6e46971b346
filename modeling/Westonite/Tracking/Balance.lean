import Westonite.Registry.LiveBijection
import Westonite.Tracking.Wrapper

/-! Acquisitions and their holders: what balances the counts of the wrapper with
the focus slots of the shell, and what each operation of the wrapper does to it. -/

set_option autoImplicit false

namespace Westonite.Tracking

open Library Registry

/-- How many seats have the surface in their focus slot. -/
def holders (focus : AssocMap SeatId SurfaceId) (id : SurfaceId) : Nat :=
  focus.count fun _ held => held = id

/-- An acquisition that is in no slot. -/
def owed (extra : Option SurfaceId) (id : SurfaceId) : Nat := if extra = some id then 1 else 0

/-- The counts cover the slots and what is owed. Every id that is held resolves, or
its death is queued, or the listener that queues it is about to fire. -/
structure Balanced (firing : List SurfaceId) (extra : Option SurfaceId)
    (focus : AssocMap SeatId SurfaceId) (w : Wrapper) : Prop where
  valid : w.surfaces.WellFormed
  counted : ∀ id ptr, w.surfaces.resolve id.raw = some ptr →
    w.trackCounts id.raw = some (holders focus id + owed extra id)
  positive : ∀ id ptr, w.surfaces.resolve id.raw = some ptr → 0 < holders focus id + owed extra id
  small : ∀ id ptr, w.surfaces.resolve id.raw = some ptr →
    holders focus id + owed extra id < u32Size
  listened : ∀ listener, listener ∈ w.listeners ↔
    w.surfaces.resolve listener.id.raw = some listener.key
  distinct : w.listeners.Nodup
  retired : ∀ listener ∈ w.pendingDrop, w.surfaces.resolve listener.id.raw = none
  gone : ∀ id main, .trackedSurfaceGone id main ∈ w.queue → w.surfaces.resolve id.raw = none
  announced : ∀ id, (∃ seat, focus.lookup seat = some id) ∨ extra = some id →
    (∃ ptr, w.surfaces.resolve id.raw = some ptr) ∨
      (∃ main, .trackedSurfaceGone id main ∈ w.queue) ∨ id ∈ firing

variable {focus : AssocMap SeatId SurfaceId} {w : Wrapper} {firing : List SurfaceId}
  {extra : Option SurfaceId}

theorem owed_self (id : SurfaceId) : owed (some id) id = 1 := if_pos rfl

theorem owed_other {id other : SurfaceId} (different : other ≠ id) :
    owed (some id) other = owed none other := by
  unfold owed
  rw [if_neg, if_neg nofun]
  exact fun same => different (Option.some.inj same).symm

theorem raw_injective {id other : SurfaceId} (same : id.raw = other.raw) : id = other := by
  cases id
  cases other
  exact congrArg SurfaceId.mk same

/-- A surface is registered under one id. -/
theorem Balanced.unique (balanced : Balanced firing extra focus w) {id other : SurfaceId}
    {ptr : SurfacePtr} (one : w.surfaces.resolve id.raw = some ptr)
    (two : w.surfaces.resolve other.raw = some ptr) : id = other :=
  raw_injective (SlotTable.resolve_injective balanced.valid one two)

/-! ### Slots -/

theorem holders_erase (focus : AssocMap SeatId SurfaceId) (seat : SeatId) (id : SurfaceId) :
    holders (focus.erase seat) id + owed (focus.lookup seat) id = holders focus id := by
  unfold holders owed
  cases found : focus.lookup seat with
  | none => rw [AssocMap.erase_eq_self found, if_neg nofun, Nat.add_zero]
  | some old =>
      rw [AssocMap.count_erase found]
      by_cases same : old = id <;> simp [same]

theorem holders_insert (focus : AssocMap SeatId SurfaceId) (seat : SeatId) (es id : SurfaceId) :
    holders (focus.insert seat es) id + owed (focus.lookup seat) id =
      holders focus id + owed (some es) id := by
  have erased := holders_erase focus seat id
  have inserted := AssocMap.count_insert focus seat es fun _ held => held = id
  unfold holders owed at *
  rw [inserted]
  by_cases same : es = id <;> simp only [same, decide_true, decide_false, Bool.toNat_true,
    Bool.toNat_false, Option.some.injEq, if_true, if_false] <;> omega

theorem holders_pos_iff {id : SurfaceId} :
    0 < holders focus id ↔ ∃ seat, focus.lookup seat = some id := by
  unfold holders
  rw [AssocMap.count_pos_iff]
  constructor
  · intro held
    obtain ⟨seat, value, found, same⟩ := held
    exact ⟨seat, by rw [found, of_decide_eq_true same]⟩
  · intro held
    obtain ⟨seat, found⟩ := held
    exact ⟨seat, id, found, by simp⟩

/-- The same sums over other slots. -/
theorem Balanced.of_slots {other : AssocMap SeatId SurfaceId} {owing : Option SurfaceId}
    (balanced : Balanced firing extra focus w)
    (sums : ∀ id, holders other id + owed owing id = holders focus id + owed extra id)
    (held : ∀ id, (∃ seat, other.lookup seat = some id) ∨ owing = some id →
      (∃ seat, focus.lookup seat = some id) ∨ extra = some id) :
    Balanced firing owing other w where
  valid := balanced.valid
  counted id ptr live := by
    rw [sums]
    exact balanced.counted id ptr live
  positive id ptr live := by
    rw [sums]
    exact balanced.positive id ptr live
  small id ptr live := by
    rw [sums]
    exact balanced.small id ptr live
  listened := balanced.listened
  distinct := balanced.distinct
  retired := balanced.retired
  gone := balanced.gone
  announced id holds := balanced.announced id (held id holds)

/-- An acquisition goes into the slot of a seat, and what was there is owed. -/
theorem Balanced.store {es : SurfaceId} (balanced : Balanced firing (some es) focus w)
    (seat : SeatId) : Balanced firing (focus.lookup seat) (focus.insert seat es) w := by
  apply balanced.of_slots (holders_insert focus seat es)
  intro id holds
  cases holds with
  | inl slot =>
      obtain ⟨other, found⟩ := slot
      rw [AssocMap.lookup_insert] at found
      split at found
      · exact .inr found
      · exact .inl ⟨other, found⟩
  | inr old => exact .inl ⟨seat, old⟩

/-- The slot of a seat is emptied, and what was there is owed. -/
theorem Balanced.take (balanced : Balanced firing none focus w) (seat : SeatId) :
    Balanced firing (focus.lookup seat) (focus.erase seat) w := by
  apply balanced.of_slots
  · intro id
    rw [holders_erase]
    rfl
  · intro id holds
    cases holds with
    | inl slot =>
        obtain ⟨other, found⟩ := slot
        exact .inl ⟨other, (AssocMap.lookup_erase_eq_some.mp found).2⟩
    | inr old => exact .inl ⟨seat, old⟩

/-! ### Releases and deaths -/

/-- The registry loses a surface, and its listener waits for the drop. -/
structure Forgot (w after : Wrapper) (ptr : SurfacePtr) (id : RawId) : Prop where
  valid : after.surfaces.WellFormed
  resolve : ∀ other place, after.surfaces.resolve other = some place ↔
    w.surfaces.resolve other = some place ∧ place ≠ ptr
  trackCounts : after.trackCounts = Function.update w.trackCounts id none
  listeners : ∀ listener, listener ∈ after.listeners ↔ listener ∈ w.listeners ∧ listener.key ≠ ptr
  distinct : after.listeners.Nodup
  pendingDrop : ∀ listener ∈ after.pendingDrop,
    listener ∈ w.pendingDrop ∨ listener ∈ w.listeners ∧ listener.key = ptr
  queue : after.queue = w.queue

private theorem Balanced.forgot (balanced : Balanced firing extra focus w) (ptr : SurfacePtr)
    (id : RawId) : Forgot w (w.forget ptr id) ptr id := by
  obtain ⟨valid, resolve⟩ := SlotTable.invalidatePtr_resolve balanced.valid ptr
  have unique : ∀ listener ∈ w.listeners, ∀ other ∈ w.listeners, listener.key = ptr →
      other.key = ptr → listener = other := by
    intro listener member other otherMember here otherHere
    have sameKey := here.trans otherHere.symm
    have one := (balanced.listened listener).mp member
    have two := (balanced.listened other).mp otherMember
    have sameId := balanced.unique (sameKey ▸ one) two
    cases listener
    cases other
    exact congrArg₂ SurfaceListener.mk sameKey sameId
  unfold Wrapper.forget Wrapper.retireListener
  split
  · rename_i absent
    rw [List.findIdx?_eq_none_iff] at absent
    refine ⟨valid, resolve, rfl, ?_, balanced.distinct, fun _ => .inl, rfl⟩
    intro listener
    constructor
    · intro member
      exact ⟨member, by simpa using absent listener member⟩
    · exact And.left
  · rename_i i located
    obtain ⟨inside, matched, _⟩ := List.findIdx?_eq_some_iff_getElem.mp located
    split
    · rename_i outside
      rw [List.getElem?_eq_getElem inside] at outside
      cases outside
    · rename_i listener found
      have here : listener.key = ptr := by
        rw [List.getElem?_eq_getElem inside] at found
        rw [← Option.some.inj found]
        simpa using matched
      have member : listener ∈ w.listeners := List.mem_of_getElem? found
      have perm := swapRemove_perm found
      have apart := perm.nodup_iff.mpr balanced.distinct
      rw [List.nodup_cons] at apart
      refine ⟨valid, resolve, rfl, ?_, apart.2, ?_, rfl⟩
      · intro other
        constructor
        · intro kept
          have old : other ∈ w.listeners := perm.mem_iff.mp (.tail listener kept)
          refine ⟨old, ?_⟩
          intro there
          rw [unique other old listener member there here] at kept
          exact apart.1 kept
        · intro kept
          obtain ⟨old, elsewhere⟩ := kept
          cases List.mem_cons.mp (perm.mem_iff.mpr old) with
          | inl same => exact absurd (same ▸ here) elsewhere
          | inr rest => exact rest
      · intro other dropped
        cases List.mem_append.mp dropped with
        | inl old => exact .inl old
        | inr new =>
            obtain rfl := List.mem_singleton.mp new
            exact .inr ⟨member, here⟩

theorem Forgot.listened {after : Wrapper} {ptr : SurfacePtr} {id : RawId}
    (forgot : Forgot w after ptr id) (balanced : Balanced firing extra focus w)
    (listener : SurfaceListener) :
    listener ∈ after.listeners ↔
      after.surfaces.resolve listener.id.raw = some listener.key := by
  rw [forgot.listeners, forgot.resolve, balanced.listened]

theorem Forgot.stale {after : Wrapper} {ptr : SurfacePtr} {id : RawId}
    (forgot : Forgot w after ptr id) {other : RawId}
    (before : w.surfaces.resolve other = none ∨ w.surfaces.resolve other = some ptr) :
    after.surfaces.resolve other = none := by
  cases found : after.surfaces.resolve other with
  | none => rfl
  | some place =>
      obtain ⟨live, elsewhere⟩ := (forgot.resolve other place).mp found
      cases before with
      | inl stale =>
          rw [stale] at live
          cases live
      | inr here =>
          rw [here] at live
          exact absurd (Option.some.inj live).symm elsewhere

theorem Forgot.retired {after : Wrapper} {ptr : SurfacePtr} {id : RawId}
    (forgot : Forgot w after ptr id) (balanced : Balanced firing extra focus w) :
    ∀ listener ∈ after.pendingDrop, after.surfaces.resolve listener.id.raw = none := by
  intro listener member
  apply forgot.stale
  cases forgot.pendingDrop listener member with
  | inl old => exact .inl (balanced.retired listener old)
  | inr owned => exact .inr (owned.2 ▸ (balanced.listened listener).mp owned.1)

/-- The count of an id that still resolves is not the one that went. -/
theorem Forgot.counted {after : Wrapper} {ptr place : SurfacePtr} {id other : SurfaceId}
    (forgot : Forgot w after ptr id.raw)
    (here : w.surfaces.resolve id.raw = none ∨ w.surfaces.resolve id.raw = some ptr)
    (live : after.surfaces.resolve other.raw = some place) :
    other ≠ id ∧ after.trackCounts other.raw = w.trackCounts other.raw := by
  have different : other ≠ id := by
    intro same
    rw [same, forgot.stale here] at live
    cases live
  refine ⟨different, ?_⟩
  rw [forgot.trackCounts, Function.update_of_ne]
  exact fun same => different (raw_injective same)

/-- What is owed to a surface that is gone counts nowhere. -/
private theorem Balanced.staleRelease {old : SurfaceId}
    (balanced : Balanced firing (some old) focus w)
    (stale : w.surfaces.resolve old.raw = none) : Balanced firing none focus w := by
  have other : ∀ id ptr, w.surfaces.resolve id.raw = some ptr → id ≠ old := by
    intro id ptr live same
    rw [same, stale] at live
    cases live
  refine { balanced with counted := ?_, positive := ?_, small := ?_, announced := ?_ }
  · intro id ptr live
    rw [← owed_other (other id ptr live)]
    exact balanced.counted id ptr live
  · intro id ptr live
    rw [← owed_other (other id ptr live)]
    exact balanced.positive id ptr live
  · intro id ptr live
    rw [← owed_other (other id ptr live)]
    exact balanced.small id ptr live
  · exact fun other holds => balanced.announced other (holds.imp id nofun)

/-- A slot still holds the surface. -/
private theorem Balanced.sharedRelease {old : SurfaceId}
    (balanced : Balanced firing (some old) focus w)
    {ptr : SurfacePtr} (live : w.surfaces.resolve old.raw = some ptr)
    (left : 0 < holders focus old) :
    Balanced firing none focus (w.setCount old.raw (some (holders focus old))) := by
  refine { balanced with counted := ?_, positive := ?_, small := ?_, announced := ?_ }
  · intro id place alive
    by_cases here : id = old
    · rw [here]
      exact Function.update_self old.raw _ w.trackCounts
    · rw [← owed_other here, ← balanced.counted id place alive]
      exact Function.update_of_ne (fun same => here (raw_injective same)) _ _
  · intro id place alive
    by_cases here : id = old
    · rw [here]
      exact left
    · rw [← owed_other here]
      exact balanced.positive id place alive
  · intro id place alive
    by_cases here : id = old
    · have small := balanced.small old ptr live
      rw [owed_self] at small
      rw [here]
      exact Nat.lt_of_succ_lt small
    · rw [← owed_other here]
      exact balanced.small id place alive
  · exact fun other holds => balanced.announced other (holds.imp id nofun)

/-- No slot holds the surface any more, which is forgotten. -/
private theorem Balanced.lastRelease {old : SurfaceId}
    (balanced : Balanced firing (some old) focus w)
    {ptr : SurfacePtr} (live : w.surfaces.resolve old.raw = some ptr)
    (last : ¬ 0 < holders focus old) :
    Balanced firing none focus (w.forget ptr old.raw) := by
  have forgot := balanced.forgot ptr old.raw
  have unheld : ¬ ∃ seat, focus.lookup seat = some old := by
    rw [← holders_pos_iff]
    exact last
  refine ⟨forgot.valid, ?_, ?_, ?_, forgot.listened balanced, forgot.distinct,
    forgot.retired balanced, ?_, ?_⟩
  · intro id place alive
    obtain ⟨different, same⟩ := forgot.counted (.inr live) alive
    rw [same, ← owed_other different]
    exact balanced.counted id place ((forgot.resolve _ _).mp alive).1
  · intro id place alive
    obtain ⟨different, _⟩ := forgot.counted (.inr live) alive
    rw [← owed_other different]
    exact balanced.positive id place ((forgot.resolve _ _).mp alive).1
  · intro id place alive
    obtain ⟨different, _⟩ := forgot.counted (.inr live) alive
    rw [← owed_other different]
    exact balanced.small id place ((forgot.resolve _ _).mp alive).1
  · intro id main queued
    rw [forgot.queue] at queued
    exact forgot.stale (.inl (balanced.gone id main queued))
  · intro id holds
    rw [forgot.queue]
    cases holds with
    | inr impossible => cases impossible
    | inl slot =>
        cases balanced.announced id (.inl slot) with
        | inr told => exact .inr told
        | inl alive =>
            obtain ⟨place, alive⟩ := alive
            refine .inl ⟨place, (forgot.resolve _ _).mpr ⟨alive, ?_⟩⟩
            intro same
            exact unheld (balanced.unique (same ▸ alive) live ▸ slot)

/-- A release of what is owed. -/
theorem Balanced.untrackSurface {old : SurfaceId}
    (balanced : Balanced firing (some old) focus w) :
    Balanced firing none focus (w.untrackSurface old) := by
  unfold Wrapper.untrackSurface
  split
  · rename_i stale
    exact balanced.staleRelease stale
  · rename_i ptr live
    have count := balanced.counted old ptr live
    rw [owed_self] at count
    rw [count, Option.getD_some, Nat.add_sub_cancel]
    dsimp only
    split
    · rename_i left
      exact balanced.sharedRelease live left
    · rename_i last
      exact balanced.lastRelease live last

/-- One listener of a dying surface has fired. -/
theorem Balanced.surfaceGone {ptr : SurfacePtr} {main : Option DesktopSurfaceId} {id : SurfaceId}
    (balanced : Balanced (id :: firing) extra focus w)
    (here : w.surfaces.resolve id.raw = none ∨ w.surfaces.resolve id.raw = some ptr)
    (covered : ∀ other, w.surfaces.resolve other.raw = some ptr → other ∈ id :: firing) :
    Balanced firing extra focus (w.surfaceGone ptr main id) := by
  have forgot := balanced.forgot ptr id.raw
  have queue : (w.surfaceGone ptr main id).queue = w.queue ++ [.trackedSurfaceGone id main] := by
    rw [← forgot.queue]
    rfl
  refine ⟨forgot.valid, ?_, ?_, ?_, forgot.listened balanced, forgot.distinct,
    forgot.retired balanced, ?_, ?_⟩
  · intro other place alive
    obtain ⟨_, same⟩ := forgot.counted here alive
    exact same.trans (balanced.counted other place ((forgot.resolve _ _).mp alive).1)
  · intro other place alive
    exact balanced.positive other place ((forgot.resolve _ _).mp alive).1
  · intro other place alive
    exact balanced.small other place ((forgot.resolve _ _).mp alive).1
  · intro other otherMain queued
    rw [queue, List.mem_append, List.mem_singleton] at queued
    cases queued with
    | inl old => exact forgot.stale (.inl (balanced.gone other otherMain old))
    | inr new =>
        obtain ⟨rfl, _⟩ := Event.trackedSurfaceGone.inj new
        exact forgot.stale here
  · intro other holds
    rw [queue]
    have told : ∀ {claimed : SurfaceId}, claimed ∈ id :: firing →
        (∃ main', Event.trackedSurfaceGone claimed main' ∈
          w.queue ++ [.trackedSurfaceGone id main]) ∨ claimed ∈ firing := by
      intro claimed member
      cases List.mem_cons.mp member with
      | inl same => exact .inl ⟨main, by simp [same]⟩
      | inr rest => exact .inr rest
    rcases balanced.announced other holds with ⟨place, alive⟩ | ⟨otherMain, queued⟩ | waits
    · by_cases dying : place = ptr
      · exact .inr (told (covered other (dying ▸ alive)))
      · exact .inl ⟨place, (forgot.resolve _ _).mpr ⟨alive, dying⟩⟩
    · exact .inr (.inl ⟨otherMain, List.mem_append_left _ queued⟩)
    · exact .inr (told waits)

theorem Balanced.destroySurface (balanced : Balanced [] extra focus w) (ptr : SurfacePtr)
    (main : Option DesktopSurfaceId) : Balanced [] extra focus (w.destroySurface ptr main) := by
  have fired : ∀ (attached : List SurfaceListener) (w : Wrapper),
      Balanced (attached.map SurfaceListener.id) extra focus w →
      (∀ listener ∈ attached, w.surfaces.resolve listener.id.raw = none ∨
        w.surfaces.resolve listener.id.raw = some ptr) →
      (∀ other, w.surfaces.resolve other.raw = some ptr →
        other ∈ attached.map SurfaceListener.id) →
      Balanced [] extra focus
        (attached.foldl (fun w listener => w.surfaceGone ptr main listener.id) w) := by
    intro attached
    induction attached with
    | nil => exact fun _ balanced _ _ => balanced
    | cons listener attached ih =>
        intro w balanced here covered
        have forgot := balanced.forgot ptr listener.id.raw
        apply ih _ (balanced.surfaceGone (here listener List.mem_cons_self) covered)
        · intro other member
          exact .inl (forgot.stale (here other (.tail listener member)))
        · intro other alive
          exact absurd rfl ((forgot.resolve other.raw ptr).mp alive).2
  let attached := (w.pendingDrop ++ w.listeners).filter fun listener => listener.key = ptr
  have waiting : Balanced (attached.map SurfaceListener.id) extra focus w :=
    { balanced with
      announced := by
        intro id holds
        rcases balanced.announced id holds with alive | queued | impossible
        · exact .inl alive
        · exact .inr (.inl queued)
        · cases impossible }
  have settled : Balanced [] extra focus
      (attached.foldl (fun w listener => w.surfaceGone ptr main listener.id) w) := by
    apply fired attached w waiting
    · intro listener member
      obtain ⟨member, there⟩ := List.mem_filter.mp member
      cases List.mem_append.mp member with
      | inl retired => exact .inl (balanced.retired listener retired)
      | inr owned =>
          have live := (balanced.listened listener).mp owned
          rw [of_decide_eq_true there] at live
          exact .inr live
    · intro other alive
      have owned := (balanced.listened ⟨ptr, other⟩).mpr alive
      have member : ⟨ptr, other⟩ ∈ attached :=
        List.mem_filter.mpr ⟨List.mem_append_right _ owned, decide_eq_true rfl⟩
      exact List.mem_map.mpr ⟨⟨ptr, other⟩, member, rfl⟩
  exact { settled with
    retired := fun listener member => settled.retired listener (List.mem_filter.mp member).1 }

end Westonite.Tracking
