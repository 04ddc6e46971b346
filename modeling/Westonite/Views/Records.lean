import Westonite.Registry.LiveBijection
import Westonite.Views.Wrapper

/-! A view is backed by the record of a live id until it is destroyed, whatever the
wrapper does. -/

set_option autoImplicit false

namespace Westonite.Views

open Library Registry

/-- The calls that take the views of a list down. -/
def takeDown (views : List ViewId) : List ViewCall :=
  views.flatMap fun view => [.unlink view, .destroy view]

private theorem takeDown_snoc (views : List ViewId) (view : ViewId) :
    takeDown (views ++ [view]) = takeDown views ++ [.unlink view, .destroy view] := by
  unfold takeDown
  rw [List.flatMap_append]
  rfl

theorem destroy_mem_takeDown {views : List ViewId} {view : ViewId} :
    .destroy view ∈ takeDown views ↔ view ∈ views := by
  simp [takeDown]

theorem count_takeDown (views : List ViewId) (view : ViewId) :
    (takeDown views).count (.unlink view) = views.count view ∧
      (takeDown views).count (.destroy view) = views.count view := by
  induction views with
  | nil => exact ⟨rfl, rfl⟩
  | cons head views ih =>
      have calls : takeDown (head :: views) = .unlink head :: .destroy head :: takeDown views := rfl
      rw [calls]
      by_cases same : head = view <;> simp [ih.1, ih.2, same]

namespace Wrapper

/-- A view that is destroyed. -/
def Gone (w : Wrapper) (view : ViewId) : Prop := .destroy view ∈ w.calls

private theorem gone_destroyView {w : Wrapper} {made view : ViewId} :
    (w.destroyView made).Gone view ↔ w.Gone view ∨ view = made := by
  simp [Gone, destroyView]

end Wrapper

/-- What holds of the wrapper between any two of its operations. -/
structure Sound (w : Wrapper) : Prop where
  valid : w.desktopSurfaces.WellFormed
  present : ∀ id ptr, w.desktopSurfaces.resolve id = some ptr → w.presence ptr ≠ .absent
  log : ∃ gone : List ViewId, gone.Nodup ∧ w.calls = takeDown gone
  old : ∀ view, w.Gone view → view < w.nextView
  /-- A record is of a live id, and of a view that is there. -/
  backed : ∀ id view, w.surfaceRecs.lookup id = some view →
    view < w.nextView ∧ ¬ w.Gone view ∧ ∃ ptr, w.desktopSurfaces.resolve id.raw = some ptr
  distinct : ∀ id other view, w.surfaceRecs.lookup id = some view →
    w.surfaceRecs.lookup other = some view → id = other
  shown : ∀ ptr view, w.viewOf ptr = some view → w.Gone view ∨
    ∃ id, w.desktopSurfaces.resolve id = some ptr ∧ w.surfaceRecs.lookup ⟨id⟩ = some view
  listed : ∀ id view, (id, view) ∈ w.registered →
    w.surfaceRecs.lookup id = some view ∨ w.Gone view
  settled : ∀ view ∈ w.removed, w.Gone view

/-- What stays so from one state of the wrapper to every later one. -/
structure Later (before after : Wrapper) : Prop where
  gone : ∀ view, before.Gone view → after.Gone view
  registered : ∀ entry ∈ before.registered, entry ∈ after.registered

/-- A surface whose removal is called back, under its id. -/
def Wrapper.Leaving (w : Wrapper) (ptr : SurfacePtr) (id : RawId) : Prop :=
  w.presence ptr = .leaving ∧ w.desktopSurfaces.resolve id = some ptr

/-- The presence of another surface changes. -/
theorem Wrapper.Leaving.setPresence {w : Wrapper} {other : SurfacePtr} {id : RawId}
    (leaving : w.Leaving other id) {ptr : SurfacePtr} (elsewhere : other ≠ ptr)
    (presence : Presence) : (w.setPresence ptr presence).Leaving other id := by
  refine ⟨?_, leaving.2⟩
  unfold Wrapper.setPresence
  dsimp only
  rw [Function.update_of_ne elsewhere]
  exact leaving.1

/-- What an operation inside a callback keeps. -/
structure Kept (before after : Wrapper) : Prop where
  sound : Sound after
  later : Later before after
  leaving : ∀ ptr id, before.Leaving ptr id → after.Leaving ptr id

namespace Later

theorem refl (w : Wrapper) : Later w w :=
  ⟨fun _ => id, fun _ => id⟩

theorem trans {first second third : Wrapper} (left : Later first second)
    (right : Later second third) : Later first third :=
  ⟨fun view gone => right.gone view (left.gone view gone),
    fun entry member => right.registered entry (left.registered entry member)⟩

end Later

namespace Kept

theorem refl {w : Wrapper} (sound : Sound w) : Kept w w :=
  ⟨sound, .refl w, fun _ _ => id⟩

theorem trans {first second third : Wrapper} (left : Kept first second)
    (right : Kept second third) : Kept first third :=
  ⟨right.sound, left.later.trans right.later,
    fun ptr id leaving => right.leaving ptr id (left.leaving ptr id leaving)⟩

end Kept

namespace Sound

variable {w : Wrapper}

theorem new : Sound .new where
  valid := SlotTable.default_wellFormed
  present _ _ resolved := by cases resolved
  log := ⟨[], .nil, rfl⟩
  old _ gone := by cases gone
  backed _ _ found := by cases found
  distinct _ _ _ found := by cases found
  shown _ _ found := by cases found
  listed _ _ member := by cases member
  settled _ member := by cases member

/-- Neither the queue nor the shutting down matters. -/
theorem queued (sound : Sound w) (queue : List Event) (shuttingDown : Bool) :
    Sound { w with queue, shuttingDown } :=
  ⟨sound.valid, sound.present, sound.log, sound.old, sound.backed, sound.distinct, sound.shown,
    sound.listed, sound.settled⟩

theorem enqueue (sound : Sound w) (ev : Event) : Kept w (w.enqueue ev) := by
  unfold Wrapper.enqueue
  split
  · exact .refl sound
  · exact ⟨sound.queued _ _, ⟨fun _ => id, fun _ => id⟩, fun _ _ => id⟩

theorem setPresence (sound : Sound w) (ptr : SurfacePtr) {presence : Presence}
    (there : presence ≠ .absent) : Sound (w.setPresence ptr presence) where
  valid := sound.valid
  present id other resolved := by
    unfold Wrapper.setPresence
    dsimp only
    by_cases here : other = ptr
    · rw [here, Function.update_self]
      exact there
    · rw [Function.update_of_ne here]
      exact sound.present id other resolved
  log := sound.log
  old := sound.old
  backed := sound.backed
  distinct := sound.distinct
  shown := sound.shown
  listed := sound.listed
  settled := sound.settled

/-- A view that is there is taken down once. -/
private theorem log_destroyView (sound : Sound w) {view : ViewId} (there : ¬ w.Gone view) :
    ∃ gone : List ViewId, gone.Nodup ∧
      w.calls ++ [.unlink view, .destroy view] = takeDown gone := by
  obtain ⟨gone, nodup, calls⟩ := sound.log
  unfold Wrapper.Gone at there
  rw [calls, destroy_mem_takeDown] at there
  exact ⟨gone ++ [view], nodup.append (List.nodup_singleton view)
    (List.disjoint_singleton.mpr there), by rw [calls, takeDown_snoc]⟩

/-! ### Records -/

theorem destroySurfaceState (sound : Sound w) (id : DesktopSurfaceId) :
    Kept w (w.destroySurfaceState id) := by
  unfold Wrapper.destroySurfaceState
  split
  · exact .refl sound
  · rename_i view found
    obtain ⟨made, there, _⟩ := sound.backed id view found
    have kept : ∀ other shown, AList.lookup other (w.surfaceRecs.erase id) = some shown →
        other ≠ id ∧ shown ≠ view ∧ w.surfaceRecs.lookup other = some shown := by
      intro other shown after
      obtain ⟨elsewhere, before⟩ := AssocMap.lookup_erase_eq_some.mp after
      refine ⟨elsewhere, ?_, before⟩
      rintro rfl
      exact elsewhere (sound.distinct _ _ _ before found)
    have stays : ∀ other shown, w.surfaceRecs.lookup other = some shown → shown ≠ view →
        AList.lookup other (w.surfaceRecs.erase id) = some shown := by
      intro other shown before different
      rw [AssocMap.lookup_erase, if_neg]
      · exact before
      · rintro rfl
        exact different (Option.some.inj (before.symm.trans found))
    refine ⟨?_, ⟨fun _ gone => Wrapper.gone_destroyView.mpr (.inl gone), fun _ member => member⟩,
      fun _ _ leaving => leaving⟩
    constructor
    case valid => exact sound.valid
    case present => exact sound.present
    case log => exact sound.log_destroyView there
    case old =>
      intro other gone
      rcases Wrapper.gone_destroyView.mp gone with gone | rfl
      · exact sound.old other gone
      · exact made
    case backed =>
      intro other shown after
      obtain ⟨_, different, before⟩ := kept other shown after
      obtain ⟨old, present, live⟩ := sound.backed other shown before
      refine ⟨old, ?_, live⟩
      intro gone
      rcases Wrapper.gone_destroyView.mp gone with gone | same
      · exact present gone
      · exact different same
    case distinct =>
      intro first second shown left right
      exact sound.distinct first second shown (kept first shown left).2.2
        (kept second shown right).2.2
    case shown =>
      intro ptr shown of
      rw [Wrapper.gone_destroyView]
      rcases sound.shown ptr shown of with gone | ⟨other, resolved, before⟩
      · exact .inl (.inl gone)
      · by_cases same : shown = view
        · exact .inl (.inr same)
        · exact .inr ⟨other, resolved, stays _ shown before same⟩
    case listed =>
      intro other shown member
      rw [Wrapper.gone_destroyView]
      rcases sound.listed other shown member with before | gone
      · by_cases same : shown = view
        · exact .inr (.inr same)
        · exact .inl (stays other shown before same)
      · exact .inr (.inl gone)
    case settled =>
      intro shown member
      exact Wrapper.gone_destroyView.mpr (.inl (sound.settled shown member))

/-- Every view that was registered under the id is destroyed by then. -/
theorem gone_destroySurfaceState (sound : Sound w) {id : DesktopSurfaceId} {view : ViewId}
    (listed : (id, view) ∈ w.registered) : (w.destroySurfaceState id).Gone view := by
  unfold Wrapper.destroySurfaceState
  rcases sound.listed id view listed with found | gone
  · rw [found]
    exact Wrapper.gone_destroyView.mpr (.inr rfl)
  · split
    · exact gone
    · exact Wrapper.gone_destroyView.mpr (.inl gone)

private theorem lookup_destroySurfaceState (w : Wrapper) (id : DesktopSurfaceId) :
    (w.destroySurfaceState id).surfaceRecs.lookup id = none := by
  unfold Wrapper.destroySurfaceState
  split
  · assumption
  · change AList.lookup id (w.surfaceRecs.erase id) = none
    rw [AssocMap.lookup_erase, if_pos rfl]

/-! ### Callbacks -/

private theorem nextView_there (sound : Sound w) : ¬ w.Gone w.nextView :=
  fun gone => Nat.lt_irrefl _ (sound.old _ gone)

private theorem viewOf_makeView {ptr other : SurfacePtr} {view : ViewId}
    (of : (w.makeView ptr).viewOf other = some view) :
    other = ptr ∧ view = w.nextView ∨ w.viewOf other = some view := by
  change Function.update w.viewOf ptr (some w.nextView) other = some view at of
  by_cases here : other = ptr
  · rw [here, Function.update_self] at of
    exact .inl ⟨here, (Option.some.inj of).symm⟩
  · rw [Function.update_of_ne here] at of
    exact .inr of

/-- A view without a surface goes as soon as it is made. -/
private theorem makeView_destroyView (sound : Sound w) (ptr : SurfacePtr) :
    Kept w ((w.makeView ptr).destroyView w.nextView) := by
  have gone : ∀ view, ((w.makeView ptr).destroyView w.nextView).Gone view ↔
      w.Gone view ∨ view = w.nextView := fun view => Wrapper.gone_destroyView
  refine ⟨?_, ⟨fun view before => (gone view).mpr (.inl before), fun _ member => member⟩,
    fun _ _ leaving => leaving⟩
  constructor
  case valid => exact sound.valid
  case present => exact sound.present
  case log => exact sound.log_destroyView sound.nextView_there
  case old =>
    intro view after
    rcases (gone view).mp after with before | rfl
    · exact Nat.lt_succ_of_lt (sound.old view before)
    · exact Nat.lt_succ_self _
  case backed =>
    intro id view found
    obtain ⟨made, there, live⟩ := sound.backed id view found
    refine ⟨Nat.lt_succ_of_lt made, ?_, live⟩
    intro after
    rcases (gone view).mp after with before | rfl
    · exact there before
    · exact Nat.lt_irrefl _ made
  case distinct => exact sound.distinct
  case shown =>
    intro other view of
    rw [gone]
    rcases viewOf_makeView of with ⟨_, rfl⟩ | of
    · exact .inl (.inr rfl)
    · exact (sound.shown other view of).imp_left .inl
  case listed =>
    intro id view member
    rw [gone]
    exact (sound.listed id view member).imp_right .inl
  case settled =>
    intro view member
    exact (gone view).mpr (.inl (sound.settled view member))

/-- A view with a surface is recorded under a new id. -/
private theorem makeView_record (sound : Sound w) {ptr : SurfacePtr} {id : RawId}
    {desktopSurfaces : SlotTable SurfacePtr} (there : w.presence ptr ≠ .absent)
    (unregistered : ∀ id, w.desktopSurfaces.resolve id ≠ some ptr)
    (inserted : w.desktopSurfaces.insert ptr = some (id, desktopSurfaces)) :
    Kept w ((w.makeView ptr).record desktopSurfaces ⟨id⟩ w.nextView) := by
  obtain ⟨free, resolve⟩ := SlotTable.insert_resolve sound.valid inserted
  have fresh : w.desktopSurfaces.idOf ptr = none := by
    rw [Option.eq_none_iff_forall_ne_some]
    intro other found
    exact unregistered other ((SlotTable.idOf_eq_some_iff_resolve sound.valid).mp found)
  have minted : desktopSurfaces.resolve id = some ptr := (resolve id).trans (if_pos rfl)
  have stays : ∀ other owner, w.desktopSurfaces.resolve other = some owner →
      desktopSurfaces.resolve other = some owner := by
    intro other owner before
    rw [resolve, if_neg]
    · exact before
    · rintro rfl
      rw [free] at before
      cases before
  have lookup : ∀ other,
      ((w.makeView ptr).record desktopSurfaces ⟨id⟩ w.nextView).surfaceRecs.lookup other =
        if other = ⟨id⟩ then some w.nextView else w.surfaceRecs.lookup other :=
    fun other => AssocMap.lookup_insert w.surfaceRecs ⟨id⟩ other w.nextView
  have recorded : ∀ other view, w.surfaceRecs.lookup other = some view →
      ((w.makeView ptr).record desktopSurfaces ⟨id⟩ w.nextView).surfaceRecs.lookup other =
        some view := by
    intro other view before
    rw [lookup, if_neg]
    · exact before
    · rintro rfl
      obtain ⟨owner, live⟩ := (sound.backed _ _ before).2.2
      rw [free] at live
      cases live
  have recs : ∀ other view,
      ((w.makeView ptr).record desktopSurfaces ⟨id⟩ w.nextView).surfaceRecs.lookup other =
        some view →
      other = ⟨id⟩ ∧ view = w.nextView ∨ w.surfaceRecs.lookup other = some view := by
    intro other view found
    rw [lookup] at found
    split at found
    · exact .inl ⟨‹_›, (Option.some.inj found).symm⟩
    · exact .inr found
  refine ⟨?_, ⟨fun _ gone => gone, fun _ => List.mem_append_left _⟩,
    fun other held leaving => ⟨leaving.1, stays held other leaving.2⟩⟩
  constructor
  case valid => exact SlotTable.insert_wellFormed sound.valid fresh inserted
  case present =>
    intro other owner after
    change desktopSurfaces.resolve other = some owner at after
    rw [resolve] at after
    split at after
    · obtain rfl := Option.some.inj after
      exact there
    · exact sound.present other owner after
  case log => exact sound.log
  case old => exact fun view gone => Nat.lt_succ_of_lt (sound.old view gone)
  case backed =>
    intro other view found
    rcases recs other view found with ⟨rfl, rfl⟩ | before
    · exact ⟨Nat.lt_succ_self _, sound.nextView_there, ptr, minted⟩
    · obtain ⟨made, present, owner, live⟩ := sound.backed other view before
      exact ⟨Nat.lt_succ_of_lt made, present, owner, stays _ _ live⟩
  case distinct =>
    intro first second view left right
    rcases recs first view left with ⟨here, newest⟩ | left
    · rcases recs second view right with ⟨also, _⟩ | right
      · exact here.trans also.symm
      · exact absurd (sound.backed second view right).1 (by simp [newest])
    · rcases recs second view right with ⟨_, newest⟩ | right
      · exact absurd (sound.backed first view left).1 (by simp [newest])
      · exact sound.distinct first second view left right
  case shown =>
    intro other view of
    rcases viewOf_makeView of with ⟨rfl, rfl⟩ | of
    · exact .inr ⟨id, minted, (lookup ⟨id⟩).trans (if_pos rfl)⟩
    · apply (sound.shown other view of).imp_right
      rintro ⟨held, resolved, found⟩
      exact ⟨held, stays _ _ resolved, recorded _ _ found⟩
  case listed =>
    intro other view member
    rcases List.mem_append.mp member with before | last
    · exact (sound.listed other view before).imp_left (recorded other view)
    · rw [List.mem_singleton, Prod.mk.injEq] at last
      obtain ⟨rfl, rfl⟩ := last
      exact .inl ((lookup ⟨id⟩).trans (if_pos rfl))
  case settled => exact sound.settled

/-- A surface comes that was not there, so it has no id. -/
theorem appear (sound : Sound w) {ptr : SurfacePtr} (absent : w.presence ptr = .absent)
    (viewMade surfaceThere : Bool) :
    Kept w ((w.setPresence ptr .present).surfaceAdded ptr viewMade surfaceThere).1 := by
  have unregistered : ∀ id, w.desktopSurfaces.resolve id ≠ some ptr :=
    fun id resolved => sound.present id ptr resolved absent
  have placed : Kept w (w.setPresence ptr .present) := by
    refine ⟨sound.setPresence ptr nofun, ⟨fun _ gone => gone, fun _ member => member⟩, ?_⟩
    intro other held leaving
    apply leaving.setPresence
    rintro rfl
    rw [leaving.1] at absent
    cases absent
  have there : (w.setPresence ptr .present).presence ptr ≠ .absent := by
    simp [Wrapper.setPresence]
  apply placed.trans
  unfold Wrapper.surfaceAdded
  split
  · exact .refl placed.sound
  · split
    · exact placed.sound.makeView_destroyView ptr
    · split
      · exact .refl placed.sound
      · rename_i id desktopSurfaces inserted
        exact placed.sound.makeView_record there unregistered inserted

/-- An id may become stale once it has no record. -/
theorem stale (sound : Sound w) {ptr : SurfacePtr} {id : RawId}
    (resolved : w.desktopSurfaces.resolve id = some ptr)
    (dropped : w.surfaceRecs.lookup ⟨id⟩ = none) :
    Sound { w with desktopSurfaces := (w.desktopSurfaces.invalidatePtr ptr).2 } := by
  obtain ⟨valid, resolve⟩ := SlotTable.invalidatePtr_resolve sound.valid ptr
  have stays : ∀ other view owner, w.surfaceRecs.lookup other = some view →
      w.desktopSurfaces.resolve other.raw = some owner →
      (w.desktopSurfaces.invalidatePtr ptr).2.resolve other.raw = some owner := by
    intro other view owner recorded live
    refine (resolve _ owner).mpr ⟨live, ?_⟩
    rintro rfl
    obtain rfl := SlotTable.resolve_injective sound.valid live resolved
    rw [dropped] at recorded
    cases recorded
  constructor
  case valid => exact valid
  case present =>
    intro other owner after
    exact sound.present other owner ((resolve other owner).mp after).1
  case log => exact sound.log
  case old => exact sound.old
  case backed =>
    intro other view recorded
    obtain ⟨made, present, owner, live⟩ := sound.backed other view recorded
    exact ⟨made, present, owner, stays other view owner recorded live⟩
  case distinct => exact sound.distinct
  case shown =>
    intro other view of
    apply (sound.shown other view of).imp_right
    rintro ⟨held, live, recorded⟩
    exact ⟨held, stays ⟨held⟩ view other recorded live, recorded⟩
  case listed => exact sound.listed
  case settled => exact sound.settled

/-- A surface without an id is freed; the view it had is destroyed by then. -/
theorem depart (sound : Sound w) {ptr : SurfacePtr}
    (unregistered : ∀ id, w.desktopSurfaces.resolve id ≠ some ptr) : Sound (w.depart ptr) := by
  constructor
  case valid => exact sound.valid
  case present =>
    intro id other resolved
    have elsewhere : other ≠ ptr := by
      rintro rfl
      exact unregistered id resolved
    change Function.update w.presence ptr .absent other ≠ .absent
    rw [Function.update_of_ne elsewhere]
    exact sound.present id other resolved
  case log => exact sound.log
  case old => exact sound.old
  case backed => exact sound.backed
  case distinct => exact sound.distinct
  case shown =>
    intro other view of
    change Function.update w.viewOf ptr none other = some view at of
    by_cases here : other = ptr
    · rw [here, Function.update_self] at of
      cases of
    · rw [Function.update_of_ne here] at of
      exact sound.shown other view of
  case listed => exact sound.listed
  case settled =>
    intro view member
    rcases List.mem_append.mp member with before | last
    · exact sound.settled view before
    · rw [Option.mem_toList] at last
      rcases sound.shown ptr view last with gone | ⟨id, resolved, _⟩
      · exact gone
      · exact absurd resolved (unregistered id)

/-- The removal of a registered surface from its dispatch on. -/
theorem surfaceRemoved (sound : Sound w) {ptr : SurfacePtr} {id : RawId}
    (resolved : w.desktopSurfaces.resolve id = some ptr) :
    Sound ((w.surfaceRemoved ptr ⟨id⟩).depart ptr) ∧
      Later w ((w.surfaceRemoved ptr ⟨id⟩).depart ptr) ∧
      ∀ other held, w.Leaving other held → other ≠ ptr →
        ((w.surfaceRemoved ptr ⟨id⟩).depart ptr).Leaving other held := by
  have kept := sound.destroySurfaceState ⟨id⟩
  have dropped := lookup_destroySurfaceState w ⟨id⟩
  have same : (w.destroySurfaceState ⟨id⟩).desktopSurfaces = w.desktopSurfaces := by
    unfold Wrapper.destroySurfaceState
    split <;> rfl
  rw [← same] at resolved
  have resolve := (SlotTable.invalidatePtr_resolve kept.sound.valid ptr).2
  have stale := kept.sound.stale resolved dropped
  have unregistered : ∀ other, (w.surfaceRemoved ptr ⟨id⟩).desktopSurfaces.resolve other ≠
      some ptr := fun other after => ((resolve other ptr).mp after).2 rfl
  refine ⟨stale.depart unregistered, ⟨kept.later.gone, kept.later.registered⟩, ?_⟩
  intro other held leaving elsewhere
  have after := kept.leaving other held leaving
  exact ⟨(after.setPresence elsewhere .absent).1, (resolve held other).mpr ⟨after.2, elsewhere⟩⟩

/-- A callback that finds the slot of the app empty. -/
theorem overhear (sound : Sound w) (happening : Happening) : Kept w (w.overhear happening) := by
  cases happening with
  | added ptr viewMade surfaceThere =>
      unfold Wrapper.overhear
      dsimp only
      cases presence : w.presence ptr with
      | present | leaving => exact .refl sound
      | absent =>
          have appeared := sound.appear presence viewMade surfaceThere
          generalize (w.setPresence ptr .present).surfaceAdded ptr viewMade surfaceThere = result
            at appeared
          obtain ⟨after, announced⟩ := result
          cases announced with
          | none => exact appeared
          | some ev => exact appeared.trans (appeared.sound.enqueue ev)
  | removed ptr =>
      unfold Wrapper.overhear
      dsimp only
      cases presence : w.presence ptr with
      | absent | leaving => exact .refl sound
      | present =>
          have elsewhere : ∀ other held, w.Leaving other held → other ≠ ptr := by
            rintro other held leaving rfl
            rw [leaving.1] at presence
            cases presence
          cases found : w.desktopSurfaces.idOf ptr with
          | none =>
              refine ⟨sound.depart (SlotTable.resolve_ne_of_idOf sound.valid found),
                ⟨fun _ gone => gone, fun _ member => member⟩, ?_⟩
              exact fun other held leaving =>
                leaving.setPresence (elsewhere other held leaving) .absent
          | some id =>
              have waits := sound.enqueue (.surfaceRemoved ⟨id⟩)
              have resolved := (SlotTable.idOf_eq_some_iff_resolve sound.valid).mp found
              have same : (w.enqueue (.surfaceRemoved ⟨id⟩)).desktopSurfaces =
                  w.desktopSurfaces := by
                unfold Wrapper.enqueue
                split <;> rfl
              rw [← same] at resolved
              obtain ⟨removed, later, leaves⟩ := waits.sound.surfaceRemoved resolved
              refine ⟨removed, waits.later.trans later, ?_⟩
              intro other held leaving
              exact leaves other held (waits.leaving other held leaving)
                (elsewhere other held leaving)

end Sound

end Westonite.Views
