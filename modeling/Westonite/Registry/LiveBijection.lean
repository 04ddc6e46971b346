import Mathlib.Data.List.Nodup
import Mathlib.Data.PEquiv
import Westonite.Registry.SlotTableProperties

/-! What a slot table is for: a finite one-to-one relation between ids and
pointers that grows by one pair or loses one. The table refines it, and its
history decides when a stale id can come back. -/

set_option autoImplicit false

namespace Westonite.Registry

open Library

variable {Ptr : Type}

/-- One step of the relation between live ids and live pointers. -/
inductive LiveStep (live : RawId ≃. Ptr) : Outcome Ptr → (RawId ≃. Ptr) → Prop where
  | minted {id ptr next} :
      live id = none → live.symm ptr = none →
      (∀ other, next other = if other = id then some ptr else live other) →
      LiveStep live (.minted id ptr) next
  | staled {id ptr next} :
      live id = some ptr →
      (∀ other, next other = if other = id then none else live other) →
      LiveStep live (.staled id ptr) next
  | missed {ptr} : live.symm ptr = none → LiveStep live (.missed ptr) live

namespace SlotTable

variable [DecidableEq Ptr]

/-- The relation a well-formed table stands for: `resolve` one way, `id_of`
the other. -/
def live (table : SlotTable Ptr) (valid : table.WellFormed) : RawId ≃. Ptr where
  toFun := table.resolve
  invFun := table.idOf
  inv _ _ := idOf_eq_some_iff_resolve valid

@[simp] theorem live_apply {table : SlotTable Ptr} (valid : table.WellFormed)
    (id : RawId) : table.live valid id = table.resolve id := rfl

@[simp] theorem live_symm_apply {table : SlotTable Ptr} (valid : table.WellFormed)
    (p : Ptr) : (table.live valid).symm p = table.idOf p := rfl

/-- Two ids of one slot differ in their generations. -/
private theorem generation_ne {id other : RawId} (sameSlot : id.slot = other.slot)
    (different : other ≠ id) : id.generation ≠ other.generation := by
  intro same
  apply different
  cases id
  cases other
  simp only [RawId.mk.injEq]
  exact ⟨sameSlot.symm, same.symm⟩

omit [DecidableEq Ptr] in
theorem insert_resolve {table next : SlotTable Ptr} {p : Ptr} {id : RawId}
    (valid : table.WellFormed) (inserted : table.insert p = some (id, next)) :
    table.resolve id = none ∧
      ∀ other, next.resolve other = if other = id then some p else table.resolve other := by
  rcases insert_cases inserted with
    ⟨s, free, stack, holds, generation, rfl⟩ | ⟨stack, rfl, room, rfl⟩
  · obtain ⟨inside, content⟩ := List.getElem?_eq_some_iff.mp holds
    obtain ⟨empty, held, none⟩ := (valid.memFree id.slot).mp (by simp [stack])
    obtain rfl := holds.unique held
    have before : ∀ q, table.resolve ⟨id.slot, q⟩ = .none := by
      intro q
      unfold resolve
      simp only
      rw [holds]
      simp [none]
    refine ⟨before _, ?_⟩
    intro other
    by_cases sameSlot : id.slot = other.slot
    · by_cases same : other = id
      · subst same
        simp [resolve, inside, generation]
      · have different : s.generation ≠ other.generation :=
          generation ▸ generation_ne sameSlot same
        simp [resolve, ← sameSlot, inside, same, different, content]
    · have same : other ≠ id := fun equal => sameSlot (equal ▸ rfl)
      simp [resolve, sameSlot, same]
  · refine ⟨by simp [resolve], ?_⟩
    intro other
    by_cases inside : other.slot < table.slots.length
    · have same : other ≠ ⟨table.slots.length, 1⟩ := by
        intro equal
        simp [equal] at inside
      simp [resolve, List.getElem?_append, inside, same]
    · by_cases last : other.slot = table.slots.length
      · by_cases first : other.generation = 1
        · have same : other = ⟨table.slots.length, 1⟩ := by
            cases other
            simp_all
          simp [resolve, same]
        · have same : other ≠ ⟨table.slots.length, 1⟩ := by
            intro equal
            simp [equal] at first
          simp [resolve, last, same, Ne.symm first]
      · have same : other ≠ ⟨table.slots.length, 1⟩ := by
          intro equal
          simp [equal] at last
        have outside : other.slot - table.slots.length ≠ 0 := by omega
        simp [resolve, List.getElem?_append, inside, same, outside]

private theorem invalidate_resolve {table next : SlotTable Ptr} {p : Ptr} {id : RawId}
    (invalidated : table.invalidatePtr p = (some id, next)) :
    table.resolve id = some p ∧
      ∀ other, next.resolve other = if other = id then none else table.resolve other := by
  obtain ⟨s, holds, generation, owns, rfl⟩ := invalidatePtr_some_cases invalidated
  have inside : id.slot < table.slots.length := (List.getElem?_eq_some_iff.mp holds).1
  refine ⟨resolve_eq_some_iff.mpr ⟨s, holds, generation, owns⟩, ?_⟩
  intro other
  by_cases sameSlot : id.slot = other.slot
  · have after : resolve
        { slots := table.slots.set id.slot
            { ptr := none, generation := nextGeneration id.generation }
          free := id.slot :: table.free } other = none := by
      simp [resolve, ← sameSlot, inside]
    rw [after]
    by_cases same : other = id
    · simp [same]
    · have different : s.generation ≠ other.generation :=
        generation ▸ generation_ne sameSlot same
      have holdsOther : table.slots[other.slot]? = some s := sameSlot ▸ holds
      simp [resolve, holdsOther, same, different]
  · have same : other ≠ id := fun equal => sameSlot (equal ▸ rfl)
    simp [resolve, sameSlot, same]

/-- Whether or not it was registered, the pointer is gone and the others stay. -/
theorem invalidatePtr_resolve {table : SlotTable Ptr} (valid : table.WellFormed) (p : Ptr) :
    (table.invalidatePtr p).2.WellFormed ∧
      ∀ id owner, (table.invalidatePtr p).2.resolve id = some owner ↔
        table.resolve id = some owner ∧ owner ≠ p := by
  cases result : table.invalidatePtr p with
  | mk staled next =>
      cases staled with
      | none =>
          obtain ⟨rfl, absent⟩ := invalidatePtr_none result
          refine ⟨valid, ?_⟩
          intro id owner
          constructor
          · intro found
            refine ⟨found, ?_⟩
            rintro rfl
            exact resolve_ne_of_idOf valid absent id found
          · exact And.left
      | some id =>
          obtain ⟨before, after⟩ := invalidate_resolve result
          refine ⟨invalidatePtr_wellFormed valid result, ?_⟩
          intro other owner
          rw [after]
          by_cases here : other = id
          · rw [if_pos here, here, before]
            constructor
            · intro impossible
              cases impossible
            · intro found
              exact absurd (Option.some.inj found.1).symm found.2
          · rw [if_neg here]
            constructor
            · intro found
              refine ⟨found, ?_⟩
              rintro rfl
              exact here (resolve_injective valid found before)
            · exact And.left

/-- Every operation of the table is one step of the relation. -/
theorem Step.refines {table next : SlotTable Ptr} {outcome : Outcome Ptr}
    (step : Step table outcome next) (valid : table.WellFormed)
    (nextValid : next.WellFormed) :
    LiveStep (table.live valid) outcome (next.live nextValid) := by
  cases step with
  | insert fresh inserted =>
      obtain ⟨unused, after⟩ := insert_resolve valid inserted
      exact .minted unused fresh after
  | invalidate invalidated =>
      obtain ⟨resolved, after⟩ := invalidate_resolve invalidated
      exact .staled resolved after
  | miss missed =>
      obtain ⟨rfl, absent⟩ := invalidatePtr_none missed
      exact .missed absent

private theorem live_default (valid : (SlotTable.default : SlotTable Ptr).WellFormed) :
    SlotTable.default.live valid = ⊥ := by
  ext id p
  simp [resolve, SlotTable.default]

/-- A whole history of the table is a history of the relation from empty. -/
theorem run_refines {table : SlotTable Ptr} {history : List (Outcome Ptr)}
    (run : Run Step SlotTable.default history table) (valid : table.WellFormed) :
    Run LiveStep (⊥ : RawId ≃. Ptr) history (table.live valid) := by
  induction run with
  | nil =>
      rw [live_default]
      exact .nil
  | snoc before taken ih =>
      have middleValid := reachable_wellFormed before
      exact (ih middleValid).snoc (taken.refines middleValid valid)

/-! ### Live ids -/

omit [DecidableEq Ptr] in
private theorem mem_liveIds_iff {table : SlotTable Ptr} {id : RawId} :
    id ∈ table.liveIds ↔ (table.resolve id).isSome := by
  unfold liveIds
  rw [List.mem_map]
  constructor
  · rintro ⟨⟨s, i⟩, member, rfl⟩
    obtain ⟨inZip, occupied⟩ := List.mem_filter.mp member
    have holds : table.slots[i]? = some s := List.mem_zipIdx_iff_getElem?.mp inZip
    simpa [resolve, holds] using occupied
  · intro resolved
    obtain ⟨p, resolved⟩ := Option.isSome_iff_exists.mp resolved
    obtain ⟨s, holds, generation, owns⟩ := resolve_eq_some_iff.mp resolved
    refine ⟨(s, id.slot), List.mem_filter.mpr
      ⟨List.mem_zipIdx_iff_getElem?.mpr holds, by simp [owns]⟩, ?_⟩
    rw [generation]

omit [DecidableEq Ptr] in
private theorem liveIds_nodup (table : SlotTable Ptr) : table.liveIds.Nodup := by
  unfold liveIds
  have rows : table.slots.zipIdx.Nodup := by
    apply List.Nodup.of_map Prod.snd
    rw [List.zipIdx_map_snd]
    exact List.nodup_range'
  refine List.Nodup.map_on ?_ (rows.filter fun row => row.1.ptr.isSome)
  intro left leftMember right rightMember same
  have leftHolds := List.mem_zipIdx_iff_getElem?.mp (List.mem_of_mem_filter leftMember)
  have rightHolds := List.mem_zipIdx_iff_getElem?.mp (List.mem_of_mem_filter rightMember)
  have sameIndex : left.2 = right.2 := congrArg RawId.slot same
  rw [sameIndex] at leftHolds
  exact Prod.ext (Option.some.inj (leftHolds.symm.trans rightHolds)) sameIndex

/-! ### Stale ids -/

omit [DecidableEq Ptr] in
private theorem invalidations_snoc (i : Nat) (history : List (Outcome Ptr))
    (outcome : Outcome Ptr) :
    invalidations i (history ++ [outcome]) =
      invalidations i history + invalidations i [outcome] :=
  List.countP_append

/-- One step moves the generation of a slot exactly when it invalidates it. -/
private theorem step_generation {table next : SlotTable Ptr} {outcome : Outcome Ptr}
    (step : Step table outcome next) {i : Nat} {s : Slot Ptr} (holds : table.Holds i s) :
    ∃ t, next.Holds i t ∧
      t.generation = nextGeneration^[invalidations i [outcome]] s.generation := by
  cases step with
  | @insert _ _ id fresh inserted =>
      rcases insert_cases inserted with
        ⟨u, free, _, holdsU, generation, rfl⟩ | ⟨_, rfl, _, rfl⟩
      · have inside := (List.getElem?_eq_some_iff.mp holdsU).1
        cases Decidable.em (id.slot = i) with
        | inl same =>
            subst same
            obtain rfl := holds.unique holdsU
            exact ⟨_, (holds_set inside).mpr (.inl ⟨rfl, rfl⟩), rfl⟩
        | inr other => exact ⟨s, (holds_set inside).mpr (.inr ⟨other, holds⟩), rfl⟩
      · exact ⟨s, holds_append.mpr (.inl holds), rfl⟩
  | @invalidate _ _ id invalidated =>
      obtain ⟨u, holdsU, generation, _, rfl⟩ := invalidatePtr_some_cases invalidated
      have inside := (List.getElem?_eq_some_iff.mp holdsU).1
      cases Decidable.em (id.slot = i) with
      | inl same =>
          subst same
          obtain rfl := holds.unique holdsU
          refine ⟨_, (holds_set inside).mpr (.inl ⟨rfl, rfl⟩), ?_⟩
          simp [invalidations, generation]
      | inr other =>
          refine ⟨s, (holds_set inside).mpr (.inr ⟨other, holds⟩), ?_⟩
          simp [invalidations, other]
  | miss missed =>
      obtain ⟨rfl, _⟩ := invalidatePtr_none missed
      exact ⟨s, holds, rfl⟩

/-- The generation of a slot counts the invalidations of the history. -/
private theorem run_generation {table next : SlotTable Ptr} {history : List (Outcome Ptr)}
    (run : Run Step table history next) {i : Nat} {s : Slot Ptr}
    (holds : table.Holds i s) :
    ∃ t, next.Holds i t ∧
      t.generation = nextGeneration^[invalidations i history] s.generation := by
  induction run with
  | nil => exact ⟨s, holds, rfl⟩
  | snoc _ taken ih =>
      obtain ⟨t, held, generation⟩ := ih
      obtain ⟨u, heldAfter, moved⟩ := step_generation taken held
      refine ⟨u, heldAfter, ?_⟩
      rw [invalidations_snoc, Nat.add_comm, Function.iterate_add_apply, ← generation, moved]

private theorem mint_holds {table next : SlotTable Ptr} {id : RawId} {p : Ptr}
    (step : Step table (.minted id p) next) :
    ∃ s, next.Holds id.slot s ∧ s.generation = id.generation := by
  cases step with
  | insert fresh inserted =>
      rcases insert_cases inserted with
        ⟨s, free, _, holds, generation, rfl⟩ | ⟨_, rfl, _, rfl⟩
      · have inside : id.slot < table.slots.length := (List.getElem?_eq_some_iff.mp holds).1
        exact ⟨_, (holds_set inside).mpr (.inl ⟨rfl, rfl⟩), generation⟩
      · exact ⟨_, holds_append.mpr (.inr ⟨rfl, rfl⟩), rfl⟩

/-- An id minted once resolves again only when its slot has been invalidated
a multiple of `2^32 - 1` times since. -/
private theorem resolve_after_mint {table : SlotTable Ptr} {before after : List (Outcome Ptr)}
    {id : RawId} {p : Ptr}
    (run : Run Step SlotTable.default (before ++ .minted id p :: after) table)
    (resolved : (table.resolve id).isSome) :
    (u32Size - 1) ∣ invalidations id.slot after := by
  obtain ⟨start, first, rest⟩ := run.split
  have restShape : Run Step start ([.minted id p] ++ after) table := rest
  obtain ⟨minted, mintRun, afterRun⟩ := restShape.split
  have mint := mintRun.of_single
  obtain ⟨s, holds, generation⟩ := mint_holds mint
  have mintedValid := mint.wellFormed (reachable_wellFormed first)
  obtain ⟨t, held, counted⟩ := run_generation afterRun holds
  obtain ⟨q, resolved⟩ := Option.isSome_iff_exists.mp resolved
  obtain ⟨u, holdsU, sameGeneration, _⟩ := resolve_eq_some_iff.mp resolved
  obtain rfl := held.unique holdsU
  have live := mintedValid.generation _ s holds
  apply (iterate_nextGeneration_eq_self_iff live.1 live.2 _).mp
  rw [← counted, sameGeneration, generation]

/-- Over every run the table is a live id and pointer bijection, and a stale
id comes back only after whole turns of the generation counter of its slot. -/
theorem slotTable_liveBijection {table : SlotTable Ptr} {history : List (Outcome Ptr)}
    (run : Run Step SlotTable.default history table) :
    (∀ id p, table.idOf p = some id ↔ table.resolve id = some p) ∧
    (table.liveIds.Nodup ∧ ∀ id, id ∈ table.liveIds ↔ (table.resolve id).isSome) ∧
    (table.free.Nodup ∧
      (∀ i, i ∈ table.free ↔ ∃ s, table.slots[i]? = some s ∧ s.ptr = none) ∧
      table.insertAssert = true) ∧
    (∀ (i : Nat) (s : Slot Ptr), table.slots[i]? = some s → s.ptr.isSome →
      s.generation ≠ 0) ∧
    (∀ before after id p q, history = before ++ .minted id p :: after →
      .staled id q ∈ after → (table.resolve id).isSome →
      ∃ turns, 0 < turns ∧ invalidations id.slot after = turns * (2 ^ 32 - 1)) := by
  have valid := reachable_wellFormed run
  refine ⟨fun id p => idOf_eq_some_iff_resolve valid,
    ⟨liveIds_nodup table, fun id => mem_liveIds_iff⟩,
    ⟨valid.freeNodup, valid.memFree, insertAssert_true valid⟩, ?_, ?_⟩
  · intro i s holds _
    have positive := (valid.generation i s holds).1
    omega
  · intro before after id p q shape staled resolved
    subst shape
    obtain ⟨turns, count⟩ := resolve_after_mint run resolved
    have happened : 0 < invalidations id.slot after :=
      List.countP_pos_iff.mpr ⟨_, staled, by simp⟩
    refine ⟨turns, ?_, by rw [count, Nat.mul_comm]; rfl⟩
    cases turns with
    | zero => simp [count] at happened
    | succ turns => exact Nat.succ_pos turns

/-- Two pointers share the one slot in turn; the id of the first is stale. -/
theorem slotTable_liveBijection_recycled :
    ∃ table : SlotTable Nat,
      Run Step SlotTable.default
        [.minted ⟨0, 1⟩ 7, .staled ⟨0, 1⟩ 7, .minted ⟨0, 2⟩ 7] table ∧
      (∀ id p, table.idOf p = some id ↔ table.resolve id = some p) ∧
      table.liveIds.Nodup ∧ table.resolve ⟨0, 1⟩ = none ∧
      table.resolve ⟨0, 2⟩ = some 7 := by
  have run : Run Step SlotTable.default
      [.minted ⟨0, 1⟩ 7, .staled ⟨0, 1⟩ 7, .minted ⟨0, 2⟩ 7]
      ({ slots := [{ ptr := some 7, generation := 2 }], free := [] } : SlotTable Nat) :=
    (((Run.nil.snoc (.insert (by decide) rfl)).snoc (.invalidate rfl)).snoc
      (.insert (by decide) rfl))
  have result := slotTable_liveBijection run
  exact ⟨_, run, result.1, result.2.1.1, by decide, by decide⟩

end SlotTable

end Westonite.Registry
