import Mathlib.Data.Nat.ModEq
import Westonite.Registry.SlotTable

/-! The slot table keeps a one-to-one relation between live ids and live
pointers, and an id made stale stays so until its slot has gone through every
generation. -/

set_option autoImplicit false

namespace Westonite.Registry

open Library

namespace SlotTable

variable {Ptr : Type}

/-- The slot `i` holds exactly the record `s`. -/
abbrev Holds (table : SlotTable Ptr) (i : Nat) (s : Slot Ptr) : Prop :=
  table.slots[i]? = some s

theorem Holds.unique {table : SlotTable Ptr} {i : Nat} {s t : Slot Ptr}
    (left : table.Holds i s) (right : table.Holds i t) : s = t :=
  Option.some.inj (left.symm.trans right)

structure WellFormed (table : SlotTable Ptr) : Prop where
  bounded : table.slots.length ≤ u32Size
  generation : ∀ i s, table.Holds i s → 1 ≤ s.generation ∧ s.generation < u32Size
  injective : ∀ i j s t p, table.Holds i s → table.Holds j t →
    s.ptr = some p → t.ptr = some p → i = j
  freeNodup : table.free.Nodup
  memFree : ∀ i, i ∈ table.free ↔ ∃ s, table.Holds i s ∧ s.ptr = none

theorem default_wellFormed : (default : SlotTable Ptr).WellFormed where
  bounded := by simp [default]
  generation := by simp [default]
  injective := by simp [default]
  freeNodup := by simp [default]
  memFree := by simp [default]

theorem resolve_eq_some_iff {table : SlotTable Ptr} {id : RawId} {p : Ptr} :
    table.resolve id = some p ↔
      ∃ s, table.Holds id.slot s ∧ s.generation = id.generation ∧ s.ptr = some p := by
  unfold resolve Holds
  cases found : table.slots[id.slot]? with
  | none => simp
  | some s =>
      by_cases same : s.generation = id.generation <;> simp [same]

variable [DecidableEq Ptr]

private theorem position_eq_some {table : SlotTable Ptr} {p : Ptr} {i : Nat}
    (found : table.position p = some i) :
    ∃ s, table.Holds i s ∧ s.ptr = some p := by
  obtain ⟨inside, matched, _⟩ := List.findIdx?_eq_some_iff_getElem.mp found
  exact ⟨table.slots[i], List.getElem?_eq_getElem inside, by simpa using matched⟩

private theorem position_eq_none_iff {table : SlotTable Ptr} {p : Ptr} :
    table.position p = none ↔ ∀ i s, table.Holds i s → s.ptr ≠ some p := by
  unfold position Holds
  rw [List.findIdx?_eq_none_iff]
  constructor
  · intro absent i s holds
    simpa using absent s (List.mem_of_getElem? holds)
  · intro absent s member
    obtain ⟨i, holds⟩ := List.mem_iff_getElem?.mp member
    simpa using absent i s holds

theorem idOf_eq_none_iff {table : SlotTable Ptr} {p : Ptr} :
    table.idOf p = none ↔ ∀ i s, table.Holds i s → s.ptr ≠ some p := by
  rw [← position_eq_none_iff]
  unfold idOf
  cases found : table.position p with
  | none => simp
  | some i =>
      obtain ⟨s, holds, _⟩ := position_eq_some found
      simp [holds]

private theorem idOf_eq_some_iff {table : SlotTable Ptr} (valid : table.WellFormed)
    {id : RawId} {p : Ptr} :
    table.idOf p = some id ↔
      ∃ s, table.Holds id.slot s ∧ s.generation = id.generation ∧ s.ptr = some p := by
  constructor
  · intro found
    unfold idOf at found
    cases located : table.position p with
    | none => simp [located] at found
    | some i =>
        obtain ⟨s, holds, owns⟩ := position_eq_some located
        simp only [located, holds, Option.map_some, Option.some.injEq] at found
        subst found
        exact ⟨s, holds, rfl, owns⟩
  · rintro ⟨s, holds, sameGeneration, owns⟩
    cases located : table.position p with
    | none => exact absurd owns (position_eq_none_iff.mp located _ s holds)
    | some i =>
        obtain ⟨t, holdsT, ownsT⟩ := position_eq_some located
        obtain rfl := valid.injective _ _ s t p holds holdsT owns ownsT
        obtain rfl := holds.unique holdsT
        simp only [idOf, located]
        rw [holds]
        simp [sameGeneration]

/-- `id_of` and `resolve` are inverse to each other on live entries. -/
theorem idOf_eq_some_iff_resolve {table : SlotTable Ptr} (valid : table.WellFormed)
    {id : RawId} {p : Ptr} :
    table.idOf p = some id ↔ table.resolve id = some p := by
  rw [idOf_eq_some_iff valid, resolve_eq_some_iff]

/-- A pointer is registered under one id. -/
theorem resolve_injective {table : SlotTable Ptr} (valid : table.WellFormed) {first second : RawId}
    {p : Ptr} (left : table.resolve first = some p) (right : table.resolve second = some p) :
    first = second := by
  rw [← idOf_eq_some_iff_resolve valid] at left right
  exact Option.some.inj (left.symm.trans right)

theorem resolve_ne_of_idOf {table : SlotTable Ptr} (valid : table.WellFormed) {p : Ptr}
    (absent : table.idOf p = none) (id : RawId) : table.resolve id ≠ some p := by
  intro resolved
  rw [(idOf_eq_some_iff_resolve valid).mpr resolved] at absent
  cases absent

/-! ### What one operation does -/

omit [DecidableEq Ptr] in
/-- A minted id takes either the top of the free stack or a fresh slot. -/
theorem insert_cases {table next : SlotTable Ptr} {p : Ptr} {id : RawId}
    (inserted : table.insert p = some (id, next)) :
    (∃ s free, table.free = id.slot :: free ∧ table.Holds id.slot s ∧
      s.generation = id.generation ∧
      next = { slots := table.slots.set id.slot { s with ptr := some p }, free }) ∨
    (table.free = [] ∧ id = ⟨table.slots.length, 1⟩ ∧ table.slots.length < u32Size ∧
      next = { table with slots := table.slots ++ [{ ptr := some p, generation := 1 }] }) := by
  unfold insert at inserted
  cases stack : table.free with
  | nil =>
      simp only [stack] at inserted
      split at inserted
      · simp only [Option.some.injEq, Prod.mk.injEq] at inserted
        obtain ⟨rfl, rfl⟩ := inserted
        exact .inr ⟨rfl, rfl, ‹_›, rfl⟩
      · simp at inserted
  | cons slot free =>
      simp only [stack] at inserted
      cases found : table.slots[slot]? with
      | none => simp [found] at inserted
      | some s =>
          simp only [found, Option.some.injEq, Prod.mk.injEq] at inserted
          obtain ⟨rfl, rfl⟩ := inserted
          exact .inl ⟨s, free, rfl, found, rfl, rfl⟩

theorem invalidatePtr_some_cases {table next : SlotTable Ptr} {p : Ptr} {id : RawId}
    (invalidated : table.invalidatePtr p = (some id, next)) :
    ∃ s, table.Holds id.slot s ∧ s.generation = id.generation ∧ s.ptr = some p ∧
      next =
        { slots := table.slots.set id.slot
            { ptr := none, generation := nextGeneration id.generation }
          free := id.slot :: table.free } := by
  unfold invalidatePtr at invalidated
  cases located : table.position p with
  | none => simp [located] at invalidated
  | some i =>
      obtain ⟨s, holds, owns⟩ := position_eq_some located
      simp only [located, holds, Prod.mk.injEq, Option.some.injEq] at invalidated
      obtain ⟨rfl, rfl⟩ := invalidated
      exact ⟨s, holds, rfl, owns, rfl⟩

theorem invalidatePtr_none {table next : SlotTable Ptr} {p : Ptr}
    (invalidated : table.invalidatePtr p = (none, next)) :
    next = table ∧ table.idOf p = none := by
  unfold invalidatePtr at invalidated
  cases located : table.position p with
  | none =>
      simp only [located, Prod.mk.injEq] at invalidated
      exact ⟨invalidated.2.symm, idOf_eq_none_iff.mpr (position_eq_none_iff.mp located)⟩
  | some i =>
      obtain ⟨s, holds, _⟩ := position_eq_some located
      simp [located, holds] at invalidated

/-! ### Generations -/

private theorem nextGeneration_eq {generation : Nat} (live : 1 ≤ generation)
    (small : generation < u32Size) :
    nextGeneration generation = generation % (u32Size - 1) + 1 := by
  unfold nextGeneration wrappingAdd
  unfold u32Size at *
  by_cases last : generation = 4294967296 - 1
  · subst last
    rfl
  · have next : (generation + 1) % 4294967296 = generation + 1 := Nat.mod_eq_of_lt (by omega)
    have cycle : generation % (4294967296 - 1) = generation := Nat.mod_eq_of_lt (by omega)
    simp only [next, cycle]
    exact if_neg (by omega)

private theorem nextGeneration_live {generation : Nat} (live : 1 ≤ generation)
    (small : generation < u32Size) :
    1 ≤ nextGeneration generation ∧ nextGeneration generation < u32Size := by
  rw [nextGeneration_eq live small]
  have bound := Nat.mod_lt generation (show 0 < u32Size - 1 by decide)
  omega

/-- The generations of one slot run through a cycle of length `2^32 - 1`. -/
theorem iterate_nextGeneration {generation : Nat} (live : 1 ≤ generation)
    (small : generation < u32Size) (count : Nat) :
    nextGeneration^[count] generation =
      (generation - 1 + count) % (u32Size - 1) + 1 := by
  induction count with
  | zero =>
      have exact : (generation - 1) % (u32Size - 1) = generation - 1 :=
        Nat.mod_eq_of_lt (by omega)
      simp only [Function.iterate_zero, id_eq, Nat.add_zero, exact]
      omega
  | succ count ih =>
      have bound := Nat.mod_lt (generation - 1 + count) (show 0 < u32Size - 1 by decide)
      rw [Function.iterate_succ_apply', ih, nextGeneration_eq (by omega) (by omega),
        Nat.mod_add_mod, ← Nat.add_assoc]

theorem iterate_nextGeneration_eq_self_iff {generation : Nat} (live : 1 ≤ generation)
    (small : generation < u32Size) (count : Nat) :
    nextGeneration^[count] generation = generation ↔ (u32Size - 1) ∣ count := by
  rw [iterate_nextGeneration live small]
  have exact : (generation - 1) % (u32Size - 1) = generation - 1 :=
    Nat.mod_eq_of_lt (by omega)
  constructor
  · intro returned
    have congruent : generation - 1 + count ≡ generation - 1 + 0 [MOD u32Size - 1] := by
      unfold Nat.ModEq
      rw [Nat.add_zero, exact]
      omega
    exact (Nat.modEq_zero_iff_dvd).mp (Nat.ModEq.add_left_cancel' _ congruent)
  · intro multiple
    have congruent := Nat.ModEq.add_left (generation - 1)
      ((Nat.modEq_zero_iff_dvd).mpr multiple)
    unfold Nat.ModEq at congruent
    rw [Nat.add_zero, exact] at congruent
    omega

/-! ### The invariant -/

omit [DecidableEq Ptr] in
theorem holds_set {slots : List (Slot Ptr)} {free : List Nat} {i j : Nat}
    {new s : Slot Ptr} (inside : i < slots.length) :
    Holds { slots := slots.set i new, free } j s ↔
      (i = j ∧ new = s) ∨ (i ≠ j ∧ slots[j]? = some s) := by
  unfold Holds
  rw [List.getElem?_set]
  by_cases same : i = j
  · simp [same, same ▸ inside]
  · simp [same]

omit [DecidableEq Ptr] in
theorem holds_append {slots : List (Slot Ptr)} {free : List Nat} {j : Nat}
    {new s : Slot Ptr} :
    Holds { slots := slots ++ [new], free } j s ↔
      slots[j]? = some s ∨ (j = slots.length ∧ new = s) := by
  unfold Holds
  rw [List.getElem?_append]
  by_cases inside : j < slots.length
  · simp only [inside, if_true]
    exact ⟨.inl, fun either => either.resolve_right fun right => by omega⟩
  · have beyond : slots[j]? = none := List.getElem?_eq_none (by omega)
    simp only [inside, if_false, beyond, reduceCtorEq, false_or]
    by_cases last : j = slots.length
    · simp [last]
    · have outside : j - slots.length ≠ 0 := by omega
      simp [last, outside]

theorem insert_wellFormed {table next : SlotTable Ptr} {p : Ptr} {id : RawId}
    (valid : table.WellFormed) (fresh : table.idOf p = none)
    (inserted : table.insert p = some (id, next)) : next.WellFormed := by
  have unused := idOf_eq_none_iff.mp fresh
  rcases insert_cases inserted with
    ⟨s, free, stack, holds, generation, rfl⟩ | ⟨stack, rfl, room, rfl⟩
  · have inside : id.slot < table.slots.length := (List.getElem?_eq_some_iff.mp holds).1
    have unique : id.slot ∉ free ∧ free.Nodup := by
      simpa only [stack, List.nodup_cons] using valid.freeNodup
    refine ⟨by simpa using valid.bounded, ?_, ?_, unique.2, ?_⟩
    · intro i t held
      rcases (holds_set inside).mp held with ⟨_, rfl⟩ | ⟨_, held⟩
      · exact valid.generation _ s holds
      · exact valid.generation i t held
    · intro i j t u q heldT heldU ownsT ownsU
      rcases (holds_set inside).mp heldT with ⟨rfl, rfl⟩ | ⟨_, heldT⟩ <;>
        rcases (holds_set inside).mp heldU with ⟨rfl, rfl⟩ | ⟨_, heldU⟩
      · rfl
      · cases ownsT
        exact absurd ownsU (unused j u heldU)
      · cases ownsU
        exact absurd ownsT (unused i t heldT)
      · exact valid.injective i j t u q heldT heldU ownsT ownsU
    · intro i
      have before := valid.memFree i
      rw [stack, List.mem_cons] at before
      constructor
      · intro member
        obtain ⟨t, held, empty⟩ := before.mp (.inr member)
        have other : id.slot ≠ i := fun same => unique.1 (same ▸ member)
        exact ⟨t, (holds_set inside).mpr (.inr ⟨other, held⟩), empty⟩
      · rintro ⟨t, held, empty⟩
        rcases (holds_set inside).mp held with ⟨_, rfl⟩ | ⟨other, held⟩
        · simp at empty
        · exact (before.mpr ⟨t, held, empty⟩).resolve_left (Ne.symm other)
  · refine ⟨by simpa using Nat.succ_le_of_lt room, ?_, ?_, by simp [stack], ?_⟩
    · intro i t held
      rcases holds_append.mp held with held | ⟨_, rfl⟩
      · exact valid.generation i t held
      · simp [u32Size]
    · intro i j t u q heldT heldU ownsT ownsU
      rcases holds_append.mp heldT with heldT | ⟨rfl, rfl⟩ <;>
        rcases holds_append.mp heldU with heldU | ⟨rfl, rfl⟩
      · exact valid.injective i j t u q heldT heldU ownsT ownsU
      · cases ownsU
        exact absurd ownsT (unused i t heldT)
      · cases ownsT
        exact absurd ownsU (unused j u heldU)
      · rfl
    · intro i
      have before := valid.memFree i
      simp only [stack, List.not_mem_nil, false_iff, not_exists, not_and] at before ⊢
      intro t held empty
      rcases holds_append.mp held with held | ⟨_, rfl⟩
      · exact before t held empty
      · simp at empty

theorem invalidatePtr_wellFormed {table next : SlotTable Ptr} {p : Ptr} {id : RawId}
    (valid : table.WellFormed)
    (invalidated : table.invalidatePtr p = (some id, next)) : next.WellFormed := by
  obtain ⟨s, holds, generation, owns, rfl⟩ := invalidatePtr_some_cases invalidated
  have inside : id.slot < table.slots.length := (List.getElem?_eq_some_iff.mp holds).1
  have occupied : id.slot ∉ table.free := by
    intro member
    obtain ⟨t, held, empty⟩ := (valid.memFree _).mp member
    obtain rfl := holds.unique held
    simp [owns] at empty
  refine ⟨by simpa using valid.bounded, ?_, ?_,
    List.nodup_cons.mpr ⟨occupied, valid.freeNodup⟩, ?_⟩
  · intro i t held
    rcases (holds_set inside).mp held with ⟨_, rfl⟩ | ⟨_, held⟩
    · have live := valid.generation _ s holds
      exact generation ▸ nextGeneration_live live.1 live.2
    · exact valid.generation i t held
  · intro i j t u q heldT heldU ownsT ownsU
    rcases (holds_set inside).mp heldT with ⟨rfl, rfl⟩ | ⟨_, heldT⟩
    · simp at ownsT
    · rcases (holds_set inside).mp heldU with ⟨rfl, rfl⟩ | ⟨_, heldU⟩
      · simp at ownsU
      · exact valid.injective i j t u q heldT heldU ownsT ownsU
  · intro i
    rw [List.mem_cons]
    constructor
    · rintro (rfl | member)
      · exact ⟨_, (holds_set inside).mpr (.inl ⟨rfl, rfl⟩), rfl⟩
      · obtain ⟨t, held, empty⟩ := (valid.memFree i).mp member
        have other : id.slot ≠ i := fun same => occupied (same ▸ member)
        exact ⟨t, (holds_set inside).mpr (.inr ⟨other, held⟩), empty⟩
    · rintro ⟨t, held, empty⟩
      rcases (holds_set inside).mp held with ⟨rfl, _⟩ | ⟨_, held⟩
      · exact .inl rfl
      · exact .inr ((valid.memFree i).mpr ⟨t, held, empty⟩)

theorem Step.wellFormed {table next : SlotTable Ptr} {outcome : Outcome Ptr}
    (step : Step table outcome next) (valid : table.WellFormed) : next.WellFormed := by
  cases step with
  | insert fresh inserted => exact insert_wellFormed valid fresh inserted
  | invalidate invalidated => exact invalidatePtr_wellFormed valid invalidated
  | miss missed => exact (invalidatePtr_none missed).1 ▸ valid

theorem reachable_wellFormed {table : SlotTable Ptr} {history : List (Outcome Ptr)}
    (run : Run Step SlotTable.default history table) : table.WellFormed :=
  run.invariant (fun _ _ _ valid step => step.wellFormed valid) default_wellFormed

omit [DecidableEq Ptr] in
/-- An empty slot lies under the top of the free stack, so the assertion of
`insert` holds and the index it uses is in bounds. -/
theorem insertAssert_true {table : SlotTable Ptr} (valid : table.WellFormed) :
    table.insertAssert = true := by
  unfold insertAssert
  cases stack : table.free with
  | nil => rfl
  | cons slot free =>
      obtain ⟨s, holds, empty⟩ := (valid.memFree slot).mp (by simp [stack])
      simp [holds, empty]

end SlotTable

end Westonite.Registry
