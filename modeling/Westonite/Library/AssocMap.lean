import Mathlib.Data.List.AList
import Mathlib.Data.List.Count

/-! Finite maps with a stored order, and how many of their entries satisfy a
predicate after each operation. -/

set_option autoImplicit false

namespace Westonite.Library

/-- A finite map; the order of the entries is the order of an iteration. -/
abbrev AssocMap (Key Value : Type) := AList (fun _ : Key => Value)

namespace AssocMap

variable {Key Value : Type} [DecidableEq Key]

abbrev insert (map : AssocMap Key Value) (key : Key) (value : Value) : AssocMap Key Value :=
  AList.insert key value map

abbrev erase (map : AssocMap Key Value) (key : Key) : AssocMap Key Value :=
  AList.erase key map

/-- Every value through a function of its key. -/
def update (change : Key → Value → Value) (map : AssocMap Key Value) :
    AssocMap Key Value where
  entries := map.entries.map (Sigma.map id change)
  nodupKeys := map.nodupKeys.map₂ change

/-- The value of one key through a function, when there is one. -/
def modify (key : Key) (change : Value → Value) (map : AssocMap Key Value) :
    AssocMap Key Value :=
  map.update fun other value => if other = key then change value else value

/-- How many entries satisfy a predicate. -/
def count (holds : Key → Value → Bool) (map : AssocMap Key Value) : Nat :=
  map.entries.countP fun entry => holds entry.1 entry.2

theorem lookup_update (change : Key → Value → Value) (map : AssocMap Key Value)
    (key : Key) : (map.update change).lookup key = (map.lookup key).map (change key) :=
  List.dlookup_map₂ key

theorem lookup_insert (map : AssocMap Key Value) (key other : Key) (value : Value) :
    (map.insert key value).lookup other =
      if other = key then some value else map.lookup other := by
  by_cases same : other = key
  · rw [same, if_pos rfl]
    exact AList.lookup_insert map
  · rw [if_neg same]
    exact AList.lookup_insert_ne same

theorem lookup_erase (map : AssocMap Key Value) (key other : Key) :
    (map.erase key).lookup other = if other = key then none else map.lookup other := by
  by_cases same : other = key
  · rw [same, if_pos rfl]
    exact AList.lookup_erase key map
  · rw [if_neg same]
    exact AList.lookup_erase_ne same

theorem lookup_erase_eq_some {map : AssocMap Key Value} {key other : Key} {value : Value} :
    (map.erase key).lookup other = some value ↔
      other ≠ key ∧ map.lookup other = some value := by
  rw [lookup_erase]
  split
  · rename_i same
    simp [same]
  · rename_i different
    simp [different]

theorem lookup_modify (key other : Key) (change : Value → Value)
    (map : AssocMap Key Value) :
    (map.modify key change).lookup other =
      (map.lookup other).map fun value => if other = key then change value else value :=
  lookup_update _ map other

/-- One change at every key of a list. -/
theorem lookup_foldl_modify {change : Value → Value}
    (idempotent : ∀ value, change (change value) = change value) (keys : List Key)
    (map : AssocMap Key Value) (other : Key) :
    AList.lookup other (keys.foldl (fun map key => AssocMap.modify key change map) map) =
      (map.lookup other).map fun value => if other ∈ keys then change value else value := by
  induction keys generalizing map with
  | nil => simp
  | cons key keys ih =>
      rw [List.foldl_cons, ih, lookup_modify, Option.map_map]
      congr 1
      funext value
      by_cases first : other = key <;> by_cases later : other ∈ keys <;>
        simp [first, later, idempotent]

theorem mem_entries_iff {map : AssocMap Key Value} {key : Key} {value : Value} :
    (⟨key, value⟩ : Sigma fun _ : Key => Value) ∈ map.entries ↔ map.lookup key = some value :=
  (List.mem_dlookup_iff map.nodupKeys).symm

/-! ### Counting -/

theorem count_congr {map : AssocMap Key Value} {holds other : Key → Value → Bool}
    (same : ∀ key value, map.lookup key = some value → holds key value = other key value) :
    map.count holds = map.count other := by
  unfold count
  apply List.countP_congr
  intro entry member
  rw [same entry.1 entry.2 (mem_entries_iff.mp member)]

omit [DecidableEq Key] in
theorem count_perm {map other : AssocMap Key Value} (same : map.entries.Perm other.entries)
    (holds : Key → Value → Bool) : map.count holds = other.count holds :=
  same.countP_eq _

omit [DecidableEq Key] in
theorem count_update (change : Key → Value → Value) (map : AssocMap Key Value)
    (holds : Key → Value → Bool) :
    (map.update change).count holds = map.count fun key value => holds key (change key value) := by
  unfold count update
  rw [List.countP_map]
  rfl

theorem count_pos_iff {map : AssocMap Key Value} {holds : Key → Value → Bool} :
    0 < map.count holds ↔ ∃ key value, map.lookup key = some value ∧ holds key value := by
  unfold count
  rw [List.countP_pos_iff]
  constructor
  · rintro ⟨entry, member, satisfied⟩
    exact ⟨entry.1, entry.2, mem_entries_iff.mp member, satisfied⟩
  · rintro ⟨key, value, found, satisfied⟩
    exact ⟨⟨key, value⟩, mem_entries_iff.mpr found, satisfied⟩

theorem count_eq_zero_iff {map : AssocMap Key Value} {holds : Key → Value → Bool} :
    map.count holds = 0 ↔ ∀ key value, map.lookup key = some value → ¬ holds key value := by
  have positive := @count_pos_iff _ _ _ map holds
  constructor
  · intro none key value found satisfied
    have some := positive.mpr ⟨key, value, found, satisfied⟩
    omega
  · intro none
    apply Nat.eq_zero_of_not_pos
    intro some
    obtain ⟨key, value, found, satisfied⟩ := positive.mp some
    exact none key value found satisfied

omit [DecidableEq Key] in
theorem count_le_length (map : AssocMap Key Value) (holds : Key → Value → Bool) :
    map.count holds ≤ map.entries.length :=
  List.countP_le_length

omit [DecidableEq Key] in
theorem length_update (change : Key → Value → Value) (map : AssocMap Key Value) :
    (map.update change).entries.length = map.entries.length :=
  List.length_map ..

/-- The entry of a key leaves the count. -/
theorem count_erase {map : AssocMap Key Value} {key : Key} {value : Value}
    (found : map.lookup key = some value) (holds : Key → Value → Bool) :
    map.count holds = (map.erase key).count holds + (holds key value).toNat := by
  have member : key ∈ map.entries.keys := List.mem_keys.mpr ⟨value, mem_entries_iff.mpr found⟩
  obtain ⟨held, front, back, _, split, erased⟩ := List.exists_of_kerase member
  have heldFound : map.lookup key = some held :=
    mem_entries_iff.mp (by rw [split]; simp)
  obtain rfl := Option.some.inj (heldFound.symm.trans found)
  have rest : (map.erase key).entries = front ++ back := erased
  unfold count
  rw [rest, split]
  cases satisfied : holds key held with
  | true => simp [satisfied]; omega
  | false => simp [satisfied]

theorem erase_eq_self {map : AssocMap Key Value} {key : Key}
    (absent : map.lookup key = none) : map.erase key = map := by
  apply AList.ext
  exact List.kerase_of_notMem_keys (List.dlookup_eq_none.mp absent)

theorem count_insert (map : AssocMap Key Value) (key : Key) (value : Value)
    (holds : Key → Value → Bool) :
    (map.insert key value).count holds =
      (map.erase key).count holds + (holds key value).toNat := by
  have shape : (map.insert key value).entries = ⟨key, value⟩ :: (map.erase key).entries :=
    AList.entries_insert
  unfold count
  rw [shape]
  cases satisfied : holds key value with
  | true => simp [satisfied]
  | false => simp [satisfied]

theorem count_modify {map : AssocMap Key Value} {key : Key} {value : Value}
    (found : map.lookup key = some value) (change : Value → Value)
    (holds : Key → Value → Bool) :
    (map.modify key change).count holds + (holds key value).toNat =
      map.count holds + (holds key (change value)).toNat := by
  have others : (map.erase key).count
      (fun other value => holds other (if other = key then change value else value)) =
      (map.erase key).count holds := by
    apply count_congr
    intro other value present
    simp [(lookup_erase_eq_some.mp present).1]
  have before := count_erase found holds
  have after := count_erase found fun other value =>
    holds other (if other = key then change value else value)
  rw [others, if_pos rfl] at after
  unfold modify
  rw [count_update]
  omega

end AssocMap

end Westonite.Library
