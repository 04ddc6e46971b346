import Westonite.Library.Run
import Westonite.Registry.Ids

/-! The per-kind slot table behind generational ids. The pointer type stays
abstract; only equality of addresses is used. -/

set_option autoImplicit false

namespace Westonite.Registry

/-- The number of values of a `u32`, two to the power 32. -/
def u32Size : Nat := 4294967296

/-- `u32::wrapping_add`. -/
def wrappingAdd (left right : Nat) : Nat := (left + right) % u32Size

structure Slot (Ptr : Type) where
  ptr : Option Ptr
  generation : Nat
  deriving DecidableEq, Repr

/-- `free` is a stack with its top first. -/
structure SlotTable (Ptr : Type) where
  slots : List (Slot Ptr)
  free : List Nat
  deriving DecidableEq, Repr

namespace SlotTable

variable {Ptr : Type}

def default : SlotTable Ptr := { slots := [], free := [] }

/-- Register a live object. `none` models the two panics of the source: an
index out of bounds, and the overflow of the slot count. -/
def insert (table : SlotTable Ptr) (ptr : Ptr) : Option (RawId × SlotTable Ptr) :=
  match table.free with
  | slot :: free =>
      match table.slots[slot]? with
      | none => none
      | some s =>
          some (⟨slot, s.generation⟩,
            { slots := table.slots.set slot { s with ptr := some ptr }, free })
  | [] =>
      let slot := table.slots.length
      if slot < u32Size then
        -- generation 0 is never minted: fresh slots start live at 1
        some (⟨slot, 1⟩,
          { table with slots := table.slots ++ [{ ptr := some ptr, generation := 1 }] })
      else
        none

/-- The `debug_assert!(s.ptr.is_none())` of `insert` on a recycled slot. -/
def insertAssert (table : SlotTable Ptr) : Bool :=
  match table.free with
  | slot :: _ => (table.slots[slot]?).any (·.ptr.isNone)
  | [] => true

/-- The live pointer of an id, or `none` if the object died. -/
def resolve (table : SlotTable Ptr) (id : RawId) : Option Ptr :=
  match table.slots[id.slot]? with
  | none => none
  | some s => if s.generation ≠ id.generation then none else s.ptr

variable [DecidableEq Ptr]

/-- `iter().position(|s| s.ptr == Some(ptr))`. -/
def position (table : SlotTable Ptr) (ptr : Ptr) : Option Nat :=
  table.slots.findIdx? (fun s => s.ptr = some ptr)

/-- The generation after one invalidation: 0 is skipped by the wrap. -/
def nextGeneration (generation : Nat) : Nat :=
  let next := wrappingAdd generation 1
  if next = 0 then 1 else next

/-- Clear the slot that holds `ptr` and return the id this made stale. -/
def invalidatePtr (table : SlotTable Ptr) (ptr : Ptr) : Option RawId × SlotTable Ptr :=
  match table.position ptr with
  | none => (none, table)
  | some idx =>
      match table.slots[idx]? with
      | none => (none, table)
      | some s =>
          (some ⟨idx, s.generation⟩,
            { slots := table.slots.set idx
                { ptr := none, generation := nextGeneration s.generation }
              free := idx :: table.free })

/-- Pointer to id for a live object. -/
def idOf (table : SlotTable Ptr) (ptr : Ptr) : Option RawId :=
  match table.position ptr with
  | none => none
  | some idx => (table.slots[idx]?).map fun s => ⟨idx, s.generation⟩

omit [DecidableEq Ptr] in
/-- Snapshot of all live ids. -/
def liveIds (table : SlotTable Ptr) : List RawId :=
  (table.slots.zipIdx.filter (fun row => row.1.ptr.isSome)).map
    fun row => ⟨row.2, row.1.generation⟩

end SlotTable

/-- What one registry operation did. -/
inductive Outcome (Ptr : Type) where
  | minted (id : RawId) (ptr : Ptr)
  | staled (id : RawId) (ptr : Ptr)
  | missed (ptr : Ptr)
  deriving DecidableEq, Repr

/-- One `insert` of a pointer that is not registered, which every caller
checks, or one `invalidate_ptr` of any pointer. -/
inductive SlotTable.Step {Ptr : Type} [DecidableEq Ptr] :
    SlotTable Ptr → Outcome Ptr → SlotTable Ptr → Prop where
  | insert {table next : SlotTable Ptr} {ptr : Ptr} {id : RawId} :
      table.idOf ptr = none → table.insert ptr = some (id, next) →
      Step table (.minted id ptr) next
  | invalidate {table next : SlotTable Ptr} {ptr : Ptr} {id : RawId} :
      table.invalidatePtr ptr = (some id, next) →
      Step table (.staled id ptr) next
  | miss {table next : SlotTable Ptr} {ptr : Ptr} :
      table.invalidatePtr ptr = (none, next) →
      Step table (.missed ptr) next

/-- How often a history invalidated a slot. -/
def invalidations {Ptr : Type} (slot : Nat) (history : List (Outcome Ptr)) : Nat :=
  history.countP fun
    | .staled id _ => id.slot = slot
    | _ => false

end Westonite.Registry
