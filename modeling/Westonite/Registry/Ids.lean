import Mathlib.Data.List.Basic

/-! Opaque generational handles. An id is a slot and a generation of one
registry table; only the table relates it to an object. -/

set_option autoImplicit false

namespace Westonite

/-- The representation shared by every id kind. Both fields are `u32`. -/
structure RawId where
  slot : Nat
  generation : Nat
  deriving DecidableEq, Repr

structure OutputId where
  raw : RawId
  deriving DecidableEq, Repr

structure HeadId where
  raw : RawId
  deriving DecidableEq, Repr

structure SeatId where
  raw : RawId
  deriving DecidableEq, Repr

structure SurfaceId where
  raw : RawId
  deriving DecidableEq, Repr

structure DesktopSurfaceId where
  raw : RawId
  deriving DecidableEq, Repr

end Westonite
