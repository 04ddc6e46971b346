import Westonite.Shell.Reposition

/-! Where a new window is put: on the output of the first pointer, inside of it where
it fits, and at a fixed margin when there is no such output. -/

set_option autoImplicit false

namespace Westonite

open Library

variable {Host : Type}

/-! ### The generator -/

/-- The remainder is taken by a modulus that is not zero, and fits into an `i32`. -/
private theorem Shell.nextRand_bounds (shell : Shell) {modulo : Int} (typed : IsI32 modulo) :
    0 ≤ (shell.nextRand modulo).1 ∧
      (0 < modulo → (shell.nextRand modulo).1 < modulo ∧ UInt64.ofNat modulo.toNat ≠ 0) := by
  unfold Shell.nextRand
  refine ⟨Int.natCast_nonneg _, ?_⟩
  intro positive
  have small : modulo.toNat < 2 ^ 64 := by
    have high := typed.2
    omega
  have divisor : (UInt64.ofNat modulo.toNat).toNat = modulo.toNat := by
    rw [UInt64.toNat_ofNat', Nat.mod_eq_of_lt small]
  constructor
  · have whole : (modulo.toNat : Int) = modulo := Int.toNat_of_nonneg (Int.le_of_lt positive)
    dsimp only
    rw [if_neg (by omega), UInt64.toNat_mod, divisor]
    exact lt_of_lt_of_eq (Int.ofNat_lt.mpr (Nat.mod_lt _ (by omega))) whole
  · intro zero
    rw [zero] at divisor
    change 0 = modulo.toNat at divisor
    omega

/-! ### One axis -/

/-- Where the window starts on an axis: inside with all of its length, or at the
origin when it is not smaller. -/
structure AxisPlaced (origin size window start : Int) : Prop where
  inside : window < size → origin ≤ start ∧ start + window ≤ origin + size
  covers : size ≤ window → start = origin

private theorem Shell.placeAxis_placed (shell : Shell) {origin size window : Int}
    (typed : IsI32 origin ∧ IsI32 (origin + size)) (sized : IsI32 size)
    (length : 0 ≤ window ∧ IsI32 window) (room : 0 < size) :
    AxisPlaced origin size window (shell.placeAxis origin (i32 (size - window))).1 := by
  have range : i32 (size - window) = size - window := by
    apply i32_of_isI32
    unfold IsI32 at *
    omega
  rw [range]
  unfold Shell.placeAxis
  split
  · rename_i positive
    have typedRange : IsI32 (size - window) := by
      unfold IsI32 at *
      omega
    obtain ⟨nonnegative, bounded⟩ := shell.nextRand_bounds typedRange
    have below := (bounded positive).1
    have whole : i32 (origin + (shell.nextRand (size - window)).1) =
        origin + (shell.nextRand (size - window)).1 := by
      apply i32_of_isI32
      unfold IsI32 at *
      omega
    dsimp only
    rw [whole]
    constructor
    · intro _
      omega
    · intro covered
      omega
  · rename_i full
    constructor
    · intro fits
      omega
    · intro _
      rfl

/-! ### Where to look -/

/-- The position of the first seat with a pointer, or the origin. -/
inductive ShellHost.FirstPointer (host : ShellHost Host) (h : Host) : Coord × Coord → Prop where
  | seat {before after : List SeatId} {seat : SeatId} {pos : Coord × Coord} :
      host.seats h = before ++ seat :: after → (∀ s ∈ before, host.pointerPos h s = none) →
      host.pointerPos h seat = some pos → FirstPointer host h pos
  | origin : (∀ s ∈ host.seats h, host.pointerPos h s = none) → FirstPointer host h (0, 0)

/-- The first output a position is on. -/
def ShellHost.FirstOutput (host : ShellHost Host) (h : Host) (pos : Coord × Coord)
    (area : Rect) : Prop :=
  ∃ before after, host.geometries h = before ++ area :: after ∧
    (∀ g ∈ before, ¬ g.Inside pos) ∧ area.Inside pos

private theorem firstPointer_findSome (host : ShellHost Host) (h : Host) :
    host.FirstPointer h (((host.seats h).findSome? (host.pointerPos h)).getD (0, 0)) := by
  cases found : (host.seats h).findSome? (host.pointerPos h) with
  | none => exact .origin (List.findSome?_eq_none_iff.mp found)
  | some pos =>
      obtain ⟨before, seat, after, order, there, missing⟩ := List.findSome?_eq_some_iff.mp found
      exact .seat order missing there

private theorem containingOutput_eq (host : ShellHost Host) (h : Host) (pos : Coord × Coord) :
    Shell.containingOutput host h pos =
      (host.geometries h).find? fun g => Shell.contains g pos := by
  unfold Shell.containingOutput ShellHost.geometries
  generalize host.outputs h = outputs
  induction outputs with
  | nil => rfl
  | cons out rest ih =>
      rw [List.findSome?_cons, List.filterMap_cons]
      cases host.outputInfo h out with
      | none => exact ih
      | some info =>
          rw [Option.map_some]
          dsimp only
          rw [List.find?_cons]
          cases Shell.contains info.geometry pos with
          | false => exact ih
          | true => rfl

theorem ShellHost.FirstOutput.mem {host : ShellHost Host} {h : Host} {pos : Coord × Coord}
    {area : Rect} (first : host.FirstOutput h pos area) : area ∈ host.geometries h := by
  obtain ⟨before, after, order, _⟩ := first
  rw [order]
  exact List.mem_append_right before List.mem_cons_self

section Typed

variable {host : ShellHost Host} {h : Host} (fits : ∀ g ∈ host.geometries h, g.Fits)

include fits

private theorem containingOutput_eq_none {pos : Coord × Coord} :
    Shell.containingOutput host h pos = none ↔ ∀ g ∈ host.geometries h, ¬ g.Inside pos := by
  rw [containingOutput_eq, List.find?_eq_none]
  exact forall₂_congr fun g member => not_congr (contains_iff (fits g member) pos)

private theorem ShellHost.FirstOutput.containing {pos : Coord × Coord} {area : Rect}
    (first : host.FirstOutput h pos area) : Shell.containingOutput host h pos = some area := by
  have member := first.mem
  obtain ⟨before, after, order, outside, inside⟩ := first
  rw [containingOutput_eq, List.find?_eq_some_iff_append]
  refine ⟨(contains_iff (fits area member) pos).mpr inside, before, after, order, ?_⟩
  intro g earlier
  have there : g ∈ host.geometries h := by
    rw [order]
    exact List.mem_append_left _ earlier
  have missed : ¬ Shell.contains g pos = true :=
    fun on => outside g earlier ((contains_iff (fits g there) pos).mp on)
  simpa using missed

end Typed

theorem Rect.Inside.room {g : Rect} {pos : Coord × Coord} (inside : g.Inside pos) :
    0 < g.width ∧ 0 < g.height := by
  obtain ⟨left, right, top, bottom⟩ := inside
  have wide : g.x < g.x + g.width := by exact_mod_cast left.trans_lt right
  have tall : g.y < g.y + g.height := by exact_mod_cast top.trans_lt bottom
  omega

/-! ### The placement -/

private theorem Shell.margin_placed (shell : Shell) :
    10 ≤ i32 (10 + (shell.nextRand 400).1) ∧ i32 (10 + (shell.nextRand 400).1) < 410 := by
  have typed : IsI32 400 := by
    unfold IsI32
    decide
  obtain ⟨nonnegative, bounded⟩ := shell.nextRand_bounds typed
  have below := (bounded (by decide)).1
  rw [i32_of_isI32]
  · omega
  · unfold IsI32
    omega

/-- A window starts where it lies on the first output with the first pointer, or at a
margin without one, and no draw divides by zero or is negative. -/
theorem Shell.setInitialPosition_placed (shell : Shell) (host : ShellHost Host) (h : Host)
    (id : DesktopSurfaceId) {width height : Int} (wide : 0 ≤ width ∧ IsI32 width)
    (tall : 0 ≤ height ∧ IsI32 height) (fits : ∀ g ∈ host.geometries h, g.Fits)
    (sized : ∀ g ∈ host.geometries h, IsI32 g.width ∧ IsI32 g.height) :
    (∃ pos, host.FirstPointer h pos ∧ ∃ x y : Int,
      (shell.setInitialPosition host h id width height).2 = host.setViewPosition h id x y ∧
        (∀ area, host.FirstOutput h pos area →
          AxisPlaced area.x area.width width x ∧ AxisPlaced area.y area.height height y) ∧
        ((∀ g ∈ host.geometries h, ¬ g.Inside pos) →
          (10 ≤ x ∧ x < 410) ∧ 10 ≤ y ∧ y < 410)) ∧
      ∀ (drawing : Shell) (modulo : Int), IsI32 modulo →
        0 ≤ (drawing.nextRand modulo).1 ∧
          (0 < modulo →
            (drawing.nextRand modulo).1 < modulo ∧ UInt64.ofNat modulo.toNat ≠ 0) := by
  refine ⟨?_, fun drawing _ typed => drawing.nextRand_bounds typed⟩
  have first := firstPointer_findSome host h
  unfold Shell.setInitialPosition
  dsimp only
  generalize ((host.seats h).findSome? (host.pointerPos h)).getD (0, 0) = pos at first ⊢
  refine ⟨pos, first, ?_⟩
  cases found : containingOutput host h pos with
  | none =>
      refine ⟨_, _, rfl, ?_, fun _ => ⟨shell.margin_placed, Shell.margin_placed _⟩⟩
      intro area on
      rw [on.containing fits] at found
      cases found
  | some area =>
      refine ⟨_, _, rfl, ?_, ?_⟩
      · intro other on
        rw [on.containing fits] at found
        cases found
        have member := on.mem
        obtain ⟨_, _, _, _, inside⟩ := on
        have typed := fits area member
        have size := sized area member
        have room := inside.room
        exact ⟨shell.placeAxis_placed ⟨typed.x, typed.right⟩ size.1 wide room.1,
          Shell.placeAxis_placed _ ⟨typed.y, typed.bottom⟩ size.2 tall room.2⟩
      · intro none
        rw [(containingOutput_eq_none fits).mpr none] at found
        cases found

/-- A window that is narrower than the only output and as tall. -/
theorem Shell.setInitialPosition_placed_tall :
    ∃ x : Int, (Shell.setInitialPosition (.placing [⟨-5, -7, 640, 480⟩]) (Shell.new .default)
      (fun _ => some (1, 1)) ⟨⟨0, 1⟩⟩ 100 480).2 ⟨⟨0, 1⟩⟩ = some ((x : Coord), -7) ∧
        -5 ≤ x ∧ x + 100 ≤ 635 := by
  have typed : ∀ n : Int, -2147483648 ≤ n ∧ n < 2147483648 → IsI32 n := fun _ bounds => bounds
  have wide : 0 ≤ (100 : Int) ∧ IsI32 100 := ⟨by decide, typed _ (by decide)⟩
  have tall : 0 ≤ (480 : Int) ∧ IsI32 480 := ⟨by decide, typed _ (by decide)⟩
  have only : ∀ g ∈ ShellHost.geometries (.placing [⟨-5, -7, 640, 480⟩]) (fun _ => some (1, 1)),
      g = ⟨-5, -7, 640, 480⟩ := by
    intro g member
    exact List.mem_singleton.mp member
  have placed := (Shell.setInitialPosition_placed (Shell.new .default)
    (.placing [⟨-5, -7, 640, 480⟩]) (fun _ => some (1, 1)) ⟨⟨0, 1⟩⟩ wide tall
    (fun g member => only g member ▸ ⟨typed _ (by decide), typed _ (by decide),
      typed _ (by decide), typed _ (by decide)⟩)
    (fun g member => only g member ▸ ⟨typed _ (by decide), typed _ (by decide)⟩)).1
  obtain ⟨pos, first, x, y, moved, inside, _⟩ := placed
  have origin : pos = (0, 0) := by
    cases first with
    | @seat before after _ _ order _ _ =>
        have empty : before ++ _ :: after = [] := order.symm
        simp at empty
    | origin _ => rfl
  have contained : (⟨-5, -7, 640, 480⟩ : Rect).Inside pos := by
    rw [origin]
    unfold Rect.Inside
    decide +kernel
  obtain ⟨alongX, alongY⟩ := inside ⟨-5, -7, 640, 480⟩ ⟨[], [], rfl, nofun, contained⟩
  refine ⟨x, ?_, alongX.inside (by decide)⟩
  rw [moved, alongY.covers (by decide)]
  rfl

end Westonite
