import Mathlib.Data.Rat.Floor
import Westonite.Shell.Policy

/-! The views after the outputs changed: what was off every output is put on the
first one, and nothing else moves. -/

set_option autoImplicit false

namespace Westonite

open Library

variable {Host : Type}

/-- The half-open rectangle of an output. -/
def Rect.Inside (g : Rect) (pos : Coord × Coord) : Prop :=
  (g.x : Coord) ≤ pos.1 ∧ pos.1 < ((g.x + g.width : Int) : Coord) ∧
    (g.y : Coord) ≤ pos.2 ∧ pos.2 < ((g.y + g.height : Int) : Coord)

def IsI32 (value : Int) : Prop := -2147483648 ≤ value ∧ value < 2147483648

/-- The corners of a rectangle are `i32` coordinates. -/
structure Rect.Fits (g : Rect) : Prop where
  x : IsI32 g.x
  y : IsI32 g.y
  right : IsI32 (g.x + g.width)
  bottom : IsI32 (g.y + g.height)

/-- How a host answers for the positions of its views. -/
structure ShellHost.Positions (host : ShellHost Host) : Prop where
  set : ∀ h id x y other, host.viewPos (host.setViewPosition h id x y) other =
    if other = id then (host.viewPos h id).map fun _ => (x, y) else host.viewPos h other
  dirty : ∀ h id, host.viewPos (host.markViewDirty h id) = host.viewPos h
  outputs : ∀ h id x y, host.outputs (host.setViewPosition h id x y) = host.outputs h
  outputInfo : ∀ h id x y, host.outputInfo (host.setViewPosition h id x y) = host.outputInfo h
  dirtyOutputs : ∀ h id, host.outputs (host.markViewDirty h id) = host.outputs h
  dirtyInfo : ∀ h id, host.outputInfo (host.markViewDirty h id) = host.outputInfo h

/-- The rectangles of the outputs that resolve, in order. -/
def ShellHost.geometries (host : ShellHost Host) (h : Host) : List Rect :=
  (host.outputs h).filterMap fun o => (host.outputInfo h o).map OutputInfo.geometry

theorem i32_of_isI32 {value : Int} (inside : IsI32 value) : i32 value = value := by
  unfold IsI32 at inside
  unfold i32 Int.bmod
  dsimp only
  omega

theorem contains_iff {g : Rect} (fits : g.Fits) (pos : Coord × Coord) :
    Shell.contains g pos = true ↔ g.Inside pos := by
  unfold Shell.contains Rect.Inside
  rw [i32_of_isI32 fits.right, i32_of_isI32 fits.bottom]
  simp only [Bool.and_eq_true, decide_eq_true_eq, ge_iff_le, and_assoc]

/-- A host that only places views, on outputs at fixed places. -/
def ShellHost.placing (outputs : List Rect) :
    ShellHost (DesktopSurfaceId → Option (Coord × Coord)) where
  outputs _ := (List.range outputs.length).map fun i => ⟨⟨i, 1⟩⟩
  outputInfo _ id := (outputs[id.raw.slot]?).map fun geometry => ⟨"", geometry⟩
  seats _ := []
  pointerPos _ _ := none
  pointerFocus _ _ := none
  workspaceViewsTopDown _ := []
  isViewMapped _ _ := false
  viewPos h := h
  viewOutput _ _ := none
  surfaceGeometry _ _ := none
  activateInput h _ _ _ := (none, h)
  untrackSurface h _ := h
  setActivated h _ _ := h
  raiseToWorkspaceTop h _ := h
  mapSurface h _ := h
  setViewPosition h id x y := Function.update h id ((h id).map fun _ => (x, y))
  setViewPositionWithOffset h id x y dx dy :=
    Function.update h id ((h id).map fun _ => (x + dx, y + dy))
  updateTransforms h _ := h
  markViewDirty h _ := h
  destroySurfaceState h _ := h
  setBusyCursor h _ _ := h
  endBusyGrabsForClientOf h _ := h
  recreateBackground h _ _ := h

private theorem placing_positions (outputs : List Rect) :
    (ShellHost.placing outputs).Positions where
  set h id _ _ other := Function.update_apply h id _ other
  dirty _ _ := rfl
  outputs _ _ _ _ := rfl
  outputInfo _ _ _ _ := rfl
  dirtyOutputs _ _ := rfl
  dirtyInfo _ _ := rfl

/-! ### One view -/

/-- The corner of an output that a lost view is put on. -/
def Rect.quarter (g : Rect) : Coord × Coord :=
  (i32 (g.x + g.width.tdiv 4), i32 (g.y + g.height.tdiv 4))

/-- Where a view is after it was looked at. -/
def rescued (infos : List Rect) (pos : Coord × Coord) : Coord × Coord :=
  if infos.any fun g => Shell.contains g pos then pos
  else (infos.head?.map Rect.quarter).getD pos

private theorem tdiv_four_within {size : Int} (positive : 0 < size) :
    0 ≤ size.tdiv 4 ∧ size.tdiv 4 < size := by
  rw [Int.tdiv_eq_ediv_of_nonneg (Int.le_of_lt positive)]
  omega

private theorem Rect.quarter_inside {g : Rect} (fits : g.Fits) (wide : 0 < g.width)
    (tall : 0 < g.height) : g.Inside g.quarter := by
  have quarterX : 0 ≤ g.width.tdiv 4 ∧ g.width.tdiv 4 < g.width := tdiv_four_within wide
  have quarterY : 0 ≤ g.height.tdiv 4 ∧ g.height.tdiv 4 < g.height := tdiv_four_within tall
  have x : IsI32 (g.x + g.width.tdiv 4) := by
    have low := fits.x.1
    have high := fits.right.2
    constructor <;> omega
  have y : IsI32 (g.y + g.height.tdiv 4) := by
    have low := fits.y.1
    have high := fits.bottom.2
    constructor <;> omega
  unfold Rect.Inside Rect.quarter
  rw [i32_of_isI32 x, i32_of_isI32 y]
  dsimp only
  refine ⟨?_, ?_, ?_, ?_⟩
  · exact_mod_cast Int.le_add_of_nonneg_right quarterX.1
  · exact_mod_cast Int.add_lt_add_left quarterX.2 g.x
  · exact_mod_cast Int.le_add_of_nonneg_right quarterY.1
  · exact_mod_cast Int.add_lt_add_left quarterY.2 g.y

private theorem rescued_visible {infos : List Rect} {first : Rect} (head : infos.head? = some first)
    (inside : Shell.contains first first.quarter = true) (pos : Coord × Coord) :
    (infos.any fun g => Shell.contains g (rescued infos pos)) = true := by
  unfold rescued
  split
  · assumption
  · rw [head, Option.map_some, Option.getD_some]
    exact List.any_eq_true.mpr ⟨first, List.mem_of_mem_head? head, inside⟩

private theorem rescued_of_visible {infos : List Rect} {pos : Coord × Coord}
    (visible : (infos.any fun g => Shell.contains g pos) = true) : rescued infos pos = pos :=
  if_pos visible

/-! ### All of them -/

private theorem viewPos_reposition {host : ShellHost Host} (positions : host.Positions)
    (infos : List Rect) (h : Host) (id other : DesktopSurfaceId) :
    host.viewPos (Shell.reposition host infos h id) other =
      if other = id then (host.viewPos h id).map (rescued infos) else host.viewPos h other := by
  unfold Shell.reposition rescued
  cases found : host.viewPos h id with
  | none =>
      by_cases same : other = id
      · rw [if_pos same, same, found, Option.map_none]
      · rw [if_neg same]
  | some pos =>
      dsimp only
      split
      · rename_i visible
        rw [positions.dirty, Option.map_some, if_pos visible]
        split
        · rename_i same
          rw [same, found]
        · rfl
      · rename_i lost
        rw [Option.map_some, if_neg lost]
        cases infos.head? with
        | none =>
            dsimp only [Option.map_none, Option.getD_none]
            split
            · rename_i same
              rw [same, found]
            · rfl
        | some first =>
            dsimp only
            rw [positions.set, found]
            rfl

private theorem viewPos_foldl {host : ShellHost Host} (positions : host.Positions)
    {infos : List Rect}
    (idempotent : ∀ pos, rescued infos (rescued infos pos) = rescued infos pos)
    (ids : List DesktopSurfaceId) (h : Host) (other : DesktopSurfaceId) :
    host.viewPos (ids.foldl (Shell.reposition host infos) h) other =
      if other ∈ ids then (host.viewPos h other).map (rescued infos)
      else host.viewPos h other := by
  induction ids generalizing h with
  | nil => rfl
  | cons id ids ih =>
      rw [List.foldl_cons, ih, viewPos_reposition positions]
      by_cases first : other = id
      · subst first
        rw [if_pos rfl, if_pos List.mem_cons_self, Option.map_map]
        split
        · congr 1
          exact funext idempotent
        · rfl
      · simp only [first, List.mem_cons, false_or, if_false]

private theorem geometries_reposition {host : ShellHost Host} (positions : host.Positions)
    (infos : List Rect) (h : Host) (id : DesktopSurfaceId) :
    host.outputs (Shell.reposition host infos h id) = host.outputs h ∧
      host.outputInfo (Shell.reposition host infos h id) = host.outputInfo h := by
  unfold Shell.reposition
  split
  · exact ⟨rfl, rfl⟩
  · split
    · exact ⟨positions.dirtyOutputs _ _, positions.dirtyInfo _ _⟩
    · split
      · exact ⟨positions.outputs _ _ _ _, positions.outputInfo _ _ _ _⟩
      · exact ⟨rfl, rfl⟩

private theorem outputs_foldl {host : ShellHost Host} (positions : host.Positions)
    (infos : List Rect)
    (ids : List DesktopSurfaceId) (h : Host) :
    host.outputs (ids.foldl (Shell.reposition host infos) h) = host.outputs h ∧
      host.outputInfo (ids.foldl (Shell.reposition host infos) h) = host.outputInfo h := by
  induction ids generalizing h with
  | nil => exact ⟨rfl, rfl⟩
  | cons id ids ih =>
      obtain ⟨outputs, infos⟩ := geometries_reposition positions infos h id
      exact ⟨(ih _).1.trans outputs, (ih _).2.trans infos⟩

/-- With an output to put views on, every known view is looked at once. -/
private theorem viewPos_repositionAll {host : ShellHost Host} (positions : host.Positions)
    (shell : Shell)
    {h : Host} {first : Rect} (head : (host.geometries h).head? = some first)
    (inside : Shell.contains first first.quarter = true) (id : DesktopSurfaceId) :
    host.viewPos (shell.repositionAll host h) id =
      if shell.known id then (host.viewPos h id).map (rescued (host.geometries h))
      else host.viewPos h id := by
  have some : (host.outputs h).isEmpty = false := by
    cases outputs : host.outputs h with
    | nil =>
        rw [ShellHost.geometries, outputs] at head
        cases head
    | cons _ _ => rfl
  have idempotent : ∀ pos, rescued (host.geometries h) (rescued (host.geometries h) pos) =
      rescued (host.geometries h) pos :=
    fun pos => rescued_of_visible (rescued_visible head inside pos)
  have keys : id ∈ shell.surfaces.keys ↔ shell.known id = true := by
    rw [Shell.known, AList.lookup_isSome]
    exact AList.mem_keys.symm
  unfold Shell.repositionAll
  dsimp only
  rw [if_neg (by rw [some]; exact Bool.false_ne_true)]
  refine (viewPos_foldl positions idempotent shell.surfaces.keys h id).trans ?_
  simp only [keys]

private theorem geometries_repositionAll {host : ShellHost Host} (positions : host.Positions)
    (shell : Shell) (h : Host) :
    host.geometries (shell.repositionAll host h) = host.geometries h := by
  unfold Shell.repositionAll
  dsimp only
  split
  · rfl
  · obtain ⟨outputs, infos⟩ := outputs_foldl positions
      ((host.outputs h).filterMap fun o => (host.outputInfo h o).map OutputInfo.geometry)
      shell.surfaces.keys h
    unfold ShellHost.geometries
    rw [outputs, infos]

/-- With room on the first output, every view ends up on an output, those that were on
one stay where they are, and a second look moves nothing. -/
theorem views_rescued {host : ShellHost Host} (positions : host.Positions) (shell : Shell)
    {h : Host} {first : Rect} (head : (host.geometries h).head? = some first)
    (wide : 0 < first.width) (tall : 0 < first.height)
    (fits : ∀ g ∈ host.geometries h, g.Fits) :
    (∀ id pos, shell.known id = true →
      host.viewPos (shell.repositionAll host h) id = some pos →
        ∃ g ∈ host.geometries h, g.Inside pos) ∧
    (∀ id pos, host.viewPos h id = some pos → (∃ g ∈ host.geometries h, g.Inside pos) →
      host.viewPos (shell.repositionAll host h) id = some pos) ∧
    ∀ id, host.viewPos (shell.repositionAll host (shell.repositionAll host h)) id =
      host.viewPos (shell.repositionAll host h) id := by
  have firstFits := fits first (List.mem_of_mem_head? head)
  have inside := (contains_iff firstFits _).mpr (Rect.quarter_inside firstFits wide tall)
  have visible : ∀ pos, (host.geometries h).any (fun g => Shell.contains g pos) = true ↔
      ∃ g ∈ host.geometries h, g.Inside pos := by
    intro pos
    rw [List.any_eq_true]
    exact exists_congr fun g => and_congr_right fun member => contains_iff (fits g member) pos
  have once := fun id => viewPos_repositionAll positions shell head inside id
  have again : ∀ id, host.viewPos (shell.repositionAll host (shell.repositionAll host h)) id =
      if shell.known id then
        (host.viewPos (shell.repositionAll host h) id).map (rescued (host.geometries h))
      else host.viewPos (shell.repositionAll host h) id := by
    intro id
    rw [← geometries_repositionAll positions shell h] at head ⊢
    exact viewPos_repositionAll positions shell head inside id
  refine ⟨?_, ?_, ?_⟩
  · intro id pos known shown
    rw [once id, if_pos known] at shown
    obtain ⟨before, _, rfl⟩ := Option.map_eq_some_iff.mp shown
    exact (visible _).mp (rescued_visible head inside before)
  · intro id pos shown on
    rw [once id, shown, Option.map_some, rescued_of_visible ((visible pos).mpr on), ite_self]
  · intro id
    rw [again id]
    split
    · rename_i known
      rw [once id, if_pos known, Option.map_map]
      congr 1
      funext pos
      exact rescued_of_visible (rescued_visible head inside pos)
    · rfl

theorem views_rescued_tiny :
    (∃ g ∈ [(⟨-5, 7, 1, 1⟩ : Rect), ⟨0, 0, 640, 0⟩], g.Inside (-5, 7)) ∧
      (Shell.repositionAll (.placing [⟨-5, 7, 1, 1⟩, ⟨0, 0, 640, 0⟩])
          { Shell.new .default with surfaces := (∅ : Surfaces).insert ⟨⟨0, 1⟩⟩ .default }
          fun _ => some (300, 40)) ⟨⟨0, 1⟩⟩ = some (-5, 7) := by
  have placed : (Shell.repositionAll (.placing [⟨-5, 7, 1, 1⟩, ⟨0, 0, 640, 0⟩])
      { Shell.new .default with surfaces := (∅ : Surfaces).insert ⟨⟨0, 1⟩⟩ .default }
      fun _ => some (300, 40)) ⟨⟨0, 1⟩⟩ = some (-5, 7) := by
    decide +kernel
  have fits : ∀ g ∈ [(⟨-5, 7, 1, 1⟩ : Rect), ⟨0, 0, 640, 0⟩], g.Fits := by
    intro g member
    simp only [List.mem_cons, List.not_mem_nil, or_false] at member
    rcases member with rfl | rfl <;> constructor <;> constructor <;> decide
  obtain ⟨visible, _, _⟩ := @views_rescued _ _
    (placing_positions [⟨-5, 7, 1, 1⟩, ⟨0, 0, 640, 0⟩])
    { Shell.new .default with surfaces := (∅ : Surfaces).insert ⟨⟨0, 1⟩⟩ .default }
    (fun _ => some (300, 40)) ⟨-5, 7, 1, 1⟩ rfl (by decide) (by decide) fits
  exact ⟨visible ⟨⟨0, 1⟩⟩ _ rfl placed, placed⟩

end Westonite
