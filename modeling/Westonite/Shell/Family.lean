import Westonite.Library.Forest
import Westonite.Shell.Policy

/-! Parent and children links of the known surfaces, and what each operation
does to them. -/

set_option autoImplicit false

namespace Westonite

open Library

def parentOf (surfaces : Surfaces) (id : DesktopSurfaceId) : Option DesktopSurfaceId :=
  (surfaces.lookup id).bind SurfState.parent

def childrenOf (surfaces : Surfaces) (id : DesktopSurfaceId) : List DesktopSurfaceId :=
  ((surfaces.lookup id).map SurfState.children).getD []

/-- A surface is listed once, and by its parent only. -/
structure Linked (surfaces : Surfaces) : Prop where
  child_iff : ∀ p c, c ∈ childrenOf surfaces p ↔ parentOf surfaces c = some p
  nodup : ∀ p, (childrenOf surfaces p).Nodup

/-- The same known surfaces with the same links. -/
structure SameLinks (before after : Surfaces) : Prop where
  known : ∀ id, (after.lookup id).isSome = (before.lookup id).isSome
  parent : ∀ id, parentOf after id = parentOf before id
  children : ∀ id, childrenOf after id = childrenOf before id

theorem known_of_parentOf {surfaces : Surfaces} {id p : DesktopSurfaceId}
    (link : parentOf surfaces id = some p) : (surfaces.lookup id).isSome := by
  unfold parentOf at link
  cases found : surfaces.lookup id with
  | none => simp [found] at link
  | some st => rfl

theorem known_of_childrenOf {surfaces : Surfaces} {p c : DesktopSurfaceId}
    (member : c ∈ childrenOf surfaces p) : (surfaces.lookup p).isSome := by
  unfold childrenOf at member
  cases found : surfaces.lookup p with
  | none => simp [found] at member
  | some st => rfl

namespace Linked

variable {surfaces : Surfaces}

theorem empty : Linked ∅ where
  child_iff := by simp [childrenOf, parentOf]
  nodup := by simp [childrenOf]

theorem parent_known (linked : Linked surfaces) {id p : DesktopSurfaceId}
    (link : parentOf surfaces id = some p) : (surfaces.lookup p).isSome :=
  known_of_childrenOf ((linked.child_iff p id).mpr link)

theorem child_known (linked : Linked surfaces) {p c : DesktopSurfaceId}
    (member : c ∈ childrenOf surfaces p) : (surfaces.lookup c).isSome :=
  known_of_parentOf ((linked.child_iff p c).mp member)

theorem of_same {after : Surfaces} (linked : Linked surfaces)
    (same : SameLinks surfaces after) : Linked after where
  child_iff p c := by rw [same.children, same.parent, linked.child_iff]
  nodup p := by rw [same.children]; exact linked.nodup p

end Linked

/-- A change of the other fields keeps the links. -/
theorem sameLinks_map {before after : Surfaces}
    {change : DesktopSurfaceId → SurfState → SurfState}
    (lookup : ∀ id, after.lookup id = (before.lookup id).map (change id))
    (parent : ∀ id st, (change id st).parent = st.parent)
    (children : ∀ id st, (change id st).children = st.children) : SameLinks before after where
  known id := by rw [lookup, Option.isSome_map]
  parent id := by
    unfold parentOf
    rw [lookup]
    cases before.lookup id with
    | none => rfl
    | some st => exact parent id st
  children id := by
    unfold childrenOf
    rw [lookup]
    cases before.lookup id with
    | none => rfl
    | some st => exact children id st

theorem sameLinks_modify (surfaces : Surfaces) (id : DesktopSurfaceId)
    {change : SurfState → SurfState} (parent : ∀ st, (change st).parent = st.parent)
    (children : ∀ st, (change st).children = st.children) :
    SameLinks surfaces (surfaces.modify id change) := by
  apply sameLinks_map fun other => AssocMap.lookup_modify id other change surfaces
  · intro other st
    split
    · exact parent st
    · rfl
  · intro other st
    split
    · exact children st
    · rfl

/-! ### A new surface -/

theorem parentOf_insert_default (surfaces : Surfaces) (id other : DesktopSurfaceId) :
    parentOf (surfaces.insert id .default) other =
      if other = id then none else parentOf surfaces other := by
  unfold parentOf
  rw [AssocMap.lookup_insert]
  by_cases same : other = id <;> simp [same, SurfState.default]

private theorem childrenOf_insert_default (surfaces : Surfaces) (id other : DesktopSurfaceId) :
    childrenOf (surfaces.insert id .default) other =
      if other = id then [] else childrenOf surfaces other := by
  unfold childrenOf
  rw [AssocMap.lookup_insert]
  by_cases same : other = id <;> simp [same, SurfState.default]

theorem Linked.insert_default {surfaces : Surfaces} (linked : Linked surfaces)
    {id : DesktopSurfaceId} (fresh : surfaces.lookup id = none) :
    Linked (surfaces.insert id .default) where
  child_iff p c := by
    rw [childrenOf_insert_default, parentOf_insert_default]
    by_cases parent : p = id
    · subst parent
      have none : parentOf surfaces c ≠ some p := by
        intro link
        simpa [fresh] using linked.parent_known link
      by_cases child : c = p <;> simp [child, none]
    · by_cases child : c = id
      · subst child
        have none : c ∉ childrenOf surfaces p := by
          intro member
          simpa [fresh] using linked.child_known member
        simp [parent, none]
      · simp [parent, child, linked.child_iff]
  nodup p := by
    rw [childrenOf_insert_default]
    by_cases parent : p = id
    · simp [parent]
    · simpa [parent] using linked.nodup p

/-! ### A new parent -/

/-- The parent a surface gets: the one asked for, when that one is known. -/
def knownParent (surfaces : Surfaces) (parent : Option DesktopSurfaceId) :
    Option DesktopSurfaceId :=
  parent.filter fun np => (surfaces.lookup np).isSome

private theorem lookup_unlinkFrom (surfaces : Surfaces) (id : DesktopSurfaceId)
    (parent : Option DesktopSurfaceId) (other : DesktopSurfaceId) :
    (Shell.unlinkFrom surfaces id parent).lookup other =
      (surfaces.lookup other).map fun value =>
        if parent = some other then value.withoutChild id else value := by
  unfold Shell.unlinkFrom
  cases parent with
  | none => simp
  | some op =>
      simp only
      rw [AssocMap.lookup_modify]
      congr 1
      funext value
      simp only [Option.some.injEq, eq_comm]

theorem known_of_knownParent {surfaces : Surfaces} {parent : Option DesktopSurfaceId}
    {np : DesktopSurfaceId} (new : knownParent surfaces parent = some np) :
    (surfaces.lookup np).isSome :=
  (Option.filter_eq_some_iff.mp new).2

/-- What `set_parent` makes of one entry. -/
def reparented (st : SurfState) (id : DesktopSurfaceId) (new : Option DesktopSurfaceId)
    (other : DesktopSurfaceId) (value : SurfState) : SurfState :=
  let value := if st.parent = some other then value.withoutChild id else value
  let value :=
    if new = some other then { value with children := value.children ++ [id] } else value
  if other = id then { value with parent := new } else value

private theorem reparented_children (st : SurfState) (id : DesktopSurfaceId)
    (new : Option DesktopSurfaceId) (other : DesktopSurfaceId) (value : SurfState) :
    (reparented st id new other value).children =
      (if st.parent = some other then value.withoutChild id else value).children ++
        (if new = some other then [id] else []) := by
  unfold reparented
  generalize (if st.parent = some other then value.withoutChild id else value) = detached
  by_cases given : new = some other
  · simp only [if_pos given]
    split <;> rfl
  · simp only [if_neg given, List.append_nil]
    split <;> rfl

theorem reparented_focusCount (st : SurfState) (id : DesktopSurfaceId)
    (new : Option DesktopSurfaceId) (other : DesktopSurfaceId) (value : SurfState) :
    (reparented st id new other value).focusCount = value.focusCount := by
  unfold reparented
  dsimp only
  split <;> split <;> split <;> rfl

theorem lookup_setParent {shell : Shell} {id : DesktopSurfaceId} {st : SurfState}
    (found : shell.surfaces.lookup id = some st) (parent : Option DesktopSurfaceId)
    (other : DesktopSurfaceId) :
    (shell.setParent id parent).surfaces.lookup other =
      (shell.surfaces.lookup other).map
        (reparented st id (knownParent shell.surfaces parent) other) := by
  unfold Shell.setParent
  simp only [found]
  have filtered : (parent.filter fun np =>
      ((Shell.unlinkFrom shell.surfaces id st.parent).lookup np).isSome) =
      knownParent shell.surfaces parent := by
    unfold knownParent
    congr 1
    funext np
    rw [lookup_unlinkFrom, Option.isSome_map]
  rw [filtered]
  cases new : knownParent shell.surfaces parent with
  | none =>
      simp only
      rw [AssocMap.lookup_modify, lookup_unlinkFrom, Option.map_map]
      congr 1
  | some np =>
      simp only
      rw [AssocMap.lookup_modify, AssocMap.lookup_modify, lookup_unlinkFrom, Option.map_map,
        Option.map_map]
      congr 1
      funext value
      simp [reparented, eq_comm]

theorem parentOf_setParent {shell : Shell} {id : DesktopSurfaceId}
    (known : (shell.surfaces.lookup id).isSome) (parent : Option DesktopSurfaceId)
    (other : DesktopSurfaceId) :
    parentOf (shell.setParent id parent).surfaces other =
      if other = id then knownParent shell.surfaces parent
      else parentOf shell.surfaces other := by
  obtain ⟨st, found⟩ := Option.isSome_iff_exists.mp known
  unfold parentOf
  rw [lookup_setParent found]
  by_cases same : other = id
  · rw [same, found]
    simp [reparented]
  · cases present : shell.surfaces.lookup other with
    | none => simp [same]
    | some value =>
        simp only [Option.map_some, Option.bind_some, same, if_false, reparented]
        split <;> split <;> rfl

/-- Only its parent lists a surface. -/
private theorem Linked.filter_children {surfaces : Surfaces} (linked : Linked surfaces)
    {id p : DesktopSurfaceId} (apart : parentOf surfaces id ≠ some p) :
    (childrenOf surfaces p).filter (fun c => c ≠ id) = childrenOf surfaces p := by
  rw [List.filter_eq_self]
  intro c member
  have link := (linked.child_iff p c).mp member
  rw [decide_eq_true_iff]
  rintro rfl
  exact apart link

/-- The same of a record that is there. -/
private theorem Linked.filter_detached {surfaces : Surfaces} (linked : Linked surfaces)
    {id p : DesktopSurfaceId} {st : SurfState} (found : surfaces.lookup id = some st)
    (apart : st.parent ≠ some p) :
    (childrenOf surfaces p).filter (fun c => c ≠ id) = childrenOf surfaces p := by
  have parent : parentOf surfaces id = st.parent := by
    unfold parentOf
    rw [found, Option.bind_some]
  exact linked.filter_children (parent ▸ apart)

private theorem childrenOf_setParent {shell : Shell} (linked : Linked shell.surfaces)
    {id : DesktopSurfaceId} (known : (shell.surfaces.lookup id).isSome)
    (parent : Option DesktopSurfaceId) (other : DesktopSurfaceId) :
    childrenOf (shell.setParent id parent).surfaces other =
      (childrenOf shell.surfaces other).filter (fun c => c ≠ id) ++
        (if knownParent shell.surfaces parent = some other then [id] else []) := by
  obtain ⟨st, found⟩ := Option.isSome_iff_exists.mp known
  have detached : st.parent ≠ some other →
      (childrenOf shell.surfaces other).filter (fun c => c ≠ id) =
        childrenOf shell.surfaces other :=
    linked.filter_detached found
  unfold childrenOf at detached ⊢
  rw [lookup_setParent found]
  cases present : shell.surfaces.lookup other with
  | none =>
      have unknown : knownParent shell.surfaces parent ≠ some other := by
        intro new
        simpa [present] using known_of_knownParent new
      simp [unknown]
  | some value =>
      rw [present] at detached
      simp only [Option.map_some, Option.getD_some] at detached ⊢
      have kept : (if st.parent = some other then value.withoutChild id else value).children =
          value.children.filter fun c => c ≠ id := by
        by_cases same : st.parent = some other
        · simp [same, SurfState.withoutChild]
        · rw [if_neg same, detached same]
      rw [reparented_children, kept]

theorem lookup_setParent_isSome (shell : Shell) (id other : DesktopSurfaceId)
    (parent : Option DesktopSurfaceId) :
    ((shell.setParent id parent).surfaces.lookup other).isSome =
      (shell.surfaces.lookup other).isSome := by
  cases found : shell.surfaces.lookup id with
  | none => simp [Shell.setParent, found]
  | some st => rw [lookup_setParent found, Option.isSome_map]

theorem setParent_linked {shell : Shell} (linked : Linked shell.surfaces)
    (id : DesktopSurfaceId) (parent : Option DesktopSurfaceId) :
    Linked (shell.setParent id parent).surfaces := by
  cases found : shell.surfaces.lookup id with
  | none => simpa [Shell.setParent, found] using linked
  | some st =>
      have known : (shell.surfaces.lookup id).isSome := by simp [found]
      constructor
      · intro p c
        rw [childrenOf_setParent linked known, parentOf_setParent known, List.mem_append,
          List.mem_filter, linked.child_iff]
        by_cases self : c = id
        · subst self
          by_cases new : knownParent shell.surfaces parent = some p <;> simp [new]
        · by_cases new : knownParent shell.surfaces parent = some p <;> simp [new, self]
      · intro p
        rw [childrenOf_setParent linked known]
        have kept := (linked.nodup p).filter fun c => decide (c ≠ id)
        by_cases new : knownParent shell.surfaces parent = some p
        · rw [if_pos new, List.nodup_append]
          refine ⟨kept, by simp, ?_⟩
          intro c member other single
          obtain rfl := List.mem_singleton.mp single
          simpa using (List.mem_filter.mp member).2
        · simpa [new] using kept

/-! ### A removed surface -/

/-- What `surface_removed` makes of one remaining entry. -/
def orphaned (st : SurfState) (id other : DesktopSurfaceId) (value : SurfState) : SurfState :=
  let value := if other ∈ st.children then value.withoutParent else value
  if st.parent = some other then value.withoutChild id else value

theorem orphaned_focusCount (st : SurfState) (id other : DesktopSurfaceId)
    (value : SurfState) : (orphaned st id other value).focusCount = value.focusCount := by
  unfold orphaned
  dsimp only
  split <;> split <;> rfl

theorem lookup_surfaceRemoved {Host : Type} (host : ShellHost Host) {shell : Shell} (h : Host)
    {id : DesktopSurfaceId} {st : SurfState} (found : shell.surfaces.lookup id = some st)
    (other : DesktopSurfaceId) :
    (shell.surfaceRemoved host h id).1.surfaces.lookup other =
      if other = id then none
      else (shell.surfaces.lookup other).map (orphaned st id other) := by
  unfold Shell.surfaceRemoved
  simp only [found]
  have idempotent : ∀ value : SurfState, value.withoutParent.withoutParent = value.withoutParent :=
    fun _ => rfl
  rw [lookup_unlinkFrom, AssocMap.lookup_foldl_modify idempotent, AssocMap.lookup_erase]
  by_cases same : other = id
  · simp [same]
  · simp only [same, if_false, Option.map_map]
    rfl

theorem parentOf_surfaceRemoved {Host : Type} (host : ShellHost Host) {shell : Shell}
    (linked : Linked shell.surfaces) (h : Host) {id : DesktopSurfaceId}
    (known : (shell.surfaces.lookup id).isSome) (other : DesktopSurfaceId) :
    parentOf (shell.surfaceRemoved host h id).1.surfaces other =
      without (parentOf shell.surfaces) id other := by
  obtain ⟨st, found⟩ := Option.isSome_iff_exists.mp known
  have child : other ∈ st.children ↔ parentOf shell.surfaces other = some id := by
    rw [← linked.child_iff]
    simp [childrenOf, found]
  unfold without
  unfold parentOf at child ⊢
  rw [lookup_surfaceRemoved host h found]
  by_cases same : other = id
  · simp [same]
  · cases present : shell.surfaces.lookup other with
    | none => simp [same]
    | some value =>
        rw [present] at child
        simp only [same, if_false, false_or, Option.map_some, Option.bind_some] at child ⊢
        by_cases listed : other ∈ st.children
        · rw [if_pos (child.mp listed)]
          unfold orphaned
          by_cases up : st.parent = some other <;>
            simp [listed, up, SurfState.withoutChild, SurfState.withoutParent]
        · rw [if_neg fun link => listed (child.mpr link)]
          unfold orphaned
          by_cases up : st.parent = some other <;>
            simp [listed, up, SurfState.withoutChild]

private theorem childrenOf_surfaceRemoved {Host : Type} (host : ShellHost Host) {shell : Shell}
    (linked : Linked shell.surfaces) (h : Host) {id : DesktopSurfaceId}
    (known : (shell.surfaces.lookup id).isSome) (other : DesktopSurfaceId) :
    childrenOf (shell.surfaceRemoved host h id).1.surfaces other =
      if other = id then [] else (childrenOf shell.surfaces other).filter fun c => c ≠ id := by
  obtain ⟨st, found⟩ := Option.isSome_iff_exists.mp known
  have detached : st.parent ≠ some other →
      (childrenOf shell.surfaces other).filter (fun c => c ≠ id) =
        childrenOf shell.surfaces other :=
    linked.filter_detached found
  unfold childrenOf at detached ⊢
  rw [lookup_surfaceRemoved host h found]
  by_cases same : other = id
  · simp [same]
  · cases present : shell.surfaces.lookup other with
    | none => simp [same]
    | some value =>
        rw [present] at detached
        simp only [same, if_false, Option.map_some, Option.getD_some] at detached ⊢
        unfold orphaned
        by_cases up : st.parent = some other
        · rw [if_pos up]
          split <;> rfl
        · rw [if_neg up, detached up]
          split <;> rfl

theorem surfaceRemoved_linked {Host : Type} (host : ShellHost Host) {shell : Shell}
    (linked : Linked shell.surfaces) (h : Host) (id : DesktopSurfaceId) :
    Linked (shell.surfaceRemoved host h id).1.surfaces := by
  cases found : shell.surfaces.lookup id with
  | none => simpa [Shell.surfaceRemoved, found] using linked
  | some st =>
      have known : (shell.surfaces.lookup id).isSome := by simp [found]
      constructor
      · intro p c
        rw [childrenOf_surfaceRemoved host linked h known,
          parentOf_surfaceRemoved host linked h known]
        unfold without
        by_cases parent : p = id
        · subst parent
          rw [if_pos rfl]
          constructor
          · simp
          · intro link
            split at link
            · cases link
            · rename_i kept
              exact absurd (Or.inr link) kept
        · rw [if_neg parent, List.mem_filter, linked.child_iff]
          constructor
          · rintro ⟨link, different⟩
            rw [if_neg, link]
            rintro (self | orphan)
            · simp [self] at different
            · exact parent (Option.some.inj (link.symm.trans orphan))
          · intro link
            split at link
            · cases link
            · rename_i kept
              exact ⟨link, by simpa using fun self => kept (.inl self)⟩
      · intro p
        rw [childrenOf_surfaceRemoved host linked h known]
        by_cases same : p = id
        · simp [same]
        · simpa [same] using (linked.nodup p).filter fun c => decide (c ≠ id)

/-! ### Walks along the links -/

private theorem lastMappedChild_known {Host : Type} (host : ShellHost Host) {shell : Shell}
    (linked : Linked shell.surfaces) (h : Host) {id child : DesktopSurfaceId}
    (found : shell.lastMappedChild host h id = some child) : shell.known child := by
  unfold Shell.lastMappedChild at found
  cases present : shell.surfaces.lookup id with
  | none => simp [present] at found
  | some st =>
      simp only [present] at found
      have member := List.mem_of_find?_eq_some found
      have listed : child ∈ childrenOf shell.surfaces id := by
        simpa [childrenOf, present] using member
      exact linked.child_known listed

theorem redirect_known {Host : Type} (host : ShellHost Host) {shell : Shell}
    (linked : Linked shell.surfaces) (h : Host) (hops : Nat) {surface : DesktopSurfaceId}
    (known : shell.known surface) (target : ActivateTarget) :
    shell.known (shell.redirect host h hops surface target).1 := by
  induction hops generalizing surface target with
  | zero => exact known
  | succ hops ih =>
      unfold Shell.redirect
      cases found : shell.lastMappedChild host h surface with
      | none => exact known
      | some child => exact ih (lastMappedChild_known host linked h found) _

end Westonite
