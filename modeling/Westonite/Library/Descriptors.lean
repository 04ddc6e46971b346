import Westonite.Library.AssocMap

/-! Tables of file descriptors: numbers for open files, given out from the lowest one,
what a program that is executed keeps of them, and what closing gives back. -/

set_option autoImplicit false

namespace Westonite.Library

/-- An open file, and whether it is closed when a program is executed. -/
structure Descriptor (File : Type) where
  file : File
  cloexec : Bool
  deriving DecidableEq, Repr

abbrev Descriptors (File : Type) := AssocMap Nat (Descriptor File)

namespace Descriptors

variable {File : Type} {fds : Descriptors File} {fd : Nat}

/-! ### The calls -/

/-- The lowest number that is not in use. -/
def lowest (fds : Descriptors File) : Nat :=
  ((List.range (fds.entries.length + 1)).find? fun fd => (fds.lookup fd).isNone).getD 0

/-- A file under the lowest number, to be closed when a program is executed. -/
def openFile (fds : Descriptors File) (file : File) : Nat × Descriptors File :=
  (fds.lowest, AssocMap.insert fds fds.lowest ⟨file, true⟩)

/-- Two files at once. -/
def openPair (fds : Descriptors File) (files : File × File) : (Nat × Nat) × Descriptors File :=
  let (first, fds) := fds.openFile files.1
  let (second, fds) := fds.openFile files.2
  ((first, second), fds)

/-- `F_DUPFD_CLOEXEC`: nothing where the number is not in use. -/
def dup (fds : Descriptors File) (fd : Nat) : Option (Nat × Descriptors File) :=
  (fds.lookup fd).map fun descriptor => fds.openFile descriptor.file

def close (fds : Descriptors File) (fd : Nat) : Descriptors File := AssocMap.erase fds fd

def closeAll (fds : Descriptors File) (closed : List Nat) : Descriptors File :=
  closed.foldl close fds

/-- The flag off; nothing where the number is not in use. -/
def clearCloexec (fds : Descriptors File) (fd : Nat) : Option (Descriptors File) :=
  (fds.lookup fd).map fun descriptor => AssocMap.insert fds fd ⟨descriptor.file, false⟩

def clearAll (fds : Descriptors File) (kept : List Nat) : Option (Descriptors File) :=
  kept.foldlM clearCloexec fds

/-- What a program that is executed has. -/
def execute (fds : Descriptors File) : Descriptors File where
  entries := fds.entries.filter fun entry => !entry.2.cloexec
  nodupKeys := fds.nodupKeys.sublist List.filter_sublist

/-! ### What each of them changes -/

/-- There is always a number that is not in use. -/
theorem lookup_lowest (fds : Descriptors File) : fds.lookup fds.lowest = none := by
  unfold lowest
  cases found : (List.range (fds.entries.length + 1)).find? fun fd => (fds.lookup fd).isNone with
  | some fd =>
      have free := List.find?_some found
      exact Option.isNone_iff_eq_none.mp free
  | none =>
      -- Every number up to the size would be one of the keys.
      have taken : List.range (fds.entries.length + 1) ⊆ fds.keys := by
        intro fd member
        have held := List.find?_eq_none.mp found fd member
        rw [Bool.not_eq_true, Option.isNone_eq_false_iff] at held
        exact AList.lookup_isSome.mp held
      have shorter := (List.subperm_of_subset List.nodup_range taken).length_le
      rw [List.length_range] at shorter
      have same : fds.keys.length = fds.entries.length := List.length_map _
      omega

private theorem lookup_openFile (file : File) :
    (fds.openFile file).2.lookup fd =
      if fd = fds.lowest then some ⟨file, true⟩ else fds.lookup fd :=
  AssocMap.lookup_insert fds fds.lowest fd ⟨file, true⟩

/-- A number that is in use stays what it is. -/
theorem lookup_openFile_of_some {file : File} {descriptor : Descriptor File}
    (held : fds.lookup fd = some descriptor) :
    (fds.openFile file).2.lookup fd = some descriptor := by
  rw [lookup_openFile, if_neg, held]
  rintro rfl
  cases (lookup_lowest fds).symm.trans held

private theorem lookup_openFile_new (file : File) :
    (fds.openFile file).2.lookup (fds.openFile file).1 = some ⟨file, true⟩ := by
  rw [lookup_openFile]
  exact if_pos rfl

private theorem lookup_close (closed : Nat) :
    (fds.close closed).lookup fd = if fd = closed then none else fds.lookup fd :=
  AssocMap.lookup_erase fds closed fd

theorem lookup_closeAll (closed : List Nat) :
    (fds.closeAll closed).lookup fd = if fd ∈ closed then none else fds.lookup fd := by
  induction closed generalizing fds with
  | nil => simp [closeAll]
  | cons first closed ih =>
      have later := @ih (fds.close first)
      rw [lookup_close] at later
      rw [closeAll, List.foldl_cons]
      refine later.trans ?_
      by_cases member : fd ∈ closed <;> by_cases same : fd = first <;> simp [member, same]

private theorem clearCloexec_eq_some {next : Descriptors File}
    (cleared : fds.clearCloexec fd = some next)
    (other : Nat) :
    next.lookup other =
      (fds.lookup other).map fun descriptor =>
        if other = fd then ⟨descriptor.file, false⟩ else descriptor := by
  obtain ⟨descriptor, held, rfl⟩ := Option.map_eq_some_iff.mp cleared
  rw [AssocMap.lookup_insert]
  by_cases same : other = fd
  · subst same
    simp [held]
  · simp [same]

/-- The flags of several go off where all of them are in use. -/
theorem clearAll_eq_some {next : Descriptors File} {kept : List Nat}
    (cleared : fds.clearAll kept = some next) (other : Nat) :
    next.lookup other =
      (fds.lookup other).map fun descriptor =>
        if other ∈ kept then ⟨descriptor.file, false⟩ else descriptor := by
  induction kept generalizing fds with
  | nil =>
      cases cleared
      simp
  | cons first kept ih =>
      obtain ⟨middle, once, later⟩ := Option.bind_eq_some_iff.mp cleared
      rw [ih later, clearCloexec_eq_some once, Option.map_map]
      congr 1
      funext descriptor
      by_cases member : other ∈ kept <;> by_cases same : other = first <;> simp [member, same]

theorem clearAll_isSome {kept : List Nat} (held : ∀ fd ∈ kept, (fds.lookup fd).isSome) :
    (fds.clearAll kept).isSome := by
  induction kept generalizing fds with
  | nil => rfl
  | cons first kept ih =>
      obtain ⟨descriptor, there⟩ := Option.isSome_iff_exists.mp (held first List.mem_cons_self)
      have once : fds.clearCloexec first = some _ := congrArg (Option.map _) there
      have same : fds.clearAll (first :: kept) = _ :=
        congrArg (fun cleared => cleared.bind fun next => next.clearAll kept) once
      rw [same]
      apply ih
      intro fd member
      rw [clearCloexec_eq_some once, Option.isSome_map]
      exact held fd (List.mem_cons_of_mem first member)

theorem lookup_execute :
    fds.execute.lookup fd = (fds.lookup fd).filter fun descriptor => !descriptor.cloexec := by
  apply Option.ext
  intro descriptor
  rw [Option.filter_eq_some_iff, ← AssocMap.mem_entries_iff, ← AssocMap.mem_entries_iff]
  exact List.mem_filter

/-! ### What was opened on top of a table -/

/-- `next` is `fds` and what was opened, under numbers that were not in use. -/
structure Above (fds next : Descriptors File) (opened : List (Nat × Descriptor File)) : Prop where
  unused : ∀ entry ∈ opened, fds.lookup entry.1 = none
  distinct : (opened.map Prod.fst).Nodup
  here : ∀ entry ∈ opened, next.lookup entry.1 = some entry.2
  elsewhere : ∀ fd, fd ∉ opened.map Prod.fst → next.lookup fd = fds.lookup fd

namespace Above

variable {next : Descriptors File} {opened : List (Nat × Descriptor File)}

theorem nothing (fds : Descriptors File) : Above fds fds [] where
  unused := by simp
  distinct := List.nodup_nil
  here := by simp
  elsewhere := fun _ _ => rfl

/-- A number that was in use stays what it was. -/
theorem before (above : Above fds next opened) {descriptor : Descriptor File}
    (held : fds.lookup fd = some descriptor) : next.lookup fd = some descriptor := by
  refine (above.elsewhere fd ?_).trans held
  intro member
  obtain ⟨entry, among, rfl⟩ := List.mem_map.mp member
  cases (above.unused entry among).symm.trans held

theorem held (above : Above fds next opened) (member : fd ∈ opened.map Prod.fst) :
    (next.lookup fd).isSome := by
  obtain ⟨entry, among, rfl⟩ := List.mem_map.mp member
  rw [above.here entry among]
  rfl

theorem openFile (above : Above fds next opened) (file : File) :
    Above fds (next.openFile file).2 (((next.openFile file).1, ⟨file, true⟩) :: opened) := by
  have fresh : next.lookup (next.openFile file).1 = none := lookup_lowest next
  have other : (next.openFile file).1 ∉ opened.map Prod.fst := by
    intro member
    obtain ⟨entry, among, same⟩ := List.mem_map.mp member
    have held := above.here entry among
    rw [same, fresh] at held
    cases held
  constructor
  · intro entry member
    obtain rfl | among := List.mem_cons.mp member
    · exact (above.elsewhere _ other).symm.trans fresh
    · exact above.unused entry among
  · exact List.nodup_cons.mpr ⟨other, above.distinct⟩
  · intro entry member
    obtain rfl | among := List.mem_cons.mp member
    · exact lookup_openFile_new file
    · exact lookup_openFile_of_some (above.here entry among)
  · intro fd outside
    rw [List.map_cons, List.mem_cons, not_or] at outside
    rw [lookup_openFile]
    exact (if_neg outside.1).trans (above.elsewhere fd outside.2)

theorem openPair (above : Above fds next opened) (files : File × File) :
    Above fds (next.openPair files).2
      (((next.openPair files).1.2, ⟨files.2, true⟩) ::
        ((next.openPair files).1.1, ⟨files.1, true⟩) :: opened) :=
  (above.openFile files.1).openFile files.2

/-- Some of what was opened is closed. -/
theorem closeAll (above : Above fds next opened) {closed : List Nat}
    (within : ∀ fd ∈ closed, fd ∈ opened.map Prod.fst) :
    Above fds (next.closeAll closed) (opened.filter fun entry => entry.1 ∉ closed) := by
  constructor
  · intro entry member
    exact above.unused entry (List.mem_of_mem_filter member)
  · exact above.distinct.sublist (List.filter_sublist.map Prod.fst)
  · intro entry member
    obtain ⟨among, kept⟩ := List.mem_filter.mp member
    rw [lookup_closeAll, if_neg (of_decide_eq_true kept)]
    exact above.here entry among
  · intro fd outside
    rw [lookup_closeAll]
    split
    · rename_i member
      obtain ⟨entry, among, rfl⟩ := List.mem_map.mp (within fd member)
      exact (above.unused entry among).symm
    · rename_i kept
      apply above.elsewhere
      intro member
      obtain ⟨entry, among, rfl⟩ := List.mem_map.mp member
      exact outside (List.mem_map_of_mem (List.mem_filter.mpr ⟨among, decide_eq_true kept⟩))

/-- Where all of it is closed, every number is again what it was. -/
theorem closeAll_lookup (above : Above fds next opened) {closed : List Nat}
    (same : ∀ fd, fd ∈ closed ↔ fd ∈ opened.map Prod.fst) (fd : Nat) :
    (next.closeAll closed).lookup fd = fds.lookup fd := by
  apply (above.closeAll fun fd => (same fd).mp).elsewhere
  intro member
  obtain ⟨entry, among, -⟩ := List.mem_map.mp member
  obtain ⟨opened, kept⟩ := List.mem_filter.mp among
  exact of_decide_eq_true kept ((same entry.1).mpr (List.mem_map_of_mem opened))

/-- What was there before is closed. -/
theorem closeBefore (above : Above fds next opened) {closed : List Nat}
    (held : ∀ fd ∈ closed, (fds.lookup fd).isSome) :
    Above (fds.closeAll closed) (next.closeAll closed) opened := by
  have apart : ∀ entry ∈ opened, entry.1 ∉ closed := by
    intro entry among member
    have there := held entry.1 member
    rw [above.unused entry among] at there
    cases there
  constructor
  · intro entry among
    rw [lookup_closeAll, if_neg (apart entry among)]
    exact above.unused entry among
  · exact above.distinct
  · intro entry among
    rw [lookup_closeAll, if_neg (apart entry among)]
    exact above.here entry among
  · intro fd outside
    rw [lookup_closeAll, lookup_closeAll, above.elsewhere fd outside]

/-- A program that is executed has, on top of what it would have had, those whose flag
is off. -/
theorem execute (above : Above fds next opened) (flagged : ∀ entry ∈ opened, entry.2.cloexec = true)
    {inherited : Descriptors File} {kept : List Nat} (cleared : next.clearAll kept = some inherited)
    (within : ∀ fd ∈ kept, fd ∈ opened.map Prod.fst) :
    Above fds.execute inherited.execute
      ((opened.filter fun entry => entry.1 ∈ kept).map fun entry =>
        (entry.1, ⟨entry.2.file, false⟩)) := by
  have found : ∀ fd, inherited.execute.lookup fd = _ := fun fd =>
    lookup_execute.trans (congrArg _ (clearAll_eq_some cleared fd))
  constructor
  · intro entry member
    obtain ⟨before, among, rfl⟩ := List.mem_map.mp member
    have free := above.unused before (List.mem_of_mem_filter among)
    exact lookup_execute.trans (congrArg _ free)
  · rw [List.map_map]
    exact above.distinct.sublist (List.filter_sublist.map Prod.fst)
  · intro entry member
    obtain ⟨before, among, rfl⟩ := List.mem_map.mp member
    obtain ⟨opened, handed⟩ := List.mem_filter.mp among
    rw [found, above.here before opened, Option.map_some, if_pos (of_decide_eq_true handed)]
    rfl
  · intro fd outside
    have apart : fd ∉ kept := by
      intro member
      obtain ⟨entry, among, rfl⟩ := List.mem_map.mp (within fd member)
      apply outside
      rw [List.map_map]
      exact List.mem_map_of_mem (List.mem_filter.mpr ⟨among, decide_eq_true member⟩)
    rw [found, lookup_execute]
    simp only [apart, if_false, Option.map_id_fun', id_eq]
    by_cases among : fd ∈ opened.map Prod.fst
    · obtain ⟨entry, member, rfl⟩ := List.mem_map.mp among
      rw [above.here entry member, above.unused entry member, Option.filter_some,
        flagged entry member]
      rfl
    · rw [above.elsewhere fd among]

/-- Two tables over one table differ where only one of them has something. -/
theorem agree {extra : List (Nat × Descriptor File)} {other : Descriptors File}
    (above : Above fds next (extra ++ opened)) (alike : Above fds other opened)
    (outside : fd ∉ extra.map Prod.fst) : next.lookup fd = other.lookup fd := by
  by_cases member : fd ∈ opened.map Prod.fst
  · obtain ⟨entry, among, rfl⟩ := List.mem_map.mp member
    have here := above.here entry (List.mem_append_right extra among)
    exact here.trans (alike.here entry among).symm
  · have elsewhere : fd ∉ (extra ++ opened).map Prod.fst := by
      rw [List.map_append, List.mem_append]
      exact not_or.mpr ⟨outside, member⟩
    exact (above.elsewhere fd elsewhere).trans (alike.elsewhere fd member).symm

/-- What is opened on top of what was opened. -/
theorem trans (above : Above fds next opened) {last : Descriptors File}
    {later : List (Nat × Descriptor File)} (further : Above next last later) :
    Above fds last (later ++ opened) := by
  have apart : ∀ entry ∈ later, entry.1 ∉ opened.map Prod.fst := by
    intro entry member again
    obtain ⟨old, among, same⟩ := List.mem_map.mp again
    have held := above.here old among
    rw [same, further.unused entry member] at held
    cases held
  constructor
  · intro entry member
    obtain new | old := List.mem_append.mp member
    · exact (above.elsewhere entry.1 (apart entry new)).symm.trans (further.unused entry new)
    · exact above.unused entry old
  · rw [List.map_append]
    refine further.distinct.append above.distinct ?_
    intro fd new
    obtain ⟨entry, member, rfl⟩ := List.mem_map.mp new
    exact apart entry member
  · intro entry member
    obtain new | old := List.mem_append.mp member
    · exact further.here entry new
    · exact further.before (above.here entry old)
  · intro fd outside
    rw [List.map_append, List.mem_append, not_or] at outside
    exact (further.elsewhere fd outside.1).trans (above.elsewhere fd outside.2)

end Above

/-- All that `next` has over `fds` is under these numbers. -/
def Adds (fds next : Descriptors File) (numbers : List Nat) : Prop :=
  ∃ opened, Above fds next opened ∧ (opened.map Prod.fst).Perm numbers

namespace Adds

variable {next : Descriptors File} {numbers : List Nat}

theorem nothing (fds : Descriptors File) : Adds fds fds [] := ⟨[], .nothing fds, .nil⟩

theorem perm (adds : Adds fds next numbers) {others : List Nat} (same : numbers.Perm others) :
    Adds fds next others := by
  obtain ⟨opened, above, keys⟩ := adds
  exact ⟨opened, above, keys.trans same⟩

theorem held (adds : Adds fds next numbers) (member : fd ∈ numbers) :
    (next.lookup fd).isSome := by
  obtain ⟨opened, above, keys⟩ := adds
  exact above.held (keys.mem_iff.mpr member)

theorem congr (adds : Adds fds next numbers) {last : Descriptors File}
    (same : ∀ fd, last.lookup fd = next.lookup fd) : Adds fds last numbers := by
  obtain ⟨opened, above, keys⟩ := adds
  refine ⟨opened, ⟨above.unused, above.distinct, ?_, ?_⟩, keys⟩
  · intro entry among
    exact (same entry.1).trans (above.here entry among)
  · intro fd outside
    exact (same fd).trans (above.elsewhere fd outside)

theorem above (adds : Adds fds next numbers) {last : Descriptors File}
    {opened : List (Nat × Descriptor File)} (above : Above next last opened) :
    Adds fds last (opened.map Prod.fst ++ numbers) := by
  obtain ⟨before, first, keys⟩ := adds
  refine ⟨opened ++ before, first.trans above, ?_⟩
  rw [List.map_append]
  exact keys.append_left _

/-- Some of the numbers are closed. -/
theorem closeAll {closed rest : List Nat} (adds : Adds fds next (closed ++ rest)) :
    Adds fds (next.closeAll closed) rest := by
  obtain ⟨opened, above, keys⟩ := adds
  refine ⟨_, above.closeAll fun fd member =>
    keys.mem_iff.mpr (List.mem_append_left rest member), ?_⟩
  have filtered : (opened.filter fun entry => entry.1 ∉ closed).map Prod.fst =
      (opened.map Prod.fst).filter fun fd => fd ∉ closed := by
    rw [List.filter_map]
    rfl
  have apart := List.disjoint_of_nodup_append (keys.nodup_iff.mp above.distinct)
  have gone : (closed.filter fun fd => fd ∉ closed) = [] := by simp
  have kept : (rest.filter fun fd => fd ∉ closed) = rest := by
    apply List.filter_eq_self.mpr
    intro fd member
    exact decide_eq_true fun again => apart again member
  have both := keys.filter fun fd => fd ∉ closed
  rw [List.filter_append, gone, kept] at both
  rw [filtered]
  exact both

end Adds

end Descriptors

end Westonite.Library
