import Westonite.Library.Run
import Westonite.Xwayland.Launch
import Westonite.Xwayland.Machine

/-! Servers one after another over the table of descriptors: what the compositor, the module
and libwayland have of it, whatever is called and whichever calls fail. -/

set_option autoImplicit false

namespace Westonite.Xwayland.Launch

open Library
open Westonite.Spawn (Entry)

variable {File : Type}

/-- The descriptors of all servers: what is parked, up to the teardown, the sockets of window
managers that the module has taken over, and the sockets that libwayland has. -/
structure Table (File : Type) where
  parked : Option Parked
  managers : List Nat
  clients : List Nat
  fds : Descriptors File

namespace Table

def start (fds : Descriptors File) : Table File where
  parked := some ⟨none, none⟩
  managers := []
  clients := []
  fds := fds

def numbers (table : Table File) : List Nat :=
  table.parked.elim [] Parked.fds ++ table.managers ++ table.clients

end Table

/-- What happens to the table. -/
inductive Event (File : Type) where
  | spawnXserver (request : Request) (ends : Ends File) (works : Works) (env : List Entry)
  | displayFd (readable : Bool) (read : ReadResult)
  | childExit (pid : Int)
  | managerGone (fd : Nat)
  | clientGone (fd : Nat)
  | teardown

namespace Table

/-- The socket that libwayland takes over is not parked. -/
def spawnXserver (table : Table File) (parked : Parked) (request : Request) (ends : Ends File)
    (works : Works) (env : List Entry) : Table File :=
  let out := Launch.spawnXserver request ends works env parked table.fds
  { table with
    parked := some out.parked
    clients := out.client.toList ++ table.clients
    fds := out.fds }

/-- `display_fd_body`, and `close_display_watch`; the module takes the socket over. -/
def displayFdBody (table : Table File) (parked : Parked) (readable : Bool) (read : ReadResult) :
    Table File :=
  match XwaylandState.readDisplayFd readable read with
  | none => table
  | some loaded =>
      let fds := table.fds.closeAll parked.displayPipe.toList
      if loaded then
        { table with
          parked := some ⟨none, none⟩
          managers := parked.wmFd.toList ++ table.managers
          fds := fds }
      else { table with parked := some ⟨parked.wmFd, none⟩, fds := fds }

def step (table : Table File) : Event File → Option (Table File)
  | .spawnXserver request ends works env =>
      match table.parked with
      | none => some table
      | some parked =>
          -- The module asks with the sockets that it listens on.
          if (table.fds.lookup request.abstractFd).isSome &&
              (table.fds.lookup request.unixFd).isSome then
            some (table.spawnXserver parked request ends works env)
          else none
  | .displayFd readable read =>
      match table.parked with
      | none => none
      | some parked =>
          if parked.displayPipe.isSome then some (table.displayFdBody parked readable read)
          else none
  -- What the module gives up then are steps of their own.
  | .childExit _ => some table
  | .managerGone fd =>
      if fd ∈ table.managers then
        some { table with
          managers := table.managers.erase fd
          fds := table.fds.closeAll [fd] }
      else none
  | .clientGone fd =>
      if fd ∈ table.clients then
        some { table with
          clients := table.clients.erase fd
          fds := table.fds.closeAll [fd] }
      else none
  | .teardown =>
      match table.parked with
      | none => some table
      | some parked =>
          some { table with parked := none, fds := table.fds.closeAll parked.fds }

/-- `step` as a relation. -/
def Step (table : Table File) (event : Event File) (next : Table File) : Prop :=
  table.step event = some next

end Table

/-! ### What a step keeps -/

/-- All that is open beyond the descriptors of the start belongs to someone, once. -/
def Owned (base : Descriptors File) (table : Table File) : Prop :=
  Descriptors.Adds base table.fds table.numbers

variable {base : Descriptors File} {table next : Table File}

theorem Owned.start (base : Descriptors File) : Owned base (.start base) := .nothing base

theorem Owned.close (owned : Owned base table) {closed : List Nat}
    (numbers : table.numbers.Perm (closed ++ next.numbers))
    (fds : next.fds = table.fds.closeAll closed) : Owned base next := by
  unfold Owned
  rw [fds]
  exact Descriptors.Adds.closeAll (Descriptors.Adds.perm owned numbers)

private theorem perm_erase_between {front back numbers : List Nat} {fd : Nat}
    (member : fd ∈ numbers) :
    (front ++ numbers ++ back).Perm ([fd] ++ (front ++ numbers.erase fd ++ back)) := by
  rw [List.perm_iff_count]
  intro other
  have erased := (List.perm_cons_erase member).count_eq other
  simp only [List.count_append, List.count_cons, List.count_nil] at erased ⊢
  omega

section Steps

variable {parked : Parked}

theorem Owned.parkedOpen (owned : Owned base table) (alive : table.parked = some parked) :
    ∀ fd ∈ parked.fds, (table.fds.lookup fd).isSome := by
  intro fd member
  apply Descriptors.Adds.held owned
  unfold Table.numbers
  rw [alive]
  exact List.mem_append_left _ (List.mem_append_left _ member)

theorem Owned.spawnXserver (owned : Owned base table) (alive : table.parked = some parked)
    {request : Request} (abstractOpen : (table.fds.lookup request.abstractFd).isSome)
    (unixOpen : (table.fds.lookup request.unixFd).isSome) (ends : Ends File) (works : Works)
    (env : List Entry) : Owned base (table.spawnXserver parked request ends works env) := by
  obtain ⟨abstractSocket, abstractIs⟩ := Option.isSome_iff_exists.mp abstractOpen
  obtain ⟨unixSocket, unixIs⟩ := Option.isSome_iff_exists.mp unixOpen
  have left := (spawnXserver_outcome request ends works env parked table.fds abstractIs
    unixIs (owned.parkedOpen alive)).left
  unfold Owned Table.numbers at owned
  rw [alive] at owned
  unfold Owned Table.numbers Table.spawnXserver
  dsimp only [Option.elim_some]
  split at left
  · have others : Descriptors.Adds base (table.fds.closeAll parked.fds)
        (table.managers ++ table.clients) := by
      apply Descriptors.Adds.closeAll
      rw [← List.append_assoc]
      exact owned
    refine (others.above left.fds).perm ?_
    rw [left.client, left.parks, List.perm_iff_count]
    intro fd
    simp only [Parked.fds, Option.toList_some, List.map_cons, List.map_nil, List.count_append,
      List.count_cons, List.count_nil]
    omega
  · rw [left.client, left.parked]
    exact Descriptors.Adds.congr owned left.fds

theorem Owned.displayFdBody (owned : Owned base table) (alive : table.parked = some parked)
    (readable : Bool) (read : ReadResult) :
    Owned base (table.displayFdBody parked readable read) := by
  unfold Table.displayFdBody
  split
  · exact owned
  · rename_i loaded _
    have numbers : table.numbers.Perm (parked.displayPipe.toList ++
        (parked.wmFd.toList ++ (table.managers ++ table.clients))) := by
      rw [List.perm_iff_count]
      intro fd
      simp only [Table.numbers, alive, Option.elim_some, Parked.fds, List.count_append]
      omega
    have closed := Descriptors.Adds.closeAll (owned.perm numbers)
    dsimp only
    split
    · refine closed.perm ?_
      simp [Table.numbers, Parked.fds]
    · refine closed.perm ?_
      simp [Table.numbers, Parked.fds]

end Steps

theorem Owned.step (owned : Owned base table) {event : Event File}
    (taken : table.Step event next) : Owned base next := by
  cases event with
  | spawnXserver request ends works env =>
      cases alive : table.parked with
      | none =>
          simp only [Table.Step, Table.step, alive] at taken
          cases taken
          exact owned
      | some parked =>
          simp only [Table.Step, Table.step, alive] at taken
          obtain ⟨sockets, same⟩ := Option.ite_none_right_eq_some.mp taken
          obtain ⟨abstractOpen, unixOpen⟩ := Bool.and_eq_true_iff.mp sockets
          cases same
          exact owned.spawnXserver alive abstractOpen unixOpen ends works env
  | displayFd readable read =>
      cases alive : table.parked with
      | none => simp [Table.Step, Table.step, alive] at taken
      | some parked =>
          simp only [Table.Step, Table.step, alive] at taken
          obtain ⟨-, same⟩ := Option.ite_none_right_eq_some.mp taken
          cases same
          exact owned.displayFdBody alive readable read
  | childExit pid =>
      cases taken
      exact owned
  | managerGone fd =>
      obtain ⟨member, same⟩ := Option.ite_none_right_eq_some.mp taken
      cases same
      exact owned.close (perm_erase_between member) rfl
  | clientGone fd =>
      obtain ⟨member, same⟩ := Option.ite_none_right_eq_some.mp taken
      cases same
      refine owned.close ?_ rfl
      have moved := @perm_erase_between (table.parked.elim [] Parked.fds ++ table.managers) [] _ _
        member
      rw [List.append_nil, List.append_nil] at moved
      exact moved
  | teardown =>
      cases alive : table.parked with
      | none =>
          simp only [Table.Step, Table.step, alive] at taken
          cases taken
          exact owned
      | some parked =>
          simp only [Table.Step, Table.step, alive] at taken
          cases taken
          refine owned.close ?_ rfl
          simp [Table.numbers, alive]

theorem Owned.run {events : List (Event File)}
    (run : Run Table.Step (.start base) events table) : Owned base table := by
  induction run with
  | nil => exact .start base
  | snoc _ taken ih => exact ih.step taken

/-- In every run, whichever calls fail, what is open beyond the descriptors of the start is
what is parked, what the module has and what libwayland has, each under a number of its own,
and every other number is what it was at the start. -/
theorem launches_leak_nothing {base : Descriptors File} {events : List (Event File)}
    {table : Table File} (run : Run Table.Step (.start base) events table) :
    table.numbers.Nodup ∧
      (∀ fd ∈ table.numbers, base.lookup fd = none ∧ (table.fds.lookup fd).isSome) ∧
      ∀ fd ∉ table.numbers, table.fds.lookup fd = base.lookup fd := by
  obtain ⟨opened, above, keys⟩ := Owned.run run
  refine ⟨keys.nodup_iff.mp above.distinct, ?_, ?_⟩
  · intro fd member
    obtain ⟨entry, among, rfl⟩ := List.mem_map.mp (keys.mem_iff.mpr member)
    exact ⟨above.unused entry among, above.held (List.mem_map_of_mem among)⟩
  · intro fd outside
    apply above.elsewhere
    rwa [keys.mem_iff]

def everyCall : Works := ⟨true, true, true, true, true, true, true, true⟩

/-- A server that is never ready, one that is, and a launch without a client. -/
def threeServers : List (Event String) :=
  [.spawnXserver firstDisplay pairs everyCall [], .spawnXserver firstDisplay pairs everyCall [],
    .displayFd true (.bytes [48, 10]),
    .spawnXserver firstDisplay pairs { everyCall with client := false } []]

theorem launches_leak_nothing_three :
    ∃ table, Run Table.Step (.start listening) threeServers table ∧
      table.numbers = [10, 1, 0] ∧ table.fds.lookup 7 = none ∧
      (table.fds.lookup 10).isSome := by
  have reached : (follow Table.step (.start listening) threeServers).map Table.numbers =
      some [10, 1, 0] := by
    decide +kernel
  obtain ⟨table, found, numbers⟩ := Option.map_eq_some_iff.mp reached
  have run : Run Table.Step (.start listening) threeServers table := run_of_follow found
  obtain ⟨-, here, elsewhere⟩ := launches_leak_nothing run
  rw [numbers] at here elsewhere
  refine ⟨table, run, numbers, ?_, ?_⟩
  · exact elsewhere 7 (by decide)
  · exact (here 10 (by decide)).2

end Westonite.Xwayland.Launch
