import Westonite.Spawn.Launch

/-! A client that is launched over a socket: the screenshooter here, and any client by C's
`wet_client_start`, which reads the path as an exec string. -/

set_option autoImplicit false

namespace Westonite.Spawn

open Library
open Westonite.Output (isSpace)

variable {File : Type}

/-- The calls that succeed. -/
structure StartCalls where
  socket : Bool
  fork : Bool
  exec : Bool
  client : Bool
  deriving DecidableEq, Repr

/-- The end that libwayland has taken over, the child, if there is one, and the table. -/
structure Started (File : Type) where
  client : Option Nat
  child : Option (Child File)
  fds : Descriptors File

/-- Behind the launch, in the glue. -/
def finish (launched : Option (Child File) × Descriptors File) (client : Bool) (ours : Nat) :
    Started File :=
  if launched.1.isSome && client then
    { client := some ours, child := launched.1, fds := launched.2 }
  else
    { client := none, child := launched.1, fds := launched.2.closeAll [ours] }

/-- `screenshooter_binding_body`, from the path of the program on. -/
def startScreenshooter (exe : Text) (ends : File × File) (calls : StartCalls)
    (base : List Entry) (fds : Descriptors File) : Started File :=
  if !calls.socket then { client := none, child := none, fds := fds }
  else
    let socket := fds.openPair ends
    let cmd := (FdCommand.new exe).build [.passFd "WAYLAND_SOCKET".toList socket.1.2]
    finish (cmd.spawn base socket.2 (calls.fork && calls.exec)) calls.client socket.1.1

/-- Behind the launch, in C. -/
def wetFinish (launched : Bool × Option (Child File)) (client : Bool) (ours child : Nat)
    (fds : Descriptors File) : Started File :=
  -- Without a process both ends stay open.
  if !launched.1 then { client := none, child := launched.2, fds := fds }
  else if client then
    { client := some ours, child := launched.2, fds := fds.closeAll [child] }
  else
    { client := none, child := launched.2, fds := fds.closeAll [ours, child] }

/-- `wet_client_start`. -/
def wetClientStart (path : Text) (ends : File × File) (calls : StartCalls) (base : List Entry)
    (fds : Descriptors File) : Started File :=
  if !calls.socket then { client := none, child := none, fds := fds }
  else
    let socket := fds.openPair ends
    let childEnv := addFromExecString ⟨base, []⟩ path
    let launched := wetClientLaunch childEnv.argp
      (setEnvVar childEnv.envp "WAYLAND_SOCKET".toList (decimal socket.1.2)) [socket.1.2]
      calls.fork calls.exec socket.2
    wetFinish launched calls.client socket.1.1 socket.1.2 socket.2

/-! ### A path that is one word -/

/-- Nothing in it that the exec string would split at. -/
def Plain (path : Text) : Prop := path ≠ [] ∧ ∀ c ∈ path, isSpace c = false ∧ c ≠ '='

private theorem scanKey_plain {path : Text} (plain : ∀ c ∈ path, isSpace c = false ∧ c ≠ '=') :
    scanKey path = none := by
  induction path with
  | nil => rfl
  | cons c cs ih =>
      obtain ⟨space, sign⟩ := plain c List.mem_cons_self
      have rest := ih fun other member => plain other (List.mem_cons_of_mem c member)
      simp [scanKey, space, sign, rest]

private theorem word_plain {path : Text} (plain : ∀ c ∈ path, isSpace c = false) :
    word path = path := by
  apply List.takeWhile_eq_self_iff.mpr
  intro c member
  simp [plain c member]

private theorem next_plain {path : Text} (plain : ∀ c ∈ path, isSpace c = false) :
    next path = [] := by
  have rest : (path.dropWhile fun c => !isSpace c) = [] := by
    apply List.dropWhile_eq_nil_iff.mpr
    intro c member
    simp [plain c member]
  unfold next
  rw [rest]
  rfl

private theorem addFromExecString_plain {path : Text} (plain : Plain path) (base : List Entry) :
    addFromExecString ⟨base, []⟩ path = ⟨base, [path]⟩ := by
  obtain ⟨full, letters⟩ := plain
  have none := scanKey_plain letters
  have spaces : ∀ c ∈ path, isSpace c = false := fun c member => (letters c member).1
  have loop : envLoop path = ([], path) := by
    rw [envLoop]
    split
    · rfl
    · rename_i found
      rw [none] at found
      cases found
  have last : argLoop [] = [] := by
    rw [argLoop]
    rfl
  have valid : word path ≠ [] := by
    rw [word_plain spaces]
    exact full
  have args : argLoop path = [path] := by
    rw [argLoop, dif_neg valid]
    dsimp only
    rw [word_plain spaces, next_plain spaces, last]
  simp only [addFromExecString, loop, args]
  rfl

/-! ### Both -/

section Parts

variable {fds next : Descriptors File} {ours child : Nat} {ends : File × File}
variable {base : List Entry} {exe : Text}

/-- The child of both, from the socket on. -/
theorem started_child (plain : Plain exe) (forks executes : Bool) :
    let made := (((FdCommand.new exe).build [.passFd "WAYLAND_SOCKET".toList child]).spawn base
      next (forks && executes)).1
    let wet := (wetClientLaunch (addFromExecString ⟨base, []⟩ exe).argp
      (setEnvVar (addFromExecString ⟨base, []⟩ exe).envp "WAYLAND_SOCKET".toList (decimal child))
      [child] forks executes next).2
    made.isSome = wet.isSome ∧
      ∀ client wetClient, made = some client → wet = some wetClient →
        client.argv = wetClient.argv ∧ (∀ name, client.env name = wetClient.env name) ∧
          client.blocked = wetClient.blocked ∧ client.ownSession = wetClient.ownSession ∧
          client.fds = wetClient.fds := by
  rw [addFromExecString_plain plain]
  unfold wetClientLaunch FdCommand.spawn
  cases forks && executes with
  | false => exact ⟨rfl, fun _ _ none => by cases none⟩
  | true =>
      have told : ((FdCommand.new exe).build [.passFd "WAYLAND_SOCKET".toList child]).rawFds =
          [child] := rfl
      simp only [if_true, told]
      cases next.clearAll [child] with
      | none => exact ⟨rfl, fun _ _ none => by cases none⟩
      | some inherited =>
          refine ⟨rfl, ?_⟩
          intro client wetClient made wet
          cases made
          cases wet
          refine ⟨rfl, ?_, rfl, rfl, rfl⟩
          intro name
          exact (childEnv_single base _ _ _ _ name).trans (lookup_setEnvVar ..).symm

private theorem started_isSome
    (above : Descriptors.Above fds next [(child, ⟨ends.2, true⟩), (ours, ⟨ends.1, true⟩)])
    (made : Bool) :
    ((((FdCommand.new exe).build [.passFd "WAYLAND_SOCKET".toList child]).spawn base next
      made).1).isSome = made := by
  cases made with
  | false => rfl
  | true =>
      apply FdCommand.spawn_isSome
      intro fd told
      obtain rfl : fd = child := List.mem_singleton.mp told
      exact above.held List.mem_cons_self

private theorem finish_child (launched : Option (Child File) × Descriptors File) (client : Bool) :
    (finish launched client ours).child = launched.1 := by
  unfold finish
  split <;> rfl

private theorem wetFinish_child (launched : Bool × Option (Child File)) (client : Bool) :
    (wetFinish launched client ours child next).child = launched.2 := by
  unfold wetFinish
  split
  · rfl
  · split <;> rfl

/-- What both leave of a socket. -/
private theorem finish_agrees {launched : Option (Child File) × Descriptors File}
    {wet : Bool × Option (Child File)} {executes : Bool}
    (above : Descriptors.Above fds next [(child, ⟨ends.2, true⟩), (ours, ⟨ends.1, true⟩)])
    (after : launched.2 = next.closeAll [child])
    (made : launched.1.isSome = (wet.1 && executes)) (client : Bool) :
    (finish launched client ours).client =
        (if executes then (wetFinish wet client ours child next).client else none) ∧
      ((finish launched client ours).client = none →
        ∀ fd, (finish launched client ours).fds.lookup fd = fds.lookup fd) ∧
      ((wetFinish wet client ours child next).client = none →
        ((∀ fd, (wetFinish wet client ours child next).fds.lookup fd = fds.lookup fd) ↔
          wet.1 = true)) ∧
      ((finish launched client ours).client.isSome →
        (finish launched client ours).fds = (wetFinish wet client ours child next).fds) := by
  have both : ∀ fd, (next.closeAll [ours, child]).lookup fd = fds.lookup fd := by
    apply above.closeAll_lookup
    simp [or_comm]
  have left : ∀ fd, ((next.closeAll [child]).closeAll [ours]).lookup fd = fds.lookup fd := by
    intro fd
    rw [← both fd]
    simp only [Descriptors.lookup_closeAll, List.mem_cons, List.not_mem_nil, or_false]
    by_cases isOurs : fd = ours <;> by_cases isChild : fd = child <;> simp [isOurs, isChild]
  have isOpen : next.lookup ours = some ⟨ends.1, true⟩ :=
    above.here (ours, ⟨ends.1, true⟩) (by simp)
  have free : fds.lookup ours = none := above.unused (ours, ⟨ends.1, true⟩) (by simp)
  obtain ⟨forks, wetChild⟩ := wet
  unfold finish wetFinish
  rw [made, after]
  cases forks with
  | false =>
      refine ⟨by simp, fun _ => left, fun _ => ?_, by simp⟩
      constructor
      · intro restored
        have again := restored ours
        rw [free] at again
        exact absurd (again.symm.trans isOpen) (by simp)
      · intro forked
        cases forked
  | true =>
      cases executes with
      | false =>
          refine ⟨by simp, fun _ => left, ?_, by simp⟩
          cases client with
          | false => exact fun _ => ⟨fun _ => rfl, fun _ => both⟩
          | true => simp
      | true =>
          cases client with
          | false => exact ⟨rfl, fun _ => left, fun _ => ⟨fun _ => rfl, fun _ => both⟩, by simp⟩
          | true => simp

end Parts

end Westonite.Spawn
