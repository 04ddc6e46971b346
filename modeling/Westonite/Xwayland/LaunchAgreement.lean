import Westonite.Xwayland.Launch

/-! C's launch of an X server, and how far the two agree. -/

set_option autoImplicit false

namespace Westonite.Xwayland.Launch

open Library
open Westonite.Spawn (Text Entry Child decimal setEnvVar wetClientLaunch)

variable {File : Type}

/-! ### C -/

def noCloexecFds (request : Request) (numbers : Ends Nat) : List Nat :=
  [numbers.wl.2, numbers.wm.2, numbers.pipe.2, request.abstractFd, request.unixFd]

/-- With both ends of all three there; what was parked is overwritten. -/
def wetLaunch (request : Request) (works : Works) (base : List Entry) (parked : Parked)
    (numbers : Ends Nat) (fds : Descriptors File) : Spawned File :=
  let launched := wetClientLaunch
    (serverArgv request numbers request.abstractFd request.unixFd)
    (setEnvVar base "WAYLAND_SOCKET".toList (decimal numbers.wl.2))
    (noCloexecFds request numbers) works.fork works.exec fds
  -- A program that cannot be executed is only seen when the child exits.
  if launched.1 && works.client then
    { client := some numbers.wl.1
      child := launched.2
      parked := ⟨some numbers.wm.1, some numbers.pipe.1⟩
      fds := fds.closeAll [numbers.wl.2, numbers.wm.2, numbers.pipe.2] }
  else
    { client := none
      child := launched.2
      parked := parked
      fds := fds.closeAll
        [numbers.pipe.1, numbers.pipe.2, numbers.wm.1, numbers.wm.2, numbers.wl.1, numbers.wl.2] }

/-- `spawn_xserver`, without the watch of the pipe. -/
def wetSpawnXserver (request : Request) (ends : Ends File) (works : Works) (base : List Entry)
    (parked : Parked) (fds : Descriptors File) : Spawned File :=
  if !works.wl then abandoned parked fds []
  else
    let wl := fds.openPair ends.wl
    if !works.wm then abandoned parked wl.2 [wl.1.1, wl.1.2]
    else
      let wm := wl.2.openPair ends.wm
      if !works.pipe then abandoned parked wm.2 [wm.1.1, wm.1.2, wl.1.1, wl.1.2]
      else
        let pipe := wm.2.openPair ends.pipe
        wetLaunch request works base parked ⟨wl.1, wm.1, pipe.1⟩ pipe.2

/-! ### What C leaves -/

section Parts

variable {request : Request} {ends : Ends File} {numbers : Ends Nat} {base : List Entry}
variable {parked : Parked} {fds next : Descriptors File}
variable {abstractSocket unixSocket : Descriptor File}

/-- Of six numbers, three that go to the server and three that stay. -/
private theorem halves_of_distinct {Value : Type} {a b c d e f : Nat} {va vb vc vd ve vf : Value}
    (distinct : [a, b, c, d, e, f].Nodup) :
    ([(a, va), (b, vb), (c, vc), (d, vd), (e, ve), (f, vf)].filter
        fun entry => entry.1 ∈ [e, c, a]) = [(a, va), (c, vc), (e, ve)] ∧
    ([(a, va), (b, vb), (c, vc), (d, vd), (e, ve), (f, vf)].filter
        fun entry => entry.1 ∉ [e, c, a]) = [(b, vb), (d, vd), (f, vf)] := by
  simp only [List.nodup_cons, List.mem_cons, not_or] at distinct
  constructor <;> simp [distinct, eq_comm]

def childEnds (numbers : Ends Nat) : List Nat := [numbers.wl.2, numbers.wm.2, numbers.pipe.2]

private theorem mem_endsOpened {fd : Nat} (told : fd ∈ childEnds numbers) :
    fd ∈ (endsOpened ends numbers).map Prod.fst := by
  simp only [childEnds, endsOpened, List.map_cons, List.mem_cons, List.map_nil,
    List.not_mem_nil, or_false] at told ⊢
  omega

private theorem filter_childEnds (distinct : ((endsOpened ends numbers).map Prod.fst).Nodup) :
    ((endsOpened ends numbers).filter fun entry => entry.1 ∈ childEnds numbers) =
      [(numbers.pipe.2, ⟨ends.pipe.2, true⟩), (numbers.wm.2, ⟨ends.wm.2, true⟩),
        (numbers.wl.2, ⟨ends.wl.2, true⟩)] :=
  (halves_of_distinct distinct).1

private theorem filter_ourEnds (distinct : ((endsOpened ends numbers).map Prod.fst).Nodup) :
    ((endsOpened ends numbers).filter fun entry => entry.1 ∉ childEnds numbers) =
      [(numbers.pipe.1, ⟨ends.pipe.1, true⟩), (numbers.wm.1, ⟨ends.wm.1, true⟩),
        (numbers.wl.1, ⟨ends.wl.1, true⟩)] :=
  (halves_of_distinct distinct).2

/-- What the child has beside the listening sockets. -/
private theorem inherited_above (above : Descriptors.Above fds next (endsOpened ends numbers))
    {inherited : Descriptors File}
    (cleared : next.clearAll (noCloexecFds request numbers) = some inherited) :
    ∃ others : Descriptors File,
      Descriptors.Above fds.execute others
        [(numbers.pipe.2, ⟨ends.pipe.2, false⟩), (numbers.wm.2, ⟨ends.wm.2, false⟩),
          (numbers.wl.2, ⟨ends.wl.2, false⟩)] ∧
      ∀ fd, fd ≠ request.abstractFd → fd ≠ request.unixFd →
        inherited.execute.lookup fd = others.lookup fd := by
  have held : ∀ fd ∈ childEnds numbers, (next.lookup fd).isSome :=
    fun _ told => above.held (mem_endsOpened told)
  obtain ⟨others, clearedEnds⟩ := Option.isSome_iff_exists.mp (Descriptors.clearAll_isSome held)
  have flagged : ∀ entry ∈ endsOpened ends numbers, entry.2.cloexec = true := by
    simp [endsOpened]
  have ends := above.execute flagged clearedEnds (fun _ => mem_endsOpened)
  rw [filter_childEnds above.distinct] at ends
  refine ⟨others.execute, ends, ?_⟩
  intro fd notAbstract notUnix
  have same : fd ∈ noCloexecFds request numbers ↔ fd ∈ childEnds numbers := by
    simp [noCloexecFds, childEnds, notAbstract, notUnix]
  rw [Descriptors.lookup_execute, Descriptors.lookup_execute,
    Descriptors.clearAll_eq_some cleared, Descriptors.clearAll_eq_some clearedEnds]
  simp only [same]

private theorem wetClientLaunch_isSome
    (above : Descriptors.Above fds next (endsOpened ends numbers))
    (abstractOpen : fds.lookup request.abstractFd = some abstractSocket)
    (unixOpen : fds.lookup request.unixFd = some unixSocket) (argp : List Text)
    (envp : List Entry) (works : Works) :
    (wetClientLaunch argp envp (noCloexecFds request numbers) works.fork works.exec next).2.isSome =
      (works.fork && works.exec) := by
  unfold wetClientLaunch
  cases works.fork && works.exec with
  | false => rfl
  | true =>
      have held : ∀ fd ∈ noCloexecFds request numbers, (next.lookup fd).isSome := by
        intro fd member
        obtain told | socket := List.mem_append.mp
          (show fd ∈ childEnds numbers ++ [request.abstractFd, request.unixFd] from member)
        · exact above.held (mem_endsOpened told)
        · obtain rfl | rfl : fd = request.abstractFd ∨ fd = request.unixFd := by
            simpa using socket
          · rw [above.before abstractOpen]
            rfl
          · rw [above.before unixOpen]
            rfl
      exact (Option.isSome_map ..).trans (Descriptors.clearAll_isSome held)

/-- The two servers find the same: each number of the argv has the same file behind it, and
every other number but those of the listening sockets is the same. -/
structure SameServer (request : Request) (numbers : Ends Nat) (abstractDup unixDup : Nat)
    (ours theirs : Child File) : Prop where
  argv : ours.argv = serverArgv request numbers abstractDup unixDup
  wetArgv : theirs.argv = serverArgv request numbers request.abstractFd request.unixFd
  env : ∀ name, ours.env name = theirs.env name
  blocked : ours.blocked = theirs.blocked
  ownSession : ours.ownSession = theirs.ownSession
  abstractSocket : ours.fds.lookup abstractDup = theirs.fds.lookup request.abstractFd
  unixSocket : ours.fds.lookup unixDup = theirs.fds.lookup request.unixFd
  others : ∀ fd ∉ [abstractDup, unixDup, request.abstractFd, request.unixFd],
    ours.fds.lookup fd = theirs.fds.lookup fd

private theorem sameServer_of_serves (above : Descriptors.Above fds next (endsOpened ends numbers))
    (abstractOpen : fds.lookup request.abstractFd = some abstractSocket)
    (unixOpen : fds.lookup request.unixFd = some unixSocket) {works : Works}
    {abstractDup unixDup : Nat} {ours theirs : Child File}
    (serves : Serves request ends numbers base abstractSocket.file unixSocket.file fds
      abstractDup unixDup ours)
    (launched : (wetClientLaunch (serverArgv request numbers request.abstractFd request.unixFd)
      (setEnvVar base "WAYLAND_SOCKET".toList (decimal numbers.wl.2))
      (noCloexecFds request numbers) works.fork works.exec next).2 = some theirs) :
    SameServer request numbers abstractDup unixDup ours theirs := by
  obtain ⟨-, made⟩ := Option.ite_none_right_eq_some.mp launched
  obtain ⟨inherited, cleared, rfl⟩ := Option.map_eq_some_iff.mp made
  obtain ⟨wetFds, inherits, apart⟩ := inherited_above above cleared
  have kept : ∀ fd {socket : Descriptor File}, fd ∈ noCloexecFds request numbers →
      fds.lookup fd = some socket →
        inherited.execute.lookup fd = some ⟨socket.file, false⟩ := by
    intro fd socket member isOpen
    rw [Descriptors.lookup_execute, Descriptors.clearAll_eq_some cleared, above.before isOpen,
      Option.map_some, if_pos member]
    rfl
  constructor
  · exact serves.argv
  · rfl
  · intro name
    rw [serves.env]
    exact (Spawn.lookup_setEnvVar ..).symm
  · exact serves.blocked
  · exact serves.ownSession
  · dsimp only
    rw [kept request.abstractFd (by simp [noCloexecFds]) abstractOpen]
    exact serves.fds.here (abstractDup, ⟨abstractSocket.file, false⟩) (by simp)
  · dsimp only
    rw [kept request.unixFd (by simp [noCloexecFds]) unixOpen]
    exact serves.fds.here (unixDup, ⟨unixSocket.file, false⟩) (by simp)
  · intro fd outside
    simp only [List.mem_cons, List.not_mem_nil, or_false, not_or] at outside
    obtain ⟨notAbstractDup, notUnixDup, notAbstract, notUnix⟩ := outside
    dsimp only
    rw [apart fd notAbstract notUnix]
    have copies : fd ∉ [unixDup, abstractDup] := by simp [notAbstractDup, notUnixDup]
    exact @Descriptors.Above.agree _ _ _ _ _
      [(unixDup, ⟨unixSocket.file, false⟩), (abstractDup, ⟨abstractSocket.file, false⟩)] _
      serves.fds inherits copies

/-- C's three ends that stay are there, beside those of an earlier server. -/
structure Overwritten (ends : Ends File) (numbers : Ends Nat) (fds : Descriptors File)
    (out : Spawned File) : Prop where
  client : out.client = some numbers.wl.1
  parks : out.parked = ⟨some numbers.wm.1, some numbers.pipe.1⟩
  fds : Descriptors.Above fds out.fds
    [(numbers.pipe.1, ⟨ends.pipe.1, true⟩), (numbers.wm.1, ⟨ends.wm.1, true⟩),
      (numbers.wl.1, ⟨ends.wl.1, true⟩)]

/-- C's launch beside ours. -/
structure WetOutcome (request : Request) (ends : Ends File) (numbers : Ends Nat)
    (base : List Entry) (abstractFile unixFile : File) (parked : Parked)
    (fds : Descriptors File) (forked exec client : Bool) (out : Spawned File) : Prop where
  same : ∀ theirs, out.child = some theirs → ∀ ours abstractDup unixDup,
    Serves request ends numbers base abstractFile unixFile fds abstractDup unixDup ours →
      SameServer request numbers abstractDup unixDup ours theirs
  executed : out.child.isSome = (forked && exec)
  left : if forked && client then Overwritten ends numbers fds out else Undone parked fds out

private theorem wetLaunch_child (works : Works) :
    (wetLaunch request works base parked numbers next).child =
      (wetClientLaunch (serverArgv request numbers request.abstractFd request.unixFd)
        (setEnvVar base "WAYLAND_SOCKET".toList (decimal numbers.wl.2))
        (noCloexecFds request numbers) works.fork works.exec next).2 := by
  unfold wetLaunch
  dsimp only
  split <;> rfl

private theorem wetLaunch_outcome (above : Descriptors.Above fds next (endsOpened ends numbers))
    (abstractOpen : fds.lookup request.abstractFd = some abstractSocket)
    (unixOpen : fds.lookup request.unixFd = some unixSocket) (works : Works) :
    WetOutcome request ends numbers base abstractSocket.file unixSocket.file parked fds works.fork
      works.exec works.client (wetLaunch request works base parked numbers next) := by
  constructor
  · intro theirs launched ours abstractDup unixDup serves
    rw [wetLaunch_child] at launched
    exact sameServer_of_serves above abstractOpen unixOpen serves launched
  · rw [wetLaunch_child]
    exact wetClientLaunch_isSome above abstractOpen unixOpen _ _ works
  · have left := above.closeAll fun fd (told : fd ∈ childEnds numbers) => mem_endsOpened told
    rw [filter_ourEnds above.distinct] at left
    unfold wetLaunch
    dsimp only [wetClientLaunch]
    split
    · exact ⟨rfl, rfl, left⟩
    · refine ⟨rfl, rfl, above.closeAll_lookup ?_⟩
      intro fd
      simp only [endsOpened, List.map_cons, List.map_nil, List.mem_cons, List.not_mem_nil,
        or_false]
      omega

private theorem abandoned_wetOutcome {opened : List (Nat × Descriptor File)} {dropped : List Nat}
    (above : Descriptors.Above fds next opened)
    (same : ∀ fd, fd ∈ dropped ↔ fd ∈ opened.map Prod.fst) (exec client : Bool) :
    WetOutcome request ends numbers base abstractSocket.file unixSocket.file parked fds false exec
      client (abandoned parked next dropped) where
  same := by
    intro child none
    cases none
  executed := rfl
  left := ⟨rfl, rfl, above.closeAll_lookup same⟩

end Parts

/-- The calls up to the fork, without the copies. -/
def Works.forks (works : Works) : Bool := works.wl && works.wm && works.pipe && works.fork

private theorem wetSpawnXserver_outcome (request : Request) (ends : Ends File) (works : Works)
    (base : List Entry) (parked : Parked) (fds : Descriptors File)
    {abstractSocket unixSocket : Descriptor File}
    (abstractOpen : fds.lookup request.abstractFd = some abstractSocket)
    (unixOpen : fds.lookup request.unixFd = some unixSocket) :
    WetOutcome request ends (openAll ends fds).1 base abstractSocket.file unixSocket.file parked
      fds works.forks works.exec works.client
      (wetSpawnXserver request ends works base parked fds) := by
  have nothing := Descriptors.Above.nothing fds
  have afterWl := nothing.openPair ends.wl
  have afterWm := afterWl.openPair ends.wm
  have afterPipe := openAll_above ends fds
  unfold wetSpawnXserver Works.forks
  cases works.wl with
  | false => exact abandoned_wetOutcome nothing (fun _ => Iff.rfl) works.exec works.client
  | true =>
      cases works.wm with
      | false =>
          refine abandoned_wetOutcome afterWl ?_ works.exec works.client
          simp [or_comm]
      | true =>
          cases works.pipe with
          | false =>
              refine abandoned_wetOutcome afterWm ?_ works.exec works.client
              intro fd
              simp only [List.map_cons, List.map_nil, List.mem_cons, List.not_mem_nil, or_false]
              omega
          | true => exact wetLaunch_outcome afterPipe abstractOpen unixOpen works

/-- What C has no call for, or does not see. -/
def Works.copied (works : Works) : Bool := works.abstractDup && works.unixDup && works.exec

private theorem Works.runs_eq (works : Works) : works.runs = (works.forks && works.copied) := by
  simp only [runs, forks, copied, Bool.and_assoc, Bool.and_left_comm]

end Westonite.Xwayland.Launch
