import Westonite.Spawn.Launch

/-! The launch of an X server over the table of descriptors: what is opened for it, what
the server has of that, and what the compositor keeps. -/

set_option autoImplicit false

namespace Westonite.Xwayland.Launch

open Library
open Westonite.Spawn (Text Entry FdCommand Child BuilderCall decimal setEnvVar)

variable {File : Type}

/-- Both ends of what the compositor and the server share; the first one of each stays. -/
structure Ends (File : Type) where
  wl : File × File
  wm : File × File
  pipe : File × File

/-- The calls that succeed. -/
structure Works where
  wl : Bool
  wm : Bool
  pipe : Bool
  abstractDup : Bool
  unixDup : Bool
  fork : Bool
  exec : Bool
  client : Bool
  deriving DecidableEq, Repr

/-- What the module asks for, and how the server is called; `listenArg` goes by the version
that the build found. -/
structure Request where
  xserverPath : Text
  listenArg : Text
  display : Text
  abstractFd : Nat
  unixFd : Nat
  deriving DecidableEq, Repr

/-- The descriptors of an earlier server that are still kept. -/
structure Parked where
  wmFd : Option Nat
  displayPipe : Option Nat
  deriving DecidableEq, Repr

def Parked.fds (parked : Parked) : List Nat := parked.wmFd.toList ++ parked.displayPipe.toList

/-- What is left of a launch: the end that libwayland has taken over, a child, if there is
one, and what the compositor keeps. -/
structure Spawned (File : Type) where
  client : Option Nat
  child : Option (Child File)
  parked : Parked
  fds : Descriptors File

/-! ### The wrapper -/

/-- `dup2owned`. -/
def dup2owned (works : Bool) (fds : Descriptors File) (fd : Nat) : Option Nat × Descriptors File :=
  match if works then fds.dup fd else none with
  | some (copy, next) => (some copy, next)
  | none => (none, fds)

def serverArgv (request : Request) (numbers : Ends Nat) (abstractFd unixFd : Nat) : List Text :=
  [request.xserverPath, request.display, "-rootless".toList, request.listenArg,
    decimal abstractFd, request.listenArg, decimal unixFd, "-displayfd".toList,
    decimal numbers.pipe.2, "-wm".toList, decimal numbers.wm.2, "-terminate".toList]

def command (request : Request) (numbers : Ends Nat) (abstractDup unixDup : Nat) : FdCommand :=
  (FdCommand.new request.xserverPath).build
    [.arg request.display, .arg "-rootless".toList,
      .arg request.listenArg, .argFd abstractDup,
      .arg request.listenArg, .argFd unixDup,
      .arg "-displayfd".toList, .argFd numbers.pipe.2,
      .arg "-wm".toList, .argFd numbers.wm.2,
      .arg "-terminate".toList, .passFd "WAYLAND_SOCKET".toList numbers.wl.2]

/-- From the fork on. -/
def launch (works : Works) (base : List Entry) (cmd : FdCommand) (numbers : Ends Nat)
    (parked : Parked) (fds : Descriptors File) : Spawned File :=
  let launched := cmd.spawn base fds (works.fork && works.exec)
  if launched.1.isSome && works.client then
    { client := some numbers.wl.1
      child := launched.1
      parked := ⟨some numbers.wm.1, some numbers.pipe.1⟩
      -- An earlier server may have died before it was ready.
      fds := launched.2.closeAll parked.fds }
  else
    { client := none
      child := launched.1
      parked := parked
      fds := launched.2.closeAll [numbers.pipe.1, numbers.wm.1, numbers.wl.1] }

/-- A return before the fork: what was opened is dropped. -/
def abandoned (parked : Parked) (fds : Descriptors File) (dropped : List Nat) : Spawned File where
  client := none
  child := none
  parked := parked
  fds := fds.closeAll dropped

/-- With both ends of all three there: the copies of the listening sockets. -/
def duplicate (request : Request) (works : Works) (base : List Entry) (parked : Parked)
    (numbers : Ends Nat) (fds : Descriptors File) : Spawned File :=
  let abstractDup := dup2owned works.abstractDup fds request.abstractFd
  -- Both copies are made before either is looked at.
  let unixDup := dup2owned works.unixDup abstractDup.2 request.unixFd
  match abstractDup.1, unixDup.1 with
  | some abstractFd, some unixFd =>
      launch works base (command request numbers abstractFd unixFd) numbers parked unixDup.2
  | _, _ =>
      abandoned parked unixDup.2
        (unixDup.1.toList ++ abstractDup.1.toList ++
          [numbers.pipe.2, numbers.pipe.1, numbers.wm.2, numbers.wm.1, numbers.wl.2,
            numbers.wl.1])

/-- `spawn_xserver_body`, without the watch of the pipe. -/
def spawnXserver (request : Request) (ends : Ends File) (works : Works) (base : List Entry)
    (parked : Parked) (fds : Descriptors File) : Spawned File :=
  if !works.wl then abandoned parked fds []
  else
    let wl := fds.openPair ends.wl
    if !works.wm then abandoned parked wl.2 [wl.1.2, wl.1.1]
    else
      let wm := wl.2.openPair ends.wm
      if !works.pipe then abandoned parked wm.2 [wm.1.2, wm.1.1, wl.1.2, wl.1.1]
      else
        let pipe := wm.2.openPair ends.pipe
        duplicate request works base parked ⟨wl.1, wm.1, pipe.1⟩ pipe.2

/-! ### What a launch is to leave -/

/-- The numbers that the ends are opened under. -/
def openAll (ends : Ends File) (fds : Descriptors File) : Ends Nat × Descriptors File :=
  let wl := fds.openPair ends.wl
  let wm := wl.2.openPair ends.wm
  let pipe := wm.2.openPair ends.pipe
  (⟨wl.1, wm.1, pipe.1⟩, pipe.2)

/-- Nothing is left: every number of the compositor is what it was. -/
structure Undone (parked : Parked) (fds : Descriptors File) (out : Spawned File) : Prop where
  client : out.client = none
  parked : out.parked = parked
  fds : ∀ fd, out.fds.lookup fd = fds.lookup fd

/-- The three ends that stay are there, and those of an earlier server are not. -/
structure Connected (ends : Ends File) (numbers : Ends Nat) (parked : Parked)
    (fds : Descriptors File) (out : Spawned File) : Prop where
  client : out.client = some numbers.wl.1
  parks : out.parked = ⟨some numbers.wm.1, some numbers.pipe.1⟩
  fds : Descriptors.Above (fds.closeAll parked.fds) out.fds
    [(numbers.pipe.1, ⟨ends.pipe.1, true⟩), (numbers.wm.1, ⟨ends.wm.1, true⟩),
      (numbers.wl.1, ⟨ends.wl.1, true⟩)]

/-- The server finds its ends and the listening sockets under the numbers that it is told,
and otherwise what any child has. -/
structure Serves (request : Request) (ends : Ends File) (numbers : Ends Nat) (base : List Entry)
    (abstractFile unixFile : File) (fds : Descriptors File) (abstractDup unixDup : Nat)
    (child : Child File) : Prop where
  argv : child.argv = serverArgv request numbers abstractDup unixDup
  env : ∀ name, child.env name =
    if name = "WAYLAND_SOCKET".toList then some (decimal numbers.wl.2) else base.lookup name
  blocked : child.blocked = []
  ownSession : child.ownSession = true
  fds : Descriptors.Above fds.execute child.fds
    [(unixDup, ⟨unixFile, false⟩), (abstractDup, ⟨abstractFile, false⟩),
      (numbers.pipe.2, ⟨ends.pipe.2, false⟩), (numbers.wm.2, ⟨ends.wm.2, false⟩),
      (numbers.wl.2, ⟨ends.wl.2, false⟩)]

/-- A server where it was forked, and an account of every descriptor. -/
structure Outcome (request : Request) (ends : Ends File) (numbers : Ends Nat)
    (base : List Entry) (abstractFile unixFile : File) (parked : Parked)
    (fds : Descriptors File) (runs client : Bool) (out : Spawned File) : Prop where
  serves : ∀ child, out.child = some child →
    ∃ abstractDup unixDup,
      Serves request ends numbers base abstractFile unixFile fds abstractDup unixDup child
  forked : out.child.isSome = runs
  left : if runs && client then Connected ends numbers parked fds out else Undone parked fds out

/-! ### What each stage opens -/

private theorem dup2owned_true {fds next : Descriptors File} {opened : List (Nat × Descriptor File)}
    (above : Descriptors.Above fds next opened) {fd : Nat} {descriptor : Descriptor File}
    (held : fds.lookup fd = some descriptor) :
    ∃ copy, (dup2owned true next fd).1 = some copy ∧
      Descriptors.Above fds (dup2owned true next fd).2
        ((copy, ⟨descriptor.file, true⟩) :: opened) := by
  have found : next.dup fd = some (next.openFile descriptor.file) :=
    congrArg _ (above.before held)
  have made : dup2owned true next fd =
      (some (next.openFile descriptor.file).1, (next.openFile descriptor.file).2) := by
    simp only [dup2owned, if_true, found]
  rw [made]
  exact ⟨_, rfl, above.openFile descriptor.file⟩

private theorem dup2owned_false (next : Descriptors File) (fd : Nat) :
    dup2owned false next fd = (none, next) := rfl

/-- Both ends of all three, under their numbers. -/
def endsOpened (ends : Ends File) (numbers : Ends Nat) : List (Nat × Descriptor File) :=
  [(numbers.pipe.2, ⟨ends.pipe.2, true⟩), (numbers.pipe.1, ⟨ends.pipe.1, true⟩),
    (numbers.wm.2, ⟨ends.wm.2, true⟩), (numbers.wm.1, ⟨ends.wm.1, true⟩),
    (numbers.wl.2, ⟨ends.wl.2, true⟩), (numbers.wl.1, ⟨ends.wl.1, true⟩)]

theorem openAll_above (ends : Ends File) (fds : Descriptors File) :
    Descriptors.Above fds (openAll ends fds).2 (endsOpened ends (openAll ends fds).1) :=
  (((Descriptors.Above.nothing fds).openPair ends.wl).openPair ends.wm).openPair ends.pipe

section Parts

variable {ends : Ends File} {numbers : Ends Nat} {abstractFile unixFile : File}
variable {unixDup abstractDup : Nat}

/-- All that is open when the server is forked. -/
def allOpened (ends : Ends File) (numbers : Ends Nat) (abstractFile unixFile : File)
    (abstractDup unixDup : Nat) : List (Nat × Descriptor File) :=
  (unixDup, ⟨unixFile, true⟩) :: (abstractDup, ⟨abstractFile, true⟩) :: endsOpened ends numbers

/-- What the server is told of. -/
def toldFds (numbers : Ends Nat) (abstractDup unixDup : Nat) : List Nat :=
  [numbers.wl.2, abstractDup, unixDup, numbers.pipe.2, numbers.wm.2]

private theorem command_rawFds (request : Request) (numbers : Ends Nat)
    (abstractDup unixDup : Nat) :
    (command request numbers abstractDup unixDup).rawFds = toldFds numbers abstractDup unixDup :=
  rfl

private theorem mem_allOpened_of_told {fd : Nat} (told : fd ∈ toldFds numbers abstractDup unixDup) :
    fd ∈ (allOpened ends numbers abstractFile unixFile abstractDup unixDup).map Prod.fst := by
  simp only [toldFds, allOpened, endsOpened, List.map_cons, List.mem_cons, List.map_nil,
    List.not_mem_nil, or_false] at told ⊢
  tauto

/-- Of eight numbers, five that are told and three that are not. -/
private theorem parts_of_distinct {Value : Type} {a b c d e f g h : Nat}
    {va vb vc vd ve vf vg vh : Value} (distinct : [a, b, c, d, e, f, g, h].Nodup) :
    ([(a, va), (b, vb), (c, vc), (d, vd), (e, ve), (f, vf), (g, vg), (h, vh)].filter
        fun entry => entry.1 ∈ [g, b, a, c, e]) =
      [(a, va), (b, vb), (c, vc), (e, ve), (g, vg)] ∧
    ([(a, va), (b, vb), (c, vc), (d, vd), (e, ve), (f, vf), (g, vg), (h, vh)].filter
        fun entry => entry.1 ∉ [g, b, a, c, e]) =
      [(d, vd), (f, vf), (h, vh)] := by
  simp only [List.nodup_cons, List.mem_cons, not_or] at distinct
  constructor <;> simp [distinct, eq_comm]

private theorem filter_told
    (distinct : ((allOpened ends numbers abstractFile unixFile abstractDup unixDup).map
      Prod.fst).Nodup) :
    ((allOpened ends numbers abstractFile unixFile abstractDup unixDup).filter fun entry =>
        entry.1 ∈ toldFds numbers abstractDup unixDup) =
      [(unixDup, ⟨unixFile, true⟩), (abstractDup, ⟨abstractFile, true⟩),
        (numbers.pipe.2, ⟨ends.pipe.2, true⟩), (numbers.wm.2, ⟨ends.wm.2, true⟩),
        (numbers.wl.2, ⟨ends.wl.2, true⟩)] :=
  (parts_of_distinct distinct).1

private theorem filter_untold
    (distinct : ((allOpened ends numbers abstractFile unixFile abstractDup unixDup).map
      Prod.fst).Nodup) :
    ((allOpened ends numbers abstractFile unixFile abstractDup unixDup).filter fun entry =>
        entry.1 ∉ toldFds numbers abstractDup unixDup) =
      [(numbers.pipe.1, ⟨ends.pipe.1, true⟩), (numbers.wm.1, ⟨ends.wm.1, true⟩),
        (numbers.wl.1, ⟨ends.wl.1, true⟩)] :=
  (parts_of_distinct distinct).2

variable {request : Request} {base : List Entry} {parked : Parked}
variable {fds next : Descriptors File}

private theorem command_spawn {made : Bool} {child : Child File}
    (launched : ((command request numbers abstractDup unixDup).spawn base next made).1 =
      some child)
    (above : Descriptors.Above fds.execute child.fds
      [(unixDup, ⟨unixFile, false⟩), (abstractDup, ⟨abstractFile, false⟩),
        (numbers.pipe.2, ⟨ends.pipe.2, false⟩), (numbers.wm.2, ⟨ends.wm.2, false⟩),
        (numbers.wl.2, ⟨ends.wl.2, false⟩)]) :
    Serves request ends numbers base abstractFile unixFile fds abstractDup unixDup child := by
  cases made with
  | false => cases launched
  | true =>
      obtain ⟨inherited, -, rfl⟩ := Option.map_eq_some_iff.mp launched
      refine ⟨rfl, ?_, rfl, rfl, above⟩
      intro name
      exact Spawn.childEnv_single ..

private theorem command_spawn_isSome
    (above : Descriptors.Above fds next
      (allOpened ends numbers abstractFile unixFile abstractDup unixDup)) (made : Bool) :
    ((command request numbers abstractDup unixDup).spawn base next made).1.isSome = made := by
  cases made with
  | false => rfl
  | true =>
      apply FdCommand.spawn_isSome
      intro fd told
      exact above.held (mem_allOpened_of_told told)

private theorem launch_child (works : Works) (cmd : FdCommand) :
    (launch works base cmd numbers parked next).child =
      (cmd.spawn base next (works.fork && works.exec)).1 := by
  unfold launch
  dsimp only
  split <;> rfl

/-- From the fork on, with all of it open. -/
theorem launch_outcome
    (above : Descriptors.Above fds next
      (allOpened ends numbers abstractFile unixFile abstractDup unixDup))
    (held : ∀ fd ∈ parked.fds, (fds.lookup fd).isSome) (works : Works) :
    Outcome request ends numbers base abstractFile unixFile parked fds
      (works.fork && works.exec) works.client
      (launch works base (command request numbers abstractDup unixDup) numbers parked next) := by
  have flagged : ∀ entry ∈ allOpened ends numbers abstractFile unixFile abstractDup unixDup,
      entry.2.cloexec = true := by
    simp [allOpened, endsOpened]
  have made : ((command request numbers abstractDup unixDup).spawn base next
      (works.fork && works.exec)).1.isSome = (works.fork && works.exec) :=
    command_spawn_isSome above _
  obtain ⟨childFds, left⟩ :=
    @FdCommand.spawn_above _ (command request numbers abstractDup unixDup) base _ _ _ above
      flagged (fun _ => mem_allOpened_of_told) (works.fork && works.exec)
  rw [command_rawFds, filter_told above.distinct] at childFds
  rw [command_rawFds, filter_untold above.distinct] at left
  constructor
  · intro child launched
    rw [launch_child] at launched
    exact ⟨abstractDup, unixDup, command_spawn launched (childFds child launched)⟩
  · rw [launch_child, made]
  · unfold launch
    dsimp only
    rw [made]
    split
    · exact ⟨rfl, rfl, left.closeBefore held⟩
    · refine ⟨rfl, rfl, left.closeAll_lookup ?_⟩
      intro fd
      rfl

private theorem abandoned_outcome {opened : List (Nat × Descriptor File)} {dropped : List Nat}
    (above : Descriptors.Above fds next opened)
    (same : ∀ fd, fd ∈ dropped ↔ fd ∈ opened.map Prod.fst) (client : Bool) :
    Outcome request ends numbers base abstractFile unixFile parked fds false client
      (abandoned parked next dropped) where
  serves := by
    intro child none
    cases none
  forked := rfl
  left := ⟨rfl, rfl, above.closeAll_lookup same⟩

private theorem duplicate_outcome {abstractSocket unixSocket : Descriptor File}
    (above : Descriptors.Above fds next (endsOpened ends numbers))
    (abstractOpen : fds.lookup request.abstractFd = some abstractSocket)
    (unixOpen : fds.lookup request.unixFd = some unixSocket)
    (held : ∀ fd ∈ parked.fds, (fds.lookup fd).isSome) (works : Works) :
    Outcome request ends numbers base abstractSocket.file unixSocket.file parked fds
      (works.abstractDup && works.unixDup && works.fork && works.exec) works.client
      (duplicate request works base parked numbers next) := by
  unfold duplicate
  dsimp only
  cases works.abstractDup with
  | false =>
      rw [dup2owned_false]
      cases works.unixDup with
      | false => exact abandoned_outcome above (fun _ => Iff.rfl) works.client
      | true =>
          obtain ⟨copy, made, copied⟩ := dup2owned_true above unixOpen
          rw [made]
          exact abandoned_outcome copied (fun _ => Iff.rfl) works.client
  | true =>
      obtain ⟨abstractCopy, abstractMade, abstractCopied⟩ := dup2owned_true above abstractOpen
      rw [abstractMade]
      cases works.unixDup with
      | false => exact abandoned_outcome abstractCopied (fun _ => Iff.rfl) works.client
      | true =>
          obtain ⟨unixCopy, unixMade, unixCopied⟩ := dup2owned_true abstractCopied unixOpen
          rw [unixMade]
          exact launch_outcome unixCopied held works

end Parts

/-- The calls up to the program that is executed. -/
def Works.runs (works : Works) : Bool :=
  works.wl && works.wm && works.pipe && works.abstractDup && works.unixDup && works.fork &&
    works.exec

/-- Whichever calls fail, every descriptor is accounted for: a server that runs has its ends and
the listening sockets under the numbers that it is told, the compositor has its three ends
where there is a client, and otherwise what it had. -/
theorem spawnXserver_outcome (request : Request) (ends : Ends File) (works : Works)
    (base : List Entry) (parked : Parked) (fds : Descriptors File)
    {abstractSocket unixSocket : Descriptor File}
    (abstractOpen : fds.lookup request.abstractFd = some abstractSocket)
    (unixOpen : fds.lookup request.unixFd = some unixSocket)
    (held : ∀ fd ∈ parked.fds, (fds.lookup fd).isSome) :
    Outcome request ends (openAll ends fds).1 base abstractSocket.file unixSocket.file parked fds
      works.runs works.client (spawnXserver request ends works base parked fds) := by
  have nothing := Descriptors.Above.nothing fds
  have afterWl := nothing.openPair ends.wl
  have afterWm := afterWl.openPair ends.wm
  have afterPipe := openAll_above ends fds
  unfold spawnXserver Works.runs
  cases works.wl with
  | false => exact abandoned_outcome nothing (fun _ => Iff.rfl) works.client
  | true =>
      cases works.wm with
      | false => exact abandoned_outcome afterWl (fun _ => Iff.rfl) works.client
      | true =>
          cases works.pipe with
          | false => exact abandoned_outcome afterWm (fun _ => Iff.rfl) works.client
          | true => exact duplicate_outcome afterPipe abstractOpen unixOpen held works

/-- What is open in a compositor that listens, with an earlier server's socket and pipe. -/
def listening : Descriptors String where
  entries := [⟨2, "err", false⟩, ⟨3, "abstract", true⟩, ⟨4, "unix", true⟩, ⟨5, "old wm", true⟩,
    ⟨6, "old pipe", true⟩]
  nodupKeys := (by decide : [2, 3, 4, 5, 6].Nodup)

def pairs : Ends String where
  wl := ("wl ours", "wl child")
  wm := ("wm ours", "wm child")
  pipe := ("pipe read", "pipe write")

def firstDisplay : Request where
  xserverPath := "Xwayland".toList
  listenArg := "-listenfd".toList
  display := ":0".toList
  abstractFd := 3
  unixFd := 4

/-- A second server, while the first one's socket and pipe are still kept. -/
theorem spawnXserver_outcome_respawn :
    Connected pairs (openAll pairs listening).1 ⟨some 5, some 6⟩ listening
      (spawnXserver firstDisplay pairs ⟨true, true, true, true, true, true, true, true⟩ []
        ⟨some 5, some 6⟩ listening) := by
  have abstractOpen : listening.lookup firstDisplay.abstractFd = some ⟨"abstract", true⟩ := rfl
  have unixOpen : listening.lookup firstDisplay.unixFd = some ⟨"unix", true⟩ := rfl
  have parkedOpen : ∀ fd ∈ [5, 6], (listening.lookup fd).isSome := by decide
  exact (spawnXserver_outcome firstDisplay pairs ⟨true, true, true, true, true, true, true, true⟩
    [] ⟨some 5, some 6⟩ listening abstractOpen unixOpen parkedOpen).left

end Westonite.Xwayland.Launch
