import Westonite.Library.Descriptors
import Westonite.Spawn.ExecString

/-! Commands with the descriptors they own, and the child that a launch makes of them. -/

set_option autoImplicit false

namespace Westonite.Spawn

open Library

variable {File : Type}

/-- A number as text. -/
def decimal (fd : Nat) : Text := (toString fd).toList

/-- `Command`: `passFds` go by a variable each, `argFds` by their number in `args`. -/
structure FdCommand extends Command where
  passFds : List (Text × Nat)
  argFds : List Nat
  deriving DecidableEq, Repr

/-- A call of the builder. -/
inductive BuilderCall where
  | env (key value : Text)
  | arg (arg : Text)
  | argFd (fd : Nat)
  | passFd (key : Text) (fd : Nat)
  deriving DecidableEq, Repr

namespace FdCommand

/-- `new`. -/
def new (program : Text) : FdCommand where
  program := program
  args := []
  env := []
  passFds := []
  argFds := []

/-- `from_argv`. -/
def fromArgv : List Text → Option FdCommand
  | [] => none
  | program :: args => some { new program with args := args }

/-- A command without descriptors, as all three ways to make one give it. -/
def ofCommand (cmd : Command) : FdCommand := { cmd with passFds := [], argFds := [] }

private theorem new_eq (program : Text) : new program = ofCommand ⟨program, [], []⟩ := rfl

theorem fromArgv_cons (program : Text) (args : List Text) :
    fromArgv (program :: args) = some (ofCommand ⟨program, args, []⟩) := rfl

def call (cmd : FdCommand) : BuilderCall → FdCommand
  | .env key value => { cmd with env := cmd.env ++ [(key, value)] }
  | .arg arg => { cmd with args := cmd.args ++ [arg] }
  | .argFd fd => { cmd with args := cmd.args ++ [decimal fd], argFds := cmd.argFds ++ [fd] }
  | .passFd key fd => { cmd with passFds := cmd.passFds ++ [(key, fd)] }

def build (cmd : FdCommand) (calls : List BuilderCall) : FdCommand := calls.foldl call cmd

/-- The descriptors the command owns. -/
def rawFds (cmd : FdCommand) : List Nat := cmd.passFds.map Prod.snd ++ cmd.argFds

/-- The variables in the order they are set. -/
def setVars (cmd : FdCommand) : List Entry :=
  cmd.env ++ cmd.passFds.map fun passed => (passed.1, decimal passed.2)

end FdCommand

/-- What a program finds when it is executed. -/
structure Child (File : Type) where
  argv : List Text
  env : Text → Option Text
  /-- The signals that are held back. -/
  blocked : List Nat
  ownSession : Bool
  fds : Descriptors File

/-- `spawn`, in an environment: the child, where the kernel forks and executes, and what
is left to the parent, which drops its descriptors in either case. -/
def FdCommand.spawn (cmd : FdCommand) (base : List Entry) (fds : Descriptors File)
    (works : Bool) : Option (Child File) × Descriptors File :=
  (if works then
      (fds.clearAll cmd.rawFds).map fun inherited =>
        { argv := cmd.program :: cmd.args
          env := childEnv base ⟨cmd.program, cmd.args, cmd.setVars⟩
          -- The compositor blocks what its event loop waits for; the child starts clean.
          blocked := []
          ownSession := true
          fds := inherited.execute }
    else none,
    fds.closeAll cmd.rawFds)

/-- `wet_client_launch`: whether there is a process, and the child, where its program is
executed. -/
def wetClientLaunch (argp : List Text) (envp : List Entry) (noCloexecFds : List Nat)
    (forks executes : Bool) (fds : Descriptors File) : Bool × Option (Child File) :=
  (forks,
    if forks && executes then
      (fds.clearAll noCloexecFds).map fun inherited =>
        { argv := argp
          env := fun name => envp.lookup name
          blocked := []
          ownSession := true
          fds := inherited.execute }
    else none)

/-! ### What the calls hand over -/

namespace BuilderCall

def argText : BuilderCall → Option Text
  | .arg text => some text
  | .argFd fd => some (decimal fd)
  | .env _ _ | .passFd _ _ => none

def assigned : BuilderCall → Option Entry
  | .env key value => some (key, value)
  | .arg _ | .argFd _ | .passFd _ _ => none

def passed : BuilderCall → Option Entry
  | .passFd key fd => some (key, decimal fd)
  | .env _ _ | .arg _ | .argFd _ => none

def handed : BuilderCall → Option Nat
  | .argFd fd | .passFd _ fd => some fd
  | .env _ _ | .arg _ => none

end BuilderCall

namespace FdCommand

variable {cmd : FdCommand} {calls : List BuilderCall}

/-- Every call adds to the end of what it adds to. -/
theorem build_fields (cmd : FdCommand) (calls : List BuilderCall) :
    (cmd.build calls).program = cmd.program ∧
      (cmd.build calls).args = cmd.args ++ calls.filterMap BuilderCall.argText ∧
      (cmd.build calls).env = cmd.env ++ calls.filterMap BuilderCall.assigned ∧
      ((cmd.build calls).passFds.map fun passed => (passed.1, decimal passed.2)) =
        (cmd.passFds.map fun passed => (passed.1, decimal passed.2)) ++
          calls.filterMap BuilderCall.passed := by
  induction calls generalizing cmd with
  | nil => simp [build]
  | cons first calls ih =>
      obtain ⟨program, args, env, passed⟩ := ih (cmd.call first)
      rw [build, List.foldl_cons]
      refine ⟨program.trans ?_, args.trans ?_, env.trans ?_, passed.trans ?_⟩ <;>
        cases first <;> simp [call, List.filterMap_cons, BuilderCall.argText,
          BuilderCall.assigned, BuilderCall.passed]

private theorem mem_rawFds_build (cmd : FdCommand) (calls : List BuilderCall) (fd : Nat) :
    fd ∈ (cmd.build calls).rawFds ↔ fd ∈ cmd.rawFds ∨ fd ∈ calls.filterMap BuilderCall.handed := by
  induction calls generalizing cmd with
  | nil => simp [build]
  | cons first calls ih =>
      rw [build, List.foldl_cons]
      refine (ih (cmd.call first)).trans ?_
      cases first <;> simp [call, rawFds, List.filterMap_cons, BuilderCall.handed] <;> tauto

/-- The child has, of the descriptors, those that are handed over and those that stay
open in any child, and nothing else. -/
theorem spawn_fds {base : List Entry} {fds after : Descriptors File} {child : Child File}
    (launched : cmd.spawn base fds true = (some child, after)) (fd : Nat) :
    child.fds.lookup fd =
      (fds.lookup fd).bind fun before =>
        if fd ∈ cmd.rawFds ∨ before.cloexec = false then some ⟨before.file, false⟩ else none := by
  obtain ⟨inherited, cleared, rfl⟩ := Option.map_eq_some_iff.mp (congrArg Prod.fst launched)
  dsimp only
  rw [Descriptors.lookup_execute, Descriptors.clearAll_eq_some cleared fd]
  cases fds.lookup fd with
  | none => rfl
  | some before =>
      obtain ⟨file, cloexec⟩ := before
      by_cases handed : fd ∈ cmd.rawFds <;> cases cloexec <;> simp [handed]

/-- A descriptor that is handed over and not open would stop the child. -/
theorem spawn_isSome {base : List Entry} {fds : Descriptors File}
    (owned : ∀ fd ∈ cmd.rawFds, (fds.lookup fd).isSome) :
    (cmd.spawn base fds true).1.isSome := by
  have cleared := Descriptors.clearAll_isSome owned
  exact (Option.isSome_map ..).trans cleared

/-- A command that hands over some of what was opened: the child has these on top of what
any child has, and the parent the others. -/
theorem spawn_above {base : List Entry} {fds next : Descriptors File}
    {opened : List (Nat × Descriptor File)} (above : Descriptors.Above fds next opened)
    (flagged : ∀ entry ∈ opened, entry.2.cloexec = true)
    (within : ∀ fd ∈ cmd.rawFds, fd ∈ opened.map Prod.fst) (works : Bool) :
    (∀ child, (cmd.spawn base next works).1 = some child →
      Descriptors.Above fds.execute child.fds
        ((opened.filter fun entry => entry.1 ∈ cmd.rawFds).map fun entry =>
          (entry.1, ⟨entry.2.file, false⟩))) ∧
      Descriptors.Above fds (cmd.spawn base next works).2
        (opened.filter fun entry => entry.1 ∉ cmd.rawFds) := by
  constructor
  · intro child launched
    cases works with
    | false => cases launched
    | true =>
        obtain ⟨inherited, cleared, rfl⟩ := Option.map_eq_some_iff.mp launched
        exact above.execute flagged cleared within
  · exact above.closeAll within

private theorem mem_rawFds_ofCommand (cmd : Command) (calls : List BuilderCall) (fd : Nat) :
    fd ∈ ((ofCommand cmd).build calls).rawFds ↔ fd ∈ calls.filterMap BuilderCall.handed := by
  refine (mem_rawFds_build _ calls fd).trans ?_
  simp [ofCommand, rawFds]

/-- Whatever is called on the builder, the child has the arguments in the order of the
calls, the variables with those of descriptors in front of the others, and the descriptors
that are handed over; the parent is left without these, also where there is no child. -/
theorem spawn_build (cmd : Command) (calls : List BuilderCall) (base : List Entry)
    (fds : Descriptors File)
    (owned : ∀ fd ∈ calls.filterMap BuilderCall.handed, (fds.lookup fd).isSome) :
    (∃ child, (((ofCommand cmd).build calls).spawn base fds true).1 = some child ∧
      child.argv = cmd.program :: (cmd.args ++ calls.filterMap BuilderCall.argText) ∧
      (∀ name, child.env name =
        (((calls.filterMap BuilderCall.passed).reverse.lookup name).or
          ((cmd.env ++ calls.filterMap BuilderCall.assigned).reverse.lookup name)).or
            (base.lookup name)) ∧
      child.blocked = [] ∧ child.ownSession = true ∧
      ∀ fd, child.fds.lookup fd =
        (fds.lookup fd).bind fun before =>
          if fd ∈ calls.filterMap BuilderCall.handed ∨ before.cloexec = false then
            some ⟨before.file, false⟩
          else none) ∧
      ∀ works fd, (((ofCommand cmd).build calls).spawn base fds works).2.lookup fd =
        if fd ∈ calls.filterMap BuilderCall.handed then none else fds.lookup fd := by
  obtain ⟨sameProgram, args, env, passed⟩ := build_fields (ofCommand cmd) calls
  constructor
  · have opened : ∀ fd ∈ ((ofCommand cmd).build calls).rawFds, (fds.lookup fd).isSome :=
      fun fd member => owned fd ((mem_rawFds_ofCommand cmd calls fd).mp member)
    have launches : (((ofCommand cmd).build calls).spawn base fds true).1.isSome :=
      spawn_isSome opened
    obtain ⟨child, launched⟩ := Option.isSome_iff_exists.mp launches
    obtain ⟨inherited, cleared, made⟩ := Option.map_eq_some_iff.mp launched
    refine ⟨child, launched, ?_, ?_, ?_, ?_, ?_⟩
    · rw [← made]
      exact congrArg₂ List.cons sameProgram args
    · intro name
      have vars : ((ofCommand cmd).build calls).setVars =
          cmd.env ++ calls.filterMap BuilderCall.assigned ++
            calls.filterMap BuilderCall.passed :=
        congrArg₂ (· ++ ·) env passed
      rw [← made]
      dsimp only
      rw [childEnv, vars, List.reverse_append, List.lookup_append]
    · rw [← made]
    · rw [← made]
    · intro fd
      have inherits := spawn_fds (Prod.ext launched rfl) fd
      simp only [mem_rawFds_ofCommand] at inherits
      exact inherits
  · intro works fd
    have closed : (fds.closeAll ((ofCommand cmd).build calls).rawFds).lookup fd = _ :=
      Descriptors.lookup_closeAll _
    simp only [mem_rawFds_ofCommand] at closed
    exact closed

def exampleFds : Descriptors String where
  entries := [⟨3, "log", true⟩, ⟨4, "pipe", true⟩, ⟨5, "socket", true⟩, ⟨2, "err", false⟩]
  nodupKeys := (by decide : [3, 4, 5, 2].Nodup)

/-- A variable and an argument, each with a descriptor; one that nobody hands over. -/
theorem spawn_build_two :
    ∃ child, (((new "run".toList).build [.passFd "SOCKET".toList 5, .argFd 4]).spawn []
        exampleFds true).1 = some child ∧
      child.argv = ["run".toList, "4".toList] ∧
      child.env "SOCKET".toList = some "5".toList ∧
      child.fds.lookup 5 = some ⟨"socket", false⟩ ∧ child.fds.lookup 2 = some ⟨"err", false⟩ ∧
      child.fds.lookup 3 = none := by
  obtain ⟨⟨child, launched, argv, env, -, -, inherits⟩, -⟩ :=
    spawn_build ⟨"run".toList, [], []⟩ [.passFd "SOCKET".toList 5, .argFd 4] [] exampleFds
      (by decide)
  rw [← new_eq] at launched
  refine ⟨child, launched, argv, ?_, ?_, ?_, ?_⟩
  · rw [env]
    rfl
  · rw [inherits]
    rfl
  · rw [inherits]
    rfl
  · rw [inherits]
    rfl

end FdCommand

theorem childEnv_single (base : List Entry) (program : Text) (args : List Text)
    (key value name : Text) :
    childEnv base ⟨program, args, [(key, value)]⟩ name =
      if name = key then some value else base.lookup name := by
  rw [childEnv, List.reverse_singleton, lookup_entry]
  by_cases same : name = key
  · rw [if_pos same, if_pos same, Option.some_or]
  · rw [if_neg same, if_neg same, List.lookup_nil, Option.none_or]

end Westonite.Spawn
