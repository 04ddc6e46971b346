import Mathlib.Data.List.Basic
import Westonite.Library.Radix

/-! The protocol log: one line for each request and event, with every argument read
from the member of its union that the message's signature names. -/

set_option autoImplicit false

namespace Westonite.Debug

open Library

/-! ### Messages -/

/-- The types of a signature. -/
inductive Letter where
  | i | u | f | s | o | n | a | h
  deriving DecidableEq, Repr

def Letter.toByte : Letter → UInt8
  | .i => 105
  | .u => 117
  | .f => 102
  | .s => 115
  | .o => 111
  | .n => 110
  | .a => 97
  | .h => 104

def Letter.ofByte (c : UInt8) : Option Letter :=
  if c = 105 then some .i
  else if c = 117 then some .u
  else if c = 102 then some .f
  else if c = 115 then some .s
  else if c = 111 then some .o
  else if c = 110 then some .n
  else if c = 97 then some .a
  else if c = 104 then some .h
  else none

/-- The address and the process of the client, `0` for none, come from libwayland. -/
structure Resource where
  client : Nat
  pid : Int
  className : Option String
  id : Nat
  deriving DecidableEq, Repr

structure Interface where
  name : Option String
  deriving DecidableEq, Repr

/-- What the members of `wl_argument` hold; a pointer may be null. -/
abbrev Letter.Member : Letter → Type
  | .i => Int
  | .u => Nat
  | .f => Int
  | .s => Option String
  | .o => Option Resource
  | .n => Nat
  | .a => Unit
  | .h => Int

/-- A `wl_argument` with the member that was written to it. -/
structure Argument where
  letter : Letter
  value : letter.Member

/-- What no checked read does. -/
inductive Fault where
  /-- A member of the union that was not written. -/
  | member
  /-- An entry past the end of an array. -/
  | bounds
  deriving DecidableEq, Repr

def Argument.read (arg : Argument) (letter : Letter) : Except Fault letter.Member :=
  if same : arg.letter = letter then .ok (same ▸ arg.value) else .error .member

structure WlMessage where
  name : Option String
  signature : Option (List UInt8)
  types : Option (List (Option Interface))

structure LoggerMessage where
  resource : Option Resource
  message : Option WlMessage
  argumentsCount : Int
  arguments : Option (List Argument)

inductive Direction where
  | request | event
  deriving DecidableEq, Repr

/-! ### The signature -/

def isTypeLetter (c : UInt8) : Bool := (Letter.ofByte c).isSome

/-- The loop of `next_argument` over what is left of the signature from `i` on. -/
def nextArgumentFrom : List UInt8 → Nat → Option UInt8 × Nat
  | [], i => (none, i)
  | c :: rest, i => if isTypeLetter c then (some c, i + 1) else nextArgumentFrom rest (i + 1)

def nextArgument (signature : List UInt8) (start : Nat) : Option UInt8 × Nat :=
  nextArgumentFrom (signature.drop start) start

/-- Where the `i`-th call starts to look. -/
def sigAt (signature : List UInt8) : Nat → Nat
  | 0 => 0
  | i + 1 => (nextArgument signature (sigAt signature i)).2

/-- What the `i`-th call finds. -/
def argumentType (signature : List UInt8) (i : Nat) : Option UInt8 :=
  (nextArgument signature (sigAt signature i)).1

/-- The type letters of the wire format, which a signature has beside version digits
and `?`. -/
def typeLetters : List UInt8 :=
  ['i', 'u', 'f', 's', 'o', 'n', 'a', 'h'].map fun letter => letter.toNat.toUInt8

def letters (signature : List UInt8) : List UInt8 := signature.filter (· ∈ typeLetters)

/-! ### The text -/

/-- `{:.6}` of a 24.8 fixed-point number: the last digit is rounded, a tie to even. -/
def fixedText (fixed : Int) : String :=
  let quarters := fixed.natAbs * 15625
  let rounds := quarters % 4 = 3 ∨ quarters % 4 = 2 ∧ quarters / 4 % 2 = 1
  let millionths := if rounds then quarters / 4 + 1 else quarters / 4
  (if fixed < 0 then "-" else "") ++ toString (millionths / 1000000) ++ "." ++
    String.ofList (Radix.zeroPadded 10 6 (millionths % 1000000))

def resourceText (resource : Resource) : String :=
  resource.className.getD "[unknown]" ++ "@" ++ toString resource.id

def interfaceName (types : Option (List (Option Interface))) (index : Nat) :
    Except Fault String :=
  match types with
  | none => .ok "[unknown]"
  | some table =>
      match table[index]? with
      | none => .error .bounds
      | some none => .ok "[unknown]"
      | some (some interface) => .ok (interface.name.getD "[unknown]")

def newIdText (interface : String) (n : Nat) : String :=
  if n ≠ 0 then "new id " ++ interface ++ "@" ++ toString n
  else "new id " ++ interface ++ "@nil"

def formatArgument (ty : Option UInt8) (arg : Argument)
    (types : Option (List (Option Interface))) (index : Nat) : Except Fault String :=
  match ty.bind Letter.ofByte with
  | some .u => (arg.read .u).map fun u : Nat => toString u
  | some .i => (arg.read .i).map fun i : Int => toString i
  | some .f => (arg.read .f).map fixedText
  | some .s => (arg.read .s).map fun s : Option String => "\"" ++ s.getD "" ++ "\""
  | some .o => (arg.read .o).map fun o : Option Resource => o.elim "nil" resourceText
  | some .n =>
      (interfaceName types index).bind fun interface =>
        (arg.read .n).map (newIdText interface)
  -- the word, not the contents
  | some .a => .ok "array"
  | some .h => (arg.read .h).map fun h : Int => "fd " ++ toString h
  | none => .ok ""

section Arguments

variable (signature : List UInt8) (types : Option (List (Option Interface)))

/-- The loop over the arguments, with `left` of them to go. -/
def formatArguments (arguments : Option (List Argument)) : Nat → Nat → Nat → Except Fault String
  | 0, _, _ => .ok ""
  | left + 1, i, start =>
      let found := nextArgument signature start
      let comma := if 0 < i then ", " else ""
      match arguments with
      | none => .ok comma
      | some args =>
          match args[i]? with
          | none => .error .bounds
          | some arg =>
              (formatArgument found.1 arg types i).bind fun text =>
                (formatArguments arguments left (i + 1) found.2).map fun rest =>
                  comma ++ text ++ rest

end Arguments

def directionText : Direction → String
  | .request => "rq"
  | .event => "ev"

/-- `{client:p}` -/
def pointerText (address : Nat) : String := "0x" ++ String.ofList (Nat.toDigits 16 address)

def formatMessage (direction : Direction) (m : LoggerMessage) : Except Fault (Option String) :=
  match m.resource, m.message with
  | some resource, some msg =>
      let pid : Int := if resource.client = 0 then 0 else resource.pid
      let out := "client " ++ pointerText resource.client ++ " (PID " ++ toString pid ++ ") " ++
        directionText direction ++ " " ++ resourceText resource ++ "." ++
        msg.name.getD "[unknown]" ++ "("
      (formatArguments (msg.signature.getD []) msg.types m.arguments m.argumentsCount.toNat 0 0).map
        fun arguments => some (out ++ arguments ++ ")")
  | _, _ => .ok none

end Westonite.Debug
