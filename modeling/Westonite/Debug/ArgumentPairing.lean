import Westonite.Debug.ProtocolLog

/-! The index that is carried through the signature pairs every argument with its
type letter, so that no argument is read from a member it does not have. -/

set_option autoImplicit false

namespace Westonite.Debug

/-! ### Letters -/

@[simp] theorem ofByte_toByte (letter : Letter) : Letter.ofByte letter.toByte = some letter := by
  cases letter <;> rfl

/-- The letters that `next_argument` stops at are those of the wire format. -/
private theorem isTypeLetter_iff (c : UInt8) : isTypeLetter c = true ↔ c ∈ typeLetters := by
  have bytes : typeLetters = [105, 117, 102, 115, 111, 110, 97, 104] := rfl
  rw [bytes]
  unfold isTypeLetter Letter.ofByte
  constructor
  · intro letter
    by_contra absent
    simp only [List.mem_cons, List.not_mem_nil, or_false, not_or] at absent
    obtain ⟨i, u, f, s, o, n, a, h⟩ := absent
    rw [if_neg i, if_neg u, if_neg f, if_neg s, if_neg o, if_neg n, if_neg a, if_neg h] at letter
    cases letter
  · intro member
    simp only [List.mem_cons, List.not_mem_nil, or_false] at member
    rcases member with rfl | rfl | rfl | rfl | rfl | rfl | rfl | rfl <;> rfl

private theorem read_eq_ok (arg : Argument) : ∃ value, arg.read arg.letter = .ok value := by
  unfold Argument.read
  rw [dif_pos rfl]
  exact ⟨_, rfl⟩

/-! ### The scan -/

private theorem nextArgumentFrom_eq (rest : List UInt8) (i : Nat) :
    (nextArgumentFrom rest i).1 = (letters rest)[0]? ∧
      ∃ skipped, (nextArgumentFrom rest i).2 = i + skipped ∧ skipped ≤ rest.length ∧
        letters (rest.drop skipped) = (letters rest).tail := by
  induction rest generalizing i with
  | nil => exact ⟨rfl, 0, rfl, Nat.le_refl _, rfl⟩
  | cons c rest ih =>
      unfold nextArgumentFrom
      split
      · rename_i letter
        have first : letters (c :: rest) = c :: letters rest :=
          List.filter_cons_of_pos (decide_eq_true ((isTypeLetter_iff c).mp letter))
        rw [first]
        refine ⟨rfl, 1, rfl, ?_, rfl⟩
        rw [List.length_cons]
        omega
      · rename_i marker
        have other : c ∉ typeLetters := fun member => marker ((isTypeLetter_iff c).mpr member)
        have skip : letters (c :: rest) = letters rest :=
          List.filter_cons_of_neg fun member => other (of_decide_eq_true member)
        obtain ⟨found, skipped, index, short, left⟩ := ih (i + 1)
        rw [skip]
        refine ⟨found, skipped + 1, ?_, ?_, left⟩
        · rw [index]
          omega
        · rw [List.length_cons]
          omega

section Signature

variable (signature : List UInt8)

/-- One call finds the next letter and stops behind it. -/
private theorem nextArgument_eq (start : Nat) :
    (nextArgument signature start).1 = (letters (signature.drop start))[0]? ∧
      start ≤ (nextArgument signature start).2 ∧
      (start ≤ signature.length → (nextArgument signature start).2 ≤ signature.length) ∧
      letters (signature.drop (nextArgument signature start).2) =
        (letters (signature.drop start)).tail := by
  obtain ⟨found, skipped, index, short, left⟩ :=
    nextArgumentFrom_eq (signature.drop start) start
  rw [List.length_drop] at short
  rw [List.drop_drop] at left
  unfold nextArgument
  rw [index]
  refine ⟨found, by omega, ?_, left⟩
  intro inside
  omega

/-- Where the `i`-th call starts, `i` letters are behind it. -/
private theorem letters_drop_sigAt (i : Nat) :
    letters (signature.drop (sigAt signature i)) = (letters signature).drop i := by
  induction i with
  | zero => rfl
  | succ i ih =>
      obtain ⟨_, _, _, left⟩ := nextArgument_eq signature (sigAt signature i)
      change letters (signature.drop (nextArgument signature (sigAt signature i)).2) = _
      rw [left, ih, List.tail_drop]

private theorem argumentType_eq (i : Nat) : argumentType signature i = (letters signature)[i]? := by
  have found := (nextArgument_eq signature (sigAt signature i)).1
  unfold argumentType
  rw [found, letters_drop_sigAt, List.getElem?_drop, Nat.add_zero]

private theorem sigAt_le_succ (i : Nat) : sigAt signature i ≤ sigAt signature (i + 1) :=
  (nextArgument_eq signature (sigAt signature i)).2.1

private theorem sigAt_le_length (i : Nat) : sigAt signature i ≤ signature.length := by
  induction i with
  | zero => exact Nat.zero_le _
  | succ i ih => exact (nextArgument_eq signature (sigAt signature i)).2.2.1 ih

end Signature

/-! ### The loop -/

/-- What follows the first argument. -/
def following : List String → String
  | [] => ""
  | text :: rest => ", " ++ text ++ following rest

private theorem intercalate_cons_eq (text : String) (rest : List String) :
    String.intercalate ", " (text :: rest) = text ++ following rest := by
  induction rest generalizing text with
  | nil => simp [following]
  | cons next rest ih =>
      rw [String.intercalate_cons_cons, ih, following, String.append_assoc, String.append_assoc]

section Loop

variable (signature : List UInt8) (types : Option (List (Option Interface)))
  (args : List Argument)

/-- The text of the `i`-th argument, by the `i`-th letter. -/
def argumentText (i : Nat) : Except Fault String :=
  match args[i]? with
  | none => .error .bounds
  | some arg => formatArgument (letters signature)[i]? arg types i

private theorem formatArguments_succ (left i : Nat) :
    formatArguments signature types (some args) (left + 1) i (sigAt signature i) =
      (argumentText signature types args i).bind fun text =>
        (formatArguments signature types (some args) left (i + 1) (sigAt signature (i + 1))).map
          fun rest => (if 0 < i then ", " else "") ++ text ++ rest := by
  have found : (nextArgument signature (sigAt signature i)).1 = (letters signature)[i]? :=
    argumentType_eq signature i
  unfold argumentText
  rw [← found]
  rw [formatArguments]
  cases args[i]? with
  | none => rfl
  | some arg => rfl

private theorem formatArguments_following (left i : Nat) :
    formatArguments signature types (some args) left (i + 1) (sigAt signature (i + 1)) =
      ((List.range' (i + 1) left).mapM (argumentText signature types args)).map following := by
  induction left generalizing i with
  | zero => rfl
  | succ left ih =>
      rw [formatArguments_succ, ih, List.range'_succ, List.mapM_cons, if_pos (Nat.succ_pos i)]
      cases argumentText signature types args (i + 1) with
      | error fault => rfl
      | ok text =>
          cases (List.range' (i + 1 + 1) left).mapM (argumentText signature types args) with
          | error fault => rfl
          | ok texts => rfl

/-- The loop writes the arguments one after the other, each by its own letter. -/
theorem formatArguments_eq (count : Nat) :
    formatArguments signature types (some args) count 0 0 =
      ((List.range count).mapM (argumentText signature types args)).map
        (String.intercalate ", ") := by
  rw [List.range_eq_range']
  cases count with
  | zero => rfl
  | succ left =>
      have first := formatArguments_succ signature types args left 0
      rw [formatArguments_following, if_neg (Nat.lt_irrefl 0)] at first
      rw [List.range'_succ, List.mapM_cons]
      refine first.trans ?_
      cases argumentText signature types args 0 with
      | error fault => rfl
      | ok text =>
          cases (List.range' (0 + 1) left).mapM (argumentText signature types args) with
          | error fault => rfl
          | ok texts =>
              simp only [Except.bind, Except.map, bind, pure, Except.pure, intercalate_cons_eq,
                String.empty_append]

end Loop

/-! ### Reads -/

/-- The arguments hold what the signature says, as far as both go. -/
def Paired (signature : List UInt8) (args : List Argument) : Prop :=
  ∀ (i : Nat) (arg : Argument) (c : UInt8),
    args[i]? = some arg → (letters signature)[i]? = some c → c = arg.letter.toByte

/-- Only the table of interfaces is left that can fail. -/
private theorem interfaceName_of_error {ty : Option UInt8} {arg : Argument}
    (paired : ∀ c, ty = some c → c = arg.letter.toByte)
    {types : Option (List (Option Interface))} {index : Nat} {fault : Fault}
    (failed : formatArgument ty arg types index = .error fault) :
    interfaceName types index = .error fault := by
  cases ty with
  | none => cases failed
  | some c =>
      obtain rfl := paired c rfl
      obtain ⟨value, read⟩ := read_eq_ok arg
      unfold formatArgument at failed
      rw [Option.bind_some, ofByte_toByte] at failed
      generalize arg.letter = letter at value read failed
      cases letter with
      | n =>
          dsimp only at failed
          rw [read] at failed
          cases named : interfaceName types index with
          | error other =>
              rw [named] at failed
              cases failed
              rfl
          | ok interface =>
              rw [named] at failed
              cases failed
      | a => cases failed
      | _ =>
          dsimp only at failed
          rw [read] at failed
          cases failed

private theorem interfaceName_error {types : Option (List (Option Interface))} {index : Nat}
    {fault : Fault} (failed : interfaceName types index = .error fault) :
    fault = .bounds ∧ ∃ table, types = some table ∧ table.length ≤ index := by
  unfold interfaceName at failed
  cases types with
  | none => cases failed
  | some table =>
      cases found : table[index]? with
      | none =>
          simp only [found] at failed
          cases failed
          exact ⟨rfl, table, rfl, List.getElem?_eq_none_iff.mp found⟩
      | some entry =>
          simp only [found] at failed
          cases entry <;> cases failed

/-- A list of results fails as one of them does. -/
private theorem mapM_eq_error {α β ε : Type} {f : α → Except ε β} {xs : List α} {e : ε}
    (failed : xs.mapM f = .error e) : ∃ x ∈ xs, f x = .error e := by
  induction xs with
  | nil => cases failed
  | cons x xs ih =>
      rw [List.mapM_cons] at failed
      cases first : f x with
      | error other =>
          rw [first] at failed
          cases failed
          exact ⟨x, List.mem_cons_self, first⟩
      | ok y =>
          cases rest : xs.mapM f with
          | error other =>
              rw [first, rest] at failed
              cases failed
              obtain ⟨later, member, found⟩ := ih rest
              exact ⟨later, List.mem_cons_of_mem x member, found⟩
          | ok ys =>
              rw [first, rest] at failed
              cases failed

private theorem argumentText_error {signature : List UInt8} {args : List Argument}
    (paired : Paired signature args) {types : Option (List (Option Interface))} {i : Nat}
    {fault : Fault} (failed : argumentText signature types args i = .error fault) :
    fault = .bounds ∧
      (args.length ≤ i ∨ ∃ table, types = some table ∧ table.length ≤ i) := by
  unfold argumentText at failed
  cases there : args[i]? with
  | none =>
      rw [there] at failed
      cases failed
      exact ⟨rfl, .inl (List.getElem?_eq_none_iff.mp there)⟩
  | some arg =>
      rw [there] at failed
      have named := interfaceName_of_error (fun c letter => paired i arg c there letter) failed
      obtain ⟨bounds, short⟩ := interfaceName_error named
      exact ⟨bounds, .inr short⟩

private theorem formatArguments_error {signature : List UInt8} {args : List Argument}
    (paired : Paired signature args) {types : Option (List (Option Interface))} {count : Nat}
    {fault : Fault}
    (failed : formatArguments signature types (some args) count 0 0 = .error fault) :
    fault = .bounds ∧
      (args.length < count ∨ ∃ table, types = some table ∧ table.length < count) := by
  rw [formatArguments_eq] at failed
  cases texts : (List.range count).mapM (argumentText signature types args) with
  | error other =>
      rw [texts] at failed
      cases failed
      obtain ⟨i, member, found⟩ := mapM_eq_error texts
      have below : i < count := List.mem_range.mp member
      obtain ⟨bounds, short | ⟨table, given, short⟩⟩ := argumentText_error paired found
      · exact ⟨bounds, .inl (by omega)⟩
      · exact ⟨bounds, .inr ⟨table, given, by omega⟩⟩
  | ok lines =>
      rw [texts] at failed
      cases failed

/-- Every call yields the letter of its argument, and every argument is read by it. -/
theorem arguments_paired (signature : List UInt8) :
    (∀ i, argumentType signature i = (letters signature)[i]?) ∧
      (∀ i, sigAt signature i ≤ sigAt signature (i + 1) ∧
        sigAt signature i ≤ signature.length) ∧
      ∀ types args count,
        formatArguments signature types (some args) count 0 0 =
            ((List.range count).mapM (argumentText signature types args)).map
              (String.intercalate ", ") ∧
          (Paired signature args →
            formatArguments signature types (some args) count 0 0 ≠ .error .member) := by
  refine ⟨argumentType_eq signature, ?_, ?_⟩
  · intro i
    exact ⟨sigAt_le_succ signature i, sigAt_le_length signature i⟩
  · intro types args count
    refine ⟨formatArguments_eq signature types args count, ?_⟩
    intro paired failed
    cases (formatArguments_error paired failed).1

/-- A nullable object and a new id, with a version in front: two letters, then none. -/
theorem arguments_paired_enter :
    (List.range 4).map (argumentType [50, 63, 111, 110]) = [some 111, some 110, none, none] ∧
      Paired [50, 63, 111, 110] [⟨.o, none⟩, ⟨.n, (9 : Nat)⟩] ∧
      formatArguments [50, 63, 111, 110] none (some [⟨.o, none⟩, ⟨.n, (9 : Nat)⟩]) 2 0 0 ≠
        .error .member := by
  have paired : Paired [50, 63, 111, 110] [⟨.o, none⟩, ⟨.n, (9 : Nat)⟩] := by
    intro i arg c there letter
    match i with
    | 0 =>
        cases there
        cases letter
        rfl
    | 1 =>
        cases there
        cases letter
        rfl
    | _ + 2 => cases there
  exact ⟨rfl, paired, ((arguments_paired _).2.2 none _ 2).2 paired⟩

/-! ### Messages -/

/-- What libwayland hands to a logger. -/
structure Delivered (m : LoggerMessage) (msg : WlMessage) (args : List Argument) : Prop where
  message : m.message = some msg
  arguments : m.arguments = some args
  count : m.argumentsCount = args.length
  letters : args.map (fun arg => arg.letter.toByte) = letters (msg.signature.getD [])
  types : ∀ table, msg.types = some table → args.length ≤ table.length

theorem Delivered.paired {m : LoggerMessage} {msg : WlMessage} {args : List Argument}
    (delivered : Delivered m msg args) : Paired (msg.signature.getD []) args := by
  intro i arg c there letter
  rw [← delivered.letters, List.getElem?_map, there] at letter
  exact (Option.some.inj letter).symm

/-- The line of a message that libwayland hands over is written without a fault. -/
theorem formatMessage_delivered {m : LoggerMessage} {msg : WlMessage} {args : List Argument}
    (delivered : Delivered m msg args) (direction : Direction) :
    ∃ line, formatMessage direction m = .ok line ∧
      (line.isSome = true ↔ m.resource.isSome = true) := by
  have count : m.argumentsCount.toNat = args.length := by
    rw [delivered.count, Int.toNat_natCast]
  unfold formatMessage
  rw [delivered.message, delivered.arguments, count]
  cases m.resource with
  | none => exact ⟨none, rfl, by simp⟩
  | some resource =>
      dsimp only
      cases written : formatArguments (msg.signature.getD []) msg.types (some args) args.length
          0 0 with
      | error fault =>
          have failure := formatArguments_error delivered.paired written
          obtain ⟨_, short | ⟨table, given, short⟩⟩ := failure
          · omega
          · have covers := delivered.types table given
            omega
      | ok arguments => exact ⟨_, rfl, by simp⟩

end Westonite.Debug
