import Mathlib.Data.String.Basic
import Westonite.Library.Radix
import Westonite.Library.Walk

/-! Dotted overrides of the configuration, applied to the TOML tree before it is
deserialized. -/

set_option autoImplicit false

namespace Westonite.Config

open Library

/-- `toml::Value`; a table lists its entries in the order of their keys. -/
inductive Value where
  | string (text : String)
  | integer (number : Int)
  | float (bits : UInt64)
  | boolean (flag : Bool)
  | datetime (text : String)
  | array (items : List Value)
  | table (entries : List (String × Value))
  deriving Repr

abbrev Table := List (String × Value)

namespace Table

/-- `insert` of an ordered map: the value of a key that is there is replaced. -/
def insert (key : String) (value : Value) : Table → Table
  | [] => [(key, value)]
  | entry :: rest =>
      if key = entry.1 then (key, value) :: rest
      else if key < entry.1 then (key, value) :: entry :: rest
      else entry :: insert key value rest

def find (key : String) (table : Table) : Option Value := table.lookup key

end Table

namespace Value

def emptyTable : Value := .table []

def items : Value → List Value
  | .array items => items
  | _ => []

def entries : Value → Table
  | .table entries => entries
  | _ => []

end Value

/-! ### The path of a spec -/

/-- What a segment names in the node it is met at. -/
inductive Step where
  | key (name : String)
  | index (position : Nat)
  deriving DecidableEq, Repr

/-- `parse::<usize>`, and a key where that fails. -/
def Step.ofSegment (segment : String) : Step :=
  match Radix.fromStrRadix 10 18446744073709551616 segment.toList with
  | some position => .index position
  | none => .key segment

/-- The path before the first `=`, and the value behind it. -/
def splitOnce (spec : String) : Option (String × String) :=
  match spec.toList.span fun c => c != '=' with
  | (path, _ :: value) => some (String.ofList path, String.ofList value)
  | (_, []) => none

def segments (path : String) : List String :=
  (path.toList.splitOn '.').map String.ofList

/-- The first segment always names a table entry at the root. -/
def pathSteps : List String → List Step
  | [] => []
  | first :: rest => .key first :: rest.map Step.ofSegment

/-! ### The walk -/

/-- `while arr.len() <= index` push an empty table. -/
def padded (items : List Value) (position : Nat) : List Value :=
  items ++ List.replicate (position + 1 - items.length) .emptyTable

/-- The loop over the segments below the root: a node of the wrong kind is
replaced, the last segment takes the value. -/
def Value.store (value : Value) : Value → List Step → Value
  | _, [] => value
  | current, .index position :: rest =>
      let arr := padded current.items position
      .array (arr.set position (store value (arr.getD position .emptyTable) rest))
  | current, .key name :: rest =>
      .table (current.entries.insert name
        (store value ((current.entries.find name).getD .emptyTable) rest))

/-- The value of the key `v` of the document, read as TOML where that succeeds. -/
def parseValue (parseTable : String → Option Table) (raw : String) : Value :=
  match parseTable ("v = " ++ raw) with
  | some table => (table.find "v").getD (.string raw)
  | none => .string raw

def apply (parseTable : String → Option Table) (root : Table) (spec : String) :
    Except String Unit × Table :=
  match splitOnce spec with
  | none => (.error ("override '" ++ spec ++ "': expected KEY.PATH=VALUE"), root)
  | some (path, raw) =>
      let segments := segments path
      if segments.any String.isEmpty then
        (.error ("override '" ++ spec ++ "': empty key path segment"), root)
      else
        match segments with
        | first :: second :: rest =>
            let current := (root.find first).getD .emptyTable
            let steps := (second :: rest).map Step.ofSegment
            (.ok (), root.insert first (.store (parseValue parseTable raw) current steps))
        | _ =>
            (.error ("override '" ++ spec ++ "': path must have at least two segments"), root)

/-! ### Tables -/

namespace Table

private theorem find_cons (key : String) (entry : String × Value) (rest : Table) :
    find key (entry :: rest) = if key = entry.1 then some entry.2 else find key rest := by
  unfold find
  rw [List.lookup_cons]
  by_cases same : key = entry.1
  · rw [if_pos same, same, beq_self_eq_true]
  · rw [if_neg same, beq_eq_false_iff_ne.mpr same]

private theorem insert_cons (key : String) (value : Value) (entry : String × Value) (rest : Table) :
    insert key value (entry :: rest) =
      if key = entry.1 then (key, value) :: rest
      else if key < entry.1 then (key, value) :: entry :: rest
      else entry :: insert key value rest := rfl

theorem find_insert (key other : String) (value : Value) (table : Table) :
    find other (insert key value table) =
      if other = key then some value else find other table := by
  induction table with
  | nil =>
      unfold insert
      exact find_cons other (key, value) []
  | cons entry rest ih =>
      rw [insert_cons]
      by_cases same : key = entry.1
      · rw [if_pos same, find_cons, find_cons, same]
        split <;> rfl
      · rw [if_neg same]
        split
        · exact find_cons other (key, value) (entry :: rest)
        · rw [find_cons, find_cons, ih]
          by_cases here : other = entry.1
          · rw [if_pos here, if_pos here, if_neg (here ▸ Ne.symm same)]
          · rw [if_neg here, if_neg here]

private theorem insert_insert (key : String) (first second : Value) (table : Table) :
    insert key second (insert key first table) = insert key second table := by
  induction table with
  | nil => simp [insert]
  | cons entry rest ih =>
      rw [insert_cons, insert_cons]
      by_cases same : key = entry.1
      · rw [if_pos same, if_pos same, insert_cons, if_pos rfl]
      · rw [if_neg same, if_neg same]
        by_cases earlier : key < entry.1
        · rw [if_pos earlier, if_pos earlier, insert_cons, if_pos rfl]
        · rw [if_neg earlier, if_neg earlier, insert_cons, if_neg same, if_neg earlier, ih]

end Table

/-! ### The tree as a walk -/

namespace Value

def child : Value → Step → Option Value
  | .array items, .index position => items[position]?
  | .table entries, .key name => Table.find name entries
  | _, _ => none

def put (current : Value) (step : Step) (item : Value) : Value :=
  match step with
  | .index position => .array ((padded current.items position).set position item)
  | .key name => .table (current.entries.insert name item)

def walk : Walk Value Step where
  child := child
  put := put
  blank := emptyTable

/-- The kind of the node is the one the step is made for. -/
inductive Fits : Value → Step → Prop where
  | array (items : List Value) (position : Nat) : Fits (.array items) (.index position)
  | table (entries : Table) (name : String) : Fits (.table entries) (.key name)

/-- The second step is one of those an array gets to reach the first. -/
inductive Grown : Value → Step → Step → Prop where
  | array {items : List Value} {position other : Nat} : items.length ≤ other → other < position →
      Grown (.array items) (.index position) (.index other)

end Value

private theorem padded_length (items : List Value) (position : Nat) :
    (padded items position).length = max items.length (position + 1) := by
  unfold padded
  rw [List.length_append, List.length_replicate]
  omega

private theorem padded_get (items : List Value) {position other : Nat} :
    (padded items position)[other]? =
      if other < items.length then items[other]?
      else if other ≤ position then some .emptyTable else none := by
  unfold padded
  rw [List.getElem?_append]
  split
  · rfl
  · rw [List.getElem?_replicate]
    congr 1
    simp
    omega

private theorem padded_of_long {items : List Value} {position : Nat}
    (long : position < items.length) :
    padded items position = items := by
  unfold padded
  rw [Nat.sub_eq_zero_of_le long]
  exact List.append_nil items

/-- What the loop goes on with in an array. -/
private theorem Value.child_index (current : Value) (position : Nat) :
    (padded current.items position).getD position .emptyTable =
      (current.child (.index position)).getD .emptyTable := by
  rw [List.getD_eq_getElem?_getD, padded_get]
  cases current with
  | array items =>
      change _ = (items[position]?).getD .emptyTable
      by_cases inside : position < items.length
      · rw [Value.items, if_pos inside]
      · rw [Value.items, if_neg inside, if_pos (Nat.le_refl position),
          List.getElem?_eq_none (Nat.le_of_not_lt inside)]
        rfl
  | _ =>
      change (if position < 0 then _ else if position ≤ position then some Value.emptyTable
        else none).getD .emptyTable = _
      rw [if_neg (Nat.not_lt_zero position), if_pos (Nat.le_refl position)]
      rfl

/-- What the loop goes on with in a table. -/
private theorem Value.child_key (current : Value) (name : String) :
    current.entries.find name = current.child (.key name) := by
  cases current with
  | table entries => rfl
  | _ => rfl

private theorem store_eq_walk (value current : Value) (steps : List Step) :
    Value.store value current steps = Value.walk.store value current steps := by
  induction steps generalizing current with
  | nil => rfl
  | cons step steps ih =>
      rw [Walk.store_cons]
      cases step with
      | key name =>
          unfold Value.store
          rw [ih, Value.child_key]
          rfl
      | index position =>
          unfold Value.store
          dsimp only
          rw [ih, Value.child_index]
          rfl

theorem Value.walk_lawful : Value.walk.Lawful Fits Grown where
  child_put current step item := by
    cases step with
    | key name =>
        change Table.find name (Table.insert name item current.entries) = _
        rw [Table.find_insert, if_pos rfl]
    | index position =>
        have inside : position < (padded current.items position).length := by
          rw [padded_length]
          omega
        exact List.getElem?_set_self inside
  put_put current step first second := by
    cases step with
    | key name => exact congrArg Value.table (Table.insert_insert name first second _)
    | index position =>
        have long : position < ((padded current.items position).set position first).length := by
          rw [List.length_set, padded_length]
          omega
        change Value.array ((padded ((padded current.items position).set position first)
          position).set position second) = _
        rw [padded_of_long long, List.set_set]
        rfl
  child_put_other item fits apart := by
    cases fits with
    | table entries name =>
        rename_i other
        left
        cases other with
        | key other =>
            change Table.find other (Table.insert name item entries) = Table.find other entries
            rw [Table.find_insert, if_neg fun same => apart (congrArg Step.key same)]
        | index _ => rfl
    | array items position =>
        rename_i other
        cases other with
        | key _ => exact .inl rfl
        | index other =>
            have different : position ≠ other := fun same => apart (congrArg Step.index same.symm)
            change ((padded items position).set position item)[other]? = items[other]? ∨ _
            rw [List.getElem?_set_ne different, padded_get]
            by_cases inside : other < items.length
            · exact .inl (if_pos inside)
            · rw [if_neg inside]
              by_cases within : other ≤ position
              · right
                refine ⟨.array (Nat.le_of_not_lt inside) (by omega), ?_⟩
                change ((padded items position).set position item)[other]? = _
                rw [List.getElem?_set_ne different, padded_get, if_neg inside, if_pos within]
                rfl
              · left
                rw [if_neg within, List.getElem?_eq_none (Nat.le_of_not_lt inside)]

/-! ### Specs -/

/-- A path the walk starts on. -/
def KeyShaped (path : String) : Prop :=
  (segments path).any String.isEmpty = false ∧ 2 ≤ (segments path).length

theorem apply_keyShaped (parseTable : String → Option Table) (root : Table)
    {spec path raw : String} (found : splitOnce spec = some (path, raw))
    (shaped : KeyShaped path) :
    (apply parseTable root spec).1 = .ok () ∧
      Value.table (apply parseTable root spec).2 =
        Value.walk.store (parseValue parseTable raw) (.table root) (pathSteps (segments path)) := by
  obtain ⟨filled, several⟩ := shaped
  unfold apply
  rw [found]
  dsimp only
  generalize segments path = names at filled several ⊢
  rw [if_neg (by rw [filled]; exact Bool.false_ne_true)]
  match names, several with
  | first :: second :: rest, _ =>
      refine ⟨rfl, ?_⟩
      dsimp only
      rw [store_eq_walk]
      rfl

theorem apply_cases (parseTable : String → Option Table) (root : Table) (spec : String) :
    (∃ message, apply parseTable root spec = (.error message, root)) ∨
      ∃ path raw, splitOnce spec = some (path, raw) ∧ KeyShaped path := by
  unfold apply
  cases splitOnce spec with
  | none => exact .inl ⟨_, rfl⟩
  | some parts =>
      obtain ⟨path, raw⟩ := parts
      dsimp only
      by_cases empty : (segments path).any String.isEmpty = true
      · exact .inl ⟨_, if_pos empty⟩
      · rw [if_neg empty]
        split
        · rename_i shape
          right
          refine ⟨path, raw, rfl, Bool.not_eq_true _ ▸ empty, ?_⟩
          rw [shape]
          exact Nat.le_add_left 2 _
        · exact .inl ⟨_, rfl⟩

/-- An override is an update of one place: it is rejected and the tree stays, or its
value is found at its path, an earlier one at that path leaves no trace, and a path
that turns off at a node of the kind of the step leads to what it led to, unless it goes
through one of the empty tables an array was extended with. -/
theorem apply_updates (parseTable : String → Option Table) (root : Table) (spec : String) :
    (∀ message, (apply parseTable root spec).1 = .error message →
      (apply parseTable root spec).2 = root) ∧
    ((apply parseTable root spec).1 = .ok () → ∃ path raw, splitOnce spec = some (path, raw) ∧
      Value.walk.get (.table (apply parseTable root spec).2) (pathSteps (segments path)) =
        some (parseValue parseTable raw) ∧
      (∀ earlier first, splitOnce earlier = some (path, first) →
        apply parseTable (apply parseTable root earlier).2 spec =
          apply parseTable root spec) ∧
      ∀ before step rest node other tail,
        pathSteps (segments path) = before ++ step :: rest →
        Value.walk.get (.table root) before = some node → Value.Fits node step → other ≠ step →
        Value.walk.get (.table (apply parseTable root spec).2) (before ++ other :: tail) =
            Value.walk.get (.table root) (before ++ other :: tail) ∨
          Value.Grown node step other ∧
            Value.walk.get (.table (apply parseTable root spec).2) (before ++ [other]) =
              some .emptyTable) := by
  rcases apply_cases parseTable root spec with ⟨message, rejected⟩ | ⟨path, raw, found, shaped⟩
  · rw [rejected]
    refine ⟨fun _ _ => rfl, ?_⟩
    intro impossible
    cases impossible
  · obtain ⟨done, stored⟩ := apply_keyShaped parseTable root found shaped
    constructor
    · intro message failed
      rw [done] at failed
      cases failed
    · intro _
      refine ⟨path, raw, found, ?_, ?_, ?_⟩
      · rw [stored]
        exact Walk.get_store Value.walk_lawful ..
      · intro earlier first same
        obtain ⟨_, before⟩ := apply_keyShaped parseTable root same shaped
        obtain ⟨again, after⟩ :=
          apply_keyShaped parseTable (apply parseTable root earlier).2 found shaped
        refine Prod.ext (again.trans done.symm) (Value.table.inj ?_)
        rw [after, before, stored]
        exact Walk.store_store Value.walk_lawful ..
      · intro before step rest node other tail shape reached fits apart
        rw [stored, shape]
        exact Walk.get_store_other Value.walk_lawful _ reached fits apart tail

/-- An index into a section that is not there yet, and a value that is no TOML. -/
theorem apply_updates_index :
    ∃ after, apply (fun _ => none) [] "output.1.mode=off" = (.ok (), after) ∧
      Value.walk.get (.table after) [.key "output", .index 1, .key "mode"] =
        some (.string "off") := by
  have cut : splitOnce "output.1.mode=off" = some ("output.1.mode", "off") := by decide +kernel
  have steps : pathSteps (segments "output.1.mode") =
      [.key "output", .index 1, .key "mode"] := by decide +kernel
  have accepted : (apply (fun _ => none) [] "output.1.mode=off").1 = .ok () := by rfl
  obtain ⟨path, raw, found, stored, _⟩ :=
    (apply_updates (fun _ => none) [] "output.1.mode=off").2 accepted
  cases found.symm.trans cut
  rw [steps] at stored
  exact ⟨_, Prod.ext accepted rfl, stored⟩

/-! ### Order of the keys -/

/-- Every table of the tree has its keys in order, each once. -/
inductive Value.Ordered : Value → Prop where
  | string (text : String) : Ordered (.string text)
  | integer (number : Int) : Ordered (.integer number)
  | float (bits : UInt64) : Ordered (.float bits)
  | boolean (flag : Bool) : Ordered (.boolean flag)
  | datetime (text : String) : Ordered (.datetime text)
  | array {items : List Value} : (∀ item ∈ items, Ordered item) → Ordered (.array items)
  | table {entries : Table} : entries.Pairwise (fun left right => left.1 < right.1) →
      (∀ entry ∈ entries, Ordered entry.2) → Ordered (.table entries)

namespace Table

theorem mem_insert {key : String} {value : Value} {table : Table} {entry : String × Value}
    (member : entry ∈ insert key value table) : entry = (key, value) ∨ entry ∈ table := by
  induction table with
  | nil => exact .inl (List.mem_singleton.mp member)
  | cons first rest ih =>
      rw [insert_cons] at member
      split at member
      · rcases List.mem_cons.mp member with new | later
        · exact .inl new
        · exact .inr (List.mem_cons_of_mem first later)
      · split at member
        · exact List.mem_cons.mp member
        · rcases List.mem_cons.mp member with here | later
          · exact .inr (here ▸ List.mem_cons_self)
          · exact (ih later).imp_right (List.mem_cons_of_mem first)

private theorem pairwise_insert (key : String) (value : Value) {table : Table}
    (sorted : table.Pairwise fun left right => left.1 < right.1) :
    (insert key value table).Pairwise fun left right => left.1 < right.1 := by
  induction table with
  | nil => exact List.pairwise_singleton ..
  | cons first rest ih =>
      obtain ⟨lowest, later⟩ := List.pairwise_cons.mp sorted
      rw [insert_cons]
      split
      · rename_i same
        exact List.pairwise_cons.mpr ⟨fun entry member => same ▸ lowest entry member, later⟩
      · rename_i different
        split
        · rename_i smaller
          refine List.pairwise_cons.mpr ⟨fun entry member => ?_, sorted⟩
          rcases List.mem_cons.mp member with rfl | member
          · exact smaller
          · exact String.lt_trans smaller (lowest entry member)
        · rename_i notSmaller
          refine List.pairwise_cons.mpr ⟨fun entry member => ?_, ih later⟩
          rcases mem_insert member with rfl | member
          · exact lt_of_le_of_ne (not_lt.mp notSmaller) (Ne.symm different)
          · exact lowest entry member

end Table

namespace Value.Ordered

private theorem emptyTable : Ordered .emptyTable := .table .nil (by simp)

theorem items {current : Value} (ordered : Ordered current) :
    ∀ item ∈ current.items, Ordered item := by
  cases ordered with
  | array items => exact items
  | _ => simp [Value.items]

theorem entries {current : Value} (ordered : Ordered current) :
    (current.entries.Pairwise fun left right => left.1 < right.1) ∧
      ∀ entry ∈ current.entries, Ordered entry.2 := by
  cases ordered with
  | table sorted entries => exact ⟨sorted, entries⟩
  | _ => simp [Value.entries]

theorem padded {arr : List Value} (ordered : ∀ item ∈ arr, Ordered item) (position : Nat) :
    ∀ item ∈ padded arr position, Ordered item := by
  intro item member
  rcases List.mem_append.mp member with old | new
  · exact ordered item old
  · rw [List.eq_of_mem_replicate new]
    exact emptyTable

theorem child {current item : Value} {step : Step} (ordered : Ordered current)
    (found : current.child step = some item) : Ordered item := by
  cases ordered with
  | array items =>
      cases step with
      | key _ => cases found
      | index position => exact items item (List.mem_of_getElem? found)
  | @table entries sorted inner =>
      cases step with
      | key name =>
          obtain ⟨front, back, split, _⟩ := List.lookup_eq_some_iff.mp found
          exact inner (name, item) (split ▸ List.mem_append_right front List.mem_cons_self)
      | index _ => cases found
  | _ => cases step <;> cases found

theorem put {current item : Value} (ordered : Ordered current) (inner : Ordered item)
    (step : Step) : Ordered (current.put step item) := by
  cases step with
  | key name =>
      refine .table (Table.pairwise_insert name item ordered.entries.1) fun entry member => ?_
      rcases Table.mem_insert member with rfl | old
      · exact inner
      · exact ordered.entries.2 entry old
  | index position =>
      refine .array fun other member => ?_
      rcases List.mem_or_eq_of_mem_set member with old | rfl
      · exact padded ordered.items position other old
      · exact inner

theorem store {value current : Value} (new : Ordered value) (ordered : Ordered current)
    (steps : List Step) : Ordered (Value.walk.store value current steps) := by
  induction steps generalizing current with
  | nil => exact new
  | cons step steps ih =>
      refine ordered.put (ih ?_) step
      cases found : current.child step with
      | none =>
          change Ordered ((current.child step).getD .emptyTable)
          rw [found]
          exact emptyTable
      | some next =>
          change Ordered ((current.child step).getD .emptyTable)
          rw [found]
          exact ordered.child found

end Value.Ordered

/-- An override keeps the keys of every table in order, when the TOML parser gives
them so. -/
theorem apply_ordered {parseTable : String → Option Table} {root : Table}
    (parsed : ∀ text table, parseTable text = some table → Value.Ordered (.table table))
    (ordered : Value.Ordered (.table root)) (spec : String) :
    Value.Ordered (.table (apply parseTable root spec).2) := by
  rcases apply_cases parseTable root spec with ⟨message, rejected⟩ | ⟨path, raw, found, shaped⟩
  · rw [rejected]
    exact ordered
  · rw [(apply_keyShaped parseTable root found shaped).2]
    refine Value.Ordered.store ?_ ordered _
    unfold parseValue
    cases read : parseTable ("v = " ++ raw) with
    | none => exact .string raw
    | some table =>
        dsimp only
        cases value : table.find "v" with
        | none => exact .string raw
        | some item => exact @Value.Ordered.child _ item (.key "v") (parsed _ _ read) value

end Westonite.Config
