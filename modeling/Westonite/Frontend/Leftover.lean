import Westonite.Frontend.Gate

/-! The gate against C: there every loader takes its options out of the command line,
and an option that no loader took is an error. -/

set_option autoImplicit false

namespace Westonite.Frontend

open Resolve
open Westonite.Output (scanInt scanSign storedInt isSpace isDecimal span_digits scanInt_number
  numberSyntax_toDigits toList_toString_natCast)
open Library.Radix (digits_toDigits value_toDigits)

/-! ### The tables of C's loaders -/

def integerOption (name : String) : WestonOption := ⟨.integer, name.toList, none⟩

def stringOption (name : String) : WestonOption := ⟨.string, name.toList, none⟩

def booleanOption (name : String) : WestonOption := ⟨.boolean, name.toList, none⟩

/-- The tables, in C's order. -/
def loaderOptions : Backend → List WestonOption
  | .drm =>
      [stringOption "seat", stringOption "drm-device", stringOption "additional-devices",
        booleanOption "current-mode", booleanOption "use-pixman",
        booleanOption "continue-without-input"]
  | .headless =>
      [integerOption "width", integerOption "height", integerOption "scale",
        booleanOption "use-pixman", booleanOption "use-gl", stringOption "transform",
        booleanOption "no-outputs", integerOption "refresh-rate"]
  | .pipewire => [integerOption "width", integerOption "height"]
  | .rdp =>
      [booleanOption "env-socket", integerOption "external-listener-fd", integerOption "width",
        integerOption "height", stringOption "address", integerOption "port",
        booleanOption "no-resizeable", stringOption "rdp4-key", stringOption "rdp-tls-cert",
        stringOption "rdp-tls-key", integerOption "scale", booleanOption "force-no-compression",
        booleanOption "no-remotefx-codec"]
  | .vnc =>
      [integerOption "width", integerOption "height", stringOption "address",
        integerOption "port", stringOption "vnc-tls-cert", stringOption "vnc-tls-key",
        booleanOption "disable-transport-layer-security"]
  | .x11 =>
      [integerOption "width", integerOption "height", integerOption "scale",
        ⟨.boolean, "fullscreen".toList, some 'f'⟩, integerOption "output-count",
        booleanOption "no-input", booleanOption "use-pixman"]
  | .wayland =>
      [integerOption "width", integerOption "height", integerOption "scale",
        stringOption "display", booleanOption "use-pixman", integerOption "output-count",
        booleanOption "fullscreen", booleanOption "sprawl"]

/-- The loaders run in the order of the backends, each on what the ones before left. -/
def leftover (backends : List Backend) (argv : List (List Char)) : Option (List (List Char)) :=
  backends.foldlM (fun argv backend => parseOptions (loaderOptions backend) false argv) argv

/-! ### The words of a command line -/

/-- The value of a flag. -/
inductive FlagValue where
  | string (value : Option String)
  | integer (value : Option Int)
  | boolean (given : Bool)

namespace FlagValue

def type : FlagValue → OptionType
  | .string _ => .string
  | .integer _ => .integer
  | .boolean _ => .boolean

def given : FlagValue → Bool
  | .string value => value.isSome
  | .integer value => value.isSome
  | .boolean given => given

/-- The word of a flag that is given. -/
def words (name : String) : FlagValue → List Word
  | .string value => value.toList.map fun text => ⟨name.toList, some text.toList⟩
  | .integer value => value.toList.map fun n => ⟨name.toList, some (toString n).toList⟩
  | .boolean given => if given then [⟨name.toList, none⟩] else []

end FlagValue

/-- The options of the loaders. -/
def loaderFlags (cli : Cli) : List (String × FlagValue) :=
  [("width", .integer cli.width), ("height", .integer cli.height),
    ("seat", .string cli.seat), ("drm-device", .string cli.drmDevice),
    ("additional-devices", .string cli.additionalDevices),
    ("current-mode", .boolean cli.currentMode),
    ("continue-without-input", .boolean cli.continueWithoutInput),
    ("scale", .integer cli.scale), ("transform", .string cli.transform),
    ("no-outputs", .boolean cli.noOutputs), ("refresh-rate", .integer cli.refreshRate),
    ("use-gl", .boolean cli.useGl), ("use-pixman", .boolean cli.usePixman),
    ("fullscreen", .boolean cli.fullscreen),
    ("output-count", .integer (cli.outputCount.map Int.ofNat)),
    ("no-input", .boolean cli.noInput), ("sprawl", .boolean cli.sprawl),
    ("display", .string cli.display), ("port", .integer (cli.port.map Int.ofNat)),
    ("address", .string cli.address), ("vnc-tls-cert", .string cli.vncTlsCert),
    ("vnc-tls-key", .string cli.vncTlsKey),
    ("disable-transport-layer-security", .boolean cli.disableTransportLayerSecurity),
    ("rdp-tls-cert", .string cli.rdpTlsCert), ("rdp-tls-key", .string cli.rdpTlsKey),
    ("external-listener-fd", .integer cli.externalListenerFd),
    ("no-resizeable", .boolean cli.noResizeable), ("rdp4-key", .string cli.rdp4Key),
    ("env-socket", .boolean cli.envSocket),
    ("no-remotefx-codec", .boolean cli.noRemotefxCodec),
    ("force-no-compression", .boolean cli.forceNoCompression)]

/-- How they are written on the command line. -/
def loaderWords (cli : Cli) : List Word :=
  (loaderFlags cli).flatMap fun entry => entry.2.words entry.1

def Int32 (n : Int) : Prop := -2147483648 ≤ n ∧ n < 2147483648

/-- The numbers that the flags can hold, `--output-count` only as far as C reads it. -/
structure FlagRanges (cli : Cli) : Prop where
  width : ∀ n, cli.width = some n → Int32 n
  height : ∀ n, cli.height = some n → Int32 n
  scale : ∀ n, cli.scale = some n → Int32 n
  refreshRate : ∀ n, cli.refreshRate = some n → Int32 n
  externalListenerFd : ∀ n, cli.externalListenerFd = some n → Int32 n
  outputCount : ∀ n, cli.outputCount = some n → n < 2147483648
  port : ∀ n, cli.port = some n → n < 65536

/-! ### Every word is one that the tables are about -/

private theorem scanInt_negative (n : Nat) (fits : n ≤ 2147483648) :
    scanInt ('-' :: Nat.toDigits 10 n) = some (some (-(n : Int)), []) := by
  have digits := @digits_toDigits 10 (by decide) (by decide) n
  have ended : ∀ c, ([] : List Char).head? = some c → isDecimal c = false :=
    fun c first => by cases first
  obtain ⟨taken, dropped⟩ := span_digits digits ended
  rw [List.append_nil] at taken dropped
  have stored : storedInt true n = some (-(n : Int)) := by
    unfold storedInt
    rw [if_pos rfl]
    exact if_pos ⟨by omega, by omega⟩
  have visible : isSpace '-' = false := rfl
  have signed : scanSign ('-' :: Nat.toDigits 10 n) = (true, Nat.toDigits 10 n) := rfl
  unfold scanInt
  rw [List.dropWhile_cons_of_neg (by simp [visible]), signed]
  dsimp only
  rw [taken, dropped, if_neg Nat.toDigits_ne_nil, value_toDigits (by decide) (by decide), stored]

/-- C reads back what is printed. -/
private theorem safeStrtoint_toString {n : Int} (fits : Int32 n) :
    safeStrtoint (toString n).toList = some n := by
  obtain ⟨low, high⟩ := fits
  unfold safeStrtoint
  by_cases positive : 0 ≤ n
  · obtain ⟨k, rfl⟩ := Int.eq_ofNat_of_zero_le positive
    have ended : ∀ c, ([] : List Char).head? = some c → isDecimal c = false :=
      fun c first => by cases first
    have read := scanInt_number (numberSyntax_toDigits k) (by omega) ended
    rw [List.append_nil] at read
    rw [toList_toString_natCast, read]
  · obtain ⟨k, rfl⟩ : ∃ k : Nat, n = -(k : Int) := ⟨n.natAbs, by omega⟩
    have printed : (toString (-(k : Int))).toList = '-' :: Nat.toDigits 10 k := by
      rw [Int.toString_eq_repr, Int.repr_eq_if, if_neg positive, Int.neg_neg, Int.toNat_natCast,
        String.toList_append, Nat.toList_repr]
      rfl
    rw [printed, scanInt_negative k (by omega)]

/-- The names of all options, with the type each table gives them. -/
def vocabulary : List (List Char × OptionType) :=
  [Backend.drm, .headless, .pipewire, .rdp, .vnc, .x11, .wayland].flatMap fun backend =>
    (loaderOptions backend).map fun option => (option.name, option.type)

private theorem vocabulary_lawful :
    ∀ entry ∈ vocabulary, entry.1 ≠ [] ∧ '=' ∉ entry.1 ∧
      ∀ other ∈ vocabulary, entry.1 <+: other.1 → entry = other := by
  decide

private theorem mem_vocabulary {backend : Backend} {option : WestonOption}
    (member : option ∈ loaderOptions backend) : (option.name, option.type) ∈ vocabulary := by
  refine List.mem_flatMap.mpr ⟨backend, ?_, List.mem_map.mpr ⟨option, member, rfl⟩⟩
  cases backend <;> decide

/-- A word of the vocabulary, with a value that suits it. -/
structure Spelled (word : Word) (type : OptionType) : Prop where
  listed : (word.name, type) ∈ vocabulary
  valued : match word.value with
    | none => type = .boolean
    | some value => type ≠ .boolean ∧ (type = .integer → (safeStrtoint value).isSome = true)

theorem Spelled.fits {word : Word} {type : OptionType} (spelled : Spelled word type)
    (backend : Backend) : word.Fits (loaderOptions backend) where
  named := (vocabulary_lawful _ spelled.listed).1
  clear option member := (vocabulary_lawful _ (mem_vocabulary member)).2.1
  whole option member front :=
    congrArg Prod.fst ((vocabulary_lawful _ (mem_vocabulary member)).2.2 _ spelled.listed front)
  typed option member same := by
    have entry := (vocabulary_lawful _ (mem_vocabulary member)).2.2 _ spelled.listed
      (same ▸ List.prefix_rfl)
    have kind : option.type = type := congrArg Prod.snd entry
    have valued := spelled.valued
    cases value : word.value with
    | none =>
        rw [value] at valued
        exact kind.trans valued
    | some text =>
        rw [value] at valued
        obtain ⟨other, read⟩ := valued
        refine ⟨kind ▸ other, ?_⟩
        unfold handleOption
        rw [kind]
        cases type with
        | integer => exact read rfl
        | string => rfl
        | boolean => exact absurd rfl other

private theorem FlagValue.spelled {name : String} {value : FlagValue}
    (listed : (name.toList, value.type) ∈ vocabulary)
    (fits : ∀ n, value = .integer (some n) → Int32 n) {word : Word}
    (member : word ∈ value.words name) : Spelled word value.type := by
  cases value with
  | string value =>
      obtain ⟨text, _, rfl⟩ := List.mem_map.mp member
      exact ⟨listed, by simp [FlagValue.type]⟩
  | integer value =>
      obtain ⟨n, given, rfl⟩ := List.mem_map.mp member
      obtain rfl := Option.mem_toList.mp given
      have read := safeStrtoint_toString (fits n rfl)
      refine ⟨listed, OptionType.noConfusion, fun _ => ?_⟩
      rw [read]
      rfl
  | boolean given =>
      cases given with
      | false => cases member
      | true =>
          obtain rfl := List.mem_singleton.mp member
          exact ⟨listed, rfl⟩

private theorem loaderFlags_listed (cli : Cli) :
    ∀ entry ∈ loaderFlags cli, (entry.1.toList, entry.2.type) ∈ vocabulary := by
  have types : ∀ entry ∈ (loaderFlags cli).map fun entry => (entry.1.toList, entry.2.type),
      entry ∈ vocabulary := by
    have fixed : (loaderFlags cli).map (fun entry => (entry.1.toList, entry.2.type)) =
        (loaderFlags {}).map fun entry => (entry.1.toList, entry.2.type) := rfl
    rw [fixed]
    decide
  intro entry member
  exact types _ (List.mem_map_of_mem member)

private theorem loaderFlags_fit {cli : Cli} (ranges : FlagRanges cli) :
    ∀ entry ∈ loaderFlags cli, ∀ n, entry.2 = .integer (some n) → Int32 n := by
  have natural : ∀ (value : Option Nat), (∀ k, value = some k → k < 2147483648) →
      ∀ n, FlagValue.integer (value.map Int.ofNat) = .integer (some n) → Int32 n := by
    intro value small n same
    obtain ⟨k, is, rfl⟩ := Option.map_eq_some_iff.mp (FlagValue.integer.inj same)
    have bound := small k is
    constructor
    · exact Int.le_trans (by decide) (Int.natCast_nonneg k)
    · exact Int.ofNat_lt.mpr bound
  have outputCount := natural cli.outputCount ranges.outputCount
  have port := natural cli.port fun n given => Nat.lt_trans (ranges.port n given) (by decide)
  have integer : ∀ (value : Option Int), (∀ k, value = some k → Int32 k) →
      ∀ n, FlagValue.integer value = .integer (some n) → Int32 n :=
    fun value small n same => small n (FlagValue.integer.inj same)
  have width := integer cli.width ranges.width
  have height := integer cli.height ranges.height
  have scale := integer cli.scale ranges.scale
  have refreshRate := integer cli.refreshRate ranges.refreshRate
  have listenerFd := integer cli.externalListenerFd ranges.externalListenerFd
  simp only [loaderFlags, List.forall_mem_cons]
  simp only [reduceCtorEq, false_implies, implies_true, true_and]
  exact ⟨width, height, scale, refreshRate, outputCount, port, listenerFd,
    fun _ none => by cases none⟩

private theorem loaderWords_spelled {cli : Cli} (ranges : FlagRanges cli) :
    ∀ word ∈ loaderWords cli, ∃ type, Spelled word type := by
  intro word member
  obtain ⟨entry, listed, inside⟩ := List.mem_flatMap.mp member
  exact ⟨_, FlagValue.spelled (loaderFlags_listed cli entry listed)
    (loaderFlags_fit ranges entry listed) inside⟩

/-! ### What is left over -/

/-- Some loader of the backends knows the name. -/
def takenBy (backends : List Backend) (name : List Char) : Bool :=
  backends.any fun backend => (loaderOptions backend).any fun option => option.name == name

private theorem leftover_words {words : List Word}
    (spelled : ∀ word ∈ words, ∃ type, Spelled word type)
    (backends : List Backend) :
    leftover backends (words.map Word.text) =
      some ((words.filter fun word => !takenBy backends word.name).map Word.text) := by
  induction backends generalizing words with
  | nil =>
      have all : words.filter (fun word => !takenBy [] word.name) = words :=
        List.filter_eq_self.mpr fun word _ => rfl
      rw [all]
      rfl
  | cons backend rest ih =>
      have fits : ∀ word ∈ words, word.Fits (loaderOptions backend) := fun word member => by
        obtain ⟨type, is⟩ := spelled word member
        exact is.fits backend
      have first := parseOptions_words fits
      have later := @ih (words.filter fun word => !known (loaderOptions backend) word)
        fun word member => spelled word (List.mem_of_mem_filter member)
      have both : (words.filter fun word => !known (loaderOptions backend) word).filter
          (fun word => !takenBy rest word.name) =
          words.filter fun word => !takenBy (backend :: rest) word.name := by
        rw [List.filter_filter]
        congr 1
        funext word
        simp [takenBy, known, Bool.and_comm]
      unfold leftover at later ⊢
      rw [List.foldlM_cons, first, Option.bind_eq_bind, Option.bind_some, later, both]

/-! ### The tables of the gate -/

/-- Which loaded backends know a name is read off the tables. -/
private theorem takenBy_eq {name : List Char} (consumers : List Backend)
    (decided : ∀ backend, ((loaderOptions backend).any fun option => option.name == name) =
      consumers.contains backend) (backends : List Backend) :
    takenBy backends name = consumers.any backends.contains := by
  unfold takenBy
  rw [funext decided, Bool.eq_iff_iff, List.any_eq_true, List.any_eq_true]
  constructor
  · intro taken
    obtain ⟨backend, loaded, knows⟩ := taken
    exact ⟨backend, List.contains_iff_mem.mp knows, List.contains_iff_mem.mpr loaded⟩
  · intro taken
    obtain ⟨backend, knows, loaded⟩ := taken
    exact ⟨backend, List.contains_iff_mem.mp loaded, List.contains_iff_mem.mpr knows⟩

/-- The backends whose tables in C have the name. -/
def loadersOf : String → List Backend
  | "width" | "height" => [.headless, .pipewire, .rdp, .vnc, .x11, .wayland]
  | "seat" | "drm-device" | "additional-devices" | "current-mode" | "continue-without-input" =>
      [.drm]
  | "scale" => [.headless, .rdp, .x11, .wayland]
  | "transform" | "no-outputs" | "refresh-rate" | "use-gl" => [.headless]
  | "use-pixman" => [.drm, .headless, .x11, .wayland]
  | "fullscreen" | "output-count" => [.x11, .wayland]
  | "no-input" => [.x11]
  | "sprawl" | "display" => [.wayland]
  | "port" | "address" => [.rdp, .vnc]
  | "vnc-tls-cert" | "vnc-tls-key" | "disable-transport-layer-security" => [.vnc]
  | _ => [.rdp]

private theorem takenBy_loadersOf {cli : Cli} {entry : String × FlagValue}
    (listed : entry ∈ loaderFlags cli) (backends : List Backend) :
    takenBy backends entry.1.toList = (loadersOf entry.1).any backends.contains := by
  have decided : ∀ name ∈ (loaderFlags {}).map Prod.fst, ∀ backend ∈
      [Backend.drm, .headless, .pipewire, .rdp, .vnc, .x11, .wayland],
      ((loaderOptions backend).any fun option => option.name == name.toList) =
        (loadersOf name).contains backend := by
    decide
  have name : entry.1 ∈ (loaderFlags cli).map Prod.fst := List.mem_map_of_mem listed
  refine takenBy_eq (loadersOf entry.1) (fun backend => decided _ name backend ?_) backends
  cases backend <;> decide

private theorem rejectPerBackendFlags_eq_none {cli : Cli} {settings : Settings} :
    rejectPerBackendFlags cli settings = none ↔
      ∀ row ∈ perBackendFlags cli settings, row.1 = true → row.2.2 = true := by
  unfold rejectPerBackendFlags
  rw [List.findSome?_eq_none_iff]
  refine forall₂_congr fun row _ => ?_
  cases row.1 <;> cases row.2.2 <;> simp

private theorem rejectUnconsumedFlags_eq_none {cli : Cli} :
    rejectUnconsumedFlags cli = none ↔ ∀ row ∈ unconsumedFlags cli, row.1 = false := by
  unfold rejectUnconsumedFlags
  rw [List.findSome?_eq_none_iff]
  refine forall₂_congr fun row _ => ?_
  cases row.1 <;> simp

private theorem FlagValue.given_iff {name : String} {value : FlagValue} :
    value.given = true ↔ ∃ word, word ∈ value.words name := by
  cases value with
  | string value => cases value <;> simp [FlagValue.given, FlagValue.words]
  | integer value => cases value <;> simp [FlagValue.given, FlagValue.words]
  | boolean given => cases given <;> simp [FlagValue.given, FlagValue.words]

private theorem FlagValue.words_name {name : String} {value : FlagValue} {word : Word}
    (member : word ∈ value.words name) : word.name = name.toList := by
  cases value with
  | string value =>
      obtain ⟨text, _, rfl⟩ := List.mem_map.mp member
      rfl
  | integer value =>
      obtain ⟨n, _, rfl⟩ := List.mem_map.mp member
      rfl
  | boolean given =>
      cases given with
      | false => cases member
      | true =>
          obtain rfl := List.mem_singleton.mp member
          rfl

/-- A statement about the names on the command line is one about the flags given. -/
private theorem forall_loaderWords {cli : Cli} {P : List Char → Prop} :
    (∀ word ∈ loaderWords cli, P word.name) ↔
      ∀ entry ∈ loaderFlags cli, entry.2.given = true → P entry.1.toList := by
  constructor
  · intro words entry listed given
    obtain ⟨word, member⟩ := (@FlagValue.given_iff entry.1 entry.2).mp given
    have holds := words word (List.mem_flatMap.mpr ⟨entry, listed, member⟩)
    rwa [FlagValue.words_name member] at holds
  · intro flags word member
    obtain ⟨entry, listed, inside⟩ := List.mem_flatMap.mp member
    rw [FlagValue.words_name inside]
    exact flags entry listed (FlagValue.given_iff.mpr ⟨word, inside⟩)

/-- The names of the size, which every table of C has but the one of drm. -/
def sizeName (name : List Char) : Prop := name = "width".toList ∨ name = "height".toList

private theorem gate_flags_iff {cli : Cli} {settings : Settings}
    (scale : settings.scale = cli.scale)
    (transform : settings.transform = cli.transform)
    (noOutputs : settings.noOutputs = cli.noOutputs)
    (refreshRate : settings.refreshRate = cli.refreshRate)
    (noRdp : Backend.rdp ∉ settings.backends) :
    (rejectPerBackendFlags cli settings = none ∧ rejectUnconsumedFlags cli = none) ↔
      (∀ entry ∈ loaderFlags cli, entry.2.given = true →
        sizeName entry.1.toList ∨ takenBy settings.backends entry.1.toList = true) ∧
      (cli.usePixman = true → Backend.headless ∈ settings.backends ∨
        .x11 ∈ settings.backends ∨ .wayland ∈ settings.backends) := by
  have consumed : (∀ entry ∈ loaderFlags cli, entry.2.given = true →
      sizeName entry.1.toList ∨ takenBy settings.backends entry.1.toList = true) ↔
      ∀ entry ∈ loaderFlags cli, entry.2.given = true →
        sizeName entry.1.toList ∨ (loadersOf entry.1).any settings.backends.contains = true :=
    forall₂_congr fun entry listed => by rw [takenBy_loadersOf listed]
  rw [rejectPerBackendFlags_eq_none, rejectUnconsumedFlags_eq_none, consumed]
  simp only [perBackendFlags, unconsumedFlags, loaderFlags, List.forall_mem_cons, loadersOf]
  simp [sizeName, FlagValue.given, noRdp, scale, transform, noOutputs, refreshRate]
  simp only [or_assoc, and_assoc]
  constructor
  · intro passed
    grind
  · intro passed
    grind

/-- Only a session of drm alone leaves the size over. -/
private theorem sizeName_takenBy {name : List Char} (size : sizeName name)
    (backends : List Backend) :
    takenBy backends name = backends.any fun backend => backend != .drm := by
  have decided : ∀ name ∈ ["width".toList, "height".toList], ∀ backend ∈
      [Backend.drm, .headless, .pipewire, .rdp, .vnc, .x11, .wayland],
      ((loaderOptions backend).any fun option => option.name == name) = (backend != .drm) := by
    decide
  have listed : name ∈ ["width".toList, "height".toList] := by
    cases size with
    | inl width => exact width ▸ List.mem_cons_self
    | inr height => exact height ▸ List.mem_cons_of_mem _ List.mem_cons_self
  unfold takenBy
  congr 1
  funext backend
  refine decided name listed backend ?_
  cases backend <;> decide

/-- The gate passes the flags of the loaders, in whatever order they are given, when C's
loaders leave none of them over but a size and no drm loader is alone to draw with pixman. -/
theorem rejectFlags_iff_leftover {host : Host} {cli : Cli} {env : Env} {settings : Settings}
    (resolved : resolveFrom host cli env = .ok settings) (ranges : FlagRanges cli)
    (noRdp : Backend.rdp ∉ settings.backends) {words : List Word}
    (spelled : ∀ word, word ∈ words ↔ word ∈ loaderWords cli) :
    ∃ left : List Word,
      leftover settings.backends (words.map Word.text) = some (left.map Word.text) ∧
      (∀ word ∈ left, sizeName word.name → ∀ backend ∈ settings.backends, backend = .drm) ∧
      ((rejectPerBackendFlags cli settings = none ∧ rejectUnconsumedFlags cli = none) ↔
        (∀ word ∈ left, sizeName word.name) ∧
        (cli.usePixman = true → Backend.headless ∈ settings.backends ∨
          .x11 ∈ settings.backends ∨ .wayland ∈ settings.backends)) := by
  obtain ⟨tree, steps⟩ := resolveFrom_steps resolved
  have settled := steps.settled
  have typed : ∀ word ∈ words, ∃ type, Spelled word type := fun word member =>
    loaderWords_spelled ranges word ((spelled word).mp member)
  refine ⟨_, leftover_words typed settings.backends, ?_, ?_⟩
  · intro word member size backend loaded
    have left := (List.mem_filter.mp member).2
    rw [sizeName_takenBy size, Bool.not_eq_true', List.any_eq_false] at left
    simpa using left backend loaded
  · have flags := gate_flags_iff (congrArg Settings.scale settled)
      (congrArg Settings.transform settled) (congrArg Settings.noOutputs settled)
      (congrArg Settings.refreshRate settled) noRdp
    have names := @forall_loaderWords cli
      fun name => sizeName name ∨ takenBy settings.backends name = true
    rw [flags, ← names]
    refine and_congr_left fun _ => ?_
    constructor
    · intro each word member
      obtain ⟨given, left⟩ := List.mem_filter.mp member
      cases each word ((spelled word).mp given) with
      | inl size => exact size
      | inr taken => simp [taken] at left
    · intro sizes word member
      cases taken : takenBy settings.backends word.name with
      | true => exact .inr rfl
      | false =>
          have left : word ∈ words.filter fun word => !takenBy settings.backends word.name := by
            simp [(spelled word).mpr member, taken]
          exact .inl (sizes word left)

/-- A host without files. -/
def bareHost : Host where
  isFile _ := false
  readToString _ := .error ""
  parse _ := .ok []
  tryInto _ := .ok {}

/-- A seat and a size on a session of drm alone. -/
def drmCli : Cli := { seat := some "seat1", width := some 640 }

def drmWords : List Word :=
  [⟨"seat".toList, some "seat1".toList⟩, ⟨"width".toList, some "640".toList⟩]

/-- The gate passes both, and C leaves the size over. -/
theorem rejectFlags_iff_leftover_drm :
    ∃ settings, resolveFrom bareHost drmCli (fun _ => none) = .ok settings ∧
      rejectPerBackendFlags drmCli settings = none ∧ rejectUnconsumedFlags drmCli = none ∧
      ∃ left : List Word,
        leftover settings.backends (drmWords.map Word.text) = some (left.map Word.text) ∧
        (∀ word ∈ left, sizeName word.name) := by
  have resolved : resolveFrom bareHost drmCli (fun _ => none) =
      .ok (assemble drmCli {} [.drm] .auto 0xff002244 none none) := rfl
  have ranges : FlagRanges drmCli :=
    { width := by simp [drmCli, Int32], height := by simp [drmCli], scale := by simp [drmCli],
      refreshRate := by simp [drmCli], externalListenerFd := by simp [drmCli],
      outputCount := by simp [drmCli], port := by simp [drmCli] }
  have written : loaderWords drmCli =
      [⟨"width".toList, some "640".toList⟩, ⟨"seat".toList, some "seat1".toList⟩] := rfl
  have spelled : ∀ word, word ∈ drmWords ↔ word ∈ loaderWords drmCli := fun word => by
    rw [written]
    simp [drmWords, or_comm]
  obtain ⟨left, remains, _, gate⟩ :=
    rejectFlags_iff_leftover resolved ranges (by simp [assemble]) spelled
  have passed : rejectPerBackendFlags drmCli
      (assemble drmCli {} [.drm] .auto 0xff002244 none none) = none ∧
      rejectUnconsumedFlags drmCli = none := ⟨rfl, rfl⟩
  exact ⟨_, resolved, passed.1, passed.2, left, remains, (gate.mp passed).1⟩

end Westonite.Frontend
