import Westonite.Frontend.OutputRules

/-! The heads of the windowed backends: one for each section that is theirs, and
default names up to the count. The wrapper filters first and counts afterwards, and the
C loops count while they scan. -/

set_option autoImplicit false

namespace Westonite.Frontend

open Library.Binary
open Resolve (Settings Output)
open Westonite.Output (OutputRule OutputPolicy)

inductive DefaultHeadNumbering where
  | afterNamed
  | fromZero
  deriving DecidableEq, Repr

/-- What was logged, and the names `create_head` was called with, with an error when
one of the calls failed. -/
structure HeadCalls where
  lines : List String
  result : Except (List String) (List String)
  deriving DecidableEq

def noWindowedOutputApi : String := "Cannot use weston_windowed_output_api."

section

-- Whether `create_head` takes a name, after the names it was called with before.
variable (create : List String → String → Bool)

/-! ### The wrapper -/

/-- The first loop of `create_windowed_heads`. -/
def namedHeads (count : Int) :
    List String → Int → List String → Except (List String) (Int × List String)
  | [], made, calls => .ok (made, calls)
  | name :: named, made, calls =>
      if made ≥ count then .ok (made, calls)
      else if Char.ofNat 0 ∈ name.toList then .error calls
      else if create calls name then namedHeads count named (made + 1) (calls ++ [name])
      else .error (calls ++ [name])

/-- The second loop of `create_windowed_heads`, with `left` turns to go at `i`. -/
def defaultHeads (defaultName : Int → String) (numbering : DefaultHeadNumbering) (made : Int) :
    Nat → Int → List String → Except (List String) (List String)
  | 0, _, calls => .ok calls
  | left + 1, i, calls =>
      let n :=
        match numbering with
        | .afterNamed => i
        | .fromZero => i - made
      if create calls (defaultName n) then
        defaultHeads defaultName numbering made left (i + 1) (calls ++ [defaultName n])
      else .error (calls ++ [defaultName n])

def createWindowedHeads (api : Bool) (lead : String) (defaultName : Int → String) (count : Int)
    (numbering : DefaultHeadNumbering) (policyNames : List String) : HeadCalls :=
  if !api then ⟨[noWindowedOutputApi], .error []⟩
  else
    let named := policyNames.filter fun name => lead.toList.isPrefixOf name.toList
    ⟨[], do
      let (made, calls) ← namedHeads create count named 0 []
      defaultHeads create defaultName numbering made (count - made).toNat made calls⟩

/-- The `output_count` that `main` hands to a backend, an `i32`. -/
def outputCountOption (settings : Settings) : Int :=
  ((settings.outputCount.filter fun v => v ≤ 2147483647).map Int.ofNat).getD 1

def screenName (i : Int) : String := "screen" ++ toString i

def waylandName (i : Int) : String := "wayland" ++ toString i

/-- `load_x11`, once the backend is loaded. -/
def loadX11 (settings : Settings) (policyNames : List String) (api : Bool) : HeadCalls :=
  createWindowedHeads create api "X" screenName (max (outputCountOption settings) 1) .afterNamed
    policyNames

/-- `load_wayland`, once the backend is loaded. -/
def loadWayland (settings : Settings) (policyNames : List String) (api : Bool) : HeadCalls :=
  if settings.sprawl then ⟨[], .ok []⟩
  else
    createWindowedHeads create api "WL" waylandName (max (outputCountOption settings) 1) .fromZero
      policyNames

/-! ### The C loops

A section is its `name`. -/

/-- The scan of `load_x11_backend`. -/
def scanX11 (optionCount : Int) :
    List (Option String) → Int → List String → Except (List String) (Int × List String)
  | [], outputCount, calls => .ok (outputCount, calls)
  | name :: sections, outputCount, calls =>
      if outputCount ≥ optionCount then .ok (outputCount, calls)
      else
        match name with
        | none => scanX11 optionCount sections outputCount calls
        | some name =>
            if name.toList.head? ≠ some 'X' then scanX11 optionCount sections outputCount calls
            else if create calls name then
              scanX11 optionCount sections (outputCount + 1) (calls ++ [name])
            else .error (calls ++ [name])

/-- The scan of `load_wayland_backend`, with `count` heads to go. -/
def scanWayland :
    List (Option String) → Int → List String → Except (List String) (Int × List String)
  | [], count, calls => .ok (count, calls)
  | name :: sections, count, calls =>
      if count = 0 then .ok (count, calls)
      else
        match name with
        | none => scanWayland sections count calls
        | some name =>
            if name.toList.head? ≠ some 'W' || name.toList[1]? ≠ some 'L' then
              scanWayland sections count calls
            else if create calls name then
              scanWayland sections (count - 1) (calls ++ [name])
            else .error (calls ++ [name])

/-- `for (i = …; i < …; i++)` over the default names, with `left` turns to go at `i`. -/
def countUp (defaultName : Int → String) :
    Nat → Int → List String → Except (List String) (List String)
  | 0, _, calls => .ok calls
  | left + 1, i, calls =>
      if create calls (defaultName i) then
        countUp defaultName left (i + 1) (calls ++ [defaultName i])
      else .error (calls ++ [defaultName i])

/-- `load_x11_backend`, once the backend is loaded. -/
def loadX11Backend (optionCount : Int) (sections : List (Option String)) (api : Bool) :
    HeadCalls :=
  if !api then ⟨[noWindowedOutputApi], .error []⟩
  else
    ⟨[], do
      let (outputCount, calls) ← scanX11 create optionCount sections 0 []
      countUp create screenName (optionCount - outputCount).toNat outputCount calls⟩

/-- `load_wayland_backend`, once the backend is loaded. -/
def loadWaylandBackend (optionCount : Int) (sections : List (Option String)) (api : Bool) :
    HeadCalls :=
  if !api then ⟨[], .ok []⟩
  else
    ⟨[], do
      let (count, calls) ← scanWayland create sections optionCount []
      countUp create waylandName count.toNat 0 calls⟩

/-! ### A list of names, tried in order -/

/-- `create_head` for each name until one fails. -/
def tryHeads : List String → List String → Except (List String) (List String)
  | calls, [] => .ok calls
  | calls, name :: names =>
      if create calls name then tryHeads (calls ++ [name]) names else .error (calls ++ [name])

private theorem countUp_eq (defaultName : Int → String) (left : Nat) (i : Int)
    (calls : List String) :
    countUp create defaultName left i calls =
      tryHeads create calls ((List.range left).map fun k : Nat => defaultName (i + k)) := by
  induction left generalizing i calls with
  | zero => rfl
  | succ left ih =>
      have shifted : (List.range left).map (fun k : Nat => defaultName (i + 1 + k)) =
          (List.range left).map fun k : Nat => defaultName (i + (k + 1 : Nat)) := by
        apply List.map_congr_left
        intro k _
        congr 1
        omega
      rw [List.range_succ_eq_map, List.map_cons, List.map_map, countUp, tryHeads, ih, shifted]
      simp only [Int.natCast_zero, Int.add_zero]
      rfl

private theorem defaultHeads_eq (defaultName : Int → String) (numbering : DefaultHeadNumbering)
    (made : Int) (left : Nat) (i : Int) (calls : List String) :
    defaultHeads create defaultName numbering made left i calls =
      countUp create defaultName left
        (match numbering with
          | .afterNamed => i
          | .fromZero => i - made) calls := by
  induction left generalizing i calls with
  | zero => cases numbering <;> rfl
  | succ left ih =>
      have shifted : i + 1 - made = i - made + 1 := by omega
      cases numbering with
      | afterNamed => simp only [defaultHeads, countUp, ih]
      | fromZero => simp only [defaultHeads, countUp, ih, shifted]

/-- The first heads of a list, and how many there are. -/
def tryFirst (wanted : Int) (calls names : List String) :
    Except (List String) (Int × List String) :=
  (tryHeads create calls (names.take wanted.toNat)).map fun calls =>
    ((names.take wanted.toNat).length, calls)

private theorem tryFirst_done {wanted : Int} (calls names : List String) (done : wanted ≤ 0) :
    tryFirst create wanted calls names = .ok (0, calls) := by
  have none : wanted.toNat = 0 := by omega
  simp only [tryFirst, none, List.take_zero]
  rfl

private theorem tryFirst_cons {wanted : Int} (calls : List String) (name : String)
    (names : List String)
    (more : 0 < wanted) :
    tryFirst create wanted calls (name :: names) =
      if create calls name then
        (tryFirst create (wanted - 1) (calls ++ [name]) names).map fun result =>
          (1 + result.1, result.2)
      else .error (calls ++ [name]) := by
  obtain ⟨k, shape⟩ : ∃ k, wanted.toNat = k + 1 := ⟨wanted.toNat - 1, by omega⟩
  have rest : (wanted - 1).toNat = k := by omega
  simp only [tryFirst, shape, rest, List.take_succ_cons, tryHeads]
  split
  · cases tryHeads create (calls ++ [name]) (names.take k) with
    | error calls => rfl
    | ok calls =>
        simp only [Except.map, List.length_cons]
        congr 2
        omega
  · rfl

private theorem namedHeads_eq {count : Int} {named : List String}
    (clean : ∀ name ∈ named, Char.ofNat 0 ∉ name.toList) (made : Int) (calls : List String) :
    namedHeads create count named made calls =
      (tryFirst create (count - made) calls named).map fun result =>
        (made + result.1, result.2) := by
  induction named generalizing made calls with
  | nil => simp [namedHeads, tryFirst, tryHeads, Except.map]
  | cons name named ih =>
      have cleanName := clean name List.mem_cons_self
      have cleanRest := fun other member => clean other (List.mem_cons_of_mem name member)
      unfold namedHeads
      by_cases full : made ≥ count
      · rw [if_pos full, tryFirst_done create calls _ (by omega)]
        simp [Except.map]
      · have shifted : count - (made + 1) = count - made - 1 := by omega
        rw [if_neg full, if_neg cleanName, tryFirst_cons create calls name named (by omega)]
        split
        · rw [ih cleanRest, shifted]
          cases tryFirst create (count - made - 1) (calls ++ [name]) named with
          | error calls => rfl
          | ok result => simp [Except.map, Int.add_assoc]
        · rfl

/-- The sections a scan takes. -/
def ours (lead : String) (sections : List (Option String)) : List String :=
  (sections.filterMap id).filter fun name => lead.toList.isPrefixOf name.toList

private theorem ours_some (lead name : String) (sections : List (Option String)) :
    ours lead (some name :: sections) =
      if lead.toList.isPrefixOf name.toList then name :: ours lead sections
      else ours lead sections := by
  simp only [ours, List.filterMap_cons, id, List.filter_cons]

private theorem isPrefixOf_x (name : String) :
    "X".toList.isPrefixOf name.toList ↔ name.toList.head? = some 'X' := by
  have letters : "X".toList = ['X'] := rfl
  rw [letters]
  cases name.toList with
  | nil => simp
  | cons first rest =>
      simp only [List.isPrefixOf, Bool.and_true, beq_iff_eq, List.head?_cons, Option.some.injEq]
      exact eq_comm

private theorem isPrefixOf_wl (name : String) :
    "WL".toList.isPrefixOf name.toList ↔
      name.toList.head? = some 'W' ∧ name.toList[1]? = some 'L' := by
  have letters : "WL".toList = ['W', 'L'] := rfl
  rw [letters]
  rcases name.toList with _ | ⟨first, _ | ⟨second, rest⟩⟩
  · simp
  · simp [List.isPrefixOf]
  · simp only [List.isPrefixOf, Bool.and_true, Bool.and_eq_true, beq_iff_eq, List.head?_cons,
      List.getElem?_cons_succ, List.getElem?_cons_zero, Option.some.injEq]
    exact and_congr eq_comm eq_comm

private theorem scanX11_eq (optionCount : Int) (sections : List (Option String)) (outputCount : Int)
    (calls : List String) :
    scanX11 create optionCount sections outputCount calls =
      (tryFirst create (optionCount - outputCount) calls (ours "X" sections)).map fun result =>
        (outputCount + result.1, result.2) := by
  induction sections generalizing outputCount calls with
  | nil => simp [scanX11, ours, tryFirst, tryHeads, Except.map]
  | cons name sections ih =>
      unfold scanX11
      by_cases full : outputCount ≥ optionCount
      · rw [if_pos full, tryFirst_done create calls _ (by omega)]
        simp [Except.map]
      · rw [if_neg full]
        cases name with
        | none => exact ih outputCount calls
        | some name =>
            dsimp only
            rw [ours_some]
            by_cases lead : "X".toList.isPrefixOf name.toList
            · have shifted : optionCount - (outputCount + 1) = optionCount - outputCount - 1 := by
                omega
              rw [if_neg (not_not.mpr ((isPrefixOf_x name).mp lead)), if_pos lead,
                tryFirst_cons create calls name _ (by omega)]
              split
              · rw [ih, shifted]
                cases tryFirst create (optionCount - outputCount - 1) (calls ++ [name])
                    (ours "X" sections) with
                | error calls => rfl
                | ok result => simp [Except.map, Int.add_assoc]
              · rfl
            · have other : name.toList.head? ≠ some 'X' := by
                intro first
                exact lead ((isPrefixOf_x name).mpr first)
              rw [if_pos other, if_neg lead]
              exact ih outputCount calls

private theorem scanWayland_eq (sections : List (Option String)) {count : Int}
    (positive : 0 ≤ count)
    (calls : List String) :
    scanWayland create sections count calls =
      (tryFirst create count calls (ours "WL" sections)).map fun result =>
        (count - result.1, result.2) := by
  induction sections generalizing count calls with
  | nil => simp [scanWayland, ours, tryFirst, tryHeads, Except.map]
  | cons name sections ih =>
      unfold scanWayland
      by_cases full : count = 0
      · rw [if_pos full, tryFirst_done create calls _ (by omega)]
        simp [Except.map]
      · rw [if_neg full]
        cases name with
        | none => exact ih positive calls
        | some name =>
            dsimp only
            rw [ours_some]
            by_cases lead : "WL".toList.isPrefixOf name.toList
            · obtain ⟨first, second⟩ := (isPrefixOf_wl name).mp lead
              have taken : ¬ (name.toList.head? ≠ some 'W' || name.toList[1]? ≠ some 'L') := by
                simp [first, second]
              rw [if_neg taken, if_pos lead, tryFirst_cons create calls name _ (by omega)]
              split
              · rw [ih (by omega)]
                cases tryFirst create (count - 1) (calls ++ [name]) (ours "WL" sections) with
                | error calls => rfl
                | ok result =>
                    simp only [Except.map]
                    congr 2
                    omega
              · rfl
            · have other : name.toList.head? ≠ some 'W' || name.toList[1]? ≠ some 'L' := by
                by_contra both
                apply lead
                rw [isPrefixOf_wl]
                simpa using both
              rw [if_pos other, if_neg lead]
              exact ih positive calls

/-! ### The loops agree -/

/-- The heads of a backend: its sections, then default names, as many as were asked for. -/
private theorem createWindowedHeads_eq {lead : String} {defaultName : Int → String} {count : Int}
    {policyNames : List String} (clean : ∀ name ∈ policyNames, Char.ofNat 0 ∉ name.toList)
    (numbering : DefaultHeadNumbering) :
    createWindowedHeads create true lead defaultName count numbering policyNames =
      ⟨[], (tryFirst create count [] (ours lead (policyNames.map some))).bind fun result =>
        countUp create defaultName (count - result.1).toNat
          (match numbering with
            | .afterNamed => result.1
            | .fromZero => 0) result.2⟩ := by
  have sections : (policyNames.map some).filterMap id = policyNames := by simp
  have cleanOurs : ∀ name ∈ ours lead (policyNames.map some), Char.ofNat 0 ∉ name.toList := by
    intro name member
    unfold ours at member
    rw [sections] at member
    exact clean name (List.mem_of_mem_filter member)
  have loop := @namedHeads_eq create count _ cleanOurs 0 []
  have filtered : policyNames.filter (fun name => lead.toList.isPrefixOf name.toList) =
      ours lead (policyNames.map some) := by
    unfold ours
    rw [sections]
  unfold createWindowedHeads
  simp only [Bool.not_true, Bool.false_eq_true, if_false, filtered, loop, Int.sub_zero]
  cases tryFirst create count [] (ours lead (policyNames.map some)) with
  | error calls => rfl
  | ok result =>
      simp only [Except.map, Int.zero_add, bind, Except.bind, defaultHeads_eq]
      cases numbering with
      | afterNamed => rfl
      | fromZero => simp only [Int.sub_self]

private theorem loadX11_eq {policyNames : List String} (api : Bool)
    (clean : ∀ name ∈ policyNames, Char.ofNat 0 ∉ name.toList) (settings : Settings) :
    loadX11 create settings policyNames api =
      loadX11Backend create (max (outputCountOption settings) 1) (policyNames.map some) api := by
  unfold loadX11 loadX11Backend
  cases api with
  | false => rfl
  | true =>
      rw [createWindowedHeads_eq create clean, scanX11_eq, Int.sub_zero]
      cases tryFirst create (max (outputCountOption settings) 1) []
          (ours "X" (policyNames.map some)) with
      | error calls => rfl
      | ok result => simp [Except.map, bind, Except.bind]

private theorem loadWayland_eq {policyNames : List String} (clean : ∀ name ∈ policyNames,
    Char.ofNat 0 ∉ name.toList) {settings : Settings} (windowed : settings.sprawl = false) :
    loadWayland create settings policyNames true =
      loadWaylandBackend create (max (outputCountOption settings) 1) (policyNames.map some)
        true := by
  unfold loadWayland loadWaylandBackend
  rw [windowed, if_neg Bool.false_ne_true, createWindowedHeads_eq create clean,
    scanWayland_eq create _ (by omega)]
  cases tryFirst create (max (outputCountOption settings) 1) []
      (ours "WL" (policyNames.map some)) with
  | error calls => rfl
  | ok result => rfl

private theorem tryHeads_ok {calls names after : List String}
    (tried : tryHeads create calls names = .ok after) : after = calls ++ names := by
  induction names generalizing calls with
  | nil =>
      cases tried
      exact (List.append_nil _).symm
  | cons name names ih =>
      simp only [tryHeads] at tried
      split at tried
      · rw [ih tried, List.append_assoc]
        rfl
      · cases tried

/-- `create_head` is called for each head that is asked for. -/
private theorem loadWaylandBackend_calls {optionCount : Int} {sections : List (Option String)}
    {calls : List String} (positive : 0 ≤ optionCount)
    (loaded : loadWaylandBackend create optionCount sections true = ⟨[], .ok calls⟩) :
    calls.length = optionCount := by
  unfold loadWaylandBackend at loaded
  rw [scanWayland_eq create sections positive] at loaded
  unfold tryFirst at loaded
  cases tried : tryHeads create [] ((ours "WL" sections).take optionCount.toNat) with
  | error failed =>
      rw [tried] at loaded
      cases loaded
  | ok named =>
      rw [tried] at loaded
      have counted := congrArg HeadCalls.result loaded
      simp only [Bool.not_true, Bool.false_eq_true, if_false, Except.map, bind, Except.bind,
        countUp_eq] at counted
      rw [tryHeads_ok create counted, tryHeads_ok create tried, List.nil_append,
        List.length_append, List.length_map, List.length_range]
      have short := List.length_take_le optionCount.toNat (ours "WL" sections)
      omega

/-! ### An accepted configuration -/

private theorem names_eq {display : F64 → String} {settings : Settings}
    {sections : List Resolve.Output}
    {rules : List OutputRule} (built : List.Forall₂ (RuleBuilt display settings) sections rules) :
    (rules.map OutputRule.name).map some = sections.map Output.name := by
  induction built with
  | nil => rfl
  | cons rule _ ih => rw [List.map_cons, List.map_cons, List.map_cons, ih, rule.name]

/-- The `name` keys of the sections, which an accepted policy keeps. -/
theorem policyNames_eq {display : F64 → String} {settings : Settings} {policy : OutputPolicy}
    (built : (buildOutputPolicy display settings).2 = .ok policy) :
    (policy.rules.map OutputRule.name).map some = settings.config.output.map Output.name :=
  names_eq (buildOutputPolicy_built built).rules

/-- The count both frontends were given, where `0` is one head for the wrapper. -/
private theorem outputCountOption_eq {settings : Settings} {n : Nat}
    (given : settings.outputCount.getD 1 = n) (small : n ≤ 2147483647) :
    outputCountOption settings = n := by
  unfold outputCountOption
  cases counted : settings.outputCount with
  | none =>
      rw [counted] at given
      rw [← given]
      rfl
  | some v =>
      rw [counted] at given
      obtain rfl : v = n := given
      rw [Option.filter_some, if_pos (decide_eq_true small)]
      rfl

end

/-- Three heads, and one section that names an X window. -/
def threeHeads : Settings :=
  Resolve.assemble { outputCount := some 3 }
    { output := [{ name := some "X1" }, { name := some "HDMI-A-1" }] }
    [.x11] .auto 0xff002244 none none

end Westonite.Frontend
