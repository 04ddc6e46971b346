import Westonite.Output.Heads

/-! Layout outputs: the grouping of DRM heads, with attach-then-enable and undo. -/

set_option autoImplicit false

namespace Westonite.Output

inductive RequireOutputs where
  | any
  | allFound
  | none
  deriving DecidableEq, Repr

def RequireOutputs.parse (s : String) : Option RequireOutputs :=
  match s with
  | "any" => some .any
  | "all" => some .allFound
  | "none" => some .none
  | _ => Option.none

/-- The result of a loop over the staged heads: whether it came up, the heads
that are left, and those that go to the next round. -/
structure Attempt where
  up : Bool
  add : List (Option HeadPtr)
  failed : List HeadPtr
  deriving DecidableEq, Repr

namespace World

def maxCloneHeads : Nat := 16

/-- `add_head`: the group by name, or a new one, unless its list is full. -/
def addHead (w : World) (outputName sectionHead : String) (head : HeadPtr) : World :=
  let w :=
    if w.layoutputs.any fun lo => lo.name == outputName then w
    else { w with layoutputs := w.layoutputs ++ [⟨outputName, sectionHead, [], []⟩] }
  match w.layoutputs.findIdx? fun lo => lo.name == outputName with
  | none => w
  | some index =>
      w.setLayoutput index fun lo =>
        if lo.add.length + 1 ≥ maxCloneHeads then lo else { lo with add := lo.add ++ [some head] }

def stagedIn (w : World) (index : Nat) : List (Option HeadPtr) :=
  ((w.layoutputs[index]?).map Layoutput.add).getD []

def outputsIn (w : World) (index : Nat) : List CellId :=
  ((w.layoutputs[index]?).map Layoutput.outputs).getD []

def setAdd (w : World) (index : Nat) (add : List (Option HeadPtr)) : World :=
  w.setLayoutput index fun lo => { lo with add }

/-- `remove_output`. -/
def removeOutput (w : World) (index : Nat) (cell : CellId) : World :=
  w.setLayoutput index fun lo => { lo with outputs := lo.outputs.filter fun other => other ≠ cell }

/-- `destroy_output` of a layoutput. -/
def destroyEntry (w : World) (index : Nat) (cell : CellId) : World :=
  let w :=
    match w.cells cell with
    | none => w
    | some output => w.destroyOutput output
  w.removeOutput index cell

/-- `head_detached`. -/
def headDetached (w : World) (output : OutputPtr) : World :=
  if w.countHeads output ≠ 0 then w
  else
    let holds (cell : CellId) : Bool := w.cells cell = some output
    match w.layoutputs.findIdx? fun lo => lo.outputs.any holds with
    | none => w
    | some index =>
        match (w.outputsIn index).find? holds with
        | none => w
        | some cell => w.destroyEntry index cell

variable (answers : Answers)

/-- The loop of `try_attach`, over the slots after the first. -/
def attachRest (output : OutputPtr) :
    List (Option HeadPtr) → World → List (Option HeadPtr) × List HeadPtr × World
  | [], w => ([], [], w)
  | none :: slots, w =>
      let (slots, failed, w) := attachRest output slots w
      (none :: slots, failed, w)
  | some head :: slots, w =>
      let (attached, w) := w.attachHead answers output head
      let (slots, failed, w) := attachRest output slots w
      if attached then (some head :: slots, failed, w) else (none :: slots, head :: failed, w)

/-- `try_attach`: the first slot came in with the output. -/
def tryAttach (w : World) (output : OutputPtr) (add : List (Option HeadPtr)) :
    List (Option HeadPtr) × List HeadPtr × World :=
  match add with
  | [] => ([], [], w)
  | first :: slots =>
      let (slots, failed, w) := attachRest answers output slots w
      (first :: slots, failed, w)

/-- `create_output_with_head`: the cell of the new entry. -/
def createOutputWithHead (w : World) (index : Nat) (name : String) (head : HeadPtr) :
    Option (CellId × OutputPtr) × World :=
  match w.createOutput answers head name with
  | (none, w) => (none, w)
  | (some output, w) =>
      let cell := w.nextCell
      let w := { w with
        cells := Function.update w.cells cell (some output)
        nextCell := cell + 1 }
      (some (cell, output),
        w.setLayoutput index fun lo => { lo with outputs := lo.outputs ++ [cell] })

/-- `configure` of a DRM output. -/
def configureDrm (w : World) (output : OutputPtr) (setup : DrmOutputSetup) : Bool × World :=
  let (api, w) := w.call answers
  if !api then (false, w)
  else
    let (mode, w) := w.call answers
    if !mode then (false, w)
    else
      let transform := setup.transform.getD (w.headTransform output)
      let w := w.setOutput output fun value =>
        { value with scale := setup.scale, transform, configured := some (.inr setup) }
      let (content, w) := w.call answers
      if !content then (false, w) else w.applyColor answers setup.color true

variable (policy : OutputPolicy)

/-- One try of the loop of `try_enable`. -/
def tryOnce (w : World) (output : OutputPtr) : Bool × World :=
  if w.isEnabled output then (true, w)
  else (w.lazyAlign output).enable answers (outputCreated answers policy) output

/-- The loop of `try_enable` after a try that failed; the list is that of the
staged heads from its end, and holes are skipped. -/
def undoHeads (output : OutputPtr) :
    List (Option HeadPtr) → List HeadPtr → World → Attempt × World
  | [], failed, w => (⟨false, [], failed⟩, w)
  | none :: slots, failed, w => undoHeads output slots failed w
  | some victim :: slots, failed, w =>
      let (up, w) := (w.detachHead victim).tryOnce answers policy output
      if up then (⟨true, slots.reverse, failed ++ [victim]⟩, w)
      else undoHeads output slots (failed ++ [victim]) w

/-- `try_enable`. -/
def tryEnable (w : World) (output : OutputPtr) (undo : List (Option HeadPtr))
    (failed : List HeadPtr) : Attempt × World :=
  let (up, w) := w.tryOnce answers policy output
  if up then (⟨true, undo, failed⟩, w)
  else undoHeads answers policy output undo.reverse failed w

def registerHeads (w : World) (add : List (Option HeadPtr)) : World :=
  add.foldl (fun w slot => match slot with | none => w | some head => w.registerHead head) w

/-- `try_attach_enable`. -/
def tryAttachEnable (w : World) (output : OutputPtr) (index : Nat) (setup : DrmOutputSetup) :
    Bool × World :=
  let (add, failed, w) := w.tryAttach answers output (w.stagedIn index)
  let (configured, w) := w.configureDrm answers output setup
  if !configured then (false, w)
  else
    let (attempt, w) := w.tryEnable answers policy output add failed
    if !attempt.up then (false, w)
    else (true, (w.registerHeads attempt.add).setAdd index (attempt.failed.map some))

/-- The loop of `process_one` over the outputs a group has; the result is its
answer where it returns. -/
def tryExisting (index : Nat) : List CellId → World → Option Bool × World
  | [], w => (none, w)
  | cell :: existing, w =>
      match w.cells cell with
      | none => tryExisting index existing (w.removeOutput index cell)
      | some output =>
          let (_, failed, w) := w.tryAttach answers output (w.stagedIn index)
          let w := w.setAdd index (failed.map some)
          if failed.isEmpty then (some true, w) else tryExisting index existing w

/-- The setup of a group: the plan of its controlling section, or every default. -/
def groupSetup (sectionHead : String) (currentMode : Bool) : DrmOutputSetup :=
  match policy.decideDrm sectionHead false currentMode with
  | .enable plan => plan.setup
  | _ => OutputPolicy.drmDefaults currentMode

/-- The loop of `process_one` that creates outputs while heads are left. A second
turn finds the output of the first. -/
def createRest (index : Nat) (group sectionHead : String) (currentMode : Bool) :
    Nat → Bool → World → Bool × World
  | 0, _, w => (false, w)
  | left + 1, reuseName, w =>
      match w.stagedIn index with
      | [] => (true, w)
      | first :: _ =>
          if !(w.outputsIn index).isEmpty then (false, w)
          else
            match first with
            | none => (false, w)
            | some head =>
                let name := if reuseName then group else group ++ ":" ++ w.headName head
                match w.createOutputWithHead answers index name head with
                | (none, w) => (false, w)
                | (some (cell, output), w) =>
                    let setup := groupSetup policy sectionHead currentMode
                    let (up, w) := w.tryAttachEnable answers policy output index setup
                    if !up then (false, w.destroyEntry index cell)
                    else createRest index group sectionHead currentMode left false w

/-- `process_one`. -/
def processOne (w : World) (index : Nat) (currentMode : Bool) : Bool × World :=
  match tryExisting answers index (w.outputsIn index) w with
  | (some done, w) => (done, w)
  | (none, w) =>
      let group := ((w.layoutputs[index]?).map Layoutput.name).getD ""
      let sectionHead := ((w.layoutputs[index]?).map Layoutput.sectionHead).getD ""
      let reuseName := (w.findOutputByName group).isNone
      createRest answers policy index group sectionHead currentMode 2 reuseName w

/-- The loop of `process_all` over the groups: how many failed. -/
def processGroups (currentMode : Bool) : List Nat → World → Nat × World
  | [], w => (0, w)
  | index :: rest, w =>
      if (w.stagedIn index).isEmpty then processGroups currentMode rest w
      else
        let (done, w) := w.processOne answers policy index currentMode
        let w := if done then w else w.setAdd index []
        let (failed, w) := processGroups currentMode rest w
        (if done then failed else failed + 1, w)

/-- `process_all`. -/
def processAll (w : World) (currentMode : Bool) (requireOutputs : RequireOutputs) :
    Bool × World :=
  let count := w.layoutputs.length
  let (failed, w) := processGroups answers policy currentMode (List.range count) w
  let verdict :=
    match requireOutputs with
    | .allFound => failed == 0
    | .any => failed != count
    | .none => true
  (verdict, w)

end World

end Westonite.Output
