import Mathlib.Logic.Function.Basic
import Westonite.Library.Run

/-! The listeners of the wrapper on the signals of C: one trampoline for all of them,
entered from emissions that nest in any way. -/

set_option autoImplicit false

namespace Westonite.Listeners

variable {Links Signal Listener : Type} [DecidableEq Signal] [DecidableEq Listener]

/-! ### The lists -/

/-- libwayland's lists, over the state `Links` of their pointers. An emission goes
through a list by `first` and `next`, which are `none` at the head. -/
structure WlLists (Links Signal Listener : Type) where
  /-- Every head and every node initialized, nothing added. -/
  new : Links
  signalAdd : Links → Signal → Listener → Links
  listRemove : Links → Listener → Links
  listInit : Links → Listener → Links
  first : Links → Signal → Option Listener
  next : Links → Signal → Listener → Option Listener
  /-- The listeners on the list of a signal, in order. -/
  nodes : Links → Signal → List Listener

/-- No list holds the node. -/
def WlLists.Unlinked (wl : WlLists Links Signal Listener) (links : Links) (l : Listener) : Prop :=
  ∀ s, l ∉ wl.nodes links s

/-- What the documentation of the lists says, while `Valid` holds of the pointers. -/
structure WlLists.Documented (wl : WlLists Links Signal Listener) (Valid : Links → Prop) :
    Prop where
  newValid : Valid wl.new
  new : ∀ s, wl.nodes wl.new s = []
  addValid : ∀ links s l, Valid links → wl.Unlinked links l → Valid (wl.signalAdd links s l)
  add : ∀ links s l t, Valid links → wl.Unlinked links l →
    wl.nodes (wl.signalAdd links s l) t =
      if t = s then wl.nodes links s ++ [l] else wl.nodes links t
  removeValid : ∀ links s l, Valid links → l ∈ wl.nodes links s → Valid (wl.listRemove links l)
  remove : ∀ links s l t, Valid links → l ∈ wl.nodes links s →
    wl.nodes (wl.listRemove links l) t = (wl.nodes links t).erase l
  initValid : ∀ links l, Valid links → wl.Unlinked links l → Valid (wl.listInit links l)
  init : ∀ links l t, Valid links → wl.Unlinked links l →
    wl.nodes (wl.listInit links l) t = wl.nodes links t
  nodup : ∀ links s, Valid links → (wl.nodes links s).Nodup
  apart : ∀ links s t l, Valid links → l ∈ wl.nodes links s → l ∈ wl.nodes links t → s = t
  first : ∀ links s, Valid links → wl.first links s = (wl.nodes links s).head?
  next : ∀ links s l before after, Valid links →
    wl.nodes links s = before ++ l :: after → wl.next links s l = after.head?

/-! ### The state -/

/-- What is running, the innermost first: a loop over a list with the node it calls
next, which it read before it called the last one, or a handler. -/
inductive Frame (Signal Listener : Type) where
  | emission (signal : Signal) (pos : Option Listener)
  | handler (listener : Listener)
  deriving DecidableEq

/-- `notified` and `fired` are not in the code: they count from the last attachment. -/
structure State (Links Signal Listener : Type) where
  links : Links
  attached : Listener → Bool
  dropped : Listener → Bool
  dead : Signal → Bool
  /-- `Ctx::current` finds one. -/
  context : Bool
  stack : List (Frame Signal Listener)
  notified : Listener → Bool
  fired : Listener → Nat

namespace State

def new (wl : WlLists Links Signal Listener) (context : Bool) : State Links Signal Listener where
  links := wl.new
  attached _ := false
  dropped _ := false
  dead _ := false
  context := context
  stack := []
  notified _ := false
  fired _ := 0

/-- `attached.set`, with a fresh count. -/
def markAttached (st : State Links Signal Listener) (l : Listener) :
    State Links Signal Listener :=
  { st with
    attached := Function.update st.attached l true
    notified := Function.update st.notified l false
    fired := Function.update st.fired l 0 }

/-- `handler.try_borrow_mut` fails. -/
def busy (st : State Links Signal Listener) (l : Listener) : Bool :=
  decide (.handler l ∈ st.stack)

variable (wl : WlLists Links Signal Listener) (oneshot : Listener → Bool)

def signalAdd (st : State Links Signal Listener) (s : Signal) (l : Listener) :
    State Links Signal Listener :=
  { st with links := wl.signalAdd st.links s l }

def attach (st : State Links Signal Listener) (s : Signal) (l : Listener) :
    State Links Signal Listener :=
  (st.signalAdd wl s l).markAttached l

/-- `wl_list_remove`, `wl_list_init` and `attached.set(false)`. -/
def unlink (st : State Links Signal Listener) (l : Listener) : State Links Signal Listener :=
  { st with
    links := wl.listInit (wl.listRemove st.links l) l
    attached := Function.update st.attached l false }

def detach (st : State Links Signal Listener) (l : Listener) : State Links Signal Listener :=
  if st.attached l then st.unlink wl l else st

def drop (st : State Links Signal Listener) (l : Listener) : State Links Signal Listener :=
  { st.detach wl l with dropped := Function.update st.dropped l true }

/-- The handler is entered unless there is no context or it runs already. -/
def callHandler (st : State Links Signal Listener) (l : Listener) :
    State Links Signal Listener :=
  if !st.context || st.busy l then st
  else
    { st with
      stack := .handler l :: st.stack
      fired := Function.update st.fired l (st.fired l + 1) }

def selfDetach (st : State Links Signal Listener) (l : Listener) :
    State Links Signal Listener :=
  if oneshot l && st.attached l then st.unlink wl l else st

/-- The trampoline, up to where the handler starts. -/
def trampoline (st : State Links Signal Listener) (l : Listener) :
    State Links Signal Listener :=
  ({ st.selfDetach wl oneshot l with notified := Function.update st.notified l true }).callHandler l

end State

/-! ### Steps -/

inductive Action (Signal Listener : Type) where
  | attach (listener : Listener) (signal : Signal)
  /-- C adds the node to the signal, `mark_attached` follows. -/
  | attachByC (listener : Listener) (signal : Signal)
  | detach (listener : Listener)
  | drop (listener : Listener)
  | emit (signal : Signal)
  /-- The innermost emission goes on to its next node, or ends. -/
  | turn
  /-- The innermost handler returns. -/
  | handlerReturn
  | die (signal : Signal)
  | setContext (context : Bool)

variable (wl : WlLists Links Signal Listener) (oneshot : Listener → Bool)

namespace State

/-- The loop of `wl_signal_emit`: the successor of a node is read before the node is
called. -/
def turn (st : State Links Signal Listener) : Option (State Links Signal Listener) :=
  match st.stack with
  | .emission _ none :: rest => some { st with stack := rest }
  | .emission s (some l) :: rest =>
      some (({ st with
        stack := .emission s (wl.next st.links s l) :: rest }).trampoline wl oneshot l)
  | _ => none

def handlerReturn (st : State Links Signal Listener) : Option (State Links Signal Listener) :=
  match st.stack with
  | .handler _ :: rest => some { st with stack := rest }
  | _ => none

def step (st : State Links Signal Listener) :
    Action Signal Listener → Option (State Links Signal Listener)
  | .attach l s => some (st.attach wl s l)
  | .attachByC l s => some ((st.signalAdd wl s l).markAttached l)
  | .detach l => some (st.detach wl l)
  | .drop l => some (st.drop wl l)
  | .emit s => some { st with stack := .emission s (wl.first st.links s) :: st.stack }
  | .turn => st.turn wl oneshot
  | .handlerReturn => st.handlerReturn
  | .die s => some { st with dead := Function.update st.dead s true }
  | .setContext context => some { st with context := context }

/-! ### Provisos -/

/-- No emission that is under way calls this listener next. -/
def Awaited (st : State Links Signal Listener) (l : Listener) : Prop :=
  ∃ s, .emission s (some l) ∈ st.stack

/-- What the callers of the wrapper promise: a listener is attached when it is not, and
to a signal that lives; it is not dropped while its handler runs; a signal outlives the
listeners on it, or has called them and they are one-shot. -/
def Orderly (st : State Links Signal Listener) : Action Signal Listener → Prop
  | .attach l s | .attachByC l s =>
      st.attached l = false ∧ st.dropped l = false ∧ st.dead s = false
  | .detach l => st.dropped l = false
  | .drop l => st.dropped l = false ∧ .handler l ∉ st.stack
  | .emit s => st.dead s = false
  | .die s =>
      (∀ pos, .emission s pos ∉ st.stack) ∧
        ∀ l ∈ wl.nodes st.links s, oneshot l = true ∧ st.notified l = true
  | .turn | .handlerReturn | .setContext _ => True

/-- No handler takes another listener off a signal that is being emitted. -/
def Courteous (st : State Links Signal Listener) : Action Signal Listener → Prop
  | .detach l | .drop l =>
      ∀ s pos, .emission s pos ∈ st.stack → l ∈ wl.nodes st.links s →
        ∃ rest, st.stack = .handler l :: rest
  | _ => True

/-- What is unlinked is not what an emission under way calls next. -/
def Spares (st : State Links Signal Listener) : Action Signal Listener → Prop
  | .detach l | .drop l => st.attached l = true → ¬ st.Awaited l
  | .turn =>
      ∀ s l rest, st.stack = .emission s (some l) :: rest →
        oneshot l = true → st.attached l = true → ∀ t, .emission t (some l) ∉ rest
  | _ => True

end State

/-- A step that keeps to the provisos. -/
structure Step (st : State Links Signal Listener) (action : Action Signal Listener)
    (next : State Links Signal Listener) : Prop where
  taken : st.step wl oneshot action = some next
  orderly : st.Orderly wl oneshot action
  spares : st.Spares oneshot action

end Westonite.Listeners
