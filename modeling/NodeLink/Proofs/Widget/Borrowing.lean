import NodeLink.Page.Basic
import NodeLink.Proofs.Widget.Calls
/-!
# Borrowing

The widget shares its simulation, its bridge, its subscriptions and its channels with everything it
has given functions to. Each of them is borrowed while it is used, and borrowing what is in use
fails. A host must not be called meanwhile, since it may use any of them in answer.

This module says of every operation that calls hosts what it borrows and for how long. What the
operations do otherwise is what they do without borrowing.

* `Careful`: computations that may clash over what they borrow.
* `Careful.calling`: a host is called, with nothing in use.
* `Careful.acts`: what a host does during a call.
* `Careful.attach`, `openSelected`, `command`, `detail`, `frame`: the operations.
-/

namespace NodeLink

/-- What is borrowed while it is used. -/
inductive Shared where
  | simulation
  | bridge
  | subscriptions
  | channel (number : Nat)
deriving DecidableEq

inductive Clash where
  -- What is in use was borrowed again.
  | taken (c : Shared)
  -- News came while the simulation was in use, and were lost.
  | dropped (text : String)
  -- A host was called while something was in use.
  | intruded (c : HostCall)

/-- A widget with all that is in use, last borrowed first. -/
structure Desk (α : Type) where
  widget : Widget α
  inUse : List Shared

abbrev Careful (α : Type) := StateT (Desk α) (Except Clash)

namespace Careful

variable {α β : Type}

/-! ## Borrowing and calling -/

def borrow (c : Shared) : Careful α Unit := fun d =>
  if c ∈ d.inUse then .error (.taken c) else .ok ((), { d with inUse := c :: d.inUse })

def giveBack (c : Shared) : Careful α Unit := fun d => .ok ((), { d with inUse := d.inUse.erase c })

def hold (c : Shared) (m : Careful α β) : Careful α β := do
  borrow c
  let x ← m
  giveBack c
  return x

def edit (f : Widget α → Widget α × β) : Careful α β := fun d =>
  .ok ((f d.widget).2, { d with widget := (f d.widget).1 })

def withSimulation (f : Simulation α → Simulation α × β) : Careful α β :=
  hold .simulation (edit fun w => ({ w with simulation := (f w.simulation).1 }, (f w.simulation).2))

/-- News are lost while the simulation is in use. -/
def news (text : String) (m : Careful α β) : Careful α β := fun d =>
  if .simulation ∈ d.inUse then .error (.dropped text) else m d

/-- A host is called, and `m` is what it does. -/
def calling (c : HostCall) (m : Careful α β) : Careful α β := fun d =>
  if d.inUse.isEmpty then m d else .error (.intruded c)

variable [Scalar α]

/-! ## Graph, selection and news -/

def setText (text : String) : Careful α (Except GraphError Unit) :=
  news text (withSimulation (Widget.loadOrToast text))

def focus (id : String) : Careful α Bool := withSimulation fun s => s.focus id

def deliver (text : String) : Listener → Careful α Unit
  | .loadGraph => do
    let _ ← setText text
  | .focusNode => do
    let _ ← news text (focus text)

/-- Whoever is subscribed is told when the channel has been given back. -/
def publish (channel : Nat) (text : String) : Careful α Unit := do
  let audience ← hold (.channel channel) (edit fun w => (w, w.audience channel))
  audience.forM (deliver text)

def subscribe (channel : Nat) (l : Listener) : Careful α (Option (Nat × Nat)) :=
  hold (.channel channel) (edit fun w => w.subscribe channel l)

def cancel (subscription : Nat × Nat) : Careful α Unit :=
  hold (.channel subscription.1) (edit fun w => (w.cancel subscription, ()))

def presentBridge : Careful α (Option Bridge) := hold .bridge (edit fun w => (w, w.bridge))

/-! ## Calls of hosts -/

mutual

def act (b : Bridge) (c : HostCall) (handler : Option Handler) : HostAct → Careful α Unit
  | .log => edit fun w => (w.note c, ())
  | .keepHandler => edit fun w => ({ w with handlers := w.handlers ++ handler.toList }, ())
  | .publishGraph text => publish b.graphChannel text
  | .publishSelection id => publish b.selectionChannel id
  | .setText text => do
    let _ ← setText text
  | .focus id => do
    let _ ← focus id
  | .fit => withSimulation fun s => (s.fit, ())
  | .search query => do
    let _ ← hold .simulation (edit fun w => (w, w.search query))
  | .detail id meanwhile =>
    presentBridge >>= fun present =>
    (if (present.bind Bridge.nodeDetail).isSome then
      calling ("nodeDetail", [some id]) (acts b ("nodeDetail", [some id]) none meanwhile)
    else pure ()) >>= fun () =>
    withSimulation fun s => (s, ())

def acts (b : Bridge) (c : HostCall) (handler : Option Handler) : List HostAct → Careful α Unit
  | [] => pure ()
  | a :: rest => act b c handler a >>= fun () => acts b c handler rest

end

def call (b : Bridge) (r : Routine) (arguments : List String) : Careful α Unit :=
  calling (r.name, arguments.map some) (acts b (r.name, arguments.map some) none r.acts)

/-! ## Operations -/

def initialGraph (b : Bridge) : Careful α (Option String) :=
  match b.graphText with
  | none => pure none
  | some r => do
    call b r []
    return r.reply.filter fun text => !text.isEmpty

def loadInitial (b : Bridge) : Careful α Unit := do
  match ← initialGraph b with
  | some text =>
    let _ ← setText text
  | none =>
    match b.requestGraph with
    | some r => call b r []
    | none => pure ()

/-- The old subscriptions are cancelled while the new ones are put in their place. -/
def replaceSubscriptions (new : List (Nat × Nat)) : Careful α Unit :=
  hold .subscriptions do
    let old ← edit fun w => ({ w with subscriptions := new }, w.subscriptions)
    old.forM cancel

def attach (b : Bridge) : Careful α Unit := do
  let onGraph ← subscribe b.graphChannel .loadGraph
  let onSelection ← subscribe b.selectionChannel .focusNode
  replaceSubscriptions (onGraph.toList ++ onSelection.toList)
  hold .bridge (edit fun w => ({ w with bridge := some b }, ()))
  loadInitial b
  withSimulation fun s => (s.toast "Bridge connected", ())

def send (b : Bridge) (c : Command) (argument : String) : Careful α (Except GraphError Unit) :=
  match b.sendCommand with
  | some run => do
    call b (run c argument) [c.name, argument]
    return .ok ()
  | none => pure (.error (.missing .sendCommand))

def openOver (b : Bridge) (n : Node α) : Careful α (Except GraphError Unit) :=
  match b.opening n with
  | .ok (argument, r) => do
    call b r [argument]
    return .ok ()
  | .error e => pure (.error e)

def openSelected : Careful α Unit := do
  match ← withSimulation fun s => (s, s.selected.bind s.graph.node?) with
  | none => pure ()
  | some n =>
    let present ← presentBridge
    let result ← match present with
      | some b => openOver b n
      | none => pure (.error (.missing .openNode))
    match result with
    | .ok () => pure ()
    | .error _ => withSimulation fun s => (s.toast "No bridge: open disabled", ())

def command (c : Command) (argument : String) : Careful α Unit := do
  let present ← presentBridge
  let result ← match present with
    | some b => send b c argument
    | none => pure (.error (.missing .sendCommand))
  match result with
  | .ok () => pure ()
  | .error _ => withSimulation fun s => (Widget.commandLocally c argument s, ())

def nodeDetail (b : Bridge) (id : String) : Careful α (Option Json) :=
  match b.nodeDetail with
  | none => pure none
  | some run => do
    call b (run id) [id]
    return ((run id).reply.filter fun text => !text.isEmpty).bind Json.parse?

def detail (id : String) : Careful α (Option Panel) := do
  let present ← presentBridge
  let extra ← match present with
    | some b => nodeDetail b id
    | none => pure none
  withSimulation fun s => (s, (s.graph.indexOf? id).bind fun i => Panel.of? s.graph i extra)

/-! ## Frames -/

def showPanel (ui : Ui) (id : String) : Careful α Ui := do
  let panel ← detail id
  return { ui with panel := panel }

def takeIn (now : Nat) (ui : Ui) : Event → Careful α Ui
  | .loaded _ _ => pure { ui with results := [] }
  | .selected id => showPanel ui id
  | .deselected => pure { ui with panel := none }
  | .pinChanged id _ => if ui.shows id then showPanel ui id else pure ui
  | .runningChanged running => pure { ui with running := running }
  | .toast message => pure (ui.showToast now message)

def takeInAll (now : Nat) (ui : Ui) : List Event → Careful α Ui
  | [] => pure ui
  | e :: rest => takeIn now ui e >>= fun ui => takeInAll now ui rest

/-- The simulation is given back before its events are taken in; what is shown then, and drawn. -/
def frame (now : Nat) (theme : Theme α) (ui : Ui) : Careful α (Ui × List (Call α)) := do
  let (paint, events) ← withSimulation fun s =>
    (s.tick.drain.1, (Frame.draw s.tick theme, s.tick.drain.2))
  let ui ← takeInAll now ui events
  return (ui, paint)

end Careful
end NodeLink
