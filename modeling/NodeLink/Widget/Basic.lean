import NodeLink.Channel.Basic
import NodeLink.Host.Bridge
import NodeLink.Panel
import NodeLink.Simulation.Basic
/-!
# Widget

The simulation with the host it is connected to. While the simulation is at work it is lent out;
news of a host that come just then are dropped. Hosts are called only while it is at home, so what
a host does in answer to a call happens at once, as if it had been done there and then.

* `Widget.publish` delivers news to whoever has subscribed.
* `Widget.call` calls a host and carries out what it does meanwhile.
-/

namespace NodeLink

inductive Listener where
  -- Loads the graph of a text.
  | loadGraph
  -- Selects the node of an id and moves the view to it.
  | focusNode
deriving DecidableEq, Inhabited

/-- One call in a host's log: its name, and its arguments as far as they are texts. -/
abbrev HostCall := String × List (Option String)

structure Widget (α : Type) where
  simulation : Simulation α
  -- Whether the simulation is lent out.
  busy : Bool
  settings : Settings α
  bridge : Option Bridge
  -- The widget's own subscriptions, each a channel and a key.
  subscriptions : List (Nat × Nat)
  -- All channels of hosts, by number.
  channels : List (Channel Listener)
  -- Functions of the widget that hosts have kept, oldest first.
  handlers : List Handler
  -- Calls that hosts have noted, oldest first.
  hostLog : List HostCall

namespace Widget

variable {α : Type} [Scalar α]

/-- The size of the canvas until it is measured. -/
def initialSize : Point α := ⟨800, 600⟩

/-- An empty graph, with repaired settings. -/
def new (settings : Settings α) : Widget α :=
  let settings := settings.sanitized
  { simulation := Simulation.new settings (initialSize (α := α)).x (initialSize (α := α)).y 1
    busy := false
    settings := settings
    bridge := none
    subscriptions := []
    channels := []
    handlers := []
    hostLog := [] }

def update (w : Widget α) (f : Simulation α → Simulation α) : Widget α :=
  { w with simulation := f w.simulation }

/-! ## Graph and selection -/

def setData (w : Widget α) (raw : Json) : Widget α := w.update fun s => s.load raw

/-- Loads the graph of a text. One that cannot be loaded is answered by a message to the user; one
that comes while the simulation is lent out is dropped. -/
def setText (w : Widget α) (text : String) : Widget α × Except GraphError Unit :=
  if w.busy then (w, .ok ())
  else
    match w.simulation.loadText text with
    | .ok s => ({ w with simulation := s }, .ok ())
    | .error e => (w.update fun s => s.toast "Invalid graph JSON", .error e)

def focus (w : Widget α) (id : String) : Widget α × Bool :=
  let (s, found) := w.simulation.focus id
  ({ w with simulation := s }, found)

def fit (w : Widget α) : Widget α := w.update Simulation.fit

/-! ## News -/

def openChannel (w : Widget α) : Widget α × Nat :=
  ({ w with channels := w.channels ++ [{}] }, w.channels.length)

def subscribe (w : Widget α) (channel : Nat) (l : Listener) : Widget α × Option (Nat × Nat) :=
  match w.channels[channel]? with
  | none => (w, none)
  | some c =>
    let (c, key) := c.subscribe l
    ({ w with channels := w.channels.set channel c }, some (channel, key))

def cancel (w : Widget α) (subscription : Nat × Nat) : Widget α :=
  { w with channels := w.channels.modify subscription.1 fun c => c.cancel subscription.2 }

def deliver (text : String) (w : Widget α) : Listener → Widget α
  | .loadGraph => (w.setText text).1
  | .focusNode => if w.busy then w else (w.focus text).1

def audience (w : Widget α) (channel : Nat) : List Listener :=
  ((w.channels[channel]?).map Channel.audience).getD []

/-- Publishes on a channel: all who are subscribed now are told, in order. -/
def publish (w : Widget α) (channel : Nat) (text : String) : Widget α :=
  (w.audience channel).foldl (deliver text) w

/-- Publishes while the simulation is lent out. -/
def publishMidFrame (w : Widget α) (channel : Nat) (text : String) : Widget α :=
  { ({ w with busy := true }.publish channel text) with busy := w.busy }

def subscriberCount (w : Widget α) (channel : Nat) : Nat :=
  ((w.channels[channel]?).map Channel.count).getD 0

/-! ## Calling hosts -/

def note (w : Widget α) (c : HostCall) : Widget α := { w with hostLog := w.hostLog ++ [c] }

/-- Whether the present host is asked when details are wanted. -/
def offersDetail (w : Widget α) : Bool := (w.bridge.bind Bridge.nodeDetail).isSome

mutual

/-- What a host does during a call: `b` is its bridge, `c` the call, and `handler` the function it
was given, if it was given one. -/
def act (b : Bridge) (c : HostCall) (handler : Option Handler) (w : Widget α) :
    HostAct → Widget α
  | .log => w.note c
  | .keepHandler => { w with handlers := w.handlers ++ handler.toList }
  | .publishGraph text => w.publish b.graphChannel text
  | .publishSelection id => w.publish b.selectionChannel id
  | .setText text => (w.setText text).1
  | .focus id => (w.focus id).1
  | .fit => w.fit
  | .search _ => w
  | .detail id meanwhile =>
    if w.offersDetail then acts b ("nodeDetail", [some id]) none w meanwhile else w

def acts (b : Bridge) (c : HostCall) (handler : Option Handler) (w : Widget α) :
    List HostAct → Widget α
  | [] => w
  | a :: rest => acts b c handler (act b c handler w a) rest

end

def call (w : Widget α) (b : Bridge) (r : Routine) (arguments : List String) : Widget α :=
  acts b (r.name, arguments.map some) none w r.acts

/-! ## Attaching a host -/

/-- The graph the host has now, if it offers one that is not empty. -/
def initialGraph (w : Widget α) (b : Bridge) : Widget α × Option String :=
  match b.graphText with
  | none => (w, none)
  | some r => (w.call b r [], r.reply.filter fun text => !text.isEmpty)

/-- Loads the graph of a host, or asks the host to publish it. -/
def loadInitial (w : Widget α) (b : Bridge) : Widget α :=
  match w.initialGraph b with
  | (w, some text) => (w.setText text).1
  | (w, none) =>
    match b.requestGraph with
    | some r => w.call b r []
    | none => w

/-- Connects a host in place of the one before: the widget subscribes to its news and to no other
host's, and gets its graph. -/
def attach (w : Widget α) (b : Bridge) : Widget α :=
  let old := w.subscriptions
  let (w, onGraph) := w.subscribe b.graphChannel .loadGraph
  let (w, onSelection) := w.subscribe b.selectionChannel .focusNode
  let w := { w with subscriptions := onGraph.toList ++ onSelection.toList }
  let w := old.foldl cancel w
  let w := { w with bridge := some b }
  (w.loadInitial b).update fun s => s.toast "Bridge connected"

/-- Connects the signals of a host to a channel, by calling the function that each has for it; the
number of those that did not throw. -/
def connect (w : Widget α) (b : Bridge) (channel : Nat) :
    List (String × HostValue.Callable) → Widget α × Nat
  | [] => (w, 0)
  | (signal, f) :: rest =>
    let w := acts b ("connect", [none]) (some ⟨b.number, signal, channel⟩) w f.acts
    let (w, n) := w.connect b channel rest
    (w, if f.result.isSome then n + 1 else n)

/-- Makes a bridge of a host value and connects its signals; also the line that reports it. -/
def bridgeOfHost (w : Widget α) (number : Nat) (host : HostValue) : Widget α × Bridge × String :=
  let (w, graphChannel) := w.openChannel
  let (w, selectionChannel) := w.openChannel
  let b := Bridge.ofHost host number graphChannel selectionChannel
  let (w, graphs) := w.connect b graphChannel (Bridge.connectors host Bridge.graphSignals)
  let (w, selections) :=
    w.connect b selectionChannel (Bridge.connectors host [Bridge.selectionSignal])
  (w, b, b.report graphs (selections != 0))

def attachHost (w : Widget α) (number : Nat) (host : HostValue) : Widget α × Bridge × String :=
  let (w, b, report) := w.bridgeOfHost number host
  (w.attach b, b, report)

/-- Hosts call the functions they have kept, with a value; those that `which` selects. The number
of calls. -/
def emit (w : Widget α) (which : Handler → Bool) (payload : HostValue) : Widget α × Nat :=
  let hs := w.handlers.filter which
  let w := match payload.toText? with
    | some text => hs.foldl (fun w h => w.publish h.channel text) w
    | none => w
  (w, hs.length)

/-! ## Asking the host -/

def send (w : Widget α) (b : Bridge) (c : Command) (argument : String) :
    Widget α × Except GraphError Unit :=
  match b.sendCommand with
  | some run => (w.call b (run c argument) [c.name, argument], .ok ())
  | none => (w, .error (.missing .sendCommand))

def openOver (w : Widget α) (b : Bridge) (n : Node α) : Widget α × Except GraphError Unit :=
  match b.opening n with
  | .ok (argument, r) => (w.call b r [argument], .ok ())
  | .error e => (w, .error e)

/-- Opens the selected node in the host, or says that it cannot be opened. -/
def openSelected (w : Widget α) : Widget α :=
  match w.simulation.selected.bind w.simulation.graph.node? with
  | none => w
  | some n =>
    let (w, result) := match w.bridge with
      | some b => w.openOver b n
      | none => (w, .error (.missing .openNode))
    match result with
    | .ok () => w
    | .error _ => w.update fun s => s.toast "No bridge: open disabled"

/-- What the widget does itself with a command that no host takes. -/
def commandLocally (c : Command) (argument : String) (s : Simulation α) : Simulation α :=
  match c with
  | .focus => (s.focus argument).1
  | .fit => s.fit
  | .overview => s.deselect.fit
  | .pinToggle => (s.togglePin argument).1
  | c => s.toast ("No bridge: " ++ c.name ++ " disabled")

/-- Sends a command to the host, or carries it out here as far as that is possible. -/
def command (w : Widget α) (c : Command) (argument : String) : Widget α :=
  let (w, result) := match w.bridge with
    | some b => w.send b c argument
    | none => (w, .error (.missing .sendCommand))
  match result with
  | .ok () => w
  | .error _ => w.update (commandLocally c argument)

/-- What a bridge says about a node; nothing if it says nothing or no JSON. -/
def nodeDetail (w : Widget α) (b : Bridge) (id : String) : Widget α × Option Json :=
  match b.nodeDetail with
  | none => (w, none)
  | some run =>
    let r := run id
    (w.call b r [id], (r.reply.filter fun text => !text.isEmpty).bind Json.parse?)

/-- The panel of a node, with what the host says about it. -/
def detail (w : Widget α) (id : String) : Widget α × Option Panel :=
  let (w, extra) := match w.bridge with
    | some b => w.nodeDetail b id
    | none => (w, none)
  let g := w.simulation.graph
  (w, (g.indexOf? id).bind fun i => Panel.of? g i extra)

end Widget
end NodeLink
