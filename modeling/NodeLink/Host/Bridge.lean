import NodeLink.Command
import NodeLink.Error
import NodeLink.Graph.Node
import NodeLink.Host.Value
/-!
# Bridges

What a host offers to the widget. Each operation may be there or not; a host's news come over two
channels, one for graphs and one for selections. A bridge is built from a host value by taking
whatever operations its members offer.
-/

namespace NodeLink

/-- One call of a host: what it does and the text it replies with, if any. A host that throws
replies with nothing. -/
structure Routine where
  -- The name the host knows the call by.
  name : String
  acts : List HostAct
  reply : Option String
deriving Inhabited

structure Bridge where
  -- Bridges are numbered in the order they appear.
  number : Nat
  -- The present graph as JSON text.
  graphText : Option Routine := none
  -- Asks the host to publish its graph.
  requestGraph : Option Routine := none
  -- Takes a command and its argument.
  sendCommand : Option (Command → String → Routine) := none
  -- Opens the node of an id.
  openNode : Option (String → Routine) := none
  -- Opens a node by its path.
  openPath : Option (String → Routine) := none
  -- More about the node of an id, as JSON text.
  nodeDetail : Option (String → Routine) := none
  -- The channel of graphs, as JSON text.
  graphChannel : Nat
  -- The channel of selections, as ids.
  selectionChannel : Nat
deriving Inhabited

/-- A function of the widget that a host keeps: what it is given goes to a channel. -/
structure Handler where
  bridge : Nat
  signal : String
  channel : Nat
deriving DecidableEq, Inhabited

namespace Bridge

def canOpen (b : Bridge) : Bool := b.openNode.isSome || b.openPath.isSome

/-- The call that opens a node, with its argument: by id, or by path if that is all the host
offers. -/
def opening {α : Type} (b : Bridge) (n : Node α) : Except GraphError (String × Routine) :=
  match b.openNode, b.openPath with
  | some run, _ => .ok (n.id, run n.id)
  | none, some run =>
    if n.path.isEmpty then .error (.missing .openNode) else .ok (n.path, run n.path)
  | none, none => .error (.missing .openNode)

/-! ## From a host value -/

def graphSignals : List String :=
  ["graphJson", "graphJsonChanged", "graphReady", "graphUpdated", "graphChanged"]

def selectionSignal : String := "selectedNodeChanged"

/-- The routine of calling a function, whatever it is given. -/
def routineOf (name : String) (f : HostValue.Callable) : Routine :=
  ⟨name, f.acts, f.result.bind HostValue.toText?⟩

def connector? (host : HostValue) (signal : String) : Option HostValue.Callable :=
  (host.get? signal).bind fun s => s.function? "connect"

/-- The signals of a host among the given ones, each with the function that connects it. -/
def connectors (host : HostValue) (signals : List String) : List (String × HostValue.Callable) :=
  signals.filterMap fun s => (connector? host s).map fun f => (s, f)

/-- The operations of a host value, under the names hosts use; `number` and the two channels are
those of the new bridge. -/
def ofHost (host : HostValue) (number graphChannel selectionChannel : Nat) : Bridge :=
  let routine (name : String) : Option Routine := (host.function? name).map (routineOf name)
  { number := number
    graphText := routine "getGraphJson"
    requestGraph := routine "requestGraph"
    sendCommand := (routine "sendCommand").map fun r _ _ => r
    openNode := (routine "openNode").map fun r _ => r
    openPath := (routine "openPath").map fun r _ => r
    nodeDetail := (routine "requestNodeDetailJson").map fun r _ => r
    graphChannel := graphChannel
    selectionChannel := selectionChannel }

def yesNo (b : Bool) : String := if b then "true" else "false"

def report (b : Bridge) (graphSignalCount : Nat) (hasSelectionSignal : Bool) : String :=
  "spider-graph: bridge attached (graph query: " ++ yesNo b.graphText.isSome ++
    ", commands: " ++ yesNo b.sendCommand.isSome ++ ", open: " ++ yesNo b.canOpen ++
    ", detail: " ++ yesNo b.nodeDetail.isSome ++ ", graph signals: " ++
    Decimal.natText graphSignalCount ++ ", selection signal: " ++ yesNo hasSelectionSignal ++ ")"

end Bridge
end NodeLink
