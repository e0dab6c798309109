import NodeLink.Text.Quoted
/-!
# Commands

The navigation commands that the widget sends to its host, under the names the host knows.
-/

namespace NodeLink

inductive Command where
  -- Select a node and show it in the middle.
  | focus
  -- Leave the current node for the whole graph.
  | overview
  -- One step back in the host's history.
  | back
  -- One step forward in the host's history.
  | forward
  -- To the parent of the current node.
  | up
  -- Fit the graph into view.
  | fit
  -- Show or hide the children of a node.
  | toggleExpand
  -- Show the part of the graph below a node.
  | drillDown
  -- Pin or release a node.
  | pinToggle
deriving DecidableEq, Inhabited

namespace Command

def all : List Command :=
  [.focus, .overview, .back, .forward, .up, .fit, .toggleExpand, .drillDown, .pinToggle]

def name : Command → String
  | .focus => "focus"
  | .overview => "overview"
  | .back => "back"
  | .forward => "forward"
  | .up => "up"
  | .fit => "fit"
  | .toggleExpand => "toggleExpand"
  | .drillDown => "drillDown"
  | .pinToggle => "pinToggle"

def ofName? (s : String) : Option Command := all.find? fun c => c.name == s

def index? (c : Command) : Option Nat := all.idxOf? c

/-- What is said of a name that is no command's. -/
def unknownMessage (s : String) : String := "unknown command " ++ Text.quoted s

end Command
end NodeLink
