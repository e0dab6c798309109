/-!
# Errors

What can go wrong when the page or a host calls the widget. Nothing inside a frame fails.
-/

namespace NodeLink

/-- What a host may be asked for. -/
inductive Capability where
  | sendCommand
  | openNode
deriving DecidableEq, Inhabited

def Capability.name : Capability → String
  | .sendCommand => "sendCommand"
  | .openNode => "openNode"

inductive GraphError where
  -- The text is not JSON.
  | notJson
  -- The value is no record of nodes and links.
  | notARecord
  -- The host does not offer what was asked for.
  | missing (capability : Capability)
deriving DecidableEq, Inhabited

def GraphError.message : GraphError → String
  | .notJson => "graph JSON could not be parsed"
  | .notARecord => "graph input is not a record"
  | .missing c => "host bridge lacks \x60" ++ c.name ++ "\x60"

end NodeLink
