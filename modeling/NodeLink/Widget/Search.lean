import NodeLink.Widget.Basic
import NodeLink.Graph.Search
/-!
# Search results

The rows that a search shows.
-/

namespace NodeLink

/-- One row of the results: a node with what is shown below its label. -/
structure SearchHit where
  id : String
  label : String
  -- The path, or the group of a node without one.
  subtitle : String
deriving DecidableEq, Inhabited

def SearchHit.of {α : Type} (n : Node α) : SearchHit :=
  ⟨n.id, n.label, if n.path.isEmpty then n.group else n.path⟩

def Widget.search {α : Type} (w : Widget α) (query : String) : List SearchHit :=
  let g := w.simulation.graph
  ((g.search query).filterMap fun i => g.nodes[i]?).map SearchHit.of

end NodeLink
