import NodeLink.Graph.Basic
import NodeLink.Text.LowerCase
/-!
# Search

Nodes whose label or path contains a text, whatever the case of its letters.
-/

namespace NodeLink.Graph

variable {α : Type}

def searchLimit : Nat := 80

/-- What is searched for: the query without outer blanks, in lower case. -/
def needle (query : String) : List Char := Text.lowerCase (Text.trimChars query.toList)

/-- What is searched: label and path with a space between them, in lower case. -/
def haystack (n : Node α) : List Char :=
  Text.lowerCase (n.label.toList ++ ' ' :: n.path.toList)

/-- The nodes that match a query, as increasing indices; a blank query matches none. -/
def search (g : Graph α) (query : String) : List Nat :=
  let needle := needle query
  if needle.isEmpty then []
  else
    let hits := g.nodes.toList.zipIdx.filter fun (n, _) => Text.occursIn needle (haystack n)
    (hits.map Prod.snd).take searchLimit

end NodeLink.Graph
