import NodeLink.Graph.Node
import NodeLink.Graph.Scatter
import NodeLink.Json.Printer
/-!
# The content of a graph

Graphs come as loosely shaped records. This module makes nodes and links of them: each field has a
chain of keys that may hold it, ids and ends of links are coerced to text alike, repeated ids are
dropped, and ends that no node declares get a node of their own. Nothing is ever an error; what
cannot be used is skipped.
-/

namespace NodeLink

/-- Nodes with distinct ids and links between them. -/
structure Content (α : Type) where
  nodes : List (Node α)
  links : List (Link α)
deriving Inhabited

namespace Content

variable {α : Type} [Scalar α]

/-! ## Fields -/

/-- The text of a string, a number or a truth value. -/
def scalarText? : Json → Option String
  | .string s => some s
  | .number n => some n.text
  | .bool b => some (if b then "true" else "false")
  | _ => none

/-- The text under the first key that holds something other than null. -/
def textField? (record : Json.Members) (keys : List String) : Option String :=
  (record.first? keys).bind scalarText?

def finiteNumber? (v : Option Json) : Option α :=
  ((v.bind Json.number?).map Json.Number.toScalar).filter Scalar.isFinite

/-! ## Nodes -/

def idKeys : List String := ["id", "key"]

def labelKeys : List String := ["label", "name", "title", "path", "id"]

/-- The place a record gives, if both coordinates are finite numbers. -/
def place? (record : Json.Members) : Option (Point α) :=
  match finiteNumber? (record.get? "x"), finiteNumber? (record.get? "y") with
  | some x, some y => some ⟨x, y⟩
  | _, _ => none

/-- The node of an entry that stands at `index` of the list, put at a place. -/
def nodeAt (index : Nat) (entry : Json) (place : Point α) : Node α :=
  let record := entry.members?.getD []
  { id := (textField? record idKeys).getD (Decimal.natText index)
    label := (textField? record labelKeys).getD (Decimal.natText index)
    path := (textField? record ["path", "file"]).getD ""
    group := (textField? record ["group", "type"]).getD ""
    details := (record.first? ["meta"]).getD entry
    position := place
    velocity := Point.origin
    fixed := none
    pinned := false
    radius := ((finiteNumber? (record.get? "r")).filter fun (r : α) => decide (0 < r)).getD
      Node.defaultRadius
    color := (record.get? "color").bind Json.string? }

/-- The node of an entry: at the place it gives, else at the next scattered one. -/
def readNode (index : Nat) (entry : Json) (s : Scatter) : Node α × Scatter :=
  match place? (entry.members?.getD []) with
  | some p => (nodeAt index entry p, s)
  | none =>
    let (p, s) : Point α × Scatter := s.next
    (nodeAt index entry p, s)

def readNodes (index : Nat) (s : Scatter) : List Json → List (Node α) × Scatter
  | [] => ([], s)
  | entry :: rest =>
    let (n, s) := readNode index entry s
    let (ns, s) := readNodes (index + 1) s rest
    (n :: ns, s)

/-- Keeps the first node of each id that is not among `seen`. -/
def distinctNodes (seen : List String) : List (Node α) → List (Node α)
  | [] => []
  | n :: rest =>
    if n.id ∈ seen then distinctNodes seen rest
    else n :: distinctNodes (n.id :: seen) rest

/-! ## Links -/

def endKeys : List String := ["id", "key", "name", "path"]

/-- The id that one end of a link names; a record stands for the node it describes. -/
def endText : Option Json → String
  | none => ""
  | some .null => ""
  | some (.object record) => (textField? record endKeys).getD ""
  | some v => (scalarText? v).getD v.compact

/-- The link of an entry; none if it is no record or an end is empty. -/
def readLink? (entry : Json) : Option (Link α) := do
  let record ← entry.members?
  let source := endText (record.first? ["source", "from"])
  let target := endText (record.first? ["target", "to"])
  if source.isEmpty || target.isEmpty then none
  else
    let weight : Option α :=
      (finiteNumber? (record.first? ["w", "weight"])).filter fun w => decide (0 < w)
    some ⟨source, target, weight.getD 1⟩

/-! ## Ends without a node -/

/-- The ids that are mentioned but not among `seen`, each once, in the order of first mention. -/
def missing (seen : List String) : List String → List String
  | [] => []
  | id :: rest => if id ∈ seen then missing seen rest else id :: missing (id :: seen) rest

/-- A stub for each id, at the next scattered places. -/
def placeStubs (s : Scatter) : List String → List (Node α) × Scatter
  | [] => ([], s)
  | id :: rest =>
    let (p, s) : Point α × Scatter := s.next
    let (ns, s) := placeStubs s rest
    (Node.stub id p :: ns, s)

/-! ## Records -/

/-- The list under the first key that holds something other than null. -/
def listField (record : Json.Members) (keys : List String) : List Json :=
  ((record.first? keys).bind Json.items?).getD []

/-- The content of a record, and the scattered places left. What is no record has no content. -/
def read (raw : Json) (s : Scatter) : Content α × Scatter :=
  match raw.members? with
  | none => (⟨[], []⟩, s)
  | some record =>
    let (entries, s) := readNodes 0 s (listField record ["nodes"])
    let nodes := distinctNodes [] entries
    let links := (listField record ["links", "edges"]).filterMap readLink?
    let mentioned := links.flatMap fun l => [l.source, l.target]
    let (stubs, s) := placeStubs s (missing (nodes.map Node.id) mentioned)
    (⟨nodes ++ stubs, links⟩, s)

end Content
end NodeLink
