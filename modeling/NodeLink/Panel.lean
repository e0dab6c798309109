import NodeLink.Graph.Basic
/-!
# Panel

What the side panel shows of one node: its titles, its neighbours, the way back, and its details as
text. Long lists and long texts are cut.

* `Panel.trimDetails` keeps the first keys of a record and cuts its long texts.
* `Panel.of?` is the panel of a node.
-/

namespace NodeLink

/-- The way up from a node. -/
inductive Crumb where
  | parent (id label : String)
  | overview
deriving DecidableEq, Inhabited

structure PanelNeighbor where
  id : String
  label : String
  subtitle : String
deriving DecidableEq, Inhabited

structure Panel where
  id : String
  title : String
  subtitle : String
  degree : Nat
  pinned : Bool
  crumb : Crumb
  neighbors : List PanelNeighbor
  -- The details of the node as text.
  body : String
deriving DecidableEq, Inhabited

namespace Panel

def neighborLimit : Nat := 80

def keyLimit : Nat := 80

def textLimit : Nat := 320

def ellipsis : Char := Char.ofNat 0x2026

/-- Ids of directories start with this. -/
def directoryMark : String := "dir:"

/-! ## Details -/

/-- A text of more than `textLimit` characters is cut there and gets an ellipsis. -/
def cutText : Json → Json
  | .string s =>
    if textLimit < s.toList.length then .string (String.ofList (s.toList.take textLimit ++ [ellipsis]))
    else .string s
  | v => v

/-- The first keys of a record with their long texts cut; other values stay as they are. -/
def trimDetails : Json → Json
  | .object ms => .object ((ms.take keyLimit).map fun (k, v) => (k, cutText v))
  | v => v

/-! ## Panels -/

variable {α : Type}

def neighborOf (n : Node α) : PanelNeighbor := ⟨n.id, n.title, n.subtitle⟩

def isDirectory (n : Node α) : Bool := directoryMark.toList.isPrefixOf n.id.toList

def nodesAt (g : Graph α) (is : List Nat) : List (Node α) := is.filterMap fun i => g.nodes[i]?

/-- The first directory that links to a node, else the overview. -/
def crumbOf (g : Graph α) (i : Nat) : Crumb :=
  match (nodesAt g (g.predecessors i)).find? isDirectory with
  | some n => .parent n.id n.label
  | none => .overview

def bodyOf (g : Graph α) (i : Nat) (n : Node α) (details : Json) : Json :=
  Json.ofPairs
    [("id", .string n.id), ("label", .string n.label), ("path", .string n.path),
     ("group", .string n.group), ("degree", .number (.int (g.degree i))),
     ("outgoing", .number (.int (g.successors i).length)),
     ("incoming", .number (.int (g.predecessors i).length)), ("meta", trimDetails details)]

/-- The panel of the node at an index; `extra` takes the place of the node's own details. -/
def of? (g : Graph α) (i : Nat) (extra : Option Json) : Option Panel :=
  (g.nodes[i]?).map fun n =>
    { id := n.id
      title := n.title
      subtitle := n.subtitle
      degree := g.degree i
      pinned := n.pinned
      crumb := crumbOf g i
      neighbors := (nodesAt g ((g.neighbors i).take neighborLimit)).map neighborOf
      body := (bodyOf g i n (extra.getD n.details)).pretty }

end Panel
end NodeLink
