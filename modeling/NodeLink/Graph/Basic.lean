import NodeLink.Graph.Content
import NodeLink.Graph.IndexSet
/-!
# Graphs

A loaded graph: its nodes and links with what is derived from them once, when it is built. The ends
of each link are resolved to indices, and each node has its neighbours, its successors and
predecessors as increasing lists, and its degree. Later operations change the state of nodes but
never their ids or the links, so nothing derived is ever out of date.
-/

namespace NodeLink

structure Ties where
  -- Nodes at the other end of a link, in either direction.
  neighbors : IndexSet := []
  successors : IndexSet := []
  predecessors : IndexSet := []
  -- The number of ends of links; a link to itself counts twice.
  degree : Nat := 0
deriving DecidableEq, Inhabited

namespace Ties

def addNeighbor (j : Nat) (t : Ties) : Ties := { t with neighbors := t.neighbors.insert j }

def addSuccessor (j : Nat) (t : Ties) : Ties := { t with successors := t.successors.insert j }

def addPredecessor (j : Nat) (t : Ties) : Ties :=
  { t with predecessors := t.predecessors.insert j }

def addEnd (t : Ties) : Ties := { t with degree := t.degree + 1 }

end Ties

structure Graph (α : Type) where
  nodes : Array (Node α)
  links : List (Link α)
  -- Ids with their indices, later nodes first.
  directory : List (String × Nat)
  -- For each link the indices of its ends, none if either is unknown.
  ends : List (Option (Nat × Nat))
  -- For each node its ties.
  ties : Array Ties
deriving Inhabited

namespace Graph

variable {α : Type}

/-! ## Building -/

/-- Ids with their indices; of a repeated id the last node stands first. -/
def directoryOf (nodes : List (Node α)) : List (String × Nat) :=
  ((nodes.map Node.id).zipIdx).reverse

def resolve (directory : List (String × Nat)) (l : Link α) : Option (Nat × Nat) :=
  match directory.lookup l.source, directory.lookup l.target with
  | some s, some t => some (s, t)
  | _, _ => none

/-- Enters a link from `s` to `t` into the ties of both nodes. -/
def tie (ties : Array Ties) (s t : Nat) : Array Ties :=
  let ties := (ties.modify s Ties.addEnd).modify t Ties.addEnd
  let ties := (ties.modify s (Ties.addNeighbor t)).modify t (Ties.addNeighbor s)
  (ties.modify s (Ties.addSuccessor t)).modify t (Ties.addPredecessor s)

def tieAll (count : Nat) (ends : List (Option (Nat × Nat))) : Array Ties :=
  ends.foldl (fun ties e =>
    match e with
    | some (s, t) => tie ties s t
    | none => ties) (Array.replicate count {})

def ofContent (c : Content α) : Graph α :=
  let directory := directoryOf c.nodes
  let ends := c.links.map (resolve directory)
  { nodes := c.nodes.toArray
    links := c.links
    directory := directory
    ends := ends
    ties := tieAll c.nodes.length ends }

def empty : Graph α := ofContent ⟨[], []⟩

/-- The graph of a record, and the scattered places left. -/
def read [Scalar α] (raw : Json) (s : Scatter) : Graph α × Scatter :=
  let (c, s) := Content.read raw s
  (ofContent c, s)

/-! ## Looking up -/

def size (g : Graph α) : Nat := g.nodes.size

def isEmpty (g : Graph α) : Bool := g.nodes.isEmpty

def indexOf? (g : Graph α) (id : String) : Option Nat := g.directory.lookup id

def node? (g : Graph α) (id : String) : Option (Node α) :=
  (g.indexOf? id).bind fun i => g.nodes[i]?

def hasNode (g : Graph α) (id : String) : Bool := (g.indexOf? id).isSome

def idAt? (g : Graph α) (i : Nat) : Option String := (g.nodes[i]?).map Node.id

def linkEnds? (g : Graph α) (i : Nat) : Option (Nat × Nat) := (g.ends[i]?).join

/-- The links whose ends are both known, with the indices of their ends. -/
def resolvedLinks (g : Graph α) : List (Link α × Nat × Nat) :=
  (g.links.zip g.ends).filterMap fun (l, e) => e.map fun (s, t) => (l, s, t)

def tiesAt (g : Graph α) (i : Nat) : Ties := (g.ties[i]?).getD {}

def neighbors (g : Graph α) (i : Nat) : List Nat := (g.tiesAt i).neighbors

def successors (g : Graph α) (i : Nat) : List Nat := (g.tiesAt i).successors

def predecessors (g : Graph α) (i : Nat) : List Nat := (g.tiesAt i).predecessors

def degree (g : Graph α) (i : Nat) : Nat := (g.tiesAt i).degree

/-- The node of highest degree, the first of several; none in an empty graph. -/
def hub? (g : Graph α) : Option Nat :=
  match List.range g.size with
  | [] => none
  | first :: rest =>
    some (rest.foldl (fun best i => if g.degree best < g.degree i then i else best) first)

/-! ## Changing nodes -/

def modifyAt (g : Graph α) (i : Nat) (f : Node α → Node α) : Graph α :=
  { g with nodes := g.nodes.modify i f }

def modify (g : Graph α) (id : String) (f : Node α → Node α) : Graph α :=
  match g.indexOf? id with
  | some i => g.modifyAt i f
  | none => g

theorem indexOf?_modify (g : Graph α) (id k : String) (f : Node α → Node α) :
    (g.modify id f).indexOf? k = g.indexOf? k := by
  unfold modify
  split
  · rfl
  · rfl

end Graph
end NodeLink
