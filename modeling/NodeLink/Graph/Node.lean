import NodeLink.Json.Basic
import NodeLink.Point
/-!
# Nodes and links

What a graph consists of. A node has its identity and its labels, a place and a velocity; `fixed`
holds it at a place against all forces, and `pinned` says that the user wants it held.
-/

namespace NodeLink

structure Node (α : Type) where
  id : String
  label : String
  -- Shown below the label and searched.
  path : String
  -- Decides the colour of nodes without one of their own.
  group : String
  -- Whatever else the record of the node says.
  details : Json
  position : Point α
  velocity : Point α
  fixed : Option (Point α)
  pinned : Bool
  radius : α
  -- A colour of its own, as a style text.
  color : Option String
deriving Inhabited

/-- A directed link between two nodes, given by their ids. -/
structure Link (α : Type) where
  source : String
  target : String
  -- Multiplies the stiffness of the spring.
  weight : α
deriving DecidableEq, Inhabited

namespace Node

variable {α : Type} [Scalar α]

def defaultRadius : α := 4

/-- A node known only by its id, at rest at a place. -/
def stub (id : String) (place : Point α) : Node α where
  id := id
  label := id
  path := ""
  group := ""
  details := Json.emptyObject
  position := place
  velocity := Point.origin
  fixed := none
  pinned := false
  radius := defaultRadius
  color := none

def restAt (n : Node α) (place : Point α) : Node α :=
  { n with position := place, velocity := Point.origin }

/-- The node fixed at a place, where it stands still. -/
def holdAt (n : Node α) (place : Point α) : Node α :=
  { n.restAt place with fixed := some place }

def release (n : Node α) : Node α := { n with fixed := none }

/-- The label, or the id of a node without one. -/
def title (n : Node α) : String := if n.label.isEmpty then n.id else n.label

/-- The path, or else the group, or else the id. -/
def subtitle (n : Node α) : String :=
  if !n.path.isEmpty then n.path else if !n.group.isEmpty then n.group else n.id

end Node
end NodeLink
