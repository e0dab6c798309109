import NodeLink.Graph.Basic
/-!
# Bounds

The smallest box, with sides along the axes, that holds the positions of all nodes.
-/

namespace NodeLink

structure Bounds (α : Type) where
  min : Point α
  max : Point α
deriving DecidableEq, Inhabited

namespace Bounds

variable {α : Type} [Scalar α]

def center (b : Bounds α) : Point α :=
  ⟨(b.min.x + b.max.x) * 0.5, (b.min.y + b.max.y) * 0.5⟩

def width (b : Bounds α) : α := b.max.x - b.min.x

def height (b : Bounds α) : α := b.max.y - b.min.y

def enclose (b : Bounds α) (p : Point α) : Bounds α where
  min := ⟨Scalar.min b.min.x p.x, Scalar.min b.min.y p.y⟩
  max := ⟨Scalar.max b.max.x p.x, Scalar.max b.max.y p.y⟩

def ofPoints? : List (Point α) → Option (Bounds α)
  | [] => none
  | p :: rest => some (rest.foldl enclose ⟨p, p⟩)

end Bounds

def Graph.bounds? {α : Type} [Scalar α] (g : Graph α) : Option (Bounds α) :=
  Bounds.ofPoints? (g.nodes.toList.map Node.position)

end NodeLink
