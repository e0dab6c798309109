import NodeLink.View.Viewport
/-!
# Picking

Which node a point of the canvas hits: the nearest of those whose disc, widened by a tolerance,
contains the point, and the first of several equally near.
-/

namespace NodeLink

variable {α : Type} [Scalar α]

/-- The square of the distance from a point to a node, if the node's widened disc contains it. -/
def Node.hit? (n : Node α) (p : Point α) (slop : α) : Option α :=
  let dx := n.position.x - p.x
  let dy := n.position.y - p.y
  let d2 := dx * dx + dy * dy
  let reach := n.radius + slop
  if d2 < reach * reach then some d2 else none

def betterHit (p : Point α) (slop : α) (best : Option (Nat × α)) (entry : Node α × Nat) :
    Option (Nat × α) :=
  match entry.1.hit? p slop, best with
  | none, best => best
  | some d2, none => some (entry.2, d2)
  | some d2, some (i, d) => if d2 < d then some (entry.2, d2) else some (i, d)

def Graph.pickAt? (g : Graph α) (p : Point α) (slop : α) : Option Nat :=
  (g.nodes.toList.zipIdx.foldl (betterHit p slop) none).map Prod.fst

/-- The node at a device pixel, with a tolerance in world units. -/
def pick? (g : Graph α) (v : Viewport α) (screen : Point α) (slop : α) : Option Nat :=
  g.pickAt? (v.toWorld screen) slop

end NodeLink
