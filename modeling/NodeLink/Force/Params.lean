import NodeLink.Scalar
/-!
# Parameters of the force model

The numbers that a host may set, their defaults, and the repair that keeps a step from diverging.
-/

namespace NodeLink

structure ForceParams (α : Type) where
  -- Length of a spring at rest.
  linkDistance : α
  -- Stiffness of a spring, multiplied by the weight of its link.
  linkStiffness : α
  -- The most one spring pulls or pushes.
  springMax : α
  -- Repulsion at distance one; it falls with the square of the distance.
  repulsion : α
  -- The most one pair is repelled.
  repulsionMax : α
  -- Pull toward the origin per unit of distance.
  centerStrength : α
  -- What is left of a velocity after a step.
  damping : α
  -- Distance kept beyond the sum of two radii.
  collisionPadding : α
  -- The part of an overlap that becomes a push.
  collisionStrength : α
  -- Length of a step in time.
  step : α
  -- Side of a cell of the grid; nodes two cells apart do not repel each other.
  cellSize : α
  -- What is left of the energy after a step.
  energyDecay : α
  -- The energy never falls below this.
  energyFloor : α
  -- Added to squared distances before dividing.
  epsilon : α
deriving Inhabited

namespace ForceParams

variable {α : Type} [Scalar α]

def standard : ForceParams α where
  linkDistance := 55
  linkStiffness := 0.010
  springMax := 50
  repulsion := 1800
  repulsionMax := 8
  centerStrength := 0.0020
  damping := 0.86
  collisionPadding := 6.5
  collisionStrength := 0.05
  step := 1
  cellSize := 110
  energyDecay := 0.985
  energyFloor := 0.02
  epsilon := 0.01

open Scalar in
/-- Values that are not finite become the defaults, and the others are brought into their range. -/
def sanitized (p : ForceParams α) : ForceParams α :=
  let d : ForceParams α := standard
  { linkDistance := max (finiteOr p.linkDistance d.linkDistance) 0
    linkStiffness := max (finiteOr p.linkStiffness d.linkStiffness) 0
    springMax := abs (finiteOr p.springMax d.springMax)
    repulsion := max (finiteOr p.repulsion d.repulsion) 0
    repulsionMax := abs (finiteOr p.repulsionMax d.repulsionMax)
    centerStrength := finiteOr p.centerStrength d.centerStrength
    damping := clampUnit (finiteOr p.damping d.damping)
    collisionPadding := finiteOr p.collisionPadding d.collisionPadding
    collisionStrength := max (finiteOr p.collisionStrength d.collisionStrength) 0
    step := max (finiteOr p.step d.step) 0
    cellSize := positiveOr p.cellSize d.cellSize
    energyDecay := clampUnit (finiteOr p.energyDecay d.energyDecay)
    energyFloor := min (positiveOr p.energyFloor d.energyFloor) 1
    epsilon := positiveOr p.epsilon d.epsilon }

/-- The values in the order of their declaration, with the names they are given by. -/
def fields (p : ForceParams α) : List (String × α) :=
  [("linkDistance", p.linkDistance), ("linkStiffness", p.linkStiffness),
   ("springMax", p.springMax), ("repulsion", p.repulsion), ("repulsionMax", p.repulsionMax),
   ("centerStrength", p.centerStrength), ("damping", p.damping),
   ("collisionPadding", p.collisionPadding), ("collisionStrength", p.collisionStrength),
   ("step", p.step), ("cellSize", p.cellSize), ("energyDecay", p.energyDecay),
   ("energyFloor", p.energyFloor), ("epsilon", p.epsilon)]

/-- Sets the value of a name; an unknown name changes nothing. -/
def set (p : ForceParams α) (name : String) (v : α) : ForceParams α :=
  match name with
  | "linkDistance" => { p with linkDistance := v }
  | "linkStiffness" => { p with linkStiffness := v }
  | "springMax" => { p with springMax := v }
  | "repulsion" => { p with repulsion := v }
  | "repulsionMax" => { p with repulsionMax := v }
  | "centerStrength" => { p with centerStrength := v }
  | "damping" => { p with damping := v }
  | "collisionPadding" => { p with collisionPadding := v }
  | "collisionStrength" => { p with collisionStrength := v }
  | "step" => { p with step := v }
  | "cellSize" => { p with cellSize := v }
  | "energyDecay" => { p with energyDecay := v }
  | "energyFloor" => { p with energyFloor := v }
  | "epsilon" => { p with epsilon := v }
  | _ => p

end ForceParams
end NodeLink
