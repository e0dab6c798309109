import NodeLink.Force.Params
import NodeLink.Force.Energy
import NodeLink.Force.Grid
import NodeLink.Graph.Basic
/-!
# A step of the layout

One step moves every node a little: fixed nodes are put back, near nodes push each other apart,
links pull like springs, all drift to the origin, and velocities become movement. A node that would
leave the finite numbers starts again at the origin.

* `pairs` lists the pairs of near nodes, each once.
* `repel` and `pull` change two velocities by opposite amounts.
* `settle` ends the step for one node.
-/

namespace NodeLink

/-- The force model at work: its parameters, its energy and the grid it reuses. -/
structure Physics (α : Type) where
  params : ForceParams α
  energy : Energy α
  grid : Grid α
deriving Inhabited

namespace Physics

variable {α : Type} [Scalar α]

/-- Starts at full energy; the parameters are repaired. -/
def new (params : ForceParams α) : Physics α :=
  let params := params.sanitized
  { params := params, energy := Energy.full, grid := Grid.empty params.cellSize }

def reheat (ph : Physics α) : Physics α := { ph with energy := Energy.full }

/-! ## Directions -/

/-- The unit vector from `b` to `a` and the square of the distance. Two nodes in one place are
given a direction that depends on their indices, so that they come apart. -/
def separation (a b : Point α) (i j : Nat) : Point α × α :=
  let dx := a.x - b.x
  let dy := a.y - b.y
  let d2 := dx * dx + dy * dy
  if 1e-12 < d2 then
    let d := Scalar.sqrt d2
    (⟨dx / d, dy / d⟩, d2)
  else
    let angle := (Scalar.ofNat i * 0.618034 + Scalar.ofNat j * 0.414214) * Scalar.turn
    (⟨Scalar.cos angle, Scalar.sin angle⟩, d2)

def push (direction : Point α) (force : α) (n : Node α) : Node α :=
  { n with velocity :=
      ⟨n.velocity.x + direction.x * force, n.velocity.y + direction.y * force⟩ }

def pushBack (direction : Point α) (force : α) (n : Node α) : Node α :=
  { n with velocity :=
      ⟨n.velocity.x - direction.x * force, n.velocity.y - direction.y * force⟩ }

/-! ## Fixed nodes -/

/-- A fixed node stands still at its place. -/
def holdFixed (n : Node α) : Node α :=
  match n.fixed with
  | some place => n.restAt place
  | none => n

/-! ## Pairs -/

/-- The pairs `i < j` of nodes whose cells touch, in the order they are treated. -/
def pairs (grid : Grid α) (positions : List (Point α)) : List (Nat × Nat) :=
  positions.zipIdx.flatMap fun (p, i) =>
    ((grid.near (grid.cellOf p)).filter fun j => decide (i < j)).map fun j => (i, j)

/-- The force between two nodes that `separation` found at squared distance `d2`: repulsion up to
its limit, and more if they overlap. -/
def pairForce (p : ForceParams α) (a b : Node α) (d2 : α) : α :=
  let d2 := d2 + p.epsilon
  let d := Scalar.sqrt d2
  let f := Scalar.min (p.repulsion / d2) p.repulsionMax
  let reach := p.collisionPadding + a.radius + b.radius
  if d < reach then f + (reach - d) * p.collisionStrength else f

def repel (p : ForceParams α) (nodes : Array (Node α)) (pair : Nat × Nat) : Array (Node α) :=
  let (i, j) := pair
  match nodes[i]?, nodes[j]? with
  | some a, some b =>
    let (direction, d2) := separation a.position b.position i j
    let f := pairForce p a b d2
    (nodes.modify i (push direction f)).modify j (pushBack direction f)
  | _, _ => nodes

def applyPairs (p : ForceParams α) (grid : Grid α) (nodes : Array (Node α)) : Array (Node α) :=
  (pairs grid (nodes.toList.map Node.position)).foldl (repel p) nodes

/-! ## Springs -/

/-- The pull of a spring between two points: its direction, and its force up to the limit. -/
def spring (p : ForceParams α) (a b : Point α) (weight : α) : Point α × α :=
  let dx := b.x - a.x
  let dy := b.y - a.y
  let d := Scalar.sqrt (dx * dx + dy * dy) + 1e-6
  let f := Scalar.min (Scalar.max ((d - p.linkDistance) * p.linkStiffness * weight) (-p.springMax))
    p.springMax
  (⟨dx / d, dy / d⟩, f)

/-- A link pulls its ends together, or apart if they are too near; a link to itself does nothing. -/
def pull (p : ForceParams α) (nodes : Array (Node α)) (link : Link α × Nat × Nat) :
    Array (Node α) :=
  let (l, s, t) := link
  if s = t then nodes
  else
    match nodes[s]?, nodes[t]? with
    | some a, some b =>
      let (direction, f) := spring p a.position b.position l.weight
      (nodes.modify s (push direction f)).modify t (pushBack direction f)
    | _, _ => nodes

def applySprings (p : ForceParams α) (links : List (Link α × Nat × Nat))
    (nodes : Array (Node α)) : Array (Node α) :=
  links.foldl (pull p) nodes

/-! ## Movement -/

/-- The node after its velocity has been damped and has moved it. -/
def move (p : ForceParams α) (gain : α) (n : Node α) : Node α :=
  let v : Point α :=
    ⟨(n.velocity.x - n.position.x * p.centerStrength) * p.damping,
      (n.velocity.y - n.position.y * p.centerStrength) * p.damping⟩
  { n with velocity := v, position := ⟨n.position.x + v.x * gain, n.position.y + v.y * gain⟩ }

/-- The end of the step for a node: held if it is fixed, else moved, and put at the origin if it
has left the finite numbers. -/
def settle (p : ForceParams α) (gain : α) (n : Node α) : Node α :=
  match n.fixed with
  | some place => n.restAt place
  | none =>
    let n := move p gain n
    if n.position.isFinite then n else n.restAt Point.origin

/-! ## The step -/

def step (ph : Physics α) (g : Graph α) : Physics α × Graph α :=
  let p := ph.params
  let nodes := g.nodes.map holdFixed
  let grid := ph.grid.rebuild (nodes.toList.map Node.position) p.cellSize
  let nodes := applyPairs p grid nodes
  let nodes := applySprings p g.resolvedLinks nodes
  let nodes := nodes.map (settle p (p.step * ph.energy.gain))
  ({ ph with grid := grid, energy := ph.energy.decay p.energyDecay p.energyFloor },
    { g with nodes := nodes })

def run : Nat → Physics α → Graph α → Physics α × Graph α
  | 0, ph, g => (ph, g)
  | n + 1, ph, g =>
    let (ph, g) := ph.step g
    run n ph g

end Physics
end NodeLink
