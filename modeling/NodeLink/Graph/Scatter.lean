import NodeLink.Point
/-!
# Scattered places

Places for nodes that bring none: a running counter is hashed to points of a box around the origin.
The same counter always gives the same points.
-/

namespace NodeLink

/-- The counter of a stream of points. -/
structure Scatter where
  seed : UInt64 := 0
deriving DecidableEq, Inhabited

namespace Scatter

variable {α : Type} [Scalar α]

def halfWidth : α := 400

def halfHeight : α := 300

/-- The fraction in `[0, 1)` that a counter is hashed to. -/
def unitAt (seed : UInt64) : α :=
  let s : α := Scalar.ofNat seed.toNat
  let x := Scalar.sin (s * 12.9898 + s * 78.233) * 43758.5453
  x - Scalar.floor x

/-- The next point, which takes two steps of the counter, and the stream after it. -/
def next (s : Scatter) : Point α × Scatter :=
  let x : α := (unitAt (s.seed + 1) - 0.5) * 2 * halfWidth
  let y : α := (unitAt (s.seed + 2) - 0.5) * 2 * halfHeight
  (⟨x, y⟩, ⟨s.seed + 2⟩)

def take : Nat → Scatter → List (Point α)
  | 0, _ => []
  | n + 1, s =>
    let (p, rest) : Point α × Scatter := s.next
    p :: take n rest

end Scatter
end NodeLink
