import NodeLink.Scalar
/-!
# Points

A point or a vector of the plane, in whichever space the caller works in.
-/

namespace NodeLink

structure Point (α : Type) where
  x : α
  y : α
deriving DecidableEq, Inhabited

namespace Point

variable {α : Type} [Scalar α]

def origin : Point α := ⟨0, 0⟩

def isFinite (p : Point α) : Bool := Scalar.isFinite p.x && Scalar.isFinite p.y

def add (p q : Point α) : Point α := ⟨p.x + q.x, p.y + q.y⟩

def sub (p q : Point α) : Point α := ⟨p.x - q.x, p.y - q.y⟩

/-- The length of the way from `p` to `q` along the axes. -/
def travel (p q : Point α) : α := Scalar.abs (q.x - p.x) + Scalar.abs (q.y - p.y)

def distance (p q : Point α) : α :=
  let d := q.sub p
  Scalar.sqrt (d.x * d.x + d.y * d.y)

end Point
end NodeLink
