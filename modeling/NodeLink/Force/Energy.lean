import NodeLink.Scalar
/-!
# Energy

How lively the layout is, from a floor above zero up to one: full after each disturbance, then less
with every step, but never nothing.
-/

namespace NodeLink

structure Energy (α : Type) where
  value : α
deriving DecidableEq, Inhabited

namespace Energy

variable {α : Type} [Scalar α]

def full : Energy α := ⟨1⟩

def decay (e : Energy α) (factor floor : α) : Energy α :=
  ⟨Scalar.min (Scalar.max (e.value * factor) floor) 1⟩

/-- What velocities are multiplied by: large just after a disturbance, small later. -/
def gain (e : Energy α) : α := 0.25 + e.value

end Energy
end NodeLink
