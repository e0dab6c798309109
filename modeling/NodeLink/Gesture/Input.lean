import NodeLink.Gesture.Basic
/-!
# Inputs

All that happens to a tracker and its simulation, as data: what pointers do, the wheel, and
operations from elsewhere in between.
-/

namespace NodeLink

inductive Input (α : Type) where
  | down (pointer : Int) (place : Point α)
  | move (pointer : Int) (place : Point α)
  | up (pointer : Int) (place : Point α)
  | leave (pointer : Int)
  | wheel (place : Point α) (deltaY : α)
  | operate (op : Operation α)

namespace GestureTracker

variable {α : Type} [Scalar α]

def apply (w : State α) : Input α → State α
  | .down pointer p => down w pointer p
  | .move pointer p => move w pointer p
  | .up pointer p => up w pointer p
  | .leave pointer => leave w pointer
  | .wheel p deltaY => wheel w p deltaY
  | .operate op => (w.1, w.2.apply op)

def run (w : State α) (inputs : List (Input α)) : State α := inputs.foldl apply w

/-- The states that inputs lead to from a new tracker and a new simulation. -/
def Reachable (w : State α) : Prop :=
  ∃ (settings : Settings α) (width height ratio : α) (inputs : List (Input α)),
    w = run (new settings.interaction, Simulation.new settings width height ratio) inputs

end GestureTracker
end NodeLink
