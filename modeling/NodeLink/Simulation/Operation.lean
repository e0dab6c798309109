import NodeLink.Simulation.Basic
/-!
# Operations

All that can be done to a simulation, as data, so that one can speak of every sequence of
operations and of the states that are reached.
-/

namespace NodeLink

inductive Operation (α : Type) where
  | load (raw : Json)
  | loadText (text : String)
  | tick
  | resize (width height ratio : α)
  | fit
  | setHover (index : Option Nat)
  | select (id : String)
  | deselect
  | focus (id : String)
  | setRunning (running : Bool)
  | toggleRunning
  | reheat
  | togglePin (id : String)
  | beginDrag (index : Nat)
  | dragTo (place : Point α)
  | endDrag
  | toast (message : String)
  | drain

namespace Simulation

variable {α : Type} [Scalar α]

/-- The state after an operation, its answer left out. A text that cannot be loaded changes
nothing. -/
def apply (s : Simulation α) : Operation α → Simulation α
  | .load raw => s.load raw
  | .loadText text => match s.loadText text with
    | .ok s => s
    | .error _ => s
  | .tick => s.tick
  | .resize width height ratio => s.resize width height ratio
  | .fit => s.fit
  | .setHover index => s.setHover index
  | .select id => (s.select id).1
  | .deselect => s.deselect
  | .focus id => (s.focus id).1
  | .setRunning running => s.setRunning running
  | .toggleRunning => s.toggleRunning
  | .reheat => s.reheat
  | .togglePin id => (s.togglePin id).1
  | .beginDrag index => (s.beginDrag index).1
  | .dragTo place => (s.dragTo place).1
  | .endDrag => s.endDrag
  | .toast message => s.toast message
  | .drain => s.drain.1

def run (s : Simulation α) (ops : List (Operation α)) : Simulation α := ops.foldl apply s

/-- The states that operations lead to from a new simulation. -/
def Reachable (s : Simulation α) : Prop :=
  ∃ (settings : Settings α) (width height ratio : α) (ops : List (Operation α)),
    s = (new settings width height ratio).run ops

end Simulation
end NodeLink
