import NodeLink.Simulation.Operation
/-!
# What operations leave alone

To pin, drag and drop a node changes the node and what holds it; a frame besides moves the view and
lets time pass for the highlight. To select, deselect and pause changes that alone. All else stays.
-/

namespace NodeLink.Simulation

variable {α : Type}

/-- All but the nodes, what holds them, the energy and the grid of the forces, and the events. -/
structure Outlook (α : Type) where
  params : ForceParams α
  viewport : Viewport α
  highlight : Highlight α
  scale : Scale α
  running : Bool
  hovered : Option String
  selected : Option String
  scatter : Scatter

def outlook (s : Simulation α) : Outlook α :=
  ⟨s.physics.params, s.viewport, s.highlight, s.scale, s.running, s.hovered, s.selected, s.scatter⟩

theorem outlook_endDrag (s : Simulation α) : s.endDrag.outlook = s.outlook := by
  unfold endDrag
  split
  · rfl
  · rfl

theorem outlook_releaseHub (s : Simulation α) : s.releaseHub.outlook = s.outlook := by
  unfold releaseHub
  split
  · rfl
  · dsimp only
    split
    · rfl
    · split
      · rfl
      · rfl

theorem outlook_deselect (s : Simulation α) :
    s.deselect.outlook = { s.outlook with selected := none } := by
  unfold deselect
  split
  · rfl
  · rename_i hnone
    rw [outlook, hnone]

theorem outlook_setRunning (s : Simulation α) (running : Bool) :
    (s.setRunning running).outlook = { s.outlook with running := running } := by
  unfold setRunning
  split
  · rename_i hrunning
    rw [outlook, hrunning]
  · rfl

variable [Scalar α]

theorem outlook_select (s : Simulation α) (id : String) : (s.select id).1.outlook =
    { s.outlook with selected := if s.graph.hasNode id then some id else s.selected } := by
  unfold select
  split
  · rfl
  · rfl

theorem outlook_beginDrag (s : Simulation α) (i : Nat) :
    (s.beginDrag i).1.outlook = s.outlook := by
  unfold beginDrag
  dsimp only
  split
  · exact outlook_endDrag s
  · exact outlook_endDrag s

theorem outlook_dragTo (s : Simulation α) (place : Point α) :
    (s.dragTo place).1.outlook = s.outlook := by
  unfold dragTo
  split
  · rfl
  · split
    · rfl
    · rfl

theorem outlook_togglePin (s : Simulation α) (id : String) :
    (s.togglePin id).1.outlook = s.outlook := by
  unfold togglePin
  split
  · rfl
  · rfl

theorem outlook_stepForces (s : Simulation α) : s.stepForces.outlook = s.outlook := by
  unfold stepForces
  split
  · rfl
  · rfl

/-- A frame moves the view and the highlight, whatever the forces do. -/
theorem outlook_tick (s : Simulation α) : s.tick.outlook = { s.outlook with
    viewport := s.viewport.advance
    highlight := s.highlight.tick frameTime } := by
  have h : s.stepForces.releaseHub.outlook = s.outlook :=
    (outlook_releaseHub _).trans (outlook_stepForces s)
  have hviewport : s.stepForces.releaseHub.viewport = s.viewport := congrArg Outlook.viewport h
  have hhighlight : s.stepForces.releaseHub.highlight = s.highlight :=
    congrArg Outlook.highlight h
  rw [← h, ← hviewport, ← hhighlight]
  rfl

end NodeLink.Simulation
