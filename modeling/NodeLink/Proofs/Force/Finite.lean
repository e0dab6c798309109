import NodeLink.Proofs.Force.Frame
import NodeLink.Proofs.Scalar.Laws
/-!
# Places stay finite

Whatever numbers the nodes start from, and whatever the forces between them come to, a step leaves
each free node at a finite place with a finite velocity. The step tests the place alone. That is
enough: the place it tests is a sum that the new velocity has entered, and a finite sum has finite
operands.

* `Physics.step_steady`: where one step leaves each node.
* `Physics.run_steady`: where any number of steps leave each node, and what they leave alone.
-/

namespace NodeLink

variable {α : Type} [Scalar α]

namespace Node

/-- A fixed node stands still at its place, and any other has a finite place and velocity. -/
structure Steady (n : Node α) : Prop where
  rests : n.Rests
  finite : n.fixed = none → n.position.isFinite = true ∧ n.velocity.isFinite = true

end Node

namespace Graph

/-- Another state of the same nodes: places and velocities apart, nothing is different. -/
structure SameButMoved (g h : Graph α) : Prop where
  nodes : h.nodes.map Node.still = g.nodes.map Node.still
  links : h.links = g.links
  directory : h.directory = g.directory
  ends : h.ends = g.ends
  ties : h.ties = g.ties

theorem SameButMoved.trans {g h k : Graph α} (hgh : g.SameButMoved h) (hhk : h.SameButMoved k) :
    g.SameButMoved k where
  nodes := hhk.nodes.trans hgh.nodes
  links := hhk.links.trans hgh.links
  directory := hhk.directory.trans hgh.directory
  ends := hhk.ends.trans hgh.ends
  ties := hhk.ties.trans hgh.ties

end Graph

namespace Physics

theorem step_sameButMoved (ph : Physics α) (g : Graph α) : g.SameButMoved (ph.step g).2 where
  nodes := step_still ph g
  links := rfl
  directory := rfl
  ends := rfl
  ties := rfl

variable [Scalar.FiniteOperands α]

open Scalar.FiniteOperands

/-! ## One node -/

theorem isFinite_origin : (Point.origin : Point α).isFinite = true := by
  have hzero : Scalar.isFinite (0 : α) = true := finite_zero
  rw [Point.isFinite, Point.origin, hzero, Bool.and_self]

/-- A velocity that has moved a node to a finite coordinate is finite. -/
theorem isFinite_of_moved {x v gain : α} (h : Scalar.isFinite (x + v * gain) = true) :
    Scalar.isFinite v = true :=
  (finite_of_mul v gain (finite_of_add x (v * gain) h).2).1

theorem isFinite_velocity_move (p : ForceParams α) (gain : α) (n : Node α)
    (h : (move p gain n).position.isFinite = true) : (move p gain n).velocity.isFinite = true := by
  obtain ⟨hx, hy⟩ := Bool.and_eq_true_iff.mp h
  exact Bool.and_eq_true_iff.mpr ⟨isFinite_of_moved hx, isFinite_of_moved hy⟩

theorem finite_settle (p : ForceParams α) (gain : α) {n : Node α} (hn : n.fixed = none) :
    (settle p gain n).position.isFinite = true ∧ (settle p gain n).velocity.isFinite = true := by
  rw [settle, hn]
  dsimp only
  by_cases hplace : (move p gain n).position.isFinite = true
  · rw [if_pos hplace]
    exact ⟨hplace, isFinite_velocity_move p gain n hplace⟩
  · rw [if_neg hplace]
    exact ⟨isFinite_origin, isFinite_origin⟩

theorem steady_settle (p : ForceParams α) (gain : α) (n : Node α) :
    (settle p gain n).Steady where
  rests := rests_settle p gain n
  finite hfree := by
    have hfixed : (settle p gain n).fixed = n.fixed := Node.fixed_of_still (still_settle p gain n)
    exact finite_settle p gain (hfixed.symm.trans hfree)

/-! ## Steps -/

/-- One step is enough, whatever state it starts from. -/
theorem step_steady (ph : Physics α) (g : Graph α) : ∀ n ∈ (ph.step g).2.nodes, n.Steady := by
  intro n hn
  rw [step, Array.mem_map] at hn
  obtain ⟨m, -, rfl⟩ := hn
  exact steady_settle _ _ m

/-- After any number of steps, but at least one, every fixed node stands still at its place and
every other has a finite place and a finite velocity. Nothing else about nodes, links and what is
derived from them has changed. -/
theorem run_steady (steps : Nat) (ph : Physics α) (g : Graph α) :
    (∀ n ∈ (run (steps + 1) ph g).2.nodes, n.Steady) ∧
      g.SameButMoved (run (steps + 1) ph g).2 := by
  induction steps generalizing ph g with
  | zero => exact ⟨step_steady ph g, step_sameButMoved ph g⟩
  | succ steps ih =>
    -- The steps after the first are a run of their own.
    obtain ⟨hnodes, hsame⟩ := ih (ph.step g).1 (ph.step g).2
    exact ⟨hnodes, (step_sameButMoved ph g).trans hsame⟩

/-- Two nodes in one place, one at no place and one fixed beyond all numbers, with a velocity that
is not finite, a loop and a link to no node. -/
def wreck : Graph Float := Graph.ofContent
  { nodes := [Node.stub "A" ⟨1, 1⟩, { Node.stub "B" ⟨1, 1⟩ with velocity := ⟨1 / 0, -1 / 0⟩ },
      Node.stub "C" ⟨0 / 0, 1e308⟩, (Node.stub "D" ⟨1e308, 0⟩).holdAt ⟨1 / 0, 3⟩]
    links := [⟨"A", "A", 1⟩, ⟨"A", "D", 1e308⟩, ⟨"B", "C", 0 / 0⟩, ⟨"A", "E", 1⟩] }

theorem run_steady_wreck :
    Scalar.FiniteOperands Float ∧
      (∀ n ∈ (run 2 (new ForceParams.standard) wreck).2.nodes, n.Steady) ∧
      wreck.SameButMoved (run 2 (new ForceParams.standard) wreck).2 :=
  ⟨inferInstance, run_steady 1 (new ForceParams.standard) wreck⟩

end Physics
end NodeLink
