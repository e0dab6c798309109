import NodeLink.Proofs.Force.Finite
import NodeLink.Proofs.Simulation.Framing
/-!
# Where nodes stand

Every node that is read has a finite place and a positive radius, steps keep the place finite, and
the other operations put nodes at places they were at, at the origin, or where they are dragged to.
So as long as nodes are dragged to finite places, all of them stand at finite places.

* `Node.Solid`, `Graph.Solid`: finite places and a positive radius.
* `Simulation.solid_apply`, `solid_run`: what keeps nodes so.
-/

namespace NodeLink

open Exact

/-- The node stands, and if it is fixed is held, at a finite place, and its disc has a size. -/
structure Node.Solid (n : Node Exact) : Prop where
  place : n.position.isFinite = true
  fixed : ∀ p, n.fixed = some p → p.isFinite = true
  radius : n.radius.Positive

namespace Node

variable {n m : Node Exact}

theorem Solid.holdAt (hn : n.Solid) {p : Point Exact} (hp : p.isFinite = true) :
    (n.holdAt p).Solid where
  place := hp
  fixed q hq := by
    rw [← Option.some.inj hq]
    exact hp
  radius := hn.radius

theorem Solid.release (hn : n.Solid) : n.release.Solid where
  place := hn.place
  fixed p hp := absurd hp.symm (Option.some_ne_none p)
  radius := hn.radius

/-- A step moves a node, but not to a place that is not finite. -/
theorem Solid.of_steady (hm : m.Solid) (hstill : n.still = m.still) (hn : n.Steady) :
    n.Solid := by
  have hfixed : n.fixed = m.fixed := fixed_of_still hstill
  have hradius : n.radius = m.radius := radius_of_still hstill
  refine ⟨?_, ?_, ?_⟩
  · cases hheld : n.fixed with
    | none => exact (hn.finite hheld).1
    | some p =>
      rw [(hn.rests p hheld).1]
      exact hm.fixed p (hfixed.symm.trans hheld)
  · rw [hfixed]
    exact hm.fixed
  · rw [hradius]
    exact hm.radius

end Node

namespace Graph

def Solid (g : Graph Exact) : Prop := ∀ n ∈ g.nodes, n.Solid

variable {g : Graph Exact}

theorem Solid.modifyAt (hg : g.Solid) (i : Nat) {f : Node Exact → Node Exact}
    (hf : ∀ n, n.Solid → (f n).Solid) : (g.modifyAt i f).Solid := forall_mem_modify hg i hf

theorem Solid.modify (hg : g.Solid) (id : String) {f : Node Exact → Node Exact}
    (hf : ∀ n, n.Solid → (f n).Solid) : (g.modify id f).Solid := by
  unfold Graph.modify
  split
  · exact hg.modifyAt _ hf
  · exact hg

theorem Solid.step (hg : g.Solid) (ph : Physics Exact) : (ph.step g).2.Solid := by
  intro n hn
  obtain ⟨m, hm, hstill⟩ := Physics.exists_of_mem_step hn
  exact (hg m hm).of_steady hstill (Physics.step_steady ph g n hn)

theorem solid_read (raw : Json) (s : Scatter) : ((read raw s).1 : Graph Exact).Solid := by
  intro n hn
  have hfree : n.fixed = none := (free_of_mem_nodes_read hn).1
  refine ⟨placed_read raw s n hn, fun p hp => ?_, ?_⟩
  · rw [hfree] at hp
    exact absurd hp.symm (Option.some_ne_none p)
  · rcases Content.radius_cases (List.mem_toArray.mp hn) with hdefault | ⟨hfinite, hpos⟩
    · rw [hdefault]
      exact Positive.literal 3
    · exact Positive.of_finite hfinite hpos

theorem Solid.ofGraph (hg : g.Solid) : (Holding.ofGraph g).graph.Solid := by
  unfold Holding.ofGraph
  cases g.hub? with
  | none => exact hg
  | some i =>
    have horigin : (Point.origin : Point Exact).isFinite = true :=
      Point.isFinite_iff.mpr ⟨isFinite_real _, isFinite_real _⟩
    exact hg.modifyAt i fun _ hn => hn.holdAt horigin

end Graph

namespace Simulation

/-- If the operation drags a node, then to a finite place. -/
def FiniteDrag : Operation Exact → Prop
  | .dragTo place => place.isFinite = true
  | _ => True

variable {s : Simulation Exact}

theorem solid_releaseUnpinned (hs : s.graph.Solid) (id : String) :
    (s.releaseUnpinned id).graph.Solid := by
  refine hs.modify id fun n hn => ?_
  split
  · exact hn
  · exact hn.release

theorem solid_endDrag (hs : s.graph.Solid) : s.endDrag.graph.Solid := by
  unfold endDrag
  split
  · exact hs
  · exact solid_releaseUnpinned hs _

theorem solid_beginDrag (hs : s.graph.Solid) (i : Nat) : (s.beginDrag i).1.graph.Solid := by
  have hend := solid_endDrag hs
  unfold beginDrag
  dsimp only
  split
  · exact hend
  · exact hend.modifyAt i fun n hn => hn.holdAt hn.place

theorem solid_dragTo (hs : s.graph.Solid) {place : Point Exact} (hplace : place.isFinite = true) :
    (s.dragTo place).1.graph.Solid := by
  unfold dragTo
  split
  · exact hs
  · split
    · exact hs.modify _ fun n hn => hn.holdAt hplace
    · exact hs

theorem solid_togglePin (hs : s.graph.Solid) (id : String) :
    (s.togglePin id).1.graph.Solid := by
  unfold togglePin
  split
  · exact hs
  · refine hs.modify id fun n hn => ?_
    have hturned (pinned : Bool) : { n with pinned := pinned }.Solid :=
      ⟨hn.place, hn.fixed, hn.radius⟩
    dsimp only
    split
    · exact (hturned _).holdAt hn.place
    · split
      · exact hturned _
      · exact (hturned _).release

theorem solid_tick (hs : s.graph.Solid) : s.tick.graph.Solid := by
  have hforces : s.stepForces.graph.Solid := by
    unfold stepForces
    split
    · exact hs.step _
    · exact hs
  have hhub : s.stepForces.releaseHub.graph.Solid := by
    unfold releaseHub
    split
    · exact hforces
    · dsimp only
      split
      · exact hforces
      · split
        · exact hforces
        · exact solid_releaseUnpinned hforces _
  exact hhub

theorem solid_apply (hs : s.graph.Solid) {op : Operation Exact} (hop : FiniteDrag op) :
    (s.apply op).graph.Solid := by
  cases s.effect op with
  | keeps _ _ hholding => rwa [graph_of_holding hholding]
  | loads hloads =>
    obtain ⟨raw, hraw⟩ := apply_of_loads hloads
    rw [hraw, show (s.load raw).graph = _ from congrArg Holding.graph (holding_load s raw)]
    exact (Graph.solid_read raw s.scatter).ofGraph
  | tick => exact solid_tick hs
  | togglePin id => exact solid_togglePin hs id
  | beginDrag i => exact solid_beginDrag hs i
  | dragTo place => exact solid_dragTo hs hop
  | endDrag => exact solid_endDrag hs

theorem solid_run (settings : Settings Exact) (width height ratio : Exact)
    {ops : List (Operation Exact)} (hops : ∀ op ∈ ops, FiniteDrag op) :
    ((new settings width height ratio).run ops).graph.Solid :=
  run_keeps (P := fun s => s.graph.Solid) (fun _ op hop hs => solid_apply hs (hops op hop))
    fun _ hn => absurd hn (Array.not_mem_empty _)

end Simulation
end NodeLink
