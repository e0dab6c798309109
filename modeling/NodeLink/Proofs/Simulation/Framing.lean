import NodeLink.Proofs.Gesture.View
import NodeLink.Proofs.Graph.Content
import NodeLink.Proofs.View.Fit
/-!
# What is shown of a loaded graph

A load, and a fit at any later time, fits the view to the box around the nodes as they stand then.
A load has moved the hub to the origin before, and every node it reads has a finite place.

* `Graph.Placed`: all nodes stand at finite places; `placed_read`: those of a record do.
* `Simulation.onCanvas_run`: a canvas keeps a finite size while it is given finite ones.
* `Simulation.Framed`: the view is fitted to the box around the nodes.
* `Simulation.fitted_apply`: what the view shows after a load or a fit.
-/

namespace NodeLink

open Exact

/-! ## Finite places -/

namespace Scatter

theorem finite_unitAt (seed : UInt64) : Scalar.isFinite (unitAt seed : Exact) = true := by
  have hsin : Scalar.isFinite (Scalar.sin ((Scalar.ofNat seed.toNat : Exact) * 12.9898 +
      Scalar.ofNat seed.toNat * 78.233)) = true := rfl
  have hscaled := finite_mul hsin (isFinite_real (43758.5453 : ℝ))
  exact finite_sub hscaled (finite_floor hscaled)

theorem finite_point (s : Scatter) (k : Nat) : (s.point k : Point Exact).isFinite = true := by
  have hcoordinate (seed : UInt64) (half : ℝ) :
      Scalar.isFinite ((unitAt seed - 0.5) * 2 * real half : Exact) = true :=
    finite_mul (finite_mul (finite_sub (finite_unitAt seed) (isFinite_real _)) (isFinite_real _))
      (isFinite_real half)
  exact Point.isFinite_iff.mpr ⟨hcoordinate _ _, hcoordinate _ _⟩

end Scatter

namespace Graph

section Places

variable {α : Type}

/-- Where the nodes stand. -/
def places (g : Graph α) : List (Point α) := g.nodes.toList.map Node.position

/-- All nodes stand at finite places. -/
def Placed [Scalar α] (g : Graph α) : Prop := ∀ n ∈ g.nodes, n.position.isFinite = true

end Places

variable {g : Graph Exact}

theorem finite_seats {s : Scatter} {entries : List Json} {ids : List String} {n : Node Exact}
    (hn : n ∈ Content.declared s entries ++
      ids.mapIdx fun k id => Node.stub id (s.point (Content.draws Exact entries + k))) :
    n.position.isFinite = true := by
  obtain ⟨seats, hseats, hstands, -⟩ := Content.exists_seats (α := Exact) s entries ids
  rw [← hseats] at hn
  obtain ⟨⟨m, turn⟩, hseat, rfl⟩ := List.mem_map.mp hn
  have hplace : Content.Stands s entries m turn := hstands _ hseat
  cases turn with
  | some k =>
    rw [show m.position = s.point k from hplace]
    exact s.finite_point k
  | none =>
    obtain ⟨i, e, p, -, -, hp, hnode⟩ := hplace
    show m.position.isFinite = true
    rw [hnode]
    exact hp

theorem placed_read (raw : Json) (s : Scatter) : ((read raw s).1 : Graph Exact).Placed := by
  intro n hn
  have hnodes : n ∈ (Content.read raw s : Content Exact × Scatter).1.nodes :=
    List.mem_toArray.mp hn
  rw [Content.read_eq] at hnodes
  exact finite_seats hnodes

theorem Placed.ofGraph (hg : g.Placed) : (Holding.ofGraph g).graph.Placed := by
  unfold Holding.ofGraph
  cases g.hub? with
  | none => exact hg
  | some i =>
    have horigin : (Point.origin : Point Exact).isFinite = true :=
      Point.isFinite_iff.mpr ⟨isFinite_real _, isFinite_real _⟩
    exact forall_mem_modify (f := fun n => n.holdAt Point.origin) hg i fun _ _ => horigin

theorem Placed.finite_places (hg : g.Placed) : ∀ p ∈ g.places, p.isFinite = true := by
  intro p hp
  obtain ⟨n, hn, rfl⟩ := List.mem_map.mp hp
  exact hg n (Array.mem_toList_iff.mp hn)

end Graph

theorem Viewport.OnCanvas.fitted {v : Viewport Exact} (hv : v.OnCanvas) {g : Graph Exact}
    (hg : g.Placed) (hsize : 0 < g.size) :
    ∃ b, g.bounds? = some b ∧ b.Tight g.places ∧ (v.fit g.bounds?).Fitted b g.places := by
  obtain ⟨b, hb⟩ := Graph.exists_bounds? hsize
  have htight : b.Tight g.places := Bounds.tight_ofPoints? hg.finite_places hb
  refine ⟨b, hb, htight, ?_⟩
  rw [hb]
  exact Viewport.fitted_fit hv htight hg.finite_places

/-! ## The canvas -/

namespace Simulation

variable {s : Simulation Exact}

/-- The sizes that an operation gives to the canvas are finite. -/
def Sized : Operation Exact → Prop
  | .resize width height _ => Scalar.isFinite width = true ∧ Scalar.isFinite height = true
  | _ => True

theorem onCanvas_apply (hs : s.viewport.OnCanvas) {op : Operation Exact} (hop : Sized op) :
    (s.apply op).viewport.OnCanvas := by
  obtain ⟨moves, hmoves, hviewport⟩ := s.exists_moves_apply op
  rw [hviewport]
  refine hs.run fun m hm => ?_
  cases m with
  | resize width height ratio =>
    have hresize : op = .resize width height ratio := hmoves _ hm
    rw [hresize] at hop
    exact hop
  | zoomAt | wheel | panFrom | fit | animateTo | advance => trivial

/-- A canvas of finite size, given finite sizes alone, stays one. -/
theorem onCanvas_run (settings : Settings Exact) {width height : Exact}
    (hwidth : Scalar.isFinite width = true) (hheight : Scalar.isFinite height = true)
    (ratio : Exact) {ops : List (Operation Exact)} (hops : ∀ op ∈ ops, Sized op) :
    ((new settings width height ratio).run ops).viewport.OnCanvas :=
  run_keeps (P := fun s => s.viewport.OnCanvas)
    (fun _ op hop hs => onCanvas_apply hs (hops op hop))
    (Viewport.onCanvas_new settings.viewport hwidth hheight ratio)

/-! ## Main result -/

theorem placed_load (s : Simulation Exact) (raw : Json) : (s.load raw).graph.Placed := by
  rw [show (s.load raw).graph = _ from congrArg Holding.graph (holding_load s raw)]
  exact (Graph.placed_read raw s.scatter).ofGraph

/-- The view is fitted to the smallest box around the nodes. -/
def Framed (s : Simulation Exact) : Prop :=
  ∃ b, s.graph.bounds? = some b ∧ b.Tight s.graph.places ∧ s.viewport.Fitted b s.graph.places

theorem framed_apply (hs : s.viewport.OnCanvas) {op : Operation Exact}
    (hop : op.loads = true ∨ op = .fit ∧ s.graph.Placed)
    (hsize : 0 < (s.apply op).graph.size) : (s.apply op).Framed := by
  rcases hop with hloads | ⟨rfl, hplaced⟩
  · obtain ⟨raw, hraw⟩ := apply_of_loads hloads
    have hload : s.apply op = s.load raw := hraw s
    have hgraph : (s.load raw).graph = (Holding.ofGraph (Graph.read raw s.scatter).1).graph :=
      congrArg Holding.graph (holding_load s raw)
    have hsize' : 0 < (s.load raw).graph.size := by
      rw [← hload]
      exact hsize
    rw [hload, Framed, viewport_load, ← hgraph]
    exact hs.fitted (placed_load s raw) hsize'
  · exact hs.fitted hplaced hsize

/-- After a load, and after a fit of nodes at finite places: if there are nodes, the middle of the
smallest box around them is in the middle of the canvas and nothing moves the view. If the padding
leaves some of the canvas, every node is off each edge by at least half the padding, at a zoom
within the upper limits; if the box measures at least one by one, no view that also has its middle
in the middle of the canvas has a larger one. If it leaves nothing, the zoom is the lower limit.
This is so on any canvas of finite size, with its ratio and limits in their ranges, and so whatever
was done before while the canvas was given finite sizes. -/
theorem fitted_apply {op : Operation Exact} :
    (∀ s : Simulation Exact, s.viewport.OnCanvas →
      (op.loads = true ∨ op = .fit ∧ s.graph.Placed) → 0 < (s.apply op).graph.size →
      (s.apply op).Framed) ∧
    ∀ (settings : Settings Exact) (width height ratio : Exact) (ops : List (Operation Exact)),
      Scalar.isFinite width = true → Scalar.isFinite height = true → (∀ o ∈ ops, Sized o) →
      let s := (new settings width height ratio).run ops
      (op.loads = true ∨ op = .fit ∧ s.graph.Placed) → 0 < (s.apply op).graph.size →
        (s.apply op).Framed := by
  refine ⟨fun s hs => framed_apply hs, ?_⟩
  intro settings width height ratio ops hwidth hheight hops s
  exact framed_apply (onCanvas_run settings hwidth hheight ratio hops)

/-- Nothing loaded, on a canvas of 800 by 600 pixels. -/
noncomputable def blank : Simulation Exact := new Settings.standard 800 600 1

theorem onCanvas_blank : blank.viewport.OnCanvas :=
  Viewport.onCanvas_new _ (isFinite_real _) (isFinite_real _) 1

/-- A load, after which the canvas becomes smaller. -/
noncomputable def shrinking : List (Operation Exact) := [.load pairRecord, .resize 640 480 2]

theorem fitted_apply_pairRecord :
    let loaded := blank.apply (.load pairRecord)
    let s := blank.run shrinking
    0 < loaded.graph.size ∧ loaded.Framed ∧ (∀ o ∈ shrinking, Sized o) ∧ s.graph.Placed ∧
      0 < (s.apply .fit).graph.size ∧ (s.apply .fit).Framed := by
  intro loaded s
  have hloaded : loaded.graph.size = 2 := rfl
  have hnonempty : 0 < loaded.graph.size := by omega
  have hsized : ∀ o ∈ shrinking, Sized o :=
    List.forall_mem_cons.mpr ⟨trivial,
      List.forall_mem_singleton.mpr ⟨isFinite_real _, isFinite_real _⟩⟩
  have hplaced : s.graph.Placed := placed_load blank pairRecord
  have hfit : 0 < (s.apply .fit).graph.size := hnonempty
  exact ⟨hnonempty, fitted_apply.1 blank onCanvas_blank (.inl rfl) hnonempty, hsized, hplaced, hfit,
    fitted_apply.2 Settings.standard 800 600 1 shrinking (isFinite_real _) (isFinite_real _) hsized
      (.inr ⟨rfl, hplaced⟩) hfit⟩

end Simulation
end NodeLink
