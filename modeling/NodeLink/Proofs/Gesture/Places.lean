import NodeLink.Proofs.Gesture.Coupling
/-!
# Where nodes stay

What is dragged is fixed, and only a drag moves the fix: the forces put the node back to it, the end
of the hub's hold passes over it, and a pin is set where the node stands. What is not dragged stays
in its place until the forces move it.

* `Node.HeldAt`, `Graph.fixOf?`, `Graph.placeOf?`: where a node is held and where it stands.
* `Simulation.fixOf?_apply`: until the drag moves on, nothing changes the fix of what is dragged.
* `Simulation.placeOf?_apply`: what is not dragged is moved by the forces or a load alone.
-/

namespace NodeLink

/-- The node is fixed at a place and stands still there. -/
structure Node.HeldAt {α : Type} [Scalar α] (n : Node α) (place : Point α) : Prop where
  position : n.position = place
  velocity : n.velocity = Point.origin
  fixed : n.fixed = some place

namespace Graph

variable {α : Type} {g h : Graph α}

/-- Where the node of an id is fixed, if it is. -/
def fixOf? (g : Graph α) (id : String) : Option (Point α) := (g.node? id).bind Node.fixed

def placeOf? (g : Graph α) (id : String) : Option (Point α) := (g.node? id).map Node.position

theorem modifyAt_eq (hg : g.Indexed) {i : Nat} {n : Node α} (hn : g.nodes[i]? = some n)
    (f : Node α → Node α) : g.modifyAt i f = g.modify n.id f := by
  rw [modify, hg.indexOf?_id hn]

/-- Nodes that are the same but for `f` are so under each id. -/
theorem map_node? {β : Type} {f : Node α → β} (hs : h.shape = g.shape)
    (hnodes : h.nodes.map f = g.nodes.map f) (id : String) :
    (h.node? id).map f = (g.node? id).map f := by
  rw [node?, node?, indexOf?_of_shape hs]
  cases g.indexOf? id with
  | none => rfl
  | some i =>
    rw [Option.bind_some, Option.bind_some, ← Array.getElem?_map, ← Array.getElem?_map, hnodes]

theorem fixOf?_modify_of_ne (hg : g.Indexed) {k id : String} (hid : id ≠ k)
    (f : Node α → Node α) : (g.modify k f).fixOf? id = g.fixOf? id := by
  rw [fixOf?, node?_modify hg, if_neg hid]
  rfl

theorem placeOf?_modify_of_ne (hg : g.Indexed) {k id : String} (hid : id ≠ k)
    (f : Node α → Node α) : (g.modify k f).placeOf? id = g.placeOf? id := by
  rw [placeOf?, node?_modify hg, if_neg hid]
  rfl

theorem placeOf?_modify (hg : g.Indexed) (k : String) {f : Node α → Node α}
    (hf : ∀ n, (f n).position = n.position) (id : String) :
    (g.modify k f).placeOf? id = g.placeOf? id := by
  by_cases hid : id = k
  · rw [placeOf?, node?_modify hg, if_pos hid, Option.map_map]
    exact Option.map_congr fun n _ => hf n
  · exact placeOf?_modify_of_ne hg hid f

end Graph

theorem Physics.fixOf?_step {α : Type} [Scalar α] (ph : Physics α) (g : Graph α) (id : String) :
    (ph.step g).2.fixOf? id = g.fixOf? id := by
  have hshape : (ph.step g).2.shape = g.shape := Graph.shape_of_outline (ph.step_outline g)
  have hstill := Graph.map_node? hshape (ph.step_still g) id
  have hfix (n : Option (Node α)) : n.bind Node.fixed = (n.map Node.still).bind Node.fixed := by
    cases n with
    | none => rfl
    | some n => rfl
  rw [Graph.fixOf?, hfix, hstill, ← hfix]
  rfl

namespace Simulation

variable {α : Type} {s : Simulation α} {id : String} {place : Point α}

/-! ## Releases -/

theorem placeOf?_releaseUnpinned (hg : s.graph.Indexed) (k id : String) :
    (s.releaseUnpinned k).graph.placeOf? id = s.graph.placeOf? id := by
  refine Graph.placeOf?_modify hg k (fun n => ?_) id
  split
  · rfl
  · rfl

theorem placeOf?_endDrag (hg : s.graph.Indexed) (id : String) :
    s.endDrag.graph.placeOf? id = s.graph.placeOf? id := by
  unfold endDrag
  split
  · rfl
  · exact placeOf?_releaseUnpinned (s := { s with dragging := none }) hg _ id

theorem placeOf?_releaseHub (hg : s.graph.Indexed) (id : String) :
    s.releaseHub.graph.placeOf? id = s.graph.placeOf? id := by
  unfold releaseHub
  split
  · rfl
  · dsimp only
    split
    · rfl
    · split
      · rfl
      · exact placeOf?_releaseUnpinned (s := { s with hubHold := none }) hg _ id

variable [Scalar α]

/-! ## What is dragged -/

/-- In a sound state what is fixed also stands there. -/
theorem exists_heldAt (hs : s.holding.Sound) (hfix : s.graph.fixOf? id = some place) :
    ∃ n, s.graph.node? id = some n ∧ n.HeldAt place := by
  obtain ⟨n, hn, hfixed⟩ := Option.bind_eq_some_iff.mp hfix
  obtain ⟨i, -, hi⟩ := Option.bind_eq_some_iff.mp hn
  obtain ⟨hposition, hvelocity⟩ := (hs.nodes n (Array.mem_of_getElem? hi)).rests place hfixed
  exact ⟨n, hn, hposition, hvelocity, hfixed⟩

theorem fixOf?_dragTo (hs : s.holding.Sound) (hdrag : s.dragging = some id) (place : Point α) :
    (s.dragTo place).1.graph.fixOf? id = some place := by
  have hnode : s.graph.hasNode id = true := hs.dragged id hdrag
  have hg : s.graph.Indexed := hs.indexed
  obtain ⟨n, hn, hid⟩ := (hg.hasNode_iff id).mp hnode
  obtain ⟨i, hi⟩ := Array.mem_iff_getElem?.mp hn
  have hlookup : s.graph.node? id = some n := hid ▸ hg.node?_id hi
  simp only [dragTo, hdrag, hnode, if_true]
  rw [Graph.fixOf?, Graph.node?_modify hg, if_pos rfl, hlookup]
  rfl

theorem fixOf?_releaseHub (hs : s.holding.Sound) (hdrag : s.dragging = some id) :
    s.releaseHub.graph.fixOf? id = s.graph.fixOf? id := by
  have hg : s.graph.Indexed := hs.indexed
  unfold releaseHub
  split
  · rfl
  · rename_i hold _
    dsimp only
    split
    · rfl
    · split
      · rfl
      · next hother =>
        refine Graph.fixOf?_modify_of_ne hg ?_ _
        rintro rfl
        exact hother hdrag

theorem fixOf?_stepForces (s : Simulation α) (id : String) :
    s.stepForces.graph.fixOf? id = s.graph.fixOf? id := by
  unfold stepForces
  split
  · exact s.physics.fixOf?_step s.graph id
  · rfl

/-- A pin is set where the node stands, and a drag keeps the node fixed when the pin goes. -/
theorem fixOf?_togglePin (hs : s.holding.Sound) (hdrag : s.dragging = some id)
    (hfix : s.graph.fixOf? id = some place) (k : String) :
    (s.togglePin k).1.graph.fixOf? id = some place := by
  have hg : s.graph.Indexed := hs.indexed
  unfold togglePin
  cases hn : s.graph.node? k with
  | none => exact hfix
  | some n =>
    dsimp only [toast, emit]
    by_cases hid : id = k
    · subst hid
      obtain ⟨m, hm, hheld⟩ := exists_heldAt hs hfix
      rw [Graph.fixOf?, Graph.node?_modify hg, if_pos rfl, hm]
      simp only [Option.map_some, Option.bind_some, hdrag]
      split
      · exact congrArg some hheld.position
      · exact hheld.fixed
    · rw [Graph.fixOf?_modify_of_ne hg hid]
      exact hfix

/-- Until the drag moves on or ends, or a graph is loaded, what is dragged stays fixed where it is,
also when the forces act and when the hold of the hub ends. -/
theorem fixOf?_apply (hs : s.holding.Sound) (hdrag : s.dragging = some id)
    (hfix : s.graph.fixOf? id = some place) {op : Operation α} (hload : op.loads = false)
    (hop : op.isDrag = false) : (s.apply op).graph.fixOf? id = some place := by
  cases s.effect op with
  | keeps _ _ hholding =>
    rw [graph_of_holding hholding]
    exact hfix
  | loads hloads => exact absurd (hload.symm.trans hloads) Bool.false_ne_true
  | tick =>
    have hdragged : s.stepForces.dragging = some id :=
      (congrArg Holding.dragging (holding_stepForces s)).trans hdrag
    show s.stepForces.releaseHub.graph.fixOf? id = some place
    rw [fixOf?_releaseHub (sound_stepForces hs) hdragged, fixOf?_stepForces]
    exact hfix
  | togglePin k => exact fixOf?_togglePin hs hdrag hfix k
  | beginDrag | dragTo | endDrag => exact absurd hop.symm Bool.false_ne_true

/-- The end of a drag releases the node, unless it is pinned, and changes nothing else of it. -/
theorem node?_endDrag (hs : s.holding.Sound) (hdrag : s.dragging = some id) :
    s.endDrag.graph.node? id =
      (s.graph.node? id).map fun n => if n.pinned then n else n.release := by
  have hg : s.graph.Indexed := hs.indexed
  rw [endDrag, hdrag]
  dsimp only [releaseUnpinned]
  rw [Graph.node?_modify hg, if_pos rfl]

/-! ## What is not dragged -/

theorem placeOf?_togglePin (hg : s.graph.Indexed) (k id : String) :
    (s.togglePin k).1.graph.placeOf? id = s.graph.placeOf? id := by
  unfold togglePin
  split
  · rfl
  · refine Graph.placeOf?_modify hg k (fun n => ?_) id
    dsimp only
    split
    · rfl
    · split
      · rfl
      · rfl

/-- A node is taken hold of where it stands. -/
theorem placeOf?_beginDrag (hs : s.holding.Sound) (i : Nat) (id : String) :
    (s.beginDrag i).1.graph.placeOf? id = s.graph.placeOf? id := by
  have hend : s.endDrag.graph.placeOf? id = s.graph.placeOf? id := placeOf?_endDrag hs.indexed id
  have hg : s.endDrag.graph.Indexed := (sound_endDrag hs).indexed
  unfold beginDrag
  dsimp only
  split
  · exact hend
  · next n hn =>
    have hplace : (s.endDrag.graph.modifyAt i fun n => n.holdAt n.position).placeOf? id =
        s.endDrag.graph.placeOf? id := by
      rw [Graph.modifyAt_eq hg hn]
      exact Graph.placeOf?_modify hg n.id (f := fun n => n.holdAt n.position) (fun _ => rfl) id
    exact hplace.trans hend

theorem placeOf?_dragTo (hg : s.graph.Indexed) (hdrag : s.dragging ≠ some id) (place : Point α) :
    (s.dragTo place).1.graph.placeOf? id = s.graph.placeOf? id := by
  unfold dragTo
  split
  · rfl
  · next k hk =>
    split
    · refine Graph.placeOf?_modify_of_ne hg ?_ _
      rintro rfl
      exact hdrag hk
    · rfl

theorem placeOf?_apply (hs : s.holding.Sound) (hdrag : s.dragging ≠ some id) {op : Operation α}
    (hload : op.loads = false) (hstill : op.isTick = true → s.running = false) :
    (s.apply op).graph.placeOf? id = s.graph.placeOf? id := by
  have hg : s.graph.Indexed := hs.indexed
  cases s.effect op with
  | keeps _ _ hholding => rw [graph_of_holding hholding]
  | loads hloads => exact absurd (hload.symm.trans hloads) Bool.false_ne_true
  | tick =>
    have hpaused : s.stepForces = s := by
      rw [stepForces, hstill rfl, if_neg Bool.false_ne_true]
    show s.stepForces.releaseHub.graph.placeOf? id = s.graph.placeOf? id
    rw [hpaused, placeOf?_releaseHub hg]
  | togglePin k => exact placeOf?_togglePin hg k id
  | beginDrag i => exact placeOf?_beginDrag hs i id
  | dragTo place => exact placeOf?_dragTo hg hdrag place
  | endDrag => exact placeOf?_endDrag hg id

end Simulation
end NodeLink
