import NodeLink.Panel
import NodeLink.Proofs.Simulation.Pins
/-!
# How long a panel is right

A panel is made of what a graph says of a node. While nodes move, are held and dropped all of it
stays, until the pin of that node is changed or another graph is loaded.

* `Node.face`: what panels show of a node, but for its pin.
* `faces_apply`: only a load changes the faces.
* `Panel.Fits`: the panel is that of its node in a graph.
* `Panel.Fits.apply`: which operations leave a panel right.
-/

namespace NodeLink

/-! ## Faces -/

namespace Node

variable {α : Type} [Scalar α]

/-- The node with its place, its velocity, its fix and its pin left out. -/
def face (n : Node α) : Node α := { n.still with fixed := none, pinned := false }

variable {m n : Node α}

/-- What is read off the face of a node is the same for nodes of one face. -/
theorem eq_of_face {β : Type} {f : Node α → β} (hf : ∀ n, f n.face = f n) (h : m.face = n.face) :
    f m = f n := by
  rw [← hf m, h, hf n]

end Node

namespace Graph

variable {α : Type} [Scalar α]

def faces (g : Graph α) : Array (Node α) := g.nodes.map Node.face

theorem faces_modifyAt (g : Graph α) (i : Nat) {f : Node α → Node α}
    (hf : ∀ n, (f n).face = n.face) : (g.modifyAt i f).faces = g.faces :=
  map_modify g.nodes i hf

theorem faces_modify (g : Graph α) (id : String) {f : Node α → Node α}
    (hf : ∀ n, (f n).face = n.face) : (g.modify id f).faces = g.faces := by
  unfold modify
  split
  · exact faces_modifyAt g _ hf
  · rfl

variable {g h : Graph α}

theorem face_of_faces (hf : h.faces = g.faces) (i : Nat) :
    (h.nodes[i]?).map Node.face = (g.nodes[i]?).map Node.face := by
  rw [← Array.getElem?_map, ← Array.getElem?_map]
  exact congrArg (·[i]?) hf

end Graph

theorem Physics.step_faces {α : Type} [Scalar α] (ph : Physics α) (g : Graph α) :
    (ph.step g).2.faces = g.faces := by
  have hface (n : Node α) : n.still.face = n.face := rfl
  have hstill : (ph.step g).2.nodes.map Node.still = g.nodes.map Node.still := step_still ph g
  have hfaces := congrArg (Array.map Node.face) hstill
  rw [Array.map_map, Array.map_map, show Node.face ∘ Node.still = Node.face from funext hface]
    at hfaces
  exact hfaces

namespace Simulation

variable {α : Type} [Scalar α]

theorem faces_releaseUnpinned (s : Simulation α) (id : String) :
    (s.releaseUnpinned id).graph.faces = s.graph.faces := by
  refine Graph.faces_modify _ _ fun n => ?_
  split
  · rfl
  · rfl

theorem faces_endDrag (s : Simulation α) : s.endDrag.graph.faces = s.graph.faces := by
  unfold endDrag
  split
  · rfl
  · exact faces_releaseUnpinned _ _

theorem faces_beginDrag (s : Simulation α) (i : Nat) :
    (s.beginDrag i).1.graph.faces = s.graph.faces := by
  unfold beginDrag
  dsimp only
  split
  · exact faces_endDrag s
  · have hhold : (s.endDrag.graph.modifyAt i fun n => n.holdAt n.position).faces =
        s.endDrag.graph.faces := Graph.faces_modifyAt _ _ fun _ => rfl
    exact hhold.trans (faces_endDrag s)

theorem faces_dragTo (s : Simulation α) (place : Point α) :
    (s.dragTo place).1.graph.faces = s.graph.faces := by
  unfold dragTo
  split
  · rfl
  · split
    · exact Graph.faces_modify _ _ fun _ => rfl
    · rfl

theorem faces_togglePin (s : Simulation α) (id : String) :
    (s.togglePin id).1.graph.faces = s.graph.faces := by
  unfold togglePin
  split
  · rfl
  · refine Graph.faces_modify _ _ fun n => ?_
    dsimp only
    split
    · rfl
    · split
      · rfl
      · rfl

theorem faces_tick (s : Simulation α) : s.tick.graph.faces = s.graph.faces := by
  have hforces : s.stepForces.graph.faces = s.graph.faces := by
    unfold stepForces
    split
    · exact Physics.step_faces _ _
    · rfl
  have hhub : s.stepForces.releaseHub.graph.faces = s.stepForces.graph.faces := by
    unfold releaseHub
    split
    · rfl
    · dsimp only
      split
      · rfl
      · split
        · rfl
        · exact faces_releaseUnpinned _ _
  exact hhub.trans hforces

theorem faces_apply (s : Simulation α) {op : Operation α} (hop : op.loads = false) :
    (s.apply op).graph.faces = s.graph.faces := by
  cases s.effect op with
  | keeps _ _ hholding => rw [graph_of_holding hholding]
  | loads hloads => exact absurd (hop.symm.trans hloads) Bool.false_ne_true
  | tick => exact faces_tick s
  | togglePin id => exact faces_togglePin s id
  | beginDrag i => exact faces_beginDrag s i
  | dragTo place => exact faces_dragTo s place
  | endDrag => exact faces_endDrag s

end Simulation

/-! ## Panels -/

namespace Panel

variable {α : Type} {g h : Graph α} {d : Panel}

/-- The panel is that of its node in the graph, with the node's own details or others. -/
def Fits (d : Panel) (g : Graph α) : Prop :=
  ∃ i extra, g.indexOf? d.id = some i ∧ of? g i extra = some d

/-- A node that is looked up by its id has a panel, and the panel fits. -/
theorem exists_of? (hg : g.Indexed) {id : String} {i : Nat} (hi : g.indexOf? id = some i)
    (extra : Option Json) : ∃ d, of? g i extra = some d ∧ d.id = id ∧ d.Fits g := by
  obtain ⟨n, hn, hid⟩ := Option.map_eq_some_iff.mp ((hg id i).mp hi)
  have hof : ∃ d, of? g i extra = some d ∧ d.id = n.id := by
    rw [of?, hn]
    exact ⟨_, rfl, rfl⟩
  obtain ⟨d, hd, hdid⟩ := hof
  have hindex : g.indexOf? d.id = some i := by rw [hdid, hid, hi]
  exact ⟨d, hd, hdid.trans hid, i, extra, hindex, hd⟩

/-- A panel that fits says what is the case: whether its node is pinned, the degree of the node, and
its neighbours as far as panels list them. -/
theorem Fits.says (hd : d.Fits g) : ∃ i n, g.indexOf? d.id = some i ∧ g.nodes[i]? = some n ∧
    n.id = d.id ∧ d.pinned = n.pinned ∧ d.degree = g.degree i ∧
    d.neighbors = (nodesAt g ((g.neighbors i).take neighborLimit)).map neighborOf := by
  obtain ⟨i, extra, hi, hof⟩ := hd
  obtain ⟨n, hn, rfl⟩ := Option.map_eq_some_iff.mp hof
  exact ⟨i, n, hi, hn, rfl, rfl, rfl, rfl⟩

variable [Scalar α]

/-! ## Panels of equal faces -/

theorem map_nodesAt {β : Type} {f : Node α → β} (hf : ∀ n, f n.face = f n)
    (hfaces : h.faces = g.faces) (is : List Nat) :
    (nodesAt h is).map f = (nodesAt g is).map f := by
  have hnode (i : Nat) : (h.nodes[i]?).map f = (g.nodes[i]?).map f := by
    have hface := congrArg (Option.map f) (Graph.face_of_faces hfaces i)
    rw [Option.map_map, Option.map_map, show f ∘ Node.face = f from funext hf] at hface
    exact hface
  rw [nodesAt, nodesAt, List.map_filterMap, List.map_filterMap]
  exact congrArg (fun read => is.filterMap read) (funext hnode)

theorem find_nodesAt (hfaces : h.faces = g.faces) (is : List Nat) :
    ((nodesAt h is).find? isDirectory).map Node.face =
      ((nodesAt g is).find? isDirectory).map Node.face := by
  have hnodes := map_nodesAt (f := Node.face) (fun _ => rfl) hfaces is
  have hfind := congrArg (fun ns : List (Node α) => ns.find? isDirectory) hnodes
  simp only [List.find?_map] at hfind
  exact hfind

theorem crumbOf_congr (hties : h.ties = g.ties) (hfaces : h.faces = g.faces) (i : Nat) :
    crumbOf h i = crumbOf g i := by
  have hpredecessors : h.predecessors i = g.predecessors i := by
    rw [Graph.predecessors, Graph.tiesAt, hties, ← Graph.tiesAt, ← Graph.predecessors]
  have hfind := find_nodesAt hfaces (g.predecessors i)
  rw [crumbOf, crumbOf, hpredecessors]
  generalize (nodesAt h (g.predecessors i)).find? isDirectory = found at hfind ⊢
  generalize (nodesAt g (g.predecessors i)).find? isDirectory = found' at hfind ⊢
  cases found with
  | none =>
    cases found' with
    | none => rfl
    | some n => exact absurd hfind.symm (Option.some_ne_none _)
  | some m =>
    cases found' with
    | none => exact absurd hfind (Option.some_ne_none _)
    | some n =>
      have hface : m.face = n.face := Option.some.inj hfind
      have hid : m.id = n.id := Node.eq_of_face (fun _ => rfl) hface
      have hlabel : m.label = n.label := Node.eq_of_face (fun _ => rfl) hface
      dsimp only
      rw [hid, hlabel]

/-- The panel at an index depends on the ids and the links, on the faces, and on the pin there. -/
theorem of?_congr (hshape : h.shape = g.shape) (hfaces : h.faces = g.faces) {i : Nat}
    (hpin : (h.nodes[i]?).map Node.pinned = (g.nodes[i]?).map Node.pinned) (extra : Option Json) :
    of? h i extra = of? g i extra := by
  have hties : h.ties = g.ties := congrArg Shape.ties hshape
  have hat : h.tiesAt i = g.tiesAt i := by rw [Graph.tiesAt, Graph.tiesAt, hties]
  have hdegree : h.degree i = g.degree i := congrArg Ties.degree hat
  have hneighbors : h.neighbors i = g.neighbors i := congrArg Ties.neighbors hat
  have hlisted := map_nodesAt (f := neighborOf) (fun _ => rfl) hfaces
    ((g.neighbors i).take neighborLimit)
  have hface := Graph.face_of_faces hfaces i
  rw [of?, of?]
  cases hm : h.nodes[i]? with
  | none =>
    rw [hm] at hface
    rw [Option.map_eq_none_iff.mp hface.symm]
    rfl
  | some m =>
    cases hn : g.nodes[i]? with
    | none =>
      rw [hm, hn] at hface
      exact absurd hface (Option.some_ne_none _)
    | some n =>
      rw [hm, hn] at hface hpin
      have hnode : m.face = n.face := Option.some.inj hface
      have hpinned : m.pinned = n.pinned := Option.some.inj hpin
      have hid : m.id = n.id := Node.eq_of_face (fun _ => rfl) hnode
      have htitle : m.title = n.title := Node.eq_of_face (fun _ => rfl) hnode
      have hsubtitle : m.subtitle = n.subtitle := Node.eq_of_face (fun _ => rfl) hnode
      have hdetails : m.details = n.details := Node.eq_of_face (fun _ => rfl) hnode
      have hbody (details : Json) : bodyOf h i m details = bodyOf g i n details := by
        have hself : bodyOf g i m details = bodyOf g i n details :=
          Node.eq_of_face (f := fun n => bodyOf g i n details) (fun _ => rfl) hnode
        rw [← hself, bodyOf, bodyOf, hdegree, Graph.successors, Graph.predecessors, hat,
          ← Graph.successors, ← Graph.predecessors]
      simp only [Option.map_some, hid, htitle, hsubtitle, hdegree, hpinned, hneighbors, hlisted,
        hdetails, hbody, crumbOf_congr hties hfaces i]

theorem Fits.of_faces (hd : d.Fits g) (hshape : h.shape = g.shape) (hfaces : h.faces = g.faces)
    (hpin : h.isPinned d.id = g.isPinned d.id) : d.Fits h := by
  obtain ⟨i, extra, hi, hof⟩ := hd
  have hi' : h.indexOf? d.id = some i := (Graph.indexOf?_of_shape hshape d.id).trans hi
  obtain ⟨n, hn, -⟩ := Option.map_eq_some_iff.mp hof
  have hface := Graph.face_of_faces hfaces i
  rw [hn, Option.map_some] at hface
  obtain ⟨m, hm, -⟩ := Option.map_eq_some_iff.mp hface
  have hpinned : m.pinned = n.pinned := by
    rw [Graph.isPinned, Graph.node?, hi', Option.bind_some, hm, Graph.isPinned, Graph.node?, hi,
      Option.bind_some, hn] at hpin
    exact hpin
  refine ⟨i, extra, hi', (of?_congr hshape hfaces ?_ extra).trans hof⟩
  rw [hm, hn, Option.map_some, Option.map_some, hpinned]

/-- A panel stays right unless a graph is loaded or the pin of its node is changed. -/
theorem Fits.apply {s : Simulation α} (hs : s.graph.Indexed) (hd : d.Fits s.graph)
    {op : Operation α} (hload : op.loads = false) (hpin : op ≠ .togglePin d.id) :
    d.Fits (s.apply op).graph :=
  hd.of_faces (s.shape_apply hload) (s.faces_apply hload) (Simulation.isPinned_apply hs hload hpin)

end Panel
end NodeLink
