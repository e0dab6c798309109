import NodeLink.Proofs.Graph.Ties
import NodeLink.Proofs.Highlight.Keys
import NodeLink.Proofs.Simulation.Fixes
import NodeLink.Proofs.Simulation.Outlook
/-!
# What a simulation refers to

The state names nodes by their ids and links by the indices of their ends, while the graph is
replaced by every load. In every state that is reached all these names are those of the graph there
is.

* `Anchored`: what is selected, hovered and highlighted is in the graph.
* `anchored_apply`: every operation keeps it.
* `consistent_graph`: what is derived from the nodes and links of a graph stays right.
-/

namespace NodeLink.Simulation

variable {α : Type}

/-! ## What is named -/

variable {s : Simulation α}

/-- The hovered node and the selected one are in the graph, and so is all that the highlight names;
its targets are the hovered node with its neighbours. -/
structure Anchored (s : Simulation α) : Prop where
  closed : s.graph.Closed
  selected : ∀ id, s.selected = some id → s.graph.hasNode id = true
  hovered : s.highlight.hovered = s.hovered
  aims : s.highlight.Aims s.graph.Adjacent
  within : s.highlight.Within fun id => s.graph.hasNode id = true

theorem Anchored.of_shape {s' : Simulation α} (hs : s.Anchored)
    (hshape : s'.graph.shape = s.graph.shape)
    (hhover : (s'.hovered, s'.highlight) = (s.hovered, s.highlight))
    (hselected : ∀ id, s'.selected = some id → s.graph.hasNode id = true) : s'.Anchored := by
  obtain ⟨hhovered, hhighlight⟩ := Prod.mk.inj hhover
  have hknown : s'.graph.hasNode = s.graph.hasNode := funext (Graph.hasNode_of_shape hshape)
  have hadj : s'.graph.Adjacent = s.graph.Adjacent := by
    funext a b
    rw [Graph.Adjacent, Graph.links_of_shape hshape, ← Graph.Adjacent]
  refine ⟨hs.closed.of_shape hshape, ?_, ?_, ?_, ?_⟩
  · rw [hknown]
    exact hselected
  · rw [hhighlight, hhovered]
    exact hs.hovered
  · rw [hhighlight, hadj]
    exact hs.aims
  · rw [hhighlight, hknown]
    exact hs.within

theorem Anchored.of_outlook {s' : Simulation α} (hs : s.Anchored)
    (hshape : s'.graph.shape = s.graph.shape) (houtlook : s'.outlook = s.outlook) :
    s'.Anchored := by
  have hselected : s'.selected = s.selected := congrArg Outlook.selected houtlook
  refine hs.of_shape hshape (congrArg (fun o => (o.hovered, o.highlight)) houtlook) ?_
  rw [hselected]
  exact hs.selected

theorem anchored_deselect (hs : s.Anchored) : s.deselect.Anchored := by
  unfold deselect
  split
  · exact hs.of_shape rfl rfl fun id hid => absurd hid.symm (Option.some_ne_none id)
  · exact hs

theorem anchored_setRunning (hs : s.Anchored) (running : Bool) :
    (s.setRunning running).Anchored := by
  unfold setRunning
  split
  · exact hs
  · exact hs.of_shape rfl rfl hs.selected

variable [Scalar α]

/-! ## The shape of a graph loaded -/

theorem shape_run {ops : List (Operation α)} (hops : ∀ op ∈ ops, op.loads = false) :
    (s.run ops).graph.shape = s.graph.shape :=
  run_keeps (P := fun s' : Simulation α => s'.graph.shape = s.graph.shape)
    (fun s' op hop h => (shape_apply s' (hops op hop)).trans h) rfl

theorem shape_setGraph (s : Simulation α) (g : Graph α) : (s.setGraph g).graph.shape = g.shape := by
  rw [show (s.setGraph g).graph = _ from congrArg Holding.graph (holding_setGraph s g)]
  exact Graph.shape_of_outline (Holding.outline_ofGraph g)

theorem shape_load (s : Simulation α) (raw : Json) :
    (s.load raw).graph.shape = (Graph.read raw s.scatter).1.shape := shape_setGraph _ _

/-! ## Operations -/

theorem anchored_new (settings : Settings α) (width height ratio : α) :
    (new settings width height ratio).Anchored where
  closed := Graph.closed_empty
  selected id hid := absurd hid.symm (Option.some_ne_none id)
  hovered := rfl
  aims := Highlight.aims_of_none rfl rfl
  within := Highlight.within_empty

theorem anchored_load (s : Simulation α) (raw : Json) : (s.load raw).Anchored := by
  have hclosed : (s.load raw).graph.Closed :=
    (Graph.closed_read raw s.scatter).of_shape (shape_load s raw)
  rw [load_eq, setGraph_eq] at hclosed ⊢
  exact ⟨hclosed, fun id hid => absurd hid.symm (Option.some_ne_none id), rfl,
    Highlight.aims_of_none rfl rfl, Highlight.within_empty⟩

theorem anchored_select (hs : s.Anchored) (id : String) : (s.select id).1.Anchored := by
  unfold select
  split
  · rename_i hknown
    refine hs.of_shape rfl rfl fun id' hid' => ?_
    rw [← Option.some.inj hid']
    exact hknown
  · exact hs

theorem anchored_focus (hs : s.Anchored) (id : String) : (s.focus id).1.Anchored := by
  unfold focus
  split
  · exact hs
  · have hselect := anchored_select hs id
    exact hselect.of_shape rfl rfl hselect.selected

theorem anchored_setHover (hs : s.Anchored) (index : Option Nat) :
    (s.setHover index).Anchored := by
  have hat {id : String} (hid : index.bind s.graph.idAt? = some id) :
      ∃ i, index = some i ∧ s.graph.idAt? i = some id := Option.bind_eq_some_iff.mp hid
  have hknown {i : Nat} {id : String} (hi : s.graph.idAt? i = some id) :
      s.graph.hasNode id = true := by
    rw [Graph.hasNode, (hs.closed.built.indexed id i).mpr hi]
    rfl
  refine ⟨hs.closed, hs.selected, Highlight.hovered_setHover _ _ _, ?_, ?_⟩
  · refine hs.aims.setHover fun id hid x => ?_
    obtain ⟨i, rfl, hi⟩ := hat hid
    rw [Option.map_some, Option.getD_some, neighborIds, List.mem_filterMap]
    exact hs.closed.exists_neighbor_iff hi x
  · refine hs.within.setHover (fun id hid => ?_) fun x hx => ?_
    · obtain ⟨i, -, hi⟩ := hat hid
      exact hknown hi
    · cases index with
      | none => exact absurd hx List.not_mem_nil
      | some i =>
        obtain ⟨j, -, hj⟩ := List.mem_filterMap.mp hx
        exact hknown hj

theorem anchored_tick (hs : s.Anchored) : s.tick.Anchored := by
  have hout := outlook_tick s
  have hhovered : s.tick.hovered = s.hovered := congrArg Outlook.hovered hout
  have hselected : s.tick.selected = s.selected := congrArg Outlook.selected hout
  have hhighlight : s.tick.highlight = s.highlight.tick frameTime :=
    congrArg Outlook.highlight hout
  -- the forces move the nodes of the same graph, in which time then passes for the highlight
  have hpassed : { s with highlight := s.highlight.tick frameTime }.Anchored :=
    ⟨hs.closed, hs.selected, hs.hovered, hs.aims, hs.within.tick frameTime⟩
  refine hpassed.of_shape (Graph.shape_of_outline (graph_of_outline (outline_tick s))) ?_ ?_
  · rw [hhovered, hhighlight]
  · rw [hselected]
    exact hs.selected

theorem anchored_apply (hs : s.Anchored) (op : Operation α) : (s.apply op).Anchored := by
  cases hl : op.loads with
  | true =>
    obtain ⟨raw, hraw⟩ := apply_of_loads hl
    rw [hraw]
    exact anchored_load s raw
  | false =>
    have hshape := shape_apply s hl
    cases op with
    | load raw => exact absurd hl.symm Bool.false_ne_true
    | loadText text => rwa [apply_loadText hl]
    | tick => exact anchored_tick hs
    | setHover index => exact anchored_setHover hs index
    | select id => exact anchored_select hs id
    | deselect => exact anchored_deselect hs
    | focus id => exact anchored_focus hs id
    | setRunning running => exact anchored_setRunning hs running
    | toggleRunning => exact anchored_setRunning hs _
    | togglePin id => exact hs.of_outlook hshape (outlook_togglePin s id)
    | beginDrag i => exact hs.of_outlook hshape (outlook_beginDrag s i)
    | dragTo place => exact hs.of_outlook hshape (outlook_dragTo s place)
    | endDrag => exact hs.of_outlook hshape (outlook_endDrag s)
    | resize | fit | reheat | toast | drain => exact hs.of_shape rfl rfl hs.selected

theorem Reachable.anchored (hs : s.Reachable) : s.Anchored :=
  Reachable.induction (P := fun s : Simulation α => s.Anchored) anchored_new
    (fun _ op h => anchored_apply h op) hs

/-! ## Main results -/

/-- In every state that is reached, whatever is hovered, selected, dragged or held is a node of the
graph, so that neither a drag nor the end of the hub's hold ever misses its node; the highlight
follows the hover, aims at the hovered node and its neighbours, and names nodes of the graph only. -/
theorem Reachable.no_dangling (hs : s.Reachable) :
    (∀ id, (s.hovered = some id ∨ s.selected = some id ∨ s.dragging = some id ∨
      ∃ hold, s.hubHold = some hold ∧ hold.id = id) → ∃ n ∈ s.graph.nodes, n.id = id) ∧
    (∀ place, (s.dragTo place).2 = s.dragging.isSome) ∧
    (∀ hold, s.stepForces.hubHold = some hold → s.stepForces.graph.hasNode hold.id = true) ∧
    s.highlight.hovered = s.hovered ∧
    (∀ x, x ∈ s.highlight.targets ↔
      ∃ id, s.hovered = some id ∧ (x = id ∨ s.graph.Adjacent id x)) ∧
    (∀ id, (id ∈ Highlight.keys s.highlight.nodeIntensity ∨
      id ∈ Highlight.keys s.highlight.hoverIntensity ∨
      id ∈ Highlight.keys s.highlight.holdTimer) → ∃ n ∈ s.graph.nodes, n.id = id) := by
  have hanchored := hs.anchored
  have hsound := hs.sound
  have hnode {id : String} (hid : s.graph.hasNode id = true) : ∃ n ∈ s.graph.nodes, n.id = id :=
    (hs.indexed.hasNode_iff id).mp hid
  refine ⟨fun id hid => hnode ?_, fun place => ?_, fun hold hhold => ?_, hanchored.hovered, ?_,
    fun id hid => hnode ?_⟩
  · rcases hid with hhover | hselect | hdrag | ⟨hold, hhold, rfl⟩
    · exact hanchored.within.hovered id (hanchored.hovered.trans hhover)
    · exact hanchored.selected id hselect
    · exact hsound.dragged id hdrag
    · exact hsound.hub hold hhold
  · unfold dragTo
    cases hdrag : s.dragging with
    | none => rfl
    | some id =>
      have hknown : s.graph.hasNode id = true := hsound.dragged id hdrag
      simp only [hknown, if_true, Option.isSome_some]
  · exact (sound_stepForces hsound).hub hold hhold
  · intro x
    rw [← hanchored.hovered]
    exact hanchored.aims x
  · rcases hid with hid | hid | hid
    · exact hanchored.within.nodes id hid
    · exact hanchored.within.hovers id hid
    · exact hanchored.within.timers id hid

/-- The pair with one node hovered and the other selected and dragged. -/
def busyPair : Simulation Float := pair.run [.setHover (some 0), .select "B", .beginDrag 1]

theorem no_dangling_busyPair :
    busyPair.Reachable ∧ busyPair.hovered = some "A" ∧ busyPair.selected = some "B" ∧
      busyPair.dragging = some "B" ∧ (∃ n ∈ busyPair.graph.nodes, n.id = "A") ∧
      (∀ place, (busyPair.dragTo place).2 = true) ∧ "B" ∈ busyPair.highlight.targets := by
  have hreach : busyPair.Reachable := reachable_pair.run _
  have hhover : busyPair.hovered = some "A" := by decide +kernel
  have hdrag : busyPair.dragging = some "B" := by decide +kernel
  obtain ⟨hids, hdrags, -, -, htargets, -⟩ := hreach.no_dangling
  refine ⟨hreach, hhover, by decide +kernel, hdrag, hids "A" (Or.inl hhover), fun place => ?_, ?_⟩
  · rw [hdrags place, hdrag, Option.isSome_some]
  · refine (htargets "B").mpr ⟨"A", hhover, Or.inr ⟨⟨"A", "B", 1⟩, ?_, Or.inl ⟨rfl, rfl⟩⟩⟩
    decide +kernel

/-- In a graph that is read, and as long as none is loaded after it, every link has its ends and all
that is derived from the nodes and links is right. In a graph of distinct nodes with any links it is
right for the links whose ends both are nodes. -/
theorem consistent_graph :
    (∀ (raw : Json) (scatter : Scatter), let g : Graph α := (Graph.read raw scatter).1
      g.Consistent g.links ∧
        ∀ k l, g.links[k]? = some l → ∃ i j, g.linkEnds? k = some (i, j) ∧ g.Joins l i j) ∧
    (∀ (s : Simulation α) (raw : Json) (ops : List (Operation α)),
      (∀ op ∈ ops, op.loads = false) → let g := ((s.load raw).run ops).graph
      g.shape = (Graph.read raw s.scatter).1.shape ∧ g.Consistent g.links ∧
        ∀ k l, g.links[k]? = some l → ∃ i j, g.linkEnds? k = some (i, j) ∧ g.Joins l i j) ∧
    (∀ c : Content α, (c.nodes.map Node.id).Nodup → let g := Graph.ofContent c
      g.links = c.links ∧ g.Consistent g.knownLinks ∧
        ∀ (s : Simulation α) (ops : List (Operation α)), (∀ op ∈ ops, op.loads = false) →
          let g' := ((s.setGraph g).run ops).graph
          g'.shape = g.shape ∧ g'.Consistent g'.knownLinks) := by
  refine ⟨fun raw scatter => ?_, fun s raw ops hops => ?_, fun c hdistinct => ?_⟩
  · have hclosed : (Graph.read raw scatter).1.Closed := Graph.closed_read (α := α) raw scatter
    exact ⟨hclosed.consistent, fun k l hl => hclosed.exists_linkEnds? hl⟩
  · have hshape := (shape_run (s := s.load raw) hops).trans (shape_load s raw)
    have hclosed := (Graph.closed_read raw s.scatter).of_shape hshape
    exact ⟨hshape, hclosed.consistent, fun k l hl => hclosed.exists_linkEnds? hl⟩
  · have hbuilt : (Graph.ofContent c).Built := Graph.built_ofContent hdistinct
    refine ⟨rfl, hbuilt.consistent, fun s ops hops => ?_⟩
    have hshape := (shape_run (s := s.setGraph (Graph.ofContent c)) hops).trans (shape_setGraph _ _)
    exact ⟨hshape, (hbuilt.of_shape hshape).consistent⟩

/-- Two nodes with a loop, two links one way and one back, and a link to no node. -/
def tangle : Content Float where
  nodes := [Node.stub "A" ⟨0, 0⟩, Node.stub "B" ⟨30, 0⟩]
  links := [⟨"A", "A", 1⟩, ⟨"A", "B", 1⟩, ⟨"A", "B", 1⟩, ⟨"B", "A", 1⟩, ⟨"B", "C", 1⟩]

/-- The pair loaded again, after which a node is dragged between two frames. -/
def reloadedPair : Simulation Float := (pair.load pairRecord).run [.tick, .beginDrag 1, .tick]

theorem consistent_graph_tangle :
    (Graph.ofContent tangle).knownLinks = tangle.links.take 4 ∧
      (Graph.ofContent tangle).degree 0 = 5 ∧ (Graph.ofContent tangle).degree 1 = 3 ∧
      (Graph.ofContent tangle).hub? = some 0 ∧
      (Graph.ofContent tangle).Consistent (Graph.ofContent tangle).knownLinks ∧
      reloadedPair.graph.Consistent reloadedPair.graph.links := by
  have hops : ∀ op ∈ [.tick, .beginDrag 1, (.tick : Operation Float)], op.loads = false :=
    List.forall_mem_cons.mpr ⟨rfl, List.forall_mem_cons.mpr ⟨rfl, List.forall_mem_singleton.mpr rfl⟩⟩
  obtain ⟨-, hread, hcontent⟩ := consistent_graph (α := Float)
  exact ⟨by decide +kernel, by decide +kernel, by decide +kernel, by decide +kernel,
    (hcontent tangle (by decide)).2.1, (hread pair pairRecord _ hops).2.1⟩

end NodeLink.Simulation
