import NodeLink.Proofs.Force.Frame
import NodeLink.Scalar.Binary
import NodeLink.Simulation.Operation
/-!
# Runs of a simulation

What one operation can do to the graph and to the nodes that are held, said once. Most operations
do nothing to them; the others load a graph, let a frame pass, or pin, drag and drop a node.

* `Simulation.effect`: an operation keeps the holding, or is of one of six kinds.
* `shape_apply`: only a load changes the shape of the graph.
* `Reachable.induction`: what operations keep holds in every state that is reached.
-/

namespace NodeLink

namespace Operation

variable {α : Type}

/-- Whether a graph is loaded: a text that is no record is not. -/
def loads : Operation α → Bool
  | .load _ => true
  | .loadText text => (Json.parse? text).any Json.isObject
  | _ => false

def isTick : Operation α → Bool
  | .tick => true
  | _ => false

def ticks (ops : List (Operation α)) : Nat := ops.countP isTick

end Operation

/-- The graph with the nodes that are held in it. -/
structure Holding (α : Type) where
  graph : Graph α
  dragging : Option String
  hubHold : Option HubHold

namespace Holding

variable {α : Type} [Scalar α]

/-- What is held in a graph just loaded: its hub, at the origin. -/
def ofGraph (g : Graph α) : Holding α :=
  match g.hub? with
  | none => ⟨g, none, none⟩
  | some i =>
    ⟨g.modifyAt i fun n => n.holdAt Point.origin, none,
      (g.idAt? i).map fun id => ⟨id, Simulation.hubHoldFrames⟩⟩

theorem dragging_ofGraph (g : Graph α) : (ofGraph g).dragging = none := by
  unfold ofGraph
  split
  · rfl
  · rfl

theorem outline_ofGraph (g : Graph α) : (ofGraph g).graph.outline = g.outline := by
  unfold ofGraph
  split
  · rfl
  · exact Graph.outline_modifyAt _ _ fun _ => ⟨rfl, rfl⟩

end Holding

namespace Simulation

variable {α : Type}

def holding (s : Simulation α) : Holding α := ⟨s.graph, s.dragging, s.hubHold⟩

theorem graph_of_holding {s s' : Simulation α} (h : s'.holding = s.holding) :
    s'.graph = s.graph := congrArg Holding.graph h

theorem dragging_of_holding {s s' : Simulation α} (h : s'.holding = s.holding) :
    s'.dragging = s.dragging := congrArg Holding.dragging h

theorem hubHold_of_holding {s s' : Simulation α} (h : s'.holding = s.holding) :
    s'.hubHold = s.hubHold := congrArg Holding.hubHold h

/-! ## What stays while nodes are moved, held and dropped -/

/-- The outline of the graph, and what the events tell of besides. -/
def outline (s : Simulation α) : (Shape α × Array Bool) × List Event × Option String × Bool :=
  (s.graph.outline, s.events, s.selected, s.running)

theorem graph_of_outline {s s' : Simulation α} (h : s'.outline = s.outline) :
    s'.graph.outline = s.graph.outline := congrArg Prod.fst h

theorem outline_of_graph {s s' : Simulation α} (hgraph : s'.graph.outline = s.graph.outline)
    (hrest : (s'.events, s'.selected, s'.running) = (s.events, s.selected, s.running)) :
    s'.outline = s.outline := by
  rw [outline, outline, hgraph, hrest]

theorem outline_releaseUnpinned (s : Simulation α) (id : String) :
    (s.releaseUnpinned id).outline = s.outline := by
  refine outline_of_graph (Graph.outline_modify _ _ fun n => ?_) rfl
  split
  · exact ⟨rfl, rfl⟩
  · exact ⟨rfl, rfl⟩

theorem outline_endDrag (s : Simulation α) : s.endDrag.outline = s.outline := by
  unfold endDrag
  split
  · rfl
  · exact outline_releaseUnpinned _ _

theorem outline_releaseHub (s : Simulation α) : s.releaseHub.outline = s.outline := by
  unfold releaseHub
  split
  · rfl
  · dsimp only
    split
    · rfl
    · split
      · rfl
      · exact outline_releaseUnpinned _ _

/-! ## What is held -/

theorem holding_endDrag (s : Simulation α) :
    s.endDrag.holding = ⟨s.endDrag.graph, none, s.hubHold⟩ := by
  unfold endDrag
  split
  · rename_i hnone
    rw [holding, hnone]
  · rfl

theorem dragging_endDrag (s : Simulation α) : s.endDrag.dragging = none :=
  congrArg Holding.dragging (holding_endDrag s)

theorem holding_deselect (s : Simulation α) : s.deselect.holding = s.holding := by
  unfold deselect
  split
  · rfl
  · rfl

theorem holding_setRunning (s : Simulation α) (running : Bool) :
    (s.setRunning running).holding = s.holding := by
  unfold setRunning
  split
  · rfl
  · rfl

variable [Scalar α]

theorem holding_select (s : Simulation α) (id : String) : (s.select id).1.holding = s.holding := by
  unfold select
  split
  · rfl
  · rfl

theorem holding_focus (s : Simulation α) (id : String) : (s.focus id).1.holding = s.holding := by
  unfold focus
  split
  · rfl
  · exact holding_select s id

theorem holding_setHover (s : Simulation α) (index : Option Nat) :
    (s.setHover index).holding = s.holding := rfl

theorem holding_beginDrag (s : Simulation α) (i : Nat) :
    (s.beginDrag i).1.holding = ⟨(s.beginDrag i).1.graph, (s.beginDrag i).2, s.hubHold⟩ := by
  have hhub : s.endDrag.hubHold = s.hubHold := congrArg Holding.hubHold (holding_endDrag s)
  unfold beginDrag
  dsimp only
  split
  · exact holding_endDrag s
  · simp only [holding, reheat, hhub]

theorem holding_togglePin (s : Simulation α) (id : String) :
    (s.togglePin id).1.holding = ⟨(s.togglePin id).1.graph, s.dragging, s.hubHold⟩ := by
  unfold togglePin
  split
  · rfl
  · rfl

theorem holding_stepForces (s : Simulation α) :
    s.stepForces.holding = ⟨s.stepForces.graph, s.dragging, s.hubHold⟩ := by
  unfold stepForces
  split
  · rfl
  · rfl

/-! ## Loading -/

theorem holdHub_eq (s : Simulation α) :
    s.holdHub = { s with
      graph := (Holding.ofGraph s.graph).graph
      hubHold := (Holding.ofGraph s.graph).hubHold } := by
  unfold holdHub Holding.ofGraph
  cases s.graph.hub? with
  | none => rfl
  | some i => rfl

/-- A load leaves of the old state only the parameters, the canvas, whether the layout runs, and the
events, and queues its own. -/
theorem setGraph_eq (s : Simulation α) (g : Graph α) :
    let loaded := Holding.ofGraph g
    let nodes := loaded.graph.size
    let links := loaded.graph.links.length
    s.setGraph g = { s with
      graph := loaded.graph
      physics := s.physics.reheat
      viewport := s.viewport.fit loaded.graph.bounds?
      highlight := {}
      hovered := none
      selected := none
      dragging := none
      hubHold := loaded.hubHold
      events := s.deselect.events ++
        [.loaded nodes links] ++ [.toast (loadedMessage nodes links)] } := by
  have hdeselect : { s with graph := g }.deselect =
      { s with graph := g, selected := none, events := s.deselect.events } := by
    unfold deselect
    cases hs : s.selected with
    | none => rfl
    | some id => rfl
  unfold setGraph
  rw [hdeselect]
  simp only [holdHub_eq, reheat]
  rfl

theorem holding_setGraph (s : Simulation α) (g : Graph α) :
    (s.setGraph g).holding = Holding.ofGraph g := by
  rw [setGraph_eq, holding, ← Holding.dragging_ofGraph g]

theorem load_eq (s : Simulation α) (raw : Json) :
    let content : Graph α × Scatter := Graph.read raw s.scatter
    s.load raw = setGraph { s with scatter := content.2 } content.1 := rfl

theorem holding_load (s : Simulation α) (raw : Json) :
    (s.load raw).holding = Holding.ofGraph (Graph.read raw s.scatter).1 :=
  holding_setGraph _ _

/-! ## Operations -/

theorem apply_of_loads {op : Operation α} (h : op.loads = true) :
    ∃ raw, ∀ s : Simulation α, s.apply op = s.load raw := by
  cases op with
  | load raw => exact ⟨raw, fun _ => rfl⟩
  | loadText text =>
    rcases (Option.any_eq_true _ _).mp h with ⟨raw, hraw, hobj⟩
    refine ⟨raw, fun s => ?_⟩
    simp only [apply, loadText, hraw, hobj, if_true]
  | _ => exact absurd h Bool.false_ne_true

/-- A text that is not loaded is an error, which leaves the state as it is. -/
theorem apply_loadText {s : Simulation α} {text : String}
    (h : (Operation.loadText text : Operation α).loads = false) :
    s.apply (.loadText text) = s := by
  cases hp : Json.parse? text with
  | none => simp only [apply, loadText, hp]
  | some raw =>
    have hobj : raw.isObject = false := by
      simpa only [Operation.loads, hp, Option.any_some] using h
    simp only [apply, loadText, hp, hobj, Bool.false_eq_true, if_false]

/-- What an operation does to the holding: nothing, or it loads a graph, or it is one of the five
that change nodes. -/
inductive Effect (s : Simulation α) : Operation α → Prop where
  | keeps {op : Operation α} (hloads : op.loads = false) (htick : op.isTick = false)
      (hholding : (s.apply op).holding = s.holding) : Effect s op
  | loads {op : Operation α} (hloads : op.loads = true) : Effect s op
  | tick : Effect s .tick
  | togglePin (id : String) : Effect s (.togglePin id)
  | beginDrag (index : Nat) : Effect s (.beginDrag index)
  | dragTo (place : Point α) : Effect s (.dragTo place)
  | endDrag : Effect s .endDrag

theorem effect (s : Simulation α) (op : Operation α) : s.Effect op := by
  cases op with
  | load raw => exact .loads rfl
  | loadText text =>
    cases hl : (Operation.loadText text : Operation α).loads with
    | true => exact .loads hl
    | false =>
      refine .keeps hl rfl ?_
      rw [apply_loadText hl]
  | tick => exact .tick
  | togglePin id => exact .togglePin id
  | beginDrag i => exact .beginDrag i
  | dragTo place => exact .dragTo place
  | endDrag => exact .endDrag
  | select id => exact .keeps rfl rfl (holding_select s id)
  | deselect => exact .keeps rfl rfl (holding_deselect s)
  | focus id => exact .keeps rfl rfl (holding_focus s id)
  | setRunning running => exact .keeps rfl rfl (holding_setRunning s running)
  | toggleRunning => exact .keeps rfl rfl (holding_setRunning s _)
  | resize | fit | setHover | reheat | toast | drain => exact .keeps rfl rfl rfl

/-! ## Operations that change nodes -/

theorem outline_beginDrag (s : Simulation α) (i : Nat) :
    (s.beginDrag i).1.outline = s.outline := by
  unfold beginDrag
  dsimp only
  split
  · exact outline_endDrag s
  · have hhold : (s.endDrag.graph.modifyAt i fun n => n.holdAt n.position).outline =
        s.endDrag.graph.outline := Graph.outline_modifyAt _ _ fun _ => ⟨rfl, rfl⟩
    refine Eq.trans ?_ (outline_endDrag s)
    exact outline_of_graph hhold rfl

theorem outline_dragTo (s : Simulation α) (place : Point α) :
    (s.dragTo place).1.outline = s.outline := by
  unfold dragTo
  split
  · rfl
  · split
    · have hhold : ∀ n : Node α, (n.holdAt place).id = n.id ∧ (n.holdAt place).pinned = n.pinned :=
        fun _ => ⟨rfl, rfl⟩
      exact outline_of_graph (Graph.outline_modify _ _ hhold) rfl
    · rfl

theorem outline_stepForces (s : Simulation α) : s.stepForces.outline = s.outline := by
  unfold stepForces
  split
  · exact outline_of_graph (Physics.step_outline _ _) rfl
  · rfl

theorem outline_tick (s : Simulation α) : s.tick.outline = s.outline :=
  (outline_releaseHub _).trans (outline_stepForces s)

theorem shape_togglePin (s : Simulation α) (id : String) :
    (s.togglePin id).1.graph.shape = s.graph.shape := by
  unfold togglePin
  split
  · rfl
  · apply Graph.shape_modify
    intro n
    dsimp only
    split
    · rfl
    · split
      · rfl
      · rfl

/-- Only a load changes which nodes and links there are. -/
theorem shape_apply (s : Simulation α) {op : Operation α} (hop : op.loads = false) :
    (s.apply op).graph.shape = s.graph.shape := by
  cases s.effect op with
  | keeps _ _ hholding => rw [graph_of_holding hholding]
  | loads hloads => exact absurd (hop.symm.trans hloads) Bool.false_ne_true
  | tick => exact Graph.shape_of_outline (graph_of_outline (outline_tick s))
  | togglePin id => exact shape_togglePin s id
  | beginDrag i => exact Graph.shape_of_outline (graph_of_outline (outline_beginDrag s i))
  | dragTo place => exact Graph.shape_of_outline (graph_of_outline (outline_dragTo s place))
  | endDrag => exact Graph.shape_of_outline (graph_of_outline (outline_endDrag s))

/-! ## Runs -/

theorem run_append (s : Simulation α) (ops ops' : List (Operation α)) :
    s.run (ops ++ ops') = (s.run ops).run ops' := List.foldl_append

theorem Reachable.run {s : Simulation α} (hs : s.Reachable) (ops : List (Operation α)) :
    (s.run ops).Reachable := by
  rcases hs with ⟨settings, width, height, ratio, before, rfl⟩
  exact ⟨settings, width, height, ratio, before ++ ops, (run_append _ _ _).symm⟩

theorem run_keeps {P : Simulation α → Prop} {ops : List (Operation α)}
    (hop : ∀ s, ∀ op ∈ ops, P s → P (s.apply op)) {s : Simulation α} (hs : P s) :
    P (s.run ops) := by
  induction ops generalizing s with
  | nil => exact hs
  | cons op rest ih =>
    apply ih
    · exact fun s o ho => hop s o (List.mem_cons_of_mem _ ho)
    · exact hop s op List.mem_cons_self hs

/-- What holds at first and is kept by every operation holds in every state that is reached. -/
theorem Reachable.induction {P : Simulation α → Prop}
    (hnew : ∀ (settings : Settings α) (width height ratio : α),
      P (new settings width height ratio))
    (hop : ∀ s op, P s → P (s.apply op)) {s : Simulation α} (hs : s.Reachable) : P s := by
  rcases hs with ⟨settings, width, height, ratio, ops, rfl⟩
  exact run_keeps (fun s op _ => hop s op) (hnew settings width height ratio)

theorem indexed_apply {s : Simulation α} (hs : s.graph.Indexed) (op : Operation α) :
    (s.apply op).graph.Indexed := by
  cases hl : op.loads with
  | false => exact hs.of_shape (shape_apply s hl)
  | true =>
    rcases apply_of_loads hl with ⟨raw, hraw⟩
    rw [hraw, show (s.load raw).graph = _ from congrArg Holding.graph (holding_load s raw)]
    exact (Graph.indexed_read raw s.scatter).of_shape
      (Graph.shape_of_outline (Holding.outline_ofGraph _))

theorem Reachable.indexed {s : Simulation α} (hs : s.Reachable) : s.graph.Indexed :=
  Reachable.induction (P := fun s : Simulation α => s.graph.Indexed)
    (fun _ _ _ _ => Graph.indexed_empty) (fun _ op h => indexed_apply h op) hs

/-! ## An example -/

/-- Two linked nodes with places of their own. -/
def pairRecord : Json :=
  let node (id : String) (x : Int) : Json :=
    .object [("id", .string id), ("x", .number (.int x)), ("y", .number (.int 0))]
  .object [("links", .array [.object [("source", .string "A"), ("target", .string "B")]]),
    ("nodes", .array [node "A" 0, node "B" 30])]

def pair : Simulation Float := (new Settings.standard 800 600 1).run [.load pairRecord]

theorem reachable_pair : pair.Reachable := ⟨Settings.standard, 800, 600, 1, _, rfl⟩

end Simulation
end NodeLink
