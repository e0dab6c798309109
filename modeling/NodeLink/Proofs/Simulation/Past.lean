import NodeLink.Proofs.Force.Grid
import NodeLink.Proofs.Simulation.Outlook
import NodeLink.Proofs.Simulation.Run
/-!
# What is left of the past

Besides what a state says now it carries two things from before: the grid of the last step, and the
events still queued. No operation looks at them, and a load leaves nothing else of the old state but
its setup.

* `Simulation.withPast`: a state with another grid, and with earlier events before its own.
* `apply_withPast`: an operation does the same with any past.
* `present_load`: after a load all but the past depends on the setup and the record alone.
-/

namespace NodeLink

/-! ## The view -/

namespace Viewport

variable {α : Type} [Scalar α]

/-- Where a box is fitted nothing remains of where the view was. -/
theorem fit_congr {v w : Viewport α} (hlimits : v.limits = w.limits) (hratio : v.ratio = w.ratio)
    (hsize : (v.width, v.height) = (w.width, w.height)) (b : Bounds α) :
    v.fit (some b) = w.fit (some b) := by
  obtain ⟨hwidth, hheight⟩ := Prod.mk.inj hsize
  cases v
  cases w
  subst hlimits hratio hwidth hheight
  rfl

end Viewport

theorem Graph.exists_bounds? {α : Type} [Scalar α] {g : Graph α} (hg : 0 < g.size) :
    ∃ b, g.bounds? = some b := by
  have hlength : 0 < (g.nodes.toList.map Node.position).length := by
    rw [List.length_map, Array.length_toList]
    exact hg
  obtain ⟨p, rest, hpoints⟩ := List.exists_cons_of_length_pos hlength
  exact ⟨_, by rw [bounds?, hpoints, Bounds.ofPoints?]⟩

namespace Simulation

variable {α : Type}

/-- What the settings give to a state, for good. -/
def setup (s : Simulation α) : ForceParams α × ViewLimits α × Scale α :=
  (s.outlook.params, s.outlook.viewport.limits, s.outlook.scale)

theorem setup_of_outlook {s s' : Simulation α} (h : s'.outlook = s.outlook) :
    s'.setup = s.setup := by
  rw [setup, h, ← setup]

theorem setup_deselect (s : Simulation α) : s.deselect.setup = s.setup := by
  rw [setup, outlook_deselect, ← setup]

theorem setup_setRunning (s : Simulation α) (running : Bool) :
    (s.setRunning running).setup = s.setup := by
  rw [setup, outlook_setRunning, ← setup]

/-! ## Pasts -/

/-- The state with another grid, and with earlier events queued before its own. -/
def withPast (s : Simulation α) (grid : Grid α) (past : List Event) : Simulation α :=
  { s with physics := s.physics.withGrid grid, events := past ++ s.events }

theorem emit_withPast (s : Simulation α) (grid : Grid α) (past : List Event) (e : Event) :
    (s.withPast grid past).emit e = (s.emit e).withPast grid past := by
  simp only [emit, withPast, List.append_assoc]

theorem toast_withPast (s : Simulation α) (grid : Grid α) (past : List Event) (message : String) :
    (s.withPast grid past).toast message = (s.toast message).withPast grid past :=
  emit_withPast s grid past (.toast message)

theorem deselect_withPast (s : Simulation α) (grid : Grid α) (past : List Event) :
    (s.withPast grid past).deselect = s.deselect.withPast grid past := by
  have hselected : (s.withPast grid past).selected = s.selected := rfl
  unfold deselect
  rw [hselected]
  cases s.selected with
  | none => rfl
  | some id => exact emit_withPast { s with selected := none } grid past .deselected

theorem setRunning_withPast (s : Simulation α) (grid : Grid α) (past : List Event)
    (running : Bool) :
    (s.withPast grid past).setRunning running = (s.setRunning running).withPast grid past := by
  have hrunning : (s.withPast grid past).running = s.running := rfl
  unfold setRunning
  rw [hrunning]
  split
  · rfl
  · rw [← toast_withPast, ← emit_withPast]
    rfl

theorem endDrag_withPast (s : Simulation α) (grid : Grid α) (past : List Event) :
    (s.withPast grid past).endDrag = s.endDrag.withPast grid past := by
  have hdragging : (s.withPast grid past).dragging = s.dragging := rfl
  unfold endDrag
  rw [hdragging]
  cases s.dragging with
  | none => rfl
  | some id => rfl

theorem releaseHub_withPast (s : Simulation α) (grid : Grid α) (past : List Event) :
    (s.withPast grid past).releaseHub = s.releaseHub.withPast grid past := by
  have hhub : (s.withPast grid past).hubHold = s.hubHold := rfl
  have hdragging : (s.withPast grid past).dragging = s.dragging := rfl
  unfold releaseHub
  rw [hhub]
  cases s.hubHold with
  | none => rfl
  | some hold =>
    dsimp only
    rw [hdragging]
    split
    · rfl
    · split
      · rfl
      · rfl

variable [Scalar α]

/-- The state without a past. -/
def present (s : Simulation α) : Simulation α :=
  { s with physics := s.physics.withGrid (Grid.empty s.physics.params.cellSize), events := [] }

theorem present_withPast (s : Simulation α) (grid : Grid α) (past : List Event) :
    (s.withPast grid past).present = s.present := rfl

theorem eq_withPast (s : Simulation α) : s = s.present.withPast s.physics.grid s.events := by
  rw [withPast, present, List.append_nil]
  rfl

/-! ## Operations -/

theorem select_withPast (s : Simulation α) (grid : Grid α) (past : List Event) (id : String) :
    (s.withPast grid past).select id = ((s.select id).1.withPast grid past, (s.select id).2) := by
  have hgraph : (s.withPast grid past).graph = s.graph := rfl
  unfold select
  rw [hgraph]
  split
  · rw [← emit_withPast]
    rfl
  · rfl

theorem focus_withPast (s : Simulation α) (grid : Grid α) (past : List Event) (id : String) :
    (s.withPast grid past).focus id = ((s.focus id).1.withPast grid past, (s.focus id).2) := by
  have hgraph : (s.withPast grid past).graph = s.graph := rfl
  unfold focus
  rw [hgraph, select_withPast]
  cases s.graph.node? id with
  | none => rfl
  | some n => rfl

theorem setGraph_withPast (s : Simulation α) (grid : Grid α) (past : List Event) (g : Graph α) :
    (s.withPast grid past).setGraph g = (s.setGraph g).withPast grid past := by
  rw [setGraph_eq, setGraph_eq, deselect_withPast]
  simp only [withPast, List.append_assoc]
  rfl

theorem load_withPast (s : Simulation α) (grid : Grid α) (past : List Event) (raw : Json) :
    (s.withPast grid past).load raw = (s.load raw).withPast grid past :=
  setGraph_withPast { s with scatter := (Graph.read raw s.scatter).2 } grid past _

theorem togglePin_withPast (s : Simulation α) (grid : Grid α) (past : List Event) (id : String) :
    (s.withPast grid past).togglePin id =
      ((s.togglePin id).1.withPast grid past, (s.togglePin id).2) := by
  have hgraph : (s.withPast grid past).graph = s.graph := rfl
  unfold togglePin
  rw [hgraph]
  cases s.graph.node? id with
  | none => rfl
  | some n =>
    dsimp only
    rw [← toast_withPast, ← emit_withPast]
    rfl

theorem beginDrag_withPast (s : Simulation α) (grid : Grid α) (past : List Event) (i : Nat) :
    (s.withPast grid past).beginDrag i =
      ((s.beginDrag i).1.withPast grid past, (s.beginDrag i).2) := by
  unfold beginDrag
  dsimp only
  rw [endDrag_withPast]
  generalize s.endDrag = s₁
  rw [show (s₁.withPast grid past).graph = s₁.graph from rfl]
  cases s₁.graph.nodes[i]? with
  | none => rfl
  | some n => rfl

theorem dragTo_withPast (s : Simulation α) (grid : Grid α) (past : List Event) (place : Point α) :
    (s.withPast grid past).dragTo place =
      ((s.dragTo place).1.withPast grid past, (s.dragTo place).2) := by
  have hdragging : (s.withPast grid past).dragging = s.dragging := rfl
  have hgraph : (s.withPast grid past).graph = s.graph := rfl
  unfold dragTo
  rw [hdragging, hgraph]
  cases s.dragging with
  | none => rfl
  | some id =>
    dsimp only
    split
    · rfl
    · rfl

/-- A frame fills the grid anew, so it is the one operation that changes which grid is left. -/
theorem tick_withPast (s : Simulation α) (grid : Grid α) (past : List Event) :
    ∃ grid', (s.withPast grid past).tick = s.tick.withPast grid' past := by
  have hforces : ∃ grid', (s.withPast grid past).stepForces = s.stepForces.withPast grid' past := by
    have hrunning : (s.withPast grid past).running = s.running := rfl
    unfold stepForces
    rw [hrunning]
    split
    · obtain ⟨grid', hstep⟩ := s.physics.step_withGrid grid s.graph
      refine ⟨grid', ?_⟩
      rw [show (s.withPast grid past).physics.step (s.withPast grid past).graph = _ from hstep]
      rfl
    · exact ⟨grid, rfl⟩
  obtain ⟨grid', hforces⟩ := hforces
  refine ⟨grid', ?_⟩
  rw [tick, hforces, releaseHub_withPast]
  rfl

theorem apply_withPast (s : Simulation α) (grid : Grid α) (past : List Event)
    {op : Operation α} (hop : op ≠ .drain) :
    ∃ grid', (s.withPast grid past).apply op = (s.apply op).withPast grid' past := by
  cases hl : op.loads with
  | true =>
    obtain ⟨raw, hraw⟩ := apply_of_loads hl
    rw [hraw, hraw]
    exact ⟨grid, load_withPast s grid past raw⟩
  | false =>
    cases op with
    | load raw => exact absurd hl.symm Bool.false_ne_true
    | loadText text =>
      rw [apply_loadText hl, apply_loadText hl]
      exact ⟨grid, rfl⟩
    | tick => exact tick_withPast s grid past
    | resize | fit | setHover | reheat => exact ⟨grid, rfl⟩
    | select id => exact ⟨grid, congrArg Prod.fst (select_withPast s grid past id)⟩
    | deselect => exact ⟨grid, deselect_withPast s grid past⟩
    | focus id => exact ⟨grid, congrArg Prod.fst (focus_withPast s grid past id)⟩
    | setRunning running => exact ⟨grid, setRunning_withPast s grid past running⟩
    | toggleRunning => exact ⟨grid, setRunning_withPast s grid past !s.running⟩
    | togglePin id => exact ⟨grid, congrArg Prod.fst (togglePin_withPast s grid past id)⟩
    | beginDrag i => exact ⟨grid, congrArg Prod.fst (beginDrag_withPast s grid past i)⟩
    | dragTo place => exact ⟨grid, congrArg Prod.fst (dragTo_withPast s grid past place)⟩
    | endDrag => exact ⟨grid, endDrag_withPast s grid past⟩
    | toast message => exact ⟨grid, toast_withPast s grid past message⟩
    | drain => exact absurd rfl hop

/-! ## Setup -/

theorem setup_select (s : Simulation α) (id : String) : (s.select id).1.setup = s.setup := by
  rw [setup, outlook_select, ← setup]

theorem setup_focus (s : Simulation α) (id : String) : (s.focus id).1.setup = s.setup := by
  unfold focus
  split
  · rfl
  · exact setup_select s id

theorem setup_fit (s : Simulation α) : s.fit.setup = s.setup := by
  unfold fit Viewport.fit
  split
  · rfl
  · rfl

theorem setup_load (s : Simulation α) (raw : Json) : (s.load raw).setup = s.setup := by
  rw [load_eq, setGraph_eq]
  exact setup_fit { s with graph := (Holding.ofGraph (Graph.read raw s.scatter).1).graph }

theorem setup_tick (s : Simulation α) : s.tick.setup = s.setup := by
  have hlimits : s.viewport.advance.limits = s.viewport.limits := by
    unfold Viewport.advance
    split
    · rfl
    · rfl
  rw [setup, outlook_tick]
  exact congrArg (fun limits => (s.physics.params, limits, s.scale)) hlimits

/-- No operation changes what the settings gave. -/
theorem setup_apply (s : Simulation α) (op : Operation α) : (s.apply op).setup = s.setup := by
  cases hl : op.loads with
  | true =>
    obtain ⟨raw, hraw⟩ := apply_of_loads hl
    rw [hraw]
    exact setup_load s raw
  | false =>
    cases op with
    | load raw => exact absurd hl.symm Bool.false_ne_true
    | loadText text => rw [apply_loadText hl]
    | tick => exact setup_tick s
    | fit => exact setup_fit s
    | select id => exact setup_select s id
    | deselect => exact setup_deselect s
    | focus id => exact setup_focus s id
    | setRunning running => exact setup_setRunning s running
    | toggleRunning => exact setup_setRunning s _
    | togglePin id => exact setup_of_outlook (outlook_togglePin s id)
    | beginDrag i => exact setup_of_outlook (outlook_beginDrag s i)
    | dragTo place => exact setup_of_outlook (outlook_dragTo s place)
    | endDrag => exact setup_of_outlook (outlook_endDrag s)
    | resize | setHover | reheat | toast | drain => rfl

/-! ## Loading -/

/-- The canvas, in device pixels, with their ratio to the pixels of the page. -/
def canvas (s : Simulation α) : (α × α) × α :=
  ((s.viewport.width, s.viewport.height), s.viewport.ratio)

theorem present_load {s t : Simulation α} (hsetup : s.setup = t.setup)
    (hcanvas : s.canvas = t.canvas) (hrunning : s.running = t.running)
    (hscatter : s.scatter = t.scatter) {raw : Json}
    (hnodes : 0 < (Graph.read raw s.scatter : Graph α × Scatter).1.size) :
    (s.load raw).present = (t.load raw).present := by
  have hparams : s.physics.params = t.physics.params := congrArg Prod.fst hsetup
  have hlimits : s.viewport.limits = t.viewport.limits := congrArg (fun c => c.2.1) hsetup
  have hscale : s.scale = t.scale := congrArg (fun c => c.2.2) hsetup
  obtain ⟨hsize, hratio⟩ := Prod.mk.inj hcanvas
  rw [load_eq, load_eq, ← hscatter]
  generalize (Graph.read raw s.scatter : Graph α × Scatter) = content at hnodes ⊢
  obtain ⟨g, scatter⟩ := content
  have hloaded : 0 < (Holding.ofGraph g).graph.size := by
    rw [Graph.size_of_shape (Graph.shape_of_outline (Holding.outline_ofGraph g))]
    exact hnodes
  obtain ⟨b, hb⟩ := Graph.exists_bounds? hloaded
  rw [setGraph_eq, setGraph_eq, hb]
  simp only [present, Physics.withGrid, Physics.reheat]
  rw [Viewport.fit_congr hlimits hratio hsize b, hparams, hscale, hrunning]

/-- What is told of a new graph. -/
def loadEvents (g : Graph α) : List Event :=
  [.loaded g.size g.links.length, .toast (loadedMessage g.size g.links.length)]

theorem events_load (s : Simulation α) (raw : Json) : (s.load raw).events =
    s.deselect.events ++ loadEvents (Graph.read raw s.scatter : Graph α × Scatter).1 := by
  have hdeselect (scatter : Scatter) :
      { s with scatter := scatter }.deselect.events = s.deselect.events := by
    unfold deselect
    cases s.selected with
    | none => rfl
    | some id => rfl
  rw [load_eq, setGraph_eq]
  generalize (Graph.read raw s.scatter : Graph α × Scatter) = content
  obtain ⟨g, scatter⟩ := content
  have hshape := Graph.shape_of_outline (Holding.outline_ofGraph g)
  rw [hdeselect, Graph.size_of_shape hshape, Graph.links_of_shape hshape, List.append_assoc]
  rfl

end Simulation
end NodeLink
