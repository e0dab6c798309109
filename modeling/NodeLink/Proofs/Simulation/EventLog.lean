import NodeLink.Proofs.Simulation.Pins
/-!
# The events as a log

A listener that hears every event in order knows, without ever looking at the simulation, what is
selected, whether it runs, which nodes are pinned and how large the graph is.

* `Knowledge.hear`: what one event adds to what is known.
* `reports_apply`: an operation queues just the events from which its effect can be told.
* `foldl_hear_run`: the events of a run, those already taken and those still queued, tell the state.
-/

namespace NodeLink

/-- What can be known from events; at first nothing is selected, the layout runs and there is no
graph. -/
structure Knowledge where
  selected : Option String := none
  running : Bool := true
  pinned : String → Bool := fun _ => false
  nodes : Nat := 0
  links : Nat := 0

namespace Knowledge

/-- A new graph comes without pins; what else changes with it is an event of its own. -/
def hear (k : Knowledge) : Event → Knowledge
  | .loaded nodes links => { k with pinned := fun _ => false, nodes := nodes, links := links }
  | .selected id => { k with selected := some id }
  | .deselected => { k with selected := none }
  | .pinChanged id pinned =>
    { k with pinned := fun other => if other = id then pinned else k.pinned other }
  | .runningChanged running => { k with running := running }
  | .toast _ => k

end Knowledge

namespace Simulation

variable {α : Type}

/-- The part of the state that events tell of. -/
def told (s : Simulation α) : Knowledge :=
  ⟨s.selected, s.running, s.graph.isPinned, s.graph.size, s.graph.links.length⟩

/-- The events queued on the way from `s` to `s'` tell what is new. -/
def Reports (s s' : Simulation α) : Prop :=
  ∃ news, s'.events = s.events ++ news ∧ news.foldl Knowledge.hear s.told = s'.told

variable {s s' s'' : Simulation α}

theorem Reports.of_quiet (hevents : s'.events = s.events) (htold : s'.told = s.told) :
    Reports s s' :=
  ⟨[], by rw [hevents, List.append_nil], htold.symm⟩

theorem Reports.refl (s : Simulation α) : Reports s s := .of_quiet rfl rfl

theorem Reports.of_emit {e : Event} (hevents : s'.events = s.events ++ [e])
    (htold : s.told.hear e = s'.told) : Reports s s' :=
  ⟨[e], hevents, htold⟩

theorem Reports.trans (h : Reports s s') (h' : Reports s' s'') : Reports s s'' := by
  rcases h with ⟨news, hevents, htold⟩
  rcases h' with ⟨news', hevents', htold'⟩
  refine ⟨news ++ news', ?_, ?_⟩
  · rw [hevents', hevents, List.append_assoc]
  · rw [List.foldl_append, htold, htold']

theorem told_of_outline (h : s'.outline = s.outline) : s'.told = s.told := by
  have hgraph := graph_of_outline h
  have hshape := Graph.shape_of_outline hgraph
  have hselected : s'.selected = s.selected := congrArg (fun o => o.2.2.1) h
  have hrunning : s'.running = s.running := congrArg (fun o => o.2.2.2) h
  rw [told, told, hselected, hrunning, funext (Graph.isPinned_of_outline hgraph),
    Graph.size_of_shape hshape, Graph.links_of_shape hshape]

/-- While nodes are moved, held and dropped there is nothing to tell. -/
theorem Reports.of_outline (h : s'.outline = s.outline) : Reports s s' :=
  .of_quiet (congrArg (fun o => o.2.1) h) (told_of_outline h)

def taken (s : Simulation α) : Operation α → List Event
  | .drain => s.drain.2
  | _ => []

theorem taken_of_ne (s : Simulation α) {op : Operation α} (hop : op ≠ .drain) :
    s.taken op = [] := by
  cases op with
  | drain => exact absurd rfl hop
  | _ => rfl

/-! ## Single operations -/

theorem reports_toast (s : Simulation α) (message : String) : Reports s (s.toast message) :=
  .of_emit rfl rfl

theorem reports_deselect (s : Simulation α) : Reports s s.deselect := by
  unfold deselect
  split
  · exact .of_emit rfl rfl
  · exact .refl s

theorem reports_setRunning (s : Simulation α) (running : Bool) :
    Reports s (s.setRunning running) := by
  unfold setRunning
  split
  · exact .refl s
  · refine Reports.trans ?_ (reports_toast _ _)
    exact .of_emit rfl rfl

variable [Scalar α]

theorem reports_select (s : Simulation α) (id : String) : Reports s (s.select id).1 := by
  unfold select
  split
  · exact .of_emit rfl rfl
  · exact .refl s

theorem reports_focus (s : Simulation α) (id : String) : Reports s (s.focus id).1 := by
  unfold focus
  split
  · exact .refl s
  · exact (reports_select s id).trans (.of_quiet rfl rfl)

theorem reports_togglePin (hs : s.graph.Indexed) (id : String) :
    Reports s (s.togglePin id).1 := by
  have hshape := shape_togglePin s id
  cases hn : s.graph.node? id with
  | none =>
    unfold togglePin
    rw [hn]
    exact .refl s
  | some n =>
    refine ⟨[.pinChanged id !n.pinned, .toast (if (!n.pinned) then "Pinned" else "Unpinned")],
      ?_, ?_⟩
    · unfold togglePin
      rw [hn]
      exact List.append_assoc _ _ _
    · have hpins : (s.togglePin id).1.graph.isPinned =
          fun other => if other = id then !n.pinned else s.graph.isPinned other :=
        funext (isPinned_togglePin hs hn)
      have hrest : (s.togglePin id).1.selected = s.selected ∧
          (s.togglePin id).1.running = s.running := by
        unfold togglePin
        rw [hn]
        exact ⟨rfl, rfl⟩
      simp only [List.foldl_cons, List.foldl_nil, Knowledge.hear, told, hpins, hrest.1, hrest.2,
        Graph.size_of_shape hshape, Graph.links_of_shape hshape]

/-- First it is told that nothing is selected any more, then that there is a new graph. -/
theorem reports_setGraph (s : Simulation α) {g : Graph α} (hg : ∀ id, g.isPinned id = false) :
    Reports s (s.setGraph g) := by
  have hpins : (Holding.ofGraph g).graph.isPinned = fun _ => false := by
    funext id
    rw [Graph.isPinned_of_outline (Holding.outline_ofGraph g), hg]
  have hrest : s.deselect.selected = none ∧ s.deselect.running = s.running := by
    unfold deselect
    split
    · exact ⟨rfl, rfl⟩
    · exact ⟨by assumption, rfl⟩
  refine (reports_deselect s).trans ⟨[.loaded (Holding.ofGraph g).graph.size
    (Holding.ofGraph g).graph.links.length, .toast (loadedMessage (Holding.ofGraph g).graph.size
    (Holding.ofGraph g).graph.links.length)], ?_, ?_⟩
  · rw [setGraph_eq]
    exact List.append_assoc _ _ _
  · rw [setGraph_eq]
    simp only [List.foldl_cons, List.foldl_nil, Knowledge.hear, told, hpins, hrest.1, hrest.2]

theorem reports_load (s : Simulation α) (raw : Json) : Reports s (s.load raw) := by
  let content : Graph α × Scatter := Graph.read raw s.scatter
  have hfree : ∀ id, content.1.isPinned id = false :=
    Graph.isPinned_of_free (Graph.indexed_read raw _) fun n hn => Graph.free_of_mem_nodes_read hn
  have hscatter : Reports s { s with scatter := content.2 } := .of_quiet rfl rfl
  exact hscatter.trans (reports_setGraph _ hfree)

/-! ## Runs -/

/-- All that is taken from the queue in a run, in order. -/
def drained (s : Simulation α) : List (Operation α) → List Event
  | [] => []
  | op :: rest => s.taken op ++ (s.apply op).drained rest

/-- Every operation but the one that takes the events reports what it does. -/
theorem reports_apply (hs : s.graph.Indexed) {op : Operation α} (hop : op ≠ .drain) :
    Reports s (s.apply op) := by
  cases op with
  | load raw => exact reports_load s raw
  | loadText text =>
    simp only [apply, loadText]
    split
    · rename_i hok
      split at hok
      · cases hok
      · split at hok
        · cases hok
          exact reports_load s _
        · cases hok
    · exact .refl s
  | tick => exact .of_outline (outline_tick s)
  | resize | fit | setHover | reheat => exact .of_quiet rfl rfl
  | select id => exact reports_select s id
  | deselect => exact reports_deselect s
  | focus id => exact reports_focus s id
  | setRunning running => exact reports_setRunning s running
  | toggleRunning => exact reports_setRunning s _
  | togglePin id => exact reports_togglePin hs id
  | beginDrag i => exact .of_outline (outline_beginDrag s i)
  | dragTo place => exact .of_outline (outline_dragTo s place)
  | endDrag => exact .of_outline (outline_endDrag s)
  | toast message => exact reports_toast s message
  | drain => exact absurd rfl hop

/-- Whoever knows the state from the events so far knows it from all events of a run. -/
theorem foldl_hear_run (hs : s.graph.Indexed) {k : Knowledge}
    (hk : s.events.foldl Knowledge.hear k = s.told) (ops : List (Operation α)) :
    (s.drained ops ++ (s.run ops).events).foldl Knowledge.hear k = (s.run ops).told := by
  induction ops generalizing s k with
  | nil => exact hk
  | cons op rest ih =>
    have hnext := indexed_apply hs op
    by_cases hop : op = .drain
    · subst hop
      -- the events move from the queue to what was taken, and the queue starts anew
      change ((s.events ++ s.drain.1.drained rest) ++ _).foldl Knowledge.hear k = _
      rw [List.append_assoc, List.foldl_append, hk]
      exact ih hnext rfl
    · rcases reports_apply hs hop with ⟨news, hevents, htold⟩
      have hk' : (s.apply op).events.foldl Knowledge.hear k = (s.apply op).told := by
        rw [hevents, List.foldl_append, hk, htold]
      have htaken : s.drained (op :: rest) = (s.apply op).drained rest := by
        rw [drained, taken_of_ne s hop, List.nil_append]
      rw [htaken]
      exact ih hnext hk'

/-- The events taken in a run and the events still queued after it, read in order, tell what is
selected, whether the layout runs, which nodes are pinned and how large the graph is. -/
theorem events_tell_state (settings : Settings α) (width height ratio : α)
    (ops : List (Operation α)) :
    let start := new settings width height ratio
    let final := start.run ops
    let known := (start.drained ops ++ final.events).foldl Knowledge.hear {}
    known.selected = final.selected ∧ known.running = final.running ∧
      (∀ id, known.pinned id = true ↔ ∃ n ∈ final.graph.nodes, n.id = id ∧ n.pinned = true) ∧
      known.nodes = final.graph.nodes.size ∧ known.links = final.graph.links.length := by
  intro start final known
  have hstart : start.graph.Indexed := Graph.indexed_empty
  have hknown : known = final.told := foldl_hear_run hstart rfl ops
  have hfinal : final.graph.Indexed := Reachable.indexed ⟨settings, width, height, ratio, ops, rfl⟩
  rw [hknown]
  exact ⟨rfl, rfl, Graph.isPinned_iff hfinal, rfl, rfl⟩

end Simulation
end NodeLink
