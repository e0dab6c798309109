import NodeLink.Proofs.Simulation.Run
/-!
# Pins

A pin is set and taken away by the one operation that is there for it, and by nothing else until
another graph is loaded.

* `isPinned_iff`: the pinned ids are those of pinned nodes.
* `node?_modify`: the node of each id after a change of the node of one.
* `isPinned_togglePin`: what the operation does to each id.
* `isPinned_apply`: every other operation but a load keeps all pins.
-/

namespace NodeLink

namespace Graph

variable {α : Type} {g h : Graph α}

def isPinned (g : Graph α) (id : String) : Bool := (g.node? id).any Node.pinned

theorem isPinned_iff (hg : g.Indexed) (id : String) :
    g.isPinned id = true ↔ ∃ n ∈ g.nodes, n.id = id ∧ n.pinned = true := by
  rw [isPinned, Option.any_eq_true]
  constructor
  · rintro ⟨n, hn, hp⟩
    rcases Option.bind_eq_some_iff.mp hn with ⟨i, hi, hni⟩
    exact ⟨n, Array.mem_of_getElem? hni, hg.id_eq hi hni, hp⟩
  · rintro ⟨n, hn, rfl, hp⟩
    rcases Array.mem_iff_getElem?.mp hn with ⟨i, hi⟩
    exact ⟨n, hg.node?_id hi, hp⟩

theorem isPinned_of_outline (ho : h.outline = g.outline) (id : String) :
    h.isPinned id = g.isPinned id := by
  have hdir : h.directory = g.directory := congrArg (fun o => o.1.directory) ho
  have hpins : h.nodes.map Node.pinned = g.nodes.map Node.pinned := congrArg Prod.snd ho
  have hany : ∀ k : Graph α, k.isPinned id =
      ((k.directory.lookup id).bind fun i => (k.nodes.map Node.pinned)[i]?).any fun p => p := by
    intro k
    rw [isPinned, node?, indexOf?]
    cases k.directory.lookup id with
    | none => rfl
    | some i =>
      rw [Option.bind_some, Option.bind_some, Array.getElem?_map]
      cases k.nodes[i]? with
      | none => rfl
      | some n => rfl
  rw [hany, hany, hdir, hpins]

/-- A change of the node of one id is seen under that id alone. -/
theorem node?_modify (hg : g.Indexed) (k : String) (f : Node α → Node α) (id : String) :
    (g.modify k f).node? id = if id = k then (g.node? id).map f else g.node? id := by
  rw [node?, node?, indexOf?_modify]
  cases hj : g.indexOf? id with
  | none =>
    rw [Option.bind_none, Option.bind_none, Option.map_none, ite_self]
  | some j =>
    rw [Option.bind_some, Option.bind_some]
    unfold modify
    cases hi : g.indexOf? k with
    | none =>
      have hid : id ≠ k := by
        rintro rfl
        rw [hi] at hj
        exact absurd hj.symm (Option.some_ne_none j)
      rw [if_neg hid]
    | some i =>
      have hij : i = j ↔ id = k := by
        constructor
        · rintro rfl
          have hidn := (hg id i).mp hj
          rw [(hg k i).mp hi] at hidn
          exact (Option.some.inj hidn).symm
        · rintro rfl
          exact Option.some.inj (hi.symm.trans hj)
      dsimp only [modifyAt]
      rw [Array.getElem?_modify]
      by_cases hid : id = k
      · rw [if_pos hid, if_pos (hij.mpr hid)]
      · rw [if_neg hid, if_neg (mt hij.mp hid)]

theorem isPinned_modify_node (hg : g.Indexed) {k : String} {n : Node α} (hn : g.node? k = some n)
    (f : Node α → Node α) (id : String) :
    (g.modify k f).isPinned id = if id = k then (f n).pinned else g.isPinned id := by
  rw [isPinned, node?_modify hg]
  by_cases hid : id = k
  · rw [if_pos hid, if_pos hid, hid, hn]
    rfl
  · rw [if_neg hid, if_neg hid]
    rfl

theorem isPinned_of_free (hg : g.Indexed) (hfree : ∀ n ∈ g.nodes, n.Free) (id : String) :
    g.isPinned id = false := by
  rw [Bool.eq_false_iff]
  intro hp
  rcases (isPinned_iff hg id).mp hp with ⟨n, hn, -, hpin⟩
  exact Bool.false_ne_true ((hfree n hn).2.symm.trans hpin)

end Graph

namespace Simulation

variable {α : Type} [Scalar α]

theorem isPinned_togglePin {s : Simulation α} (hs : s.graph.Indexed) {k : String} {n : Node α}
    (hn : s.graph.node? k = some n) (id : String) :
    (s.togglePin k).1.graph.isPinned id = if id = k then !n.pinned else s.graph.isPinned id := by
  unfold togglePin
  rw [hn]
  dsimp only [toast, emit]
  rw [Graph.isPinned_modify_node hs hn]
  by_cases hid : id = k
  · rw [if_pos hid, if_pos hid]
    split
    · rfl
    · split
      · rfl
      · rfl
  · rw [if_neg hid, if_neg hid]

/-- A pin is lost and gained only by the operation for it, or with the whole graph. -/
theorem isPinned_apply {s : Simulation α} (hs : s.graph.Indexed) {op : Operation α}
    (hload : op.loads = false) {id : String} (hpin : op ≠ .togglePin id) :
    (s.apply op).graph.isPinned id = s.graph.isPinned id := by
  cases s.effect op with
  | keeps _ _ hholding => rw [graph_of_holding hholding]
  | loads hloads => exact absurd (hload.symm.trans hloads) Bool.false_ne_true
  | tick => exact Graph.isPinned_of_outline (graph_of_outline (outline_tick s)) id
  | togglePin k =>
    change (s.togglePin k).1.graph.isPinned id = s.graph.isPinned id
    cases hn : s.graph.node? k with
    | none =>
      unfold togglePin
      rw [hn]
    | some n =>
      have hid : id ≠ k := fun h => hpin (h ▸ rfl)
      rw [isPinned_togglePin hs hn, if_neg hid]
  | beginDrag i => exact Graph.isPinned_of_outline (graph_of_outline (outline_beginDrag s i)) id
  | dragTo place => exact Graph.isPinned_of_outline (graph_of_outline (outline_dragTo s place)) id
  | endDrag => exact Graph.isPinned_of_outline (graph_of_outline (outline_endDrag s)) id

end Simulation
end NodeLink
