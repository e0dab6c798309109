import NodeLink.Force.Step
import NodeLink.Proofs.Graph.Shape
/-!
# What a step leaves alone

A step of the layout moves nodes and does nothing else.

* `step_still`: places and velocities left out, the nodes are the same before and after.
* `step_outline`: the ids, the pins, the links and what is derived from them are the same.
* `step_rests`: after a step every fixed node stands still at its place.
-/

namespace NodeLink

namespace Node

variable {α : Type} [Scalar α]

/-- The node with its place and its velocity left out. -/
def still (n : Node α) : Node α :=
  { n with position := Point.origin, velocity := Point.origin }

/-- A node that is fixed stands still at its place. -/
def Rests (n : Node α) : Prop :=
  ∀ place, n.fixed = some place → n.position = place ∧ n.velocity = Point.origin

theorem rests_holdAt (n : Node α) (place : Point α) : (n.holdAt place).Rests := by
  intro q hq
  exact ⟨Option.some.inj hq, rfl⟩

theorem rests_of_free {n : Node α} (hn : n.fixed = none) : n.Rests := by
  intro q hq
  rw [hn] at hq
  exact absurd hq.symm (Option.some_ne_none q)

variable {m n : Node α}

theorem id_of_still (h : m.still = n.still) : m.id = n.id := by
  change m.still.id = n.still.id
  rw [h]

theorem fixed_of_still (h : m.still = n.still) : m.fixed = n.fixed := by
  change m.still.fixed = n.still.fixed
  rw [h]

theorem pinned_of_still (h : m.still = n.still) : m.pinned = n.pinned := by
  change m.still.pinned = n.still.pinned
  rw [h]

theorem radius_of_still (h : m.still = n.still) : m.radius = n.radius := by
  change m.still.radius = n.still.radius
  rw [h]

end Node

namespace Physics

variable {α : Type} [Scalar α]

/-! ## Single nodes -/

theorem still_holdFixed (n : Node α) : (holdFixed n).still = n.still := by
  unfold holdFixed
  split
  · rfl
  · rfl

theorem still_settle (p : ForceParams α) (gain : α) (n : Node α) :
    (settle p gain n).still = n.still := by
  unfold settle
  split
  · rfl
  · dsimp only
    split
    · rfl
    · rfl

theorem rests_settle (p : ForceParams α) (gain : α) (n : Node α) : (settle p gain n).Rests := by
  have hfixed : (settle p gain n).fixed = n.fixed := Node.fixed_of_still (still_settle p gain n)
  cases hn : n.fixed with
  | none => exact Node.rests_of_free (hfixed.trans hn)
  | some place =>
    intro q hq
    rw [hfixed, hn] at hq
    rw [settle, hn]
    exact ⟨Option.some.inj hq, rfl⟩

/-! ## Pairs and springs -/

theorem still_push (direction : Point α) (force : α) (n : Node α) :
    (push direction force n).still = n.still := rfl

theorem still_pushBack (direction : Point α) (force : α) (n : Node α) :
    (pushBack direction force n).still = n.still := rfl

theorem map_still_repel (p : ForceParams α) (nodes : Array (Node α)) (pair : Nat × Nat) :
    (repel p nodes pair).map Node.still = nodes.map Node.still := by
  unfold repel
  split
  · dsimp only
    split
    · rw [map_modify _ _ (still_pushBack _ _), map_modify _ _ (still_push _ _)]
    · rfl

theorem map_still_pull (p : ForceParams α) (nodes : Array (Node α)) (link : Link α × Nat × Nat) :
    (pull p nodes link).map Node.still = nodes.map Node.still := by
  unfold pull
  dsimp only
  split
  · rfl
  · split
    · rw [map_modify _ _ (still_pushBack _ _), map_modify _ _ (still_push _ _)]
    · rfl

theorem map_still_foldl {β : Type} {f : Array (Node α) → β → Array (Node α)}
    (hf : ∀ nodes b, (f nodes b).map Node.still = nodes.map Node.still) (l : List β)
    (nodes : Array (Node α)) : (l.foldl f nodes).map Node.still = nodes.map Node.still := by
  induction l generalizing nodes with
  | nil => rfl
  | cons b rest ih => rw [List.foldl_cons, ih, hf]

/-! ## The step -/

theorem step_still (ph : Physics α) (g : Graph α) :
    (ph.step g).2.nodes.map Node.still = g.nodes.map Node.still := by
  simp only [step, applySprings, applyPairs, Array.map_map]
  have hsettle : ∀ gain : α, Node.still ∘ settle ph.params gain = Node.still := fun gain =>
    funext (still_settle ph.params gain)
  rw [hsettle, map_still_foldl (map_still_pull _), map_still_foldl (map_still_repel _),
    Array.map_map, show Node.still ∘ holdFixed = Node.still from funext still_holdFixed]

theorem step_outline (ph : Physics α) (g : Graph α) : (ph.step g).2.outline = g.outline := by
  have hids : (ph.step g).2.nodes.map Node.id = g.nodes.map Node.id := by
    have hmap := congrArg (Array.map Node.id) (step_still ph g)
    rw [Array.map_map, Array.map_map] at hmap
    exact hmap
  have hpins : (ph.step g).2.nodes.map Node.pinned = g.nodes.map Node.pinned := by
    have hmap := congrArg (Array.map Node.pinned) (step_still ph g)
    rw [Array.map_map, Array.map_map] at hmap
    exact hmap
  rw [Graph.outline, Graph.shape, hids, hpins]
  rfl

theorem exists_of_mem_step {ph : Physics α} {g : Graph α} {n : Node α}
    (hn : n ∈ (ph.step g).2.nodes) : ∃ m ∈ g.nodes, n.still = m.still := by
  have hmem : n.still ∈ g.nodes.map Node.still := by
    rw [← step_still ph g]
    exact Array.mem_map_of_mem hn
  rcases Array.mem_map.mp hmem with ⟨m, hm, hmn⟩
  exact ⟨m, hm, hmn.symm⟩

theorem step_rests {ph : Physics α} {g : Graph α} {n : Node α} (hn : n ∈ (ph.step g).2.nodes) :
    n.Rests := by
  rw [step, Array.mem_map] at hn
  rcases hn with ⟨m, -, rfl⟩
  exact rests_settle _ _ m

end Physics
end NodeLink
