import NodeLink.Proofs.Graph.Directory
/-!
# The shape of a graph

What stays as it is until another graph is loaded: the ids in their order, the links, and all that
is derived from them. Operations change places, velocities, fixes and pins of nodes.

* `Graph.shape` takes this part out of a graph; `Graph.outline` has the pins in addition.
* `shape_modify`, `outline_modify`: a change of nodes that keeps ids keeps the shape, and one that
  keeps ids and pins keeps the outline.
* `Indexed.of_shape`, `hasNode_of_shape`: what is asked by id depends on the shape alone.
-/

namespace NodeLink

structure Shape (α : Type) where
  ids : Array String
  links : List (Link α)
  directory : List (String × Nat)
  ends : List (Option (Nat × Nat))
  ties : Array Ties

theorem map_modify {β γ : Type} (xs : Array β) (i : Nat) {f : β → β} {g : β → γ}
    (hf : ∀ x, g (f x) = g x) : (xs.modify i f).map g = xs.map g := by
  apply Array.ext_getElem?
  intro j
  rw [Array.getElem?_map, Array.getElem?_modify, Array.getElem?_map]
  by_cases hij : i = j
  · rw [if_pos hij, Option.map_map]
    exact Option.map_congr fun x _ => hf x
  · rw [if_neg hij]

theorem forall_mem_modify {β : Type} {P : β → Prop} {xs : Array β} (h : ∀ x ∈ xs, P x) (i : Nat)
    {f : β → β} (hf : ∀ x, P x → P (f x)) : ∀ x ∈ xs.modify i f, P x := by
  intro x hx
  obtain ⟨j, hj⟩ := Array.mem_iff_getElem?.mp hx
  rw [Array.getElem?_modify] at hj
  by_cases hij : i = j
  · rw [if_pos hij] at hj
    obtain ⟨y, hy, rfl⟩ := Option.map_eq_some_iff.mp hj
    exact hf y (h y (Array.mem_of_getElem? hy))
  · rw [if_neg hij] at hj
    exact h x (Array.mem_of_getElem? hj)

namespace Graph

variable {α : Type}

def shape (g : Graph α) : Shape α := ⟨g.nodes.map Node.id, g.links, g.directory, g.ends, g.ties⟩

theorem shape_modifyAt (g : Graph α) (i : Nat) {f : Node α → Node α} (hf : ∀ n, (f n).id = n.id) :
    (g.modifyAt i f).shape = g.shape := by
  simp only [shape, modifyAt, map_modify g.nodes i hf]

theorem shape_modify (g : Graph α) (id : String) {f : Node α → Node α}
    (hf : ∀ n, (f n).id = n.id) : (g.modify id f).shape = g.shape := by
  unfold modify
  split
  · exact shape_modifyAt g _ hf
  · rfl

/-- What stays while nodes are moved, held and dropped. -/
def outline (g : Graph α) : Shape α × Array Bool := (g.shape, g.nodes.map Node.pinned)

theorem outline_modifyAt (g : Graph α) (i : Nat) {f : Node α → Node α}
    (hf : ∀ n, (f n).id = n.id ∧ (f n).pinned = n.pinned) :
    (g.modifyAt i f).outline = g.outline := by
  have hpins : (g.nodes.modify i f).map Node.pinned = g.nodes.map Node.pinned :=
    map_modify g.nodes i fun n => (hf n).2
  rw [outline, shape_modifyAt g i fun n => (hf n).1]
  exact congrArg (Prod.mk g.shape) hpins

theorem outline_modify (g : Graph α) (id : String) {f : Node α → Node α}
    (hf : ∀ n, (f n).id = n.id ∧ (f n).pinned = n.pinned) :
    (g.modify id f).outline = g.outline := by
  unfold modify
  split
  · exact outline_modifyAt g _ hf
  · rfl

variable {g h : Graph α}

theorem shape_of_outline (ho : h.outline = g.outline) : h.shape = g.shape := congrArg Prod.fst ho

theorem indexOf?_of_shape (hs : h.shape = g.shape) (id : String) : h.indexOf? id = g.indexOf? id :=
  congrArg (fun s : Shape α => s.directory.lookup id) hs

theorem hasNode_of_shape (hs : h.shape = g.shape) (id : String) : h.hasNode id = g.hasNode id :=
  congrArg Option.isSome (indexOf?_of_shape hs id)

theorem idAt?_of_shape (hs : h.shape = g.shape) (i : Nat) : h.idAt? i = g.idAt? i := by
  have hids : h.nodes.map Node.id = g.nodes.map Node.id := congrArg Shape.ids hs
  rw [idAt?, idAt?, ← Array.getElem?_map, ← Array.getElem?_map, hids]

theorem size_of_shape (hs : h.shape = g.shape) : h.size = g.size := by
  have hids : h.nodes.map Node.id = g.nodes.map Node.id := congrArg Shape.ids hs
  rw [size, size, ← Array.size_map (f := Node.id), hids, Array.size_map]

theorem links_of_shape (hs : h.shape = g.shape) : h.links = g.links := congrArg Shape.links hs

theorem Indexed.of_shape (hg : g.Indexed) (hs : h.shape = g.shape) : h.Indexed := by
  intro id i
  rw [indexOf?_of_shape hs, idAt?_of_shape hs]
  exact hg id i

end Graph
end NodeLink
