import NodeLink.Graph.Basic
/-!
# Ids and indices

A graph that was read has every id once, so its directory and its list of nodes say the same, and
to change the node of an id is to change the nodes that bear it.

* `read_ids_nodup`: the nodes of a record that was read have distinct ids.
* `free_of_mem_read`: none of them is fixed or pinned.
* `Graph.Indexed`: an id is looked up at an index just if the node there bears it.
* `nodes_modify`: a change by id, as a map over all nodes.
-/

namespace NodeLink

def Node.Free {α : Type} (n : Node α) : Prop := n.fixed = none ∧ n.pinned = false

/-! ## Ids of a content -/

namespace Content

variable {α : Type}

theorem not_mem_ids_distinctNodes (seen : List String) (nodes : List (Node α)) {id : String}
    (hid : id ∈ seen) : id ∉ (distinctNodes seen nodes).map Node.id := by
  induction nodes generalizing seen with
  | nil => exact List.not_mem_nil
  | cons n rest ih =>
    rw [distinctNodes]
    by_cases hn : n.id ∈ seen
    · rw [if_pos hn]
      exact ih seen hid
    · rw [if_neg hn, List.map_cons, List.mem_cons, not_or]
      exact ⟨fun h => hn (h ▸ hid), ih (n.id :: seen) (List.mem_cons_of_mem _ hid)⟩

theorem distinctNodes_ids_nodup (seen : List String) (nodes : List (Node α)) :
    ((distinctNodes seen nodes).map Node.id).Nodup := by
  induction nodes generalizing seen with
  | nil => exact List.nodup_nil
  | cons n rest ih =>
    rw [distinctNodes]
    split
    · exact ih seen
    · rw [List.map_cons, List.nodup_cons]
      exact ⟨not_mem_ids_distinctNodes _ rest List.mem_cons_self, ih _⟩

theorem mem_of_mem_distinctNodes {seen : List String} {nodes : List (Node α)} {n : Node α}
    (hn : n ∈ distinctNodes seen nodes) : n ∈ nodes := by
  induction nodes generalizing seen with
  | nil => exact hn
  | cons m rest ih =>
    rw [distinctNodes] at hn
    split at hn
    · exact List.mem_cons_of_mem m (ih hn)
    · rcases List.mem_cons.mp hn with heq | hrest
      · exact heq ▸ List.mem_cons_self
      · exact List.mem_cons_of_mem m (ih hrest)

theorem not_mem_missing (seen ids : List String) {id : String} (hid : id ∈ seen) :
    id ∉ missing seen ids := by
  induction ids generalizing seen with
  | nil => exact List.not_mem_nil
  | cons k rest ih =>
    rw [missing]
    by_cases hk : k ∈ seen
    · rw [if_pos hk]
      exact ih seen hid
    · rw [if_neg hk, List.mem_cons, not_or]
      exact ⟨fun h => hk (h ▸ hid), ih (k :: seen) (List.mem_cons_of_mem _ hid)⟩

theorem missing_nodup (seen ids : List String) : (missing seen ids).Nodup := by
  induction ids generalizing seen with
  | nil => exact List.nodup_nil
  | cons k rest ih =>
    rw [missing]
    split
    · exact ih seen
    · rw [List.nodup_cons]
      exact ⟨not_mem_missing _ rest List.mem_cons_self, ih _⟩

variable [Scalar α]

theorem placeStubs_ids (s : Scatter) (ids : List String) :
    ((placeStubs s ids).1 : List (Node α)).map Node.id = ids := by
  induction ids generalizing s with
  | nil => rfl
  | cons id rest ih =>
    simp only [placeStubs, List.map_cons, Node.stub]
    rw [ih]

theorem read_ids_nodup (raw : Json) (s : Scatter) :
    (((read raw s).1 : Content α).nodes.map Node.id).Nodup := by
  unfold read
  split
  · exact List.nodup_nil
  · simp only [List.map_append, placeStubs_ids]
    rw [List.nodup_append]
    refine ⟨distinctNodes_ids_nodup _ _, missing_nodup _ _, ?_⟩
    -- the declared ids are the `seen` ones, so no missing id is among them
    intro a ha b hb hab
    exact not_mem_missing _ _ ha (hab ▸ hb)

/-! ## Nodes of a content -/

theorem free_of_mem_readNodes {index : Nat} {s : Scatter} {entries : List Json} {n : Node α}
    (hn : n ∈ (readNodes index s entries).1) : n.Free := by
  induction entries generalizing index s with
  | nil => exact absurd hn List.not_mem_nil
  | cons entry rest ih =>
    rcases List.mem_cons.mp hn with heq | hrest
    · rw [heq]
      change (readNode index entry s).1.Free
      unfold readNode
      split
      · exact ⟨rfl, rfl⟩
      · exact ⟨rfl, rfl⟩
    · exact ih hrest

theorem free_of_mem_placeStubs {s : Scatter} {ids : List String} {n : Node α}
    (hn : n ∈ (placeStubs s ids).1) : n.Free := by
  induction ids generalizing s with
  | nil => exact absurd hn List.not_mem_nil
  | cons id rest ih =>
    rcases List.mem_cons.mp hn with heq | hrest
    · rw [heq]
      exact ⟨rfl, rfl⟩
    · exact ih hrest

theorem free_of_mem_read {raw : Json} {s : Scatter} {n : Node α} (hn : n ∈ (read raw s).1.nodes) :
    n.Free := by
  unfold read at hn
  split at hn
  · exact absurd hn List.not_mem_nil
  · rcases List.mem_append.mp hn with hentry | hstub
    · exact free_of_mem_readNodes (mem_of_mem_distinctNodes hentry)
    · exact free_of_mem_placeStubs hstub

end Content

/-! ## Look-up -/

theorem lookup_of_mem_nodup {β : Type} {table : List (String × β)} {k : String} {v : β}
    (hnd : (table.map Prod.fst).Nodup) (hmem : (k, v) ∈ table) : table.lookup k = some v := by
  induction table with
  | nil => exact absurd hmem List.not_mem_nil
  | cons entry rest ih =>
    rcases entry with ⟨k', w⟩
    rw [List.map_cons, List.nodup_cons] at hnd
    by_cases hk : k = k'
    · subst hk
      rcases List.mem_cons.mp hmem with heq | hrest
      · rw [List.lookup_cons_self, (Prod.mk.inj heq).2]
      · exact absurd (List.mem_map.mpr ⟨(k, v), hrest, rfl⟩) hnd.1
    · have hrest : (k, v) ∈ rest :=
        (List.mem_cons.mp hmem).resolve_left fun h => hk (Prod.mk.inj h).1
      rw [List.lookup_cons, beq_false_of_ne hk]
      exact ih hnd.2 hrest

theorem mem_of_lookup {β : Type} {table : List (String × β)} {k : String} {v : β}
    (h : table.lookup k = some v) : (k, v) ∈ table := by
  rcases List.lookup_eq_some_iff.mp h with ⟨pre, post, hsplit, -⟩
  rw [hsplit]
  exact List.mem_append_right _ List.mem_cons_self

namespace Graph

variable {α : Type}

theorem lookup_directoryOf {nodes : List (Node α)} (hnd : (nodes.map Node.id).Nodup) (id : String)
    (i : Nat) : (directoryOf nodes).lookup id = some i ↔ (nodes[i]?).map Node.id = some id := by
  have hmem : (id, i) ∈ directoryOf nodes ↔ (nodes[i]?).map Node.id = some id := by
    rw [directoryOf, List.mem_reverse, List.mk_mem_zipIdx_iff_getElem?, List.getElem?_map]
  have hkeys : ((directoryOf nodes).map Prod.fst).Nodup := by
    rw [directoryOf, List.map_reverse, List.zipIdx_map_fst]
    exact (List.reverse_perm _).nodup_iff.mpr hnd
  rw [← hmem]
  exact ⟨mem_of_lookup, lookup_of_mem_nodup hkeys⟩

/-- The directory finds each node by its id, and nothing else. -/
def Indexed (g : Graph α) : Prop :=
  ∀ (id : String) (i : Nat), g.indexOf? id = some i ↔ g.idAt? i = some id

theorem indexed_ofContent {c : Content α} (hnd : (c.nodes.map Node.id).Nodup) :
    (ofContent c).Indexed := by
  intro id i
  rw [indexOf?, idAt?, ofContent]
  simp only [List.getElem?_toArray]
  exact lookup_directoryOf hnd id i

theorem indexed_empty : (empty : Graph α).Indexed := indexed_ofContent List.nodup_nil

theorem free_of_mem_nodes_read [Scalar α] {raw : Json} {s : Scatter} {n : Node α}
    (hn : n ∈ (read raw s).1.nodes) : n.Free :=
  Content.free_of_mem_read (List.mem_toArray.mp hn)

theorem indexed_read [Scalar α] (raw : Json) (s : Scatter) :
    ((read raw s).1 : Graph α).Indexed :=
  indexed_ofContent (Content.read_ids_nodup raw s)

namespace Indexed

variable {g : Graph α}

theorem id_eq (h : g.Indexed) {id : String} {i : Nat} {n : Node α} (hi : g.indexOf? id = some i)
    (hn : g.nodes[i]? = some n) : n.id = id := by
  have hid := (h id i).mp hi
  rw [idAt?, hn] at hid
  exact Option.some.inj hid

theorem indexOf?_id (h : g.Indexed) {i : Nat} {n : Node α} (hn : g.nodes[i]? = some n) :
    g.indexOf? n.id = some i := by
  rw [h, idAt?, hn, Option.map_some]

theorem node?_id (h : g.Indexed) {i : Nat} {n : Node α} (hn : g.nodes[i]? = some n) :
    g.node? n.id = some n := by
  rw [node?, h.indexOf?_id hn, Option.bind_some, hn]

theorem id_inj (h : g.Indexed) {i j : Nat} {m n : Node α} (hm : g.nodes[i]? = some m)
    (hn : g.nodes[j]? = some n) (hid : m.id = n.id) : i = j := by
  have hi := h.indexOf?_id hm
  rw [hid, h.indexOf?_id hn] at hi
  exact (Option.some.inj hi).symm

theorem hasNode_iff (h : g.Indexed) (id : String) :
    g.hasNode id = true ↔ ∃ n ∈ g.nodes, n.id = id := by
  rw [hasNode, Option.isSome_iff_exists]
  constructor
  · rintro ⟨i, hi⟩
    have hid := (h id i).mp hi
    rcases Option.map_eq_some_iff.mp hid with ⟨n, hn, rfl⟩
    exact ⟨n, Array.mem_of_getElem? hn, rfl⟩
  · rintro ⟨n, hn, rfl⟩
    rcases Array.mem_iff_getElem?.mp hn with ⟨i, hi⟩
    exact ⟨i, h.indexOf?_id hi⟩

/-- Changing the node at an index is changing the nodes that bear its id. -/
theorem nodes_modifyAt (h : g.Indexed) {i : Nat} {n : Node α} (hn : g.nodes[i]? = some n)
    (f : Node α → Node α) :
    (g.modifyAt i f).nodes = g.nodes.map fun m => if m.id = n.id then f m else m := by
  apply Array.ext_getElem?
  intro j
  rw [modifyAt, Array.getElem?_modify, Array.getElem?_map]
  cases hm : g.nodes[j]? with
  | none =>
    split
    · rfl
    · rfl
  | some m =>
    by_cases hij : i = j
    · subst hij
      rw [hn] at hm
      cases hm
      simp only [if_true, Option.map_some]
    · have hid : m.id ≠ n.id := fun he => hij (h.id_inj hn hm he.symm)
      simp only [if_neg hij, if_neg hid, Option.map_some]

/-- Changing the node of an id, also one that no node bears, is changing the nodes that bear it. -/
theorem nodes_modify (h : g.Indexed) (id : String) (f : Node α → Node α) :
    (g.modify id f).nodes = g.nodes.map fun m => if m.id = id then f m else m := by
  unfold modify
  cases hi : g.indexOf? id with
  | some i =>
    rcases Option.map_eq_some_iff.mp ((h id i).mp hi) with ⟨n, hn, rfl⟩
    exact h.nodes_modifyAt hn f
  | none =>
    have hmap : g.nodes.map (fun m => if m.id = id then f m else m) = g.nodes.map fun m => m := by
      apply Array.map_congr_left
      intro m hm
      rcases Array.mem_iff_getElem?.mp hm with ⟨j, hj⟩
      have hid : m.id ≠ id := by
        rintro rfl
        rw [h.indexOf?_id hj] at hi
        exact absurd hi (Option.some_ne_none j)
      rw [if_neg hid]
    rw [hmap]
    exact (Array.map_id' g.nodes).symm

end Indexed

end Graph
end NodeLink
