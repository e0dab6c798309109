import Mathlib.Algebra.BigOperators.Group.Finset.Basic
import NodeLink.Proofs.Graph.Content
import NodeLink.Proofs.Graph.Shape
/-!
# What the ties say

The ties of the nodes are entered link by link while a graph is built. Seen from one node, this is a
fold over the resolved ends, and what it has gathered in the end can be read off the list of links.

* `Ties.Records`: the ties of one node against a list of ends; `Records.enter` is one step.
* `isHub_of_hub?`: the hub is the first node of the largest degree.
* `Graph.Tied`: ends and ties against the links; a graph that is `Made` of any content is tied.
* `Graph.Consistent`: all that is derived against the links; `Built.consistent`.
* `Graph.Closed`: a graph whose links all end at its nodes, as those that are read do.
-/

namespace NodeLink

open scoped BigOperators

/-! ## The ties of one node -/

namespace IndexSet

theorem mem_insert_if (c : Prop) [Decidable c] (k j : Nat) (s : IndexSet) :
    j ∈ (if c then insert k s else s) ↔ (c ∧ j = k) ∨ j ∈ s := by
  by_cases hc : c
  · rw [if_pos hc, mem_insert]
    simp only [hc, true_and]
  · rw [if_neg hc]
    simp only [hc, false_and, false_or]

theorem increasing_insert_if (c : Prop) [Decidable c] (k : Nat) {s : IndexSet}
    (hs : Increasing s) : Increasing (if c then insert k s else s) := by
  by_cases hc : c
  · rw [if_pos hc]
    exact increasing_insert k hs
  · rw [if_neg hc]
    exact hs

end IndexSet

namespace Ties

/-- What a link with the ends `e` adds to the ties of the node at `i`. -/
def enter (i : Nat) (t : Ties) (e : Nat × Nat) : Ties where
  neighbors :=
    let ns := if e.1 = i then t.neighbors.insert e.2 else t.neighbors
    if e.2 = i then ns.insert e.1 else ns
  successors := if e.1 = i then t.successors.insert e.2 else t.successors
  predecessors := if e.2 = i then t.predecessors.insert e.1 else t.predecessors
  degree := t.degree + (if e.1 = i then 1 else 0) + (if e.2 = i then 1 else 0)

/-- The ties of the node at `i` tell the ends `es`: which nodes are at the other end, as increasing
lists, and how many ends are at the node itself. -/
structure Records (i : Nat) (es : List (Nat × Nat)) (t : Ties) : Prop where
  successors : ∀ j, j ∈ t.successors ↔ (i, j) ∈ es
  predecessors : ∀ j, j ∈ t.predecessors ↔ (j, i) ∈ es
  neighbors : ∀ j, j ∈ t.neighbors ↔ (i, j) ∈ es ∨ (j, i) ∈ es
  increasing : IndexSet.Increasing t.successors ∧ IndexSet.Increasing t.predecessors ∧
    IndexSet.Increasing t.neighbors
  degree : t.degree = (es.map Prod.fst).count i + (es.map Prod.snd).count i

theorem records_nil (i : Nat) : Records i [] {} where
  successors _ := by simp only [List.not_mem_nil]
  predecessors _ := by simp only [List.not_mem_nil]
  neighbors _ := by simp only [List.not_mem_nil, or_self]
  increasing := ⟨List.Pairwise.nil, List.Pairwise.nil, List.Pairwise.nil⟩
  degree := rfl

theorem Records.enter {i : Nat} {es : List (Nat × Nat)} {t : Ties} (h : t.Records i es)
    (e : Nat × Nat) : (t.enter i e).Records i (es ++ [e]) := by
  obtain ⟨hsucc, hpred, hadj, ⟨hsuccInc, hpredInc, hadjInc⟩, hdeg⟩ := h
  obtain ⟨s, u⟩ := e
  have hout (j : Nat) : (i, j) ∈ es ++ [(s, u)] ↔ (s = i ∧ j = u) ∨ (i, j) ∈ es := by
    rw [List.mem_append, List.mem_singleton, Prod.mk.injEq, eq_comm (a := i), or_comm]
  have hin (j : Nat) : (j, i) ∈ es ++ [(s, u)] ↔ (u = i ∧ j = s) ∨ (j, i) ∈ es := by
    rw [List.mem_append, List.mem_singleton, Prod.mk.injEq, eq_comm (a := i), and_comm, or_comm]
  refine ⟨fun j => ?_, fun j => ?_, fun j => ?_, ⟨?_, ?_, ?_⟩, ?_⟩
  · rw [Ties.enter, IndexSet.mem_insert_if, hsucc, hout]
  · rw [Ties.enter, IndexSet.mem_insert_if, hpred, hin]
  · rw [Ties.enter, IndexSet.mem_insert_if, IndexSet.mem_insert_if, hadj, hout, hin]
    tauto
  · exact IndexSet.increasing_insert_if _ _ hsuccInc
  · exact IndexSet.increasing_insert_if _ _ hpredInc
  · exact IndexSet.increasing_insert_if _ _ (IndexSet.increasing_insert_if _ _ hadjInc)
  · simp only [Ties.enter, hdeg, List.map_append, List.map_cons, List.map_nil, List.count_append,
      List.count_singleton, beq_iff_eq]
    omega

theorem records_foldl (i : Nat) (es : List (Nat × Nat)) :
    (es.foldl (enter i) {}).Records i es := by
  induction es using List.reverseRecOn with
  | nil => exact records_nil i
  | append_singleton es e ih =>
    rw [List.foldl_concat]
    exact ih.enter e

/-- Ends elsewhere add nothing. -/
theorem foldl_enter_of_notMem {i : Nat} {es : List (Nat × Nat)}
    (hes : ∀ e ∈ es, e.1 ≠ i ∧ e.2 ≠ i) (t : Ties) : es.foldl (enter i) t = t := by
  induction es with
  | nil => rfl
  | cons e rest ih =>
    obtain ⟨hs, hu⟩ := hes e List.mem_cons_self
    have hstep : t.enter i e = t := by
      simp only [enter, hs, hu, if_false, Nat.add_zero]
    rw [List.foldl_cons, hstep]
    exact ih fun e' he' => hes e' (List.mem_cons_of_mem e he')

end Ties

namespace Graph

variable {α : Type}

/-! ## The ties of all nodes -/

theorem getElem?_tie (ties : Array Ties) (s u i : Nat) :
    (tie ties s u)[i]? = ties[i]?.map fun t => t.enter i (s, u) := by
  unfold tie
  simp only [Array.getElem?_modify]
  cases ties[i]? with
  | none => simp only [Option.map_none, ite_self]
  | some t =>
    by_cases hs : s = i
    · by_cases hu : u = i
      · simp [Ties.enter, Ties.addEnd, Ties.addNeighbor, Ties.addSuccessor, Ties.addPredecessor,
          hs, hu]
      · simp [Ties.enter, Ties.addEnd, Ties.addNeighbor, Ties.addSuccessor, hs, hu]
    · by_cases hu : u = i
      · simp [Ties.enter, Ties.addEnd, Ties.addNeighbor, Ties.addPredecessor, hs, hu]
      · simp [Ties.enter, hs, hu]

theorem tieAll_eq_foldl (count : Nat) (ends : List (Option (Nat × Nat))) :
    tieAll count ends = (ends.filterMap id).foldl (fun ties e => tie ties e.1 e.2)
      (Array.replicate count {}) := by
  rw [tieAll, List.foldl_filterMap]
  congr 1
  funext ties e
  cases e with
  | none => rfl
  | some e => rfl

theorem getElem?_foldl_tie (es : List (Nat × Nat)) (ties : Array Ties) (i : Nat) :
    (es.foldl (fun ties e => tie ties e.1 e.2) ties)[i]? =
      ties[i]?.map fun t => es.foldl (Ties.enter i) t := by
  induction es generalizing ties with
  | nil => exact Option.map_id'.symm
  | cons e rest ih =>
    rw [List.foldl_cons, ih, getElem?_tie, Option.map_map]
    rfl

theorem getElem?_tieAll (count : Nat) (ends : List (Option (Nat × Nat))) (i : Nat) :
    (tieAll count ends)[i]? =
      if i < count then some ((ends.filterMap id).foldl (Ties.enter i) {}) else none := by
  rw [tieAll_eq_foldl, getElem?_foldl_tie, Array.getElem?_replicate]
  split
  · rfl
  · rfl

/-! ## The hub -/

/-- The first of the nodes with the largest degree. -/
structure IsHub (g : Graph α) (i : Nat) : Prop where
  inRange : i < g.size
  largest : ∀ j, j < g.size → g.degree j ≤ g.degree i
  first : ∀ j, j < i → g.degree j < g.degree i

theorem IsHub.unique {g : Graph α} {i j : Nat} (hi : g.IsHub i) (hj : g.IsHub j) : i = j := by
  have hij := hi.largest j hj.inRange
  have hji := hj.largest i hi.inRange
  by_contra hne
  rcases Nat.lt_or_gt_of_ne hne with hlt | hlt
  · have := hj.first i hlt
    omega
  · have := hi.first j hlt
    omega

/-- Passing a later index only for a larger value ends at the first of the largest ones. -/
theorem foldl_larger (value : Nat → Nat) {best : Nat} {rest : List Nat}
    (hsorted : (best :: rest).Pairwise (· < ·)) {r : Nat}
    (hr : rest.foldl (fun best i => if value best < value i then i else best) best = r) :
    r ∈ best :: rest ∧ ∀ j ∈ best :: rest, value j ≤ value r ∧ (j < r → value j < value r) := by
  induction rest generalizing best with
  | nil =>
    subst hr
    refine ⟨List.mem_cons_self, fun j hj => ?_⟩
    rw [List.mem_singleton.mp hj]
    exact ⟨Nat.le_refl _, fun h => absurd h (Nat.lt_irrefl _)⟩
  | cons i rest ih =>
    obtain ⟨hbest, htail⟩ := List.pairwise_cons.mp hsorted
    rw [List.foldl_cons] at hr
    have hbi : best < i := hbest i List.mem_cons_self
    by_cases hlarger : value best < value i
    · rw [if_pos hlarger] at hr
      obtain ⟨hmem, hall⟩ := ih htail hr
      have hi := hall i List.mem_cons_self
      refine ⟨List.mem_cons_of_mem _ hmem, fun j hj => ?_⟩
      rcases List.mem_cons.mp hj with rfl | hj
      · omega
      · exact hall j hj
    · rw [if_neg hlarger] at hr
      have hskip : (best :: rest).Pairwise (· < ·) :=
        List.pairwise_cons.mpr ⟨fun j hj => hbest j (List.mem_cons_of_mem i hj),
          (List.pairwise_cons.mp htail).2⟩
      obtain ⟨hmem, hall⟩ := ih hskip hr
      have hb := hall best List.mem_cons_self
      refine ⟨?_, fun j hj => ?_⟩
      · rcases List.mem_cons.mp hmem with rfl | hmem
        · exact List.mem_cons_self
        · exact List.mem_cons_of_mem _ (List.mem_cons_of_mem _ hmem)
      · rcases List.mem_cons.mp hj with rfl | hj
        · exact hb
        · rcases List.mem_cons.mp hj with rfl | hj
          -- the index that was passed over is no larger than the one kept
          · refine ⟨by omega, fun hjr => ?_⟩
            have := hb.2 (by omega)
            omega
          · exact hall j (List.mem_cons_of_mem best hj)

theorem isHub_of_hub? {g : Graph α} {i : Nat} (h : g.hub? = some i) : g.IsHub i := by
  unfold hub? at h
  split at h
  · exact absurd h.symm (Option.some_ne_none i)
  · rename_i first rest hrange
    have hmem (j : Nat) : j ∈ first :: rest ↔ j < g.size := by rw [← hrange, List.mem_range]
    have hsorted : (first :: rest).Pairwise (· < ·) := hrange ▸ List.pairwise_lt_range
    obtain ⟨hi, hall⟩ := foldl_larger g.degree hsorted (Option.some.inj h)
    have hlt := (hmem i).mp hi
    exact ⟨hlt, fun j hj => (hall j ((hmem j).mpr hj)).1,
      fun j hj => (hall j ((hmem j).mpr (Nat.lt_trans hj hlt))).2 hj⟩

theorem hub?_eq_none_iff (g : Graph α) : g.hub? = none ↔ g.size = 0 := by
  unfold hub?
  split
  · rename_i hrange
    exact iff_of_true rfl (List.range_eq_nil.mp hrange)
  · rename_i hrange
    refine iff_of_false (Option.some_ne_none _) fun hsize => ?_
    rw [hsize] at hrange
    exact absurd hrange.symm (List.cons_ne_nil _ _)

theorem hub?_eq_some_iff (g : Graph α) (i : Nat) : g.hub? = some i ↔ g.IsHub i := by
  refine ⟨isHub_of_hub?, fun hi => ?_⟩
  cases hhub : g.hub? with
  | none =>
    have hsize := (hub?_eq_none_iff g).mp hhub
    have := hi.inRange
    omega
  | some j => rw [(isHub_of_hub? hhub).unique hi]

/-! ## Links and indices -/

/-- A link goes from the node at `i` to the node at `j`. -/
def Joins (g : Graph α) (l : Link α) (i j : Nat) : Prop :=
  g.idAt? i = some l.source ∧ g.idAt? j = some l.target

/-- All that a graph derives from its nodes and links is right, where `links` are the links that
count. -/
structure Consistent (g : Graph α) (links : List (Link α)) : Prop where
  indexed : g.Indexed
  ends : ∀ k l, g.links[k]? = some l → ∀ i j, g.linkEnds? k = some (i, j) ↔ g.Joins l i j
  resolved : g.resolvedLinks.map Prod.fst = links
  successors : ∀ i j, j ∈ g.successors i ↔ ∃ l ∈ links, g.Joins l i j
  predecessors : ∀ i j, i ∈ g.predecessors j ↔ ∃ l ∈ links, g.Joins l i j
  neighbors : ∀ i j, j ∈ g.neighbors i ↔ j ∈ g.successors i ∨ j ∈ g.predecessors i
  symmetric : ∀ i j, j ∈ g.neighbors i ↔ i ∈ g.neighbors j
  increasing : ∀ i, IndexSet.Increasing (g.successors i) ∧
    IndexSet.Increasing (g.predecessors i) ∧ IndexSet.Increasing (g.neighbors i)
  inRange : ∀ i, ∀ j ∈ g.neighbors i, j < g.size
  degree : ∀ i, g.degree i = links.countP (fun l => g.idAt? i = some l.source) +
    links.countP (fun l => g.idAt? i = some l.target)
  degreeSum : ∑ i ∈ Finset.range g.size, g.degree i = 2 * links.length
  hub : ∀ i, g.hub? = some i ↔ g.IsHub i
  noHub : g.hub? = none ↔ g.size = 0

/-- The links whose ends are both nodes. -/
def knownLinks (g : Graph α) : List (Link α) :=
  g.links.filter fun l => g.hasNode l.source && g.hasNode l.target

/-- The ends of these links. -/
def knownEnds (g : Graph α) : List (Nat × Nat) := g.links.filterMap (resolve g.directory)

theorem isSome_resolve (g : Graph α) (l : Link α) :
    (resolve g.directory l).isSome = (g.hasNode l.source && g.hasNode l.target) := by
  unfold resolve hasNode indexOf?
  cases g.directory.lookup l.source with
  | none => rfl
  | some s =>
    cases g.directory.lookup l.target with
    | none => rfl
    | some t => rfl

theorem lt_size_of_idAt? {g : Graph α} {i : Nat} {id : String} (h : g.idAt? i = some id) :
    i < g.size := by
  obtain ⟨n, hn, -⟩ := Option.map_eq_some_iff.mp h
  exact (Array.getElem?_eq_some_iff.mp hn).1

namespace Indexed

variable {g : Graph α}

theorem resolve_iff (h : g.Indexed) (l : Link α) (i j : Nat) :
    resolve g.directory l = some (i, j) ↔ g.Joins l i j := by
  rw [Joins, ← h, ← h]
  unfold resolve indexOf?
  cases g.directory.lookup l.source with
  | none => simp
  | some s =>
    cases g.directory.lookup l.target with
    | none => simp
    | some t => simp

theorem mem_knownEnds (h : g.Indexed) (i j : Nat) :
    (i, j) ∈ g.knownEnds ↔ ∃ l ∈ g.knownLinks, g.Joins l i j := by
  simp only [knownEnds, List.mem_filterMap, knownLinks, List.mem_filter, ← isSome_resolve]
  constructor
  · rintro ⟨l, hl, hr⟩
    exact ⟨l, ⟨hl, by rw [hr]; rfl⟩, (h.resolve_iff l i j).mp hr⟩
  · rintro ⟨l, ⟨hl, -⟩, hj⟩
    exact ⟨l, hl, (h.resolve_iff l i j).mpr hj⟩

/-- How often a node is at one side of a link: `side` picks the index, `name` the id. -/
theorem count_knownEnds (h : g.Indexed) {side : Nat × Nat → Nat} {name : Link α → String}
    (hside : ∀ l e, resolve g.directory l = some e → g.idAt? (side e) = some (name l)) (i : Nat) :
    (g.knownEnds.map side).count i = g.knownLinks.countP fun l => g.idAt? i = some (name l) := by
  rw [List.count_eq_countP, List.countP_map, knownEnds, List.countP_filterMap, knownLinks,
    List.countP_filter]
  refine List.countP_congr fun l _ => ?_
  rw [← isSome_resolve]
  cases hr : resolve g.directory l with
  | none => simp
  | some e =>
    have hid := hside l e hr
    have hiff : side e = i ↔ g.idAt? i = some (name l) := by
      refine ⟨fun he => he ▸ hid, fun hi => ?_⟩
      have hfound := (h _ _).mpr hid
      rw [(h _ _).mpr hi] at hfound
      exact (Option.some.inj hfound).symm
    simp [hiff]

theorem lt_size_of_mem_knownEnds (h : g.Indexed) {e : Nat × Nat} (he : e ∈ g.knownEnds) :
    e.1 < g.size ∧ e.2 < g.size := by
  obtain ⟨l, -, hs, ht⟩ := (h.mem_knownEnds e.1 e.2).mp he
  exact ⟨lt_size_of_idAt? hs, lt_size_of_idAt? ht⟩

end Indexed

theorem length_knownEnds (g : Graph α) : g.knownEnds.length = g.knownLinks.length := by
  rw [knownEnds, List.length_filterMap_eq_countP, knownLinks, List.countP_eq_length_filter]
  simp only [isSome_resolve]

/-- Every index below `n` counted, nothing is left out. -/
theorem sum_count_eq_length {n : Nat} {is : List Nat} (his : ∀ i ∈ is, i < n) :
    ∑ i ∈ Finset.range n, is.count i = is.length := by
  have hsum := Multiset.sum_count_eq_card (s := Finset.range n) (m := (is : Multiset Nat))
    fun i hi => Finset.mem_range.mpr (his i (Multiset.mem_coe.mp hi))
  simpa only [Multiset.coe_count, Multiset.coe_card] using hsum

theorem resolvedLinks_eq {g : Graph α} (hends : g.ends = g.links.map (resolve g.directory)) :
    g.resolvedLinks =
      g.links.filterMap fun l => (resolve g.directory l).map fun e => (l, e) := by
  rw [resolvedLinks, hends]
  generalize g.links = ls
  induction ls with
  | nil => rfl
  | cons l rest ih =>
    rw [List.map_cons, List.zip_cons_cons]
    cases hr : resolve g.directory l with
    | none =>
      rw [List.filterMap_cons_none (by rfl), List.filterMap_cons_none (by simp [hr])]
      exact ih
    | some e =>
      rw [List.filterMap_cons_some (by rfl), List.filterMap_cons_some (by rw [hr]; rfl), ih]

theorem map_fst_resolvedLinks {g : Graph α} (hends : g.ends = g.links.map (resolve g.directory)) :
    g.resolvedLinks.map Prod.fst = g.knownLinks := by
  rw [resolvedLinks_eq hends, List.map_filterMap, knownLinks, ← List.filterMap_eq_filter]
  refine List.filterMap_congr fun l _ => ?_
  simp only [Option.guard, ← isSome_resolve]
  cases hr : resolve g.directory l with
  | none => rfl
  | some e => rfl

theorem map_snd_resolvedLinks {g : Graph α} (hends : g.ends = g.links.map (resolve g.directory)) :
    g.resolvedLinks.map Prod.snd = g.knownEnds := by
  rw [resolvedLinks_eq hends, List.map_filterMap, knownEnds]
  refine List.filterMap_congr fun l _ => ?_
  rw [Option.map_map]
  exact Option.map_id'

/-! ## Graphs that are built -/

/-- The ends and the ties of a graph are made from its directory and its links, and all ends are at
nodes of the graph. -/
structure Tied (g : Graph α) : Prop where
  ends : g.ends = g.links.map (resolve g.directory)
  ties : ∀ i, (g.tiesAt i).Records i g.knownEnds
  inRange : ∀ e ∈ g.knownEnds, e.1 < g.size ∧ e.2 < g.size

theorem lt_length_of_lookup {nodes : List (Node α)} {id : String} {i : Nat}
    (h : (directoryOf nodes).lookup id = some i) : i < nodes.length := by
  have hmem := mem_of_lookup h
  rw [directoryOf, List.mem_reverse, List.mk_mem_zipIdx_iff_getElem?] at hmem
  simpa using (List.getElem?_eq_some_iff.mp hmem).1

theorem resolve_eq_some_iff {directory : List (String × Nat)} {l : Link α} {e : Nat × Nat} :
    resolve directory l = some e ↔
      directory.lookup l.source = some e.1 ∧ directory.lookup l.target = some e.2 := by
  unfold resolve
  cases directory.lookup l.source with
  | none => simp
  | some s =>
    cases directory.lookup l.target with
    | none => simp
    | some t => simp [Prod.ext_iff]

/-- Whatever a graph is made of, repeated ids too, its ends are at its nodes. -/
theorem tied_ofContent (c : Content α) : (ofContent c).Tied := by
  have hrange : ∀ e ∈ (ofContent c).knownEnds, e.1 < c.nodes.length ∧ e.2 < c.nodes.length := by
    intro e he
    obtain ⟨l, -, hr⟩ := List.mem_filterMap.mp he
    obtain ⟨hs, ht⟩ := resolve_eq_some_iff.mp hr
    exact ⟨lt_length_of_lookup hs, lt_length_of_lookup ht⟩
  refine ⟨rfl, fun i => ?_, hrange⟩
  have hes : (ofContent c).ends.filterMap id = (ofContent c).knownEnds := by
    rw [knownEnds, ofContent, List.filterMap_map]
    rfl
  have hat : (ofContent c).tiesAt i = (ofContent c).knownEnds.foldl (Ties.enter i) {} := by
    rw [tiesAt, ← hes]
    change ((tieAll c.nodes.length (ofContent c).ends)[i]?).getD {} = _
    rw [getElem?_tieAll]
    by_cases hi : i < c.nodes.length
    · rw [if_pos hi, Option.getD_some]
    · -- past the last node there are no ties, and no link has an end there
      rw [if_neg hi, Option.getD_none, hes]
      refine (Ties.foldl_enter_of_notMem (fun e he => ?_) _).symm
      have := hrange e he
      omega
  rw [hat]
  exact Ties.records_foldl i _

theorem Tied.of_shape {g h : Graph α} (hg : g.Tied) (hs : h.shape = g.shape) : h.Tied := by
  have hes : h.knownEnds = g.knownEnds :=
    congrArg (fun s : Shape α => s.links.filterMap (resolve s.directory)) hs
  refine ⟨?_, fun i => ?_, ?_⟩
  · have hends : h.ends = g.ends := congrArg Shape.ends hs
    have hdir : h.directory = g.directory := congrArg Shape.directory hs
    rw [hends, hdir, links_of_shape hs]
    exact hg.ends
  · have hat : h.tiesAt i = g.tiesAt i := congrArg (fun s : Shape α => (s.ties[i]?).getD {}) hs
    rw [hat, hes]
    exact hg.ties i
  · rw [hes, size_of_shape hs]
    exact hg.inRange

/-- The graph was made of some content; its nodes may have been moved, held or pinned since. -/
def Made (g : Graph α) : Prop := ∃ c : Content α, g.shape = (ofContent c).shape

theorem Made.tied {g : Graph α} (hg : g.Made) : g.Tied := by
  obtain ⟨c, hc⟩ := hg
  exact (tied_ofContent c).of_shape hc

/-- The ends and the ties of a graph are made from its ids and its links. -/
structure Built (g : Graph α) : Prop where
  indexed : g.Indexed
  ends : g.ends = g.links.map (resolve g.directory)
  ties : ∀ i, (g.tiesAt i).Records i g.knownEnds

theorem built_ofContent {c : Content α} (hnd : (c.nodes.map Node.id).Nodup) :
    (ofContent c).Built :=
  ⟨indexed_ofContent hnd, rfl, (tied_ofContent c).ties⟩

theorem Built.tied {g : Graph α} (hg : g.Built) : g.Tied :=
  ⟨hg.ends, hg.ties, fun _ he => hg.indexed.lt_size_of_mem_knownEnds he⟩

theorem Built.of_shape {g h : Graph α} (hg : g.Built) (hs : h.shape = g.shape) : h.Built :=
  ⟨hg.indexed.of_shape hs, (hg.tied.of_shape hs).ends, (hg.tied.of_shape hs).ties⟩

namespace Built

variable {g : Graph α}

theorem degree_eq (hg : g.Built) (i : Nat) : g.degree i =
    (g.knownEnds.map Prod.fst).count i + (g.knownEnds.map Prod.snd).count i :=
  (hg.ties i).degree

theorem sum_degree (hg : g.Built) :
    ∑ i ∈ Finset.range g.size, g.degree i = 2 * g.knownLinks.length := by
  have hfst : ∀ i ∈ g.knownEnds.map Prod.fst, i < g.size := by
    intro i hi
    obtain ⟨e, he, rfl⟩ := List.mem_map.mp hi
    exact (hg.indexed.lt_size_of_mem_knownEnds he).1
  have hsnd : ∀ i ∈ g.knownEnds.map Prod.snd, i < g.size := by
    intro i hi
    obtain ⟨e, he, rfl⟩ := List.mem_map.mp hi
    exact (hg.indexed.lt_size_of_mem_knownEnds he).2
  simp only [hg.degree_eq]
  rw [Finset.sum_add_distrib, sum_count_eq_length hfst, sum_count_eq_length hsnd,
    List.length_map, List.length_map, length_knownEnds]
  omega

theorem consistent (hg : g.Built) : g.Consistent g.knownLinks where
  indexed := hg.indexed
  ends k l hl i j := by
    have hk : g.linkEnds? k = resolve g.directory l := by
      rw [linkEnds?, hg.ends, List.getElem?_map, hl]
      rfl
    rw [hk]
    exact hg.indexed.resolve_iff l i j
  resolved := map_fst_resolvedLinks hg.ends
  successors i j := ((hg.ties i).successors j).trans (hg.indexed.mem_knownEnds i j)
  predecessors i j := ((hg.ties j).predecessors i).trans (hg.indexed.mem_knownEnds i j)
  neighbors i j := by
    rw [neighbors, (hg.ties i).neighbors, ← (hg.ties i).successors, ← (hg.ties i).predecessors]
    rfl
  symmetric i j := by
    rw [neighbors, neighbors, (hg.ties i).neighbors, (hg.ties j).neighbors, or_comm]
  increasing i := (hg.ties i).increasing
  inRange i j hj := by
    rcases ((hg.ties i).neighbors j).mp hj with hout | hin
    · exact (hg.indexed.lt_size_of_mem_knownEnds hout).2
    · exact (hg.indexed.lt_size_of_mem_knownEnds hin).1
  degree i := by
    have hsource : ∀ l e, resolve g.directory l = some e → g.idAt? e.1 = some l.source :=
      fun l e hr => ((hg.indexed.resolve_iff l e.1 e.2).mp hr).1
    have htarget : ∀ l e, resolve g.directory l = some e → g.idAt? e.2 = some l.target :=
      fun l e hr => ((hg.indexed.resolve_iff l e.1 e.2).mp hr).2
    rw [hg.degree_eq, hg.indexed.count_knownEnds hsource, hg.indexed.count_knownEnds htarget]
  degreeSum := hg.sum_degree
  hub := g.hub?_eq_some_iff
  noHub := g.hub?_eq_none_iff

end Built

/-! ## Graphs that are read -/

/-- A graph whose links all have their ends among its nodes. -/
structure Closed (g : Graph α) : Prop where
  built : g.Built
  ends : ∀ l ∈ g.links, g.hasNode l.source = true ∧ g.hasNode l.target = true

/-- Two ids are joined by a link, in either direction. -/
def Adjacent (g : Graph α) (a b : String) : Prop :=
  ∃ l ∈ g.links, (l.source = a ∧ l.target = b) ∨ (l.source = b ∧ l.target = a)

namespace Closed

variable {g h : Graph α}

theorem knownLinks_eq (hg : g.Closed) : g.knownLinks = g.links := by
  refine List.filter_eq_self.mpr fun l hl => ?_
  rw [(hg.ends l hl).1, (hg.ends l hl).2]
  rfl

theorem consistent (hg : g.Closed) : g.Consistent g.links := by
  have hcons := hg.built.consistent
  rw [hg.knownLinks_eq] at hcons
  exact hcons

theorem of_shape (hg : g.Closed) (hs : h.shape = g.shape) : h.Closed where
  built := hg.built.of_shape hs
  ends l hl := by
    rw [links_of_shape hs] at hl
    rw [hasNode_of_shape hs, hasNode_of_shape hs]
    exact hg.ends l hl

theorem exists_linkEnds? (hg : g.Closed) {k : Nat} {l : Link α} (hl : g.links[k]? = some l) :
    ∃ i j, g.linkEnds? k = some (i, j) ∧ g.Joins l i j := by
  obtain ⟨hs, ht⟩ := hg.ends l (List.mem_of_getElem? hl)
  obtain ⟨i, hi⟩ := Option.isSome_iff_exists.mp hs
  obtain ⟨j, hj⟩ := Option.isSome_iff_exists.mp ht
  have hjoins : g.Joins l i j := ⟨(hg.built.indexed _ _).mp hi, (hg.built.indexed _ _).mp hj⟩
  exact ⟨i, j, (hg.consistent.ends k l hl i j).mpr hjoins, hjoins⟩

/-- The neighbours of a node bear the ids that a link joins to its own. -/
theorem exists_neighbor_iff (hg : g.Closed) {i : Nat} {id : String} (hi : g.idAt? i = some id)
    (x : String) : (∃ j ∈ g.neighbors i, g.idAt? j = some x) ↔ g.Adjacent id x := by
  have hcons := hg.consistent
  constructor
  · rintro ⟨j, hj, hx⟩
    rcases (hcons.neighbors i j).mp hj with hout | hin
    · obtain ⟨l, hl, hs, ht⟩ := (hcons.successors i j).mp hout
      rw [hi] at hs
      rw [hx] at ht
      exact ⟨l, hl, Or.inl ⟨(Option.some.inj hs).symm, (Option.some.inj ht).symm⟩⟩
    · obtain ⟨l, hl, hs, ht⟩ := (hcons.predecessors j i).mp hin
      rw [hx] at hs
      rw [hi] at ht
      exact ⟨l, hl, Or.inr ⟨(Option.some.inj hs).symm, (Option.some.inj ht).symm⟩⟩
  · rintro ⟨l, hl, ⟨rfl, rfl⟩ | ⟨rfl, rfl⟩⟩
    · obtain ⟨j, hj⟩ := Option.isSome_iff_exists.mp (hg.ends l hl).2
      have hx := (hg.built.indexed _ _).mp hj
      exact ⟨j, (hcons.neighbors i j).mpr (Or.inl ((hcons.successors i j).mpr ⟨l, hl, hi, hx⟩)), hx⟩
    · obtain ⟨j, hj⟩ := Option.isSome_iff_exists.mp (hg.ends l hl).1
      have hx := (hg.built.indexed _ _).mp hj
      exact ⟨j, (hcons.neighbors i j).mpr (Or.inr ((hcons.predecessors j i).mpr ⟨l, hl, hx, hi⟩)), hx⟩

end Closed

theorem closed_empty : (empty : Graph α).Closed where
  built := built_ofContent List.nodup_nil
  ends _ hl := absurd hl List.not_mem_nil

theorem closed_read [Scalar α] (raw : Json) (s : Scatter) :
    ((read raw s).1 : Graph α).Closed where
  built := built_ofContent (Content.read_ids_nodup raw s)
  ends l hl := by
    have hindexed : ((read raw s).1 : Graph α).Indexed := indexed_read raw s
    have hknown {id : String} (hid : id ∈ ((Content.read raw s).1 : Content α).nodes.map Node.id) :
        ((read raw s).1 : Graph α).hasNode id = true := by
      obtain ⟨n, hn, rfl⟩ := List.mem_map.mp hid
      exact (hindexed.hasNode_iff n.id).mpr ⟨n, List.mem_toArray.mpr hn, rfl⟩
    obtain ⟨hs, ht⟩ := Content.ends_mem_ids_read hl
    exact ⟨hknown hs, hknown ht⟩

end Graph
end NodeLink
