import Mathlib.Data.String.Basic
import NodeLink.Panel
import NodeLink.Proofs.Graph.Ties
/-!
# How much a panel shows

Of the details a panel shows the first keys, and of each long text the first characters with an
ellipsis; of the neighbours it lists the first ones. A text that is cut is one character over the
limit, so it is cut again, and then the ellipsis is taken off and put back.

* `Json.Members.Ordered`: members in the order of their keys.
* `Panel.Cut`, `Panel.Trims`: values and members against what is left of them.
* `Panel.trimDetails_trimDetails`: details that are trimmed stay as they are.
* `Panel.LeadsUp`, `Panel.Lists`: the way up and the neighbours against the links of a graph.
* `Panel.trims_and_lists`: all of this for every value and for every graph.
-/

namespace NodeLink

/-! ## Members in order -/

namespace Json.Members

/-- The members stand in the order of their keys, each key once. -/
def Ordered (ms : Members) : Prop := (ms.map Prod.fst).Pairwise (· < ·)

/-- What is found among the first members is found among all. -/
theorem get?_of_take {ms : Members} {n : Nat} {k : String} {v : Json}
    (h : get? (ms.take n) k = some v) : ms.get? k = some v := by
  induction ms generalizing n with
  | nil => rwa [List.take_nil] at h
  | cons m rest ih =>
    obtain ⟨k', v'⟩ := m
    cases n with
    | zero => exact absurd h.symm (Option.some_ne_none v)
    | succ n =>
      rw [get?, List.take_succ_cons, List.lookup_cons] at h
      rw [get?, List.lookup_cons]
      split
      · rename_i hk
        rw [hk] at h
        exact h
      · rename_i hk
        rw [hk] at h
        exact ih h

theorem get?_map (ms : Members) (f : Json → Json) (k : String) :
    get? (ms.map fun (k, v) => (k, f v)) k = (ms.get? k).map f := by
  induction ms with
  | nil => rfl
  | cons m rest ih =>
    obtain ⟨k', v⟩ := m
    rw [get?, List.map_cons, List.lookup_cons, get?, List.lookup_cons]
    split
    · rfl
    · exact ih

end Json.Members

namespace Panel

/-! ## Details -/

/-- A value and what is left of it: a text within the limit and any other value are kept whole, and
a longer text goes on to the limit and ends in an ellipsis. -/
inductive Cut : Json → Json → Prop where
  | whole {v : Json} (h : ∀ s, v = .string s → s.toList.length ≤ textLimit) : Cut v v
  | short {s t : String} (hs : textLimit < s.toList.length)
    (ht : t.toList = s.toList.take textLimit ++ [ellipsis]) : Cut (.string s) (.string t)

theorem cut_cutText (v : Json) : Cut v (cutText v) := by
  cases v with
  | string s =>
    rw [cutText]
    split
    · rename_i hlong
      exact .short hlong String.toList_ofList
    · rename_i hshort
      exact .whole fun t ht => Json.string.inj ht ▸ not_lt.mp hshort
  | null => exact .whole fun _ h => Json.noConfusion h
  | bool b => exact .whole fun _ h => Json.noConfusion h
  | number n => exact .whole fun _ h => Json.noConfusion h
  | array items => exact .whole fun _ h => Json.noConfusion h
  | object ms => exact .whole fun _ h => Json.noConfusion h

theorem cutText_of_cut {v w : Json} (h : Cut v w) : cutText v = w := by
  cases h with
  | whole h =>
    cases v with
    | string s => rw [cutText, if_neg (not_lt.mpr (h s rfl))]
    | null => rfl
    | bool b => rfl
    | number n => rfl
    | array items => rfl
    | object ms => rfl
  | short hs ht => rw [cutText, if_pos hs, ← ht, String.ofList_toList]

/-- What is left of a value is left of itself. -/
theorem Cut.again {v w : Json} (h : Cut v w) : Cut w w := by
  cases h with
  | whole h => exact .whole h
  | short hs ht =>
    rename_i s t
    have hlength : (s.toList.take textLimit).length = textLimit :=
      List.length_take_of_le (Nat.le_of_lt hs)
    refine .short ?_ ?_
    · rw [ht, List.length_append, hlength]
      exact Nat.lt_succ_self _
    · -- the ellipsis is what stands past the limit
      conv_rhs => rw [ht, List.take_append_of_le_length hlength.ge, List.take_take, Nat.min_self]
      exact ht

theorem cutText_cutText (v : Json) : cutText (cutText v) = cutText v :=
  cutText_of_cut (cut_cutText v).again

/-- Members and what is left of them: the first keys, and their values cut. -/
structure Trims (ms os : Json.Members) : Prop where
  keys : os.map Prod.fst = (ms.map Prod.fst).take keyLimit
  ordered : ms.Ordered → os.Ordered
  values : ∀ k w, os.get? k = some w → ∃ v, ms.get? k = some v ∧ Cut v w

/-- A value and what is left of it when it is trimmed. -/
inductive Trimmed : Json → Json → Prop where
  | other {m : Json} (h : m.isObject = false) : Trimmed m m
  | object {ms os : Json.Members} (h : Trims ms os) : Trimmed (.object ms) (.object os)

theorem trims_take (ms : Json.Members) :
    Trims ms ((ms.take keyLimit).map fun (k, v) => (k, cutText v)) := by
  have hkeys : ((ms.take keyLimit).map fun (k, v) => (k, cutText v)).map Prod.fst =
      (ms.map Prod.fst).take keyLimit := by
    rw [List.map_map, List.map_take]
    rfl
  refine ⟨hkeys, fun h => ?_, fun k w hw => ?_⟩
  · rw [Json.Members.Ordered, hkeys]
    exact h.take
  · rw [Json.Members.get?_map] at hw
    obtain ⟨v, hv, rfl⟩ := Option.map_eq_some_iff.mp hw
    exact ⟨v, Json.Members.get?_of_take hv, cut_cutText v⟩

theorem trimmed_trimDetails (m : Json) : Trimmed m (trimDetails m) := by
  cases m with
  | object ms => exact .object (trims_take ms)
  | null => exact .other rfl
  | bool b => exact .other rfl
  | number n => exact .other rfl
  | string s => exact .other rfl
  | array items => exact .other rfl

theorem trimDetails_trimDetails (m : Json) : trimDetails (trimDetails m) = trimDetails m := by
  cases m with
  | object ms =>
    have hagain : (fun (k, v) => (k, cutText v)) ∘ (fun (k, v) => (k, cutText v)) =
        fun (m : String × Json) => (m.1, cutText m.2) :=
      funext fun m => congrArg (Prod.mk m.1) (cutText_cutText m.2)
    rw [trimDetails, trimDetails, ← List.map_take, List.take_take, Nat.min_self, List.map_map,
      hagain]
  | null => rfl
  | bool b => rfl
  | number n => rfl
  | string s => rfl
  | array items => rfl

end Panel

/-! ## Lists -/

namespace Graph

variable {α : Type}

/-- A link goes from the node at `i` to the node at `j`. -/
def Leads (g : Graph α) (i j : Nat) : Prop := ∃ l, (l, i, j) ∈ g.resolvedLinks

theorem Tied.leads_iff {g : Graph α} (hg : g.Tied) (i j : Nat) :
    g.Leads i j ↔ (i, j) ∈ g.knownEnds := by
  rw [← map_snd_resolvedLinks hg.ends, List.mem_map]
  constructor
  · rintro ⟨l, hl⟩
    exact ⟨_, hl, rfl⟩
  · rintro ⟨⟨l, e⟩, hl, rfl⟩
    exact ⟨l, hl⟩

/-- The node at an index has the id of a directory. -/
def DirectoryAt (g : Graph α) (i : Nat) : Prop :=
  ∃ n rest, g.nodes[i]? = some n ∧ n.id = Panel.directoryMark ++ rest

end Graph

namespace Panel

variable {α : Type} {g : Graph α}

theorem isDirectory_iff (n : Node α) :
    isDirectory n = true ↔ ∃ rest, n.id = directoryMark ++ rest := by
  rw [isDirectory, List.isPrefixOf_iff_prefix]
  constructor
  · rintro ⟨rest, hrest⟩
    refine ⟨String.ofList rest, String.toList_inj.mp ?_⟩
    rw [String.toList_append, String.toList_ofList, hrest]
  · rintro ⟨rest, hrest⟩
    rw [hrest, String.toList_append]
    exact List.prefix_append _ _

theorem map_some_nodesAt {is : List Nat} (his : ∀ i ∈ is, i < g.size) :
    (nodesAt g is).map some = is.map fun i => g.nodes[i]? := by
  induction is with
  | nil => rfl
  | cons i rest ih =>
    obtain ⟨n, hn⟩ : ∃ n, g.nodes[i]? = some n :=
      ⟨_, Array.getElem?_eq_getElem (his i List.mem_cons_self)⟩
    rw [nodesAt, List.filterMap_cons_some hn, List.map_cons, List.map_cons, hn]
    exact congrArg (_ :: ·) (ih fun j hj => his j (List.mem_cons_of_mem i hj))

/-- The first node of a kind among those at some indices is that at the first index of one. -/
theorem find?_nodesAt (p : Node α → Bool) (is : List Nat) :
    (nodesAt g is).find? p =
      (is.find? fun i => (g.nodes[i]?).any p).bind fun i => g.nodes[i]? := by
  induction is with
  | nil => rfl
  | cons i rest ih =>
    cases hi : g.nodes[i]? with
    | none =>
      rw [nodesAt, List.filterMap_cons_none hi, List.find?_cons_of_neg (by simp [hi])]
      exact ih
    | some n =>
      rw [nodesAt, List.filterMap_cons_some hi]
      by_cases hn : p n = true
      · rw [List.find?_cons_of_pos hn, List.find?_cons_of_pos (by simpa [hi] using hn),
          Option.bind_some, hi]
      · rw [List.find?_cons_of_neg hn, List.find?_cons_of_neg (by simpa [hi] using hn)]
        exact ih

/-- What is found first in an increasing list is the least of its kind. -/
theorem least_of_find? {is : IndexSet} (his : is.Increasing) {q : Nat → Bool} {i : Nat}
    (hi : is.find? q = some i) : i ∈ is ∧ q i = true ∧ ∀ k ∈ is, k < i → q k = false := by
  obtain ⟨hqi, before, after, rfl, hbefore⟩ := List.find?_eq_some_iff_append.mp hi
  refine ⟨List.mem_append_right _ List.mem_cons_self, hqi, fun k hk hlt => ?_⟩
  rcases List.mem_append.mp hk with hk | hk
  · simpa using hbefore k hk
  · have hle : i ≤ k := by
      rcases List.mem_cons.mp hk with rfl | hk
      · exact le_rfl
      · exact (List.rel_of_pairwise_cons (List.pairwise_append.mp his).2.1 hk).le
    omega

/-- The way up from the node at `i`: the first of the directories that have a link to it, or the
overview if there is none. -/
inductive LeadsUp (g : Graph α) (i : Nat) : Crumb → Prop where
  | parent {j : Nat} {n : Node α} (hlink : g.Leads j i) (hdir : g.DirectoryAt j)
    (hfirst : ∀ k, k < j → g.Leads k i → ¬g.DirectoryAt k) (hn : g.nodes[j]? = some n) :
    LeadsUp g i (.parent n.id n.label)
  | overview (hnone : ∀ j, g.Leads j i → ¬g.DirectoryAt j) : LeadsUp g i .overview

theorem directoryAt_iff (g : Graph α) (j : Nat) :
    g.DirectoryAt j ↔ (g.nodes[j]?).any isDirectory = true := by
  unfold Graph.DirectoryAt
  cases g.nodes[j]? with
  | none => simp
  | some n => simp [isDirectory_iff]

theorem leadsUp_crumbOf (hg : g.Tied) (i : Nat) : LeadsUp g i (crumbOf g i) := by
  have hlinks (j : Nat) : g.Leads j i ↔ j ∈ g.predecessors i :=
    (hg.leads_iff j i).trans ((hg.ties i).predecessors j).symm
  rw [crumbOf, find?_nodesAt]
  cases hfind : (g.predecessors i).find? fun j => (g.nodes[j]?).any isDirectory with
  | none =>
    refine .overview fun j hj hdir => ?_
    exact List.find?_eq_none.mp hfind j ((hlinks j).mp hj) ((directoryAt_iff g j).mp hdir)
  | some j =>
    obtain ⟨hj, hdir, hleast⟩ := least_of_find? (hg.ties i).increasing.2.1 hfind
    obtain ⟨n, rest, hn, hid⟩ := (directoryAt_iff g j).mpr hdir
    rw [Option.bind_some, hn]
    refine .parent ((hlinks j).mpr hj) ⟨n, rest, hn, hid⟩ (fun k hk hlink hat => ?_) hn
    have hother := hleast k ((hlinks k).mp hlink) hk
    rw [(directoryAt_iff g k).mp hat] at hother
    exact Bool.noConfusion hother

/-- What a panel of the node at `i` lists: the first of its neighbours in their order, each of them,
and the way up. -/
structure Lists (g : Graph α) (i : Nat) (d : Panel) : Prop where
  neighbors : ∃ js : IndexSet, js.Increasing ∧ (∀ j, j ∈ js ↔ g.Leads i j ∨ g.Leads j i) ∧
    d.neighbors.map some = (js.take neighborLimit).map fun j => (g.nodes[j]?).map neighborOf
  crumb : LeadsUp g i d.crumb

theorem lists_of? (hg : g.Tied) {i : Nat} {extra : Option Json} {d : Panel}
    (hd : of? g i extra = some d) : Lists g i d := by
  obtain ⟨n, -, rfl⟩ := Option.map_eq_some_iff.mp hd
  have hmem (j : Nat) : j ∈ g.neighbors i ↔ (i, j) ∈ g.knownEnds ∨ (j, i) ∈ g.knownEnds :=
    (hg.ties i).neighbors j
  have hrange : ∀ j ∈ (g.neighbors i).take neighborLimit, j < g.size := by
    intro j hj
    rcases (hmem j).mp (List.mem_of_mem_take hj) with hout | hin
    · exact (hg.inRange _ hout).2
    · exact (hg.inRange _ hin).1
  refine ⟨⟨g.neighbors i, (hg.ties i).increasing.2.2, fun j => ?_, ?_⟩, leadsUp_crumbOf hg i⟩
  · rw [hmem, hg.leads_iff, hg.leads_iff]
  · calc ((nodesAt g ((g.neighbors i).take neighborLimit)).map neighborOf).map some
        = ((nodesAt g ((g.neighbors i).take neighborLimit)).map some).map
            (Option.map neighborOf) := by
          rw [List.map_map, List.map_map]
          rfl
      _ = ((g.neighbors i).take neighborLimit).map fun j => (g.nodes[j]?).map neighborOf := by
          rw [map_some_nodesAt hrange, List.map_map]
          rfl

theorem of?_eq_none_iff (i : Nat) (extra : Option Json) : of? g i extra = none ↔ g.size ≤ i := by
  rw [of?, Option.map_eq_none_iff, Array.getElem?_eq_none_iff]
  rfl

/-! ## Main result -/

/-- Trimming leaves a value as it is, if it is no record, and of a record the first keys with their
long texts cut; what is trimmed is not changed by trimming it again. A panel can be had of every
node of a graph that is made of any content: it lists the first of the nodes that links join to it,
in the order of their indices, and leads up to the first directory with a link to it, whatever takes
the place of the details. -/
theorem trims_and_lists :
    (∀ m : Json, Trimmed m (trimDetails m) ∧ trimDetails (trimDetails m) = trimDetails m) ∧
    ∀ g : Graph α, g.Made → ∀ (i : Nat) (extra : Option Json),
      (of? g i extra = none ↔ g.size ≤ i) ∧ ∀ d, of? g i extra = some d → Lists g i d :=
  ⟨fun m => ⟨trimmed_trimDetails m, trimDetails_trimDetails m⟩,
    fun _ hg i extra => ⟨of?_eq_none_iff i extra, fun _ hd => lists_of? hg.tied hd⟩⟩

/-- A file in two directories, with a link to another file; it has been pushed away. -/
def sharedFile : Graph Float :=
  let node (id : String) : Node Float := .stub id Point.origin
  let link (source target : String) : Link Float := ⟨source, target, 1⟩
  (Graph.ofContent
    { nodes := [node "other", node "dir:b", node "dir:a", node "file"]
      links := [link "file" "other", link "dir:a" "file", link "dir:b" "file"] }).modify "file"
    fun n => n.restAt ⟨10, 0⟩

theorem made_sharedFile : sharedFile.Made := ⟨_, Graph.shape_modify _ _ fun _ => rfl⟩

theorem trims_and_lists_sharedFile :
    sharedFile.Made ∧ ∃ d, of? sharedFile 3 none = some d ∧ Lists sharedFile 3 d ∧
      d.crumb = .parent "dir:b" "dir:b" ∧
      d.neighbors.map PanelNeighbor.id = ["other", "dir:b", "dir:a"] :=
  ⟨made_sharedFile, _, rfl, (trims_and_lists.2 sharedFile made_sharedFile 3 none).2 _ rfl,
    by decide, by decide⟩

end Panel
end NodeLink
