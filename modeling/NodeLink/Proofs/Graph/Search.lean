import NodeLink.Graph.Search
import NodeLink.Proofs.Text.LowerCase
import NodeLink.Scalar.Binary
/-!
# What a search finds

A search lists the first nodes that match, in their order. The query is trimmed and lower-cased by
itself, what it is searched in as a whole; so what is on a label is found where the capital sigmas
of the query take the form that they have on the label. A query that cuts a word after a sigma is
not found, since alone its sigma ends a word.

* `Graph.search_eq`: the matching indices up to the limit.
* `Graph.needle_infix_haystack`: a stretch of the label or the path that keeps its sigmas matches.
* `Graph.search_finds`: what is found, and in which order.
* `Graph.search_misses_cutWord`: what is on the label and is not found.
-/

namespace NodeLink.Graph

variable {α : Type}

/-! ## Matches -/

/-- Whether the node at an index matches a query; a blank query matches none. -/
def isMatch (g : Graph α) (query : String) (i : Nat) : Bool :=
  !(needle query).isEmpty && (g.nodes[i]?).any fun n => Text.occursIn (needle query) (haystack n)

theorem map_snd_filter_zipIdx {β : Type} (p : β → Bool) (xs : List β) :
    (xs.zipIdx.filter fun (x, _) => p x).map Prod.snd =
      (List.range xs.length).filter fun i => (xs[i]?).any p := by
  have hpick : xs.zipIdx.filter (fun (x, _) => p x) =
      xs.zipIdx.filter ((fun i => (xs[i]?).any p) ∘ Prod.snd) := by
    refine List.filter_congr fun (x, i) hentry => ?_
    have hget : xs[i]? = some x := List.mem_zipIdx_iff_getElem?.mp hentry
    show p x = (xs[i]?).any p
    rw [hget, Option.any_some]
  rw [hpick, ← List.filter_map, List.zipIdx_map_snd, List.range_eq_range']

theorem search_eq (g : Graph α) (query : String) :
    g.search query = ((List.range g.size).filter (g.isMatch query)).take searchLimit := by
  unfold search isMatch
  cases hblank : (needle query).isEmpty with
  | true => simp [hblank]
  | false =>
    simp only [hblank, Bool.false_eq_true, if_false, Bool.not_false, Bool.true_and]
    rw [map_snd_filter_zipIdx (fun n => Text.occursIn (needle query) (haystack n))]
    simp only [Array.getElem?_toList, Array.length_toList, size]

theorem search_length_le (g : Graph α) (query : String) :
    (g.search query).length ≤ searchLimit := by
  rw [search_eq]
  exact List.length_take_le _ _

theorem search_increasing (g : Graph α) (query : String) :
    (g.search query).Pairwise (· < ·) := by
  rw [search_eq]
  exact (List.pairwise_lt_range.filter _).take

/-- A match is listed unless the list is full before its turn. -/
theorem mem_search_or {g : Graph α} {query : String} {i : Nat} (hi : i < g.size)
    (hmatch : g.isMatch query i = true) :
    i ∈ g.search query ∨ searchLimit ≤ (List.range i).countP (g.isMatch query) := by
  obtain ⟨k, hk⟩ : ∃ k, g.size = i + (1 + k) := ⟨g.size - i - 1, by omega⟩
  rcases Nat.lt_or_ge ((List.range i).countP (g.isMatch query)) searchLimit with hroom | hfull
  · refine Or.inl ?_
    have hrange : List.range g.size = List.range i ++ i :: (List.range k).map (i + 1 + ·) := by
      rw [hk, ← Nat.add_assoc, List.range_add, List.range_succ, List.append_assoc,
        List.singleton_append]
    rw [List.countP_eq_length_filter] at hroom
    rw [search_eq, hrange, List.filter_append, List.filter_cons_of_pos hmatch, List.take_append,
      List.mem_append]
    obtain ⟨room, hroom⟩ : ∃ room, searchLimit -
        ((List.range i).filter (g.isMatch query)).length = room + 1 :=
      Nat.exists_eq_add_one_of_ne_zero (by omega)
    rw [hroom, List.take_succ_cons]
    exact Or.inr List.mem_cons_self
  · exact Or.inr hfull

/-! ## Texts -/

theorem needle_isEmpty {query : String} (h : Text.isBlankText query = false) :
    (needle query).isEmpty = false := by
  obtain ⟨c, hc, hvisible⟩ := List.all_eq_false.mp h
  have htrimmed := Text.trimChars_ne_nil ⟨c, hc, Bool.eq_false_iff.mpr hvisible⟩
  exact Bool.eq_false_iff.mpr fun hempty =>
    Text.lowerCase_ne_nil htrimmed (List.isEmpty_iff.mp hempty)

/-- What is on the label or the path and keeps its sigmas is found in the node's text. -/
theorem needle_infix_haystack {n : Node α} {query : String} {before after : List Char}
    (hshown : n.label.toList = before ++ query.toList ++ after ∨
      n.path.toList = before ++ query.toList ++ after)
    (hkeeps : Text.KeepsSigmas before query.toList after) : needle query <:+: haystack n := by
  obtain ⟨lead, trail, hquery, hlead, htrail⟩ := Text.exists_trimChars query.toList
  have hcore := hkeeps.trim hquery hlead htrail
  have hspace : Text.breaksWord ' ' = true :=
    Text.breaksWord_of_isBlank (Text.isBlank_of_isWhitespace ' ' rfl)
  have hnothing : ([] : List Char).head?.all Text.breaksWord = true ∧
      ([] : List Char).getLast?.all Text.breaksWord = true := ⟨rfl, rfl⟩
  unfold needle haystack
  generalize Text.trimChars query.toList = core at hquery hcore ⊢
  rcases hshown with hlabel | hpath
  · have hedge : (' ' :: n.path.toList).head?.all Text.breaksWord = true := by
      simpa only [List.head?_cons, Option.all_some] using hspace
    have hfound := Text.lowerCase_infix (hcore.widen hnothing.2 hedge)
    rw [hlabel, hquery]
    simpa only [List.append_assoc, List.nil_append, List.cons_append] using hfound
  · have hedge : (n.label.toList ++ [' ']).getLast?.all Text.breaksWord = true := by
      simpa only [List.getLast?_concat, Option.all_some] using hspace
    have hfound := Text.lowerCase_infix (hcore.widen hedge hnothing.1)
    rw [hpath, hquery]
    simpa only [List.append_assoc, List.append_nil, List.cons_append, List.nil_append] using hfound

/-! ## Found and missed -/

/-- The results are in order and at most as many as the limit; and what is on the label or the path
of a node, is not blank and keeps its sigmas finds the node, unless that many matches come
before. -/
theorem search_finds (g : Graph α) (query : String) :
    (g.search query).Pairwise (· < ·) ∧ (g.search query).length ≤ 80 ∧
      ∀ (i : Nat) (n : Node α) (before after : List Char), g.nodes[i]? = some n →
        (n.label.toList = before ++ query.toList ++ after ∨
          n.path.toList = before ++ query.toList ++ after) →
        Text.isBlankText query = false → Text.KeepsSigmas before query.toList after →
        i ∈ g.search query ∨ 80 ≤ (List.range i).countP (g.isMatch query) := by
  refine ⟨g.search_increasing query, g.search_length_le query, ?_⟩
  intro i n before after hnode hshown hvisible hkeeps
  have hi : i < g.size := (Array.getElem?_eq_some_iff.mp hnode).1
  refine mem_search_or hi ?_
  have hfound := (Text.occursIn_iff _ _).mpr (needle_infix_haystack hshown hkeeps)
  rw [isMatch, needle_isEmpty hvisible, hnode, Option.any_some, hfound]
  rfl

/-- A graph of one node with a label. -/
def labelled (label : String) : Graph Float :=
  ofContent ⟨[{ Node.stub "n" Point.origin with label := label }], []⟩

theorem search_finds_wordEnd : 0 ∈ (labelled "ΜΙΑ ΟΔΟΣ").search "ΔΟΣ" := by
  have hfound := (search_finds (labelled "ΜΙΑ ΟΔΟΣ") "ΔΟΣ").2.2 0 _ "ΜΙΑ Ο".toList [] rfl
    (Or.inl rfl) (by decide +kernel) (by decide +kernel)
  exact hfound.resolve_right (by decide)

/-- Part of a word, cut after a sigma, is on the label and is not found. -/
theorem search_misses_cutWord :
    ¬ ∀ (g : Graph Float) (query : String) (i : Nat) (n : Node Float) (before after : List Char),
      g.nodes[i]? = some n →
      (n.label.toList = before ++ query.toList ++ after ∨
        n.path.toList = before ++ query.toList ++ after) →
      Text.isBlankText query = false →
      i ∈ g.search query ∨ 80 ≤ (List.range i).countP (g.isMatch query) := by
  intro hfinds
  have hfound := hfinds (labelled "ΑΣΑ") "ΑΣ" 0 _ [] ['Α'] rfl (Or.inl rfl) (by decide +kernel)
  have hmissed : (labelled "ΑΣΑ").search "ΑΣ" = [] := by decide +kernel
  rw [hmissed] at hfound
  exact hfound.elim List.not_mem_nil (by decide)

end NodeLink.Graph
