import NodeLink.Proofs.Graph.Content
/-!
# Entries that are kept

An entry without an id is named by its number in the list, and so shares the ids that other entries
carry. If one of them carries that number, the two have one id, and the later one is dropped as a
repetition. This is the only way in which an entry is lost when the ids carried are distinct.

* `Content.Contested`: the number of an entry without an id is the id of another.
* `Content.entries_kept_iff`: every entry has its node exactly if no number is contested.
-/

namespace NodeLink.Content

/-- The id that an entry carries. -/
def ownId? (entry : Json) : Option String := textField? (entry.members?.getD []) idKeys

/-- An entry carries as its id the number of an entry that has none. -/
def Contested (entries : List Json) : Prop :=
  ∃ i e, entries[i]? = some e ∧ ownId? e = none ∧ Decimal.natText i ∈ entries.filterMap ownId?

instance (entries : List Json) : Decidable (Contested entries) :=
  decidable_of_iff (∃ i : Fin entries.length, ownId? entries[i] = none ∧
      Decimal.natText i ∈ entries.filterMap ownId?) <| by
    constructor
    · rintro ⟨i, hown, hmem⟩
      exact ⟨i, entries[i], List.getElem?_eq_getElem i.isLt, hown, hmem⟩
    · rintro ⟨i, e, he, hown, hmem⟩
      obtain ⟨hi, rfl⟩ := List.getElem?_eq_some_iff.mp he
      exact ⟨⟨i, hi⟩, hown, hmem⟩

variable {α : Type}

theorem distinctNodes_eq_self {seen : List String} {nodes : List (Node α)}
    (hseen : ∀ n ∈ nodes, n.id ∉ seen) (hids : (nodes.map Node.id).Nodup) :
    distinctNodes seen nodes = nodes := by
  induction nodes generalizing seen with
  | nil => rfl
  | cons n rest ih =>
    obtain ⟨hn, hrest⟩ := List.nodup_cons.mp hids
    rw [distinctNodes, if_neg (hseen n List.mem_cons_self), ih ?_ hrest]
    intro m hm hmem
    rcases List.mem_cons.mp hmem with heq | hmem
    · exact hn (List.mem_map.mpr ⟨m, hm, heq⟩)
    · exact hseen m (List.mem_cons_of_mem n hm) hmem

/-! ## Ids of entries -/

/-- The id of the entry at a place of the list, its own or else its number. -/
def idAt (i : Nat) (entry : Json) : String := (ownId? entry).getD (Decimal.natText i)

theorem idAt_of_ownId? {i : Nat} {e : Json} {id : String} (h : ownId? e = some id) :
    idAt i e = id := by
  rw [idAt, h, Option.getD_some]

theorem idAt_of_none {i : Nat} {e : Json} (h : ownId? e = none) :
    idAt i e = Decimal.natText i := by
  rw [idAt, h, Option.getD_none]

theorem contested_of_idAt_eq {entries : List Json} {i j : Nat} {e e' : Json}
    (he : entries[i]? = some e) (hown : ownId? e = none) (he' : entries[j]? = some e')
    {id : String} (hid : ownId? e' = some id) (heq : Decimal.natText i = id) :
    Contested entries :=
  ⟨i, e, he, hown, List.mem_filterMap.mpr ⟨e', List.mem_of_getElem? he', by rw [hid, heq]⟩⟩

/-- Of two entries of one id both carry it, or one is contested. -/
theorem idAt_ne {entries : List Json} (hdistinct : (entries.filterMap ownId?).Nodup)
    (hfree : ¬Contested entries) {i j : Nat} (hij : i < j) {e e' : Json}
    (he : entries[i]? = some e) (he' : entries[j]? = some e') : idAt i e ≠ idAt j e' := by
  intro heq
  -- two numbers differ as the places do, and two ids carried are distinct
  cases hown : ownId? e with
  | none =>
    rw [idAt_of_none hown] at heq
    cases hown' : ownId? e' with
    | none =>
      rw [idAt_of_none hown'] at heq
      exact absurd (Decimal.natText_inj heq) (Nat.ne_of_lt hij)
    | some id =>
      rw [idAt_of_ownId? hown'] at heq
      exact hfree (contested_of_idAt_eq he hown he' hown' heq)
  | some id =>
    rw [idAt_of_ownId? hown] at heq
    cases hown' : ownId? e' with
    | none =>
      rw [idAt_of_none hown'] at heq
      exact hfree (contested_of_idAt_eq he' hown' he hown heq.symm)
    | some id' =>
      rw [idAt_of_ownId? hown'] at heq
      obtain ⟨hi, rfl⟩ := List.getElem?_eq_some_iff.mp he
      obtain ⟨hj, rfl⟩ := List.getElem?_eq_some_iff.mp he'
      have hpair := List.pairwise_iff_getElem.mp (List.pairwise_filterMap.mp hdistinct) i j hi hj hij
      exact hpair id hown id' hown' heq

variable [Scalar α]

theorem ids_entryNode (s : Scatter) (entries : List Json) :
    (entries.mapIdx (entryNode s entries) : List (Node α)).map Node.id = entries.mapIdx idAt :=
  map_mapIdx _ _ _

theorem nodup_mapIdx_idAt {entries : List Json} (hdistinct : (entries.filterMap ownId?).Nodup)
    (hfree : ¬Contested entries) : (entries.mapIdx idAt).Nodup := by
  refine List.pairwise_iff_getElem.mpr fun i j hi hj hij => ?_
  rw [List.length_mapIdx] at hi hj
  rw [List.getElem_mapIdx, List.getElem_mapIdx]
  exact idAt_ne hdistinct hfree hij (List.getElem?_eq_getElem hi) (List.getElem?_eq_getElem hj)

/-! ## Main result -/

/-- Every entry has its node, at its own place of the list. -/
def KeepsEntries (raw : Json) (s : Scatter) (c : Content α) : Prop :=
  ∀ i e, (nodeEntries raw)[i]? = some e → c.nodes[i]? = some (entryNode s (nodeEntries raw) i e)

theorem keepsEntries_read {raw : Json} {s : Scatter}
    (hdistinct : ((nodeEntries raw).filterMap ownId?).Nodup)
    (hfree : ¬Contested (nodeEntries raw)) : KeepsEntries raw s ((read raw s).1 : Content α) := by
  intro i e he
  have hdeclared : (declared s (nodeEntries raw) : List (Node α)) =
      (nodeEntries raw).mapIdx (entryNode s (nodeEntries raw)) := by
    rw [declared_eq_distinctNodes]
    refine distinctNodes_eq_self (fun n _ => List.not_mem_nil) ?_
    rw [ids_entryNode]
    exact nodup_mapIdx_idAt hdistinct hfree
  have hlength : i < ((nodeEntries raw).mapIdx
      (entryNode s (nodeEntries raw) : Nat → Json → Node α)).length := by
    rw [List.length_mapIdx]
    exact (List.getElem?_eq_some_iff.mp he).1
  rw [read_eq]
  dsimp only
  rw [hdeclared, List.getElem?_append_left hlength, List.getElem?_mapIdx, he, Option.map_some]

/-- Two places of the list do not have one id. -/
theorem eq_of_id_read {raw : Json} {s : Scatter} {i j : Nat} {n m : Node α}
    (hn : ((read raw s).1 : Content α).nodes[i]? = some n)
    (hm : ((read raw s).1 : Content α).nodes[j]? = some m) (hid : n.id = m.id) : i = j := by
  have hids : (((read raw s).1 : Content α).nodes.map Node.id).Nodup := read_ids_nodup raw s
  have hi : i < (((read raw s).1 : Content α).nodes.map Node.id).length := by
    rw [List.length_map]
    exact (List.getElem?_eq_some_iff.mp hn).1
  refine (List.getElem?_inj hi hids).mp ?_
  rw [List.getElem?_map, List.getElem?_map, hn, hm, Option.map_some, Option.map_some, hid]

theorem not_contested_of_keeps {raw : Json} {s : Scatter}
    (hkeeps : KeepsEntries raw s ((read raw s).1 : Content α)) : ¬Contested (nodeEntries raw) := by
  rintro ⟨i, e, he, hown, hmem⟩
  obtain ⟨e', he', hid⟩ := List.mem_filterMap.mp hmem
  obtain ⟨j, hj⟩ := List.getElem?_of_mem he'
  have hsame : (entryNode s (nodeEntries raw) i e : Node α).id =
      (entryNode s (nodeEntries raw) j e' : Node α).id :=
    (idAt_of_none hown).trans (idAt_of_ownId? hid).symm
  have hij : i = j := eq_of_id_read (hkeeps i e he) (hkeeps j e' hj) hsame
  rw [← hij, he, Option.some.injEq] at hj
  rw [hj, hid] at hown
  exact Option.some_ne_none _ hown

/-- Let no two entries carry one id. Then every entry has its node, in its place of the list,
exactly if no entry carries the number of an entry without an id. In that case such an entry is
named by its number, and no other node is. -/
theorem entries_kept_iff (raw : Json) (s : Scatter)
    (hdistinct : ((nodeEntries raw).filterMap ownId?).Nodup) :
    let c : Content α := (read raw s).1
    (KeepsEntries raw s c ↔ ¬Contested (nodeEntries raw)) ∧
      (¬Contested (nodeEntries raw) → ∀ i e, (nodeEntries raw)[i]? = some e → ownId? e = none →
        c.nodes[i]?.map Node.id = some (Decimal.natText i) ∧
          ∀ j n, c.nodes[j]? = some n → n.id = Decimal.natText i → j = i) := by
  intro c
  refine ⟨⟨not_contested_of_keeps, keepsEntries_read hdistinct⟩, fun hfree i e he hown => ?_⟩
  have hnode : c.nodes[i]? = some (entryNode s (nodeEntries raw) i e) :=
    keepsEntries_read hdistinct hfree i e he
  have hid : (entryNode s (nodeEntries raw) i e : Node α).id = Decimal.natText i :=
    idAt_of_none hown
  constructor
  · rw [hnode, Option.map_some, hid]
  · intro j n hn heq
    exact eq_of_id_read hn hnode (heq.trans hid.symm)

/-! ## Examples -/

/-- The second entry has no id, and its number is the id of the first. -/
def contestedRecord : Json :=
  .object [("nodes", .array [
    .object [("id", .string "1"), ("x", .number (.int 0)), ("y", .number (.int 0))],
    .object [("label", .string "second"), ("x", .number (.int 30)), ("y", .number (.int 40))]])]

/-- No id is carried twice, and yet of two entries one is lost. -/
theorem not_keeps_contestedRecord :
    ((nodeEntries contestedRecord).filterMap ownId?).Nodup ∧
      (nodeEntries contestedRecord).length = 2 ∧
      ((read contestedRecord ⟨0⟩).1 : Content Float).nodes.length = 1 ∧
      ¬KeepsEntries contestedRecord ⟨0⟩ ((read contestedRecord ⟨0⟩).1 : Content Float) :=
  ⟨by decide, rfl, by decide +kernel,
    fun hkeeps => not_contested_of_keeps hkeeps (by decide)⟩

/-- An id, a number as an id, an entry without an id, and one that is no record at all. -/
def mixedRecord : Json :=
  .object [("nodes", .array [.object [("id", .string "1")], .object [("key", .number (.int 7))],
    .object [("label", .string "third")], .string "1"])]

theorem entries_kept_iff_mixedRecord :
    let c : Content Float := (read mixedRecord ⟨0⟩).1
    ((nodeEntries mixedRecord).filterMap ownId?).Nodup ∧ KeepsEntries mixedRecord ⟨0⟩ c ∧
      c.nodes[3]?.map Node.id = some "3" := by
  have hdistinct : ((nodeEntries mixedRecord).filterMap ownId?).Nodup := by decide
  have hfree : ¬Contested (nodeEntries mixedRecord) := by decide
  obtain ⟨hkept, hnumbered⟩ := entries_kept_iff (α := Float) mixedRecord ⟨0⟩ hdistinct
  exact ⟨hdistinct, hkept.mpr hfree, (hnumbered hfree 3 (.string "1") rfl rfl).1⟩

end NodeLink.Content
