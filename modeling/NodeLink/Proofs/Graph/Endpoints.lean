import Mathlib.Data.Nat.Find
import NodeLink.Proofs.Graph.Entries
import NodeLink.Proofs.Graph.Ties
/-!
# Ends that name an entry

An end of a link names an entry of the node list by the value that is its id, or by a record with
the same `id` and `key`. Entries look for their ids under two keys, and ends under two more, after
these; so both come to the same text, and the end is resolved to the first entry that has it.

* `Content.Names`: how an end names an entry; `endText_of_names`.
* `Content.find?_distinctNodes`: the first node of an id is the one that is kept.
* `Graph.entry_end_resolves`: an end that names an entry is no stub.
-/

namespace NodeLink

/-! ## Keys in turn -/

namespace Json.Members

theorem first?_append (ms : Members) (keys more : List String) :
    ms.first? (keys ++ more) = (ms.first? keys).or (ms.first? more) :=
  List.findSome?_append

theorem first?_congr {ms ms' : Members} {keys : List String}
    (h : ∀ k ∈ keys, ms'.get? k = ms.get? k) : ms'.first? keys = ms.first? keys := by
  unfold first?
  induction keys with
  | nil => rfl
  | cons k rest ih =>
    rw [List.findSome?_cons, List.findSome?_cons, h k List.mem_cons_self,
      ih fun k' hk' => h k' (List.mem_cons_of_mem k hk')]

end Json.Members

namespace Content

/-- An end names the entry of a record: it is the value under which the record has its id, or a
record that agrees with it in `id` and `key`. -/
inductive Names (record : Json.Members) : Json → Prop where
  | value {v : Json} (h : record.first? idKeys = some v) : Names record v
  | alike {other : Json.Members} (hid : other.get? "id" = record.get? "id")
    (hkey : other.get? "key" = record.get? "key") : Names record (.object other)

theorem endText_of_scalarText? {v : Json} {t : String} (hv : scalarText? v = some t) :
    endText (some v) = t := by
  cases v with
  | null => exact absurd hv.symm (Option.some_ne_none t)
  | array items => exact absurd hv.symm (Option.some_ne_none t)
  | object ms => exact absurd hv.symm (Option.some_ne_none t)
  | string s => exact Option.some.inj hv
  | number n => exact Option.some.inj hv
  | bool b => exact Option.some.inj hv

/-- What names an entry is coerced to the id of the entry. -/
theorem endText_of_names {record : Json.Members} {w : Json} (hw : Names record w) {t : String}
    (hid : textField? record idKeys = some t) : endText (some w) = t := by
  obtain ⟨v, hv, ht⟩ := Option.bind_eq_some_iff.mp hid
  cases hw with
  | value h =>
    rw [hv] at h
    rw [← Option.some.inj h]
    exact endText_of_scalarText? ht
  | alike hsameId hsameKey =>
    rename_i other
    have hsame : other.first? idKeys = record.first? idKeys := by
      refine Json.Members.first?_congr fun k hk => ?_
      rcases List.mem_cons.mp hk with rfl | hk
      · exact hsameId
      · rw [List.mem_singleton.mp hk]
        exact hsameKey
    -- ends go on with other keys only where entries have found nothing
    have hfirst : other.first? endKeys = some v := by
      rw [show endKeys = idKeys ++ ["name", "path"] from rfl, Json.Members.first?_append, hsame, hv,
        Option.some_or]
    show (textField? other endKeys).getD "" = t
    rw [textField?, hfirst, Option.bind_some, ht, Option.getD_some]

/-! ## The first of an id -/

variable {α : Type}

theorem find?_distinctNodes {seen : List String} {id : String} (hid : id ∉ seen)
    (nodes : List (Node α)) :
    (distinctNodes seen nodes).find? (fun n => n.id = id) = nodes.find? fun n => n.id = id := by
  induction nodes generalizing seen with
  | nil => rfl
  | cons n rest ih =>
    rw [distinctNodes]
    by_cases hn : n.id = id
    · have hkept : n.id ∉ seen := hn ▸ hid
      rw [if_neg hkept, List.find?_cons_of_pos (by simpa using hn),
        List.find?_cons_of_pos (by simpa using hn)]
    · rw [List.find?_cons_of_neg (by simpa using hn)]
      split
      · exact ih hid
      · rw [List.find?_cons_of_neg (by simpa using hn)]
        exact ih fun hmem => (List.mem_cons.mp hmem).elim (fun h => hn h.symm) hid

/-- The entry at `m` is the first of its id. -/
def IsFirst (entries : List Json) (m : Nat) (entry : Json) (id : String) : Prop :=
  entries[m]? = some entry ∧ idAt m entry = id ∧
    ∀ m' e', m' < m → entries[m']? = some e' → idAt m' e' ≠ id

/-- Of the entries with an id there is a first one. -/
theorem exists_isFirst {entries : List Json} {id : String} {m : Nat} {entry : Json}
    (he : entries[m]? = some entry) (hid : idAt m entry = id) :
    ∃ m' e', IsFirst entries m' e' id := by
  have hany : ∃ m e, entries[m]? = some e ∧ idAt m e = id := ⟨m, entry, he, hid⟩
  classical
  obtain ⟨e', he', hid'⟩ := Nat.find_spec hany
  exact ⟨Nat.find hany, e', he', hid', fun k e hk hke heq => Nat.find_min hany hk ⟨e, hke, heq⟩⟩

theorem named_of_ne {l : Link α} (hsource : l.source ≠ "") (htarget : l.target ≠ "") :
    named l = true := by
  simp [named, hsource, htarget]

variable [Scalar α]

/-- The node of the first entry of an id is kept. -/
theorem exists_declared (s : Scatter) {entries : List Json} {id : String} {m : Nat} {entry : Json}
    (hfirst : IsFirst entries m entry id) :
    ∃ i : Nat, (declared s entries)[i]? = some (entryNode s entries m entry : Node α) := by
  obtain ⟨he, hid, hbefore⟩ := hfirst
  have hnode : (entryNode s entries m entry : Node α).id = id := hid
  have hfind : (entries.mapIdx (entryNode s entries) : List (Node α)).find? (fun n => n.id = id) =
      some (entryNode s entries m entry) := by
    refine List.find?_eq_some_iff_getElem.mpr ⟨decide_eq_true hnode, m, ?_, ?_, fun k hk => ?_⟩
    · rw [List.length_mapIdx]
      exact (List.getElem?_eq_some_iff.mp he).1
    · rw [List.getElem_mapIdx, (List.getElem?_eq_some_iff.mp he).2]
    · have hlt : k < entries.length := hk.trans (List.getElem?_eq_some_iff.mp he).1
      have hother : idAt k entries[k] ≠ id := hbefore k _ hk (List.getElem?_eq_getElem hlt)
      rw [List.getElem_mapIdx, Bool.not_eq_true', decide_eq_false_iff_not]
      exact hother
  rw [← find?_distinctNodes List.not_mem_nil, ← declared_eq_distinctNodes] at hfind
  exact List.getElem?_of_mem (List.mem_of_find?_eq_some hfind)

/-- The place that an element keeps when others are left out. -/
theorem getElem?_filter {β : Type} {p : β → Bool} {xs : List β} {k : Nat} {x : β}
    (hx : xs[k]? = some x) (hp : p x = true) : (xs.filter p)[(xs.take k).countP p]? = some x := by
  obtain ⟨hk, rfl⟩ := List.getElem?_eq_some_iff.mp hx
  have hsplit : xs = xs.take k ++ xs[k] :: xs.drop (k + 1) := by
    rw [← List.drop_eq_getElem_cons hk, List.take_append_drop]
  have hfilter : xs.filter p = (xs.take k).filter p ++ xs[k] :: (xs.drop (k + 1)).filter p := by
    conv_lhs => rw [hsplit]
    rw [List.filter_append, List.filter_cons_of_pos hp]
  rw [hfilter, List.countP_eq_length_filter, List.getElem?_append_right le_rfl, Nat.sub_self]
  rfl

end Content

namespace Graph

open Content

variable {α : Type} [Scalar α]

/-- The node at an index is that of the first entry of an id, among those of the entries, before all
stubs. -/
def IsDeclared (g : Graph α) (raw : Json) (s : Scatter) (id : String) (i : Nat) : Prop :=
  ∃ m entry, IsFirst (nodeEntries raw) m entry id ∧
    (declared s (nodeEntries raw))[i]? =
      some (entryNode s (nodeEntries raw) m entry : Node α) ∧
    g.nodes[i]? = some (entryNode s (nodeEntries raw) m entry)

theorem nodes_read (raw : Json) (s : Scatter) {i : Nat} {n : Node α}
    (hn : (declared s (nodeEntries raw))[i]? = some n) :
    (read raw s).1.nodes[i]? = some n := by
  show ((Content.read raw s).1 : Content α).nodes.toArray[i]? = some n
  rw [List.getElem?_toArray, read_eq]
  exact (List.getElem?_append_left (List.getElem?_eq_some_iff.mp hn).1).trans hn

/-- Whatever bears the id of an entry is its node or that of an earlier one. -/
theorem isDeclared_of_idAt? {raw : Json} {s : Scatter} {id : String} {i m : Nat} {entry : Json}
    (he : (nodeEntries raw)[m]? = some entry) (hid : idAt m entry = id)
    (hi : ((read raw s).1 : Graph α).idAt? i = some id) :
    ((read raw s).1 : Graph α).IsDeclared raw s id i := by
  obtain ⟨m', entry', hfirst⟩ := exists_isFirst he hid
  obtain ⟨j, hj⟩ := exists_declared (α := α) s hfirst
  have hnode := nodes_read raw s hj
  obtain ⟨n, hn, hnid⟩ := Option.map_eq_some_iff.mp hi
  have hsame : n.id = (entryNode s (nodeEntries raw) m' entry' : Node α).id :=
    hnid.trans hfirst.2.1.symm
  obtain rfl := (indexed_read raw s).id_inj hn hnode hsame
  exact ⟨m', entry', hfirst, hj, hnode⟩

variable (α) in
/-- How many links there are before that of the record at `k`. -/
def linkPlace (raw : Json) (k : Nat) : Nat :=
  ((linkRecords raw).take k).countP fun l => named (linkOf l : Link α)

theorem links_read {raw : Json} (s : Scatter) {k : Nat} {l : Json.Members}
    (hl : (linkRecords raw)[k]? = some l) (hnamed : named (linkOf l : Link α) = true) :
    ((read raw s).1 : Graph α).links[linkPlace α raw k]? = some (linkOf l) := by
  have hlinks : ((read raw s).1 : Graph α).links =
      ((linkRecords raw).filter fun l => named (linkOf l : Link α)).map linkOf := by
    show ((Content.read raw s).1 : Content α).links = _
    rw [read_eq]
    exact List.filter_map
  rw [hlinks, List.getElem?_map, linkPlace, getElem?_filter hl hnamed, Option.map_some]

/-! ## Main result -/

/-- Let an entry of the node list carry an id that is not empty, and let one end of a link record
name the entry while its other end is not empty. Then the record has its link in the graph, at its
place among the links, and that end is resolved to the node of the first entry with the id. -/
theorem entry_end_resolves (raw : Json) (s : Scatter) {record : Json.Members} {id : String}
    (hentry : .object record ∈ nodeEntries raw) (hid : textField? record idKeys = some id)
    (hne : id ≠ "") {w : Json} (hw : Names record w) {k : Nat} {l : Json.Members}
    (hl : (linkRecords raw)[k]? = some l) :
    let g : Graph α := (read raw s).1
    (l.first? ["source", "from"] = some w → endText (l.first? ["target", "to"]) ≠ "" →
      g.links[linkPlace α raw k]? = some (linkOf l) ∧
      ∃ i j, g.linkEnds? (linkPlace α raw k) = some (i, j) ∧ g.IsDeclared raw s id i) ∧
    (l.first? ["target", "to"] = some w → endText (l.first? ["source", "from"]) ≠ "" →
      g.links[linkPlace α raw k]? = some (linkOf l) ∧
      ∃ i j, g.linkEnds? (linkPlace α raw k) = some (i, j) ∧ g.IsDeclared raw s id j) := by
  intro g
  have htext : endText (some w) = id := endText_of_names hw hid
  obtain ⟨m, hm⟩ := List.getElem?_of_mem hentry
  have hidAt : idAt m (.object record) = id := idAt_of_ownId? hid
  have hclosed : g.Closed := closed_read raw s
  constructor
  · intro hsource htarget
    have hname : (linkOf l : Link α).source = id := by rw [linkOf, hsource, htext]
    have hlink : g.links[linkPlace α raw k]? = some (linkOf l) :=
      links_read s hl (named_of_ne (hname ▸ hne) htarget)
    obtain ⟨i, j, hends, hi, -⟩ := hclosed.exists_linkEnds? hlink
    exact ⟨hlink, i, j, hends, isDeclared_of_idAt? hm hidAt (hname ▸ hi)⟩
  · intro htarget hsource
    have hname : (linkOf l : Link α).target = id := by rw [linkOf, htarget, htext]
    have hlink : g.links[linkPlace α raw k]? = some (linkOf l) :=
      links_read s hl (named_of_ne hsource (hname ▸ hne))
    obtain ⟨i, j, hends, -, hj⟩ := hclosed.exists_linkEnds? hlink
    exact ⟨hlink, i, j, hends, isDeclared_of_idAt? hm hidAt (hname ▸ hj)⟩

/-- A link between an entry that is named by a record, with its id under the second key, and one
that is named by a number; the first entry of all has no id. -/
def namedEnds : Json :=
  .object [
    ("links", .array [.string "no record", .object [
      ("source", .object [("id", .null), ("key", .string "k"), ("name", .string "other")]),
      ("target", .number (.int 42))]]),
    ("nodes", .array [.object [("label", .string "first")],
      .object [("id", .null), ("key", .string "k")], .object [("id", .number (.int 42))],
      .object [("key", .string "k"), ("label", .string "again")]])]

theorem entry_end_resolves_namedEnds :
    let g : Graph Float := (read namedEnds ⟨0⟩).1
    textField? [("id", .null), ("key", .string "k")] idKeys = some "k" ∧
      textField? [("id", .number (.int 42))] idKeys = some "42" ∧
      (∃ i j, g.linkEnds? 0 = some (i, j) ∧ g.IsDeclared namedEnds ⟨0⟩ "k" i) ∧
      ∃ i j, g.linkEnds? 0 = some (i, j) ∧ g.IsDeclared namedEnds ⟨0⟩ "42" j := by
  have hkey : textField? [("id", .null), ("key", .string "k")] idKeys = some "k" := by decide
  have hnumber : textField? [("id", .number (.int 42))] idKeys = some "42" := by decide
  have hrecord : Names [("id", .null), ("key", .string "k")]
      (.object [("id", .null), ("key", .string "k"), ("name", .string "other")]) := .alike rfl rfl
  have hvalue : Names [("id", .number (.int 42))] (.number (.int 42)) := .value rfl
  have hsource := (entry_end_resolves (α := Float) namedEnds ⟨0⟩
    (List.mem_cons_of_mem _ List.mem_cons_self) hkey (by decide) hrecord (k := 0) rfl).1 rfl
    (by decide)
  have htarget := (entry_end_resolves (α := Float) namedEnds ⟨0⟩
    (List.mem_cons_of_mem _ (List.mem_cons_of_mem _ List.mem_cons_self)) hnumber (by decide)
    hvalue (k := 0) rfl).2 rfl (by decide)
  exact ⟨hkey, hnumber, hsource.2, htarget.2⟩

end Graph

end NodeLink
