import Mathlib.Data.List.Induction
import NodeLink.Proofs.Graph.Directory
import NodeLink.Scalar.Binary
/-!
# What is read from a record

The reader goes over the entries with the ids seen so far and the scattered places left. Here its
result is said without either: which entries count, which ids are missing, and which point of the
stream every node gets.

* `Scatter.point`: the points of a stream by their number.
* `readNodes_eq`, `distinctNodes_eq`, `missing_eq`, `placeStubs_eq`: each loop in closed form.
* `Normalized`: a content against the record it was read from; `read_normalized`.
-/

namespace NodeLink

/-! ## The points of a stream -/

namespace Scatter

/-- The stream after its next `k` points. -/
def after (s : Scatter) : Nat → Scatter
  | 0 => s
  | k + 1 => ⟨(s.after k).seed + 2⟩

theorem after_after (s : Scatter) (j k : Nat) : (s.after j).after k = s.after (j + k) := by
  induction k with
  | zero => rfl
  | succ k ih =>
    rw [after, ih]
    rfl

variable {α : Type} [Scalar α]

/-- The point that is drawn after `k` others. -/
def point (s : Scatter) (k : Nat) : Point α := (s.after k).next.1

theorem after_next (s : Scatter) (k : Nat) :
    (s.next (α := α)).2.after k = s.after (k + 1) := by
  rw [show (s.next (α := α)).2 = s.after 1 from rfl, after_after, Nat.add_comm]

theorem point_after (s : Scatter) (j k : Nat) :
    ((s.after j).point k : Point α) = s.point (j + k) := by
  rw [point, after_after, point]

theorem point_next (s : Scatter) (k : Nat) :
    (s.next (α := α)).2.point k = (s.point (k + 1) : Point α) := by
  rw [point, after_next]
  rfl

end Scatter

namespace Content

variable {α : Type}

/-! ## Repeated and missing ids -/

theorem filter_notMem_cons {β : Type} (key : β → String) (k : String) (seen : List String)
    (xs : List β) : (xs.filter fun x => key x ∉ seen).filter (fun x => (key x == k) = false) =
      xs.filter fun x => key x ∉ k :: seen := by
  rw [List.filter_filter]
  refine List.filter_congr fun x _ => ?_
  by_cases hx : key x = k
  · simp [hx]
  · simp [hx]

theorem distinctNodes_eq (seen : List String) (nodes : List (Node α)) :
    distinctNodes seen nodes =
      (nodes.filter fun n => n.id ∉ seen).eraseDupsBy fun a b => a.id == b.id := by
  induction nodes generalizing seen with
  | nil => rfl
  | cons n rest ih =>
    rw [distinctNodes]
    by_cases hn : n.id ∈ seen
    · rw [if_pos hn, ih, List.filter_cons_of_neg (by simpa using hn)]
    · rw [if_neg hn, ih, List.filter_cons_of_pos (by simpa using hn), List.eraseDupsBy_cons,
        filter_notMem_cons Node.id n.id]

theorem distinctNodes_sublist (seen : List String) (nodes : List (Node α)) :
    (distinctNodes seen nodes).Sublist nodes := by
  induction nodes generalizing seen with
  | nil => exact List.Sublist.slnil
  | cons n rest ih =>
    rw [distinctNodes]
    split
    · exact (ih seen).cons n
    · exact (ih (n.id :: seen)).cons_cons n

theorem missing_eq (seen ids : List String) :
    missing seen ids = (ids.filter fun id => id ∉ seen).eraseDups := by
  induction ids generalizing seen with
  | nil => rfl
  | cons k rest ih =>
    rw [missing]
    by_cases hk : k ∈ seen
    · rw [if_pos hk, ih, List.filter_cons_of_neg (by simpa using hk)]
    · rw [if_neg hk, ih, List.filter_cons_of_pos (by simpa using hk), List.eraseDups,
        List.eraseDups, List.eraseDupsBy_cons, filter_notMem_cons (fun id => id) k]

variable [Scalar α]

/-! ## Entries and stubs -/

/-- The place that an entry gives. -/
def ownPlace? (entry : Json) : Option (Point α) := place? (entry.members?.getD [])

theorem isFinite_of_finiteNumber? {v : Option Json} {x : α} (h : finiteNumber? v = some x) :
    Scalar.isFinite x = true :=
  (Option.filter_eq_some_iff.mp h).2

theorem isFinite_of_ownPlace? {entry : Json} {p : Point α} (h : ownPlace? entry = some p) :
    p.isFinite = true := by
  unfold ownPlace? place? at h
  split at h
  · rename_i x y hx hy
    rw [← Option.some.inj h, Point.isFinite, isFinite_of_finiteNumber? hx,
      isFinite_of_finiteNumber? hy]
    rfl
  · exact absurd h.symm (Option.some_ne_none p)

variable (α) in
/-- How many of the entries draw a point of the stream: those that give no place. -/
def draws (entries : List Json) : Nat :=
  entries.countP fun e => (ownPlace? e : Option (Point α)).isNone

/-- The node of the entry at `i`: at the place it gives, or else at the point that comes after those
drawn by the entries before it. -/
def entryNode (s : Scatter) (entries : List Json) (i : Nat) (entry : Json) : Node α :=
  nodeAt i entry ((ownPlace? entry).getD (s.point (draws α (entries.take i))))

theorem readNodes_eq (index : Nat) (s : Scatter) (entries : List Json) :
    readNodes index s entries =
      (entries.mapIdx fun i e => nodeAt (index + i) e
        ((ownPlace? e : Option (Point α)).getD (s.point (draws α (entries.take i)))),
        s.after (draws α entries)) := by
  induction entries generalizing index s with
  | nil => rfl
  | cons e rest ih =>
    have hindex (i : Nat) : index + 1 + i = index + (i + 1) := by omega
    rw [readNodes, List.mapIdx_cons]
    cases hown : (ownPlace? e : Option (Point α)) with
    | some p =>
      have hread : (readNode index e s : Node α × Scatter) = (nodeAt index e p, s) := by
        rw [readNode, show place? (e.members?.getD []) = some p from hown]
      have hdraws (es : List Json) : draws α (e :: es) = draws α es := by
        simp only [draws, List.countP_cons, hown, Option.isNone_some, Bool.false_eq_true, if_false,
          Nat.add_zero]
      simp only [hread, ih, hindex, List.take_succ_cons, hdraws]
      rfl
    | none =>
      have hread : (readNode index e s : Node α × Scatter) =
          (nodeAt index e s.next.1, (s.next (α := α)).2) := by
        rw [readNode, show (place? (e.members?.getD []) : Option (Point α)) = none from hown]
      have hdraws (es : List Json) : draws α (e :: es) = draws α es + 1 := by
        simp only [draws, List.countP_cons, hown, Option.isNone_none, if_true]
      simp only [hread, ih, hindex, List.take_succ_cons, hdraws, Scatter.point_next,
        Scatter.after_next]
      rfl

theorem placeStubs_eq (s : Scatter) (ids : List String) :
    placeStubs s ids =
      (ids.mapIdx fun k id => (Node.stub id (s.point k) : Node α), s.after ids.length) := by
  induction ids generalizing s with
  | nil => rfl
  | cons id rest ih =>
    rw [placeStubs, List.mapIdx_cons]
    simp only [ih, Scatter.point_next, Scatter.after_next]
    rfl

/-! ## Links -/

/-- The link that a record describes, if both its ends are there. -/
def linkOf (record : Json.Members) : Link α where
  source := endText (record.first? ["source", "from"])
  target := endText (record.first? ["target", "to"])
  weight := ((finiteNumber? (record.first? ["w", "weight"])).filter
    fun (w : α) => decide (0 < w)).getD 1

/-- Whether a link names both its ends. -/
def named (l : Link α) : Bool := !l.source.isEmpty && !l.target.isEmpty

theorem readLink?_eq (entry : Json) :
    (readLink? entry : Option (Link α)) = (entry.members?.map linkOf).filter named := by
  unfold readLink?
  cases entry.members? with
  | none => rfl
  | some record =>
    simp only [Option.bind_eq_bind, Option.bind_some, Option.map_some, Option.filter_some,
      linkOf, named, ← Bool.not_or]
    cases (endText (record.first? ["source", "from"])).isEmpty ||
        (endText (record.first? ["target", "to"])).isEmpty with
    | false => rfl
    | true => rfl

theorem filterMap_readLink? (entries : List Json) :
    (entries.filterMap readLink? : List (Link α)) =
      ((entries.filterMap Json.members?).map linkOf).filter named := by
  rw [← List.filterMap_eq_filter, ← List.filterMap_eq_map, List.filterMap_filterMap,
    List.filterMap_filterMap]
  congr 1
  funext entry
  rw [readLink?_eq]
  cases entry.members? with
  | none => rfl
  | some record => rfl

/-! ## The record as a whole -/

def nodeEntries (raw : Json) : List Json := listField (raw.members?.getD []) ["nodes"]

def linkRecords (raw : Json) : List Json.Members :=
  (listField (raw.members?.getD []) ["links", "edges"]).filterMap Json.members?

/-- The nodes of the entries, of each id the first. -/
def declared (s : Scatter) (entries : List Json) : List (Node α) :=
  (entries.mapIdx (entryNode s entries)).eraseDupsBy fun a b => a.id == b.id

/-- The ends of the links that are no node, in the order of their first mention. -/
def undeclared (nodes : List (Node α)) (links : List (Link α)) : List String :=
  ((links.flatMap fun l => [l.source, l.target]).filter
    fun id => id ∉ nodes.map Node.id).eraseDups

theorem read_eq (raw : Json) (s : Scatter) :
    read raw s =
      let nodes : List (Node α) := declared s (nodeEntries raw)
      let links := ((linkRecords raw).map linkOf).filter named
      let ids := undeclared nodes links
      let drawn := draws α (nodeEntries raw)
      (⟨nodes ++ ids.mapIdx fun k id => Node.stub id (s.point (drawn + k)), links⟩,
        s.after (drawn + ids.length)) := by
  unfold read
  cases hm : raw.members? with
  | none =>
    simp only [nodeEntries, linkRecords, hm]
    rfl
  | some record =>
    have hentries : nodeEntries raw = listField record ["nodes"] := by
      rw [nodeEntries, hm, Option.getD_some]
    have hrecords : linkRecords raw =
        (listField record ["links", "edges"]).filterMap Json.members? := by
      rw [linkRecords, hm, Option.getD_some]
    have hkeep : ∀ nodes : List (Node α), (nodes.filter fun n => n.id ∉ []) = nodes :=
      fun nodes => List.filter_eq_self.mpr fun n _ => by simp
    simp only [readNodes_eq, distinctNodes_eq, hkeep, filterMap_readLink?, missing_eq,
      placeStubs_eq, Scatter.point_after, Scatter.after_after, ← hentries, ← hrecords,
      Nat.zero_add]
    rfl

/-! ## Turns -/

variable (α) in
/-- How many points were drawn before the entry at `i` draws its own; none if it gives its place. -/
def turn? (entries : List Json) (i : Nat) (entry : Json) : Option Nat :=
  if (ownPlace? entry : Option (Point α)).isSome then none
  else some (draws α (entries.take i))

/-- The turns of the entries are all numbers up to the number of points drawn, each once. -/
theorem filterMap_turn? (entries : List Json) :
    (entries.mapIdx (turn? α entries)).filterMap id = List.range (draws α entries) := by
  induction entries using List.reverseRecOn with
  | nil => rfl
  | append_singleton entries e ih =>
    have hbefore : entries.mapIdx (turn? α (entries ++ [e])) = entries.mapIdx (turn? α entries) := by
      refine List.mapIdx_eq_mapIdx_iff.mpr fun i hi => ?_
      rw [turn?, turn?, List.take_append_of_le_length (Nat.le_of_lt hi)]
    rw [List.mapIdx_concat, hbefore, List.filterMap_append, ih, turn?, List.take_left, draws, draws,
      List.countP_append, List.countP_singleton]
    cases (ownPlace? e : Option (Point α)) with
    | none => exact List.range_succ.symm
    | some p => exact List.append_nil _

/-- Where a node stands, given its turn: at the point of the stream, or at the place that an entry
gives and that is finite. -/
def Stands (s : Scatter) (entries : List Json) (n : Node α) : Option Nat → Prop
  | some k => n.position = s.point k
  | none => ∃ i e p, entries[i]? = some e ∧ ownPlace? e = some p ∧ p.isFinite = true ∧
      n = nodeAt i e p

theorem stands_entryNode (s : Scatter) {entries : List Json} {i : Nat} {e : Json}
    (he : entries[i]? = some e) :
    Stands s entries (entryNode s entries i e : Node α) (turn? α entries i e) := by
  unfold turn? entryNode
  cases hown : (ownPlace? e : Option (Point α)) with
  | none => rfl
  | some p => exact ⟨i, e, p, he, hown, isFinite_of_ownPlace? hown, rfl⟩

theorem declared_eq_distinctNodes (s : Scatter) (entries : List Json) :
    (declared s entries : List (Node α)) = distinctNodes [] (entries.mapIdx (entryNode s entries)) := by
  have hkeep (nodes : List (Node α)) : (nodes.filter fun n => n.id ∉ []) = nodes :=
    List.filter_eq_self.mpr fun n _ => by simp
  rw [distinctNodes_eq, hkeep, declared]

theorem map_mapIdx {β γ δ : Type} (f : Nat → β → γ) (g : γ → δ) (xs : List β) :
    (xs.mapIdx f).map g = xs.mapIdx fun i x => g (f i x) := by
  apply List.ext_getElem?
  intro i
  rw [List.getElem?_map, List.getElem?_mapIdx, List.getElem?_mapIdx, Option.map_map]
  rfl

/-- Declared nodes stand where their entries say, or have a turn each among those of the entries. -/
theorem exists_seats_declared (s : Scatter) (entries : List Json) :
    ∃ seats : List (Node α × Option Nat), seats.map Prod.fst = declared s entries ∧
      (∀ seat ∈ seats, Stands s entries seat.1 seat.2) ∧
      (seats.filterMap Prod.snd).Sublist (List.range (draws α entries)) := by
  let all : List (Node α × Option Nat) :=
    entries.mapIdx fun i e => (entryNode s entries i e, turn? α entries i e)
  have hfst : all.map Prod.fst = entries.mapIdx (entryNode s entries) := map_mapIdx _ _ _
  have hsnd : all.map Prod.snd = entries.mapIdx (turn? α entries) := map_mapIdx _ _ _
  have hall : ∀ seat ∈ all, Stands s entries seat.1 seat.2 := by
    intro seat hseat
    obtain ⟨i, hi, rfl⟩ := List.mem_mapIdx.mp hseat
    exact stands_entryNode s (List.getElem?_eq_getElem hi)
  have hsub : (declared s entries).Sublist (all.map Prod.fst) := by
    rw [declared_eq_distinctNodes, hfst]
    exact distinctNodes_sublist _ _
  -- an entry that repeats an id loses its seat, and its turn is taken by no other
  obtain ⟨kept, hkept, hdeclared⟩ := List.sublist_map_iff.mp hsub
  have hturns : all.filterMap Prod.snd = List.range (draws α entries) := by
    rw [← filterMap_turn?, ← hsnd, List.filterMap_map]
    rfl
  refine ⟨kept, hdeclared.symm, fun seat hseat => hall seat (hkept.subset hseat), ?_⟩
  rw [← hturns]
  exact hkept.filterMap _

/-- Each node stands where its entry says, or has a turn in the stream that no other node has. -/
theorem exists_seats (s : Scatter) (entries : List Json) (ids : List String) :
    ∃ seats : List (Node α × Option Nat),
      seats.map Prod.fst = declared s entries ++
        ids.mapIdx (fun k id => Node.stub id (s.point (draws α entries + k))) ∧
      (∀ seat ∈ seats, Stands s entries seat.1 seat.2) ∧
      (seats.filterMap Prod.snd).Pairwise (· < ·) := by
  obtain ⟨kept, hkept, hstands, hturns⟩ := exists_seats_declared (α := α) s entries
  let stubs : List (Node α × Option Nat) :=
    (ids.mapIdx fun k id => (Node.stub id (s.point (draws α entries + k)), draws α entries + k)).map
      fun seat => (seat.1, some seat.2)
  have hfst : stubs.map Prod.fst =
      ids.mapIdx fun k id => Node.stub id (s.point (draws α entries + k)) := by
    rw [List.map_map]
    exact map_mapIdx _ _ _
  have hsnd : stubs.filterMap Prod.snd = ids.mapIdx fun k _ => draws α entries + k := by
    rw [List.filterMap_map]
    exact (congrFun List.filterMap_eq_map _).trans (map_mapIdx _ _ _)
  refine ⟨kept ++ stubs, ?_, ?_, ?_⟩
  · rw [List.map_append, hkept, hfst]
  · intro seat hseat
    rcases List.mem_append.mp hseat with hseat | hseat
    · exact hstands seat hseat
    · obtain ⟨stub, hstub, rfl⟩ := List.mem_map.mp hseat
      obtain ⟨k, hk, rfl⟩ := List.mem_mapIdx.mp hstub
      rfl
  · rw [List.filterMap_append, hsnd, List.pairwise_append]
    refine ⟨List.Pairwise.sublist hturns List.pairwise_lt_range, ?_, ?_⟩
    · rw [List.pairwise_iff_getElem]
      intro i j hi hj hij
      rw [List.getElem_mapIdx, List.getElem_mapIdx]
      omega
    · intro a ha b hb
      have hlt := List.mem_range.mp (hturns.subset ha)
      obtain ⟨k, hk, rfl⟩ := List.mem_mapIdx.mp hb
      omega

/-! ## Weights and radii -/

theorem weight_linkOf (hone : Scalar.isFinite (1 : α) = true ∧ (0 : α) < 1)
    (record : Json.Members) : Scalar.isFinite (linkOf record : Link α).weight = true ∧
      0 < (linkOf record : Link α).weight := by
  unfold linkOf
  dsimp only
  cases hw : (finiteNumber? (record.first? ["w", "weight"])).filter
      fun (w : α) => decide (0 < w) with
  | none => exact hone
  | some w =>
    obtain ⟨hfinite, hpos⟩ := Option.filter_eq_some_iff.mp hw
    exact ⟨isFinite_of_finiteNumber? hfinite, of_decide_eq_true hpos⟩

theorem radius_nodeAt (index : Nat) (entry : Json) (place : Point α) :
    let n := nodeAt index entry place
    n.radius = Node.defaultRadius ∨ Scalar.isFinite n.radius = true ∧ 0 < n.radius := by
  unfold nodeAt
  dsimp only
  cases hr : (finiteNumber? ((entry.members?.getD []).get? "r")).filter
      fun (r : α) => decide (0 < r) with
  | none => exact Or.inl rfl
  | some r =>
    obtain ⟨hfinite, hpos⟩ := Option.filter_eq_some_iff.mp hr
    exact Or.inr ⟨isFinite_of_finiteNumber? hfinite, of_decide_eq_true hpos⟩

/-! ## Main result -/

/-- A content is what a record says: the links of the records that name both ends; the nodes of the
entries, of each id the first, and then a stub for each end that is no node. The stream has been
taken from once for each entry without a place and once for each stub. -/
structure Normalized (raw : Json) (s : Scatter) (c : Content α) (rest : Scatter) : Prop where
  links : c.links = ((linkRecords raw).map linkOf).filter named
  weights : ∀ l ∈ c.links, Scalar.isFinite l.weight = true ∧ 0 < l.weight
  nodes : c.nodes = declared s (nodeEntries raw) ++
    (undeclared (declared s (nodeEntries raw)) c.links).mapIdx
      fun k id => Node.stub id (s.point (draws α (nodeEntries raw) + k))
  rest : rest = s.after (draws α (nodeEntries raw) +
    (undeclared (declared s (nodeEntries raw)) c.links).length)
  ids : (c.nodes.map Node.id).Nodup
  ends : ∀ l ∈ c.links, l.source ∈ c.nodes.map Node.id ∧ l.target ∈ c.nodes.map Node.id
  radii : ∀ n ∈ c.nodes, 0 < n.radius
  places : ∃ seats : List (Node α × Option Nat), seats.map Prod.fst = c.nodes ∧
    (∀ seat ∈ seats, Stands s (nodeEntries raw) seat.1 seat.2) ∧
    (seats.filterMap Prod.snd).Pairwise (· < ·)

theorem ids_read (raw : Json) (s : Scatter) : ((read raw s).1 : Content α).nodes.map Node.id =
    (declared s (nodeEntries raw) : List (Node α)).map Node.id ++
      undeclared (declared s (nodeEntries raw)) ((read raw s).1 : Content α).links := by
  rw [read_eq]
  dsimp only
  rw [List.map_append, map_mapIdx]
  congr 1
  apply List.ext_getElem?
  intro i
  rw [List.getElem?_mapIdx]
  exact Option.map_id'

theorem ends_mem_ids_read {raw : Json} {s : Scatter} {l : Link α} (hl : l ∈ (read raw s).1.links) :
    l.source ∈ ((read raw s).1 : Content α).nodes.map Node.id ∧
      l.target ∈ ((read raw s).1 : Content α).nodes.map Node.id := by
  have hmentioned {id : String} (hid : id ∈ [l.source, l.target]) :
      id ∈ ((read raw s).1 : Content α).nodes.map Node.id := by
    rw [ids_read, List.mem_append, undeclared, List.mem_eraseDups, List.mem_filter,
      List.mem_flatMap, decide_eq_true_eq]
    by_cases hknown : id ∈ (declared s (nodeEntries raw) : List (Node α)).map Node.id
    · exact Or.inl hknown
    · exact Or.inr ⟨⟨l, hl, hid⟩, hknown⟩
  exact ⟨hmentioned List.mem_cons_self, hmentioned (List.mem_cons_of_mem _ List.mem_cons_self)⟩

/-- A node has the radius of every node or one of its own. -/
theorem radius_cases {raw : Json} {s : Scatter} {n : Node α} (hn : n ∈ (read raw s).1.nodes) :
    n.radius = Node.defaultRadius ∨ Scalar.isFinite n.radius = true ∧ 0 < n.radius := by
  rw [read_eq] at hn
  rcases List.mem_append.mp hn with hdeclared | hstub
  · rw [declared_eq_distinctNodes] at hdeclared
    obtain ⟨i, hi, rfl⟩ := List.mem_mapIdx.mp (mem_of_mem_distinctNodes hdeclared)
    exact radius_nodeAt _ _ _
  · obtain ⟨k, hk, rfl⟩ := List.mem_mapIdx.mp hstub
    exact Or.inl rfl

theorem radius_read (hradius : (0 : α) < Node.defaultRadius) {raw : Json} {s : Scatter}
    {n : Node α} (hn : n ∈ (read raw s).1.nodes) : 0 < n.radius := by
  rcases radius_cases hn with hdefault | ⟨-, hown⟩
  · rw [hdefault]
    exact hradius
  · exact hown

/-- What is read from a record, whatever its shape, with whatever stream of places. -/
theorem read_normalized (raw : Json) (s : Scatter) :
    Normalized raw s ((read raw s).1 : Content Float) (read (α := Float) raw s).2 where
  links := by rw [read_eq]
  weights l hl := by
    rw [read_eq] at hl
    obtain ⟨record, -, rfl⟩ := List.mem_map.mp (List.mem_filter.mp hl).1
    exact weight_linkOf (by decide +kernel) record
  nodes := by rw [read_eq]
  rest := by rw [read_eq]
  ids := read_ids_nodup raw s
  ends _ hl := ends_mem_ids_read hl
  radii _ hn := radius_read (by decide +kernel) hn
  places := by
    rw [read_eq]
    exact exists_seats s _ _

end Content
end NodeLink
