import Mathlib.Data.List.Nodup
import Mathlib.Data.List.Range
import NodeLink.Graph.IndexSet
import NodeLink.Proofs.Force.Grid
import NodeLink.Proofs.Scalar.Laws
/-!
# The pairs of a filled grid

A filled grid holds each point once, under its own cell, and the pairs it leads to are those whose
cells are the same or touch, each once.

* `Grid.indices_rebuild`, `Grid.mem_bucket_rebuild`, `Grid.increasing_bucket_rebuild`: the buckets.
* `Grid.mem_around`, `Grid.nodup_around`: the cells around a cell are those that touch it.
* `Physics.mem_pairs_rebuild`, `Physics.nodup_pairs_rebuild`: the pairs.
-/

namespace NodeLink

namespace Cell

/-- The same cell, or one next to it across a side or a corner. -/
def Touches (c d : Cell) : Prop := (c.1 - d.1).natAbs ≤ 1 ∧ (c.2 - d.2).natAbs ≤ 1

instance (c d : Cell) : Decidable (c.Touches d) := inferInstanceAs (Decidable (_ ∧ _))

/-- A cell with a number that fits into 32 bits on either axis. -/
structure InRange (c : Cell) : Prop where
  fst_ge : -2147483648 ≤ c.1
  fst_le : c.1 ≤ 2147483647
  snd_ge : -2147483648 ≤ c.2
  snd_le : c.2 ≤ 2147483647

end Cell

namespace Grid

/-! ## Buckets -/

/-- All indices that lie in any bucket, bucket by bucket. -/
def indices (buckets : List (Cell × List Nat)) : List Nat := buckets.flatMap Prod.snd

theorem indices_clearBuckets (buckets : List (Cell × List Nat)) :
    indices (clearBuckets buckets) = [] := by
  unfold clearBuckets indices
  rw [List.flatMap_map]
  exact List.flatMap_eq_nil_iff.mpr fun _ _ => rfl

theorem indices_enter (cell : Cell) (i : Nat) (buckets : List (Cell × List Nat)) :
    (indices (enter cell i buckets)).Perm (indices buckets ++ [i]) := by
  induction buckets with
  | nil => exact List.Perm.refl _
  | cons entry rest ih =>
    obtain ⟨c, is⟩ := entry
    rw [enter]
    by_cases hc : c = cell
    · rw [if_pos hc]
      show ((is ++ [i]) ++ indices rest).Perm ((is ++ indices rest) ++ [i])
      rw [List.append_assoc, List.append_assoc]
      exact List.perm_append_comm.append_left is
    · rw [if_neg hc]
      show (is ++ indices (enter cell i rest)).Perm ((is ++ indices rest) ++ [i])
      rw [List.append_assoc]
      exact ih.append_left is

theorem indices_foldl_enter {β : Type} (cellOf : β → Cell) (points : List (β × Nat))
    (buckets : List (Cell × List Nat)) :
    (indices (points.foldl (fun buckets (p, i) => enter (cellOf p) i buckets) buckets)).Perm
      (indices buckets ++ points.map Prod.snd) := by
  induction points generalizing buckets with
  | nil =>
    rw [List.map_nil, List.append_nil]
    exact List.Perm.refl _
  | cons point rest ih =>
    obtain ⟨p, i⟩ := point
    rw [List.foldl_cons, List.map_cons, List.append_cons]
    exact (ih _).trans ((indices_enter (cellOf p) i buckets).append_right _)

variable {α : Type} [Scalar α]

/-- After a filling each index lies in one bucket, and none is left from before. -/
theorem indices_rebuild (g : Grid α) (points : List (Point α)) (cellSize : α) :
    (indices (g.rebuild points cellSize).buckets).Perm (List.range points.length) := by
  have hperm := indices_foldl_enter (empty cellSize).cellOf points.zipIdx (clearBuckets g.buckets)
  rw [indices_clearBuckets, List.nil_append, List.zipIdx_map_snd, ← List.range_eq_range'] at hperm
  exact hperm

theorem mem_bucket_rebuild (g : Grid α) (points : List (Point α)) (cellSize : α) (cell : Cell)
    (i : Nat) :
    i ∈ (g.rebuild points cellSize).bucket cell ↔
      ∃ p, points[i]? = some p ∧ (g.rebuild points cellSize).cellOf p = cell := by
  rw [bucket_rebuild, List.mem_map]
  constructor
  · rintro ⟨⟨p, j⟩, hp, rfl⟩
    obtain ⟨hp, hcell⟩ := List.mem_filter.mp hp
    exact ⟨p, List.mem_zipIdx_iff_getElem?.mp hp, of_decide_eq_true hcell⟩
  · rintro ⟨p, hp, hcell⟩
    have hmem : (p, i) ∈ points.zipIdx := List.mem_zipIdx_iff_getElem?.mpr hp
    exact ⟨(p, i), List.mem_filter.mpr ⟨hmem, decide_eq_true hcell⟩, rfl⟩

theorem increasing_bucket_rebuild (g : Grid α) (points : List (Point α)) (cellSize : α)
    (cell : Cell) : IndexSet.Increasing ((g.rebuild points cellSize).bucket cell) := by
  rw [bucket_rebuild]
  refine List.Pairwise.sublist (List.filter_sublist.map Prod.snd) ?_
  rw [List.zipIdx_map_snd]
  exact List.pairwise_lt_range'

/-! ## The cells around a cell -/

theorem shift?_eq_some_iff {n d m : Int} :
    shift? n d = some m ↔ n + d = m ∧ -2147483648 ≤ m ∧ m ≤ 2147483647 := by
  unfold shift?
  dsimp only
  split
  · rw [Option.some.injEq]
    omega
  · rw [eq_comm, iff_false_right (by omega)]
    exact Option.some_ne_none m

theorem pair_eq_some_iff {o o' : Option Int} {d : Cell} :
    (match o, o' with
      | some x, some y => some (x, y)
      | _, _ => none) = some d ↔ o = some d.1 ∧ o' = some d.2 := by
  cases o with
  | none => simp
  | some x =>
    cases o' with
    | none => simp
    | some y => simp [Prod.ext_iff]

theorem mem_around_iff {c d : Cell} :
    d ∈ around c ↔ ∃ dx ∈ ([-1, 0, 1] : List Int), ∃ dy ∈ ([-1, 0, 1] : List Int),
      shift? c.1 dx = some d.1 ∧ shift? c.2 dy = some d.2 := by
  unfold around
  rw [List.mem_flatMap]
  refine exists_congr fun dx => and_congr_right fun _ => ?_
  rw [List.mem_filterMap]
  exact exists_congr fun dy => and_congr_right fun _ => pair_eq_some_iff

/-- At the edge there are no cells beyond, so nothing wraps to the other end. -/
theorem mem_around {c d : Cell} (hd : d.InRange) : d ∈ around c ↔ c.Touches d := by
  obtain ⟨h1, h2, h3, h4⟩ := hd
  rw [mem_around_iff]
  unfold Cell.Touches
  simp only [shift?_eq_some_iff, List.mem_cons, List.not_mem_nil, or_false]
  constructor
  · rintro ⟨dx, hdx, dy, hdy, ⟨hx, -⟩, hy, -⟩
    omega
  · rintro ⟨hx, hy⟩
    refine ⟨d.1 - c.1, by omega, d.2 - c.2, by omega, ⟨by omega, h1, h2⟩, by omega, h3, h4⟩

theorem nodup_around (c : Cell) : (around c).Nodup := by
  unfold around
  refine List.nodup_flatMap.mpr ⟨fun dx _ => ?_, ?_⟩
  · refine List.Nodup.filterMap (fun dy dy' d hd hd' => ?_) (by decide)
    have hy := (shift?_eq_some_iff.mp (pair_eq_some_iff.mp hd).2).1
    have hy' := (shift?_eq_some_iff.mp (pair_eq_some_iff.mp hd').2).1
    omega
  · have hsteps : ([-1, 0, 1] : List Int).Nodup := by decide
    refine hsteps.imp fun {dx dx'} hne d hd hd' => ?_
    obtain ⟨dy, -, hd⟩ := List.mem_filterMap.mp hd
    obtain ⟨dy', -, hd'⟩ := List.mem_filterMap.mp hd'
    have hx := (shift?_eq_some_iff.mp (pair_eq_some_iff.mp hd).1).1
    have hx' := (shift?_eq_some_iff.mp (pair_eq_some_iff.mp hd').1).1
    omega

theorem cellOf_inRange [Scalar.Saturating α] (g : Grid α) (p : Point α) :
    (g.cellOf p).InRange := by
  have hx := Scalar.Saturating.toInt32_range (Scalar.floor (p.x / g.cellSize))
  have hy := Scalar.Saturating.toInt32_range (Scalar.floor (p.y / g.cellSize))
  exact ⟨hx.1, hx.2, hy.1, hy.2⟩

/-! ## The points near a cell -/

theorem mem_near_rebuild [Scalar.Saturating α] (g : Grid α) (points : List (Point α))
    (cellSize : α) (cell : Cell) (i : Nat) :
    i ∈ (g.rebuild points cellSize).near cell ↔
      ∃ p, points[i]? = some p ∧ cell.Touches ((g.rebuild points cellSize).cellOf p) := by
  unfold near
  rw [List.mem_flatMap]
  constructor
  · rintro ⟨d, hd, hi⟩
    obtain ⟨p, hp, rfl⟩ := (mem_bucket_rebuild g points cellSize d i).mp hi
    exact ⟨p, hp, (mem_around (cellOf_inRange _ p)).mp hd⟩
  · rintro ⟨p, hp, htouch⟩
    exact ⟨_, (mem_around (cellOf_inRange _ p)).mpr htouch,
      (mem_bucket_rebuild g points cellSize _ i).mpr ⟨p, hp, rfl⟩⟩

theorem nodup_near_rebuild (g : Grid α) (points : List (Point α)) (cellSize : α) (cell : Cell) :
    ((g.rebuild points cellSize).near cell).Nodup := by
  refine List.nodup_flatMap.mpr ⟨fun c _ => ?_, ?_⟩
  · exact (increasing_bucket_rebuild g points cellSize c).imp Nat.ne_of_lt
  · -- An index in two buckets would be a point in two cells.
    refine (nodup_around cell).imp fun {c d} hne i hc hd => hne ?_
    obtain ⟨p, hp, hpc⟩ := (mem_bucket_rebuild g points cellSize c i).mp hc
    obtain ⟨q, hq, hqd⟩ := (mem_bucket_rebuild g points cellSize d i).mp hd
    rw [hp, Option.some.injEq] at hq
    rw [← hpc, hq, hqd]

/-- Whether there are two points of these indices in cells that touch. -/
def cellsTouch (g : Grid α) (points : List (Point α)) (i j : Nat) : Bool :=
  match points[i]?, points[j]? with
  | some p, some q => decide ((g.cellOf p).Touches (g.cellOf q))
  | _, _ => false

theorem cellsTouch_iff {g : Grid α} {points : List (Point α)} {i j : Nat} :
    g.cellsTouch points i j = true ↔ ∃ p q, points[i]? = some p ∧ points[j]? = some q ∧
      (g.cellOf p).Touches (g.cellOf q) := by
  unfold cellsTouch
  cases hp : points[i]? with
  | none => simp
  | some p =>
    cases hq : points[j]? with
    | none => simp
    | some q => simp

end Grid

namespace Physics

variable {α : Type} [Scalar α]

/-! ## Pairs -/

theorem mem_pairs_iff {grid : Grid α} {points : List (Point α)} {i j : Nat} :
    (i, j) ∈ pairs grid points ↔
      ∃ p, points[i]? = some p ∧ j ∈ grid.near (grid.cellOf p) ∧ i < j := by
  unfold pairs
  rw [List.mem_flatMap]
  constructor
  · rintro ⟨⟨p, k⟩, hp, hj⟩
    obtain ⟨l, hl, heq⟩ := List.mem_map.mp hj
    obtain ⟨hl, hlt⟩ := List.mem_filter.mp hl
    obtain ⟨rfl, rfl⟩ := Prod.mk.inj heq
    exact ⟨p, List.mem_zipIdx_iff_getElem?.mp hp, hl, of_decide_eq_true hlt⟩
  · rintro ⟨p, hp, hj, hlt⟩
    exact ⟨(p, i), List.mem_zipIdx_iff_getElem?.mpr hp,
      List.mem_map.mpr ⟨j, List.mem_filter.mpr ⟨hj, decide_eq_true hlt⟩, rfl⟩⟩

theorem mem_pairs_rebuild [Scalar.Saturating α] (g : Grid α) (points : List (Point α))
    (cellSize : α) (i j : Nat) :
    (i, j) ∈ pairs (g.rebuild points cellSize) points ↔
      i < j ∧ (g.rebuild points cellSize).cellsTouch points i j = true := by
  rw [mem_pairs_iff, Grid.cellsTouch_iff]
  constructor
  · rintro ⟨p, hp, hj, hlt⟩
    obtain ⟨q, hq, htouch⟩ := (Grid.mem_near_rebuild g points cellSize _ j).mp hj
    exact ⟨hlt, p, q, hp, hq, htouch⟩
  · rintro ⟨hlt, p, q, hp, hq, htouch⟩
    exact ⟨p, hp, (Grid.mem_near_rebuild g points cellSize _ j).mpr ⟨q, hq, htouch⟩, hlt⟩

/-- Pairs listed by their first index, each of which comes up once, are listed once. -/
theorem nodup_flatMap_pairs {β : Type} {l : List β} {f : β → Nat} {g : β → List Nat}
    (hf : (l.map f).Nodup) (hg : ∀ x, (g x).Nodup) :
    (l.flatMap fun x => (g x).map fun j => (f x, j)).Nodup := by
  refine List.nodup_flatMap.mpr ⟨fun x _ => ?_, ?_⟩
  · exact (hg x).map fun j k hjk => (Prod.mk.inj hjk).2
  · refine (List.pairwise_map.mp hf).imp fun {a b} hne pair ha hb => hne ?_
    obtain ⟨j, -, rfl⟩ := List.mem_map.mp ha
    obtain ⟨k, -, hk⟩ := List.mem_map.mp hb
    exact (Prod.mk.inj hk).1.symm

theorem nodup_pairs_rebuild (g : Grid α) (points : List (Point α)) (cellSize : α) :
    (pairs (g.rebuild points cellSize) points).Nodup := by
  have hindices : (points.zipIdx.map Prod.snd).Nodup := by
    rw [List.zipIdx_map_snd]
    exact List.nodup_range'
  exact nodup_flatMap_pairs hindices fun (p, i) =>
    (Grid.nodup_near_rebuild g points cellSize _).filter _

end Physics
end NodeLink
