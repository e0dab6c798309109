import NodeLink.Proofs.Force.Pairs
import NodeLink.Proofs.Graph.Shape
import NodeLink.Proofs.Scalar.Exact
/-!
# The pass over pairs as a double loop

Nodes are repelled pair by pair as the grid finds them. In exact arithmetic the result is that of
a plain double loop over all pairs that passes over those in cells that do not touch, and no pair
that is nearer than a cell on either axis is passed over, however far out it lies.

* `Exact.cellOf_touches`: points nearer than a cell lie in cells that touch.
* `Physics.repel_comm`: in exact arithmetic pairs may be treated in any order.
* `Physics.applyPairs_eq_doubleLoop`: the pass over a filled grid and the double loop.
-/

namespace NodeLink

/-! ## Cells of exact points -/

namespace Exact

/-- The number of the cell of a coordinate. -/
noncomputable def cellNumber (cellSize a : Exact) : Int :=
  Scalar.toInt32 (Scalar.floor (a / cellSize))

theorem cellNumber_real {c : ℝ} (hc : 0 < c) (x : ℝ) :
    cellNumber (real c) (real x) = max (-2147483648) (min 2147483647 ⌊x / c⌋) := by
  unfold cellNumber
  rw [real_div x hc.ne', floor_real]
  show max (-2147483648) (min 2147483647
    (if ((⌊x / c⌋ : ℤ) : ℝ) < 0 then ⌈((⌊x / c⌋ : ℤ) : ℝ)⌉ else ⌊((⌊x / c⌋ : ℤ) : ℝ)⌋)) = _
  rw [Int.ceil_intCast, Int.floor_intCast, ite_self]

/-- Cells of infinite size are one cell. -/
theorem cellNumber_infinity (s : Bool) (a : Exact) : cellNumber (infinity s) a = 0 := by
  cases a with
  | real x =>
    show max (-2147483648) (min 2147483647
      (if ((⌊(0 : ℝ)⌋ : ℤ) : ℝ) < 0 then ⌈((⌊(0 : ℝ)⌋ : ℤ) : ℝ)⌉ else ⌊((⌊(0 : ℝ)⌋ : ℤ) : ℝ)⌋)) = 0
    rw [Int.floor_zero, Int.ceil_intCast, Int.floor_intCast, ite_self]
    decide
  | infinity t => rfl
  | nan => rfl

/-- Only two real numbers are within a real distance of each other. -/
theorem near_real {a b : Exact} {r : ℝ} (h : Scalar.abs (a - b) ≤ real r) :
    ∃ x y, a = real x ∧ b = real y ∧ |x - y| ≤ r := by
  have hfinite : Scalar.isFinite (a - b) = true := by
    cases hab : a - b with
    | real z => rfl
    | infinity s =>
      rw [hab] at h
      exact absurd (h : false = true) Bool.false_ne_true
    | nan =>
      rw [hab] at h
      exact (h : False).elim
  obtain ⟨ha, hb⟩ := isFinite_of_add hfinite
  obtain ⟨x, rfl⟩ := finite_iff.mp ha
  cases b with
  | real y => exact ⟨x, y, rfl, rfl, by simpa using h⟩
  | infinity s => exact absurd hb Bool.false_ne_true
  | nan => exact absurd hb Bool.false_ne_true

theorem floor_div_le {c x y : ℝ} (hc : 0 < c) (h : x - y ≤ c) : ⌊x / c⌋ ≤ ⌊y / c⌋ + 1 := by
  rw [← Int.floor_add_one]
  have hdiv : x / c ≤ (y + c) / c := div_le_div_of_nonneg_right (by linarith) hc.le
  rw [add_div, div_self hc.ne'] at hdiv
  exact Int.floor_le_floor hdiv

theorem cellNumber_near {c x y : ℝ} (hc : 0 < c) (h : |x - y| ≤ c) :
    (cellNumber (real c) (real x) - cellNumber (real c) (real y)).natAbs ≤ 1 := by
  rw [cellNumber_real hc, cellNumber_real hc]
  have hxy : ⌊x / c⌋ ≤ ⌊y / c⌋ + 1 := floor_div_le hc (le_of_abs_le h)
  have hyx : ⌊y / c⌋ ≤ ⌊x / c⌋ + 1 := by
    rw [abs_sub_comm] at h
    exact floor_div_le hc (le_of_abs_le h)
  omega

theorem max_smallestCell (r : ℝ) :
    ∃ c, Scalar.max (real r) Grid.smallestCell = real c ∧ 0 < c ∧ r ≤ c := by
  refine ⟨max r 2.220446049250313e-16, max_real r _, ?_, le_max_left _ _⟩
  exact lt_of_lt_of_le (by norm_num) (le_max_right _ _)

theorem max_infinity_smallestCell :
    Scalar.max (infinity false) (Grid.smallestCell : Exact) = infinity false := by
  have hnumber : Scalar.isNaN (Grid.smallestCell : Exact) = false := isNaN_real _
  have hlt : ¬infinity false < (Grid.smallestCell : Exact) := Bool.false_ne_true
  rw [Scalar.max, isNaN_infinity, hnumber, if_neg Bool.false_ne_true, if_neg Bool.false_ne_true,
    if_neg hlt]

theorem not_le_nan (a : Exact) : ¬a ≤ nan := by
  cases a with
  | real x => exact id
  | infinity s => exact id
  | nan => exact id

/-- No distance is the negative infinity. -/
theorem not_abs_le_infinity (a : Exact) : ¬Scalar.abs a ≤ infinity true := by
  cases a with
  | real x => exact fun h => Bool.noConfusion (h : true = false)
  | infinity s =>
    intro h
    rcases (h : false = true ∨ true = false) with h | h
    · exact Bool.noConfusion h
    · exact Bool.noConfusion h
  | nan => exact id

/-- Coordinates within the size asked for lie in the same cell or in cells side by side, also if
the grid makes its cells larger, and also beyond the outermost cells. -/
theorem cellNumber_touches {cellSize a b : Exact} (h : Scalar.abs (a - b) ≤ cellSize) :
    (cellNumber (Scalar.max cellSize Grid.smallestCell) a -
      cellNumber (Scalar.max cellSize Grid.smallestCell) b).natAbs ≤ 1 := by
  cases cellSize with
  | real r =>
    obtain ⟨x, y, rfl, rfl, hxy⟩ := near_real h
    obtain ⟨c, hmax, hc, hrc⟩ := max_smallestCell r
    rw [hmax]
    exact cellNumber_near hc (hxy.trans hrc)
  | infinity s =>
    cases s with
    | false =>
      rw [max_infinity_smallestCell, cellNumber_infinity, cellNumber_infinity]
      decide
    | true => exact absurd h (not_abs_le_infinity (a - b))
  | nan => exact absurd h (not_le_nan _)

/-- Points within a cell of each other on both axes lie in cells that touch. -/
theorem cellOf_touches (g : Grid Exact) (points : List (Point Exact)) {cellSize : Exact}
    {p q : Point Exact} (hx : Scalar.abs (p.x - q.x) ≤ cellSize)
    (hy : Scalar.abs (p.y - q.y) ≤ cellSize) :
    ((g.rebuild points cellSize).cellOf p).Touches ((g.rebuild points cellSize).cellOf q) :=
  ⟨cellNumber_touches hx, cellNumber_touches hy⟩

end Exact

/-! ## Impulses -/

variable {α : Type} [Scalar α]

def Point.neg (v : Point α) : Point α := ⟨-v.x, -v.y⟩

namespace Node

def nudge (v : Point α) (n : Node α) : Node α := { n with velocity := n.velocity.add v }

/-- The node with its velocity left out. -/
def paused (n : Node α) : Node α := { n with velocity := Point.origin }

theorem paused_nudge (v : Point α) (n : Node α) : (n.nudge v).paused = n.paused := rfl

end Node

theorem modify_comm {β : Type} (xs : Array β) (i j : Nat) {f g : β → β}
    (hfg : ∀ x, g (f x) = f (g x)) :
    (xs.modify i f).modify j g = (xs.modify j g).modify i f := by
  apply Array.ext_getElem?
  intro k
  rw [Array.getElem?_modify, Array.getElem?_modify, Array.getElem?_modify, Array.getElem?_modify]
  by_cases hi : i = k
  · by_cases hj : j = k
    · rw [if_pos hi, if_pos hj, if_pos hj, if_pos hi, Option.map_map, Option.map_map]
      exact Option.map_congr fun x _ => hfg x
    · rw [if_neg hj, if_neg hj]
  · rw [if_neg hi, if_neg hi]

namespace Physics

/-- What a pair adds to the velocity of its first node: nothing if a node is missing. -/
def impulse (p : ForceParams α) (nodes : Array (Node α)) (pair : Nat × Nat) : Option (Point α) :=
  match nodes[pair.1]?, nodes[pair.2]? with
  | some a, some b =>
    let (direction, d2) := separation a.position b.position pair.1 pair.2
    let f := pairForce p a b d2
    some ⟨direction.x * f, direction.y * f⟩
  | _, _ => none

/-- Gives an impulse to the first node of a pair and its opposite to the second. -/
def shove (pair : Nat × Nat) : Option (Point α) → Array (Node α) → Array (Node α)
  | none, nodes => nodes
  | some v, nodes => (nodes.modify pair.1 (Node.nudge v)).modify pair.2 (Node.nudge v.neg)

/-! ## Pairs in any order -/

theorem push_eq_nudge (direction : Point Exact) (force : Exact) :
    push direction force = Node.nudge ⟨direction.x * force, direction.y * force⟩ := rfl

theorem pushBack_eq_nudge (direction : Point Exact) (force : Exact) :
    pushBack direction force =
      Node.nudge (Point.neg ⟨direction.x * force, direction.y * force⟩) := rfl

theorem repel_eq_shove (p : ForceParams Exact) (nodes : Array (Node Exact)) (pair : Nat × Nat) :
    repel p nodes pair = shove pair (impulse p nodes pair) nodes := by
  obtain ⟨i, j⟩ := pair
  unfold repel impulse
  dsimp only
  cases nodes[i]? with
  | none => rfl
  | some a =>
    cases nodes[j]? with
    | none => rfl
    | some b =>
      dsimp only [shove]
      rw [push_eq_nudge, pushBack_eq_nudge]

/-- An impulse does not depend on velocities. -/
theorem impulse_map_paused (p : ForceParams α) (nodes : Array (Node α)) (pair : Nat × Nat) :
    impulse p (nodes.map Node.paused) pair = impulse p nodes pair := by
  unfold impulse
  rw [Array.getElem?_map, Array.getElem?_map]
  cases nodes[pair.1]? with
  | none => rfl
  | some a =>
    cases nodes[pair.2]? with
    | none => rfl
    | some b => rfl

theorem map_paused_shove (pair : Nat × Nat) (v : Option (Point α)) (nodes : Array (Node α)) :
    (shove pair v nodes).map Node.paused = nodes.map Node.paused := by
  cases v with
  | none => rfl
  | some v =>
    rw [shove, map_modify _ _ (Node.paused_nudge v.neg), map_modify _ _ (Node.paused_nudge v)]

theorem impulse_shove (p : ForceParams α) (x y : Nat × Nat) (v : Option (Point α))
    (nodes : Array (Node α)) : impulse p (shove x v nodes) y = impulse p nodes y := by
  rw [← impulse_map_paused, map_paused_shove, impulse_map_paused]

theorem nudge_comm (v w : Point Exact) (n : Node Exact) :
    (n.nudge v).nudge w = (n.nudge w).nudge v := by
  unfold Node.nudge Point.add
  rw [Exact.add_right_comm n.velocity.x, Exact.add_right_comm n.velocity.y]

theorem shove_comm (x y : Nat × Nat) (v w : Option (Point Exact)) (nodes : Array (Node Exact)) :
    shove y w (shove x v nodes) = shove x v (shove y w nodes) := by
  have hswap (xs : Array (Node Exact)) (i j : Nat) (v w : Point Exact) :
      (xs.modify i (Node.nudge v)).modify j (Node.nudge w) =
        (xs.modify j (Node.nudge w)).modify i (Node.nudge v) :=
    modify_comm xs i j (nudge_comm v w)
  cases v with
  | none => rfl
  | some v =>
    cases w with
    | none => rfl
    | some w =>
      dsimp only [shove]
      rw [hswap _ x.2 y.1, hswap nodes x.1 y.1, hswap _ x.2 y.2, hswap _ x.1 y.2]

/-- In exact arithmetic it does not matter which of two pairs is treated first. -/
theorem repel_comm (p : ForceParams Exact) (nodes : Array (Node Exact)) (x y : Nat × Nat) :
    repel p (repel p nodes x) y = repel p (repel p nodes y) x := by
  rw [repel_eq_shove, repel_eq_shove p nodes x, impulse_shove, shove_comm,
    repel_eq_shove p _ x, repel_eq_shove p nodes y, impulse_shove]

/-! ## The double loop -/

/-- All pairs `i < j` of indices below `n`, in order. -/
def allPairs (n : Nat) : List (Nat × Nat) :=
  (List.range n).flatMap fun i => (List.range' (i + 1) (n - (i + 1))).map fun j => (i, j)

theorem mem_allPairs {n i j : Nat} : (i, j) ∈ allPairs n ↔ i < j ∧ j < n := by
  simp only [allPairs, List.mem_flatMap, List.mem_range, List.mem_map, List.mem_range'_1,
    Prod.mk.injEq]
  constructor
  · rintro ⟨k, hk, l, hl, rfl, rfl⟩
    omega
  · rintro ⟨hij, hj⟩
    exact ⟨i, by omega, j, by omega, rfl, rfl⟩

theorem nodup_allPairs (n : Nat) : (allPairs n).Nodup := by
  refine nodup_flatMap_pairs (f := fun i => i) ?_ fun i => List.nodup_range'
  rw [List.map_id']
  exact List.nodup_range

/-- Repels every pair of nodes whose cells touch, pair after pair in a double loop over all. -/
def repelAll (p : ForceParams α) (grid : Grid α) (nodes : Array (Node α)) : Array (Node α) :=
  let points := nodes.toList.map Node.position
  ((allPairs nodes.size).filter fun (i, j) => grid.cellsTouch points i j).foldl (repel p) nodes

theorem pairs_perm [Scalar.Saturating α] (g : Grid α) (points : List (Point α)) (cellSize : α) :
    (pairs (g.rebuild points cellSize) points).Perm
      ((allPairs points.length).filter fun (i, j) =>
        (g.rebuild points cellSize).cellsTouch points i j) := by
  have hnodup := nodup_pairs_rebuild g points cellSize
  refine (List.perm_ext_iff_of_nodup hnodup ((nodup_allPairs _).filter _)).mpr fun (i, j) => ?_
  rw [mem_pairs_rebuild, List.mem_filter, mem_allPairs]
  constructor
  · rintro ⟨hlt, htouch⟩
    obtain ⟨p, q, hp, hq, -⟩ := Grid.cellsTouch_iff.mp htouch
    exact ⟨⟨hlt, (List.getElem?_eq_some_iff.mp hq).1⟩, htouch⟩
  · rintro ⟨⟨hlt, -⟩, htouch⟩
    exact ⟨hlt, htouch⟩

theorem applyPairs_rebuild (p : ForceParams Exact) (g : Grid Exact) (nodes : Array (Node Exact))
    (cellSize : Exact) :
    applyPairs p (g.rebuild (nodes.toList.map Node.position) cellSize) nodes =
      repelAll p (g.rebuild (nodes.toList.map Node.position) cellSize) nodes := by
  have hperm := pairs_perm g (nodes.toList.map Node.position) cellSize
  have hsize : (nodes.toList.map Node.position).length = nodes.size := by
    rw [List.length_map, Array.length_toList]
  rw [hsize] at hperm
  exact hperm.foldl_eq' (fun x _ y _ z => repel_comm p z x y) nodes

/-- Whatever a grid held before, once it is filled each index lies in one bucket, that of its own
cell, and the pass over pairs treats each two nodes once if their cells touch, and never
otherwise. In exact arithmetic no two nodes within a cell of each other on both axes are left out,
and the pass moves the nodes as the double loop does. -/
theorem applyPairs_eq_doubleLoop :
    (∀ {β : Type} [Scalar β] [Scalar.Saturating β] (g : Grid β) (points : List (Point β))
      (cellSize : β), let filled := g.rebuild points cellSize
      (Grid.indices filled.buckets).Perm (List.range points.length) ∧
      (∀ cell i, i ∈ filled.bucket cell ↔
        ∃ p, points[i]? = some p ∧ filled.cellOf p = cell) ∧
      (∀ cell, IndexSet.Increasing (filled.bucket cell)) ∧
      ∀ i j, (pairs filled points).count (i, j) =
        if i < j ∧ filled.cellsTouch points i j = true then 1 else 0) ∧
    (∀ (g : Grid Exact) (nodes : Array (Node Exact)) (cellSize : Exact) (p : ForceParams Exact),
      let filled := g.rebuild (nodes.toList.map Node.position) cellSize
      (∀ i j a b, nodes[i]? = some a → nodes[j]? = some b → i < j →
        Scalar.abs (a.position.x - b.position.x) ≤ cellSize →
        Scalar.abs (a.position.y - b.position.y) ≤ cellSize →
        (i, j) ∈ pairs filled (nodes.toList.map Node.position)) ∧
      applyPairs p filled nodes = repelAll p filled nodes) := by
  refine ⟨fun {β} _ _ g points cellSize => ⟨?_, ?_, ?_, fun i j => ?_⟩,
    fun g nodes cellSize p => ⟨fun i j a b hi hj hlt hx hy => ?_, ?_⟩⟩
  · exact Grid.indices_rebuild g points cellSize
  · exact Grid.mem_bucket_rebuild g points cellSize
  · exact Grid.increasing_bucket_rebuild g points cellSize
  · rw [(nodup_pairs_rebuild g points cellSize).count]
    exact if_congr (mem_pairs_rebuild g points cellSize i j) rfl rfl
  · have hpoint {k : Nat} {n : Node Exact} (hk : nodes[k]? = some n) :
        (nodes.toList.map Node.position)[k]? = some n.position := by
      rw [List.getElem?_map, Array.getElem?_toList, hk, Option.map_some]
    refine (mem_pairs_rebuild g _ cellSize i j).mpr ⟨hlt, Grid.cellsTouch_iff.mpr ?_⟩
    exact ⟨_, _, hpoint hi, hpoint hj, Exact.cellOf_touches g _ hx hy⟩
  · exact applyPairs_rebuild p g nodes cellSize

/-- Two nodes far beyond the outermost cells, seven apart. -/
noncomputable def farPair : Array (Node Exact) :=
  #[Node.stub "A" ⟨1e15, -1e15⟩, Node.stub "B" ⟨1e15 + 7, -1e15⟩]

/-- A grid that has held other points in other cells. -/
noncomputable def usedGrid : Grid Exact := (Grid.empty 3).rebuild [⟨5, 5⟩, ⟨1e15, 0⟩] 40

theorem applyPairs_eq_doubleLoop_farPair :
    let filled := usedGrid.rebuild (farPair.toList.map Node.position) 10
    Scalar.Saturating Float ∧
      (∀ g : Grid Float,
        (Grid.indices (g.rebuild [⟨1e300, 0⟩, ⟨0 / 0, 1⟩] 10).buckets).Perm [0, 1]) ∧
      (0, 1) ∈ pairs filled (farPair.toList.map Node.position) ∧
      applyPairs ForceParams.standard filled farPair =
        repelAll ForceParams.standard filled farPair := by
  obtain ⟨hgrid, hpass⟩ := applyPairs_eq_doubleLoop
  obtain ⟨hnear, hloop⟩ := hpass usedGrid farPair 10 ForceParams.standard
  have hx : Scalar.abs ((1e15 : Exact) - (1e15 + 7)) ≤ 10 := by
    simp only [Exact.decimal_eq, Exact.literal_eq, Exact.real_add, Exact.real_sub, Exact.abs_real,
      Exact.real_le]
    norm_num
  have hy : Scalar.abs ((-1e15 : Exact) - -1e15) ≤ 10 := by
    simp only [Exact.decimal_eq, Exact.literal_eq, Exact.real_neg, Exact.real_sub, Exact.abs_real,
      Exact.real_le]
    norm_num
  exact ⟨inferInstance, fun g => (hgrid g _ _).1, hnear 0 1 _ _ rfl rfl (by decide) hx hy, hloop⟩

end Physics
end NodeLink
