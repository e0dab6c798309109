import NodeLink.Force.Step
/-!
# What a grid holds

A grid is reused from step to step, but what it held before a filling cannot be told from what it
holds after it, so that a step is the same over any grid.

* `Grid.bucket_rebuild`: a bucket holds the indices of the points of its cell, in order.
* `Physics.step_withGrid`: the step does not depend on the grid it finds.
-/

namespace NodeLink

namespace Grid

/-! ## Buckets -/

/-- The indices under a cell. -/
def held (buckets : List (Cell × List Nat)) (cell : Cell) : List Nat :=
  (buckets.lookup cell).getD []

theorem held_cons (c cell : Cell) (is : List Nat) (rest : List (Cell × List Nat)) :
    held ((c, is) :: rest) cell = if c = cell then is else held rest cell := by
  by_cases hc : c = cell
  · rw [if_pos hc, held, hc, List.lookup_cons_self, Option.getD_some]
  · rw [if_neg hc, held, List.lookup_cons, beq_false_of_ne (Ne.symm hc), held]

theorem held_enter (cell : Cell) (i : Nat) (buckets : List (Cell × List Nat)) (c : Cell) :
    held (enter cell i buckets) c =
      if cell = c then held buckets c ++ [i] else held buckets c := by
  induction buckets with
  | nil => rw [enter, held_cons, held, List.lookup_nil, Option.getD_none, List.nil_append]
  | cons entry rest ih =>
    obtain ⟨c', is⟩ := entry
    rw [enter]
    by_cases hfound : c' = cell
    · subst hfound
      rw [if_pos rfl, held_cons, held_cons]
      by_cases hc : c' = c
      · rw [if_pos hc, if_pos hc, if_pos hc]
      · rw [if_neg hc, if_neg hc, if_neg hc]
    · rw [if_neg hfound, held_cons, held_cons, ih]
      by_cases hc : c' = c
      · rw [if_pos hc, if_pos hc, if_neg fun h => hfound (hc.trans h.symm)]
      · rw [if_neg hc, if_neg hc]

theorem held_clearBuckets (buckets : List (Cell × List Nat)) (cell : Cell) :
    held (clearBuckets buckets) cell = [] := by
  unfold clearBuckets
  generalize List.filter _ buckets = kept
  induction kept with
  | nil => rfl
  | cons entry rest ih =>
    rw [List.map_cons, held_cons, ih, ite_self]

/-- Entering points adds to each bucket those of its cell. -/
theorem held_foldl_enter {β : Type} (cellOf : β → Cell) (points : List (β × Nat))
    (buckets : List (Cell × List Nat)) (cell : Cell) :
    held (points.foldl (fun buckets (p, i) => enter (cellOf p) i buckets) buckets) cell =
      held buckets cell ++ (points.filter fun (p, _) => decide (cellOf p = cell)).map Prod.snd := by
  induction points generalizing buckets with
  | nil => exact (List.append_nil _).symm
  | cons point rest ih =>
    obtain ⟨p, i⟩ := point
    rw [List.foldl_cons, ih, held_enter, List.filter_cons]
    by_cases hp : cellOf p = cell
    · simp only [hp, if_true, decide_true, List.map_cons, List.append_assoc, List.singleton_append]
    · simp only [hp, if_false, decide_false, Bool.false_eq_true]

/-! ## Filling -/

variable {α : Type} [Scalar α]

/-- After a filling each bucket holds the indices of the points of its cell, in order, and nothing
that was in the grid before. -/
theorem bucket_rebuild (g : Grid α) (points : List (Point α)) (cellSize : α) (cell : Cell) :
    (g.rebuild points cellSize).bucket cell =
      (points.zipIdx.filter fun (p, _) => decide ((empty cellSize).cellOf p = cell)).map
        Prod.snd := by
  change held (points.zipIdx.foldl
    (fun buckets (p, i) => enter ((empty cellSize).cellOf p) i buckets) (clearBuckets g.buckets))
    cell = _
  rw [held_foldl_enter, held_clearBuckets, List.nil_append]

theorem near_rebuild (g h : Grid α) (points : List (Point α)) (cellSize : α) :
    (g.rebuild points cellSize).near = (h.rebuild points cellSize).near := by
  have hbucket : (g.rebuild points cellSize).bucket = (h.rebuild points cellSize).bucket := by
    funext cell
    rw [bucket_rebuild, bucket_rebuild]
  funext cell
  rw [near, near, hbucket]

end Grid

/-! ## Steps -/

namespace Physics

variable {α : Type} [Scalar α]

def withGrid (ph : Physics α) (grid : Grid α) : Physics α := { ph with grid := grid }

theorem pairs_rebuild (g h : Grid α) (points positions : List (Point α)) (cellSize : α) :
    pairs (g.rebuild points cellSize) positions = pairs (h.rebuild points cellSize) positions := by
  have hcell : (g.rebuild points cellSize).cellOf = (h.rebuild points cellSize).cellOf := rfl
  rw [pairs, pairs, Grid.near_rebuild g h, hcell]

/-- A step over another grid moves the nodes in the same way, and differs only in the grid that is
left. -/
theorem step_withGrid (ph : Physics α) (grid : Grid α) (g : Graph α) :
    ∃ grid', (ph.withGrid grid).step g = ((ph.step g).1.withGrid grid', (ph.step g).2) := by
  let points : List (Point α) := (g.nodes.map holdFixed).toList.map Node.position
  refine ⟨grid.rebuild points ph.params.cellSize, ?_⟩
  unfold step applyPairs
  dsimp only [withGrid]
  rw [pairs_rebuild grid ph.grid]

end Physics
end NodeLink
