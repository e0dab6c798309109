import NodeLink.Point
/-!
# Grid

Points sorted into square cells, so that the points near a point are found without looking at all
of them. Cells are numbered by integers of 32 bits; what lies farther out belongs to the outermost
cells, and those have no neighbours beyond them.

A grid is filled anew before every use. Cells that had points stay, emptied, until the next filling
finds them still empty; no point of an earlier filling remains.
-/

namespace NodeLink

abbrev Cell := Int × Int

structure Grid (α : Type) where
  cellSize : α
  -- The cells in use with the indices of their points, in increasing order.
  buckets : List (Cell × List Nat)
deriving Inhabited

namespace Grid

variable {α : Type} [Scalar α]

/-- Cells are never smaller than this. -/
def smallestCell : α := 2.220446049250313e-16

def empty (cellSize : α) : Grid α := ⟨Scalar.max cellSize smallestCell, []⟩

def cellOf (g : Grid α) (p : Point α) : Cell :=
  (Scalar.toInt32 (Scalar.floor (p.x / g.cellSize)),
    Scalar.toInt32 (Scalar.floor (p.y / g.cellSize)))

/-- Adds an index at the end of its cell's bucket. -/
def enter (cell : Cell) (i : Nat) : List (Cell × List Nat) → List (Cell × List Nat)
  | [] => [(cell, [i])]
  | (c, is) :: rest =>
    if c = cell then (c, is ++ [i]) :: rest else (c, is) :: enter cell i rest

/-- The cells kept for a new filling: those that were in use, emptied. -/
def clearBuckets (buckets : List (Cell × List Nat)) : List (Cell × List Nat) :=
  (buckets.filter fun (_, is) => !is.isEmpty).map fun (c, _) => (c, [])

/-- Fills the grid with points, given with their indices from 0 on. -/
def rebuild (g : Grid α) (points : List (Point α)) (cellSize : α) : Grid α :=
  let g : Grid α := ⟨Scalar.max cellSize smallestCell, clearBuckets g.buckets⟩
  { g with buckets :=
      points.zipIdx.foldl (fun buckets (p, i) => enter (g.cellOf p) i buckets) g.buckets }

def bucket (g : Grid α) (cell : Cell) : List Nat := (g.buckets.lookup cell).getD []

/-- A number of a cell moved by one step, if there is such a cell. -/
def shift? (n d : Int) : Option Int :=
  let m := n + d
  if -2147483648 ≤ m ∧ m ≤ 2147483647 then some m else none

/-- The cells that touch a cell, itself among them, column by column. -/
def around (cell : Cell) : List Cell :=
  ([-1, 0, 1] : List Int).flatMap fun dx =>
    ([-1, 0, 1] : List Int).filterMap fun dy =>
      match shift? cell.1 dx, shift? cell.2 dy with
      | some x, some y => some (x, y)
      | _, _ => none

/-- The points of a cell and of the cells that touch it. -/
def near (g : Grid α) (cell : Cell) : List Nat := (around cell).flatMap g.bucket

end Grid
end NodeLink
