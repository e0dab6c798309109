import NodeLink.View.Viewport
/-!
# Moves of the viewport

What is done to a viewport, one move after another, and the same moves with a check: a checked
move fails where a value would be clamped to bounds that are not in order.

* `Viewport.run`: a sequence of moves.
* `Viewport.run?`: the same, with every clamp checked.
-/

namespace NodeLink

variable {α : Type} [Scalar α]

/-- The nearest value from `lo` to `hi`, if these are in order. -/
def Scalar.clamp? (lo hi x : α) : Option α :=
  if inOrder lo hi then some (clamp lo hi x) else none

theorem Scalar.clamp?_of_le {lo hi : α} (h : lo ≤ hi) (x : α) :
    clamp? lo hi x = some (clamp lo hi x) := by
  rw [clamp?, inOrder, if_pos (decide_eq_true h)]

namespace Viewport

inductive Move (α : Type) where
  | resize (width height ratio : α)
  | zoomAt (anchor : Point α) (factor : α)
  | wheel (p : Point α) (deltaY : α)
  | panFrom (start delta : Point α)
  | fit (box : Option (Bounds α))
  | animateTo (p : Point α)
  | advance

/-- The sizes, points and boxes of the move are finite. Ratios, factors and the turns of the wheel
may be anything. -/
def Move.Finite : Move α → Prop
  | .resize width height _ => Scalar.isFinite width = true ∧ Scalar.isFinite height = true
  | .zoomAt anchor _ => anchor.isFinite = true
  | .wheel p _ => p.isFinite = true
  | .panFrom start delta => start.isFinite = true ∧ delta.isFinite = true
  | .fit box => ∀ b, box = some b → b.min.isFinite = true ∧ b.max.isFinite = true
  | .animateTo p => p.isFinite = true
  | .advance => True

def perform (v : Viewport α) : Move α → Viewport α
  | .resize width height ratio => v.resize width height ratio
  | .zoomAt anchor factor => v.zoomAt anchor factor
  | .wheel p deltaY => v.wheel p deltaY
  | .panFrom start delta => v.panFrom start delta
  | .fit box => v.fit box
  | .animateTo p => v.animateTo p
  | .advance => v.advance

def run (moves : List (Move α)) (v : Viewport α) : Viewport α := moves.foldl perform v

theorem run_append (v : Viewport α) (moves moves' : List (Move α)) :
    v.run (moves ++ moves') = (v.run moves).run moves' := List.foldl_append

/-! ## Parts of the moves -/

def withZoom (v : Viewport α) (k : α) : Viewport α :=
  { v with transform := { v.transform with k := k } }

def movedTo (v : Viewport α) (place : Point α) : Viewport α :=
  { v with transform := { v.transform with x := place.x, y := place.y } }

/-- The canvas of a new size, at the zoom of before. -/
def sized (v : Viewport α) (width height ratio : α) : Viewport α :=
  { v with
    ratio := ratio
    width := Scalar.floor (Scalar.max width 0 * ratio)
    height := Scalar.floor (Scalar.max height 0 * ratio) }

theorem resize_eq (v : Viewport α) (width height ratio : α) :
    v.resize width height ratio =
      (v.sized width height (ratioOf ratio)).withZoom
        ((v.sized width height (ratioOf ratio)).clampZoom v.transform.k) := rfl

/-- At the zoom `k`, moved so that the world point under `anchor` is still there. -/
def zoomTo (v : Viewport α) (anchor : Point α) (k : α) : Viewport α :=
  let after := (v.withZoom k).toScreen (v.toWorld anchor)
  { v with transform :=
    ⟨v.transform.x + (anchor.x - after.x), v.transform.y + (anchor.y - after.y), k⟩ }

theorem zoomAt_eq (v : Viewport α) (anchor : Point α) (factor : α) :
    v.zoomAt anchor factor = v.zoomTo anchor (v.clampZoom (v.transform.k * factor)) := rfl

/-- Before the first move: at the size of the canvas, with the world's origin in its middle. -/
def opened (limits : ViewLimits α) : Viewport α :=
  { transform := ⟨0, 0, 1⟩, limits := limits.sanitized, ratio := 1, width := 0, height := 0,
    animation := none }

def centeredAt (v : Viewport α) (k : α) : Viewport α :=
  { v with transform := ⟨v.width / 2, v.height / 2, k⟩ }

theorem new_eq (limits : ViewLimits α) (width height ratio : α) :
    new limits width height ratio =
      ((opened limits).resize width height ratio).centeredAt
        (Scalar.clamp ((opened limits).resize width height ratio).minK
          ((opened limits).resize width height ratio).maxK
          ((opened limits).resize width height ratio).ratio) := rfl

/-- On the way of a movement, the given part of the way from its start. -/
def underway (v : Viewport α) (a : PanAnimation α) (part : α) : Viewport α :=
  { v with
    transform := { v.transform with
      x := a.start.x + (a.goal.x - a.start.x) * part
      y := a.start.y + (a.goal.y - a.start.y) * part }
    animation := if a.frames ≤ a.frame then none else some a }

/-! ## What moves leave alone -/

/-- A movement changes the place of the view alone. -/
theorem advance_eq (v : Viewport α) : v.advance = { v with
    transform := { v.advance.transform with k := v.transform.k }
    animation := v.advance.animation } := by
  unfold advance
  split
  · rfl
  · rfl

theorem exists_frames (v : Viewport α) (n : Nat) : ∃ place animation,
    v.run (List.replicate n .advance) = { v.movedTo place with animation := animation } := by
  induction n generalizing v with
  | zero => exact ⟨v.shift, v.animation, rfl⟩
  | succ n ih =>
    obtain ⟨place, animation, hrest⟩ := ih v.advance
    refine ⟨place, animation, hrest.trans ?_⟩
    rw [advance_eq]
    rfl

/-- The wheel leaves the view, or it zooms about the pointer. -/
@[elab_as_elim]
theorem wheel_cases {motive : Viewport α → Prop} (v : Viewport α) (p : Point α) (deltaY : α)
    (still : motive v) (zoomed : ∀ factor, motive (v.zoomAt (v.toDevice p) factor)) :
    motive (v.wheel p deltaY) := by
  unfold wheel
  split
  · exact still
  · exact zoomed (v.notchFactor deltaY)

theorem limits_perform (v : Viewport α) (m : Move α) : (v.perform m).limits = v.limits := by
  cases m with
  | resize | zoomAt | panFrom | animateTo => rfl
  | wheel p deltaY =>
    rw [perform]
    exact v.wheel_cases p deltaY rfl fun _ => rfl
  | fit box =>
    cases box with
    | none | some => rfl
  | advance =>
    rw [perform, advance_eq]

theorem limits_run (v : Viewport α) (moves : List (Move α)) :
    (v.run moves).limits = v.limits := by
  induction moves generalizing v with
  | nil => rfl
  | cons m rest ih => exact (ih (v.perform m)).trans (limits_perform v m)

/-! ## Checked moves -/

def ratioOf? (ratio : α) : Option α :=
  if Scalar.isFinite ratio then Scalar.clamp? 1 2 ratio else some 1

def clampZoom? (v : Viewport α) (k : α) : Option α :=
  if Scalar.isFinite k then Scalar.clamp? v.zoomFloor v.maxK k else some v.zoomFloor

def resize? (v : Viewport α) (width height ratio : α) : Option (Viewport α) := do
  let ratio ← ratioOf? ratio
  let v := v.sized width height ratio
  let k ← v.clampZoom? v.transform.k
  return v.withZoom k

def new? (limits : ViewLimits α) (width height ratio : α) : Option (Viewport α) := do
  let v ← (opened limits).resize? width height ratio
  let k ← Scalar.clamp? v.minK v.maxK v.ratio
  return v.centeredAt k

def zoomAt? (v : Viewport α) (anchor : Point α) (factor : α) : Option (Viewport α) := do
  let k ← v.clampZoom? (v.transform.k * factor)
  return v.zoomTo anchor k

def wheel? (v : Viewport α) (p : Point α) (deltaY : α) : Option (Viewport α) :=
  if deltaY == 0 || !Scalar.isFinite deltaY then some v
  else v.zoomAt? (v.toDevice p) (v.notchFactor deltaY)

def easeOut? (t : α) : Option α := do
  let t ← Scalar.clamp? 0 1 t
  let rest := 1 - t
  return 1 - rest * (rest * rest)

def advance? (v : Viewport α) : Option (Viewport α) :=
  match v.animation with
  | none => some v
  | some a => do
    let a := { a with frame := a.frame + 1 }
    let part ← easeOut? (Scalar.ofNat a.frame / Scalar.ofNat a.frames)
    return v.underway a part

def perform? (v : Viewport α) : Move α → Option (Viewport α)
  | .resize width height ratio => v.resize? width height ratio
  | .zoomAt anchor factor => v.zoomAt? anchor factor
  | .wheel p deltaY => v.wheel? p deltaY
  | .panFrom start delta => some (v.panFrom start delta)
  | .fit box => some (v.fit box)
  | .animateTo p => some (v.animateTo p)
  | .advance => v.advance?

def run? (moves : List (Move α)) (v : Viewport α) : Option (Viewport α) :=
  moves.foldlM perform? v

end Viewport
end NodeLink
