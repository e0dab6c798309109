import NodeLink.View.Limits
import NodeLink.Graph.Bounds
/-!
# Viewport

The map from the world, where nodes have their places, to the pixels of the canvas, and back. The
map scales by `k` and then moves by `(x, y)`. Canvas pixels are device pixels: a point of the page
times the pixel ratio of the device, which is kept between one and two.

* `zoomAt` changes the scale and keeps the world point under an anchor where it is.
* `fit` shows a box as large as it may be, in the middle of the canvas.
* `animateTo` starts a movement that `advance` carries out frame by frame.
-/

namespace NodeLink

/-- Scaling by `k`, then moving by `(x, y)`. -/
structure Transform (α : Type) where
  x : α
  y : α
  k : α
deriving DecidableEq, Inhabited

structure PanAnimation (α : Type) where
  start : Point α
  goal : Point α
  frame : Nat
  frames : Nat
deriving DecidableEq, Inhabited

structure Viewport (α : Type) where
  transform : Transform α
  limits : ViewLimits α
  -- The pixel ratio of the device.
  ratio : α
  -- Width of the canvas in device pixels.
  width : α
  height : α
  animation : Option (PanAnimation α)
deriving Inhabited

namespace Transform

variable {α : Type} [Scalar α]

def toScreen (t : Transform α) (p : Point α) : Point α := ⟨p.x * t.k + t.x, p.y * t.k + t.y⟩

def toWorld (t : Transform α) (p : Point α) : Point α := ⟨(p.x - t.x) / t.k, (p.y - t.y) / t.k⟩

def shift (t : Transform α) : Point α := ⟨t.x, t.y⟩

end Transform

namespace Viewport

variable {α : Type} [Scalar α]

/-! ## Limits of the zoom -/

def minK (v : Viewport α) : α := v.limits.minZoom * v.ratio

def maxK (v : Viewport α) : α := v.limits.maxZoom * v.ratio

/-- The lower bound for the next zoom: a zoom that is already below the limit may stay. -/
def zoomFloor (v : Viewport α) : α := Scalar.min v.minK v.transform.k

/-- A zoom brought between `zoomFloor` and `maxK`; one that is not finite becomes the lower
bound. -/
def clampZoom (v : Viewport α) (k : α) : α :=
  if Scalar.isFinite k then Scalar.clamp v.zoomFloor v.maxK k else v.zoomFloor

/-! ## Size -/

def ratioOf (ratio : α) : α := if Scalar.isFinite ratio then Scalar.clamp 1 2 ratio else 1

/-- A new size of the canvas, in pixels of the page, and a new pixel ratio. -/
def resize (v : Viewport α) (width height ratio : α) : Viewport α :=
  let ratio := ratioOf ratio
  let v := { v with
    ratio := ratio
    width := Scalar.floor (Scalar.max width 0 * ratio)
    height := Scalar.floor (Scalar.max height 0 * ratio) }
  { v with transform := { v.transform with k := v.clampZoom v.transform.k } }

def new (limits : ViewLimits α) (width height ratio : α) : Viewport α :=
  let v : Viewport α :=
    { transform := ⟨0, 0, 1⟩, limits := limits.sanitized, ratio := 1, width := 0, height := 0,
      animation := none }
  let v := v.resize width height ratio
  { v with transform := ⟨v.width / 2, v.height / 2, Scalar.clamp v.minK v.maxK v.ratio⟩ }

/-! ## Points -/

def toDevice (v : Viewport α) (p : Point α) : Point α := ⟨p.x * v.ratio, p.y * v.ratio⟩

def toWorld (v : Viewport α) (p : Point α) : Point α := v.transform.toWorld p

def toScreen (v : Viewport α) (p : Point α) : Point α := v.transform.toScreen p

def pointerToWorld (v : Viewport α) (p : Point α) : Point α := v.toWorld (v.toDevice p)

def shift (v : Viewport α) : Point α := v.transform.shift

/-! ## Zooming and panning -/

/-- Scales by `factor`, within the limits; the world point under `anchor` stays there. -/
def zoomAt (v : Viewport α) (anchor : Point α) (factor : α) : Viewport α :=
  let before := v.toWorld anchor
  let v := { v with transform := { v.transform with k := v.clampZoom (v.transform.k * factor) } }
  let after := v.toScreen before
  { v with transform := { v.transform with
      x := v.transform.x + (anchor.x - after.x)
      y := v.transform.y + (anchor.y - after.y) } }

/-- The factor of one notch: up zooms in, down zooms out. -/
def notchFactor (v : Viewport α) (deltaY : α) : α :=
  Scalar.pow v.limits.wheelStep (if 0 < deltaY then -1 else 1)

/-- One notch of the wheel over a point of the page; only the direction counts. -/
def wheel (v : Viewport α) (p : Point α) (deltaY : α) : Viewport α :=
  if deltaY == 0 || !Scalar.isFinite deltaY then v
  else v.zoomAt (v.toDevice p) (v.notchFactor deltaY)

/-- Puts the shift at `start` moved by a distance on the page. -/
def panFrom (v : Viewport α) (start delta : Point α) : Viewport α :=
  { v with transform := { v.transform with
      x := start.x + delta.x * v.ratio
      y := start.y + delta.y * v.ratio } }

/-! ## Fitting -/

/-- The largest zoom at which a box fits into the canvas less its padding, within the upper limits;
if there is none, the smallest zoom allowed. -/
def fitZoom (v : Viewport α) (b : Bounds α) : α :=
  let pad := v.limits.fitPadding * v.ratio
  let w := Scalar.max b.width 1
  let h := Scalar.max b.height 1
  let k := Scalar.min ((v.width - pad) / w) ((v.height - pad) / h)
  let k := Scalar.min (Scalar.min k (v.limits.fitMaxZoom * v.ratio)) v.maxK
  if Scalar.isFinite k && decide (0 < k) then k else v.minK

/-- The transform that shows a world point in the middle of the canvas at a zoom. -/
def centered (v : Viewport α) (p : Point α) (k : α) : Transform α :=
  ⟨v.width * 0.5 - p.x * k, v.height * 0.5 - p.y * k, k⟩

/-- Shows a box as large as it may be; without a box the view stays. Any movement ends. -/
def fit (v : Viewport α) : Option (Bounds α) → Viewport α
  | none => v
  | some b => { v with animation := none, transform := v.centered b.center (v.fitZoom b) }

/-! ## Movement -/

/-- Starts a movement that ends with a world point in the middle of the canvas. -/
def animateTo (v : Viewport α) (p : Point α) : Viewport α :=
  let animation : PanAnimation α :=
    { start := v.shift
      goal := (v.centered p v.transform.k).shift
      frame := 0
      frames := Nat.max v.limits.focusFrames 1 }
  { v with animation := some animation }

/-- Fast at first, slow at the end. -/
def easeOut (t : α) : α :=
  let rest := 1 - Scalar.clampUnit t
  1 - rest * (rest * rest)

def advance (v : Viewport α) : Viewport α :=
  match v.animation with
  | none => v
  | some a =>
    let a := { a with frame := a.frame + 1 }
    let ease := easeOut (Scalar.ofNat a.frame / Scalar.ofNat a.frames)
    { v with
      transform := { v.transform with
        x := a.start.x + (a.goal.x - a.start.x) * ease
        y := a.start.y + (a.goal.y - a.start.y) * ease }
      animation := if a.frames ≤ a.frame then none else some a }

end Viewport
end NodeLink
