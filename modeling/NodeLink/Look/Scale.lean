import NodeLink.Decimal.Layout
import NodeLink.Scalar.Binary
/-!
# Scale

Sizes of what is drawn. Sizes of the world grow with the zoom; sizes of the screen do not, so they
are given in pixels of the page, multiplied by the pixel ratio and divided by the zoom before they
are drawn through the transform.
-/

namespace NodeLink

/-- An opacity that depends on the zoom: nothing up to `zeroAt`, full from `fullAt` on. -/
structure ZoomFade (α : Type) where
  zeroAt : α
  fullAt : α

structure NodeScale (α : Type) where
  -- Tolerance around a node when it is picked, in pixels of the page.
  hitSlop : α
  -- Added to the radius under the pointer.
  hoverBoost : α
  -- Added to the radius of the selected node.
  selectedBoost : α
  -- From the selected node to its ring.
  ringOffset : α
  -- Width of the ring, in pixels of the page.
  ringWidth : α

structure LabelScale (α : Type) where
  -- Size of the letters, in pixels of the page.
  size : α
  -- From the node to its label, in pixels of the page.
  offset : α
  -- When labels show that are neither hovered nor selected.
  visibility : ZoomFade α

structure LinkScale (α : Type) where
  -- In pixels of the page.
  lineWidth : α
  alphaMin : α
  alphaMax : α
  -- Alpha of a link in the hovered neighbourhood.
  alphaHighlight : α
  falloff : α
  falloffOffset : α
  falloffScale : α

structure GlowScale (α : Type) where
  baseBlur : α
  hoveredBlur : α
  selectedBlur : α

structure Scale (α : Type) where
  node : NodeScale α
  label : LabelScale α
  link : LinkScale α
  glow : GlowScale α

/-- Sizes for one zoom and pixel ratio, in world units. -/
structure ScaledSizes (α : Type) where
  hitSlop : α
  labelSize : α
  labelOffset : α
  -- Opacity of ordinary labels.
  labelAlpha : α
  lineWidth : α
  ringWidth : α

variable {α : Type} [Scalar α]

/-- The opacity at a zoom; if there is nothing between the two zooms, a step. -/
def ZoomFade.apply (f : ZoomFade α) (k : α) : α :=
  if f.fullAt ≤ f.zeroAt then (if f.fullAt ≤ k then 1 else 0)
  else Scalar.clampUnit ((k - f.zeroAt) / (f.fullAt - f.zeroAt))

namespace LinkScale

def inOrder (s : LinkScale α) : Bool := Scalar.inOrder s.alphaMin s.alphaMax

/-- The alpha of a link of a given length: long links are fainter. -/
def alphaForLength (s : LinkScale α) (length : α) : α :=
  Scalar.clamp s.alphaMin s.alphaMax (s.falloff / (length + s.falloffOffset) * s.falloffScale)

/-- The alpha of a link, none if its limits are not a range. -/
def alphaForLength? (s : LinkScale α) (length : α) : Option α :=
  if s.inOrder then some (s.alphaForLength length) else none

end LinkScale

namespace Scale

def standard : Scale α where
  node :=
    { hitSlop := 10
      hoverBoost := 2
      selectedBoost := 3
      ringOffset := 6
      ringWidth := 1.2 }
  label :=
    { size := 12
      offset := 8
      visibility := { zeroAt := 1.25, fullAt := 1.5 } }
  link :=
    { lineWidth := 1
      alphaMin := 0.02
      alphaMax := 0.22
      alphaHighlight := 0.45
      falloff := 140
      falloffOffset := 40
      falloffScale := 0.18 }
  glow :=
    { baseBlur := 8
      hoveredBlur := 10
      selectedBlur := 14 }

def worldLength (k ratio length : α) : α := length * ratio / k

def sizes (s : Scale α) (k ratio : α) : ScaledSizes α where
  hitSlop := worldLength k ratio s.node.hitSlop
  labelSize := worldLength k ratio s.label.size
  labelOffset := worldLength k ratio s.label.offset
  labelAlpha := s.label.visibility.apply (k / ratio)
  lineWidth := worldLength k ratio s.link.lineWidth
  ringWidth := worldLength k ratio s.node.ringWidth

end Scale

def fontText (size : Float) : String :=
  Decimal.plain.write (Binary64.ofFloat size) ++ "px ui-sans-serif, system-ui"

end NodeLink
