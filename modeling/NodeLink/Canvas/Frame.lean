import NodeLink.Canvas.Call
import NodeLink.Simulation.Basic
/-!
# Frames

The calls that draw one frame, back to front: the ground with its glow in device pixels; then,
through the transform of the view, the links, the nodes with a ring around the selected one, and
the labels. The frame as a whole stands between a save and a restore.
-/

namespace NodeLink.Frame

variable {α : Type} [Scalar α]

/-- Eases between zero and one with level ends. -/
def smoothStep (t : α) : α := t * t * (3 - 2 * t)

/-! ## Ground -/

def background (s : Simulation α) (style : BackgroundStyle α) : List (Call α) :=
  let w := s.viewport.width
  let h := s.viewport.height
  let center : Point α := ⟨w * style.glowCenter.x, h * style.glowCenter.y⟩
  let outer := Scalar.max w h
  let ground : List (Call α) := [.fillStyle (.color style.color), .fillRect 0 0 w h]
  let glow : List (Call α) :=
    -- a gradient needs finite circles
    if center.isFinite && Scalar.isFinite style.glowInnerRadius && Scalar.isFinite outer then
      [.createRadialGradient center style.glowInnerRadius outer,
        .addColorStop 0 style.glow, .addColorStop 1 style.color,
        .fillStyleGradient, .fillRect 0 0 w h]
    else []
  ground ++ glow

/-! ## Links -/

/-- The alpha of a link between two nodes: by its length, and more in the hovered
neighbourhood. -/
def linkAlpha (s : Simulation α) (a b : Node α) : α :=
  let base := s.scale.link.alphaForLength (a.position.distance b.position)
  let lit := smoothStep (s.highlight.edgeAt a.id b.id)
  base + Scalar.max (s.scale.link.alphaHighlight - base) 0 * lit

def link (s : Simulation α) (style : LinkStyle α) (ends : Nat × Nat) : List (Call α) :=
  match s.graph.nodes[ends.1]?, s.graph.nodes[ends.2]? with
  | some a, some b =>
    [.strokeStyle (style.color.withAlpha (linkAlpha s a b)), .beginPath, .moveTo a.position,
      .lineTo b.position, .stroke]
  | _, _ => []

def links (s : Simulation α) (sizes : ScaledSizes α) (style : LinkStyle α) : List (Call α) :=
  [.globalCompositeOperation style.composite, .lineWidth sizes.lineWidth] ++
    (s.graph.resolvedLinks.map Prod.snd).flatMap (link s style)

/-! ## Nodes -/

def isSelected (s : Simulation α) (n : Node α) : Bool := s.selected == some n.id

def hoverOf (s : Simulation α) (n : Node α) : α := smoothStep (s.highlight.hoverAt n.id)

def drawnRadius (s : Simulation α) (n : Node α) : α :=
  if isSelected s n then n.radius + s.scale.node.selectedBoost
  else n.radius + s.scale.node.hoverBoost * hoverOf s n

def blurOf (s : Simulation α) (n : Node α) : α :=
  let glow := s.scale.glow
  if isSelected s n then glow.selectedBlur
  else glow.baseBlur + (glow.hoveredBlur - glow.baseBlur) * hoverOf s n

def disc (s : Simulation α) (theme : Theme α) (n : Node α) : List (Call α) :=
  let glow := if isSelected s n then theme.node.glowSelected else theme.node.glow
  [.save, .shadowColor glow, .shadowBlur (blurOf s n),
    .fillStyle (theme.nodeFill n.color n.group), .beginPath,
    .arc n.position (drawnRadius s n) 0 (2 * Scalar.pi), .fill, .restore]

def ring (s : Simulation α) (sizes : ScaledSizes α) (theme : Theme α) (n : Node α) :
    List (Call α) :=
  [.strokeStyle theme.node.ring, .lineWidth sizes.ringWidth, .beginPath,
    .arc n.position (drawnRadius s n + s.scale.node.ringOffset) 0 (2 * Scalar.pi), .stroke]

/-- One node, with a ring if it is selected. -/
def node (s : Simulation α) (sizes : ScaledSizes α) (theme : Theme α) (n : Node α) :
    List (Call α) :=
  disc s theme n ++ if isSelected s n then ring s sizes theme n else []

/-! ## Labels -/

/-- The opacity of a label: full for the selected node, else by zoom or hover. -/
def labelAlpha (s : Simulation α) (sizes : ScaledSizes α) (n : Node α) : α :=
  if isSelected s n then 1 else Scalar.max sizes.labelAlpha (hoverOf s n)

def labelColor (s : Simulation α) (style : LabelStyle α) (n : Node α) : Color α :=
  if isSelected s n then style.selectedColor
  else style.color.lerp style.selectedColor (hoverOf s n)

/-- The label of a node; none if it is empty or cannot be seen. -/
def label (s : Simulation α) (sizes : ScaledSizes α) (style : LabelStyle α) (n : Node α) :
    List (Call α) :=
  let alpha := labelAlpha s sizes n
  if n.label.isEmpty || decide (alpha < 0.01) then []
  else
    let c := labelColor s style n
    [.fillStyle (.color (c.withAlpha (c.alpha * alpha))),
      .fillText n.label (n.position.x + drawnRadius s n + sizes.labelOffset) n.position.y]

def labels (s : Simulation α) (sizes : ScaledSizes α) (style : LabelStyle α) : List (Call α) :=
  [.globalCompositeOperation "source-over", .font sizes.labelSize, .textBaseline "middle"] ++
    s.graph.nodes.toList.flatMap (label s sizes style)

/-! ## Frame -/

def draw (s : Simulation α) (theme : Theme α) : List (Call α) :=
  let sizes := s.sizes
  let t := s.viewport.transform
  [.save] ++ background s theme.background ++ [.translate t.x t.y, .scale t.k t.k] ++
    links s sizes theme.link ++ s.graph.nodes.toList.flatMap (node s sizes theme) ++
    labels s sizes theme.label ++ [.restore]

end NodeLink.Frame
