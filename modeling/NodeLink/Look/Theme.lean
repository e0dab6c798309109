import NodeLink.Look.Color
import NodeLink.Point
/-!
# Theme

The colours of the drawing: mint nodes and links that add their light, on a dark blue field.
-/

namespace NodeLink

/-- A flat ground with a glow off the middle. -/
structure BackgroundStyle (α : Type) where
  color : Color α
  glow : Color α
  -- The middle of the glow, as fractions of width and height.
  glowCenter : Point α
  -- Where the glow starts to fade, in device pixels.
  glowInnerRadius : α

structure LinkStyle (α : Type) where
  -- The alpha is chosen for each link.
  color : Color α
  -- How links are combined with what is below them.
  composite : String

structure NodeStyle (α : Type) where
  -- For nodes without a group or a colour of their own.
  fill : Color α
  groupFill : Color α
  glow : Color α
  glowSelected : Color α
  ring : Color α

structure LabelStyle (α : Type) where
  color : Color α
  selectedColor : Color α

structure Theme (α : Type) where
  background : BackgroundStyle α
  link : LinkStyle α
  node : NodeStyle α
  label : LabelStyle α

/-- What a shape is filled with: a colour, or the style text that a node brings. -/
inductive Fill (α : Type) where
  | color (c : Color α)
  | text (style : String)

namespace Fill

def css : Fill Float → String
  | .color c => c.css
  | .text style => style

end Fill

namespace Theme

variable {α : Type} [Scalar α]

def mint : Color α := Color.rgb 112 255 210

def standard : Theme α where
  background :=
    { color := Color.rgb 11 15 20
      glow := Color.rgb 16 26 39
      glowCenter := ⟨0.35, 0.25⟩
      glowInnerRadius := 40 }
  link :=
    { color := Color.rgb 190 255 235
      composite := "lighter" }
  node :=
    { fill := mint.withAlpha 0.92
      groupFill := ⟨150, 200, 255, 0.90⟩
      glow := mint.withAlpha 0.25
      glowSelected := mint.withAlpha 0.45
      ring := mint.withAlpha 0.45 }
  label :=
    { color := ⟨210, 230, 250, 0.82⟩
      selectedColor := ⟨220, 245, 255, 0.95⟩ }

/-- The fill of a node: its own colour if it has one that is not empty, else by its group. -/
def nodeFill (t : Theme α) (color : Option String) (group : String) : Fill α :=
  match color.filter fun style => !style.isEmpty with
  | some style => .text style
  | none => .color (if group.isEmpty then t.node.fill else t.node.groupFill)

end Theme
end NodeLink
