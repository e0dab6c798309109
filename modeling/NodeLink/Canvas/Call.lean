import NodeLink.Look.Theme
import NodeLink.Look.Scale
/-!
# Canvas calls

The calls that draw a frame, as data. Colours and sizes stay values; the text that a call passes on
is made by `Call.name` and `Call.arguments`.
-/

namespace NodeLink

inductive Call (α : Type) where
  | save
  | restore
  | beginPath
  | stroke
  | fill
  | fillRect (x y width height : α)
  | moveTo (p : Point α)
  | lineTo (p : Point α)
  | translate (x y : α)
  | scale (x y : α)
  | arc (center : Point α) (radius startAngle endAngle : α)
  | fillText (text : String) (x y : α)
  -- A new gradient between two circles around one centre.
  | createRadialGradient (center : Point α) (inner outer : α)
  | addColorStop (offset : α) (color : Color α)
  | lineWidth (width : α)
  | shadowBlur (blur : α)
  | fillStyle (style : Fill α)
  -- The gradient made last becomes the fill.
  | fillStyleGradient
  | strokeStyle (color : Color α)
  | shadowColor (color : Color α)
  -- The font, by its size.
  | font (size : α)
  | textBaseline (baseline : String)
  | globalCompositeOperation (mode : String)

namespace Call

inductive Argument (α : Type) where
  | number (x : α)
  | text (s : String)

def name {α : Type} : Call α → String
  | .save => "save"
  | .restore => "restore"
  | .beginPath => "beginPath"
  | .stroke => "stroke"
  | .fill => "fill"
  | .fillRect .. => "fillRect"
  | .moveTo _ => "moveTo"
  | .lineTo _ => "lineTo"
  | .translate .. => "translate"
  | .scale .. => "scale"
  | .arc .. => "arc"
  | .fillText .. => "fillText"
  | .createRadialGradient .. => "createRadialGradient"
  | .addColorStop .. => "addColorStop"
  | .lineWidth _ => "lineWidth"
  | .shadowBlur _ => "shadowBlur"
  | .fillStyle _ => "fillStyle"
  | .fillStyleGradient => "fillStyleGradient"
  | .strokeStyle _ => "strokeStyle"
  | .shadowColor _ => "shadowColor"
  | .font _ => "font"
  | .textBaseline _ => "textBaseline"
  | .globalCompositeOperation _ => "globalCompositeOperation"

def arguments : Call Float → List (Argument Float)
  | .fillRect x y w h => [.number x, .number y, .number w, .number h]
  | .moveTo p => [.number p.x, .number p.y]
  | .lineTo p => [.number p.x, .number p.y]
  | .translate x y => [.number x, .number y]
  | .scale x y => [.number x, .number y]
  | .arc c r a b => [.number c.x, .number c.y, .number r, .number a, .number b]
  | .fillText s x y => [.text s, .number x, .number y]
  | .createRadialGradient c r s =>
    [.number c.x, .number c.y, .number r, .number c.x, .number c.y, .number s]
  | .addColorStop t c => [.number t, .text c.css]
  | .lineWidth x => [.number x]
  | .shadowBlur x => [.number x]
  | .fillStyle f => [.text f.css]
  | .strokeStyle c => [.text c.css]
  | .shadowColor c => [.text c.css]
  | .font size => [.text (fontText size)]
  | .textBaseline s => [.text s]
  | .globalCompositeOperation s => [.text s]
  | _ => []

end Call
end NodeLink
