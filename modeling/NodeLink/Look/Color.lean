import NodeLink.Decimal.Layout
import NodeLink.Json.Printer
import NodeLink.Scalar.Binary
/-!
# Colours

Red, green and blue as bytes and an alpha, with their style text.
-/

namespace NodeLink

structure Color (α : Type) where
  red : UInt8
  green : UInt8
  blue : UInt8
  alpha : α
deriving DecidableEq, Inhabited

namespace Color

variable {α : Type} [Scalar α]

def rgb (red green blue : UInt8) : Color α := ⟨red, green, blue, 1⟩

def withAlpha (c : Color α) (alpha : α) : Color α := { c with alpha := alpha }

def mixByte (a b : UInt8) (t : α) : UInt8 :=
  Scalar.toByte (Scalar.ofNat a.toNat * (1 - t) + Scalar.ofNat b.toNat * t)

def lerp (c d : Color α) (t : α) : Color α :=
  let t := Scalar.clampUnit t
  { red := mixByte c.red d.red t
    green := mixByte c.green d.green t
    blue := mixByte c.blue d.blue t
    alpha := c.alpha * (1 - t) + d.alpha * t }

/-- Closer to opaque than can be told. -/
def isOpaque (c : Color α) : Bool := decide (Scalar.abs (c.alpha - 1) < 0.001)

def byteText (b : UInt8) : String :=
  String.ofList [Json.hexDigit (b.toNat / 16), Json.hexDigit (b.toNat % 16)]

/-- The style text: hexadecimal for opaque colours, else with the alpha in shortest form. -/
def css (c : Color Float) : String :=
  if c.isOpaque then "#" ++ byteText c.red ++ byteText c.green ++ byteText c.blue
  else
    "rgba(" ++ Decimal.natText c.red.toNat ++ ", " ++ Decimal.natText c.green.toNat ++ ", " ++
      Decimal.natText c.blue.toNat ++ ", " ++
      Decimal.plain.write (Binary64.ofFloat c.alpha) ++ ")"

end Color
end NodeLink
