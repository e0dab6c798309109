import NodeLink.Scalar
/-!
# Floats as scalars

The scalars the widget runs with: binary floating point of 64 bits.
-/

namespace NodeLink

instance : Scalar Float where
  decLt := Float.decLt
  decLe := Float.decLe
  ofNat n := if n < Nat.pow 2 53 then Float.ofNat n else (Binary64.ofNat n).toFloat
  ofScientific m s e := Float.ofScientific m s e
  ofBinary64 x := x.toFloat
  isFinite := Float.isFinite
  abs := Float.abs
  sqrt := Float.sqrt
  floor := Float.floor
  sin := Float.sin
  cos := Float.cos
  exp := Float.exp
  pow := Float.pow
  pi := 3.141592653589793
  toIntWithin lo hi x := (Binary64.ofFloat x).toIntWithin lo hi

end NodeLink
