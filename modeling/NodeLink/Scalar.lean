import NodeLink.Binary64
/-!
# Scalars

The numbers of the widget: positions, velocities, zooms, alphas. Everything geometric is written
over a type of scalars, so one definition runs in floating point and is also a statement about
exact numbers. A scalar type may have values that are not finite and a value that is no number;
which laws hold is a matter of the instance.

* `Scalar.max`, `Scalar.min`: a number wins over no number.
* `Scalar.clamp`: into a range; no number stays as it is.
* `Scalar.positiveOr`: a positive finite value, or a fallback.
-/

namespace NodeLink

/-- Numbers with arithmetic, comparisons and the elementary functions the widget needs. -/
class Scalar (α : Type) extends Add α, Sub α, Mul α, Div α, Neg α, LT α, LE α, BEq α where
  decLt : (a b : α) → Decidable (a < b)
  decLe : (a b : α) → Decidable (a ≤ b)
  -- The scalar nearest to a natural number.
  ofNat : Nat → α
  -- `ofScientific m s e` is nearest to `m * 10 ^ e`, or to `m / 10 ^ e` if `s`.
  ofScientific : Nat → Bool → Nat → α
  ofBinary64 : Binary64 → α
  isFinite : α → Bool
  abs : α → α
  sqrt : α → α
  floor : α → α
  sin : α → α
  cos : α → α
  exp : α → α
  pow : α → α → α
  pi : α
  -- The whole part, toward zero, kept within two bounds; zero for no number.
  toIntWithin : Int → Int → α → Int

namespace Scalar

variable {α : Type} [Scalar α]

instance (a b : α) : Decidable (a < b) := decLt a b

instance (a b : α) : Decidable (a ≤ b) := decLe a b

instance (priority := low) instOfNat (n : Nat) : OfNat α n := ⟨ofNat n⟩

instance (priority := low) instOfScientific : OfScientific α := ⟨ofScientific⟩

instance (priority := low) instInhabited : Inhabited α := ⟨0⟩

/-- Only what is no number differs from itself. -/
def isNaN (a : α) : Bool := !(a == a)

/-- The larger one; a number wins over no number. -/
def max (a b : α) : α :=
  if isNaN a then b else if isNaN b then a else if a < b then b else a

/-- The smaller one; a number wins over no number. -/
def min (a b : α) : α :=
  if isNaN a then b else if isNaN b then a else if b < a then b else a

/-- Whether `lo` to `hi` is a range: false also if either bound is no number. -/
def inOrder (lo hi : α) : Bool := decide (lo ≤ hi)

/-- The nearest value from `lo` to `hi`, for bounds in order. -/
def clamp (lo hi x : α) : α := if x < lo then lo else if hi < x then hi else x

def clampUnit (x : α) : α := clamp 0 1 x

/-- The value itself if it is finite, else the fallback. -/
def finiteOr (x fallback : α) : α := if isFinite x then x else fallback

/-- The value itself if it is finite and positive, else the fallback. -/
def positiveOr (x fallback : α) : α := if isFinite x && decide (0 < x) then x else fallback

def turn : α := 2 * pi

/-- Toward zero, kept within the signed integers of 32 bits. -/
def toInt32 (x : α) : Int := toIntWithin (-2147483648) 2147483647 x

def toByte (x : α) : UInt8 := UInt8.ofNat (toIntWithin 0 255 x).toNat

/-- Toward zero, kept within the unsigned integers of 32 bits. -/
def toWord32 (x : α) : Nat := (toIntWithin 0 4294967295 x).toNat

end Scalar
end NodeLink
