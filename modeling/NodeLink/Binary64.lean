/-!
# Binary64

Floating point numbers of 64 bits as exact data: a number is its bit pattern, and what it stands
for is a sign and an integer times a power of two. Nothing here computes with `Float`, so the
conversions from and to decimals stay open to proofs.

* `Binary64.magnitude` reads a pattern as `m * 2 ^ e`, infinity or no number.
* `Binary64.ofRatio` is the number nearest to a fraction of naturals; a tie goes to the even
  significand, and a value past the range to infinity.
-/

namespace NodeLink

/-- A floating point number of 64 bits, given by its bit pattern. -/
structure Binary64 where
  bits : UInt64
deriving DecidableEq, Inhabited

namespace Binary64

/-- The size of a number, its sign left out. -/
inductive Magnitude where
  -- The exact value `significand * 2 ^ exponent`.
  | finite (significand : Nat) (exponent : Int)
  | infinite
  | nan
deriving DecidableEq

/-! ## Reading a pattern -/

/-- The top bit: set for negative numbers, the negative zero among them. -/
def isNegative (x : Binary64) : Bool := Nat.pow 2 63 ≤ x.bits.toNat

def exponentField (x : Binary64) : Nat := x.bits.toNat / Nat.pow 2 52 % Nat.pow 2 11

def fractionField (x : Binary64) : Nat := x.bits.toNat % Nat.pow 2 52

def magnitude (x : Binary64) : Magnitude :=
  if x.exponentField = 2047 then
    if x.fractionField = 0 then .infinite else .nan
  else if x.exponentField = 0 then .finite x.fractionField (-1074)
  else .finite (x.fractionField + Nat.pow 2 52) ((x.exponentField : Int) - 1075)

/-- The pattern with the sign bit cleared. Among numbers that are not NaN, the order of these
patterns is the order of the absolute values. -/
def absBits (x : Binary64) : Nat := x.bits.toNat % Nat.pow 2 63

/-! ## Building a pattern -/

/-- Puts a sign in front of a pattern below `2 ^ 63`. -/
def withSign (negative : Bool) (pattern : Nat) : Binary64 :=
  ⟨UInt64.ofNat (if negative then pattern + Nat.pow 2 63 else pattern)⟩

def infinityBits : Nat := 2047 * Nat.pow 2 52

def zero (negative : Bool) : Binary64 := withSign negative 0

def infinity (negative : Bool) : Binary64 := withSign negative infinityBits

def nan : Binary64 := ⟨UInt64.ofNat (infinityBits + Nat.pow 2 51)⟩

/-- `num / den` rounded to a whole number; a tie goes to the even neighbour. -/
def roundQuotient (num den : Nat) : Nat :=
  let q := num / den
  let r := num % den
  if 2 * r < den then q
  else if den < 2 * r then q + 1
  else if q % 2 = 0 then q else q + 1

/-- The fraction `num / den` divided by `2 ^ e`, again as numerator and denominator. -/
def scaleDown (num den : Nat) (e : Int) : Nat × Nat :=
  if e < 0 then (num * Nat.pow 2 e.natAbs, den) else (num, den * Nat.pow 2 e.natAbs)

/-- The exponent under which `num / den` has a significand of 53 bits, but never less than that of
the smallest numbers. -/
def exponentFor (num den : Nat) : Int :=
  let guess : Int := (num.log2 : Int) - (den.log2 : Int) - 53
  let (n, d) := scaleDown num den guess
  let e := if n < d * Nat.pow 2 53 then guess else guess + 1
  max e (-1074)

/-- The number nearest to `num / den`. The pattern of exponent `e` and significand `q` is
`(e + 1074) * 2 ^ 52 + q`, also when rounding carries `q` to the next power of two. -/
def ofRatio (negative : Bool) (num den : Nat) : Binary64 :=
  if num = 0 then zero negative
  else
    let e := exponentFor num den
    let (n, d) := scaleDown num den e
    let pattern := (e + 1074).toNat * Nat.pow 2 52 + roundQuotient n d
    if infinityBits ≤ pattern then infinity negative else withSign negative pattern

/-- The number nearest to a natural number. -/
def ofNat (n : Nat) : Binary64 := ofRatio false n 1

/-- The number nearest to an integer. -/
def ofInt (i : Int) : Binary64 := ofRatio (i < 0) i.natAbs 1

/-- How many decimal digits a positive number has. -/
def digitCount (n : Nat) : Nat := (Nat.toDigits 10 n).length

/-- The number nearest to `coefficient * 10 ^ exponent`. Far outside the range the power of ten
is not formed: from `10 ^ 310` on everything is infinite, below `10 ^ (-330)` everything zero. -/
def ofDecimal (negative : Bool) (coefficient : Nat) (exponent : Int) : Binary64 :=
  if coefficient = 0 then zero negative
  else
    let top := exponent + digitCount coefficient
    if 311 < top then infinity negative
    else if top < -330 then zero negative
    else if exponent < 0 then ofRatio negative coefficient (Nat.pow 10 exponent.natAbs)
    else ofRatio negative (coefficient * Nat.pow 10 exponent.natAbs) 1

/-! ## Tests and whole numbers -/

def isNaN (x : Binary64) : Bool := x.magnitude == .nan

def isFinite (x : Binary64) : Bool := x.exponentField != 2047

/-- The whole part, toward zero, kept within `lo` and `hi`; zero for no number. -/
def toIntWithin (lo hi : Int) (x : Binary64) : Int :=
  match x.magnitude with
  | .nan => 0
  | .infinite => if x.isNegative then lo else hi
  | .finite m e =>
    let whole : Int :=
      if e < 0 then (m / Nat.pow 2 e.natAbs : Nat) else (m * Nat.pow 2 e.natAbs : Nat)
    max lo (min hi (if x.isNegative then -whole else whole))

/-! ## Floats -/

def ofFloat (x : Float) : Binary64 := ⟨x.toBits⟩

def toFloat (x : Binary64) : Float := Float.ofBits x.bits

end Binary64
end NodeLink
