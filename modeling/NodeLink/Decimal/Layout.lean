import NodeLink.Decimal.Shortest
/-!
# Layouts of decimals

How the digits of a number are set out as text. Each output of the program has one of the layouts
below; they differ in where positional notation ends, in the point that a whole number gets, and
in the texts of what is no number. Zero keeps its sign.
-/

namespace NodeLink.Decimal

/-- The choices of one output format. -/
structure Layout where
  -- Where two shortest decimals are equally near.
  tie : Tie
  -- Exponents that are written positionally.
  positional : Int → Bool
  -- Written after the digits of a whole number in positional notation.
  wholeSuffix : String
  -- Whether a positive exponent has a sign.
  plusSign : Bool
  nan : String
  -- The text of an infinity, given whether it is the negative one.
  infinity : Bool → String

def natText (n : Nat) : String := String.ofList (Nat.toDigits 10 n)

theorem natText_inj {m n : Nat} (h : natText m = natText n) : m = n := by
  have hdigits : Nat.toDigits 10 m = Nat.toDigits 10 n := String.ofList_injective h
  calc m = Nat.ofDigitChars 10 (Nat.toDigits 10 m) 0 := Nat.ofDigitChars_ten_toDigits.symm
    _ = Nat.ofDigitChars 10 (Nat.toDigits 10 n) 0 := by rw [hdigits]
    _ = n := Nat.ofDigitChars_ten_toDigits

def intText (i : Int) : String :=
  if i < 0 then "-" ++ natText i.natAbs else natText i.natAbs

def zeros (n : Nat) : List Char := List.replicate n '0'

/-- Digits with the point at its place. -/
def positionalText (wholeSuffix : String) (d : Digits) : String :=
  let ds := Nat.toDigits 10 d.digits
  if d.exponent < 0 then
    String.ofList (['0', '.'] ++ zeros (d.exponent.natAbs - 1) ++ ds)
  else
    let whole := d.exponent.natAbs + 1
    if ds.length ≤ whole then
      String.ofList (ds ++ zeros (whole - ds.length)) ++ wholeSuffix
    else
      String.ofList (ds.take whole ++ '.' :: ds.drop whole)

/-- One digit, the others after a point, and the power of ten. -/
def scientificText (plusSign : Bool) (d : Digits) : String :=
  let ds := Nat.toDigits 10 d.digits
  let mantissa := match ds with
    | [] => "0"
    | [c] => String.ofList [c]
    | c :: rest => String.ofList (c :: '.' :: rest)
  let sign := if plusSign && decide (0 ≤ d.exponent) then "+" else ""
  mantissa ++ "e" ++ sign ++ intText d.exponent

/-- The shortest text of a number in a layout. -/
def Layout.write (l : Layout) (x : Binary64) : String :=
  match x.magnitude with
  | .nan => l.nan
  | .infinite => l.infinity x.isNegative
  | .finite m e =>
    let d := shortest l.tie m e
    let body := if l.positional d.exponent then positionalText l.wholeSuffix d
      else scientificText l.plusSign d
    if x.isNegative then "-" ++ body else body

/-- Lengths, alphas and font sizes: never an exponent. -/
def plain : Layout where
  tie := .up
  positional _ := true
  wholeSuffix := ""
  plusSign := false
  nan := "NaN"
  infinity negative := if negative then "-inf" else "inf"

/-- Numbers in JSON text: positional from `10 ^ (-5)` up to below `10 ^ 16`, and whole numbers keep
a point so that they read back as fractions. -/
def fractional : Layout where
  tie := .even
  positional e := decide (-5 ≤ e ∧ e ≤ 15)
  wholeSuffix := ".0"
  plusSign := true
  nan := "null"
  infinity _ := "null"

/-- Numbers in reports: nine significant digits in scientific notation, values below a billionth
as zero. -/
def reportText (x : Binary64) : String :=
  match x.magnitude with
  | .nan => "nan"
  | .infinite => if x.isNegative then "-inf" else "inf"
  | .finite m e =>
    if x.absBits < (Binary64.ofDecimal false 1 (-9)).absBits then "0"
    else
      let body := scientificText false (rounded 9 m e)
      if x.isNegative then "-" ++ body else body

end NodeLink.Decimal
