import NodeLink.Binary64
/-!
# Shortest decimals

The decimal with the fewest digits that reads back to a given binary number. The reals that round
to the number form an interval; for one digit, two digits and so on the two neighbours of the
number on that decimal grid are tried, and the first grid with a neighbour inside wins. Of two
neighbours the nearer is taken; which one wins an exact tie is for the caller. All arithmetic is on
naturals.
-/

namespace NodeLink.Decimal

inductive Tie where
  | even
  | up
deriving DecidableEq

/-- The positive value `d₁.d₂…dₙ * 10 ^ exponent`, the digits written together as one natural
number without trailing zeros; `digits = 0` stands for zero. -/
structure Digits where
  digits : Nat
  exponent : Int
deriving DecidableEq

/-- `num * 10 ^ (-k) / den` as numerator and denominator. -/
def scaleTen (num den : Nat) (k : Int) : Nat × Nat :=
  if k < 0 then (num * Nat.pow 10 k.natAbs, den) else (num, den * Nat.pow 10 k.natAbs)

/-- The largest `k` with `10 ^ k ≤ num / den`. The difference of the binary logarithms, times
`log 2`, misses it by at most two. -/
def exponentOf (num den : Nat) : Int :=
  let guess := Int.fdiv (((num.log2 : Int) - (den.log2 : Int)) * 30103) 100000
  let fits (k : Int) : Bool :=
    let (n, d) := scaleTen num den k
    decide (d ≤ n)
  (([guess + 2, guess + 1, guess, guess - 1].find? fits).getD (guess - 2))

/-- Removes trailing zeros; at most `fuel` of them, and a number below `10 ^ fuel` has no more. -/
def trimZeros : Nat → Nat → Nat
  | 0, n => n
  | fuel + 1, n => if n = 0 then 0 else if n % 10 = 0 then trimZeros fuel (n / 10) else n

/-- The interval of reals that round to `m * 2 ^ e`, in units of `2 ^ (e - 2)`: the number itself,
how far down and how far up. Below a power of two the neighbour is half as far. -/
def roundingInterval (m : Nat) (e : Int) : Nat × Nat × Nat :=
  (4 * m, if m = Nat.pow 2 52 ∧ -1074 < e then 1 else 2, 2)

/-- A value `num / den` with the interval `[num - down, num + up] / den` around it, whose ends
count iff `closed`. -/
structure Target where
  num : Nat
  den : Nat
  down : Nat
  up : Nat
  closed : Bool

def Target.of (m : Nat) (e : Int) : Target :=
  let (v, down, up) := roundingInterval m e
  let closed := m % 2 = 0
  if e - 2 < 0 then ⟨v, Nat.pow 2 (e - 2).natAbs, down, up, closed⟩
  else
    let s := Nat.pow 2 (e - 2).natAbs
    ⟨v * s, 1, down * s, up * s, closed⟩

/-- Whether `c * 10 ^ k` lies in the interval. -/
def Target.contains (t : Target) (k : Int) (c : Nat) : Bool :=
  let (n, d) := if k < 0 then (c, Nat.pow 10 k.natAbs) else (c * Nat.pow 10 k.natAbs, 1)
  -- n / d against (num - down) / den and (num + up) / den
  let value := n * t.den
  let low := (t.num - t.down) * d
  let high := (t.num + t.up) * d
  if t.closed then decide (low ≤ value ∧ value ≤ high) else decide (low < value ∧ value < high)

/-- The neighbours of the value on the grid of multiples of `10 ^ k` that lie in the interval, the
nearer one if both do. -/
def Target.onGrid (t : Target) (tie : Tie) (k : Int) : Option Nat :=
  let (n, d) := scaleTen t.num t.den k
  let below := n / d
  let gap := 2 * (n % d)
  let up := decide (d < gap) || decide (d = gap) && (tie == .up || below % 2 == 1)
  match t.contains k below, t.contains k (below + 1) with
  | true, true => some (if up then below + 1 else below)
  | true, false => some below
  | false, true => some (below + 1)
  | false, false => none

/-- Tries the grids from one digit on; 17 digits always suffice. -/
def Target.search (t : Target) (tie : Tie) (top : Int) : List Nat → Option (Nat × Int)
  | [] => none
  | n :: rest =>
    let k := top - n
    match t.onGrid tie k with
    | some c => if c = 0 then t.search tie top rest else some (c, k)
    | none => t.search tie top rest

/-- The fewest digits that read back to `m * 2 ^ e`. -/
def shortest (tie : Tie) (m : Nat) (e : Int) : Digits :=
  if m = 0 then ⟨0, 0⟩
  else
    let t := Target.of m e
    let top := exponentOf t.num t.den
    match t.search tie top (List.range 18) with
    | some (c, k) => ⟨trimZeros 20 c, k + (Binary64.digitCount c : Int) - 1⟩
    | none => ⟨0, 0⟩

/-- The `count` leading digits of `m * 2 ^ e`, rounded from the exact value; a tie goes to the
even digit. -/
def rounded (count : Nat) (m : Nat) (e : Int) : Digits :=
  if m = 0 then ⟨0, 0⟩
  else
    let (num, den) := if e < 0 then (m, Nat.pow 2 e.natAbs) else (m * Nat.pow 2 e.natAbs, 1)
    let k := exponentOf num den - ((count : Int) - 1)
    let (n, d) := scaleTen num den k
    let c := Binary64.roundQuotient n d
    ⟨trimZeros (count + 1) c, k + (Binary64.digitCount c : Int) - 1⟩

end NodeLink.Decimal
