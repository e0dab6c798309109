import NodeLink.Text.Blank
import NodeLink.Text.CaseTable
/-!
# Lower case

Full Unicode lower-casing of a text. Two characters are special: the capital I with a dot becomes
two characters, and the capital sigma has another form at the end of a word, that is after a letter
and not before one.
-/

namespace NodeLink.Text

def isCased (c : Char) : Bool := inRanges casedRanges c.toNat

def isCaseIgnorable (c : Char) : Bool := inRanges caseIgnorableRanges c.toNat

/-- The lower-case form where it is a single character, else the character itself. -/
def lowerSingle (c : Char) : Char :=
  let n := c.toNat
  match lowerRuns.find? fun (lo, hi, step, _) =>
      decide (lo ≤ n) && decide (n ≤ hi) && (n - lo) % step == 0 with
  | some (_, _, _, shift) => Char.ofNat ((n : Int) + shift).toNat
  | none => c

/-- The capital I with a dot above. -/
def dottedI : Char := Char.ofNat 0x0130

def capitalSigma : Char := Char.ofNat 0x03A3

def smallSigma : Char := Char.ofNat 0x03C3

def finalSigma : Char := Char.ofNat 0x03C2

/-- Whether the next character that counts has case. -/
def meetsCased (cs : List Char) : Bool :=
  match cs.dropWhile isCaseIgnorable with
  | c :: _ => isCased c
  | [] => false

/-- The lower-case form of a character between the characters before it, nearest first, and those
after it. -/
def lowerAt (before after : List Char) (c : Char) : List Char :=
  if c = capitalSigma then
    [if meetsCased before && !meetsCased after then finalSigma else smallSigma]
  else if c = dottedI then ['i', Char.ofNat 0x0307]
  else [lowerSingle c]

/-- Lower-cases from left to right; `before` holds what has been passed, nearest first. -/
def lowerFrom (before : List Char) : List Char → List Char
  | [] => []
  | c :: after => lowerAt before after c ++ lowerFrom (c :: before) after

def lowerCase (cs : List Char) : List Char := lowerFrom [] cs

def occursIn (needle : List Char) : List Char → Bool
  | [] => needle.isEmpty
  | c :: rest => needle.isPrefixOf (c :: rest) || occursIn needle rest

end NodeLink.Text
