import NodeLink.Json.Basic
/-!
# Tokens of JSON text

Text is cut into tokens before its structure is looked at. A string or a number whose form is right
but whose value does not exist (half of a surrogate pair, a number past the range) is a token
without a value: it is an error only where the value is wanted.
-/

namespace NodeLink.Json

inductive Token where
  | braceOpen
  | braceClose
  | bracketOpen
  | bracketClose
  | comma
  | colon
  | null
  | bool (value : Bool)
  | number (value : Option Number)
  | string (value : Option String)

namespace Token

/-- Space, tab, line feed and carriage return. -/
def isBlank (c : Char) : Bool := c = ' ' || c = '\t' || c = '\n' || c = '\r'

def isDigit (c : Char) : Bool := '0' ≤ c && c ≤ '9'

def digitValue (c : Char) : Nat := c.toNat - 48

def hexValue? (c : Char) : Option Nat :=
  if isDigit c then some (c.toNat - 48)
  else if 'a' ≤ c && c ≤ 'f' then some (c.toNat - 87)
  else if 'A' ≤ c && c ≤ 'F' then some (c.toNat - 55)
  else none

/-! ## Numbers -/

def valueOfDigits (ds : List Char) : Nat := ds.foldl (fun n c => 10 * n + digitValue c) 0

/-- Digits in a row are taken into a number as long as it stays within a machine word; the others
are left over. -/
def takeDigits (n : Nat) : List Char → Nat × List Char
  | [] => (n, [])
  | c :: rest =>
    let m := 10 * n + digitValue c
    if m < Nat.pow 2 64 then takeDigits m rest else (n, c :: rest)

/-- The largest power of ten in the table of `powerOfTen`. -/
def largestPower : Nat := 308

def powerOfTen (n : Nat) : Float := Float.ofScientific 1 false n

/-- `x / 10 ^ n`, by several divisions where the table ends. Two of them leave nothing of a machine
word. -/
def overTen (x : Float) (n : Nat) : Float :=
  if n ≤ largestPower then x / powerOfTen n
  else if x == 0 then x
  else overTen (x / powerOfTen largestPower) (n - largestPower)
termination_by n
decreasing_by
  unfold largestPower at *
  omega

/-- `x * 10 ^ e`; none past the range. -/
def timesTen (x : Float) (e : Int) : Option Float :=
  if e < 0 then some (overTen x e.natAbs)
  else if e.natAbs ≤ largestPower then
    let y := x * powerOfTen e.natAbs
    if y.isInf then none else some y
  else if x == 0 then some x
  else none

/-- The value of a number from its parts. Without point and exponent it is an integer if it lies
in the machine's range and is not a negative zero. Else it is what a machine word can hold of its
digits, times a power of ten. Word, power and product are each rounded, so this need not be the
nearest number, and there may be none although the nearest one is finite. -/
def numberValue (negative : Bool) (whole fraction : List Char) (exponent : Option Int) :
    Option Number :=
  let (n, dropped) := takeDigits 0 whole
  let asInt := dropped.isEmpty && fraction.isEmpty && exponent.isNone
  if asInt && !negative then some (.int n)
  else if asInt && 0 < n && n ≤ Nat.pow 2 63 then some (.int (-(n : Int)))
  else
    let (m, ignored) := takeDigits n fraction
    let shift : Int := exponent.getD 0 + dropped.length + ignored.length - fraction.length
    (timesTen (Binary64.ofNat m).toFloat shift).map fun x =>
      .fraction (.ofFloat (if negative then -x else x))

def readFraction (cs : List Char) : Option (List Char × List Char) :=
  match cs with
  | '.' :: rest =>
    let ds := rest.takeWhile isDigit
    if ds.isEmpty then none else some (ds, rest.dropWhile isDigit)
  | _ => some ([], cs)

def readExponent (cs : List Char) : Option (Option Int × List Char) :=
  match cs with
  | c :: rest =>
    if c = 'e' || c = 'E' then
      let (negative, ds) := match rest with
        | '+' :: r => (false, r)
        | '-' :: r => (true, r)
        | r => (false, r)
      let digits := ds.takeWhile isDigit
      if digits.isEmpty then none
      else
        let n : Int := valueOfDigits digits
        some (some (if negative then -n else n), ds.dropWhile isDigit)
    else some (none, cs)
  | [] => some (none, cs)

/-- A number after its sign: no leading zeros, digits on both sides of a point. -/
def readNumber (negative : Bool) (cs : List Char) : Option (Token × List Char) := do
  let whole := match cs with
    | '0' :: _ => ['0']
    | _ => cs.takeWhile isDigit
  if whole.isEmpty then none
  let rest := cs.drop whole.length
  if whole = ['0'] && (rest.head?.map isDigit).getD false then none
  let (fraction, rest) ← readFraction rest
  let (exponent, rest) ← readExponent rest
  some (.number (numberValue negative whole fraction exponent), rest)

/-! ## Strings -/

/-- The pieces of a string: a character, or a unit of 16 bits from an escape. -/
inductive Piece where
  | char (c : Char)
  | unit (n : Nat)

def isHighSurrogate (n : Nat) : Bool := 0xD800 ≤ n && n ≤ 0xDBFF

def isLowSurrogate (n : Nat) : Bool := 0xDC00 ≤ n && n ≤ 0xDFFF

/-- Joins the halves of surrogate pairs, with the characters so far newest first; none if a half
stands alone. -/
def joinPieces (done : List Char) : List Piece → Option (List Char)
  | [] => some done.reverse
  | .char c :: rest => joinPieces (c :: done) rest
  | .unit n :: .unit m :: rest =>
    if isHighSurrogate n then
      if isLowSurrogate m then
        joinPieces (Char.ofNat (0x10000 + (n - 0xD800) * 0x400 + (m - 0xDC00)) :: done) rest
      else none
    else if isLowSurrogate n then none
    else joinPieces (Char.ofNat n :: done) (.unit m :: rest)
  | .unit n :: rest =>
    if isHighSurrogate n || isLowSurrogate n then none
    else joinPieces (Char.ofNat n :: done) rest

def simpleEscape? (c : Char) : Option Char :=
  match c with
  | '"' => some '"'
  | '\\' => some '\\'
  | '/' => some '/'
  | 'b' => some (Char.ofNat 8)
  | 'f' => some (Char.ofNat 12)
  | 'n' => some '\n'
  | 'r' => some '\r'
  | 't' => some '\t'
  | _ => none

def hexUnit? (a b c d : Char) : Option Nat := do
  let a ← hexValue? a
  let b ← hexValue? b
  let c ← hexValue? c
  let d ← hexValue? d
  some (((a * 16 + b) * 16 + c) * 16 + d)

/-- The pieces up to the closing quote, newest first, and the text after it. -/
def readPieces (done : List Piece) : List Char → Option (List Piece × List Char)
  | [] => none
  | '"' :: rest => some (done, rest)
  | '\\' :: 'u' :: a :: b :: c :: d :: rest =>
    match hexUnit? a b c d with
    | some n => readPieces (.unit n :: done) rest
    | none => none
  | '\\' :: c :: rest =>
    match simpleEscape? c with
    | some e => readPieces (.char e :: done) rest
    | none => none
  | c :: rest => if c.toNat < 32 || c = '\\' then none else readPieces (.char c :: done) rest

def readString (cs : List Char) : Option (Token × List Char) :=
  (readPieces [] cs).map fun (pieces, rest) =>
    (.string ((joinPieces [] pieces.reverse).map String.ofList), rest)

/-! ## Tokens -/

def read : List Char → Option (Token × List Char)
  | [] => none
  | '\x7b' :: rest => some (.braceOpen, rest)
  | '\x7d' :: rest => some (.braceClose, rest)
  | '[' :: rest => some (.bracketOpen, rest)
  | ']' :: rest => some (.bracketClose, rest)
  | ',' :: rest => some (.comma, rest)
  | ':' :: rest => some (.colon, rest)
  | '"' :: rest => readString rest
  | '-' :: rest => readNumber true rest
  | 'n' :: 'u' :: 'l' :: 'l' :: rest => some (.null, rest)
  | 't' :: 'r' :: 'u' :: 'e' :: rest => some (.bool true, rest)
  | 'f' :: 'a' :: 'l' :: 's' :: 'e' :: rest => some (.bool false, rest)
  | cs => readNumber false cs

/-- Reads tokens until the text ends, with those so far newest first. Every token takes at least one
character, so `fuel` may be the length of the text. -/
def readAll (fuel : Nat) (done : List Token) (cs : List Char) : Option (List Token) :=
  match cs.dropWhile isBlank, fuel with
  | [], _ => some done.reverse
  | _, 0 => none
  | cs, fuel + 1 =>
    match read cs with
    | none => none
    | some (t, rest) => readAll fuel (t :: done) rest

end Token

/-- All tokens of a text; none if some part is not one. -/
def tokens (text : String) : Option (List Token) :=
  let cs := text.toList
  Token.readAll cs.length [] cs

end NodeLink.Json
