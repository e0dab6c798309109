import NodeLink.Json.Basic
import NodeLink.Decimal.Layout
/-!
# Writing JSON

Two forms of the same text: compact, and pretty with two spaces per level. Only quotes, backslashes
and control characters are escaped.
-/

namespace NodeLink.Json

def hexDigit (n : Nat) : Char :=
  if n < 10 then Char.ofNat (48 + n) else Char.ofNat (87 + n)

def escapeChar (c : Char) : List Char :=
  if c = '"' then ['\\', '"']
  else if c = '\\' then ['\\', '\\']
  else if 32 ≤ c.toNat then [c]
  else match c.toNat with
    | 8 => ['\\', 'b']
    | 9 => ['\\', 't']
    | 10 => ['\\', 'n']
    | 12 => ['\\', 'f']
    | 13 => ['\\', 'r']
    | n => ['\\', 'u', '0', '0', hexDigit (n / 16), hexDigit (n % 16)]

def quote (s : String) : String :=
  String.ofList ('"' :: s.toList.flatMap escapeChar ++ ['"'])

/-- Integers stay integers; fractions keep a point or an exponent. -/
def Number.text : Number → String
  | .int i => Decimal.intText i
  | .fraction x => Decimal.fractional.write x

/-- Separates texts by a comma and whatever follows it. -/
def joinComma (gap : String) (parts : List String) : String :=
  String.intercalate ("," ++ gap) parts

def openBrace : String := "\x7b"

def closeBrace : String := "\x7d"

/-! ## Compact -/

mutual

def compact : Json → String
  | .null => "null"
  | .bool b => if b then "true" else "false"
  | .number n => n.text
  | .string s => quote s
  | .array items => "[" ++ joinComma "" (compactItems items) ++ "]"
  | .object ms => openBrace ++ joinComma "" (compactMembers ms) ++ closeBrace

def compactItems : List Json → List String
  | [] => []
  | v :: rest => compact v :: compactItems rest

def compactMembers : List (String × Json) → List String
  | [] => []
  | (k, v) :: rest => (quote k ++ ":" ++ compact v) :: compactMembers rest

end

/-! ## Pretty -/

def lineBreak (level : Nat) : String := String.ofList ('\n' :: List.replicate (2 * level) ' ')

/-- The parts of a list or an object, each on its own line. -/
def block (level : Nat) (opening closing : String) (parts : List String) : String :=
  if parts.isEmpty then opening ++ closing
  else
    opening ++ lineBreak (level + 1) ++ joinComma (lineBreak (level + 1)) parts ++
      lineBreak level ++ closing

mutual

/-- Text with two spaces per level; what is empty stays on one line. -/
def prettyAt (level : Nat) : Json → String
  | .null => "null"
  | .bool b => if b then "true" else "false"
  | .number n => n.text
  | .string s => quote s
  | .array items => block level "[" "]" (prettyItems (level + 1) items)
  | .object ms => block level openBrace closeBrace (prettyMembers (level + 1) ms)

def prettyItems (level : Nat) : List Json → List String
  | [] => []
  | v :: rest => prettyAt level v :: prettyItems level rest

def prettyMembers (level : Nat) : List (String × Json) → List String
  | [] => []
  | (k, v) :: rest => (quote k ++ ": " ++ prettyAt level v) :: prettyMembers level rest

end

def pretty (v : Json) : String := prettyAt 0 v

end NodeLink.Json
