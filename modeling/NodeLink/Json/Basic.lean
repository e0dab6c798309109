import NodeLink.Scalar
/-!
# JSON values

Values as the widget keeps them: the members of an object are sorted by key and a key stands once.
A number is an integer of the machine's range, signed or unsigned, or a binary fraction; the two
kinds stay apart because they are written differently.
-/

namespace NodeLink

/-- An integer from `-2 ^ 63` to `2 ^ 64 - 1`, or a finite binary number. -/
inductive Json.Number where
  | int (value : Int)
  | fraction (value : Binary64)
deriving DecidableEq, Inhabited

inductive Json where
  | null
  | bool (value : Bool)
  | number (value : Json.Number)
  | string (value : String)
  | array (items : List Json)
  -- Members in increasing order of their keys.
  | object (members : List (String × Json))
deriving Inhabited

namespace Json

def Number.toBinary64 : Number → Binary64
  | .int i => Binary64.ofInt i
  | .fraction x => x

def Number.toScalar {α : Type} [Scalar α] (n : Number) : α := Scalar.ofBinary64 n.toBinary64

/-! ## Objects -/

abbrev Members := List (String × Json)

/-- Puts a member at its place; a value already there is replaced. -/
def Members.insert (key : String) (value : Json) : Members → Members
  | [] => [(key, value)]
  | (k, v) :: rest =>
    if key < k then (key, value) :: (k, v) :: rest
    else if key = k then (key, value) :: rest
    else (k, v) :: Members.insert key value rest

/-- Sorted members from pairs in any order; of a repeated key the last value counts. -/
def Members.ofPairs (pairs : List (String × Json)) : Members :=
  pairs.foldl (fun ms (k, v) => Members.insert k v ms) []

def ofPairs (pairs : List (String × Json)) : Json := .object (Members.ofPairs pairs)

def emptyObject : Json := .object []

def Members.get? (ms : Members) (key : String) : Option Json := ms.lookup key

/-- The value of the first of the given keys that has one other than null. -/
def Members.first? (ms : Members) (keys : List String) : Option Json :=
  keys.findSome? fun k =>
    match ms.get? k with
    | none | some .null => none
    | some v => some v

/-! ## Views -/

def isNull : Json → Bool
  | .null => true
  | _ => false

def isObject : Json → Bool
  | .object _ => true
  | _ => false

def members? : Json → Option Members
  | .object ms => some ms
  | _ => none

def items? : Json → Option (List Json)
  | .array xs => some xs
  | _ => none

def string? : Json → Option String
  | .string s => some s
  | _ => none

def number? : Json → Option Number
  | .number n => some n
  | _ => none

end Json
end NodeLink
