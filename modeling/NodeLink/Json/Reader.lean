import NodeLink.Json.Token
/-!
# Reading JSON

A text is first read as it is written: members in their order, repeated keys and all, strings and
numbers without a value included. `Json.parse?` makes a value of it, which needs every string and
number to exist and the nesting to stay within `depthLimit`. Readers of typed data work on the
written form, because a member they do not know may hold anything that is well formed.
-/

namespace NodeLink.Json

inductive Written where
  | null
  | bool (value : Bool)
  | number (value : Option Number)
  | string (value : Option String)
  | array (items : List Written)
  | object (members : List (Option String × Written))
deriving Inhabited

namespace Written

/-! ## Structure

One pass over the tokens with a stack of the arrays and objects that are still open. -/

/-- An open array or object with its parts so far, newest first. -/
inductive Frame where
  | array (done : List Written)
  | object (done : List (Option String × Written)) (key : Option String)

inductive Expect where
  | value
  | firstItem
  | separator
  | firstKey
  | key
  | colon
  | nothing

structure State where
  stack : List Frame := []
  expect : Expect := .value
  result : Written := .null

/-- A complete value is put into the innermost open frame. -/
def State.put (s : State) (v : Written) : State :=
  match s.stack with
  | [] => { s with expect := .nothing, result := v }
  | .array done :: rest => { s with stack := .array (v :: done) :: rest, expect := .separator }
  | .object done key :: rest =>
    { s with stack := .object ((key, v) :: done) none :: rest, expect := .separator }

def State.close (s : State) (t : Token) : Option State :=
  match t, s.stack with
  | .bracketClose, .array done :: rest => some ({ s with stack := rest }.put (.array done.reverse))
  | .braceClose, .object done _ :: rest => some ({ s with stack := rest }.put (.object done.reverse))
  | _, _ => none

def State.start (s : State) : Token → Option State
  | .null => some (s.put .null)
  | .bool b => some (s.put (.bool b))
  | .number n => some (s.put (.number n))
  | .string t => some (s.put (.string t))
  | .bracketOpen => some { s with stack := .array [] :: s.stack, expect := .firstItem }
  | .braceOpen => some { s with stack := .object [] none :: s.stack, expect := .firstKey }
  | _ => none

def State.putKey (s : State) (t : Token) : Option State :=
  match t, s.stack with
  | .string k, .object done _ :: rest =>
    some { s with stack := .object done k :: rest, expect := .colon }
  | _, _ => none

/-- After a comma an array expects a value and an object a key. -/
def State.next (s : State) : Option State :=
  match s.stack with
  | .array _ :: _ => some { s with expect := .value }
  | .object _ _ :: _ => some { s with expect := .key }
  | [] => none

def State.step (s : State) (t : Token) : Option State :=
  match s.expect, t with
  | .value, t => s.start t
  | .firstItem, .bracketClose => s.close t
  | .firstItem, t => s.start t
  | .firstKey, .braceClose => s.close t
  | .firstKey, t => s.putKey t
  | .key, t => s.putKey t
  | .colon, .colon => some { s with expect := .value }
  | .colon, _ => none
  | .separator, .comma => s.next
  | .separator, t => s.close t
  | .nothing, _ => none

/-- The written form of a text; none if it is not well formed. -/
def read? (text : String) : Option Written := do
  let ts ← tokens text
  let s ← ts.foldlM State.step {}
  match s.expect with
  | .nothing => some s.result
  | _ => none

/-! ## Values -/

mutual

/-- The value of a written form in which at most `room` levels may be nested. -/
def toJson? (room : Nat) : Written → Option Json
  | .null => some .null
  | .bool b => some (.bool b)
  | .number n => n.map .number
  | .string s => s.map .string
  | .array items =>
    match room with
    | 0 => none
    | room + 1 => (itemsToJson? room items).map .array
  | .object ms =>
    match room with
    | 0 => none
    | room + 1 => (membersToJson? room ms).map Json.ofPairs

def itemsToJson? (room : Nat) : List Written → Option (List Json)
  | [] => some []
  | v :: rest =>
    match toJson? room v, itemsToJson? room rest with
    | some v, some vs => some (v :: vs)
    | _, _ => none

def membersToJson? (room : Nat) :
    List (Option String × Written) → Option (List (String × Json))
  | [] => some []
  | (k, v) :: rest =>
    match k, toJson? room v, membersToJson? room rest with
    | some k, some v, some vs => some ((k, v) :: vs)
    | _, _, _ => none

end

end Written

/-- Arrays and objects nested deeper than this are refused. -/
def depthLimit : Nat := 127

/-- The value of a text; none if it is not JSON. -/
def parse? (text : String) : Option Json := do
  (← Written.read? text).toJson? depthLimit

end NodeLink.Json
