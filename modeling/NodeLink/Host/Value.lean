import NodeLink.Json.Printer
/-!
# Host values

The values that the page and its hosts hand over: plain data, functions, and objects whose members
may be functions. A function is known by what it does when it is called and by what it returns.

* `HostValue.get?` reads a member; on what is no object reading fails.
* `HostValue.toText?` is how the widget reads text from a host: a text stands for itself, other
  data for its JSON text.
-/

namespace NodeLink

inductive HostAct where
  -- Notes the call in its own log.
  | log
  -- Keeps the function it was given, to call it later.
  | keepHandler
  | publishGraph (text : String)
  | publishSelection (id : String)
  | setText (text : String)
  | focus (id : String)
  | fit
  | search (query : String)
  -- Asks for the panel of a node, and does `meanwhile` when it is itself asked for details.
  | detail (id : String) (meanwhile : List HostAct)
deriving Inhabited

inductive HostValue where
  | undefined
  -- Plain data: nothing in it can be called.
  | data (value : Json)
  | object (members : List (String × HostValue))
  -- What a call does, and what it returns; none if it throws.
  | function (acts : List HostAct) (result : Option HostValue)
  -- Stands for a member that cannot be read.
  | unreadable
deriving Inhabited

namespace HostValue

/-- The value of a member, `undefined` if there is none; none if reading fails. -/
def get? (v : HostValue) (name : String) : Option HostValue :=
  match v with
  | .object ms =>
    match ms.lookup name with
    | none => some .undefined
    | some .unreadable => none
    | some w => some w
  | .data (.object ms) => some (((Json.Members.get? ms name).map .data).getD .undefined)
  | .data (.array _) => some .undefined
  | .function _ _ => some .undefined
  | _ => none

structure Callable where
  acts : List HostAct
  result : Option HostValue

def function? (v : HostValue) (name : String) : Option Callable :=
  match v.get? name with
  | some (.function acts result) => some ⟨acts, result⟩
  | _ => none

/-- Records and lists, but not functions. -/
def isObject : HostValue → Bool
  | .object _ => true
  | .data (.object _) => true
  | .data (.array _) => true
  | _ => false

def number? : HostValue → Option Json.Number
  | .data v => v.number?
  | _ => none

/-! ## Text -/

inductive Plain where
  | data (value : Json)
  -- Nothing, as of functions.
  | omitted
  -- Some part of it cannot be read.
  | failed

mutual

def plain : HostValue → Plain
  | .undefined => .omitted
  | .data v => .data v
  | .object ms =>
    match plainMembers ms with
    | some ms => .data (.object ms)
    | none => .failed
  | .function _ _ => .omitted
  | .unreadable => .failed

/-- The members of which something is left; none if one of them cannot be read. -/
def plainMembers : List (String × HostValue) → Option Json.Members
  | [] => some []
  | (k, v) :: rest =>
    match plain v, plainMembers rest with
    | .data v, some ms => some ((k, v) :: ms)
    | .omitted, some ms => some ms
    | _, _ => none

end

def jsonText? (v : HostValue) : Option String :=
  match v.plain with
  | .data v => some v.compact
  | _ => none

/-- The text a host means: a text itself, nothing for null and `undefined`, else JSON text. -/
def toText? : HostValue → Option String
  | .data (.string s) => some s
  | .data .null => none
  | .undefined => none
  | v => v.jsonText?

end HostValue
end NodeLink
