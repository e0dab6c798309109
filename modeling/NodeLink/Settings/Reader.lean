import NodeLink.Settings.Basic
import NodeLink.Json.Reader
/-!
# Reading settings

Settings come as JSON text. Each group of values is an object whose members may be left out, or an
array of values in the order of declaration that may end early. A member of an unknown name is
skipped whatever it holds; a known one must hold a number, and must not stand twice.
-/

namespace NodeLink

open Json (Written)

variable {α : Type} [Scalar α]

namespace Settings

def scalar? : Written → Option α
  | .number (some n) => some n.toScalar
  | _ => none

def word32? : Written → Option Nat
  | .number (some (.int i)) => if 0 ≤ i ∧ i < 4294967296 then some i.toNat else none
  | _ => none

/-- One group of values being read: the names of its fields in order, and how a field takes what is
written for it. -/
structure Group (β : Type) where
  names : List String
  put : β → String → Written → Option β

/-- Reads the members of an object in order; `seen` holds the known names so far. -/
def Group.readMembers {β : Type} (g : Group β) (seen : List String) (value : β) :
    List (Option String × Written) → Option β
  | [] => some value
  | (none, _) :: _ => none
  | (some name, w) :: rest =>
    if name ∈ g.names then
      if name ∈ seen then none
      else (g.put value name w).bind fun value => g.readMembers (name :: seen) value rest
    else g.readMembers seen value rest

/-- Reads the items of an array into the fields in order. -/
def Group.readItems {β : Type} (g : Group β) (value : β) :
    List String → List Written → Option β
  | _, [] => some value
  | [], _ :: _ => none
  | name :: names, w :: rest => (g.put value name w).bind fun value => g.readItems value names rest

def Group.read? {β : Type} (g : Group β) (standard : β) : Written → Option β
  | .object members => g.readMembers [] standard members
  | .array items => g.readItems standard g.names items
  | _ => none

def forceGroup : Group (ForceParams α) where
  names := (ForceParams.standard : ForceParams α).fields.map Prod.fst
  put p name w := (scalar? w).map (p.set name)

def viewGroup : Group (ViewLimits α) where
  names := (ViewLimits.standard : ViewLimits α).fields.map Prod.fst ++ ["focusFrames"]
  put l name w :=
    if name = "focusFrames" then (word32? w).map fun n => { l with focusFrames := n }
    else (scalar? w).map (l.set name)

def gestureGroup : Group (GestureSettings α) where
  names := (GestureSettings.standard : GestureSettings α).fields.map Prod.fst
  put s name w := (scalar? w).map (s.set name)

def group : Group (Settings α) where
  names := ["physics", "viewport", "interaction"]
  put s name w :=
    match name with
    | "physics" => (forceGroup.read? ForceParams.standard w).map fun p => { s with physics := p }
    | "viewport" => (viewGroup.read? ViewLimits.standard w).map fun l => { s with viewport := l }
    | "interaction" =>
      (gestureGroup.read? GestureSettings.standard w).map fun g => { s with interaction := g }
    | _ => some s

/-- The settings of a text; none if the text is not JSON or does not fit. -/
def parse? (text : String) : Option (Settings α) := do
  group.read? standard (← Written.read? text)

end Settings
end NodeLink
