import NodeLink.Force.Params
import NodeLink.View.Limits
/-!
# Settings

What a host may set: the force model, the limits of the view, and when a press is a click.
-/

namespace NodeLink

structure GestureSettings (α : Type) where
  -- A press that travels no further than this along the axes is a click.
  clickSlop : α
deriving Inhabited

structure Settings (α : Type) where
  physics : ForceParams α
  viewport : ViewLimits α
  interaction : GestureSettings α
deriving Inhabited

variable {α : Type} [Scalar α]

namespace GestureSettings

def standard : GestureSettings α := ⟨2⟩

/-- A negative distance counts as a positive one. -/
def sanitized (s : GestureSettings α) : GestureSettings α :=
  ⟨if Scalar.isFinite s.clickSlop then Scalar.abs s.clickSlop else standard.clickSlop⟩

def fields (s : GestureSettings α) : List (String × α) := [("clickSlop", s.clickSlop)]

/-- Sets the value of a name; an unknown name changes nothing. -/
def set (s : GestureSettings α) (name : String) (v : α) : GestureSettings α :=
  if name = "clickSlop" then ⟨v⟩ else s

end GestureSettings

namespace Settings

def standard : Settings α :=
  ⟨ForceParams.standard, ViewLimits.standard, GestureSettings.standard⟩

def sanitized (s : Settings α) : Settings α :=
  ⟨s.physics.sanitized, s.viewport.sanitized, s.interaction.sanitized⟩

def sameValues (a b : List (String × α)) : Bool :=
  (a.zip b).all fun (x, y) => x.2 == y.2

/-- Equality of all values; a value that is no number equals none. -/
def same (a b : Settings α) : Bool :=
  sameValues a.physics.fields b.physics.fields &&
    sameValues a.viewport.fields b.viewport.fields &&
    a.viewport.focusFrames == b.viewport.focusFrames &&
    sameValues a.interaction.fields b.interaction.fields

end Settings
end NodeLink
