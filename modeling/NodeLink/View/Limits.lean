import NodeLink.Scalar
/-!
# Limits of the view

How far the view zooms, how it fits a graph and how long it takes to move to a node.
-/

namespace NodeLink

structure ViewLimits (α : Type) where
  minZoom : α
  maxZoom : α
  -- Fitting a graph never zooms in further than this.
  fitMaxZoom : α
  -- The factor of one notch of the wheel.
  wheelStep : α
  -- Space kept free around a fitted graph.
  fitPadding : α
  -- Frames of the movement to a node.
  focusFrames : Nat
deriving Inhabited

namespace ViewLimits

variable {α : Type} [Scalar α]

def standard : ViewLimits α where
  minZoom := 0.20
  maxZoom := 5
  fitMaxZoom := 2.4
  wheelStep := 1.12
  fitPadding := 70
  focusFrames := 16

open Scalar in
/-- Values that cannot be zooms become the defaults, and limits the wrong way round change
places. -/
def sanitized (l : ViewLimits α) : ViewLimits α :=
  let d : ViewLimits α := standard
  let lo := positiveOr l.minZoom d.minZoom
  let hi := positiveOr l.maxZoom d.maxZoom
  { minZoom := min lo hi
    maxZoom := max lo hi
    fitMaxZoom := positiveOr l.fitMaxZoom d.fitMaxZoom
    wheelStep := positiveOr l.wheelStep d.wheelStep
    fitPadding := if isFinite l.fitPadding then max l.fitPadding 0 else d.fitPadding
    focusFrames := Nat.max l.focusFrames 1 }

/-- The scalar values in the order of their declaration, with the names they are given by. -/
def fields (l : ViewLimits α) : List (String × α) :=
  [("minZoom", l.minZoom), ("maxZoom", l.maxZoom), ("fitMaxZoom", l.fitMaxZoom),
   ("wheelStep", l.wheelStep), ("fitPadding", l.fitPadding)]

/-- Sets the scalar value of a name; an unknown name changes nothing. -/
def set (l : ViewLimits α) (name : String) (v : α) : ViewLimits α :=
  match name with
  | "minZoom" => { l with minZoom := v }
  | "maxZoom" => { l with maxZoom := v }
  | "fitMaxZoom" => { l with fitMaxZoom := v }
  | "wheelStep" => { l with wheelStep := v }
  | "fitPadding" => { l with fitPadding := v }
  | _ => l

end ViewLimits
end NodeLink
