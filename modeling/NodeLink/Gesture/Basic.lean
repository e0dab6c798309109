import NodeLink.Simulation.Operation
/-!
# Gestures

What the pointer does. A press on a node may become a click or a drag, one beside it a click on
nothing or a pan; which one it is turns out when the pointer has moved, so the press is remembered
as a gesture until its end. A gesture belongs to the pointer that began it, and other pointers are
passed over until it ends. Positions are points of the page, counted from the canvas.
-/

namespace NodeLink

inductive Gesture (α : Type) where
  | idle
  -- A node is held.
  | dragging (id : String) (start : Point α) (moved : Bool)
  -- The view is moved; `viewStart` is its shift when the press began.
  | panning (start viewStart : Point α) (moved : Bool)
deriving Inhabited

/-- The gesture under way, if any, with the pointer that owns it. -/
structure GestureTracker (α : Type) where
  gesture : Gesture α
  owner : Option Int
  settings : GestureSettings α
deriving Inhabited

namespace Gesture

variable {α : Type}

def isIdle : Gesture α → Bool
  | .idle => true
  | _ => false

def isDragging : Gesture α → Bool
  | .dragging .. => true
  | _ => false

end Gesture

namespace GestureTracker

variable {α : Type} [Scalar α]

def new (settings : GestureSettings α) : GestureTracker α := ⟨.idle, none, settings.sanitized⟩

def reset (t : GestureTracker α) : GestureTracker α := { t with gesture := .idle, owner := none }

/-- Whether the way from `start` is too long for a click. -/
def travelled (t : GestureTracker α) (start p : Point α) : Bool :=
  decide (t.settings.clickSlop < start.travel p)

def isForeign (t : GestureTracker α) (pointer : Int) : Bool :=
  !t.gesture.isIdle && t.owner != some pointer

abbrev State (α : Type) := GestureTracker α × Simulation α

/-- A press: it takes hold of the node under the pointer, or else of the view. -/
def down (w : State α) (pointer : Int) (p : Point α) : State α :=
  let (t, s) := w
  if !t.gesture.isIdle then (t, s)
  else
    let t := { t with owner := some pointer }
    let pan (s : Simulation α) : State α :=
      ({ t with gesture := .panning p s.viewport.shift false }, s)
    match s.pick p with
    | none => pan s
    | some i =>
      match s.beginDrag i with
      | (s, some id) => ({ t with gesture := .dragging id p false }, s)
      | (s, none) => pan s

/-- A movement: it hovers, drags or pans. -/
def move (w : State α) (pointer : Int) (p : Point α) : State α :=
  let (t, s) := w
  if t.isForeign pointer then (t, s)
  else
    match t.gesture with
    | .idle => (t, s.setHover (s.pick p))
    | .dragging id start moved =>
      match s.dragTo (s.viewport.pointerToWorld p) with
      | (s, true) =>
        ({ t with gesture := .dragging id start (moved || t.travelled start p) },
          s.setHover (s.graph.indexOf? id))
      | (s, false) => (t.reset, s)
    | .panning start viewStart moved =>
      ({ t with gesture := .panning start viewStart (moved || t.travelled start p) },
        { s with viewport := s.viewport.panFrom viewStart (p.sub start) })

/-- A release: a press that has not moved is a click, which selects what is under it. -/
def up (w : State α) (pointer : Int) (p : Point α) : State α :=
  let (t, s) := w
  if t.owner != some pointer then (t, s)
  else
    match t.gesture with
    | .idle => (t.reset, s)
    | .dragging id _ moved =>
      let s := if moved then s else (s.select id).1
      (t.reset, s.endDrag)
    | .panning _ _ true => (t.reset, s)
    | .panning _ _ false =>
      match (s.pick p).bind s.graph.idAt? with
      | some id => (t.reset, (s.select id).1)
      | none => (t.reset, s.deselect)

/-- The pointer has left the canvas or was cancelled: its gesture is given up. -/
def leave (w : State α) (pointer : Int) : State α :=
  let (t, s) := w
  if t.isForeign pointer then (t, s)
  else
    let s := if t.gesture.isDragging then s.endDrag else s
    (t.reset, s.setHover none)

/-- A notch of the wheel; a dragged node stays under the pointer. -/
def wheel (w : State α) (p : Point α) (deltaY : α) : State α :=
  let (t, s) := w
  let s := { s with viewport := s.viewport.wheel p deltaY }
  if t.gesture.isDragging then (t, (s.dragTo (s.viewport.pointerToWorld p)).1) else (t, s)

end GestureTracker
end NodeLink
