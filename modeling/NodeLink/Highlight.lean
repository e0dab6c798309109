import NodeLink.Scalar
/-!
# Highlight

How bright the neighbourhood of the hovered node is drawn. Each node has an intensity of its own,
which eases toward one while the node belongs to the neighbourhood and toward zero afterwards; a
second intensity follows the hovered node alone. A node that leaves the neighbourhood keeps its
intensity for a short time, so that nothing flashes when the pointer only grazes a node.
-/

namespace NodeLink

structure Highlight (α : Type) where
  hovered : Option String := none
  -- The hovered node and its neighbours.
  targets : List String := []
  nodeIntensity : List (String × α) := []
  hoverIntensity : List (String × α) := []
  -- The time left before an intensity may fade.
  holdTimer : List (String × α) := []
deriving Inhabited

namespace Highlight

variable {α : Type} [Scalar α]

/-- How long an intensity is held, in seconds. -/
def holdTime : α := 0.12

/-- Intensities at or below this are forgotten. -/
def threshold : α := 0.005

def fadeInSpeed : α := 6

def fadeOutSpeed : α := 4

/-! ## Tables -/

def valueOf (table : List (String × α)) (id : String) : α := (table.lookup id).getD 0

def put (id : String) (v : α) : List (String × α) → List (String × α)
  | [] => [(id, v)]
  | (k, w) :: rest => if k = id then (k, v) :: rest else (k, w) :: put id v rest

theorem valueOf_put (id k : String) (v : α) (table : List (String × α)) :
    valueOf (put id v table) k = if k = id then v else valueOf table k := by
  induction table with
  | nil =>
    by_cases hk : k = id
    · simp [put, valueOf, hk]
    · simp [put, valueOf, List.lookup_cons, hk, beq_false_of_ne hk]
  | cons entry rest ih =>
    obtain ⟨k', w⟩ := entry
    by_cases hid : k' = id
    · subst hid
      by_cases hk : k = k'
      · simp [put, valueOf, hk]
      · simp [put, valueOf, List.lookup_cons, hk, beq_false_of_ne hk]
    · by_cases hk : k = k'
      · subst hk
        simp [put, valueOf, hid]
      · simp only [valueOf] at ih
        simp [put, valueOf, List.lookup_cons, hid, beq_false_of_ne hk, ih]

/-- Moves the value of a key toward one by a part of what is missing. -/
def brighten (fadeIn : α) (table : List (String × α)) (id : String) : List (String × α) :=
  let v := valueOf table id
  put id (v + (1 - v) * fadeIn) table

/-! ## Hovering -/

/-- Sets the hovered node with its neighbours; the same node again changes nothing. -/
def setHover (h : Highlight α) (node : Option String) (neighbors : List String) : Highlight α :=
  if h.hovered = node then h
  else
    match node with
    | none => { h with hovered := none, targets := [] }
    | some id =>
      let targets := (id :: neighbors).eraseDups
      { h with
        hovered := some id
        targets := targets
        holdTimer := targets.foldl (fun table id => put id holdTime table) h.holdTimer }

/-! ## Time -/

/-- The timers after a time `dt`: those of the neighbourhood stand, the others run down and
vanish. -/
def runTimers (targets : List String) (dt : α) (timers : List (String × α)) :
    List (String × α) :=
  timers.filterMap fun (id, t) =>
    if id ∈ targets then some (id, t)
    else
      let t := t - dt
      if 0 < t then some (id, t) else none

def isHeld (timers : List (String × α)) (id : String) : Bool := decide (0 < valueOf timers id)

/-- Fades what is neither kept nor held, and forgets what is too dim. -/
def dim (keep : String → Bool) (timers : List (String × α)) (fadeOut : α)
    (table : List (String × α)) : List (String × α) :=
  table.filterMap fun (id, v) =>
    let v := if !keep id && !isHeld timers id then v * fadeOut else v
    if threshold < v then some (id, v) else none

def tick (h : Highlight α) (dt : α) : Highlight α :=
  let fadeIn := 1 - Scalar.exp (-fadeInSpeed * dt)
  let fadeOut := Scalar.exp (-fadeOutSpeed * dt)
  let nodes := h.targets.foldl (brighten fadeIn) h.nodeIntensity
  let hovers := h.hovered.toList.foldl (brighten fadeIn) h.hoverIntensity
  let timers := runTimers h.targets dt h.holdTimer
  { h with
    holdTimer := timers
    nodeIntensity := dim (fun id => decide (id ∈ h.targets)) timers fadeOut nodes
    hoverIntensity := dim (fun id => decide (h.hovered = some id)) timers fadeOut hovers }

/-! ## Reading -/

def nodeAt (h : Highlight α) (id : String) : α := valueOf h.nodeIntensity id

def hoverAt (h : Highlight α) (id : String) : α := valueOf h.hoverIntensity id

/-- The intensity of a link, between those of its ends. -/
def edgeAt (h : Highlight α) (a b : String) : α := Scalar.sqrt (h.nodeAt a * h.nodeAt b)

end Highlight
end NodeLink
