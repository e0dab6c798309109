import NodeLink.Error
import NodeLink.Force.Step
import NodeLink.Graph.Bounds
import NodeLink.Highlight
import NodeLink.Json.Reader
import NodeLink.Look.Scale
import NodeLink.Settings.Basic
import NodeLink.View.Pick
/-!
# Simulation

Everything that moves: the graph, the forces, the view, the highlight, and which nodes are hovered,
selected and dragged. These are kept by id, so that after a new graph has been loaded they simply
miss. Each operation is a function on the whole state; what the outside should hear of is queued as
events.

A node may be fixed for three reasons: the user has pinned it, it is being dragged, or it is the
hub of a graph just loaded, which is held at the origin for a while.
-/

namespace NodeLink

inductive Event where
  | loaded (nodes links : Nat)
  | selected (id : String)
  | deselected
  | pinChanged (id : String) (pinned : Bool)
  | runningChanged (running : Bool)
  -- A short message for the user.
  | toast (message : String)
deriving DecidableEq, Inhabited

/-- The hub of a new graph, held for some more frames. -/
structure HubHold where
  id : String
  framesLeft : Nat
deriving DecidableEq, Inhabited

structure Simulation (α : Type) where
  graph : Graph α
  physics : Physics α
  viewport : Viewport α
  highlight : Highlight α
  scale : Scale α
  running : Bool
  hovered : Option String
  selected : Option String
  dragging : Option String
  hubHold : Option HubHold
  scatter : Scatter
  -- Events not yet taken, oldest first.
  events : List Event

namespace Simulation

variable {α : Type} [Scalar α]

/-- Seconds between two frames, as the highlight counts them. -/
def frameTime : α := 0.016

/-- Frames for which the hub of a new graph is held. -/
def hubHoldFrames : Nat := 39

/-- An empty graph on a canvas of the given size, in pixels of the page. -/
def new (settings : Settings α) (width height ratio : α) : Simulation α where
  graph := Graph.empty
  physics := Physics.new settings.physics
  viewport := Viewport.new settings.viewport width height ratio
  highlight := {}
  scale := Scale.standard
  running := true
  hovered := none
  selected := none
  dragging := none
  hubHold := none
  scatter := {}
  events := []

/-! ## Events -/

def emit (s : Simulation α) (e : Event) : Simulation α := { s with events := s.events ++ [e] }

def toast (s : Simulation α) (message : String) : Simulation α := s.emit (.toast message)

def drain (s : Simulation α) : Simulation α × List Event := ({ s with events := [] }, s.events)

/-! ## View -/

def fit (s : Simulation α) : Simulation α :=
  { s with viewport := s.viewport.fit s.graph.bounds? }

def resize (s : Simulation α) (width height ratio : α) : Simulation α :=
  { s with viewport := s.viewport.resize width height ratio }

def sizes (s : Simulation α) : ScaledSizes α :=
  s.scale.sizes s.viewport.transform.k s.viewport.ratio

def pick (s : Simulation α) (p : Point α) : Option Nat :=
  pick? s.graph s.viewport (s.viewport.toDevice p) s.sizes.hitSlop

def reheat (s : Simulation α) : Simulation α := { s with physics := s.physics.reheat }

/-! ## Selection and hover -/

/-- Nothing is selected any more; it is an event only if something was. -/
def deselect (s : Simulation α) : Simulation α :=
  match s.selected with
  | some _ => { s with selected := none }.emit .deselected
  | none => s

/-- Selects a node if it exists, and says whether it does. -/
def select (s : Simulation α) (id : String) : Simulation α × Bool :=
  if s.graph.hasNode id then
    ({ s with selected := some id }.reheat.emit (.selected id), true)
  else (s, false)

def focus (s : Simulation α) (id : String) : Simulation α × Bool :=
  match s.graph.node? id with
  | none => (s, false)
  | some n =>
    let s := (s.select id).1
    ({ s with viewport := s.viewport.animateTo n.position }, true)

def neighborIds (s : Simulation α) (i : Nat) : List String :=
  (s.graph.neighbors i).filterMap s.graph.idAt?

def setHover (s : Simulation α) (index : Option Nat) : Simulation α :=
  let hovered := index.bind s.graph.idAt?
  let neighbors := (index.map s.neighborIds).getD []
  { s with hovered := hovered, highlight := s.highlight.setHover hovered neighbors }

/-! ## Running -/

def setRunning (s : Simulation α) (running : Bool) : Simulation α :=
  if s.running = running then s
  else
    ({ s with running := running }.emit (.runningChanged running)).toast
      (if running then "Running" else "Paused")

def toggleRunning (s : Simulation α) : Simulation α := s.setRunning !s.running

/-! ## Loading -/

def holdHub (s : Simulation α) : Simulation α :=
  match s.graph.hub? with
  | none => { s with hubHold := none }
  | some i =>
    { s with
      graph := s.graph.modifyAt i fun n => n.holdAt Point.origin
      hubHold := (s.graph.idAt? i).map fun id => ⟨id, hubHoldFrames⟩ }

def loadedMessage (nodes links : Nat) : String :=
  "Loaded: " ++ Decimal.natText nodes ++ " nodes / " ++ Decimal.natText links ++ " links"

/-- Puts a new graph in place of the old one; nothing that named a node of the old one stays. -/
def setGraph (s : Simulation α) (g : Graph α) : Simulation α :=
  let s := { s with graph := g }.deselect
  let s := { s with hovered := none, dragging := none, highlight := {} }
  let s := s.reheat.holdHub.fit
  let nodes := s.graph.size
  let links := s.graph.links.length
  (s.emit (.loaded nodes links)).toast (loadedMessage nodes links)

def load (s : Simulation α) (raw : Json) : Simulation α :=
  let (g, scatter) := Graph.read raw s.scatter
  { s with scatter := scatter }.setGraph g

/-- Loads the graph of a text; one that is no JSON record changes nothing. -/
def loadText (s : Simulation α) (text : String) : Except GraphError (Simulation α) :=
  match Json.parse? text with
  | none => .error .notJson
  | some raw => if raw.isObject then .ok (s.load raw) else .error .notARecord

/-! ## Pins and drags -/

/-- Pins a node where it stands, or takes its pin away; the new state, if the node exists. -/
def togglePin (s : Simulation α) (id : String) : Simulation α × Option Bool :=
  match s.graph.node? id with
  | none => (s, none)
  | some n =>
    let pinned := !n.pinned
    let isDragged := s.dragging = some id
    let change (n : Node α) : Node α :=
      let n := { n with pinned := pinned }
      if pinned then n.holdAt n.position else if isDragged then n else n.release
    let s := { s with graph := s.graph.modify id change }
    ((s.emit (.pinChanged id pinned)).toast (if pinned then "Pinned" else "Unpinned"),
      some pinned)

def releaseUnpinned (s : Simulation α) (id : String) : Simulation α :=
  { s with graph := s.graph.modify id fun n => if n.pinned then n else n.release }

/-- Ends a drag: the node is released unless it is pinned, and then it is pinned where it was
dropped. -/
def endDrag (s : Simulation α) : Simulation α :=
  match s.dragging with
  | none => s
  | some id => { s with dragging := none }.releaseUnpinned id

/-- Takes hold of the node at an index; its id, if there is one. -/
def beginDrag (s : Simulation α) (i : Nat) : Simulation α × Option String :=
  let s := s.endDrag
  match s.graph.nodes[i]? with
  | none => (s, none)
  | some n =>
    ({ s with
        graph := s.graph.modifyAt i fun n => n.holdAt n.position
        dragging := some n.id }.reheat,
      some n.id)

/-- Moves the dragged node to a world point; false if there is none any more. -/
def dragTo (s : Simulation α) (p : Point α) : Simulation α × Bool :=
  match s.dragging with
  | none => (s, false)
  | some id =>
    if s.graph.hasNode id then
      ({ s with graph := s.graph.modify id fun n => n.holdAt p }, true)
    else ({ s with dragging := none }, false)

/-! ## Frames -/

/-- Counts a frame of the hub's hold, and ends it after the last one; a hub that is pinned or
dragged stays fixed. -/
def releaseHub (s : Simulation α) : Simulation α :=
  match s.hubHold with
  | none => s
  | some hold =>
    let left := hold.framesLeft - 1
    if 0 < left then { s with hubHold := some { hold with framesLeft := left } }
    else
      let s := { s with hubHold := none }
      if s.dragging = some hold.id then s else s.releaseUnpinned hold.id

/-- The forces act, unless the layout is paused. -/
def stepForces (s : Simulation α) : Simulation α :=
  if s.running then
    let (physics, graph) := s.physics.step s.graph
    { s with physics := physics, graph := graph }
  else s

/-- One frame: forces, the hub's hold, the movement of the view, the highlight. -/
def tick (s : Simulation α) : Simulation α :=
  let s := s.stepForces.releaseHub
  { s with
    viewport := s.viewport.advance
    highlight := s.highlight.tick frameTime }

end Simulation
end NodeLink
