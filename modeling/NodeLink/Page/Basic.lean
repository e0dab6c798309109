import NodeLink.Canvas.Frame
import NodeLink.Gesture.Basic
import NodeLink.Page.Layout
import NodeLink.Settings.Reader
import NodeLink.Text.Blank
/-!
# Pages

The widget on a page: where its settings and its graph come from, the canvas that follows the size
of the window, the loop of frames, the user's pointer, keys and clicks, and the functions that
scripts of the page may call. Each happening is a function on the whole page.
-/

namespace NodeLink

structure Window (α : Type) where
  innerWidth : HostValue
  innerHeight : HostValue
  -- Pixels of the device per pixel of the page.
  ratio : α

/-- What is done to the canvas element, drawing apart. -/
inductive CanvasNote (α : Type) where
  | width (pixels : Nat)
  | height (pixels : Nat)
  | styleWidth (length : α)
  | styleHeight (length : α)
  | cursor (shape : String)
  | capture (pointer : Int)
  | release (pointer : Int)
  -- The page's own reaction to an event is suppressed.
  | preventDefault

/-- What becomes part of a page: the whole application or the widget alone. -/
inductive Extent where
  | application
  | widgetOnly
deriving DecidableEq, Inhabited

structure Page (α : Type) where
  window : Window α
  -- The upper left corner of the canvas on the page.
  corner : Point α
  -- The size of the element around the canvas, if there is one.
  parent : Option (Point α)
  extent : Extent
  -- Whether the canvas fills the window.
  fullscreen : Bool
  -- Whether scripts can call the widget.
  hasApi : Bool
  -- Whether the canvas can be drawn on; else it is not sized and there are no frames.
  drawing : Bool
  -- In milliseconds.
  clock : Nat
  widget : Widget α
  tracker : GestureTracker α
  ui : Ui
  theme : Theme α
  -- The calls of the last frame.
  paint : List (Call α)
  -- What was done to the canvas element, oldest first.
  notes : List (CanvasNote α)
  -- The number of hosts so far.
  hosts : Nat

namespace Page

variable {α : Type} [Scalar α]

/-! ## Small changes -/

def note (p : Page α) (n : CanvasNote α) : Page α := { p with notes := p.notes ++ [n] }

def update (p : Page α) (f : Simulation α → Simulation α) : Page α :=
  { p with widget := p.widget.update f }

def gesture (p : Page α) (f : GestureTracker.State α → GestureTracker.State α) : Page α :=
  let (t, s) := f (p.tracker, p.widget.simulation)
  { p with tracker := t, widget := { p.widget with simulation := s } }

/-! ## Size -/

def numberOr (v : HostValue) (fallback : α) : α :=
  (v.number?.map Json.Number.toScalar).getD fallback

/-- The size of the canvas in pixels of the page: the window's, or that of the element around it if
it has one that is not empty. -/
def canvasSize (p : Page α) : Point α :=
  if p.fullscreen then ⟨numberOr p.window.innerWidth 800, numberOr p.window.innerHeight 600⟩
  else (p.parent.filter fun s => decide (0 < s.x) && decide (0 < s.y)).getD ⟨800, 600⟩

/-- Gives the canvas its size, in device pixels inside and in pixels of the page outside. -/
def fitCanvas (p : Page α) : Page α :=
  let size := p.canvasSize
  let p := p.update fun s => s.resize size.x size.y p.window.ratio
  let v := p.widget.simulation.viewport
  { p with notes := p.notes ++
      [.width (Scalar.toWord32 v.width), .height (Scalar.toWord32 v.height),
        .styleWidth size.x, .styleHeight size.y] }

/-- The page has changed its size; the number of listeners that were called. -/
def resize (p : Page α) (window : Window α) (parent : Option (Point α)) : Page α × Nat :=
  let p := { p with window := window, parent := parent }
  if p.drawing then (p.fitCanvas, 1) else (p, 0)

/-! ## Frames -/

/-- One frame: the simulation moves and is drawn, and its events change what is shown. -/
def frame (p : Page α) : Page α :=
  let s := p.widget.simulation.tick
  let paint := Frame.draw s p.theme
  let (s, events) := s.drain
  let (w, ui) := Ui.takeInAll p.clock { p.widget with simulation := s } p.ui events
  { p with widget := w, ui := ui, paint := paint }

def frames (p : Page α) : Nat → Page α × Nat
  | 0 => (p, 0)
  | n + 1 =>
    if p.drawing then
      let (p, ran) := p.frame.frames n
      (p, ran + 1)
    else (p, 0)

/-- Lets time pass; the number of timers that fired. -/
def wait (p : Page α) (milliseconds : Nat) : Page α × Nat :=
  let now := p.clock + milliseconds
  let (ui, fired) := p.ui.fireDue now
  ({ p with clock := now, ui := ui }, fired)

/-! ## Pointer -/

/-- A point of the page counted from the corner of the canvas. -/
def onCanvas (p : Page α) (q : Point α) : Point α := q.sub p.corner

def pointerDown (p : Page α) (pointer : Int) (q : Point α) : Page α :=
  (p.note (.capture pointer)).gesture fun w => GestureTracker.down w pointer (p.onCanvas q)

def cursorShape (p : Page α) : String :=
  if !p.tracker.gesture.isIdle then "grabbing"
  else if p.widget.simulation.hovered.isSome then "pointer"
  else "grab"

def pointerMove (p : Page α) (pointer : Int) (q : Point α) : Page α :=
  let p := p.gesture fun w => GestureTracker.move w pointer (p.onCanvas q)
  p.note (.cursor p.cursorShape)

def pointerUp (p : Page α) (pointer : Int) (q : Point α) : Page α :=
  (p.note (.release pointer)).gesture fun w => GestureTracker.up w pointer (p.onCanvas q)

def pointerLeave (p : Page α) (pointer : Int) : Page α :=
  p.gesture fun w => GestureTracker.leave w pointer

def wheel (p : Page α) (q : Point α) (deltaY : α) : Page α :=
  (p.note .preventDefault).gesture fun w => GestureTracker.wheel w (p.onCanvas q) deltaY

/-! ## View and clicks -/

def view (p : Page α) : List Layout.Part :=
  match p.extent with
  | .application => Layout.page p.ui
  | .widgetOnly => [Layout.widget p.ui]

def input (p : Page α) (query : String) : Page α :=
  { p with ui := { p.ui with results := p.widget.search query, query := query } }

def perform (p : Page α) : Click → Page α
  | .fit => p.update fun s => s.fit.toast "Fit"
  | .pause => p.update Simulation.toggleRunning
  | .reheat => p.update fun s => s.reheat.toast "Reheat"
  | .chooseResult id =>
    { p with ui := { p.ui with results := [] }, widget := (p.widget.focus id).1 }
  | .followCrumb command argument => { p with widget := p.widget.command command argument }
  | .chooseNeighbor id => { p with widget := p.widget.command .focus id }
  | .openNode => { p with widget := p.widget.openSelected }
  | .togglePin id => p.update fun s => (s.togglePin id).1
  | .close => p.update Simulation.deselect

/-- Clicks the `k`-th element of a name; false if there is none. -/
def click (p : Page α) (name : String) (k : Nat) : Page α × Bool :=
  match (View.clicksOf name p.view)[k]? with
  | some action => (p.perform action, true)
  | none => (p, false)

/-! ## Calls from scripts and hosts -/

/-- Connects a host; also the line that reports it. -/
def attachHost (p : Page α) (host : HostValue) : Page α × String :=
  let (w, _, report) := p.widget.attachHost p.hosts host
  ({ p with widget := w, hosts := p.hosts + 1 }, report)

/-- What is said of data that cannot be written as JSON. -/
def notSerializable : String := "graph data is not serializable"

def setText (p : Page α) (text : String) : Page α × Except String Unit :=
  let (w, result) := p.widget.setText text
  ({ p with widget := w }, result.mapError GraphError.message)

def setData (p : Page α) (data : HostValue) : Page α × Except String Unit :=
  match data.jsonText? with
  | some text => p.setText text
  | none => (p, .error notSerializable)

def focus (p : Page α) (id : String) : Page α × Bool :=
  let (w, found) := p.widget.focus id
  ({ p with widget := w }, found)

def fit (p : Page α) : Page α := { p with widget := p.widget.fit }

/-- A signal of the hosts brings a value; the number of functions called. -/
def emit (p : Page α) (signal : String) (payload : HostValue) : Page α × Nat :=
  let (w, n) := p.widget.emit (fun h => h.signal == signal) payload
  ({ p with widget := w }, n)

end Page
end NodeLink
