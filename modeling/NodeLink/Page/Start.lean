import NodeLink.Page.Basic
/-!
# Starting a page

How a page with the widget comes about: settings and graph are read from script elements, what is
missing or wrong is replaced by defaults, a host that is waiting is connected, and the canvas is
sized.
-/

namespace NodeLink

structure Surroundings (α : Type) where
  -- The texts of script elements by their ids.
  scripts : List (String × String)
  -- What the page offers as a host.
  host : HostValue
  window : Window α
  corner : Point α
  parent : Option (Point α)
  -- Whether a drawing context can be had.
  drawable : Bool
  -- Whether globals of the page can be set.
  hasGlobals : Bool

namespace Surroundings

/-- The text of a script, if there is more in it than blanks. -/
def scriptText? {α : Type} (s : Surroundings α) (id : String) : Option String :=
  (s.scripts.lookup id).filter fun text => !Text.isBlankText text

variable {α : Type} [Scalar α]

/-- The settings of the page, or the defaults. -/
def settings (s : Surroundings α) : Settings α :=
  (((s.scriptText? "graph-config").bind Settings.parse?).getD Settings.standard).sanitized

def demoGraph : Json :=
  let node (id label : String) : Json := Json.ofPairs [("id", .string id), ("label", .string label)]
  let link (source target : String) : Json :=
    Json.ofPairs [("source", .string source), ("target", .string target)]
  Json.ofPairs
    [("nodes", .array [node "A" "Demo A", node "B" "Demo B", node "C" "Demo C"]),
     ("links", .array [link "A" "B", link "A" "C"])]

/-- The graph of the page, or the demonstration. -/
def graph (s : Surroundings α) : Json :=
  (((s.scriptText? "graph-data").bind Json.parse?).filter Json.isObject).getD demoGraph

/-- The page around a widget, before the canvas is sized. -/
def pageOf (s : Surroundings α) (w : Widget α) (extent : Extent) (fullscreen hasApi : Bool) :
    Page α where
  window := s.window
  corner := s.corner
  parent := s.parent
  extent := extent
  fullscreen := fullscreen
  hasApi := hasApi
  drawing := s.drawable
  clock := 0
  widget := w
  tracker := GestureTracker.new w.settings.interaction
  ui := { running := w.simulation.running }
  theme := Theme.standard
  paint := []
  notes := []
  hosts := 0

/-- Sizes the canvas and fits the graph, if the canvas can be drawn on. -/
def mount (p : Page α) : Page α := if p.drawing then p.fitCanvas.fit else p

def startApplication (s : Surroundings α) : Page α :=
  let w := (Widget.new s.settings).setData s.graph
  let p := s.pageOf w .application true s.hasGlobals
  let p := if s.host.isObject then (p.attachHost s.host).1 else p
  mount p

/-- A page with the widget alone, which loads the graph of a text if it is JSON. -/
def startWidget (s : Surroundings α) (text : String) (fullscreen : Bool) : Page α :=
  let w := Widget.new (Settings.standard : Settings α)
  let w := match Json.parse? text with
    | some raw => w.setData raw
    | none => w
  mount (s.pageOf w .widgetOnly fullscreen false)

end Surroundings
end NodeLink
