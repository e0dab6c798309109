import NodeLink.Page.Ui
import NodeLink.Page.View
/-!
# The view of the widget

The tree of elements that shows the signals: the canvas, the toolbar with the search, the results,
the panel and the message; and the page that holds it all.
-/

namespace NodeLink

inductive Click where
  | fit
  | pause
  | reheat
  | chooseResult (id : String)
  | followCrumb (command : Command) (argument : String)
  | chooseNeighbor (id : String)
  | openNode
  | togglePin (id : String)
  | close
deriving DecidableEq, Inhabited

namespace Layout

abbrev Part := View Click

def canvas : Part :=
  .element "canvas"
    [("class", "force-graph-canvas"),
     ("style", "display: block; cursor: grab; touch-action: none;")] none []

def toolbar (ui : Ui) : Part :=
  View.block "div" "spider-toolbar"
    [.element "input"
        [("class", "search"), ("type", "search"), ("placeholder", "Search nodes"),
         ("prop:value", ui.query)] none [],
      View.button "Fit" .fit,
      View.button (if ui.running then "Pause" else "Resume") .pause,
      View.button "Reheat" .reheat]

def resultRow (hit : SearchHit) : Part :=
  View.clickable "div" "result-item" (.chooseResult hit.id)
    [View.block "div" "result-title" [.text hit.label],
      View.block "div" "result-sub" [.text hit.subtitle]]

def crumb : Crumb → Part
  | .parent id label => View.clickable "span" "bc-item" (.followCrumb .focus id) [.text label]
  | .overview => View.clickable "span" "bc-item" (.followCrumb .overview "") [.text "overview"]

def neighborRow (n : PanelNeighbor) : Part :=
  View.clickable "div" "panel-item" (.chooseNeighbor n.id)
    [View.block "div" "panel-item-title" [.text n.label],
      View.block "div" "panel-item-sub" [.text n.subtitle]]

def panel (p : Panel) : Part :=
  View.block "aside" "spider-panel"
    [View.block "div" "breadcrumbs" [crumb p.crumb],
      View.block "h2" "panel-title" [.text p.title],
      View.block "div" "panel-sub" [.text p.subtitle],
      View.block "div" "panel-actions"
        [View.button "Open" .openNode,
          View.button (if p.pinned then "Unpin" else "Pin") (.togglePin p.id),
          View.button "Close" .close],
      View.block "div" "panel-degree" [.text ("degree " ++ Decimal.natText p.degree)],
      View.block "div" "panel-kids" (p.neighbors.map neighborRow),
      View.block "pre" "panel-meta" [.text p.body]]

def toast (message : String) : Part := View.block "div" "toast" [.text message]

def widget (ui : Ui) : Part :=
  View.block "div" "spider-graph"
    ([canvas, toolbar ui, View.block "div" "search-results" (ui.results.map resultRow)] ++
      (ui.panel.map panel).toList ++ (ui.toast.map toast).toList)

/-- The head of the page, and the widget in a frame of its own with a line of advice. -/
def page (ui : Ui) : List Part :=
  [.element "Html" [("attr:lang", "en"), ("attr:dir", "ltr"), ("attr:data-theme", "dark")] none [],
    .element "Title" [("text", "Spider Graph")] none [],
    .element "Meta" [("charset", "UTF-8")] none [],
    .element "Meta" [("name", "viewport"), ("content", "width=device-width, initial-scale=1.0")]
      none [],
    View.block "div" "fullscreen-graph"
      [widget ui,
        View.block "div" "graph-overlay"
          [View.block "p" "subtitle"
            [.text "Drag nodes to reposition. Scroll to zoom. Drag background to pan."]]]]

end Layout
end NodeLink
