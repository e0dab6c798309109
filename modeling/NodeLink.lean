import NodeLink.Binary64
import NodeLink.Canvas.Call
import NodeLink.Canvas.Frame
import NodeLink.Channel.Basic
import NodeLink.Channel.Reentrant
import NodeLink.Command
import NodeLink.Decimal.Layout
import NodeLink.Decimal.Shortest
import NodeLink.Error
import NodeLink.Force.Energy
import NodeLink.Force.Grid
import NodeLink.Force.Params
import NodeLink.Force.Step
import NodeLink.Gesture.Basic
import NodeLink.Gesture.Input
import NodeLink.Graph.Basic
import NodeLink.Graph.Bounds
import NodeLink.Graph.Content
import NodeLink.Graph.IndexSet
import NodeLink.Graph.Node
import NodeLink.Graph.Scatter
import NodeLink.Graph.Search
import NodeLink.Highlight
import NodeLink.Host.Bridge
import NodeLink.Host.Value
import NodeLink.Json.Basic
import NodeLink.Json.Printer
import NodeLink.Json.Reader
import NodeLink.Json.Token
import NodeLink.Look.Color
import NodeLink.Look.Scale
import NodeLink.Look.Theme
import NodeLink.Page.Basic
import NodeLink.Page.Layout
import NodeLink.Page.Start
import NodeLink.Page.Ui
import NodeLink.Page.View
import NodeLink.Panel
import NodeLink.Point
import NodeLink.Proofs.Canvas.Drawing
import NodeLink.Proofs.Canvas.Strokes
import NodeLink.Proofs.Canvas.Surface
import NodeLink.Proofs.Channel.Coherent
import NodeLink.Proofs.Channel.History
import NodeLink.Proofs.Channel.Log
import NodeLink.Proofs.Force.Balance
import NodeLink.Proofs.Force.Cooling
import NodeLink.Proofs.Force.DoubleLoop
import NodeLink.Proofs.Force.Finite
import NodeLink.Proofs.Force.Frame
import NodeLink.Proofs.Force.Grid
import NodeLink.Proofs.Force.Impulse
import NodeLink.Proofs.Force.Pairs
import NodeLink.Proofs.Gesture.Bystanders
import NodeLink.Proofs.Gesture.Click
import NodeLink.Proofs.Gesture.Coupling
import NodeLink.Proofs.Gesture.Grip
import NodeLink.Proofs.Gesture.History
import NodeLink.Proofs.Gesture.Hold
import NodeLink.Proofs.Gesture.Places
import NodeLink.Proofs.Gesture.Press
import NodeLink.Proofs.Gesture.View
import NodeLink.Proofs.Graph.Content
import NodeLink.Proofs.Graph.Directory
import NodeLink.Proofs.Graph.Endpoints
import NodeLink.Proofs.Graph.Entries
import NodeLink.Proofs.Graph.Search
import NodeLink.Proofs.Graph.Shape
import NodeLink.Proofs.Graph.Ties
import NodeLink.Proofs.Highlight.Fade
import NodeLink.Proofs.Highlight.Keys
import NodeLink.Proofs.Highlight.Lookup
import NodeLink.Proofs.Highlight.Range
import NodeLink.Proofs.Page.Messages
import NodeLink.Proofs.Page.Signals
import NodeLink.Proofs.Page.Truth
import NodeLink.Proofs.Panel.Extent
import NodeLink.Proofs.Scalar.Exact
import NodeLink.Proofs.Scalar.Laws
import NodeLink.Proofs.Scalar.Order
import NodeLink.Proofs.Settings.Exact
import NodeLink.Proofs.Settings.Repair
import NodeLink.Proofs.Simulation.Afterglow
import NodeLink.Proofs.Simulation.Bodies
import NodeLink.Proofs.Simulation.EventLog
import NodeLink.Proofs.Simulation.Fixes
import NodeLink.Proofs.Simulation.Framing
import NodeLink.Proofs.Simulation.Glow
import NodeLink.Proofs.Simulation.Outlook
import NodeLink.Proofs.Simulation.Panels
import NodeLink.Proofs.Simulation.Past
import NodeLink.Proofs.Simulation.Picking
import NodeLink.Proofs.Simulation.Pins
import NodeLink.Proofs.Simulation.References
import NodeLink.Proofs.Simulation.Run
import NodeLink.Proofs.Text.LowerCase
import NodeLink.Proofs.View.Anchor
import NodeLink.Proofs.View.Arrival
import NodeLink.Proofs.View.Fit
import NodeLink.Proofs.View.Focus
import NodeLink.Proofs.View.Moves
import NodeLink.Proofs.View.Range
import NodeLink.Proofs.View.Usable
import NodeLink.Proofs.View.Zoom
import NodeLink.Proofs.Widget.Answers
import NodeLink.Proofs.Widget.Borrowing
import NodeLink.Proofs.Widget.Calls
import NodeLink.Proofs.Widget.Failures
import NodeLink.Proofs.Widget.Loads
import NodeLink.Proofs.Widget.Wiring
import NodeLink.Scalar
import NodeLink.Scalar.Binary
import NodeLink.Settings.Basic
import NodeLink.Settings.Reader
import NodeLink.Simulation.Basic
import NodeLink.Simulation.Operation
import NodeLink.Text.Blank
import NodeLink.Text.CaseTable
import NodeLink.Text.HiddenTable
import NodeLink.Text.LowerCase
import NodeLink.Text.Quoted
import NodeLink.View.Limits
import NodeLink.View.Pick
import NodeLink.View.Viewport
import NodeLink.Widget.Basic
import NodeLink.Widget.Search
