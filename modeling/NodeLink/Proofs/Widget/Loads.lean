import NodeLink.Page.Basic
import NodeLink.Proofs.Widget.Wiring
/-!
# Ways to load a graph

A graph may come as a text from a script of the page, as data of a script, as news of the host, and
from a host that has just been connected. Each way leads to the same load, which either happens or
leaves nothing behind but a message to the user.

* `Widget.Refused`: why a text is no graph.
* `Widget.Routes`: what each way does with a text.
* `Attached.loads_or_refuses`: all of them load it, or all refuse it.
-/

namespace NodeLink.Widget

variable {α : Type} [Scalar α]

/-- The text is no graph, for this reason. -/
inductive Refused (text : String) : GraphError → Prop where
  | notJson (hraw : Json.parse? text = none) : Refused text .notJson
  | notARecord {raw : Json} (hraw : Json.parse? text = some raw) (hrecord : raw.isObject = false) :
    Refused text .notARecord

/-- All that a refused text does to a simulation: the user will be told. -/
def onlyTold (s : Simulation α) : Simulation α :=
  { s with events := s.events ++ [.toast "Invalid graph JSON"] }

/-- Whichever way the text comes to the widget, which has been connected to `bs`, newest first: of
the widget `f` changes the simulation and nothing else changes, and where there is an answer it is
`answer`. -/
structure Routes (w : Widget α) (bs : List Bridge) (text : String)
    (f : Simulation α → Simulation α) (answer : Except GraphError Unit) : Prop where
  handle : w.setText text = (w.update f, answer)
  script : ∀ p : Page α, p.widget = w →
    p.setText text = ({ p with widget := w.update f }, answer.mapError GraphError.message)
  data : ∀ (p : Page α) (data : HostValue), p.widget = w → data.jsonText? = some text →
    p.setData data = ({ p with widget := w.update f }, answer.mapError GraphError.message)
  news : ∀ b, bs.head? = some b → b.graphChannel ≠ b.selectionChannel →
    w.publish b.graphChannel text = w.update f
  -- Over one channel for both the text is then taken for the id of a node as well.
  sharedNews : ∀ b, bs.head? = some b → b.graphChannel = b.selectionChannel →
    w.publish b.graphChannel text = ((w.update f).focus text).1
  -- A host is asked for its graph when the widget is wired to it, but has not changed otherwise.
  initial : ∀ b r, w.Offers b → b.graphText = some r → r.reply = some text → text.isEmpty = false →
    w.attach b =
      (((w.rewired b).call b r []).update f).update (fun s => s.toast "Bridge connected") ∧
    (w.rewired b).simulation = w.simulation

variable {w : Widget α} {bs : List Bridge} {b : Bridge} {r : Routine} {text : String}

omit [Scalar α] in
theorem simulation_rewired (w : Widget α) (b : Bridge) :
    (w.rewired b).simulation = w.simulation := by
  rw [rewired, cancelAll_eq, joined_eq]

theorem initialGraph_eq (hgraph : b.graphText = some r) :
    w.initialGraph b = (w.call b r [], r.reply.filter fun text => !text.isEmpty) := by
  rw [initialGraph, hgraph]

theorem initialGraph_of_reply (hgraph : b.graphText = some r) (hreply : r.reply = some text)
    (hempty : text.isEmpty = false) : w.initialGraph b = (w.call b r [], some text) := by
  rw [initialGraph_eq hgraph, hreply, Option.filter_some, hempty]
  rfl

/-- The ways have only the load in common, so what it does they all do. -/
theorem Attached.routes (hw : Attached w bs) {f : Simulation α → Simulation α}
    {answer : Except GraphError Unit}
    (hload : ∀ w' : Widget α, w'.busy = false → w'.setText text = (w'.update f, answer)) :
    Routes w bs text f answer := by
  have hidle : w.busy = false := hw.hearsNewest.1.idle
  have hhandle : w.setText text = (w.update f, answer) := hload w hidle
  have hscript (p : Page α) (hp : p.widget = w) :
      p.setText text = ({ p with widget := w.update f }, answer.mapError GraphError.message) := by
    rw [Page.setText, hp, hhandle]
  refine ⟨hhandle, hscript, fun p data hp hdata => ?_, fun b hb hne => ?_, fun b hb heq => ?_,
    fun b r hb hgraph hreply hempty => ⟨?_, simulation_rewired w b⟩⟩
  · rw [Page.setData, hdata]
    exact hscript p hp
  · rw [Widget.publish, (hw.hearsNewest.2 b hb).audience, listeners_graph hne]
    exact congrArg Prod.fst hhandle
  · rw [Widget.publish, (hw.hearsNewest.2 b hb).audience, listeners_shared heq]
    show (w.setText text).1.deliver text .focusNode = _
    rw [hhandle]
    exact deliver_focusNode (w := w.update f) hidle text
  · have hbusy : ((w.rewired b).call b r []).busy = false := by
      have hkept := (lasting_wiring (w.rewired b)).call rfl b r []
      exact (congrArg (·.2.2) hkept).trans ((busy_rewired w b).trans hidle)
    rw [attach_eq hb, loadInitial, initialGraph_of_reply hgraph hreply hempty]
    dsimp only
    rw [hload _ hbusy]

theorem setText_of_refused {e : GraphError} (h : Refused text e) (hidle : w.busy = false) :
    w.setText text = (w.update onlyTold, .error e) := by
  have hload : w.simulation.loadText text = .error e := by
    cases h with
    | notJson hraw => rw [Simulation.loadText, hraw]
    | notARecord hraw hrecord =>
      rw [Simulation.loadText, hraw]
      exact if_neg (ne_true_of_eq_false hrecord)
  rw [setText_eq hidle, loadOrToast, hload]
  rfl

theorem setText_of_record {raw : Json} (hraw : Json.parse? text = some raw)
    (hrecord : raw.isObject = true) (hidle : w.busy = false) :
    w.setText text = (w.update fun s => s.load raw, .ok ()) := by
  have hload : w.simulation.loadText text = .ok (w.simulation.load raw) := by
    rw [Simulation.loadText, hraw]
    exact if_pos hrecord
  rw [setText_eq hidle, loadOrToast, hload]
  rfl

/-- Every text is either the text of a record or refused. -/
theorem record_or_refused (text : String) :
    (∃ raw, Json.parse? text = some raw ∧ raw.isObject = true) ∨ ∃ e, Refused text e := by
  cases hraw : Json.parse? text with
  | none => exact .inr ⟨_, .notJson hraw⟩
  | some raw =>
    cases hrecord : raw.isObject with
    | true => exact .inl ⟨raw, rfl, hrecord⟩
    | false => exact .inr ⟨_, .notARecord hraw hrecord⟩

theorem answer_notARecord_iff (hidle : w.busy = false) :
    (w.setText text).2 = .error .notARecord ↔
      ∃ raw, Json.parse? text = some raw ∧ raw.isObject = false := by
  constructor
  · intro h
    rcases record_or_refused text with ⟨raw, hraw, hrecord⟩ | ⟨e, he⟩
    · rw [setText_of_record hraw hrecord hidle] at h
      exact absurd h nofun
    · rw [setText_of_refused he hidle] at h
      cases he with
      | notJson hraw => exact absurd h nofun
      | notARecord hraw hrecord => exact ⟨_, hraw, hrecord⟩
  · rintro ⟨raw, hraw, hrecord⟩
    rw [setText_of_refused (.notARecord hraw hrecord) hidle]

/-- Whatever has happened before: a text that is no JSON or no record changes nothing, whichever way
it comes, but that the user will be told, and it is answered by an error; the text of a record is
loaded whichever way it comes, and never answered by an error. A host whose graph is the empty text
has none, and is asked to publish one. -/
theorem Attached.loads_or_refuses (hw : Attached w bs) (text : String) :
    (∀ e, Refused text e → Routes w bs text onlyTold (.error e)) ∧
    (∀ raw, Json.parse? text = some raw → raw.isObject = true →
      Routes w bs text (fun s => s.load raw) (.ok ())) ∧
    ((w.setText text).2 = .error .notARecord ↔
      ∃ raw, Json.parse? text = some raw ∧ raw.isObject = false) ∧
    (∀ b r, w.Offers b → b.graphText = some r → r.reply = some "" →
      w.attach b = (match b.requestGraph with
        | some request => ((w.rewired b).call b r []).call b request []
        | none => (w.rewired b).call b r []).update fun s => s.toast "Bridge connected") := by
  refine ⟨fun e he => hw.routes fun w' => setText_of_refused he,
    fun raw hraw hrecord => hw.routes fun w' => setText_of_record hraw hrecord,
    answer_notARecord_iff hw.hearsNewest.1.idle, fun b r hb hgraph hreply => ?_⟩
  rw [attach_eq hb, loadInitial, initialGraph_eq hgraph, hreply]
  rfl

/-- A list is JSON but no record, and so it is refused, also as news of a host. -/
theorem loads_or_refuses_list : Attached takenOver [secondHost, firstHost] ∧
    Refused "[true]" .notARecord ∧
    takenOver.setText "[true]" = (takenOver.update onlyTold, .error .notARecord) ∧
    takenOver.publish 0 "[true]" = takenOver.update onlyTold := by
  have hraw : Json.parse? "[true]" = some (.array [.bool true]) := rfl
  have hrefused : Refused "[true]" .notARecord := .notARecord hraw rfl
  obtain ⟨hroutes, -⟩ := attached_takenOver.loads_or_refuses "[true]"
  have h := hroutes _ hrefused
  exact ⟨attached_takenOver, hrefused, h.handle, h.news secondHost rfl (by decide)⟩

/-- A number may be past the range as it is read, although the nearest number is finite. -/
example : Refused "[1.7976931348623158e308]" .notJson :=
  .notJson (Option.isNone_iff_eq_none.mp (by decide +kernel))

end NodeLink.Widget
