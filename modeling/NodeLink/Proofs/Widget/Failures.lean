import Mathlib.Data.List.Basic
import NodeLink.Proofs.Widget.Calls
import NodeLink.Widget.Search
/-!
# Hosts that fail

A host may throw wherever it is called, and its members may be beyond reading. To the widget a call
that throws is one that returns nothing, and a member that cannot be read is one that is not there.

* `HostValue.Hampered`: a host that does the same as another, but throws or cannot be read where
  the other has nothing to say.
* `Bridge.reads_ofHost`: what a host offers; `Bridge.ofHost_hampered`: both offer the same.
* `Widget.session`: what is asked of a widget, one thing after the other, and what it answers.
* `Widget.failures_isolated`: no session shows whether hosts are hampered.
-/

namespace NodeLink

/-! ## Hampered hosts -/

namespace HostValue

/-- A member reads as a function. -/
def HasFunction (v : HostValue) (name : String) : Prop :=
  ∃ acts result, v.get? name = some (.function acts result)

theorem function?_isSome_iff (v : HostValue) (name : String) :
    (v.function? name).isSome = true ↔ v.HasFunction name := by
  unfold function? HasFunction
  split
  next acts result h => exact ⟨fun _ => ⟨acts, result, h⟩, fun _ => rfl⟩
  next hno => exact ⟨nofun, fun ⟨acts, result, h⟩ => absurd h (hno acts result)⟩

/-- Of what is read of two members, none if it cannot be read: they are the same, or a call throws,
with the same effects, where the other returns what `lost` allows, or the one cannot be read where
the other is no function. -/
inductive HampersRead (lost : HostValue → Prop) : Option HostValue → Option HostValue → Prop where
  | same (read : Option HostValue) : HampersRead lost read read
  | throws (acts : List HostAct) {result : HostValue} (hlost : lost result) :
    HampersRead lost (some (.function acts (some result))) (some (.function acts none))
  | unreadable {read : Option HostValue}
    (hread : ∀ acts result, read ≠ some (.function acts result)) : HampersRead lost read none

/-- A signal is what its function `connect` is, of whose calls every one may throw. -/
inductive HampersSignal : Option HostValue → Option HostValue → Prop where
  | same (read : Option HostValue) : HampersSignal read read
  | connect {s s' : HostValue}
    (h : HampersRead (fun _ => True) (s.get? "connect") (s'.get? "connect")) :
    HampersSignal (some s) (some s')
  | unreadable {read : Option HostValue} (hread : ∀ s, read = some s → ¬s.HasFunction "connect") :
    HampersSignal read none

/-- The operations of hosts. -/
def operations : List String :=
  ["getGraphJson", "requestGraph", "sendCommand", "openNode", "openPath", "requestNodeDetailJson"]

/-- The second host does the same as the first. Where a call of the first returns `undefined`, or
what else is no text, a call of the second may throw; where a signal of the first is connected, the
second may throw; and what is no function may be beyond reading. -/
structure Hampered (host host' : HostValue) : Prop where
  operation : ∀ name ∈ operations,
    HampersRead (fun result => result.toText? = none) (host.get? name) (host'.get? name)
  signal : ∀ name ∈ Bridge.graphSignals ++ [Bridge.selectionSignal],
    HampersSignal (host.get? name) (host'.get? name)

variable {host host' : HostValue} {name : String}

/-- What can be made of a function without regard to what is lost can be made of the hampered one. -/
theorem HampersRead.map_function? {lost : HostValue → Prop} {β : Type} {g : Callable → β}
    (h : HampersRead lost (host.get? name) (host'.get? name))
    (hg : ∀ acts result, lost result → g ⟨acts, some result⟩ = g ⟨acts, none⟩) :
    (host'.function? name).map g = (host.function? name).map g := by
  unfold function?
  generalize host.get? name = read at h
  generalize host'.get? name = read' at h
  cases h with
  | same => rfl
  | throws acts hlost => exact congrArg some (hg acts _ hlost).symm
  | unreadable hread =>
    cases read with
    | none => rfl
    | some v =>
      cases v with
      | function acts result => exact absurd rfl (hread acts result)
      | _ => rfl

theorem HampersSignal.acts_connector? (h : HampersSignal (host.get? name) (host'.get? name)) :
    (Bridge.connector? host' name).map Callable.acts =
      (Bridge.connector? host name).map Callable.acts := by
  unfold Bridge.connector?
  generalize host.get? name = read at h
  generalize host'.get? name = read' at h
  cases h with
  | same => rfl
  | connect hread => exact hread.map_function? fun _ _ _ => rfl
  | unreadable hread =>
    cases read with
    | none => rfl
    | some s =>
      have hnone : s.function? "connect" = none := by
        rw [← Option.not_isSome_iff_eq_none, function?_isSome_iff]
        exact hread s rfl
      rw [Option.bind_some, hnone]
      rfl

end HostValue

open HostValue

variable {host host' : HostValue}

namespace Bridge

/-! ## Bridges -/

/-- The bridge offers an operation exactly if the host's member reads as a function, and a signal
is connected exactly if its `connect` does. -/
structure Reads (b : Bridge) (host : HostValue) : Prop where
  graphText : b.graphText.isSome ↔ host.HasFunction "getGraphJson"
  requestGraph : b.requestGraph.isSome ↔ host.HasFunction "requestGraph"
  sendCommand : b.sendCommand.isSome ↔ host.HasFunction "sendCommand"
  openNode : b.openNode.isSome ↔ host.HasFunction "openNode"
  openPath : b.openPath.isSome ↔ host.HasFunction "openPath"
  nodeDetail : b.nodeDetail.isSome ↔ host.HasFunction "requestNodeDetailJson"
  signal : ∀ name, (connector? host name).isSome ↔
    ∃ s, host.get? name = some s ∧ s.HasFunction "connect"

theorem reads_ofHost (host : HostValue) (number graphs selections : Nat) :
    (ofHost host number graphs selections).Reads host := by
  have hroutine (name : String) :
      ((host.function? name).map (routineOf name)).isSome ↔ host.HasFunction name := by
    rw [Option.isSome_map, function?_isSome_iff]
  have hcurried {β : Type} (f : Routine → β) (name : String) :
      (((host.function? name).map (routineOf name)).map f).isSome ↔ host.HasFunction name := by
    rw [Option.isSome_map, hroutine]
  refine ⟨hroutine _, hroutine _, hcurried _ _, hcurried _ _, hcurried _ _, hcurried _ _,
    fun name => ?_⟩
  unfold connector?
  cases host.get? name with
  | none => exact ⟨nofun, fun ⟨s, hs, _⟩ => absurd hs nofun⟩
  | some s =>
    rw [Option.bind_some, function?_isSome_iff]
    exact ⟨fun h => ⟨s, rfl, h⟩, fun ⟨_, hs, h⟩ => Option.some.inj hs ▸ h⟩

/-- The two hosts make the same bridge: what a call returns is lost only where it says nothing. -/
theorem ofHost_hampered (h : Hampered host host') (number graphs selections : Nat) :
    ofHost host' number graphs selections = ofHost host number graphs selections := by
  have hroutine (name : String) (hname : name ∈ operations) :
      (host'.function? name).map (routineOf name) = (host.function? name).map (routineOf name) :=
    (h.operation name hname).map_function? fun acts result hlost => by
      rw [routineOf, routineOf, Option.bind_some, hlost, Option.bind_none]
  simp only [operations, List.forall_mem_cons, List.not_mem_nil] at hroutine
  obtain ⟨hgraph, hrequest, hsend, hnode, hpath, hdetail, -⟩ := hroutine
  simp only [ofHost, hgraph, hrequest, hsend, hnode, hpath, hdetail]

/-- The signals and what is done when they are connected. -/
def wires (connectors : List (String × Callable)) : List (String × List HostAct) :=
  connectors.map fun c => (c.1, c.2.acts)

theorem wires_hampered (h : Hampered host host') {signals : List String}
    (hsignals : ∀ name ∈ signals, name ∈ graphSignals ++ [selectionSignal]) :
    wires (connectors host' signals) = wires (connectors host signals) := by
  rw [wires, wires, connectors, connectors, List.map_filterMap, List.map_filterMap]
  refine List.filterMap_congr fun name hname => ?_
  have hacts := (h.signal name (hsignals name hname)).acts_connector?
  simpa only [Option.map_map, Function.comp_def] using
    congrArg (Option.map fun acts => (name, acts)) hacts

end Bridge

namespace Widget

variable {α : Type} [Scalar α]

/-- For the widget it does not matter whether connecting a signal throws. -/
theorem connect_congr (b : Bridge) (channel : Nat) {cs cs' : List (String × Callable)}
    (h : Bridge.wires cs' = Bridge.wires cs) (w : Widget α) :
    (w.connect b channel cs').1 = (w.connect b channel cs).1 := by
  induction cs generalizing cs' w with
  | nil => rw [List.map_eq_nil_iff.mp h]
  | cons c rest ih =>
    obtain ⟨c', rest', rfl, hc, hrest⟩ := List.map_eq_cons_iff.mp h
    obtain ⟨hsignal, hacts⟩ := Prod.mk.inj hc
    show ((acts b _ _ w c'.2.acts).connect b channel rest').1 =
      ((acts b _ _ w c.2.acts).connect b channel rest).1
    rw [hsignal, hacts]
    exact ih hrest _

/-- Hosts do the same while they are connected, hampered or not. -/
theorem bridgeOfHost_hampered (h : Hampered host host') (w : Widget α) (number : Nat) :
    (w.bridgeOfHost number host').1 = (w.bridgeOfHost number host).1 ∧
      (w.bridgeOfHost number host').2.1 = (w.bridgeOfHost number host).2.1 := by
  have hbridge (graphs selections : Nat) := Bridge.ofHost_hampered h number graphs selections
  have hgraphs := Bridge.wires_hampered h fun name hname => List.mem_append_left _ hname
  have hselections : Bridge.wires (Bridge.connectors host' [Bridge.selectionSignal]) =
      Bridge.wires (Bridge.connectors host [Bridge.selectionSignal]) :=
    Bridge.wires_hampered h fun name hname => List.mem_append_right _ hname
  simp only [bridgeOfHost, hbridge, connect_congr _ _ hgraphs, connect_congr _ _ hselections,
    and_self]

/-! ## Sessions -/

/-- What may be asked of a widget in the name of the page, its scripts and hosts. -/
inductive Request (α : Type) where
  | operate (op : Operation α)
  | setText (text : String)
  | focus (id : String)
  | search (query : String)
  | detail (id : String)
  | openSelected
  | command (c : Command) (argument : String)
  -- Connects the host of a number.
  | attach (number : Nat)
  | emit (which : Handler → Bool) (payload : HostValue)

inductive Reply where
  | done
  | loaded (result : Except GraphError Unit)
  | found (found : Bool)
  | hits (hits : List SearchHit)
  | panel (panel : Option Panel)
  | called (functions : Nat)

/-- Answers a request, while the hosts are `hosts` by their numbers. -/
def answer (hosts : Nat → HostValue) (w : Widget α) : Request α → Widget α × Reply
  | .operate op => (w.update fun s => s.apply op, .done)
  | .setText text => ((w.setText text).1, .loaded (w.setText text).2)
  | .focus id => ((w.focus id).1, .found (w.focus id).2)
  | .search query => (w, .hits (w.search query))
  | .detail id => ((w.detail id).1, .panel (w.detail id).2)
  | .openSelected => (w.openSelected, .done)
  | .command c argument => (w.command c argument, .done)
  | .attach number => ((w.attachHost number (hosts number)).1, .done)
  | .emit which payload => ((w.emit which payload).1, .called (w.emit which payload).2)

/-- The widget with its present host as that behaves from now on. -/
def facing (hosts : Nat → HostValue) (w : Widget α) : Widget α :=
  { w with bridge := w.bridge.map fun b =>
      Bridge.ofHost (hosts b.number) b.number b.graphChannel b.selectionChannel }

/-- Answers requests one after the other, each with the hosts as they behave just then; the widget
after each of them, and what it replied. -/
def session (w : Widget α) : List ((Nat → HostValue) × Request α) → List (Widget α × Reply)
  | [] => []
  | (hosts, request) :: rest =>
    let reached := (w.facing hosts).answer hosts request
    reached :: session reached.1 rest

variable {hosts hosts' : Nat → HostValue}

omit [Scalar α] in
theorem facing_hampered (h : ∀ n, Hampered (hosts n) (hosts' n)) (w : Widget α) :
    w.facing hosts' = w.facing hosts := by
  simp only [facing, Bridge.ofHost_hampered (h _)]

theorem answer_hampered (h : ∀ n, Hampered (hosts n) (hosts' n)) (w : Widget α)
    (request : Request α) : w.answer hosts' request = w.answer hosts request := by
  cases request with
  | attach number =>
    obtain ⟨hwidget, hbridge⟩ := bridgeOfHost_hampered (h number) w number
    show ((w.bridgeOfHost number (hosts' number)).1.attach
      (w.bridgeOfHost number (hosts' number)).2.1, Reply.done) = _
    rw [hwidget, hbridge]
    rfl
  | _ => rfl

theorem session_hampered (w : Widget α) {turns turns' : List ((Nat → HostValue) × Request α)}
    (h : List.Forall₂ (fun t t' => (∀ n, Hampered (t.1 n) (t'.1 n)) ∧ t'.2 = t.2) turns turns') :
    w.session turns' = w.session turns := by
  induction h generalizing w with
  | nil => rfl
  | @cons t t' rest rest' hturn _ ih =>
    obtain ⟨hosts, request⟩ := t
    obtain ⟨hosts', request'⟩ := t'
    obtain ⟨hhosts, hrequest⟩ := hturn
    obtain rfl : request' = request := hrequest
    simp only [session, facing_hampered hhosts, answer_hampered hhosts, ih]

/-- Hosts offer what reads as a function. They may throw in any of their calls, other ones from one
request to the next, and may have members that cannot be read: no widget that comes of a session,
and no reply, is other than with hosts that have nothing to say in these places. -/
theorem failures_isolated (w : Widget α) (turns turns' : List ((Nat → HostValue) × Request α))
    (h : List.Forall₂ (fun t t' => (∀ n, Hampered (t.1 n) (t'.1 n)) ∧ t'.2 = t.2) turns turns') :
    w.session turns' = w.session turns ∧
      ∀ (host : HostValue) (number graphs selections : Nat),
        (Bridge.ofHost host number graphs selections).Reads host :=
  ⟨session_hampered w h, Bridge.reads_ofHost⟩

def quietHost : HostValue :=
  .object [("getGraphJson", .function [.log] (some .undefined)), ("openNode", .data .null),
    ("graphJson", .object [("connect", .function [.keepHandler] (some .undefined))])]

/-- The same host at its worst. -/
def brokenHost : HostValue :=
  .object [("getGraphJson", .function [.log] none), ("openNode", .unreadable),
    ("graphJson", .object [("connect", .function [.keepHandler] none)])]

theorem hampered_brokenHost : Hampered quietHost brokenHost where
  operation := by
    simp only [operations, List.forall_mem_cons]
    exact ⟨.throws [.log] rfl, .same _, .same _, .unreadable nofun, .same _, .same _, nofun⟩
  signal := by
    simp only [Bridge.graphSignals, Bridge.selectionSignal, List.cons_append, List.nil_append,
      List.forall_mem_cons]
    exact ⟨.connect (.throws [.keepHandler] trivial), .same _, .same _, .same _, .same _, .same _,
      nofun⟩

/-- The broken host is connected like the quiet one, and what it sends is loaded. -/
theorem failures_isolated_brokenHost :
    let session (host : HostValue) : List (Widget Float × Reply) :=
      (Widget.new Settings.standard).session
        [(fun _ => host, .attach 0), (fun _ => host, .emit (fun _ => true) (.data (.bool true)))]
    session brokenHost = session quietHost := by
  have hturn (request : Request Float) :
      (∀ n : Nat, Hampered quietHost brokenHost) ∧ request = request :=
    ⟨fun _ => hampered_brokenHost, rfl⟩
  exact (failures_isolated (Widget.new Settings.standard) _ _
    (.cons (hturn _) (.cons (hturn _) .nil))).1

end Widget
end NodeLink
