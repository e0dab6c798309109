import NodeLink.Proofs.Widget.Borrowing
import NodeLink.Proofs.Widget.Wiring
/-!
# Hosts that answer at once

A host may answer a call before it returns: it publishes on its channels, loads graphs, selects
nodes and asks for details, in the midst of an operation of the widget. Nothing is in use then, so
no answer clashes with the operation, none is lost, and each takes effect where it stands.

* `Careful.Runs`: a computation comes to an end and has given everything back.
* `Careful.runs_acts`: whatever a host does in answer to a call.
* `Careful.answers_heard`: every operation that calls hosts.
-/

namespace NodeLink

namespace Careful

variable {α β γ : Type} {u : List Shared} {w : Widget α}

/-! ## Computations without a clash -/

/-- While `u` is in use, `m` does not clash, and afterwards `u` is in use again. -/
def Runs (u : List Shared) (m : Careful α β) (w : Widget α) (r : Widget α × β) : Prop :=
  m ⟨w, u⟩ = .ok (r.2, ⟨r.1, u⟩)

theorem runs_pure (x : β) : Runs u (pure x : Careful α β) w (w, x) := rfl

theorem runs_edit (f : Widget α → Widget α × β) : Runs u (edit f) w (f w) := rfl

theorem Runs.bind {m : Careful α β} {f : β → Careful α γ} {r : Widget α × β} {q : Widget α × γ}
    (hm : Runs u m w r) (hf : Runs u (f r.2) r.1 q) : Runs u (m >>= f) w q := by
  show (m ⟨w, u⟩ >>= fun p => f p.1 p.2) = _
  rw [hm]
  exact hf

theorem Runs.hold {c : Shared} {m : Careful α β} {r : Widget α × β} (hm : Runs (c :: u) m w r)
    (hc : c ∉ u) : Runs u (hold c m) w r := by
  have hborrow : borrow c ⟨w, u⟩ = .ok ((), ⟨w, c :: u⟩) := if_neg hc
  show (borrow c ⟨w, u⟩ >>= fun p => (m >>= fun x => giveBack c >>= fun _ => pure x) p.2) = _
  rw [hborrow]
  show (m ⟨w, c :: u⟩ >>= fun p => (giveBack c >>= fun _ => pure p.1 : Careful α β) p.2) = _
  rw [hm]
  show Except.ok (r.2, Desk.mk r.1 ((c :: u).erase c)) = _
  rw [List.erase_cons_head]

theorem runs_withSimulation (f : Simulation α → Simulation α × β) (hu : .simulation ∉ u) :
    Runs u (withSimulation f) w ({ w with simulation := (f w.simulation).1 }, (f w.simulation).2) :=
  (runs_edit _).hold hu

theorem Runs.news {m : Careful α β} {r : Widget α × β} (hm : Runs u m w r) (text : String)
    (hu : .simulation ∉ u) : Runs u (news text m) w r := (if_neg hu).trans hm

theorem Runs.calling {m : Careful α β} {r : Widget α × β} (hm : Runs [] m w r) (c : HostCall) :
    Runs [] (calling c m) w r := hm

/-- One after the other, as long as each finds the widget as the next one needs it. -/
theorem runs_forM {ι : Type} {f : ι → Careful α Unit} {g : Widget α → ι → Widget α}
    {P : Widget α → Prop} (hf : ∀ w i, P w → Runs u (f i) w (g w i, ()) ∧ P (g w i)) (hw : P w)
    (is : List ι) : Runs u (is.forM f) w (is.foldl g w, ()) := by
  induction is generalizing w with
  | nil => exact runs_pure ()
  | cons i rest ih =>
    obtain ⟨hrun, hnext⟩ := hf w i hw
    exact hrun.bind (ih hnext)

theorem runs_subscribe (channel : Nat) (l : Listener) :
    Runs [] (subscribe channel l) w (w.subscribe channel l) :=
  (runs_edit _).hold List.not_mem_nil

theorem runs_presentBridge : Runs [] presentBridge w (w, w.bridge) :=
  (runs_edit _).hold List.not_mem_nil

/-- The channels are not in use while subscriptions are replaced. -/
theorem runs_replaceSubscriptions (new : List (Nat × Nat)) :
    Runs [] (replaceSubscriptions new) w
      (w.subscriptions.foldl Widget.cancel { w with subscriptions := new }, ()) := by
  have hcancel (w : Widget α) (old : Nat × Nat) :
      Runs [.subscriptions] (cancel old) w (w.cancel old, ()) :=
    (runs_edit _).hold (by simp)
  -- Of what is in use meanwhile no cancellation asks anything.
  refine Runs.hold (Runs.bind (runs_edit _) ?_) List.not_mem_nil
  exact runs_forM (P := fun _ => True) (fun w old _ => ⟨hcancel w old, trivial⟩) trivial _

variable [Scalar α]

/-! ## What hosts do -/

/-- Nothing that hosts do lends the simulation out. -/
theorem lasting_idle : Widget.Lasting fun w : Widget α => w.busy = false :=
  ⟨fun _ _ _ h => h, fun _ _ h => h, fun _ _ h => h⟩

theorem runs_focus (id : String) : Runs [] (focus id) w (w.focus id) :=
  runs_withSimulation _ List.not_mem_nil

theorem runs_setText (hidle : w.busy = false) (text : String) :
    Runs [] (setText text) w (w.setText text) := by
  rw [Widget.setText_eq hidle]
  exact (runs_withSimulation _ List.not_mem_nil).news text List.not_mem_nil

theorem runs_deliver (hidle : w.busy = false) (text : String) (l : Listener) :
    Runs [] (deliver text l) w (w.deliver text l, ()) := by
  cases l with
  | loadGraph => exact (runs_setText hidle text).bind (runs_pure ())
  | focusNode =>
    rw [Widget.deliver_focusNode hidle]
    exact ((runs_focus text).news text List.not_mem_nil).bind (runs_pure ())

theorem runs_publish (hidle : w.busy = false) (channel : Nat) (text : String) :
    Runs [] (publish channel text) w (w.publish channel text, ()) := by
  have haudience : Runs [] (hold (.channel channel) (edit fun w => (w, w.audience channel))) w
      (w, w.audience channel) := (runs_edit _).hold List.not_mem_nil
  refine haudience.bind (runs_forM (P := fun w => w.busy = false) (fun w l hidle => ?_) hidle _)
  refine ⟨runs_deliver hidle text l, ?_⟩
  cases l with
  | loadGraph => exact lasting_idle.setText hidle text
  | focusNode =>
    rw [Widget.deliver_focusNode hidle]
    exact lasting_idle.focus hidle text

mutual

theorem runs_act (b : Bridge) (c : HostCall) (handler : Option Handler) {w : Widget α}
    (hidle : w.busy = false) :
    ∀ a : HostAct, Runs [] (act b c handler a) w (w.act b c handler a, ())
  | .log => runs_edit fun w => (w.note c, ())
  | .keepHandler => runs_edit fun w => ({ w with handlers := w.handlers ++ handler.toList }, ())
  | .publishGraph text => runs_publish hidle b.graphChannel text
  | .publishSelection id => runs_publish hidle b.selectionChannel id
  | .setText text => (runs_setText hidle text).bind (runs_pure ())
  | .focus id => (runs_focus id).bind (runs_pure ())
  | .fit => runs_withSimulation (fun s => (s.fit, ())) List.not_mem_nil
  | .search query =>
    ((runs_edit fun w => (w, w.search query)).hold List.not_mem_nil).bind (runs_pure ())
  | .detail id meanwhile => by
    -- The host is called again in the midst of its own call: nothing is in use then either.
    have hasked : Runs [] (if (w.bridge.bind Bridge.nodeDetail).isSome then
          calling ("nodeDetail", [some id]) (acts b ("nodeDetail", [some id]) none meanwhile)
        else pure ()) w (w.act b c handler (.detail id meanwhile), ()) := by
      rw [Widget.act, Widget.offersDetail]
      split
      · exact (runs_acts b _ none hidle meanwhile).calling _
      · exact runs_pure ()
    exact runs_presentBridge.bind
      (hasked.bind (runs_withSimulation (fun s => (s, ())) List.not_mem_nil))

theorem runs_acts (b : Bridge) (c : HostCall) (handler : Option Handler) {w : Widget α}
    (hidle : w.busy = false) :
    ∀ as : List HostAct, Runs [] (acts b c handler as) w (w.acts b c handler as, ())
  | [] => runs_pure ()
  | a :: rest =>
    (runs_act b c handler hidle a).bind
      (runs_acts b c handler (lasting_idle.act b c handler hidle a) rest)

end

theorem runs_call (hidle : w.busy = false) (b : Bridge) (r : Routine) (arguments : List String) :
    Runs [] (call b r arguments) w (w.call b r arguments, ()) :=
  (runs_acts b _ none hidle r.acts).calling _

/-! ## Operations -/

theorem runs_initialGraph (hidle : w.busy = false) (b : Bridge) :
    Runs [] (initialGraph b) w (w.initialGraph b) := by
  unfold initialGraph Widget.initialGraph
  cases b.graphText with
  | none => exact runs_pure none
  | some r => exact (runs_call hidle b r []).bind (runs_pure _)

theorem runs_loadInitial (hidle : w.busy = false) (b : Bridge) :
    Runs [] (loadInitial b) w (w.loadInitial b, ()) := by
  refine (runs_initialGraph hidle b).bind ?_
  have hasked := lasting_idle.initialGraph hidle b
  unfold Widget.loadInitial
  generalize w.initialGraph b = asked at hasked ⊢
  obtain ⟨w', _ | text⟩ := asked
  · dsimp only
    cases b.requestGraph with
    | none => exact runs_pure ()
    | some r => exact runs_call hasked b r []
  · exact (runs_setText hasked text).bind (runs_pure ())

/-- The old subscriptions are those from before the new ones were made. -/
theorem runs_attach (hidle : w.busy = false) (b : Bridge) :
    Runs [] (attach b) w (w.attach b, ()) := by
  have hold : (w.joined b).subscriptions = w.subscriptions := by rw [Widget.joined_eq]
  refine (runs_subscribe b.graphChannel .loadGraph).bind ?_
  refine (runs_subscribe b.selectionChannel .focusNode).bind ?_
  refine (runs_replaceSubscriptions _).bind ?_
  refine Runs.bind ((runs_edit fun w => ({ w with bridge := some b }, ())).hold List.not_mem_nil) ?_
  refine (runs_loadInitial ?_ b).bind ?_
  · show ((w.joined b).subscriptions.foldl Widget.cancel
      { w.joined b with subscriptions := _ }).busy = false
    rw [Widget.cancelAll_eq, Widget.joined_eq]
    exact hidle
  · unfold Widget.attach
    rw [← hold]
    exact runs_withSimulation (fun s => (s.toast "Bridge connected", ())) List.not_mem_nil

theorem runs_send (hidle : w.busy = false) (b : Bridge) (c : Command) (argument : String) :
    Runs [] (send b c argument) w (w.send b c argument) := by
  unfold send Widget.send
  cases b.sendCommand with
  | none => exact runs_pure _
  | some run => exact (runs_call hidle b _ _).bind (runs_pure _)

theorem runs_openOver (hidle : w.busy = false) (b : Bridge) (n : Node α) :
    Runs [] (openOver b n) w (w.openOver b n) := by
  unfold openOver Widget.openOver
  cases b.opening n with
  | error e => exact runs_pure _
  | ok opening => exact (runs_call hidle b _ _).bind (runs_pure _)

theorem runs_openSelected (hidle : w.busy = false) :
    Runs [] openSelected w (w.openSelected, ()) := by
  have hread : Runs [] (withSimulation fun s => (s, s.selected.bind s.graph.node?)) w
      (w, w.simulation.selected.bind w.simulation.graph.node?) :=
    runs_withSimulation _ List.not_mem_nil
  refine hread.bind ?_
  unfold Widget.openSelected
  dsimp only
  cases w.simulation.selected.bind w.simulation.graph.node? with
  | none => exact runs_pure ()
  | some n =>
    refine runs_presentBridge.bind ?_
    dsimp only
    cases w.bridge with
    | none => exact (runs_pure _).bind (runs_withSimulation _ List.not_mem_nil)
    | some b =>
      refine (runs_openOver hidle b n).bind ?_
      dsimp only
      generalize w.openOver b n = opened
      obtain ⟨w', e | _⟩ := opened
      · exact runs_withSimulation _ List.not_mem_nil
      · exact runs_pure ()

theorem runs_command (hidle : w.busy = false) (c : Command) (argument : String) :
    Runs [] (command c argument) w (w.command c argument, ()) := by
  refine runs_presentBridge.bind ?_
  unfold Widget.command
  dsimp only
  cases w.bridge with
  | none => exact (runs_pure _).bind (runs_withSimulation _ List.not_mem_nil)
  | some b =>
    refine (runs_send hidle b c argument).bind ?_
    dsimp only
    generalize w.send b c argument = sent
    obtain ⟨w', e | _⟩ := sent
    · exact runs_withSimulation _ List.not_mem_nil
    · exact runs_pure ()

theorem runs_nodeDetail (hidle : w.busy = false) (b : Bridge) (id : String) :
    Runs [] (nodeDetail b id) w (w.nodeDetail b id) := by
  unfold nodeDetail Widget.nodeDetail
  cases b.nodeDetail with
  | none => exact runs_pure none
  | some run => exact (runs_call hidle b _ _).bind (runs_pure _)

theorem runs_detail (hidle : w.busy = false) (id : String) :
    Runs [] (detail id) w (w.detail id) := by
  refine runs_presentBridge.bind ?_
  unfold Widget.detail
  cases w.bridge with
  | none => exact (runs_pure none).bind (runs_withSimulation _ List.not_mem_nil)
  | some b => exact (runs_nodeDetail hidle b id).bind (runs_withSimulation _ List.not_mem_nil)

/-! ## Frames -/

theorem runs_showPanel (hidle : w.busy = false) (ui : Ui) (id : String) :
    Runs [] (showPanel ui id) w (Ui.showPanel w ui id) :=
  (runs_detail hidle id).bind (runs_pure _)

theorem runs_takeIn (hidle : w.busy = false) (now : Nat) (ui : Ui) (e : Event) :
    Runs [] (takeIn now ui e) w (Ui.takeIn now w ui e) := by
  cases e with
  | selected id => exact runs_showPanel hidle ui id
  | pinChanged id pinned =>
    show Runs [] (if ui.shows id then showPanel ui id else pure ui) w
      (if ui.shows id then Ui.showPanel w ui id else (w, ui))
    split
    · exact runs_showPanel hidle ui id
    · exact runs_pure ui
  | _ => exact runs_pure _

theorem idle_takeIn (hidle : w.busy = false) (now : Nat) (ui : Ui) (e : Event) :
    (Ui.takeIn now w ui e).1.busy = false := by
  cases e with
  | selected id => exact lasting_idle.detail hidle id
  | pinChanged id pinned =>
    show (if ui.shows id then Ui.showPanel w ui id else (w, ui)).1.busy = false
    split
    · exact lasting_idle.detail hidle id
    · exact hidle
  | _ => exact hidle

theorem runs_takeInAll (hidle : w.busy = false) (now : Nat) (ui : Ui) (events : List Event) :
    Runs [] (takeInAll now ui events) w (Ui.takeInAll now w ui events) := by
  induction events generalizing w ui with
  | nil => exact runs_pure ui
  | cons e rest ih => exact (runs_takeIn hidle now ui e).bind (ih (idle_takeIn hidle now ui e) _)

theorem runs_frame {p : Page α} (hidle : p.widget.busy = false) :
    Runs [] (frame p.clock p.theme p.ui) p.widget
      (p.frame.widget, (p.frame.ui, p.frame.paint)) := by
  have hmoved : { p.widget with simulation := p.widget.simulation.tick.drain.1 }.busy = false :=
    hidle
  refine (runs_withSimulation _ List.not_mem_nil).bind ?_
  exact (runs_takeInAll hmoved p.clock p.ui _).bind (runs_pure _)

/-! ## All operations -/

/-- In place of a call there is what the host does, one after the other. -/
theorem acts_eq_foldl (b : Bridge) (c : HostCall) (handler : Option Handler) (w : Widget α)
    (as : List HostAct) :
    w.acts b c handler as = as.foldl (fun w a => w.act b c handler a) w := by
  induction as generalizing w with
  | nil => rfl
  | cons a rest ih => exact ih _

/-- Whatever hosts do while they are called, over whatever bridges: none of the operations clashes
with it, so that nothing is borrowed twice, no news are lost and no host is called while something
is in use; and what comes of an operation is what comes of it when the host's answers take effect
where they stand, one after the other, in place of the call. -/
theorem answers_heard (w : Widget α) (hidle : w.busy = false) :
    (∀ b, Runs [] (attach b) w (w.attach b, ())) ∧
      Runs [] openSelected w (w.openSelected, ()) ∧
      (∀ c argument, Runs [] (command c argument) w (w.command c argument, ())) ∧
      (∀ id, Runs [] (detail id) w (w.detail id)) ∧
      (∀ p : Page α, p.widget = w →
        Runs [] (frame p.clock p.theme p.ui) w (p.frame.widget, (p.frame.ui, p.frame.paint))) ∧
      ∀ b r arguments, Runs [] (call b r arguments) w (w.call b r arguments, ()) ∧
        w.call b r arguments =
          r.acts.foldl (fun w a => w.act b (r.name, arguments.map some) none a) w :=
  ⟨runs_attach hidle, runs_openSelected hidle, runs_command hidle, runs_detail hidle,
    fun _ hp => hp ▸ runs_frame (hp ▸ hidle),
    fun b r arguments => ⟨runs_call hidle b r arguments, acts_eq_foldl b _ none w r.acts⟩⟩

/-- A host that answers a command by a graph, a selection and a question about a node, in the midst
of which it gives the widget another graph. -/
def eagerHost : Bridge :=
  { number := 0
    sendCommand := some fun _ _ =>
      { name := "sendCommand"
        acts := [.log, .publishGraph "\x7b\"nodes\": [\"a\", \"b\"]\x7d", .publishSelection "a",
          .detail "b" [.setText "\x7b\x7d", .focus "a"], .search "a"]
        reply := none }
    nodeDetail := some fun _ => { name := "nodeDetail", acts := [], reply := none }
    graphChannel := 0
    selectionChannel := 1 }

def eagerlyConnected : Widget Float :=
  (Widget.new Settings.standard).openChannel.1.openChannel.1.attach eagerHost

theorem answers_heard_eagerHost : eagerlyConnected.bridge = some eagerHost ∧
    eagerlyConnected.busy = false ∧
    Runs [] (command .back "") eagerlyConnected (eagerlyConnected.command .back "", ()) := by
  have hidle : eagerlyConnected.busy = false := by
    have hattached : Widget.Attached eagerlyConnected [eagerHost] :=
      .attach (.openChannel (.openChannel (.new _))) ⟨by decide, by decide⟩
    exact hattached.hearsNewest.1.idle
  exact ⟨rfl, hidle, (answers_heard eagerlyConnected hidle).2.2.1 .back ""⟩

end Careful
end NodeLink
