import NodeLink.Simulation.Operation
import NodeLink.Widget.Basic
/-!
# What hosts can do to a widget

A host that is called may answer with anything: it may publish news, load graphs, select nodes and
ask for details, in the middle of which it is called again. All of it comes down to operations of
the simulation, none of which takes the events, and to notes of its own.

* `Widget.Lasting`: a property that these keep.
* `Lasting.acts`, `call`, `publish`: then whatever a host does keeps it.
* `Widget.Step`, `Step.keeps`: what operations keep of the simulation, every call keeps.
-/

namespace NodeLink.Widget

variable {α : Type}

/-! ## Subscriptions -/

/-- Of a widget that subscribes only the channel changes. -/
theorem subscribe_fst (w : Widget α) (channel : Nat) (l : Listener) : (w.subscribe channel l).1 =
    { w with channels := w.channels.modify channel fun c => (c.subscribe l).1 } := by
  unfold subscribe
  cases hc : w.channels[channel]? with
  | none => rw [List.modify_eq_self (List.getElem?_eq_none_iff.mp hc)]
  | some c =>
    rw [List.modify_eq_set, hc]
    rfl

/-- The widget subscribed to both channels of a host. -/
def joined (w : Widget α) (b : Bridge) : Widget α :=
  ((w.subscribe b.graphChannel .loadGraph).1.subscribe b.selectionChannel .focusNode).1

theorem joined_eq (w : Widget α) (b : Bridge) : w.joined b = { w with
    channels := (w.channels.modify b.graphChannel fun c => (c.subscribe .loadGraph).1).modify
      b.selectionChannel fun c => (c.subscribe .focusNode).1 } := by
  rw [joined, subscribe_fst, subscribe_fst]

/-- Of a widget that cancels subscriptions only the channels change. -/
theorem cancelAll_eq (old : List (Nat × Nat)) (w : Widget α) : old.foldl cancel w = { w with
    channels := old.foldl (fun cs o => cs.modify o.1 fun c => c.cancel o.2) w.channels } := by
  induction old generalizing w with
  | nil => rfl
  | cons first rest ih => exact ih (w.cancel first)

variable [Scalar α]

/-! ## Texts of graphs -/

/-- What comes of a text while the simulation is at hand. -/
def loadOrToast (text : String) (s : Simulation α) : Simulation α × Except GraphError Unit :=
  match s.loadText text with
  | .ok s => (s, .ok ())
  | .error e => (s.toast "Invalid graph JSON", .error e)

theorem setText_eq {w : Widget α} (hidle : w.busy = false) (text : String) : w.setText text =
    ({ w with simulation := (loadOrToast text w.simulation).1 },
      (loadOrToast text w.simulation).2) := by
  rw [setText, if_neg (ne_true_of_eq_false hidle), loadOrToast]
  cases w.simulation.loadText text with
  | ok s => rfl
  | error e => rfl

/-! ## What hosts keep -/

/-- A property that operations keep, but for the one that takes the events, and what hosts note. -/
structure Lasting (P : Widget α → Prop) : Prop where
  operation : ∀ w op, op ≠ .drain → P w → P (w.update fun s => s.apply op)
  note : ∀ w c, P w → P (w.note c)
  keep : ∀ w (hs : List Handler), P w → P { w with handlers := w.handlers ++ hs }

namespace Lasting

variable {P : Widget α → Prop} {w : Widget α}

theorem setText (hP : Lasting P) (hw : P w) (text : String) : P (w.setText text).1 := by
  have hload := hP.operation w (.loadText text) nofun hw
  unfold Widget.setText
  split
  · exact hw
  · split
    · rename_i s hs
      simp only [update, Simulation.apply, hs] at hload
      exact hload
    · exact hP.operation w (.toast _) nofun hw

theorem focus (hP : Lasting P) (hw : P w) (id : String) : P (w.focus id).1 :=
  hP.operation w (.focus id) nofun hw

theorem fit (hP : Lasting P) (hw : P w) : P w.fit :=
  hP.operation w .fit nofun hw

theorem publish (hP : Lasting P) (hw : P w) (channel : Nat) (text : String) :
    P (w.publish channel text) := by
  unfold Widget.publish
  generalize w.audience channel = audience
  induction audience generalizing w with
  | nil => exact hw
  | cons l rest ih =>
    apply ih
    cases l with
    | loadGraph => exact hP.setText hw text
    | focusNode =>
      show P (if w.busy then w else (w.focus text).1)
      split
      · exact hw
      · exact hP.focus hw text

mutual

theorem act (hP : Lasting P) (b : Bridge) (c : HostCall) (handler : Option Handler) {w : Widget α}
    (hw : P w) : ∀ a : HostAct, P (Widget.act b c handler w a)
  | .log => hP.note w c hw
  | .keepHandler => hP.keep w handler.toList hw
  | .publishGraph text => hP.publish hw b.graphChannel text
  | .publishSelection id => hP.publish hw b.selectionChannel id
  | .setText text => hP.setText hw text
  | .focus id => hP.focus hw id
  | .fit => hP.fit hw
  | .search _ => hw
  | .detail id meanwhile => by
    rw [Widget.act]
    split
    · exact acts hP b _ none hw meanwhile
    · exact hw

theorem acts (hP : Lasting P) (b : Bridge) (c : HostCall) (handler : Option Handler) {w : Widget α}
    (hw : P w) : ∀ as : List HostAct, P (Widget.acts b c handler w as)
  | [] => hw
  | a :: rest => acts hP b c handler (act hP b c handler hw a) rest

end

theorem call (hP : Lasting P) (hw : P w) (b : Bridge) (r : Routine) (arguments : List String) :
    P (w.call b r arguments) :=
  hP.acts b _ none hw r.acts

/-! ## Asking and being told -/

theorem nodeDetail (hP : Lasting P) (hw : P w) (b : Bridge) (id : String) :
    P (w.nodeDetail b id).1 := by
  unfold Widget.nodeDetail
  split
  · exact hw
  · exact hP.call hw b _ _

theorem detail (hP : Lasting P) (hw : P w) (id : String) : P (w.detail id).1 := by
  unfold Widget.detail
  cases w.bridge with
  | none => exact hw
  | some b => exact hP.nodeDetail hw b id

theorem send (hP : Lasting P) (hw : P w) (b : Bridge) (c : Command) (argument : String) :
    P (w.send b c argument).1 := by
  unfold Widget.send
  split
  · exact hP.call hw b _ _
  · exact hw

theorem openOver (hP : Lasting P) (hw : P w) (b : Bridge) (n : Node α) : P (w.openOver b n).1 := by
  unfold Widget.openOver
  split
  · exact hP.call hw b _ _
  · exact hw

theorem openSelected (hP : Lasting P) (hw : P w) : P w.openSelected := by
  unfold Widget.openSelected
  split
  · exact hw
  · next n _ =>
    cases w.bridge with
    | none => exact hP.operation w (.toast _) nofun hw
    | some b =>
      have hopened := hP.openOver hw b n
      dsimp only
      split
      · exact hopened
      · exact hP.operation _ (.toast _) nofun hopened

theorem commandLocally (hP : Lasting P) (hw : P w) (c : Command) (argument : String) :
    P (w.update (Widget.commandLocally c argument)) := by
  cases c with
  | focus => exact hP.operation w (.focus argument) nofun hw
  | fit => exact hP.operation w .fit nofun hw
  | overview => exact hP.operation _ .fit nofun (hP.operation w .deselect nofun hw)
  | pinToggle => exact hP.operation w (.togglePin argument) nofun hw
  | _ => exact hP.operation w (.toast _) nofun hw

theorem command (hP : Lasting P) (hw : P w) (c : Command) (argument : String) :
    P (w.command c argument) := by
  unfold Widget.command
  cases w.bridge with
  | none => exact hP.commandLocally hw c argument
  | some b =>
    have hsent := hP.send hw b c argument
    dsimp only
    split
    · exact hsent
    · exact hP.commandLocally hsent c argument

theorem emit (hP : Lasting P) (hw : P w) (which : Handler → Bool) (payload : HostValue) :
    P (w.emit which payload).1 := by
  unfold Widget.emit
  split
  · next text _ =>
    show P ((w.handlers.filter which).foldl (fun w h => w.publish h.channel text) w)
    generalize w.handlers.filter which = hs
    induction hs generalizing w with
    | nil => exact hw
    | cons h rest ih => exact ih (hP.publish hw h.channel text)
  · exact hw

/-! ## Getting connected -/

theorem initialGraph (hP : Lasting P) (hw : P w) (b : Bridge) : P (w.initialGraph b).1 := by
  unfold Widget.initialGraph
  split
  · exact hw
  · exact hP.call hw b _ _

theorem loadInitial (hP : Lasting P) (hw : P w) (b : Bridge) : P (w.loadInitial b) := by
  have hasked := hP.initialGraph hw b
  unfold Widget.loadInitial
  split
  · next w' text h =>
    rw [h] at hasked
    exact hP.setText hasked text
  · next w' h =>
    rw [h] at hasked
    split
    · exact hP.call hasked b _ _
    · exact hasked

theorem connect (hP : Lasting P) (hw : P w) (b : Bridge) (channel : Nat)
    (signals : List (String × HostValue.Callable)) : P (w.connect b channel signals).1 := by
  induction signals generalizing w with
  | nil => exact hw
  | cons first rest ih => exact ih (hP.acts b _ _ hw first.2.acts)

end Lasting

/-! ## All that is done to a widget -/

/-- What is called in the name of the page, its scripts and the hosts. Nothing of it takes the
events. -/
inductive Step (w : Widget α) : Widget α → Prop where
  | operate (op : Operation α) (hop : op ≠ .drain) : Step w (w.update fun s => s.apply op)
  | setText (text : String) : Step w (w.setText text).1
  | command (c : Command) (argument : String) : Step w (w.command c argument)
  | openSelected : Step w w.openSelected
  | detail (id : String) : Step w (w.detail id).1
  | openChannel : Step w w.openChannel.1
  | attach (b : Bridge) : Step w (w.attach b)
  | attachHost (number : Nat) (host : HostValue) : Step w (w.attachHost number host).1
  | publish (channel : Nat) (text : String) : Step w (w.publish channel text)
  | publishMidFrame (channel : Nat) (text : String) : Step w (w.publishMidFrame channel text)
  | emit (which : Handler → Bool) (payload : HostValue) : Step w (w.emit which payload).1
  | call (b : Bridge) (r : Routine) (arguments : List String) : Step w (w.call b r arguments)

section Step

variable {P : Simulation α → Prop} (hP : ∀ s op, op ≠ .drain → P s → P (s.apply op))
variable {w w' : Widget α}
include hP

theorem lasting_simulation : Lasting fun w : Widget α => P w.simulation :=
  ⟨fun w op => hP w.simulation op, fun _ _ h => h, fun _ _ h => h⟩

theorem attach_keeps (hw : P w.simulation) (b : Bridge) : P (w.attach b).simulation := by
  refine hP _ (.toast _) nofun ((lasting_simulation hP).loadInitial ?_ b)
  show P (w.subscriptions.foldl cancel { w.joined b with subscriptions := _ }).simulation
  rw [cancelAll_eq]
  show P (w.joined b).simulation
  rw [joined_eq]
  exact hw

/-- What operations keep of the simulation, all steps keep. -/
theorem Step.keeps (h : w.Step w') (hw : P w.simulation) : P w'.simulation := by
  have hlasting := lasting_simulation hP
  cases h with
  | operate op hop => exact hP w.simulation op hop hw
  | setText text => exact hlasting.setText hw text
  | command c argument => exact hlasting.command hw c argument
  | openSelected => exact hlasting.openSelected hw
  | detail id => exact hlasting.detail hw id
  | openChannel => exact hw
  | attach b => exact attach_keeps hP hw b
  | attachHost number host =>
    have hopened : P w.openChannel.1.openChannel.1.simulation := hw
    refine attach_keeps hP ?_ _
    exact hlasting.connect (hlasting.connect hopened _ _ _) _ _ _
  | publish channel text => exact hlasting.publish hw channel text
  | publishMidFrame channel text =>
    have hbusy : P { w with busy := true }.simulation := hw
    exact hlasting.publish hbusy channel text
  | emit which payload => exact hlasting.emit hw which payload
  | call b r arguments => exact hlasting.call hw b r arguments

end Step
end NodeLink.Widget
