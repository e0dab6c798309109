import NodeLink.Page.Start
import NodeLink.Proofs.Page.Signals
/-!
# The panel never lies

Users, scripts of the page and hosts may do what they like between two frames: select nodes, pin
them, load other graphs with the same ids, search. After the next frame what is shown is right.

* `Widget.Undrained`: what can come of a widget before it is put on a page.
* `Page.Reached`: what can come of a page.
* `Reached.tracks`: what is shown follows the simulation all the time.
* `Reached.shown_frame`: after a frame it is up to date.
-/

namespace NodeLink

/-! ## Before the widget is on a page -/

namespace Widget

variable {α : Type} [Scalar α]

/-- What can come of a new widget while nobody takes its events. -/
inductive Undrained : Widget α → Prop where
  | new (settings : Settings α) : Undrained (Widget.new settings)
  | step {w w' : Widget α} (hw : Undrained w) (h : w.Step w') : Undrained w'

/-- All events are still there, and tell how the simulation came to be as it is. -/
theorem Undrained.told {w : Widget α} (hw : w.Undrained) :
    w.simulation.Anchored ∧ w.simulation.events.foldl Knowledge.hear {} = w.simulation.told := by
  induction hw with
  | new settings => exact ⟨Simulation.anchored_new _ _ _ _, rfl⟩
  | step _ h ih =>
    refine h.keeps (P := fun s => s.Anchored ∧ s.events.foldl Knowledge.hear {} = s.told) ?_ ih
    intro s op hop ⟨hs, htold⟩
    obtain ⟨news, hevents, hnews⟩ := Simulation.reports_apply hs.closed.built.indexed hop
    refine ⟨Simulation.anchored_apply hs op, ?_⟩
    rw [hevents, List.foldl_append, htold, hnews]

end Widget

variable {α : Type}

namespace Page

/-- What is shown on the page follows its simulation. -/
def Tracks (p : Page α) : Prop := p.ui.Tracks p.widget.simulation

variable {p : Page α}

theorem Tracks.input (hp : p.Tracks) (query : String) : (p.input query).Tracks :=
  ⟨hp.1, hp.2.search hp.1.closed.built.indexed query⟩

theorem Tracks.wait (hp : p.Tracks) (milliseconds : Nat) : (p.wait milliseconds).1.Tracks :=
  ⟨hp.1, hp.2.congr (Ui.shown_fireDue p.ui _)⟩

end Page

variable [Scalar α]

/-- A new page shows that nothing is selected, and whether the layout runs by now. -/
theorem Surroundings.tracks_pageOf (place : Surroundings α) {w : Widget α} (hw : w.Undrained)
    (extent : Extent) (fullscreen hasApi : Bool) :
    (place.pageOf w extent fullscreen hasApi).ui.Tracks w.simulation := by
  obtain ⟨hs, htold⟩ := hw.told
  refine ⟨hs, ?_, ?_, fun d hd => absurd hd.symm (Option.some_ne_none d),
    fun _ _ hhit => absurd hhit List.not_mem_nil⟩
  · have hnone : (place.pageOf w extent fullscreen hasApi).ui.known.selected =
        ({} : Knowledge).selected := rfl
    rw [Knowledge.settled_selected.congr hnone, htold]
    rfl
  · rcases Knowledge.settled_running.foldl w.simulation.events with ⟨x, hx⟩ | hkept
    · rw [hx, ← hx {}, htold]
      rfl
    · exact hkept _

namespace Page

/-! ## Pages -/

/-- The widget of a frame whose host is asked about nodes: the simulation has moved, and its events
have been taken. -/
def asked (p : Page α) : Widget α :=
  { p.widget with simulation := p.widget.simulation.tick.drain.1 }

/-- What can come of a page: it is opened around a widget whose events nobody has taken, and then
the user, scripts and hosts do what they like. The events are taken by the frames; a host that is
asked about nodes then leaves the simulation as it is. -/
inductive Reached : Page α → Prop where
  | opened (place : Surroundings α) {w : Widget α} (hw : w.Undrained) (extent : Extent)
    (fullscreen hasApi : Bool) : Reached (place.pageOf w extent fullscreen hasApi)
  | mount {p : Page α} (hp : Reached p) : Reached (Surroundings.mount p)
  | step {p : Page α} (hp : Reached p) {w : Widget α} (h : p.widget.Step w) (hosts : Nat) :
    Reached { p with widget := w, hosts := hosts }
  | pointerDown {p : Page α} (hp : Reached p) (pointer : Int) (place : Point α) :
    Reached (p.pointerDown pointer place)
  | pointerMove {p : Page α} (hp : Reached p) (pointer : Int) (place : Point α) :
    Reached (p.pointerMove pointer place)
  | pointerUp {p : Page α} (hp : Reached p) (pointer : Int) (place : Point α) :
    Reached (p.pointerUp pointer place)
  | pointerLeave {p : Page α} (hp : Reached p) (pointer : Int) : Reached (p.pointerLeave pointer)
  | wheel {p : Page α} (hp : Reached p) (place : Point α) (deltaY : α) :
    Reached (p.wheel place deltaY)
  | input {p : Page α} (hp : Reached p) (query : String) : Reached (p.input query)
  | perform {p : Page α} (hp : Reached p) (c : Click) : Reached (p.perform c)
  | resize {p : Page α} (hp : Reached p) (window : Window α) (parent : Option (Point α)) :
    Reached (p.resize window parent).1
  | wait {p : Page α} (hp : Reached p) (milliseconds : Nat) : Reached (p.wait milliseconds).1
  | frame {p : Page α} (hp : Reached p) (hasked : p.asked.Discreet) : Reached p.frame

variable {p : Page α}

theorem Tracks.operate (hp : p.Tracks) (op : Operation α) (hop : op ≠ .drain) :
    p.ui.Tracks (p.widget.simulation.apply op) :=
  (Ui.lasting_tracks p.ui).operation p.widget.simulation op hop hp

theorem Tracks.step (hp : p.Tracks) {w : Widget α} (h : p.widget.Step w) :
    p.ui.Tracks w.simulation :=
  h.keeps (Ui.lasting_tracks p.ui).operation hp

/-- What gestures act on. -/
def hands (p : Page α) : GestureTracker.State α := (p.tracker, p.widget.simulation)

theorem Tracks.fitCanvas (hp : p.Tracks) : p.fitCanvas.Tracks :=
  hp.operate (.resize _ _ _) nofun

theorem Tracks.mount (hp : p.Tracks) : (Surroundings.mount p).Tracks := by
  unfold Surroundings.mount
  split
  · exact hp.fitCanvas.operate .fit nofun
  · exact hp

theorem Tracks.resize (hp : p.Tracks) (window : Window α) (parent : Option (Point α)) :
    (p.resize window parent).1.Tracks := by
  unfold Page.resize
  dsimp only
  split
  · exact Tracks.fitCanvas (p := { p with window := window, parent := parent }) hp
  · exact hp

theorem Tracks.perform (hp : p.Tracks) (c : Click) : (p.perform c).Tracks := by
  cases c with
  | fit =>
    have hfit : (p.update Simulation.fit).Tracks := hp.operate .fit nofun
    exact hfit.operate (.toast _) nofun
  | pause => exact hp.operate .toggleRunning nofun
  | reheat =>
    have hreheat : (p.update Simulation.reheat).Tracks := hp.operate .reheat nofun
    exact hreheat.operate (.toast _) nofun
  | chooseResult id =>
    have hcleared : { p with ui := { p.ui with results := [] } }.Tracks :=
      ⟨hp.1, hp.2.selected, hp.2.running, hp.2.panel, fun _ _ hhit => absurd hhit List.not_mem_nil⟩
    exact hcleared.operate (.focus id) nofun
  | followCrumb command argument => exact hp.step (.command command argument)
  | chooseNeighbor id => exact hp.step (.command .focus id)
  | openNode => exact hp.step .openSelected
  | togglePin id => exact hp.operate (.togglePin id) nofun
  | close => exact hp.operate .deselect nofun

/-- A frame takes all events and catches up with them. -/
theorem Tracks.frame (hp : p.Tracks) (hasked : p.asked.Discreet) :
    p.frame.widget.simulation.Anchored ∧ p.frame.ui.Follows [] p.frame.widget.simulation ∧
      p.frame.widget.simulation.events = [] := by
  obtain ⟨hs, hticked⟩ := hp.operate .tick nofun
  have hdrained : p.asked.simulation.Anchored := Simulation.anchored_apply hs .drain
  have hfollows : p.ui.Follows p.widget.simulation.tick.events p.asked.simulation :=
    ⟨hticked.selected, hticked.running, hticked.panel, hticked.results⟩
  obtain ⟨hsame, hend⟩ := hfollows.takeInAll hdrained hasked p.clock
  have hsimulation : p.frame.widget.simulation = p.asked.simulation := hsame
  rw [hsimulation]
  exact ⟨hdrained, hend, rfl⟩

theorem Reached.tracks (hp : p.Reached) : p.Tracks := by
  induction hp with
  | opened place hw extent fullscreen hasApi =>
    exact place.tracks_pageOf hw extent fullscreen hasApi
  | mount _ ih => exact ih.mount
  | step _ h hosts ih => exact ih.step h
  | @pointerDown p _ pointer place ih =>
    exact (Ui.lasting_tracks p.ui).down (w := p.hands) ih pointer _
  | @pointerMove p _ pointer place ih =>
    exact (Ui.lasting_tracks p.ui).move (w := p.hands) ih pointer _
  | @pointerUp p _ pointer place ih => exact (Ui.lasting_tracks p.ui).up (w := p.hands) ih pointer _
  | @pointerLeave p _ pointer ih => exact (Ui.lasting_tracks p.ui).leave (w := p.hands) ih pointer
  | @wheel p _ place deltaY ih => exact (Ui.lasting_tracks p.ui).wheel (w := p.hands) ih _ deltaY
  | input _ query ih => exact ih.input query
  | perform _ c ih => exact ih.perform c
  | resize _ window parent ih => exact ih.resize window parent
  | wait _ milliseconds ih => exact ih.wait milliseconds
  | frame _ hasked ih =>
    obtain ⟨hs, hfollows, hevents⟩ := ih.frame hasked
    refine ⟨hs, ?_⟩
    rw [hevents]
    exact hfollows

/-- Whatever was done to the page and to the widget before it, and however many frames have passed:
after the next frame a panel is shown just if a node is selected. It is the panel of that node in
the graph there is now, with its pin, its degree and as many of its neighbours as panels list.
Whether the layout runs is shown as it is, and every search result names a node of the graph. -/
theorem Reached.shown_frame (hp : p.Reached) (hasked : p.asked.Discreet) :
    let ui := p.frame.ui
    let s := p.frame.widget.simulation
    let g := s.graph
    (ui.panel.isSome = true ↔ s.selected.isSome = true) ∧
    (∀ d, ui.panel = some d → s.selected = some d.id ∧ d.Fits g ∧
      ∃ i n, g.indexOf? d.id = some i ∧ g.nodes[i]? = some n ∧ n.id = d.id ∧
        d.pinned = n.pinned ∧ d.degree = g.degree i ∧
        d.neighbors = (Panel.nodesAt g ((g.neighbors i).take Panel.neighborLimit)).map
          Panel.neighborOf) ∧
    ui.running = s.running ∧
    ∀ hit ∈ ui.results, ∃ n ∈ g.nodes, n.id = hit.id := by
  intro ui s g
  obtain ⟨hs, hfollows, -⟩ := hp.tracks.frame hasked
  have hselected : ui.panel.map Panel.id = s.selected := hfollows.selected
  refine ⟨?_, fun d hd => ?_, hfollows.running, fun hit hhit => ?_⟩
  · rw [← hselected, Option.isSome_map]
  · have hfits : d.Fits g := hfollows.panel d hd fun e he => absurd he List.not_mem_nil
    rw [hd] at hselected
    exact ⟨hselected.symm, hfits, hfits.says⟩
  · have hknown : g.hasNode hit.id = true :=
      hfollows.results (fun e he => absurd he List.not_mem_nil) hit hhit
    exact (hs.closed.built.indexed.hasNode_iff hit.id).mp hknown

/-! ## An example -/

/-- A host that notes each question about a node and answers with an empty record. -/
def detailHost : Bridge where
  number := 0
  nodeDetail := some fun _ => ⟨"nodeDetail", [.log], some "{}"⟩
  graphChannel := 0
  selectionChannel := 1

/-- The host connected, the pair loaded, one node of it selected and the layout paused, all before
there is a page. -/
def pausedPair : Widget Float :=
  ((((Widget.new Settings.standard).attach detailHost).update fun s =>
    s.apply (.load Simulation.pairRecord)).update fun s => s.apply (.select "B")).update
    fun s => s.apply .toggleRunning

theorem undrained_pausedPair : pausedPair.Undrained := by
  have hconnected : ((Widget.new Settings.standard).attach detailHost : Widget Float).Undrained :=
    .step (.new _) (.attach detailHost)
  have hloaded := hconnected.step (.operate (.load Simulation.pairRecord) nofun)
  exact (hloaded.step (.operate (.select "B") nofun)).step (.operate .toggleRunning nofun)

def emptyPlace : Surroundings Float where
  scripts := []
  host := .undefined
  window := ⟨.undefined, .undefined, 1⟩
  corner := ⟨0, 0⟩
  parent := none
  drawable := true
  hasGlobals := false

def openedPage : Page Float := emptyPlace.pageOf pausedPair .widgetOnly false false

/-- The page after one frame, with a search made and the selected node pinned. -/
def pinnedPage : Page Float :=
  ((Surroundings.mount openedPage).frame.input "b").perform (.togglePin "B")

theorem shown_frame_pinnedPage : pinnedPage.Reached ∧ pinnedPage.asked.Discreet ∧
    pinnedPage.frame.ui.running = false ∧
    ∃ d, pinnedPage.frame.ui.panel = some d ∧ d.id = "B" ∧ d.pinned = true ∧ d.degree = 1 := by
  have hopened : (Surroundings.mount openedPage).Reached :=
    .mount (.opened emptyPlace undrained_pausedPair _ _ _)
  have hreached : pinnedPage.Reached :=
    .perform (.input (.frame hopened fun _ _ _ => rfl) "b") (.togglePin "B")
  have hasked : pinnedPage.asked.Discreet := fun _ _ _ => rfl
  have hselected : pinnedPage.frame.widget.simulation.selected = some "B" := by decide +kernel
  obtain ⟨hshown, hpanel, hrunning, -⟩ := hreached.shown_frame hasked
  obtain ⟨d, hd⟩ := Option.isSome_iff_exists.mp (hshown.mpr (by rw [hselected]; rfl))
  obtain ⟨hsel, -, i, n, hi, hn, -, hpinned, hdegree, -⟩ := hpanel d hd
  have hid : d.id = "B" := Option.some.inj (hsel.symm.trans hselected)
  have hindex : pinnedPage.frame.widget.simulation.graph.indexOf? "B" = some 1 := by decide +kernel
  rw [hid, hindex] at hi
  rw [← Option.some.inj hi] at hn hdegree
  have hpin : (pinnedPage.frame.widget.simulation.graph.nodes[1]?).map Node.pinned = some true := by
    decide +kernel
  rw [hn, Option.map_some] at hpin
  refine ⟨hreached, hasked, hrunning.trans (by decide +kernel), d, hd, hid, ?_, ?_⟩
  · rw [hpinned, Option.some.inj hpin]
  · rw [hdegree]
    decide +kernel

end Page
end NodeLink
