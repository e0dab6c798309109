import NodeLink.Page.Ui
import NodeLink.Proofs.Gesture.History
import NodeLink.Proofs.Simulation.EventLog
import NodeLink.Proofs.Simulation.Panels
import NodeLink.Proofs.Simulation.References
import NodeLink.Proofs.Widget.Calls
/-!
# What is shown between frames

The panel and the state of the layout are brought up to date only when the events of a frame are
taken in, and each event is then answered from a simulation that has long gone on. In the meantime
the events still queued account for every difference between what is shown and what is the case.

* `Ui.Follows`: what is shown follows the simulation, but for the events still to come.
* `Follows.apply`: an operation queues the events for what it makes stale.
* `Follows.takeIn`, `Follows.takeInAll`: taking in an event settles what the event is about.
-/

namespace NodeLink

/-! ## What events settle -/

namespace Knowledge

/-- Every event settles this part of the knowledge or does not touch it. -/
def Settled {β : Type} (f : Knowledge → β) : Prop :=
  ∀ e, (∃ x, ∀ k : Knowledge, f (k.hear e) = x) ∨ ∀ k : Knowledge, f (k.hear e) = f k

theorem settled_selected : Settled selected := by
  intro e
  cases e with
  | selected id => exact .inl ⟨some id, fun _ => rfl⟩
  | deselected => exact .inl ⟨none, fun _ => rfl⟩
  | _ => exact .inr fun _ => rfl

theorem settled_running : Settled running := by
  intro e
  cases e with
  | runningChanged running => exact .inl ⟨running, fun _ => rfl⟩
  | _ => exact .inr fun _ => rfl

theorem Settled.foldl {β : Type} {f : Knowledge → β} (hf : Settled f) (events : List Event) :
    (∃ x, ∀ k, f (events.foldl hear k) = x) ∨ ∀ k, f (events.foldl hear k) = f k := by
  induction events with
  | nil => exact .inr fun _ => rfl
  | cons e rest ih =>
    rcases ih with ⟨x, hx⟩ | hrest
    · exact .inl ⟨x, fun k => hx (k.hear e)⟩
    · rcases hf e with ⟨x, hx⟩ | he
      · exact .inl ⟨x, fun k => (hrest (k.hear e)).trans (hx k)⟩
      · exact .inr fun k => (hrest (k.hear e)).trans (he k)

theorem Settled.congr {β : Type} {f : Knowledge → β} (hf : Settled f) {k k' : Knowledge}
    (h : f k = f k') (events : List Event) :
    f (events.foldl hear k) = f (events.foldl hear k') := by
  rcases hf.foldl events with ⟨x, hx⟩ | hkept
  · rw [hx, hx]
  · rw [hkept, hkept, h]

end Knowledge

namespace Event

/-- Whether the panel of a node is made anew or taken away when the event is taken in. -/
def renews (id : String) : Event → Bool
  | .selected _ => true
  | .deselected => true
  | .pinChanged other _ => other == id
  | _ => false

/-- Whether the results of a search are cleared when the event is taken in. -/
def clears : Event → Bool
  | .loaded _ _ => true
  | _ => false

end Event

theorem Knowledge.selected_of_unrenewed {events : List Event} {id : String}
    (h : ∀ e ∈ events, e.renews id = false) (k : Knowledge) :
    (events.foldl hear k).selected = k.selected := by
  induction events generalizing k with
  | nil => rfl
  | cons e rest ih =>
    have hrest : (rest.foldl hear (k.hear e)).selected = (k.hear e).selected :=
      ih (fun e' he' => h e' (List.mem_cons_of_mem e he')) _
    have he : e.renews id = false := h e List.mem_cons_self
    refine hrest.trans ?_
    cases e with
    | selected | deselected => exact absurd he.symm Bool.false_ne_true
    | _ => rfl

/-! ## Hosts that are asked -/

namespace Widget

variable {α : Type} [Scalar α]

/-- To ask the host about nodes does not change the simulation, whatever the host has noted. -/
def Discreet (w : Widget α) : Prop :=
  ∀ (handlers : List Handler) (hostLog : List HostCall) (id : String),
    ({ w with handlers := handlers, hostLog := hostLog }.detail id).1.simulation = w.simulation

/-- A widget that asks its host stays what it is but for its simulation and the host's notes. -/
theorem exists_detail (w : Widget α) (id : String) : ∃ s handlers hostLog,
    (w.detail id).1 = { w with simulation := s, handlers := handlers, hostLog := hostLog } := by
  have hlasting : Lasting fun w' : Widget α => ∃ s handlers hostLog,
      w' = { w with simulation := s, handlers := handlers, hostLog := hostLog } := by
    refine ⟨?_, ?_, ?_⟩
    · rintro w' op - ⟨s, handlers, hostLog, rfl⟩
      exact ⟨s.apply op, handlers, hostLog, rfl⟩
    · rintro w' c ⟨s, handlers, hostLog, rfl⟩
      exact ⟨s, handlers, hostLog ++ [c], rfl⟩
    · rintro w' more ⟨s, handlers, hostLog, rfl⟩
      exact ⟨s, handlers ++ more, hostLog, rfl⟩
  exact hlasting.detail ⟨w.simulation, w.handlers, w.hostLog, rfl⟩ id

theorem Discreet.detail {w : Widget α} (hw : w.Discreet) (id : String) :
    (w.detail id).1.Discreet ∧ (w.detail id).1.simulation = w.simulation := by
  have hsame : (w.detail id).1.simulation = w.simulation := hw w.handlers w.hostLog id
  obtain ⟨s, handlers, hostLog, hafter⟩ := w.exists_detail id
  rw [hafter] at hsame ⊢
  have hs : s = w.simulation := hsame
  subst hs
  exact ⟨hw, rfl⟩

/-- The panel comes from the graph as it is after the host was asked. -/
theorem exists_extra (w : Widget α) (id : String) : ∃ extra, (w.detail id).2 =
    ((w.detail id).1.simulation.graph.indexOf? id).bind fun i =>
      Panel.of? (w.detail id).1.simulation.graph i extra := ⟨_, rfl⟩

end Widget

namespace Ui

/-! ## What is shown -/

/-- What one who looks at the panel and the toolbar knows. -/
def known (ui : Ui) : Knowledge := { selected := ui.panel.map Panel.id, running := ui.running }

/-- What is shown of the simulation. -/
def shown (ui : Ui) : Option Panel × Bool × List SearchHit := (ui.panel, ui.running, ui.results)

variable {α : Type} {ui ui' : Ui} {events : List Event} {s : Simulation α}

/-- What is shown, with the events still to be taken in, tells what is selected and whether the
layout runs. The panel is right unless an event to come renews it, and the results name nodes of the
graph unless an event to come clears them. -/
structure Follows (ui : Ui) (events : List Event) (s : Simulation α) : Prop where
  selected : (events.foldl Knowledge.hear ui.known).selected = s.selected
  running : (events.foldl Knowledge.hear ui.known).running = s.running
  panel : ∀ d, ui.panel = some d → (∀ e ∈ events, e.renews d.id = false) → d.Fits s.graph
  results : (∀ e ∈ events, e.clears = false) → ∀ hit ∈ ui.results, s.graph.hasNode hit.id = true

theorem Follows.congr (h : ui.Follows events s) (hshown : ui'.shown = ui.shown) :
    ui'.Follows events s := by
  obtain ⟨hpanel, hrest⟩ := Prod.mk.inj hshown
  obtain ⟨hrunning, hresults⟩ := Prod.mk.inj hrest
  have hknown : ui'.known = ui.known := by rw [known, hpanel, hrunning, ← known]
  refine ⟨?_, ?_, ?_, ?_⟩
  · rw [hknown]
    exact h.selected
  · rw [hknown]
    exact h.running
  · rw [hpanel]
    exact h.panel
  · rw [hresults]
    exact h.results

theorem shown_fireDue (ui : Ui) (now : Nat) : (ui.fireDue now).1.shown = ui.shown := by
  have hexpire (serials : List Nat) (ui : Ui) : (serials.foldl expire ui).shown = ui.shown := by
    induction serials generalizing ui with
    | nil => rfl
    | cons n rest ih =>
      rw [List.foldl_cons, ih]
      unfold expire
      split
      · rfl
      · rfl
  exact hexpire _ _

theorem hasNode_search {w : Widget α} (hw : w.simulation.graph.Indexed) (query : String)
    {hit : SearchHit} (hhit : hit ∈ w.search query) :
    w.simulation.graph.hasNode hit.id = true := by
  obtain ⟨n, hn, rfl⟩ := List.mem_map.mp hhit
  obtain ⟨i, -, hi⟩ := List.mem_filterMap.mp hn
  exact (hw.hasNode_iff _).mpr ⟨n, Array.mem_of_getElem? hi, rfl⟩

/-- A search is made in the graph there is. -/
theorem Follows.search {w : Widget α} (h : ui.Follows events w.simulation)
    (hw : w.simulation.graph.Indexed) (query : String) :
    { ui with results := w.search query, query := query }.Follows events w.simulation :=
  ⟨h.selected, h.running, h.panel, fun _ _ hhit => hasNode_search hw query hhit⟩

variable [Scalar α]

/-! ## Operations -/

theorem renews_of_load (hselected : s.selected.isSome = true) (raw : Json) (id : String) :
    ∃ e ∈ (s.load raw).events, e.renews id = true := by
  refine ⟨.deselected, ?_, rfl⟩
  rw [Simulation.events_load, Simulation.deselect]
  obtain ⟨old, hold⟩ := Option.isSome_iff_exists.mp hselected
  rw [hold]
  exact List.mem_append_left _ (List.mem_append_right _ List.mem_cons_self)

theorem clears_of_load (s : Simulation α) (raw : Json) :
    ∃ e ∈ (s.load raw).events, e.clears = true := by
  rw [Simulation.events_load]
  exact ⟨_, List.mem_append_right _ List.mem_cons_self, rfl⟩

theorem renews_of_togglePin {id : String} {n : Node α} (hn : s.graph.node? id = some n) :
    ∃ e ∈ (s.togglePin id).1.events, e.renews id = true := by
  refine ⟨.pinChanged id !n.pinned, ?_, beq_self_eq_true id⟩
  unfold Simulation.togglePin
  rw [hn]
  exact List.mem_append_left _ (List.mem_append_right _ List.mem_cons_self)

/-- Whatever an operation makes stale it queues an event for. -/
theorem Follows.apply (h : ui.Follows s.events s) (hs : s.Anchored) {op : Operation α}
    (hop : op ≠ .drain) : ui.Follows (s.apply op).events (s.apply op) := by
  have hindexed : s.graph.Indexed := hs.closed.built.indexed
  obtain ⟨news, hevents, htold⟩ := Simulation.reports_apply hindexed hop
  have hearlier {e : Event} (he : e ∈ s.events) : e ∈ (s.apply op).events := by
    rw [hevents]
    exact List.mem_append_left news he
  refine ⟨?_, ?_, fun d hd hunrenewed => ?_, fun huncleared hit hhit => ?_⟩
  · have hheard : (s.events.foldl Knowledge.hear ui.known).selected = s.told.selected := h.selected
    rw [hevents, List.foldl_append, Knowledge.settled_selected.congr hheard, htold]
    rfl
  · have hheard : (s.events.foldl Knowledge.hear ui.known).running = s.told.running := h.running
    rw [hevents, List.foldl_append, Knowledge.settled_running.congr hheard, htold]
    rfl
  · have hbefore : ∀ e ∈ s.events, e.renews d.id = false := fun e he => hunrenewed e (hearlier he)
    have hfits : d.Fits s.graph := h.panel d hd hbefore
    have hnone (hrenewed : ∃ e ∈ (s.apply op).events, e.renews d.id = true) : False := by
      obtain ⟨e, he, hrenews⟩ := hrenewed
      exact Bool.false_ne_true ((hunrenewed e he).symm.trans hrenews)
    cases hl : op.loads with
    | true =>
      -- nothing to come renews the panel, so its node is still selected, and a load deselects it
      have hselected : s.selected = some d.id := by
        rw [← h.selected, Knowledge.selected_of_unrenewed hbefore, known, hd]
        rfl
      obtain ⟨raw, hraw⟩ := Simulation.apply_of_loads hl
      refine absurd ?_ hnone
      rw [hraw]
      exact renews_of_load (Option.isSome_iff_exists.mpr ⟨d.id, hselected⟩) raw d.id
    | false =>
      refine hfits.apply hindexed hl fun hpin => hnone ?_
      obtain ⟨i, n, hi, hn, -⟩ := hfits.says
      have hnode : s.graph.node? d.id = some n := by rw [Graph.node?, hi, Option.bind_some, hn]
      rw [hpin]
      exact renews_of_togglePin hnode
  · cases hl : op.loads with
    | true =>
      obtain ⟨raw, hraw⟩ := Simulation.apply_of_loads hl
      obtain ⟨e, he, hclears⟩ := clears_of_load s raw
      rw [hraw] at huncleared
      exact absurd ((huncleared e he).symm.trans hclears) Bool.false_ne_true
    | false =>
      rw [Graph.hasNode_of_shape (s.shape_apply hl)]
      exact h.results (fun e he => huncleared e (hearlier he)) hit hhit

/-- A simulation whose state is shown as far as its events have been taken in. -/
def Tracks (ui : Ui) (s : Simulation α) : Prop := s.Anchored ∧ ui.Follows s.events s

theorem lasting_tracks (ui : Ui) : GestureTracker.Lasting fun s : Simulation α => ui.Tracks s := by
  refine ⟨fun s op hop h => ⟨Simulation.anchored_apply h.1 op, h.2.apply h.1 hop⟩, fun s m h => ?_⟩
  have hanchored : { s with viewport := s.viewport.perform m }.Anchored :=
    h.1.of_shape rfl rfl h.1.selected
  exact ⟨hanchored, h.2.selected, h.2.running, h.2.panel, h.2.results⟩

/-! ## Taking in events -/

variable {w : Widget α} {e : Event} {rest : List Event}

/-- The panel of a node is shown that is selected when the event is heard. If there is no such node
any more, something else has been selected since, or nothing, and an event to come tells so. -/
theorem Follows.showPanel (h : ui.Follows (e :: rest) w.simulation) (hs : w.simulation.Anchored)
    (hw : w.Discreet) {id : String} (hid : (ui.known.hear e).selected = some id)
    (hrunning : (ui.known.hear e).running = ui.running) (hclears : e.clears = false) :
    (Ui.showPanel w ui id).2.Follows rest w.simulation := by
  obtain ⟨extra, hpanel⟩ := w.exists_extra id
  rw [(hw.detail id).2] at hpanel
  have hheard : (rest.foldl Knowledge.hear (ui.known.hear e)).selected = w.simulation.selected :=
    h.selected
  have hruns : (rest.foldl Knowledge.hear { ui with panel := (w.detail id).2 }.known).running =
      w.simulation.running :=
    (Knowledge.settled_running.congr hrunning.symm rest).trans h.running
  have hresults : (∀ e ∈ rest, e.clears = false) →
      ∀ hit ∈ ui.results, w.simulation.graph.hasNode hit.id = true := fun huncleared =>
    h.results (List.forall_mem_cons.mpr ⟨hclears, huncleared⟩)
  show { ui with panel := (w.detail id).2 }.Follows rest w.simulation
  cases hi : w.simulation.graph.indexOf? id with
  | none =>
    rw [hi, Option.bind_none] at hpanel
    refine ⟨?_, hruns, fun d hd => ?_, hresults⟩
    · rcases Knowledge.settled_selected.foldl rest with ⟨x, hx⟩ | hkept
      · rw [hx, ← hx (ui.known.hear e)]
        exact hheard
      · have hselected : w.simulation.selected = some id := by rw [← hheard, hkept, hid]
        have hnode : w.simulation.graph.hasNode id = true := hs.selected id hselected
        rw [Graph.hasNode, hi] at hnode
        exact absurd hnode Bool.false_ne_true
    · rw [show (w.detail id).2 = none from hpanel] at hd
      exact absurd hd.symm (Option.some_ne_none d)
  | some i =>
    obtain ⟨d, hof, hdid, hfits⟩ := Panel.exists_of? hs.closed.built.indexed hi extra
    have hd : (w.detail id).2 = some d := by rw [hpanel, hi, Option.bind_some, hof]
    rw [hd] at hruns ⊢
    refine ⟨?_, hruns, fun d' hd' _ => ?_, hresults⟩
    · have hsame : ({ ui with panel := some d }.known).selected = (ui.known.hear e).selected := by
        rw [hid, ← hdid]
        rfl
      exact (Knowledge.settled_selected.congr hsame rest).trans hheard
    · rw [← Option.some.inj hd']
      exact hfits

theorem exists_of_shows {id : String} (h : ui.shows id = true) :
    ∃ d, ui.panel = some d ∧ d.id = id := by
  cases hd : ui.panel with
  | none =>
    rw [shows, hd] at h
    exact absurd h Bool.false_ne_true
  | some d =>
    rw [shows, hd] at h
    exact ⟨d, rfl, eq_of_beq h⟩

/-- To take in an event is to catch up with it. -/
theorem Follows.takeIn (h : ui.Follows (e :: rest) w.simulation) (hs : w.simulation.Anchored)
    (hw : w.Discreet) (now : Nat) :
    (Ui.takeIn now w ui e).1.Discreet ∧ (Ui.takeIn now w ui e).1.simulation = w.simulation ∧
      (Ui.takeIn now w ui e).2.Follows rest w.simulation := by
  have hselected (hkept : ui.known.selected = (ui.known.hear e).selected) :
      (rest.foldl Knowledge.hear ui.known).selected = w.simulation.selected :=
    (Knowledge.settled_selected.congr hkept rest).trans h.selected
  have hrunning (hkept : ui.known.running = (ui.known.hear e).running) :
      (rest.foldl Knowledge.hear ui.known).running = w.simulation.running :=
    (Knowledge.settled_running.congr hkept rest).trans h.running
  have hpanel (hrenews : ∀ d, ui.panel = some d → e.renews d.id = false) (d : Panel)
      (hd : ui.panel = some d) (hrest : ∀ e' ∈ rest, e'.renews d.id = false) :
      d.Fits w.simulation.graph :=
    h.panel d hd (List.forall_mem_cons.mpr ⟨hrenews d hd, hrest⟩)
  have hresults (hclears : e.clears = false) (hrest : ∀ e' ∈ rest, e'.clears = false) :
      ∀ hit ∈ ui.results, w.simulation.graph.hasNode hit.id = true :=
    h.results (List.forall_mem_cons.mpr ⟨hclears, hrest⟩)
  cases e with
  | loaded nodes links =>
    exact ⟨hw, rfl, hselected rfl, hrunning rfl, hpanel fun _ _ => rfl,
      fun _ _ hhit => absurd hhit List.not_mem_nil⟩
  | selected id =>
    obtain ⟨hdiscreet, hsame⟩ := hw.detail id
    exact ⟨hdiscreet, hsame, h.showPanel hs hw rfl rfl rfl⟩
  | deselected =>
    exact ⟨hw, rfl, h.selected, h.running, fun d hd => absurd hd.symm (Option.some_ne_none d),
      hresults rfl⟩
  | pinChanged id pinned =>
    unfold Ui.takeIn
    dsimp only
    split
    · next hshows =>
      obtain ⟨hdiscreet, hsame⟩ := hw.detail id
      refine ⟨hdiscreet, hsame, h.showPanel hs hw ?_ rfl rfl⟩
      obtain ⟨d, hd, hid⟩ := exists_of_shows hshows
      show ui.panel.map Panel.id = some id
      rw [hd, Option.map_some, hid]
    · next hother =>
      refine ⟨hw, rfl, hselected rfl, hrunning rfl, hpanel fun d hd => ?_, hresults rfl⟩
      rw [shows, hd, Option.map_some, Option.getD_some, Bool.not_eq_true] at hother
      exact BEq.comm.trans hother
  | runningChanged running =>
    exact ⟨hw, rfl, h.selected, h.running, hpanel fun _ _ => rfl, hresults rfl⟩
  | toast message =>
    exact ⟨hw, rfl, h.selected, h.running, hpanel fun _ _ => rfl, hresults rfl⟩

theorem Follows.takeInAll (h : ui.Follows events w.simulation) (hs : w.simulation.Anchored)
    (hw : w.Discreet) (now : Nat) :
    (Ui.takeInAll now w ui events).1.simulation = w.simulation ∧
      (Ui.takeInAll now w ui events).2.Follows [] w.simulation := by
  induction events generalizing w ui with
  | nil => exact ⟨rfl, h⟩
  | cons e rest ih =>
    obtain ⟨hdiscreet, hsame, hfollows⟩ := h.takeIn hs hw now
    rw [← hsame] at hs hfollows
    obtain ⟨hall, hend⟩ := ih hfollows hs hdiscreet
    rw [hsame] at hall hend
    exact ⟨hall, hend⟩

end Ui
end NodeLink
