import NodeLink.Proofs.Gesture.Press
/-!
# Clicks and drags

A press and its release are a click, unless the pointer has been too far away in between. A click
selects the node that was pressed; one that was beside all nodes selects what is under the pointer
at its release, or nothing. Otherwise the release leaves the selection alone. What else goes on
meanwhile has no part in it.

* `Simulation.Chooses`, `Clears`: what a click does to the selection, with its event.
* `Underway.released`: after a release there is neither a gesture nor a drag.
* `Underway.up_strayed`, `up_click_node`, `up_click_view`: the selection after the release.
* `click_or_drag`: all this for every press of a run.
-/

namespace NodeLink

namespace Simulation

variable {α : Type}

/-- A node is selected, with an event that says so, whatever was selected before. -/
def Chooses (s s' : Simulation α) (id : String) : Prop :=
  s'.selected = some id ∧ s'.events = s.events ++ [.selected id]

/-- Nothing is selected any more, with an event only if something was. -/
def Clears (s s' : Simulation α) : Prop :=
  s'.selected = none ∧
    s'.events = s.events ++ if s.selected.isSome then [.deselected] else []

/-- The selection is the same and no event is queued. -/
def Keeps (s s' : Simulation α) : Prop := s'.selected = s.selected ∧ s'.events = s.events

theorem clears_deselect (s : Simulation α) : s.Clears s.deselect := by
  unfold Clears deselect
  cases hs : s.selected with
  | none => exact ⟨hs, (List.append_nil _).symm⟩
  | some id => exact ⟨rfl, rfl⟩

theorem keeps_endDrag (s : Simulation α) : s.Keeps s.endDrag :=
  ⟨congrArg (fun o => o.2.2.1) (outline_endDrag s), congrArg (fun o => o.2.1) (outline_endDrag s)⟩

theorem Chooses.of_keeps {s s' s'' : Simulation α} {id : String} (h : s.Chooses s' id)
    (h' : s'.Keeps s'') : s.Chooses s'' id :=
  ⟨h'.1.trans h.1, h'.2.trans h.2⟩

variable [Scalar α]

theorem chooses_select {s : Simulation α} {id : String} (hid : s.graph.hasNode id = true) :
    s.Chooses (s.select id).1 id := by
  rw [select, if_pos hid]
  exact ⟨rfl, rfl⟩

/-- What a click on the canvas at a place does to the selection. -/
def Clicks (s s' : Simulation α) (place : Point α) : Prop :=
  match s.pick place with
  | some i => ∃ n, s.graph.nodes[i]? = some n ∧ s.Chooses s' n.id
  | none => s.Clears s'

end Simulation

namespace GestureTracker

variable {α : Type} [Scalar α]

namespace Underway

variable {pointer : Int} {grasp : Grasp α} {start : Point α} {moved : Bool} {w : State α}

theorem released (hw : Underway pointer grasp start moved w) (release : Point α) :
    let after := GestureTracker.apply w (.up pointer release)
    after.1.gesture = .idle ∧ after.1.owner = none ∧ after.2.dragging = none := by
  cases grasp with
  | node id =>
    rw [hw.up_node]
    exact ⟨rfl, rfl, Simulation.dragging_endDrag _⟩
  | view shift =>
    have hdrag : w.2.dragging = none := hw.drag
    rw [hw.up_view]
    refine ⟨rfl, rfl, ?_⟩
    dsimp only
    split
    · exact hdrag
    · split
      · exact (Simulation.dragging_of_holding (Simulation.holding_select _ _)).trans hdrag
      · exact (Simulation.dragging_of_holding (Simulation.holding_deselect _)).trans hdrag

theorem up_strayed (hw : Underway pointer grasp start true w) (release : Point α) :
    w.2.Keeps (GestureTracker.apply w (.up pointer release)).2 := by
  cases grasp with
  | node id =>
    rw [hw.up_node]
    exact Simulation.keeps_endDrag w.2
  | view shift =>
    rw [hw.up_view]
    exact ⟨rfl, rfl⟩

theorem up_click_node {id : String} (hw : Underway pointer (.node id) start false w)
    (release : Point α) : w.2.Chooses (GestureTracker.apply w (.up pointer release)).2 id := by
  rw [hw.up_node]
  exact (Simulation.chooses_select (hw.sound.dragged id hw.drag)).of_keeps
    (Simulation.keeps_endDrag _)

theorem up_click_view {shift : Point α} (hw : Underway pointer (.view shift) start false w)
    (release : Point α) : w.2.Clicks (GestureTracker.apply w (.up pointer release)).2 release := by
  rw [hw.up_view, Simulation.Clicks]
  cases hpick : w.2.pick release with
  | none => exact Simulation.clears_deselect w.2
  | some i =>
    obtain ⟨n, hn⟩ := Simulation.exists_of_pick hpick
    have hid : w.2.graph.idAt? i = some n.id := congrArg (Option.map Node.id) hn
    refine ⟨n, hn, ?_⟩
    simp only [Bool.false_eq_true, if_false, Option.bind_some, hid]
    exact Simulation.chooses_select
      ((hw.sound.indexed.hasNode_iff n.id).mpr ⟨n, Array.mem_of_getElem? hn, rfl⟩)

end Underway

/-- Take a press when no gesture is under way, and its release, with anything in between but a load
and a leave of the same pointer. Then no gesture is left and nothing is dragged. If the pointer has
been farther from the press than a click may be, then, wherever it was released, the release has
selected and deselected nothing. If it has not, the release has selected the pressed node; and if
none was pressed, what is under the pointer at the release, or nothing. -/
theorem click_or_drag (settings : Settings α) (width height ratio : α) {past : List (Input α)}
    (hpast : ∀ i ∈ past, i.isDrag = false) :
    let w := run (new settings.interaction, Simulation.new settings width height ratio) past
    w.1.gesture = .idle → ∀ (pointer : Int) (place release : Point α) (during : List (Input α)),
      (∀ i ∈ during, i.spares pointer = true) →
      let slop := settings.interaction.sanitized.clickSlop
      let before := run w (.down pointer place :: during)
      let after := apply before (.up pointer release)
      (after.1.gesture = .idle ∧ after.1.owner = none ∧ after.2.dragging = none) ∧
      ((∃ i ∈ during, i.strays slop pointer place = true) → before.2.Keeps after.2) ∧
      ((∀ i ∈ during, i.strays slop pointer place = false) →
        (∀ i, w.2.pick place = some i →
          ∃ n, w.2.graph.nodes[i]? = some n ∧ before.2.Chooses after.2 n.id) ∧
        (w.2.pick place = none → before.2.Clicks after.2 release)) := by
  intro w hidle pointer place release during hduring slop before after
  have hw : Coupled w := coupled_run (coupled_new _ settings width height ratio) hpast
  have hslop : w.1.settings.clickSlop = slop :=
    congrArg GestureSettings.clickSlop (settings_run _ past)
  obtain ⟨hnode, hview⟩ := underway_press hw hidle hduring
  rw [hslop] at hnode hview
  have hgrasp : ∃ grasp : Grasp α,
      Underway pointer grasp place (during.any (Input.strays slop pointer place)) before := by
    cases hpick : w.2.pick place with
    | none => exact ⟨_, hview hpick⟩
    | some i =>
      obtain ⟨n, -, hpressed⟩ := hnode i hpick
      exact ⟨_, hpressed⟩
  obtain ⟨grasp, hbefore⟩ := hgrasp
  refine ⟨hbefore.released release, fun hfar => ?_, fun hnear => ?_⟩
  · rw [List.any_eq_true.mpr hfar] at hbefore
    exact hbefore.up_strayed release
  · have hclose : during.any (Input.strays slop pointer place) = false :=
      List.any_eq_false.mpr fun i hi => Bool.eq_false_iff.mp (hnear i hi)
    rw [hclose] at hnode hview
    refine ⟨fun i hpick => ?_, fun hpick => (hview hpick).up_click_view release⟩
    obtain ⟨n, hn, hpressed⟩ := hnode i hpick
    exact ⟨n, hn, hpressed.up_click_node release⟩

open Exact

/-- Movements as far as a click may go, while another pointer, a frame and a pin come in
between. -/
noncomputable def jitter : List (Input Exact) :=
  [.move 1 ⟨401, 301⟩, .down 2 ⟨0, 0⟩, .move 2 ⟨0, 0⟩, .operate .tick, .operate (.togglePin "A"),
    .up 2 ⟨0, 0⟩, .move 1 ⟨400, 298⟩]

/-- A movement farther than that, and one back. -/
noncomputable def outAndBack : List (Input Exact) := [.move 1 ⟨430, 300⟩, .move 1 ⟨400, 300⟩]

theorem click_or_drag_loneState :
    let slop : Exact := (Settings.standard : Settings Exact).interaction.sanitized.clickSlop
    let clicked := run loneState (.down 1 ⟨400, 300⟩ :: jitter)
    let swept := run loneState (.down 1 ⟨400, 300⟩ :: outAndBack)
    (∀ i ∈ jitter, i.strays slop 1 ⟨400, 300⟩ = false) ∧
      clicked.2.Chooses (apply clicked (.up 1 ⟨401, 300⟩)).2 "A" ∧
      (∃ i ∈ outAndBack, i.strays slop 1 ⟨400, 300⟩ = true) ∧
      swept.2.Keeps (apply swept (.up 1 ⟨400, 300⟩)).2 := by
  intro slop clicked swept
  have hslop : slop = real 2 := by
    simp [slop, Settings.standard, GestureSettings.sanitized, GestureSettings.standard]
  have hnear : ∀ i ∈ jitter, i.strays slop 1 ⟨400, 300⟩ = false := by
    simp only [jitter, hslop, List.forall_mem_cons, Input.strays, Point.travel, literal_eq,
      real_sub, abs_real, real_add, real_lt]
    norm_num
  have hfar : ∃ i ∈ outAndBack, i.strays slop 1 ⟨400, 300⟩ = true := by
    refine ⟨_, List.mem_cons_self, ?_⟩
    simp only [hslop, Input.strays, Point.travel, literal_eq, real_sub, abs_real, real_add, real_lt]
    norm_num
  obtain ⟨n, hnodes, hid, -, -⟩ := exists_nodes_loneState
  have hpast : ∀ i ∈ [(.operate (.load loneRecord) : Input Exact)], i.isDrag = false := by decide
  have hclick := (click_or_drag Settings.standard 800 600 1 hpast rfl 1 ⟨400, 300⟩ ⟨401, 300⟩
    jitter (by decide)).2.2 hnear
  obtain ⟨n', hn', hchosen⟩ := hclick.1 0 pick_loneState
  have hkept := (click_or_drag Settings.standard 800 600 1 hpast rfl 1 ⟨400, 300⟩ ⟨400, 300⟩
    outAndBack (by decide)).2.1 hfar
  have hn : loneState.2.graph.nodes[0]? = some n' := hn'
  rw [hnodes] at hn
  obtain rfl : n = n' := Option.some.inj hn
  exact ⟨hnear, hid ▸ hchosen, hfar, hkept⟩

end GestureTracker
end NodeLink
