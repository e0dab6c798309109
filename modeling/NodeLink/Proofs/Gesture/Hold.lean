import NodeLink.Proofs.Gesture.Places
import NodeLink.Proofs.Gesture.Press
import NodeLink.Proofs.Gesture.View
/-!
# A dragged node stays where it was put

The pointer of a drag puts its node somewhere whenever it moves, and so does the wheel, which moves
the world under the pointer. In between the node stays there against everything else that goes on.
When the drag ends it is still there, and a node that is not pinned is free from then on.

* `Input.steered?`: the inputs that put a dragged node somewhere.
* `Underway.fixOf?_steer`, `fixOf?_run`: where it is put, and that it stays.
* `Undisturbed`, `placeOf?_run`: how long a node that is free keeps its place.
* `dragged_node_stays`: all this from any state of a drag.
-/

namespace NodeLink

namespace Input

variable {α : Type}

/-- Where on the page the input takes a node that the pointer drags, if it does. -/
def steered? (pointer : Int) : Input α → Option (Point α)
  | .move other place => if other = pointer then some place else none
  | .wheel place _ => some place
  | _ => none

def isTick : Input α → Bool
  | .operate op => op.isTick
  | _ => false

theorem spares_of_steered {i : Input α} {pointer : Int} {place : Point α}
    (h : i.steered? pointer = some place) : i.spares pointer = true := by
  cases i with
  | move | wheel => rfl
  | down | up | leave | operate => exact absurd h.symm (Option.some_ne_none place)

end Input

namespace GestureTracker

variable {α : Type} [Scalar α]

theorem sound_run {w : State α} (hw : w.2.holding.Sound) (inputs : List (Input α)) :
    (run w inputs).2.holding.Sound := by
  induction inputs generalizing w with
  | nil => exact hw
  | cons i rest ih => exact ih (sound_apply hw i)

theorem Reachable.sound {w : State α} (hw : Reachable w) : w.2.holding.Sound := by
  obtain ⟨settings, width, height, ratio, inputs, rfl⟩ := hw
  exact sound_run (Simulation.sound_new settings width height ratio) inputs

/-! ## While the drag lasts -/

namespace Underway

variable {pointer : Int} {id : String} {start place world : Point α} {moved : Bool} {w : State α}
  {i : Input α}

/-- The node is put to the world point that is under the pointer after the input. -/
theorem fixOf?_steer (hw : Underway pointer (.node id) start moved w)
    (hi : i.steered? pointer = some place) :
    (GestureTracker.apply w i).2.graph.fixOf? id =
      some ((GestureTracker.apply w i).2.viewport.pointerToWorld place) := by
  cases i with
  | move other spot =>
    obtain ⟨rfl, hspot⟩ := Option.ite_none_right_eq_some.mp hi
    obtain rfl := Option.some.inj hspot
    have hview : (w.2.dragTo (w.2.viewport.pointerToWorld spot)).1.viewport = w.2.viewport :=
      Simulation.viewport_of_outlook (Simulation.outlook_dragTo w.2 _)
    rw [hw.move_node]
    show (w.2.dragTo _).1.graph.fixOf? id = some ((w.2.dragTo _).1.viewport.pointerToWorld spot)
    rw [hview]
    exact Simulation.fixOf?_dragTo hw.sound hw.drag _
  | wheel spot deltaY =>
    obtain rfl := Option.some.inj hi
    let zoomed : Simulation α := { w.2 with viewport := w.2.viewport.wheel spot deltaY }
    have hzoomed : zoomed.holding.Sound := hw.sound
    have hview : (zoomed.dragTo (zoomed.viewport.pointerToWorld spot)).1.viewport =
        zoomed.viewport := Simulation.viewport_of_outlook (Simulation.outlook_dragTo zoomed _)
    rw [hw.wheel_node]
    show (zoomed.dragTo _).1.graph.fixOf? id =
      some ((zoomed.dragTo _).1.viewport.pointerToWorld spot)
    rw [hview]
    exact Simulation.fixOf?_dragTo hzoomed hw.drag _
  | down | up | leave | operate => exact absurd hi.symm (Option.some_ne_none place)

/-- Whatever the gesture outlasts leaves the node where it is, unless it puts it somewhere. -/
theorem fixOf?_apply (hw : Underway pointer (.node id) start moved w)
    (hfix : w.2.graph.fixOf? id = some world) (hi : i.spares pointer = true)
    (hstill : i.steered? pointer = none) :
    (GestureTracker.apply w i).2.graph.fixOf? id = some world := by
  cases i with
  | down other place =>
    rw [hw.apply_down]
    exact hfix
  | move other place =>
    have hother : other ≠ pointer := by
      rintro rfl
      rw [Input.steered?, if_pos rfl] at hstill
      exact absurd hstill (Option.some_ne_none place)
    rw [hw.apply_of_ne rfl hother]
    exact hfix
  | up other place =>
    rw [hw.apply_of_ne rfl (bne_iff_ne.mp hi)]
    exact hfix
  | leave other =>
    rw [hw.apply_of_ne rfl (bne_iff_ne.mp hi)]
    exact hfix
  | wheel place deltaY => exact absurd hstill (Option.some_ne_none place)
  | operate op =>
    obtain ⟨hload, hop⟩ := Bool.and_eq_true_iff.mp hi
    exact Simulation.fixOf?_apply hw.sound hw.drag hfix ((Bool.not_eq_true' _).mp hload)
      ((Bool.not_eq_true' _).mp hop)

theorem fixOf?_run (hw : Underway pointer (.node id) start moved w)
    (hfix : w.2.graph.fixOf? id = some world) {inputs : List (Input α)}
    (hinputs : ∀ i ∈ inputs, i.spares pointer = true ∧ i.steered? pointer = none) :
    (GestureTracker.run w inputs).2.graph.fixOf? id = some world := by
  induction inputs generalizing w moved with
  | nil => exact hfix
  | cons i rest ih =>
    obtain ⟨hspares, hstill⟩ := hinputs i List.mem_cons_self
    exact ih (hw.apply hspares) (hw.fixOf?_apply hfix hspares hstill)
      fun j hj => hinputs j (List.mem_cons_of_mem i hj)

/-- A release and a leave both drop the node, which is changed only if it is not pinned. -/
theorem node?_end (hw : Underway pointer (.node id) start moved w) {last : Input α}
    (hlast : last.ends pointer = true) :
    let ended := GestureTracker.apply w last
    ended.1.gesture = .idle ∧ ended.1.owner = none ∧ ended.2.dragging = none ∧
      ended.2.graph.node? id =
        (w.2.graph.node? id).map fun n => if n.pinned then n else n.release := by
  cases last with
  | up other place =>
    obtain rfl : other = pointer := beq_iff_eq.mp hlast
    let clicked : Simulation α := if moved then w.2 else (w.2.select id).1
    have hclicked : clicked.holding = w.2.holding := by
      unfold clicked
      split
      · rfl
      · exact Simulation.holding_select w.2 id
    have hsound : clicked.holding.Sound := by
      rw [hclicked]
      exact hw.sound
    rw [hw.up_node]
    refine ⟨rfl, rfl, Simulation.dragging_endDrag clicked, ?_⟩
    show clicked.endDrag.graph.node? id = _
    rw [Simulation.node?_endDrag hsound ((Simulation.dragging_of_holding hclicked).trans hw.drag),
      Simulation.graph_of_holding hclicked]
  | leave other =>
    obtain rfl : other = pointer := beq_iff_eq.mp hlast
    rw [hw.leave_node]
    exact ⟨rfl, rfl, Simulation.dragging_endDrag w.2, Simulation.node?_endDrag hw.sound hw.drag⟩
  | down | move | wheel | operate => exact absurd hlast Bool.false_ne_true

end Underway

/-! ## After the drag -/

/-- The node is not dragged, the layout makes no step and no graph is loaded. -/
def Undisturbed (id : String) (w : State α) : List (Input α) → Prop
  | [] => True
  | i :: rest => w.2.dragging ≠ some id ∧ i.loads = false ∧
    (i.isTick = true → w.2.running = false) ∧ Undisturbed id (apply w i) rest

theorem placeOf?_apply {w : State α} {id : String} (hs : w.2.holding.Sound)
    (hdrag : w.2.dragging ≠ some id) {i : Input α} (hload : i.loads = false)
    (hstill : i.isTick = true → w.2.running = false) :
    (apply w i).2.graph.placeOf? id = w.2.graph.placeOf? id := by
  by_cases hop : ∃ op, i = .operate op
  · obtain ⟨op, rfl⟩ := hop
    exact Simulation.placeOf?_apply hs hdrag hload hstill
  · cases touch w (not_exists.mp hop) with
    | keeps hholding => rw [Simulation.graph_of_holding hholding]
    | begins index _ hholding =>
      rw [Simulation.graph_of_holding hholding, Simulation.placeOf?_beginDrag hs index]
    | moves place hholding =>
      rw [Simulation.graph_of_holding hholding, Simulation.placeOf?_dragTo hs.indexed hdrag place]
    | ends hholding =>
      rw [Simulation.graph_of_holding hholding, Simulation.placeOf?_endDrag hs.indexed]

theorem placeOf?_run {w : State α} {id : String} (hs : w.2.holding.Sound) {inputs : List (Input α)}
    (h : Undisturbed id w inputs) : (run w inputs).2.graph.placeOf? id = w.2.graph.placeOf? id := by
  induction inputs generalizing w with
  | nil => rfl
  | cons i rest ih =>
    obtain ⟨hdrag, hload, hstill, hrest⟩ := h
    exact (ih (sound_apply hs i) hrest).trans (placeOf?_apply hs hdrag hload hstill)

/-! ## Main result -/

/-- In any state that is reached and has a node dragged, let the pointer of the drag move or the
wheel turn. From then on, until the pointer moves or the wheel turns again, whatever goes on
besides, short of a load, the node is fixed at the world point that was under the pointer, and
stands still there. And when the pointer ends the drag, a node that is pinned stays fixed there, and
another one is free, but in its place until the layout makes a step, it is dragged again or a graph
is loaded. -/
theorem dragged_node_stays {w : State α} (hw : Reachable w) {pointer : Int} {id : String}
    {start : Point α} {moved : Bool} (hgesture : w.1.gesture = .dragging id start moved)
    (howner : w.1.owner = some pointer) (hdrag : w.2.dragging = some id) {steer : Input α}
    {place : Point α} (hsteer : steer.steered? pointer = some place) {after : List (Input α)}
    (hafter : ∀ i ∈ after, i.spares pointer = true ∧ i.steered? pointer = none) :
    let world := (apply w steer).2.viewport.pointerToWorld place
    let now := run w (steer :: after)
    ∃ n, now.2.graph.node? id = some n ∧ n.HeldAt world ∧
      ∀ last, last.ends pointer = true →
        let ended := apply now last
        ended.1.gesture = .idle ∧ ended.2.dragging = none ∧
          ended.2.graph.node? id = some (if n.pinned then n else n.release) ∧
          ∀ later, Undisturbed id ended later →
            (run ended later).2.graph.placeOf? id = some world := by
  intro world now
  have hbefore : Underway pointer (.node id) start moved w := ⟨hw.sound, hgesture, howner, hdrag⟩
  have hput := hbefore.apply (Input.spares_of_steered hsteer)
  have hnow := hput.run fun i hi => (hafter i hi).1
  have hfix : now.2.graph.fixOf? id = some world :=
    hput.fixOf?_run (hbefore.fixOf?_steer hsteer) hafter
  obtain ⟨n, hn, hheld⟩ := Simulation.exists_heldAt hnow.sound hfix
  refine ⟨n, hn, hheld, fun last hlast => ?_⟩
  intro ended
  obtain ⟨hidle, -, hdropped, hended⟩ := hnow.node?_end hlast
  have hnode : ended.2.graph.node? id = some (if n.pinned then n else n.release) :=
    hended.trans (congrArg (Option.map _) hn)
  refine ⟨hidle, hdropped, hnode, fun later hlater => ?_⟩
  have hplace : (if n.pinned then n else n.release).position = world := by
    split
    · exact hheld.position
    · exact hheld.position
  have hsound : ended.2.holding.Sound := sound_apply hnow.sound last
  rw [placeOf?_run hsound hlater, Graph.placeOf?, hnode, Option.map_some, hplace]

/-- Frames until the hold of a hub has ended, with a pin and another pointer in between. -/
noncomputable def busyFrames : List (Input Exact) :=
  .operate .tick :: .operate (.togglePin "A") :: .down 2 ⟨436, 300⟩ :: .move 2 ⟨0, 0⟩ ::
    .operate (.select "A") :: List.replicate Simulation.hubHoldFrames (.operate .tick)

theorem spares_busyFrames :
    ∀ i ∈ busyFrames, i.spares 1 = true ∧ i.steered? 1 = none := by
  simp only [busyFrames, List.forall_mem_cons]
  refine ⟨⟨rfl, rfl⟩, ⟨rfl, rfl⟩, ⟨rfl, rfl⟩, ⟨rfl, rfl⟩, ⟨rfl, rfl⟩, fun i hi => ?_⟩
  rw [List.eq_of_mem_replicate hi]
  exact ⟨rfl, rfl⟩

/-- The hub, still held, is pressed, taken along and dropped, and the layout is paused. -/
theorem dragged_node_stays_loneState :
    let w := apply loneState (.down 1 ⟨400, 300⟩)
    let world := (apply w (.move 1 ⟨100, 200⟩)).2.viewport.pointerToWorld ⟨100, 200⟩
    let now := run w (.move 1 ⟨100, 200⟩ :: busyFrames)
    let ended := apply now (.up 1 ⟨100, 200⟩)
    Reachable w ∧ w.1.gesture = .dragging "A" ⟨400, 300⟩ false ∧ w.1.owner = some 1 ∧
      w.2.dragging = some "A" ∧ (∃ n, now.2.graph.node? "A" = some n ∧ n.HeldAt world) ∧
      ended.2.dragging = none ∧
      (run ended [.operate (.setRunning false), .operate .tick]).2.graph.placeOf? "A" =
        some world := by
  intro w world now ended
  have hw : Reachable w :=
    ⟨Settings.standard, 800, 600, 1, [.operate (.load loneRecord), .down 1 ⟨400, 300⟩], rfl⟩
  have hpressed := underway_loneState 1
  have hsteer : (.move 1 ⟨100, 200⟩ : Input Exact).steered? 1 = some ⟨100, 200⟩ := rfl
  obtain ⟨n, hn, hheld, hend⟩ := dragged_node_stays hw hpressed.gesture hpressed.owner hpressed.drag
    hsteer spares_busyFrames
  obtain ⟨-, hdropped, -, hlater⟩ := hend (.up 1 ⟨100, 200⟩) rfl
  have hpaused : Undisturbed "A" ended [.operate (.setRunning false), .operate .tick] := by
    have hpause : (ended.2.setRunning false).running = false := by
      unfold Simulation.setRunning
      split
      · assumption
      · rfl
    have hfree : (ended.2.setRunning false).dragging = none :=
      (Simulation.dragging_of_holding (Simulation.holding_setRunning _ _)).trans hdropped
    refine ⟨?_, rfl, nofun, ?_, rfl, fun _ => hpause, trivial⟩
    · exact fun h => Option.some_ne_none "A" (h.symm.trans hdropped)
    · exact fun h => Option.some_ne_none "A" (h.symm.trans hfree)
  exact ⟨hw, hpressed.gesture, hpressed.owner, hpressed.drag, ⟨n, hn, hheld⟩, hdropped,
    hlater _ hpaused⟩

end GestureTracker
end NodeLink
