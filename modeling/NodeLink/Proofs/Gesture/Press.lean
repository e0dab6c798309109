import NodeLink.Proofs.Gesture.Bystanders
import NodeLink.Proofs.Gesture.Coupling
import NodeLink.Proofs.Gesture.View
/-!
# Gestures under way

From its press to its end a gesture keeps what it has taken hold of, where it began and whose it is;
all that changes is whether its pointer has moved, and once it has, it has for good. Neither other
pointers nor what goes on in the simulation have a part in this.

* `Input.spares`: the inputs that a gesture outlasts.
* `Grasp`, `Underway`: what a press has taken hold of, and a state of its gesture.
* `Underway.run`: the gesture after any inputs that it outlasts.
* `underway_down`, `underway_press`: the gesture that a press begins, at once and later.
* `underway_loneState`: a press in the middle of the canvas takes hold of the node there.
-/

namespace NodeLink

namespace Input

variable {α : Type} [Scalar α]

/-- Whether the gesture of a pointer outlasts the input: it is no release and no leave of that
pointer, no load, and no drag that is not done by pointers. -/
def spares (pointer : Int) : Input α → Bool
  | .up other _ | .leave other => other != pointer
  | .operate op => !op.loads && !op.isDrag
  | .down _ _ | .move _ _ | .wheel _ _ => true

/-- Whether the input ends the gesture of a pointer. -/
def ends (pointer : Int) : Input α → Bool
  | .up other _ | .leave other => other == pointer
  | _ => false

/-- Whether the pointer moves to where it is farther from `start` than a click may be. -/
def strays (slop : α) (pointer : Int) (start : Point α) : Input α → Bool
  | .move other place => other == pointer && decide (slop < start.travel place)
  | _ => false

end Input

/-! ## What is pressed -/

section

variable {α : Type} [Scalar α]

theorem betterHit_cases {p : Point α} {slop : α} {best : Option (Nat × α)} {entry : Node α × Nat}
    {hit : Nat × α} (h : betterHit p slop best entry = some hit) :
    best = some hit ∨ hit.1 = entry.2 := by
  unfold betterHit at h
  split at h
  · exact .inl h
  · exact .inr (congrArg Prod.fst (Option.some.inj h)).symm
  · split at h
    · exact .inr (congrArg Prod.fst (Option.some.inj h)).symm
    · exact .inl h

theorem foldl_betterHit {p : Point α} {slop : α} (entries : List (Node α × Nat))
    {best : Option (Nat × α)} {hit : Nat × α}
    (h : entries.foldl (betterHit p slop) best = some hit) :
    best = some hit ∨ ∃ n, (n, hit.1) ∈ entries := by
  induction entries generalizing best with
  | nil => exact .inl h
  | cons entry rest ih =>
    rcases ih h with hbest | ⟨n, hn⟩
    · rcases betterHit_cases hbest with hold | hnew
      · exact .inl hold
      · refine .inr ⟨entry.1, ?_⟩
        rw [hnew]
        exact List.mem_cons_self
    · exact .inr ⟨n, List.mem_cons_of_mem entry hn⟩

/-- What is picked is a node of the graph. -/
theorem Simulation.exists_of_pick {s : Simulation α} {place : Point α} {i : Nat}
    (h : s.pick place = some i) : ∃ n, s.graph.nodes[i]? = some n := by
  obtain ⟨⟨_, d⟩, hfold, rfl⟩ := Option.map_eq_some_iff.mp h
  rcases foldl_betterHit _ hfold with hnone | ⟨n, hn⟩
  · exact absurd hnone.symm (Option.some_ne_none _)
  · refine ⟨n, ?_⟩
    rw [← Array.getElem?_toList]
    exact List.mem_zipIdx_iff_getElem?.mp hn

end

/-- What a press takes hold of: a node, or the view at its shift. -/
inductive Grasp (α : Type) where
  | node (id : String)
  | view (shift : Point α)

namespace Grasp

variable {α : Type}

def gesture (start : Point α) (moved : Bool) : Grasp α → Gesture α
  | .node id => .dragging id start moved
  | .view shift => .panning start shift moved

def dragged : Grasp α → Option String
  | .node id => some id
  | .view _ => none

theorem isIdle_gesture (grasp : Grasp α) (start : Point α) (moved : Bool) :
    (grasp.gesture start moved).isIdle = false := by
  cases grasp with
  | node | view => rfl

end Grasp

namespace GestureTracker

variable {α : Type} [Scalar α]

/-- The gesture of a pointer that has pressed at `start`. -/
structure Underway (pointer : Int) (grasp : Grasp α) (start : Point α) (moved : Bool)
    (w : State α) : Prop where
  sound : w.2.holding.Sound
  gesture : w.1.gesture = grasp.gesture start moved
  owner : w.1.owner = some pointer
  drag : w.2.dragging = grasp.dragged

theorem settings_apply (w : State α) (i : Input α) : (apply w i).1.settings = w.1.settings := by
  obtain ⟨t, s⟩ := w
  cases i with
  | down pointer place =>
    simp only [apply, down]
    split
    · rfl
    · split
      · rfl
      · split
        · rfl
        · rfl
  | move pointer place =>
    simp only [apply, move]
    split
    · rfl
    · split
      · rfl
      · split
        · rfl
        · rfl
      · rfl
  | up pointer place =>
    simp only [apply, up]
    split
    · rfl
    · split
      · rfl
      · rfl
      · rfl
      · split
        · rfl
        · rfl
  | leave pointer =>
    simp only [apply, leave]
    split
    · rfl
    · rfl
  | wheel place deltaY =>
    simp only [apply, wheel]
    split
    · rfl
    · rfl
  | operate op => rfl

theorem settings_run (w : State α) (inputs : List (Input α)) :
    (run w inputs).1.settings = w.1.settings := by
  induction inputs generalizing w with
  | nil => rfl
  | cons i rest ih => exact (ih (apply w i)).trans (settings_apply w i)

namespace Underway

variable {pointer : Int} {grasp : Grasp α} {start : Point α} {moved : Bool} {w : State α}

/-- What another pointer does is passed over. -/
theorem apply_of_ne (hw : Underway pointer grasp start moved w) {i : Input α} {other : Int}
    (hi : i.pointer? = some other) (hother : other ≠ pointer) : apply w i = w := by
  apply apply_of_outside
  have hforeign : (w.1.owner != some other) = true := by
    rw [hw.owner, bne_iff_ne]
    exact fun h => hother (Option.some.inj h).symm
  rw [isOutside, hw.gesture, grasp.isIdle_gesture, hi, Option.any_some, hforeign, Bool.or_true]
  rfl

theorem apply_down (hw : Underway pointer grasp start moved w) (other : Int) (place : Point α) :
    apply w (.down other place) = w := by
  refine apply_of_outside ?_
  rw [isOutside, hw.gesture, grasp.isIdle_gesture]
  rfl

theorem isForeign (hw : Underway pointer grasp start moved w) :
    w.1.isForeign pointer = false := by
  rw [GestureTracker.isForeign, hw.owner, bne_self_eq_false, Bool.and_false]

/-- What is dragged is a node, so a movement of the pointer takes it along. -/
theorem move_node {id : String} (hw : Underway pointer (.node id) start moved w)
    (place : Point α) :
    let dragged := (w.2.dragTo (w.2.viewport.pointerToWorld place)).1
    apply w (.move pointer place) =
      ({ w.1 with gesture := .dragging id start (moved || w.1.travelled start place) },
        dragged.setHover (dragged.graph.indexOf? id)) := by
  have hforeign := hw.isForeign
  obtain ⟨t, s⟩ := w
  have hgesture : t.gesture = .dragging id start moved := hw.gesture
  have hdone := (Simulation.dragTo_of_sound hw.sound (s.viewport.pointerToWorld place)).1
  rw [show s.dragging = some id from hw.drag] at hdone
  simp only [apply, GestureTracker.move, hforeign, hgesture, Bool.false_eq_true, if_false]
  split
  · next s' hs =>
    rw [hs]
  · next s' hs =>
    rw [hs] at hdone
    exact absurd hdone Bool.false_ne_true

theorem move_view {shift : Point α} (hw : Underway pointer (.view shift) start moved w)
    (place : Point α) : apply w (.move pointer place) =
      ({ w.1 with gesture := .panning start shift (moved || w.1.travelled start place) },
        { w.2 with viewport := w.2.viewport.panFrom shift (place.sub start) }) := by
  have hforeign := hw.isForeign
  obtain ⟨t, s⟩ := w
  have hgesture : t.gesture = .panning start shift moved := hw.gesture
  simp only [apply, GestureTracker.move, hforeign, hgesture, Bool.false_eq_true, if_false]

theorem wheel_node {id : String} (hw : Underway pointer (.node id) start moved w)
    (place : Point α) (deltaY : α) :
    let zoomed : Simulation α := { w.2 with viewport := w.2.viewport.wheel place deltaY }
    apply w (.wheel place deltaY) =
      (w.1, (zoomed.dragTo (zoomed.viewport.pointerToWorld place)).1) := by
  obtain ⟨t, s⟩ := w
  have hdragging : t.gesture.isDragging = true := congrArg Gesture.isDragging hw.gesture
  simp only [apply, GestureTracker.wheel, hdragging, if_true]

/-- A release drops the node, which a pointer that has not strayed has clicked. -/
theorem up_node {id : String} (hw : Underway pointer (.node id) start moved w)
    (place : Point α) : apply w (.up pointer place) =
      (w.1.reset, (if moved then w.2 else (w.2.select id).1).endDrag) := by
  obtain ⟨t, s⟩ := w
  have hgesture : t.gesture = .dragging id start moved := hw.gesture
  have howner : (t.owner != some pointer) = false := by
    rw [show t.owner = some pointer from hw.owner, bne_self_eq_false]
  simp only [apply, up, howner, hgesture, Bool.false_eq_true, if_false]

/-- A release of the view is a click on what is under the pointer then, unless it has strayed. -/
theorem up_view {shift : Point α} (hw : Underway pointer (.view shift) start moved w)
    (place : Point α) : apply w (.up pointer place) =
      (w.1.reset, if moved then w.2 else
        match (w.2.pick place).bind w.2.graph.idAt? with
        | some id => (w.2.select id).1
        | none => w.2.deselect) := by
  obtain ⟨t, s⟩ := w
  have hgesture : t.gesture = .panning start shift moved := hw.gesture
  have howner : (t.owner != some pointer) = false := by
    rw [show t.owner = some pointer from hw.owner, bne_self_eq_false]
  simp only [apply, up, howner, hgesture, Bool.false_eq_true, if_false]
  cases moved with
  | true => rfl
  | false =>
    cases (s.pick place).bind s.graph.idAt? with
    | some id => rfl
    | none => rfl

theorem leave_node {id : String} (hw : Underway pointer (.node id) start moved w) :
    apply w (.leave pointer) = (w.1.reset, w.2.endDrag.setHover none) := by
  have hforeign := hw.isForeign
  obtain ⟨t, s⟩ := w
  have hdragging : t.gesture.isDragging = true := congrArg Gesture.isDragging hw.gesture
  simp only [apply, GestureTracker.leave, hforeign, hdragging, Bool.false_eq_true, if_false,
    if_true]

/-! ## One input -/

theorem move (hw : Underway pointer grasp start moved w) (place : Point α) :
    Underway pointer grasp start (moved || w.1.travelled start place)
      (apply w (.move pointer place)) := by
  have hsound := sound_apply hw.sound (.move pointer place)
  cases grasp with
  | node id =>
    have hdrag := (Simulation.dragTo_of_sound hw.sound (w.2.viewport.pointerToWorld place)).2
    rw [hw.move_node] at hsound ⊢
    exact ⟨hsound, rfl, hw.owner, hdrag.trans hw.drag⟩
  | view shift =>
    rw [hw.move_view] at hsound ⊢
    exact ⟨hsound, rfl, hw.owner, hw.drag⟩

theorem wheel (hw : Underway pointer grasp start moved w) (place : Point α) (deltaY : α) :
    Underway pointer grasp start moved (apply w (.wheel place deltaY)) := by
  have hsound := sound_apply hw.sound (.wheel place deltaY)
  cases grasp with
  | node id =>
    let zoomed : Simulation α := { w.2 with viewport := w.2.viewport.wheel place deltaY }
    have hzoomed : zoomed.holding.Sound := hw.sound
    have hdrag :=
      (Simulation.dragTo_of_sound hzoomed (zoomed.viewport.pointerToWorld place)).2
    rw [hw.wheel_node] at hsound ⊢
    exact ⟨hsound, hw.gesture, hw.owner, hdrag.trans hw.drag⟩
  | view shift =>
    have hdragging : w.1.gesture.isDragging = false := congrArg Gesture.isDragging hw.gesture
    have hzoom : apply w (.wheel place deltaY) =
        (w.1, { w.2 with viewport := w.2.viewport.wheel place deltaY }) := by
      simp only [GestureTracker.apply, GestureTracker.wheel, hdragging, Bool.false_eq_true,
        if_false]
    rw [hzoom]
    exact ⟨hw.sound, hw.gesture, hw.owner, hw.drag⟩

/-- One input that the gesture outlasts, which is told only when its pointer strays. -/
theorem apply (hw : Underway pointer grasp start moved w) {i : Input α}
    (hi : i.spares pointer = true) :
    Underway pointer grasp start (moved || i.strays w.1.settings.clickSlop pointer start)
      (apply w i) := by
  have hsame : Underway pointer grasp start (moved || false) w := by
    rw [Bool.or_false]
    exact hw
  cases i with
  | down other place =>
    rw [hw.apply_down]
    exact hsame
  | move other place =>
    by_cases hother : other = pointer
    · subst hother
      rw [Input.strays, beq_self_eq_true, Bool.true_and]
      exact hw.move place
    · rw [hw.apply_of_ne rfl hother, Input.strays, beq_false_of_ne hother, Bool.false_and]
      exact hsame
  | up other place =>
    rw [hw.apply_of_ne rfl (bne_iff_ne.mp hi)]
    exact hsame
  | leave other =>
    rw [hw.apply_of_ne rfl (bne_iff_ne.mp hi)]
    exact hsame
  | wheel place deltaY =>
    have hwheel := hw.wheel place deltaY
    rw [← Bool.or_false moved] at hwheel
    exact hwheel
  | operate op =>
    obtain ⟨hload, hdrag⟩ := Bool.and_eq_true_iff.mp hi
    have hkept : (w.2.apply op).dragging = w.2.dragging := by
      rw [Simulation.dragging_apply w.2 ((Bool.not_eq_true' _).mp hdrag),
        (Bool.not_eq_true' _).mp hload, if_neg Bool.false_ne_true]
    exact ⟨Simulation.sound_apply hw.sound op, hsame.gesture, hw.owner, hkept.trans hw.drag⟩

/-! ## Any inputs -/

/-- A gesture has moved once its pointer has strayed, wherever the pointer is now. -/
theorem run (hw : Underway pointer grasp start moved w) {inputs : List (Input α)}
    (hinputs : ∀ i ∈ inputs, i.spares pointer = true) :
    Underway pointer grasp start
      (moved || inputs.any (Input.strays w.1.settings.clickSlop pointer start)) (run w inputs) := by
  induction inputs generalizing w moved with
  | nil =>
    rw [List.any_nil, Bool.or_false]
    exact hw
  | cons i rest ih =>
    have hnext := ih (hw.apply (hinputs i List.mem_cons_self))
      fun j hj => hinputs j (List.mem_cons_of_mem i hj)
    rw [settings_apply, Bool.or_assoc] at hnext
    exact hnext

end Underway

/-! ## The press -/

theorem underway_down {w : State α} (hw : Coupled w) (hidle : w.1.gesture = .idle) (pointer : Int)
    (place : Point α) :
    (∀ i, w.2.pick place = some i → ∃ n, w.2.graph.nodes[i]? = some n ∧
      Underway pointer (.node n.id) place false (apply w (.down pointer place))) ∧
    (w.2.pick place = none → Underway pointer (.view w.2.viewport.shift) place false
      (apply w (.down pointer place))) := by
  have hsound := sound_apply hw.sound (.down pointer place)
  have hnone : w.2.dragging = none := (hw.of_idle hidle).2
  obtain ⟨t, s⟩ := w
  have hbusy : (!t.gesture.isIdle) = false := by
    rw [show t.gesture = .idle from hidle]
    rfl
  simp only [apply, down, hbusy, Bool.false_eq_true, if_false] at hsound ⊢
  constructor
  · intro i hi
    obtain ⟨n, hn⟩ := Simulation.exists_of_pick hi
    have hbegin : s.beginDrag i = ({ s with
        graph := s.graph.modifyAt i fun n => n.holdAt n.position
        dragging := some n.id }.reheat, some n.id) := by
      simp only [Simulation.beginDrag, Simulation.endDrag_of_none hnone, hn]
    simp only [hi, hbegin] at hsound ⊢
    exact ⟨n, hn, hsound, rfl, rfl, rfl⟩
  · intro hi
    simp only [hi] at hsound ⊢
    exact ⟨hsound, rfl, rfl, hnone⟩

/-- The gesture that a press begins, after any inputs that it outlasts. -/
theorem underway_press {w : State α} (hw : Coupled w) (hidle : w.1.gesture = .idle) {pointer : Int}
    {place : Point α} {during : List (Input α)} (hduring : ∀ i ∈ during, i.spares pointer = true) :
    let strayed := during.any (Input.strays w.1.settings.clickSlop pointer place)
    let before := run w (.down pointer place :: during)
    (∀ i, w.2.pick place = some i → ∃ n, w.2.graph.nodes[i]? = some n ∧
      Underway pointer (.node n.id) place strayed before) ∧
    (w.2.pick place = none →
      Underway pointer (.view w.2.viewport.shift) place strayed before) := by
  intro strayed before
  obtain ⟨hnode, hview⟩ := underway_down hw hidle pointer place
  have hlater {grasp : Grasp α}
      (h : Underway pointer grasp place false (apply w (.down pointer place))) :
      Underway pointer grasp place strayed before := by
    have hrun := h.run hduring
    rwa [settings_apply, Bool.false_or] at hrun
  refine ⟨fun i hi => ?_, fun hi => hlater (hview hi)⟩
  obtain ⟨n, hn, hpressed⟩ := hnode i hi
  exact ⟨n, hn, hlater hpressed⟩

/-! ## An example -/

/-- A press in the middle of the canvas takes hold of the node. -/
theorem underway_loneState (pointer : Int) :
    Underway pointer (.node "A") ⟨400, 300⟩ false (apply loneState (.down pointer ⟨400, 300⟩)) := by
  have hlone : Coupled loneState := coupled_run (coupled_new _ _ _ _ _) (by decide)
  obtain ⟨n, hnodes, hid, -, -⟩ := exists_nodes_loneState
  obtain ⟨n', hn', hpressed⟩ := (underway_down hlone rfl pointer ⟨400, 300⟩).1 0 pick_loneState
  rw [hnodes] at hn'
  obtain rfl : n = n' := Option.some.inj hn'
  rwa [hid] at hpressed

end GestureTracker
end NodeLink
