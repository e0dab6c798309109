import NodeLink.Proofs.Gesture.View
import NodeLink.Proofs.Simulation.Fixes
/-!
# Gestures and drags

A gesture and the drag it stands for are kept in two places, and a load clears only one of them.

* `GestureTracker.Turn`: what one input can do to the gesture, its owner and the drag.
* `Touch`: what an input of a pointer or of the wheel can do to nodes.
* `Coupled`: what every input keeps, so that a drag always belongs to a gesture.
* `lasts_run`: while a gesture lasts, only a load takes its drag away.
* `holding_apply_of_stray`: a gesture without its drag touches no node.
-/

namespace NodeLink

def Operation.isDrag {α : Type} : Operation α → Bool
  | .beginDrag _ | .dragTo _ | .endDrag => true
  | _ => false

namespace Input

variable {α : Type}

def isDrag : Input α → Bool
  | .operate op => op.isDrag
  | _ => false

def loads : Input α → Bool
  | .operate op => op.loads
  | _ => false

end Input

namespace Gesture

variable {α : Type}

/-- The gesture as its press began it. -/
def pressed : Gesture α → Gesture α
  | .idle => .idle
  | .dragging id start _ => .dragging id start false
  | .panning start viewStart _ => .panning start viewStart false

theorem isIdle_iff {g : Gesture α} : g.isIdle = true ↔ g = .idle := by
  cases g with
  | idle => exact ⟨fun _ => rfl, fun _ => rfl⟩
  | dragging | panning => exact ⟨fun h => absurd h Bool.false_ne_true, nofun⟩

@[simp]
theorem isIdle_pressed (g : Gesture α) : g.pressed.isIdle = g.isIdle := by
  cases g with
  | _ => rfl

@[simp]
theorem isDragging_pressed (g : Gesture α) : g.pressed.isDragging = g.isDragging := by
  cases g with
  | _ => rfl

end Gesture

/-! ## The drag -/

namespace Simulation

variable {α : Type}

theorem dragging_releaseHub (s : Simulation α) : s.releaseHub.dragging = s.dragging := by
  unfold releaseHub
  split
  · rfl
  · dsimp only
    split
    · rfl
    · split
      · rfl
      · rfl

variable {s s' : Simulation α}

theorem endDrag_of_none (h : s.dragging = none) : s.endDrag = s := by
  rw [endDrag, h]

theorem holding_endDrag_congr (h : s'.holding = s.holding) :
    s'.endDrag.holding = s.endDrag.holding := by
  have hdrag := dragging_of_holding h
  cases hd : s.dragging with
  | none => rw [endDrag_of_none (hdrag.trans hd), endDrag_of_none hd, h]
  | some id =>
    simp only [endDrag, hdrag, hd, releaseUnpinned, holding, graph_of_holding h,
      hubHold_of_holding h]

variable [Scalar α]

theorem dragTo_of_none (h : s.dragging = none) (place : Point α) : s.dragTo place = (s, false) := by
  rw [dragTo, h]

theorem holding_dragTo_congr (h : s'.holding = s.holding) (place : Point α) :
    (s'.dragTo place).1.holding = (s.dragTo place).1.holding := by
  have hdrag := dragging_of_holding h
  have hgraph := graph_of_holding h
  cases hd : s.dragging with
  | none => rw [dragTo_of_none (hdrag.trans hd), dragTo_of_none hd, h]
  | some id =>
    simp only [dragTo, hdrag, hd, hgraph]
    split
    · simp only [holding, hubHold_of_holding h]
    · simp only [holding, hubHold_of_holding h]

/-- What is dragged is a node of the graph, so a drag that has begun does not miss. -/
theorem dragTo_of_sound (hs : s.holding.Sound) (place : Point α) :
    (s.dragTo place).2 = s.dragging.isSome ∧ (s.dragTo place).1.dragging = s.dragging := by
  cases hd : s.dragging with
  | none =>
    rw [dragTo_of_none hd]
    exact ⟨rfl, hd⟩
  | some id =>
    have hnode : s.graph.hasNode id = true := hs.dragged id hd
    simp only [dragTo, hd, hnode, if_true]
    exact ⟨rfl, trivial⟩

theorem dragging_apply (s : Simulation α) {op : Operation α} (hop : op.isDrag = false) :
    (s.apply op).dragging = if op.loads then none else s.dragging := by
  cases s.effect op with
  | keeps hloads _ hholding =>
    rw [hloads]
    exact dragging_of_holding hholding
  | loads hloads =>
    rcases apply_of_loads hloads with ⟨raw, hraw⟩
    rw [hloads, hraw, show (s.load raw).dragging = _ from
      congrArg Holding.dragging (holding_load s raw)]
    unfold Holding.ofGraph
    split
    · rfl
    · rfl
  | tick => exact (dragging_releaseHub _).trans (congrArg Holding.dragging (holding_stepForces s))
  | togglePin id => exact congrArg Holding.dragging (holding_togglePin s id)
  | beginDrag | dragTo | endDrag => exact absurd hop.symm Bool.false_ne_true

end Simulation

/-! ## One input -/

namespace GestureTracker

variable {α : Type} [Scalar α]

/-- What an input does: no gesture is left and nothing is dragged, or a press begins a gesture, or
the gesture under way stays. -/
inductive Turn (w : State α) : Input α → State α → Prop where
  | rests {i : Input α} {w' : State α} (hgesture : w'.1.gesture = .idle)
      (howner : w'.1.owner = none) (hdrag : w'.2.dragging = none) : Turn w i w'
  | pans {pointer : Int} {place view : Point α} {w' : State α} (hbefore : w.1.gesture = .idle)
      (hgesture : w'.1.gesture = .panning place view false) (howner : w'.1.owner = some pointer)
      (hdrag : w'.2.dragging = none) : Turn w (.down pointer place) w'
  | drags {pointer : Int} {place : Point α} {id : String} {w' : State α}
      (hbefore : w.1.gesture = .idle) (hgesture : w'.1.gesture = .dragging id place false)
      (howner : w'.1.owner = some pointer) (hdrag : w'.2.dragging = some id) :
      Turn w (.down pointer place) w'
  | stays {i : Input α} {w' : State α} (hbefore : w.1.gesture.isIdle = false)
      (hgesture : w'.1.gesture.pressed = w.1.gesture.pressed) (howner : w'.1.owner = w.1.owner)
      (hdrag : w'.2.dragging = if i.loads then none else w.2.dragging) : Turn w i w'

/-- A gesture has an owner, and only a dragging one has a drag. -/
structure Coupled (w : State α) : Prop where
  sound : w.2.holding.Sound
  owned : w.1.gesture.isIdle = true ↔ w.1.owner = none
  dropped : w.1.gesture.isDragging = false → w.2.dragging = none

variable {w : State α}

theorem Coupled.of_idle (hw : Coupled w) (hidle : w.1.gesture = .idle) :
    w.1.owner = none ∧ w.2.dragging = none :=
  ⟨hw.owned.mp (Gesture.isIdle_iff.mpr hidle), hw.dropped (by rw [hidle]; rfl)⟩

theorem Turn.of_same {w' : State α} {i : Input α} (hw : Coupled w) (hi : i.loads = false)
    (htracker : w'.1 = w.1) (hdrag : w'.2.dragging = w.2.dragging) : Turn w i w' := by
  cases hidle : w.1.gesture.isIdle with
  | true =>
    have hg : w.1.gesture = .idle := Gesture.isIdle_iff.mp hidle
    exact .rests (htracker ▸ hg) (htracker ▸ (hw.of_idle hg).1) (hdrag.trans (hw.of_idle hg).2)
  | false =>
    refine .stays hidle (by rw [htracker]) (by rw [htracker]) ?_
    rw [hi, hdrag, if_neg Bool.false_ne_true]

theorem turn_down (hw : Coupled w) (pointer : Int) (place : Point α) :
    Turn w (.down pointer place) (down w pointer place) := by
  rcases w with ⟨t, s⟩
  unfold down
  dsimp only
  cases hg : t.gesture with
  | idle =>
    have hdrag : s.dragging = none := (hw.of_idle hg).2
    rw [show (!(Gesture.idle : Gesture α).isIdle) = false from rfl, if_neg Bool.false_ne_true]
    split
    · exact .pans hg rfl rfl hdrag
    · rename_i i _
      have hbegin : (s.beginDrag i).1.dragging = (s.beginDrag i).2 :=
        congrArg Holding.dragging (Simulation.holding_beginDrag s i)
      split
      · rename_i hs
        rw [hs] at hbegin
        exact .drags hg rfl rfl hbegin
      · rename_i hs
        rw [hs] at hbegin
        exact .pans hg rfl rfl hbegin
  | _ => exact .of_same hw rfl rfl rfl

theorem turn_move (hw : Coupled w) (pointer : Int) (place : Point α) :
    Turn w (.move pointer place) (move w pointer place) := by
  rcases w with ⟨t, s⟩
  unfold move
  dsimp only
  split
  · exact .of_same hw rfl rfl rfl
  · cases hg : t.gesture with
    | idle => exact .of_same hw rfl rfl rfl
    | panning start view moved => exact .stays (by rw [hg]; rfl) (by rw [hg]; rfl) rfl rfl
    | dragging id start moved =>
      have hto := Simulation.dragTo_of_sound hw.sound (s.viewport.pointerToWorld place)
      dsimp only
      split
      · rename_i s' hs
        rw [hs] at hto
        exact .stays (by rw [hg]; rfl) (by rw [hg]; rfl) rfl hto.2
      · -- the drag has missed, so there was none: the gesture is given up
        rename_i s' hs
        rw [hs] at hto
        have hnone : s.dragging = none := by
          rw [← Option.isNone_iff_eq_none, ← Option.isSome_eq_false_iff]
          exact hto.1.symm
        exact .rests rfl rfl (hto.2.trans hnone)

theorem turn_up (hw : Coupled w) (pointer : Int) (place : Point α) :
    Turn w (.up pointer place) (up w pointer place) := by
  rcases w with ⟨t, s⟩
  unfold up
  dsimp only
  split
  · exact .of_same hw rfl rfl rfl
  · cases hg : t.gesture with
    | idle => exact .rests rfl rfl (hw.of_idle hg).2
    | dragging id start moved => exact .rests rfl rfl (Simulation.dragging_endDrag _)
    | panning start view moved =>
      have hdrag : s.dragging = none := hw.dropped (by rw [hg]; rfl)
      cases moved with
      | true => exact .rests rfl rfl hdrag
      | false =>
        dsimp only
        split
        · rename_i id _
          exact .rests rfl rfl ((Simulation.dragging_of_holding
            (Simulation.holding_select s id)).trans hdrag)
        · exact .rests rfl rfl ((Simulation.dragging_of_holding
            (Simulation.holding_deselect s)).trans hdrag)

theorem turn_leave (hw : Coupled w) (pointer : Int) :
    Turn w (.leave pointer) (leave w pointer) := by
  rcases w with ⟨t, s⟩
  unfold leave
  dsimp only
  split
  · exact .of_same hw rfl rfl rfl
  · refine .rests rfl rfl ?_
    change (if t.gesture.isDragging then s.endDrag else s).dragging = none
    split
    · exact Simulation.dragging_endDrag s
    · rename_i hg
      exact hw.dropped (Bool.eq_false_iff.mpr hg)

theorem turn_wheel (hw : Coupled w) (place : Point α) (deltaY : α) :
    Turn w (.wheel place deltaY) (wheel w place deltaY) := by
  rcases w with ⟨t, s⟩
  unfold wheel
  dsimp only
  let zoomed : Simulation α := { s with viewport := s.viewport.wheel place deltaY }
  have hsound : zoomed.holding.Sound := hw.sound
  split
  · exact .of_same hw rfl rfl (Simulation.dragTo_of_sound hsound _).2
  · exact .of_same hw rfl rfl rfl

theorem turn_operate (hw : Coupled w) {op : Operation α} (hop : op.isDrag = false) :
    Turn w (.operate op) (w.1, w.2.apply op) := by
  have hdrag := Simulation.dragging_apply w.2 hop
  cases hg : w.1.gesture.isIdle with
  | true =>
    have hidle : w.1.gesture = .idle := Gesture.isIdle_iff.mp hg
    rw [(hw.of_idle hidle).2, ite_self] at hdrag
    exact .rests hidle (hw.of_idle hidle).1 hdrag
  | false => exact .stays hg rfl rfl hdrag

theorem turn (hw : Coupled w) {i : Input α} (hi : i.isDrag = false) : Turn w i (apply w i) := by
  cases i with
  | down pointer place => exact turn_down hw pointer place
  | move pointer place => exact turn_move hw pointer place
  | up pointer place => exact turn_up hw pointer place
  | leave pointer => exact turn_leave hw pointer
  | wheel place deltaY => exact turn_wheel hw place deltaY
  | operate op => exact turn_operate hw hi

/-! ## What the pointers hold -/

/-- What an input of a pointer or of the wheel does to the holding: nothing, or one of the three
operations of a drag, of which the first only begins a gesture. -/
inductive Touch (w : State α) (s' : Simulation α) : Prop where
  | keeps (hholding : s'.holding = w.2.holding)
  | begins (index : Nat) (hidle : w.1.gesture.isIdle = true)
      (hholding : s'.holding = (w.2.beginDrag index).1.holding)
  | moves (place : Point α) (hholding : s'.holding = (w.2.dragTo place).1.holding)
  | ends (hholding : s'.holding = w.2.endDrag.holding)

theorem touch_down (w : State α) (pointer : Int) (place : Point α) :
    Touch w (down w pointer place).2 := by
  rcases w with ⟨t, s⟩
  unfold down
  dsimp only
  cases hidle : t.gesture.isIdle with
  | false => exact .keeps rfl
  | true =>
    rw [Bool.not_true, if_neg Bool.false_ne_true]
    split
    · exact .keeps rfl
    · rename_i i _
      split
      · rename_i hs
        exact .begins i hidle (by rw [hs])
      · rename_i hs
        exact .begins i hidle (by rw [hs])

theorem touch_move (w : State α) (pointer : Int) (place : Point α) :
    Touch w (move w pointer place).2 := by
  rcases w with ⟨t, s⟩
  unfold move
  dsimp only
  split
  · exact .keeps rfl
  · split
    · exact .keeps (Simulation.holding_setHover s _)
    · split
      · rename_i s' hs
        refine .moves (s.viewport.pointerToWorld place) ?_
        rw [Simulation.holding_setHover, hs]
      · rename_i s' hs
        refine .moves (s.viewport.pointerToWorld place) ?_
        rw [hs]
    · exact .keeps rfl

theorem touch_up (w : State α) (pointer : Int) (place : Point α) :
    Touch w (up w pointer place).2 := by
  rcases w with ⟨t, s⟩
  unfold up
  dsimp only
  split
  · exact .keeps rfl
  · split
    · exact .keeps rfl
    · -- the node is dropped after it has been selected, which changes nothing that is held
      refine .ends (Simulation.holding_endDrag_congr ?_)
      split
      · rfl
      · exact Simulation.holding_select s _
    · exact .keeps rfl
    · split
      · exact .keeps (Simulation.holding_select s _)
      · exact .keeps (Simulation.holding_deselect s)

theorem touch_leave (w : State α) (pointer : Int) : Touch w (leave w pointer).2 := by
  rcases w with ⟨t, s⟩
  unfold leave
  dsimp only
  split
  · exact .keeps rfl
  · by_cases hg : t.gesture.isDragging = true
    · rw [if_pos hg]
      exact .ends (Simulation.holding_setHover _ _)
    · rw [if_neg hg]
      exact .keeps (Simulation.holding_setHover _ _)

theorem touch_wheel (w : State α) (place : Point α) (deltaY : α) :
    Touch w (wheel w place deltaY).2 := by
  rcases w with ⟨t, s⟩
  unfold wheel
  dsimp only
  let zoomed : Simulation α := { s with viewport := s.viewport.wheel place deltaY }
  have hzoomed : zoomed.holding = s.holding := rfl
  split
  · exact .moves _ (Simulation.holding_dragTo_congr hzoomed _)
  · exact .keeps hzoomed

theorem touch (w : State α) {i : Input α} (hi : ∀ op, i ≠ .operate op) : Touch w (apply w i).2 := by
  cases i with
  | down pointer place => exact touch_down w pointer place
  | move pointer place => exact touch_move w pointer place
  | up pointer place => exact touch_up w pointer place
  | leave pointer => exact touch_leave w pointer
  | wheel place deltaY => exact touch_wheel w place deltaY
  | operate op => exact absurd rfl (hi op)

/-! ## Every input keeps the coupling -/

theorem sound_apply (hs : w.2.holding.Sound) (i : Input α) : (apply w i).2.holding.Sound := by
  by_cases hop : ∃ op, i = .operate op
  · rcases hop with ⟨op, rfl⟩
    exact Simulation.sound_apply hs op
  · cases touch w (not_exists.mp hop) with
    | keeps hholding =>
      rw [hholding]
      exact hs
    | begins index _ hholding =>
      rw [hholding]
      exact Simulation.sound_beginDrag hs index
    | moves place hholding =>
      rw [hholding]
      exact Simulation.sound_dragTo hs place
    | ends hholding =>
      rw [hholding]
      exact Simulation.sound_endDrag hs

theorem coupled_apply (hw : Coupled w) {i : Input α} (hi : i.isDrag = false) :
    Coupled (apply w i) := by
  have hsound := sound_apply hw.sound i
  cases turn hw hi with
  | rests hgesture howner hdrag =>
    refine ⟨hsound, ?_, fun _ => hdrag⟩
    rw [Gesture.isIdle_iff]
    exact ⟨fun _ => howner, fun _ => hgesture⟩
  | pans _ hgesture howner hdrag =>
    refine ⟨hsound, ?_, fun _ => hdrag⟩
    rw [hgesture, howner]
    exact ⟨fun h => absurd h Bool.false_ne_true, nofun⟩
  | drags _ hgesture howner _ =>
    refine ⟨hsound, ?_, fun h => ?_⟩
    · rw [hgesture, howner]
      exact ⟨fun h => absurd h Bool.false_ne_true, nofun⟩
    · rw [hgesture] at h
      exact absurd h.symm Bool.false_ne_true
  | stays _ hgesture howner hdrag =>
    have hidle := congrArg Gesture.isIdle hgesture
    have hdragging := congrArg Gesture.isDragging hgesture
    simp only [Gesture.isIdle_pressed, Gesture.isDragging_pressed] at hidle hdragging
    refine ⟨hsound, ?_, fun h => ?_⟩
    · rw [hidle, howner]
      exact hw.owned
    · rw [hdrag, hw.dropped (hdragging.symm.trans h), ite_self]

theorem coupled_new (gestures : GestureSettings α) (settings : Settings α)
    (width height ratio : α) :
    Coupled (new gestures, Simulation.new settings width height ratio) :=
  ⟨Simulation.sound_new settings width height ratio, ⟨fun _ => rfl, fun _ => rfl⟩, fun _ => rfl⟩

theorem coupled_run (hw : Coupled w) {inputs : List (Input α)}
    (hinputs : ∀ i ∈ inputs, i.isDrag = false) : Coupled (run w inputs) := by
  induction inputs generalizing w with
  | nil => exact hw
  | cons i rest ih =>
    apply ih (coupled_apply hw (hinputs i List.mem_cons_self))
    exact fun o ho => hinputs o (List.mem_cons_of_mem _ ho)

/-! ## How long a gesture lasts -/

/-- Whether a gesture is under way now and after each of the inputs. -/
def lasts (w : State α) : List (Input α) → Bool
  | [] => !w.1.gesture.isIdle
  | i :: rest => !w.1.gesture.isIdle && lasts (apply w i) rest

theorem run_snoc (w : State α) (before : List (Input α)) (i : Input α) :
    run w (before ++ [i]) = apply (run w before) i := List.foldl_append

theorem run_split (w : State α) (before : List (Input α)) (i : Input α) (after : List (Input α)) :
    run w (before ++ i :: after) = run (run w (before ++ [i])) after := by
  rw [List.append_cons]
  exact List.foldl_append

theorem not_idle_of_lasts {inputs : List (Input α)} (h : lasts w inputs = true) :
    w.1.gesture.isIdle = false := by
  cases inputs with
  | nil => exact (Bool.not_eq_true' _).mp h
  | cons i rest => exact (Bool.not_eq_true' _).mp ((Bool.and_eq_true_iff).mp h).1

theorem not_idle_run_of_lasts {inputs : List (Input α)} (h : lasts w inputs = true) :
    (run w inputs).1.gesture.isIdle = false := by
  induction inputs generalizing w with
  | nil => exact (Bool.not_eq_true' _).mp h
  | cons i rest ih => exact ih ((Bool.and_eq_true_iff).mp h).2

/-- While a gesture lasts it is the one that the press began, and its drag stays until a load. -/
theorem lasts_run (hw : Coupled w) {inputs : List (Input α)}
    (hinputs : ∀ i ∈ inputs, i.isDrag = false) (h : lasts w inputs = true) :
    (run w inputs).1.gesture.pressed = w.1.gesture.pressed ∧
      (run w inputs).2.dragging = if inputs.any Input.loads then none else w.2.dragging := by
  induction inputs generalizing w with
  | nil => exact ⟨rfl, rfl⟩
  | cons i rest ih =>
    have hi := hinputs i List.mem_cons_self
    rcases Bool.and_eq_true_iff.mp h with ⟨hnow, hrest⟩
    have hbusy : w.1.gesture.isIdle = false := (Bool.not_eq_true' _).mp hnow
    rcases ih (coupled_apply hw hi) (fun o ho => hinputs o (List.mem_cons_of_mem _ ho)) hrest with
      ⟨hgesture, hdrag⟩
    -- the input cannot have ended the gesture nor begun one
    cases turn hw hi with
    | rests hend =>
      have hidle := Gesture.isIdle_iff.mpr hend
      exact absurd (hidle.symm.trans (not_idle_of_lasts hrest)) nofun
    | pans hbefore | drags hbefore =>
      have hidle := Gesture.isIdle_iff.mpr hbefore
      exact absurd (hidle.symm.trans hbusy) nofun
    | stays _ hstep _ hstepdrag =>
      refine ⟨hgesture.trans hstep, ?_⟩
      change (run (apply w i) rest).2.dragging = _
      rw [hdrag, hstepdrag, List.any_cons]
      cases i.loads with
      | true => rw [if_pos rfl, Bool.true_or, if_pos rfl, ite_self]
      | false => rw [if_neg Bool.false_ne_true, Bool.false_or]

theorem lasts_run_split (hw : Coupled w) {before after : List (Input α)} {i : Input α}
    (hinputs : ∀ j ∈ before ++ i :: after, j.isDrag = false)
    (h : lasts (run w (before ++ [i])) after = true) :
    (run w (before ++ i :: after)).1.gesture.pressed =
        (run w (before ++ [i])).1.gesture.pressed ∧
      (run w (before ++ i :: after)).2.dragging =
        if after.any Input.loads then none else (run w (before ++ [i])).2.dragging := by
  rw [List.append_cons] at hinputs
  rw [run_split]
  apply lasts_run
  · exact coupled_run hw fun j hj => hinputs j (List.mem_append_left _ hj)
  · exact fun j hj => hinputs j (List.mem_append_right _ hj)
  · exact h

/-- A gesture that is under way has lasted from the start or from the input that began it. -/
theorem exists_begin {inputs : List (Input α)} (h : (run w inputs).1.gesture.isIdle = false) :
    lasts w inputs = true ∨ ∃ before i after, inputs = before ++ i :: after ∧
      (run w before).1.gesture = .idle ∧ lasts (run w (before ++ [i])) after = true := by
  induction inputs generalizing w with
  | nil => exact Or.inl ((Bool.not_eq_true' _).mpr h)
  | cons i rest ih =>
    rcases ih h with hlast | ⟨before, j, after, hsplit, hidle, hlast⟩
    · cases hnow : w.1.gesture.isIdle with
      | true => exact Or.inr ⟨[], i, rest, rfl, Gesture.isIdle_iff.mp hnow, hlast⟩
      | false =>
        refine Or.inl ?_
        rw [lasts, hnow, hlast]
        rfl
    · refine Or.inr ⟨i :: before, j, after, ?_, hidle, hlast⟩
      rw [hsplit]
      rfl

/-- Once its drag is gone a gesture moves, holds and drops no node. -/
theorem holding_apply_of_stray (hbusy : w.1.gesture.isIdle = false) (hnone : w.2.dragging = none)
    {i : Input α} (hi : ∀ op, i ≠ .operate op) : (apply w i).2.holding = w.2.holding := by
  cases touch w hi with
  | keeps hholding => exact hholding
  | begins _ hidle => exact absurd (hbusy.symm.trans hidle) Bool.false_ne_true
  | moves place hholding => rw [hholding, Simulation.dragTo_of_none hnone]
  | ends hholding => rw [hholding, Simulation.endDrag_of_none hnone]

/-! ## Main result -/

/-- A gesture that drags was begun by a press on its node, which is dragged until a load. -/
theorem exists_press (hw : Coupled w) (hidle : w.1.gesture = .idle) {inputs : List (Input α)}
    (hinputs : ∀ i ∈ inputs, i.isDrag = false) {id : String} {place : Point α} {moved : Bool}
    (hg : (run w inputs).1.gesture = .dragging id place moved) :
    ∃ before pointer after, inputs = before ++ .down pointer place :: after ∧
      (run w before).1.gesture = .idle ∧
      (run w (before ++ [.down pointer place])).1.gesture = .dragging id place false ∧
      lasts (run w (before ++ [.down pointer place])) after = true ∧
      (run w inputs).2.dragging = if after.any Input.loads then none else some id := by
  have hbusy : (run w inputs).1.gesture.isIdle = false := by
    rw [hg]
    rfl
  rcases exists_begin hbusy with hlast | ⟨before, i, after, rfl, hbefore, hlast⟩
  · have hnow := not_idle_of_lasts hlast
    exact absurd ((Gesture.isIdle_iff.mpr hidle).symm.trans hnow) nofun
  · have hi : i.isDrag = false := hinputs i (List.mem_append_right _ List.mem_cons_self)
    have hcoupled : Coupled (run w before) :=
      coupled_run hw fun o ho => hinputs o (List.mem_append_left _ ho)
    rcases lasts_run_split hw hinputs hlast with ⟨hgesture, hdrag⟩
    rw [hg] at hgesture
    have hpress := turn hcoupled hi
    rw [← run_snoc] at hpress
    -- of the four kinds of inputs only a press on a node begins such a gesture
    cases hpress with
    | rests hend =>
      exact absurd ((Gesture.isIdle_iff.mpr hend).symm.trans (not_idle_of_lasts hlast)) nofun
    | stays hnow =>
      exact absurd ((Gesture.isIdle_iff.mpr hbefore).symm.trans hnow) nofun
    | pans _ hbegun =>
      rw [hbegun] at hgesture
      exact absurd hgesture nofun
    | @drags pointer _ _ _ _ hbegun _ hbegundrag =>
      rw [hbegun] at hgesture
      cases hgesture
      rw [hbegundrag] at hdrag
      exact ⟨before, pointer, after, rfl, hbefore, hbegun, hlast, hdrag⟩

/-- A gesture that outlasts a load has no drag any more and touches no node. -/
theorem stray_of_load (hw : Coupled w) {before after : List (Input α)} {load : Input α}
    (hinputs : ∀ i ∈ before ++ load :: after, i.isDrag = false) (hload : load.loads = true)
    (hlast : lasts (run w (before ++ [load])) after = true) :
    (run w (before ++ load :: after)).2.dragging = none ∧ ∀ i, (∀ op, i ≠ .operate op) →
      (apply (run w (before ++ load :: after)) i).2.holding =
        (run w (before ++ load :: after)).2.holding := by
  have hgone : (run w (before ++ [load])).2.dragging = none := by
    rw [run_snoc]
    cases load with
    | operate op =>
      have hop : op.isDrag = false :=
        hinputs (.operate op) (List.mem_append_right _ List.mem_cons_self)
      refine (Simulation.dragging_apply _ hop).trans ?_
      rw [show op.loads = true from hload, if_pos rfl]
    | _ => exact absurd hload Bool.false_ne_true
  have hnone : (run w (before ++ load :: after)).2.dragging = none := by
    rw [(lasts_run_split hw hinputs hlast).2, hgone, ite_self]
  have hbusy : (run w (before ++ load :: after)).1.gesture.isIdle = false := by
    rw [run_split]
    exact not_idle_run_of_lasts hlast
  exact ⟨hnone, fun i hi => holding_apply_of_stray hbusy hnone hi⟩

/-- Whatever pointers do, with loads, frames, pins and the like in between: there is a gesture just
when there is an owner; without a dragging gesture nothing is dragged; a gesture that drags a node
was begun by a press on that node, which is dragged until a graph is loaded; and from such a load on
the gesture changes no node of the new graph. -/
theorem gesture_owns_drag (gestures : GestureSettings α) (settings : Settings α)
    (width height ratio : α) (inputs : List (Input α))
    (hinputs : ∀ i ∈ inputs, i.isDrag = false) :
    let start : State α := (new gestures, Simulation.new settings width height ratio)
    let now := run start inputs
    (now.1.gesture.isIdle = true ↔ now.1.owner = none) ∧
    (now.1.gesture.isDragging = false → now.2.dragging = none) ∧
    (∀ id place moved, now.1.gesture = .dragging id place moved →
      ∃ before pointer after, inputs = before ++ .down pointer place :: after ∧
        (run start before).1.gesture = .idle ∧
        (run start (before ++ [.down pointer place])).1.gesture = .dragging id place false ∧
        lasts (run start (before ++ [.down pointer place])) after = true ∧
        now.2.dragging = if after.any Input.loads then none else some id) ∧
    (∀ before load after, inputs = before ++ load :: after → load.loads = true →
      lasts (run start (before ++ [load])) after = true →
      now.2.dragging = none ∧ ∀ i, (∀ op, i ≠ .operate op) →
        (apply now i).2.graph = now.2.graph ∧ (apply now i).2.dragging = none) := by
  intro start now
  have hstart : Coupled start := coupled_new gestures settings width height ratio
  have hnow : Coupled now := coupled_run hstart hinputs
  refine ⟨hnow.owned, hnow.dropped, fun id place moved => exists_press hstart rfl hinputs, ?_⟩
  rintro before load after rfl hload hlast
  rcases stray_of_load hstart hinputs hload hlast with ⟨hnone, hkept⟩
  refine ⟨hnone, fun i hi => ?_⟩
  have hholding := hkept i hi
  exact ⟨Simulation.graph_of_holding hholding,
    (Simulation.dragging_of_holding hholding).trans hnone⟩

/-- A press beside all nodes, and a load while it is held. -/
def strayInputs : List (Input Float) := [.down 1 ⟨400, 300⟩, .operate (.load Simulation.pairRecord)]

theorem gesture_down_loneState :
    (apply loneState (.down 1 ⟨400, 300⟩)).1.gesture = .dragging "A" ⟨400, 300⟩ false := by
  rw [apply, down]
  simp only [pick_loneState]
  rfl

/-- A press on a node, and a load while it is held. -/
noncomputable def grabbedInputs : List (Input Exact) :=
  [.operate (.load loneRecord), .down 1 ⟨400, 300⟩, .operate (.load loneRecord)]

theorem gesture_owns_drag_stray :
    let start : State Float :=
      (new Settings.standard.interaction, Simulation.new Settings.standard 800 600 1)
    let now := run start strayInputs
    let first : State Exact :=
      (new Settings.standard.interaction, Simulation.new Settings.standard 800 600 1)
    let grabbed := run first grabbedInputs
    (∀ i ∈ strayInputs, i.isDrag = false) ∧ now.1.gesture.isIdle = false ∧ now.1.owner ≠ none ∧
      now.2.graph.hasNode "A" = true ∧ now.2.dragging = none ∧
      (∀ i, (∀ op, i ≠ .operate op) → (apply now i).2.graph = now.2.graph) ∧
      (∀ i ∈ grabbedInputs, i.isDrag = false) ∧
      grabbed.1.gesture = .dragging "A" ⟨400, 300⟩ false ∧
      (∃ before pointer after, grabbedInputs = before ++ .down pointer ⟨400, 300⟩ :: after ∧
        (run first before).1.gesture = .idle ∧
        (run first (before ++ [.down pointer ⟨400, 300⟩])).1.gesture =
          .dragging "A" ⟨400, 300⟩ false ∧
        lasts (run first (before ++ [.down pointer ⟨400, 300⟩])) after = true ∧
        grabbed.2.dragging = if after.any Input.loads then none else some "A") ∧
      grabbed.2.dragging = none ∧
      ∀ i, (∀ op, i ≠ .operate op) → (apply grabbed i).2.graph = grabbed.2.graph := by
  intro start now first grabbed
  have hinputs : ∀ i ∈ strayInputs, i.isDrag = false := by decide
  have hbusy : now.1.gesture.isIdle = false := by decide +kernel
  have hnode : now.2.graph.hasNode "A" = true := by decide +kernel
  have hlasts : lasts now [] = true := by decide +kernel
  rcases gesture_owns_drag Settings.standard.interaction Settings.standard 800 600 1 strayInputs
    hinputs with ⟨howned, -, -, hstray⟩
  have howner : now.1.owner ≠ none := fun h => absurd (hbusy.symm.trans (howned.mpr h)) nofun
  rcases hstray [.down 1 ⟨400, 300⟩] (.operate (.load Simulation.pairRecord)) [] rfl rfl hlasts with
    ⟨hnone, hkept⟩
  have hgrabbing : ∀ i ∈ grabbedInputs, i.isDrag = false := by decide
  -- the load leaves the gesture as it is
  have hgesture : grabbed.1.gesture = .dragging "A" ⟨400, 300⟩ false := gesture_down_loneState
  have hheld : lasts grabbed [] = true := by
    rw [lasts, hgesture]
    rfl
  rcases gesture_owns_drag Settings.standard.interaction Settings.standard 800 600 1 grabbedInputs
    hgrabbing with ⟨-, -, hpressed, hloaded⟩
  rcases hloaded [.operate (.load loneRecord), .down 1 ⟨400, 300⟩] (.operate (.load loneRecord)) []
    rfl rfl hheld with ⟨hlost, hleft⟩
  exact ⟨hinputs, hbusy, howner, hnode, hnone, fun i hi => (hkept i hi).1, hgrabbing, hgesture,
    hpressed _ _ _ hgesture, hlost, fun i hi => (hleft i hi).1⟩

end GestureTracker
end NodeLink
