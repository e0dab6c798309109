import NodeLink.Proofs.Gesture.Bystanders
import NodeLink.Proofs.Simulation.Past
import NodeLink.Proofs.View.Moves
/-!
# A load erases history

Two simulations with the same setup, whatever was done to them before, cannot be told apart once
the same record with a node has been loaded into both, however long they are used afterwards.

* `apply_withPast`, `run_present`: what inputs do does not depend on the past of the simulation.
* `Lasting.down`, `Kept.run`: what operations and moves of the view keep is kept by all inputs.
* `load_erases_history`: the main result.
-/

namespace NodeLink.GestureTracker

variable {α : Type}

def withPast (w : State α) (grid : Grid α) (past : List Event) : State α :=
  (w.1, w.2.withPast grid past)

variable [Scalar α]

/-! ## Inputs with a past -/

theorem down_withPast (w : State α) (grid : Grid α) (past : List Event) (pointer : Int)
    (place : Point α) :
    down (withPast w grid past) pointer place = withPast (down w pointer place) grid past := by
  obtain ⟨t, s⟩ := w
  have hpick : (s.withPast grid past).pick place = s.pick place := rfl
  unfold down withPast
  dsimp only
  rw [hpick]
  split
  · rfl
  · cases s.pick place with
    | none => rfl
    | some i =>
      dsimp only
      rw [Simulation.beginDrag_withPast]
      obtain ⟨s', id?⟩ := s.beginDrag i
      cases id? with
      | none => rfl
      | some id => rfl

theorem move_withPast (w : State α) (grid : Grid α) (past : List Event) (pointer : Int)
    (place : Point α) :
    move (withPast w grid past) pointer place = withPast (move w pointer place) grid past := by
  obtain ⟨t, s⟩ := w
  have hviewport : (s.withPast grid past).viewport = s.viewport := rfl
  unfold move withPast
  dsimp only
  split
  · rfl
  · cases t.gesture with
    | idle => rfl
    | panning start viewStart moved => rfl
    | dragging id start moved =>
      dsimp only
      rw [hviewport, Simulation.dragTo_withPast]
      obtain ⟨s', there⟩ := s.dragTo (s.viewport.pointerToWorld place)
      cases there with
      | true => rfl
      | false => rfl

theorem up_withPast (w : State α) (grid : Grid α) (past : List Event) (pointer : Int)
    (place : Point α) :
    up (withPast w grid past) pointer place = withPast (up w pointer place) grid past := by
  obtain ⟨t, s⟩ := w
  have hpick : (s.withPast grid past).pick place = s.pick place := rfl
  have hgraph : (s.withPast grid past).graph = s.graph := rfl
  unfold up withPast
  dsimp only
  rw [hpick, hgraph]
  split
  · rfl
  · split
    · rfl
    · split
      · rw [Simulation.endDrag_withPast]
      · rw [Simulation.select_withPast, Simulation.endDrag_withPast]
    · rfl
    · cases (s.pick place).bind s.graph.idAt? with
      | none =>
        dsimp only
        rw [Simulation.deselect_withPast]
      | some id =>
        dsimp only
        rw [Simulation.select_withPast]

theorem leave_withPast (w : State α) (grid : Grid α) (past : List Event) (pointer : Int) :
    leave (withPast w grid past) pointer = withPast (leave w pointer) grid past := by
  obtain ⟨t, s⟩ := w
  unfold leave withPast
  dsimp only
  split
  · rfl
  · split
    · rw [Simulation.endDrag_withPast]
      rfl
    · rfl

theorem wheel_withPast (w : State α) (grid : Grid α) (past : List Event) (place : Point α)
    (deltaY : α) :
    wheel (withPast w grid past) place deltaY = withPast (wheel w place deltaY) grid past := by
  obtain ⟨t, s⟩ := w
  unfold wheel withPast
  dsimp only
  split
  · have hdrag := Simulation.dragTo_withPast
      { s with viewport := s.viewport.wheel place deltaY } grid past
    exact congrArg (fun answer => (t, answer.1)) (hdrag _)
  · rfl

theorem apply_withPast (w : State α) (grid : Grid α) (past : List Event) {i : Input α}
    (hi : i ≠ .operate .drain) :
    ∃ grid', apply (withPast w grid past) i = withPast (apply w i) grid' past := by
  cases i with
  | down pointer place => exact ⟨grid, down_withPast w grid past pointer place⟩
  | move pointer place => exact ⟨grid, move_withPast w grid past pointer place⟩
  | up pointer place => exact ⟨grid, up_withPast w grid past pointer place⟩
  | leave pointer => exact ⟨grid, leave_withPast w grid past pointer⟩
  | wheel place deltaY => exact ⟨grid, wheel_withPast w grid past place deltaY⟩
  | operate op =>
    have hop : op ≠ .drain := fun h => hi (congrArg Input.operate h)
    obtain ⟨grid', happly⟩ := w.2.apply_withPast grid past hop
    exact ⟨grid', congrArg (Prod.mk w.1) happly⟩

/-- A run over a past ends as without it, and its events come after those of the past. -/
theorem run_withPast (w : State α) (grid : Grid α) (past : List Event) (inputs : List (Input α)) :
    ∃ grid' past', run (withPast w grid past) inputs = withPast (run w inputs) grid' past' ∧
      drained (withPast w grid past) inputs ++ past' = past ++ drained w inputs := by
  induction inputs generalizing w grid past with
  | nil => exact ⟨grid, past, rfl, (List.append_nil past).symm⟩
  | cons i rest ih =>
    by_cases hi : i = .operate .drain
    · subst hi
      -- the events of the past are taken together with those of the run
      obtain ⟨grid', past', hrun, hdrained⟩ := ih (apply w (.operate .drain)) grid []
      refine ⟨grid', past', hrun, ?_⟩
      change (past ++ w.2.events) ++ drained (withPast (apply w (.operate .drain)) grid []) rest ++
        past' = past ++ (w.2.events ++ drained (apply w (.operate .drain)) rest)
      rw [List.append_assoc, hdrained, List.nil_append, List.append_assoc]
    · obtain ⟨grid₁, happly⟩ := apply_withPast w grid past hi
      obtain ⟨grid', past', hrun, hdrained⟩ := ih (apply w i) grid₁ past
      have htaken (v : State α) : taken v i = [] := by
        cases i with
        | operate op => exact Simulation.taken_of_ne _ fun h => hi (congrArg Input.operate h)
        | _ => rfl
      refine ⟨grid', past', ?_, ?_⟩
      · change run (apply (withPast w grid past) i) rest = _
        rw [happly]
        exact hrun
      · rw [drained, drained, htaken, htaken, happly]
        exact hdrained

/-- A run from a state does what it does from the state without its past, whose events only come
first. -/
theorem run_present (t : GestureTracker α) (s : Simulation α) (inputs : List (Input α)) :
    let final := run (t, s) inputs
    let bare := run (t, s.present) inputs
    final.1 = bare.1 ∧ final.2.present = bare.2.present ∧
      drained (t, s) inputs ++ final.2.events =
        s.events ++ (drained (t, s.present) inputs ++ bare.2.events) := by
  have hpast : (t, s) = withPast (t, s.present) s.physics.grid s.events :=
    congrArg (Prod.mk t) s.eq_withPast
  obtain ⟨grid', past', hrun, hdrained⟩ :=
    run_withPast (t, s.present) s.physics.grid s.events inputs
  rw [← hpast] at hrun hdrained
  intro final bare
  have hfinal : final = withPast bare grid' past' := hrun
  rw [hfinal]
  refine ⟨rfl, Simulation.present_withPast _ _ _, ?_⟩
  change drained (t, s) inputs ++ (past' ++ bare.2.events) = _
  rw [← List.append_assoc, hdrained, List.append_assoc]

/-! ## What inputs keep -/

/-- A property that moves of the view keep, and operations but for the one that takes the
events. -/
structure Lasting (P : Simulation α → Prop) : Prop where
  operation : ∀ s op, op ≠ .drain → P s → P (s.apply op)
  view : ∀ s (m : Viewport.Move α), P s → P { s with viewport := s.viewport.perform m }

namespace Lasting

variable {P : Simulation α → Prop} {w : State α}

theorem down (hP : Lasting P) (hw : P w.2) (pointer : Int) (place : Point α) :
    P (GestureTracker.down w pointer place).2 := by
  obtain ⟨t, s⟩ := w
  have hbegun (index : Nat) : P (s.beginDrag index).1 := hP.operation s (.beginDrag index) nofun hw
  unfold GestureTracker.down
  dsimp only
  split
  · exact hw
  · split
    · exact hw
    · rename_i index _
      specialize hbegun index
      split
      · rename_i hs
        rwa [hs] at hbegun
      · rename_i hs
        rwa [hs] at hbegun

theorem move (hP : Lasting P) (hw : P w.2) (pointer : Int) (place : Point α) :
    P (GestureTracker.move w pointer place).2 := by
  obtain ⟨t, s⟩ := w
  have hdragged : P (s.dragTo (s.viewport.pointerToWorld place)).1 :=
    hP.operation s (.dragTo _) nofun hw
  unfold GestureTracker.move
  dsimp only
  split
  · exact hw
  · split
    · exact hP.operation s (.setHover _) nofun hw
    · split
      · rename_i s' hs
        rw [hs] at hdragged
        exact hP.operation s' (.setHover _) nofun hdragged
      · rename_i s' hs
        rwa [hs] at hdragged
    · exact hP.view s (.panFrom _ _) hw

theorem up (hP : Lasting P) (hw : P w.2) (pointer : Int) (place : Point α) :
    P (GestureTracker.up w pointer place).2 := by
  obtain ⟨t, s⟩ := w
  unfold GestureTracker.up
  dsimp only
  split
  · exact hw
  · split
    · exact hw
    · refine hP.operation _ .endDrag nofun ?_
      split
      · exact hw
      · exact hP.operation s (.select _) nofun hw
    · exact hw
    · split
      · exact hP.operation s (.select _) nofun hw
      · exact hP.operation s .deselect nofun hw

theorem leave (hP : Lasting P) (hw : P w.2) (pointer : Int) :
    P (GestureTracker.leave w pointer).2 := by
  obtain ⟨t, s⟩ := w
  unfold GestureTracker.leave
  dsimp only
  split
  · exact hw
  · refine hP.operation _ (.setHover none) nofun ?_
    split
    · exact hP.operation s .endDrag nofun hw
    · exact hw

theorem wheel (hP : Lasting P) (hw : P w.2) (place : Point α) (deltaY : α) :
    P (GestureTracker.wheel w place deltaY).2 := by
  obtain ⟨t, s⟩ := w
  have hzoomed := hP.view s (.wheel place deltaY) hw
  unfold GestureTracker.wheel
  dsimp only
  split
  · exact hP.operation _ (.dragTo _) nofun hzoomed
  · exact hzoomed

end Lasting

/-- A property that all operations keep, and moves of the view. -/
structure Kept (P : Simulation α → Prop) : Prop where
  operation : ∀ s op, P s → P (s.apply op)
  view : ∀ s (m : Viewport.Move α), P s → P { s with viewport := s.viewport.perform m }

namespace Kept

variable {P : Simulation α → Prop} {w : State α}

theorem lasting (hP : Kept P) : Lasting P := ⟨fun s op _ => hP.operation s op, hP.view⟩

theorem apply (hP : Kept P) (hw : P w.2) (i : Input α) : P (GestureTracker.apply w i).2 := by
  cases i with
  | down pointer place => exact hP.lasting.down hw pointer place
  | move pointer place => exact hP.lasting.move hw pointer place
  | up pointer place => exact hP.lasting.up hw pointer place
  | leave pointer => exact hP.lasting.leave hw pointer
  | wheel place deltaY => exact hP.lasting.wheel hw place deltaY
  | operate op => exact hP.operation w.2 op hw

/-- Inputs reach a simulation through its operations and by moving the view alone. -/
theorem run (hP : Kept P) (hw : P w.2) (inputs : List (Input α)) :
    P (GestureTracker.run w inputs).2 := by
  induction inputs generalizing w with
  | nil => exact hw
  | cons i rest ih => exact ih (hP.apply hw i)

end Kept

theorem setup_run (w : State α) (inputs : List (Input α)) :
    (run w inputs).2.setup = w.2.setup := by
  have hkept : Kept fun s : Simulation α => s.setup = w.2.setup := by
    refine ⟨fun s op h => (s.setup_apply op).trans h, fun s m h => ?_⟩
    rw [← h, Simulation.setup, Simulation.setup]
    exact congrArg (fun limits => (s.physics.params, limits, s.scale))
      (s.viewport.limits_perform m)
  exact hkept.run rfl inputs

/-! ## Main result -/

/-- Take two simulations made with the same settings, each with any past of gestures and operations,
that now have the same canvas and the same scattered places to come and both run or both pause. Load
into both a record with a node, and do the same with both from then on. They stay equal but for the
queue and the grid, answer the pointers alike, and the events from the load on are the same. -/
theorem load_erases_history (settings : Settings α) {t₀ t₀' : GestureTracker α}
    {width height ratio width' height' ratio' : α} {before before' : List (Input α)}
    {s s' : Simulation α}
    (hs : s = (run (t₀, .new settings width height ratio) before).2)
    (hs' : s' = (run (t₀', .new settings width' height' ratio') before').2)
    (hcanvas : s.canvas = s'.canvas) (hrunning : s.running = s'.running)
    (hscatter : s.scatter = s'.scatter) (raw : Json)
    (hnodes : 0 < (Graph.read raw s.scatter : Graph α × Scatter).1.size)
    (t : GestureTracker α) (inputs : List (Input α)) :
    let final := run (t, s.load raw) inputs
    let final' := run (t, s'.load raw) inputs
    final.1 = final'.1 ∧ final.2.present = final'.2.present ∧
      ∃ news, drained (t, s.load raw) inputs ++ final.2.events = s.deselect.events ++ news ∧
        drained (t, s'.load raw) inputs ++ final'.2.events = s'.deselect.events ++ news := by
  intro final final'
  have hsetup : s.setup = s'.setup := by
    rw [hs, hs', setup_run, setup_run]
    rfl
  have hpresent := Simulation.present_load hsetup hcanvas hrunning hscatter hnodes
  -- without their pasts both are one and the same state
  obtain ⟨htracker, hend, hheard⟩ := run_present t (s.load raw) inputs
  obtain ⟨htracker', hend', hheard'⟩ := run_present t (s'.load raw) inputs
  rw [← hpresent] at htracker' hend' hheard'
  refine ⟨htracker.trans htracker'.symm, hend.trans hend'.symm,
    Simulation.loadEvents (Graph.read raw s.scatter : Graph α × Scatter).1 ++
      (drained (t, (s.load raw).present) inputs ++ (run (t, (s.load raw).present) inputs).2.events),
    hheard.trans ?_, hheard'.trans ?_⟩
  · rw [Simulation.events_load, List.append_assoc]
  · rw [Simulation.events_load, ← hscatter, List.append_assoc]

def startState : State Float :=
  (new Settings.standard.interaction, .new Settings.standard 800 600 1)

/-- The pair hovered, selected, pinned and dragged, with the view on its way to one node. -/
def wornState : State Float :=
  run startState ([.load Simulation.pairRecord, .setHover (some 0), .togglePin "B", .beginDrag 0,
    .focus "B", .tick].map .operate)

theorem load_erases_history_worn :
    wornState.2.selected = some "B" ∧ wornState.2.viewport.animation.isSome = true ∧
      (run (startState.1, wornState.2.load Simulation.pairRecord)
        [.wheel ⟨400, 300⟩ 1, .operate .tick, .down 1 ⟨400, 300⟩]).2.present =
      (run (startState.1, startState.2.load Simulation.pairRecord)
        [.wheel ⟨400, 300⟩ 1, .operate .tick, .down 1 ⟨400, 300⟩]).2.present := by
  have hworn : wornState.2 = (run startState _).2 := rfl
  have hstart : startState.2 = (run startState []).2 := rfl
  have hcanvas : wornState.2.canvas = startState.2.canvas := rfl
  have hsame := load_erases_history Settings.standard hworn hstart hcanvas (by decide +kernel)
    (by decide +kernel) Simulation.pairRecord (by decide +kernel) startState.1
    [.wheel ⟨400, 300⟩ 1, .operate .tick, .down 1 ⟨400, 300⟩]
  exact ⟨by decide +kernel, by decide +kernel, hsame.2.1⟩

end NodeLink.GestureTracker
