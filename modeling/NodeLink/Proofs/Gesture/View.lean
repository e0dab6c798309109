import NodeLink.Proofs.Gesture.History
import NodeLink.Proofs.View.Range
/-!
# Where the view comes from

Whatever is done to a widget, its view is moved by the moves of a viewport and by nothing else. So
what holds of a viewport after any moves holds of the view in every state that is reached.

* `Simulation.exists_moves_apply`: the moves that an operation makes.
* `GestureTracker.Reachable.exists_moves`: the view of a reachable state is a first view, moved.
* `GestureTracker.Reachable.zoomed`: its limits are in order and its zoom is positive.
* `GestureTracker.loneState`: a node in the middle of the canvas, where a press finds it.
-/

namespace NodeLink

variable {α : Type}

namespace Simulation

theorem viewport_of_outlook {s s' : Simulation α} (h : s'.outlook = s.outlook) :
    s'.viewport = s.viewport := congrArg Outlook.viewport h

theorem viewport_setRunning (s : Simulation α) (running : Bool) :
    (s.setRunning running).viewport = s.viewport :=
  congrArg Outlook.viewport (outlook_setRunning s running)

variable [Scalar α]

theorem viewport_select (s : Simulation α) (id : String) : (s.select id).1.viewport = s.viewport :=
  congrArg Outlook.viewport (outlook_select s id)

theorem viewport_load (s : Simulation α) (raw : Json) :
    (s.load raw).viewport =
      s.viewport.fit (Holding.ofGraph (Graph.read raw s.scatter).1).graph.bounds? := by
  rw [load_eq, setGraph_eq]

/-- A move that an operation may make: only one that resizes the canvas makes one that does. -/
def Allows (op : Operation α) : Viewport.Move α → Prop
  | .resize width height ratio => op = .resize width height ratio
  | _ => True

/-- An operation fits the view, resizes it, starts or carries on a movement, or leaves it. -/
theorem exists_moves_apply (s : Simulation α) (op : Operation α) :
    ∃ moves, (∀ m ∈ moves, Allows op m) ∧ (s.apply op).viewport = s.viewport.run moves := by
  have hkept {v : Viewport α} (hv : v = s.viewport) :
      ∃ moves, (∀ m ∈ moves, Allows op m) ∧ v = s.viewport.run moves :=
    ⟨[], fun _ hm => absurd hm List.not_mem_nil, hv⟩
  have hmoved {v : Viewport α} (m : Viewport.Move α) (hm : Allows op m)
      (hv : v = s.viewport.perform m) :
      ∃ moves, (∀ m ∈ moves, Allows op m) ∧ v = s.viewport.run moves :=
    ⟨[m], List.forall_mem_singleton.mpr hm, hv⟩
  cases hl : op.loads with
  | true =>
    obtain ⟨raw, hraw⟩ := apply_of_loads hl
    rw [hraw, viewport_load]
    exact hmoved (.fit _) trivial rfl
  | false =>
    cases op with
    | load raw => exact absurd hl.symm Bool.false_ne_true
    | loadText text =>
      rw [apply_loadText hl]
      exact hkept rfl
    | tick => exact hmoved .advance trivial (congrArg Outlook.viewport (outlook_tick s))
    | resize width height ratio => exact hmoved (.resize width height ratio) rfl rfl
    | fit => exact hmoved (.fit s.graph.bounds?) trivial rfl
    | select id => exact hkept (viewport_select s id)
    | deselect => exact hkept (congrArg Outlook.viewport (outlook_deselect s))
    | focus id =>
      rw [apply, focus]
      split
      · exact hkept rfl
      · next n _ =>
        exact hmoved (.animateTo n.position) trivial
          (congrArg (fun v => v.animateTo n.position) (viewport_select s id))
    | setRunning running => exact hkept (viewport_setRunning s running)
    | toggleRunning => exact hkept (viewport_setRunning s _)
    | togglePin id => exact hkept (viewport_of_outlook (outlook_togglePin s id))
    | beginDrag i => exact hkept (viewport_of_outlook (outlook_beginDrag s i))
    | dragTo place => exact hkept (viewport_of_outlook (outlook_dragTo s place))
    | endDrag => exact hkept (viewport_of_outlook (outlook_endDrag s))
    | setHover | reheat | toast | drain => exact hkept rfl

end Simulation

namespace GestureTracker

variable [Scalar α]

theorem exists_moves_run (w : State α) (inputs : List (Input α)) :
    ∃ moves, (run w inputs).2.viewport = w.2.viewport.run moves := by
  have hkept : Kept fun s : Simulation α => ∃ moves, s.viewport = w.2.viewport.run moves := by
    refine ⟨fun s op ⟨before, h⟩ => ?_, fun s m ⟨before, h⟩ => ?_⟩
    · obtain ⟨moves, -, hmoves⟩ := s.exists_moves_apply op
      exact ⟨before ++ moves, by rw [hmoves, h, Viewport.run_append]⟩
    · have hmoved : s.viewport.perform m = w.2.viewport.run (before ++ [m]) := by
        rw [Viewport.run_append, ← h]
        rfl
      exact ⟨before ++ [m], hmoved⟩
  exact hkept.run ⟨[], rfl⟩ inputs

theorem Reachable.exists_moves {w : State α} (hw : Reachable w) :
    ∃ limits width height ratio moves,
      w.2.viewport = (Viewport.new limits width height ratio).run moves := by
  obtain ⟨settings, width, height, ratio, inputs, rfl⟩ := hw
  obtain ⟨moves, hmoves⟩ := exists_moves_run
    (new settings.interaction, Simulation.new settings width height ratio) inputs
  exact ⟨settings.viewport, width, height, ratio, moves, hmoves⟩

theorem Reachable.zoomed {w : State Exact} (hw : Reachable w) : w.2.viewport.Zoomed := by
  obtain ⟨limits, width, height, ratio, moves, hmoves⟩ := hw.exists_moves
  rw [hmoves]
  exact (Viewport.new_zoomed limits width height ratio).1.run moves

/-! ## A node to press -/

open Exact

/-- A single node, in the middle of the world. -/
def loneRecord : Json :=
  .object [("nodes", .array [.object [("id", .string "A"), ("x", .number (.int 0)),
    ("y", .number (.int 0))]])]

/-- The node on a canvas of 800 by 600 pixels. -/
noncomputable def loneState : State Exact :=
  run (new Settings.standard.interaction, Simulation.new Settings.standard 800 600 1)
    [.operate (.load loneRecord)]

theorem reachable_loneState : Reachable loneState :=
  ⟨Settings.standard, 800, 600, 1, [.operate (.load loneRecord)], rfl⟩

theorem exists_nodes_loneState : ∃ n, loneState.2.graph.nodes = #[n] ∧ n.id = "A" ∧
    n.position = Point.origin ∧ n.radius = 4 := ⟨_, rfl, rfl, rfl, rfl⟩

/-- The view shows the node in the middle of the canvas. -/
theorem exists_zoom_loneState : ∃ k : ℝ, 0 < k ∧
    loneState.2.viewport.transform = ⟨real 400, real 300, real k⟩ ∧
    loneState.2.viewport.ratio = 1 := by
  have hfit : loneState.2.viewport = Viewport.plainView.fit (some ⟨Point.origin, Point.origin⟩) :=
    congrArg (Viewport.fit · (some ⟨Point.origin, Point.origin⟩)) Viewport.new_plainView
  obtain ⟨k, hk, hzoom⟩ := reachable_loneState.zoomed.zoom
  have hmiddle (k : ℝ) : Viewport.plainView.centered (Bounds.center ⟨Point.origin, Point.origin⟩)
      (real k) = ⟨real 400, real 300, real k⟩ := by
    simp only [Viewport.centered, Viewport.plainView, Bounds.center, Point.origin, literal_eq,
      decimal_eq, real_add, real_mul, real_sub]
    norm_num
  rw [hfit] at hzoom ⊢
  refine ⟨k, hk, ?_, rfl⟩
  rw [← hmiddle k, ← hzoom]
  rfl

theorem pick_loneState : loneState.2.pick ⟨400, 300⟩ = some 0 := by
  obtain ⟨k, hk, htransform, hratio⟩ := exists_zoom_loneState
  obtain ⟨n, hnodes, -, hplace, hradius⟩ := exists_nodes_loneState
  have hworld : loneState.2.viewport.toWorld (loneState.2.viewport.toDevice ⟨400, 300⟩) =
      Point.origin := by
    rw [Viewport.toWorld, htransform, Viewport.toDevice, hratio]
    simp only [Transform.toWorld, Point.origin, literal_eq, real_mul, real_sub, real_div _ hk.ne']
    norm_num
  have hslop : loneState.2.sizes.hitSlop = real (10 / k) := by
    show Scale.worldLength loneState.2.viewport.transform.k loneState.2.viewport.ratio 10 = _
    rw [htransform, hratio]
    simp only [Scale.worldLength, literal_eq, real_mul, real_div _ hk.ne']
    norm_num
  have hhit : n.hit? Point.origin (real (10 / k)) = some 0 := by
    have hreach : 0 < (4 + 10 / k) * (4 + 10 / k) := by positivity
    rw [Node.hit?, hplace, hradius]
    simp only [Point.origin, literal_eq, real_add, real_mul, real_sub, real_lt]
    simp [hreach]
  rw [Simulation.pick, pick?, hworld, hslop, Graph.pickAt?, hnodes]
  simp [betterHit, hhit]

end GestureTracker
end NodeLink
