import NodeLink.Proofs.Highlight.Range
import NodeLink.Proofs.Simulation.Past
/-!
# The highlight of a simulation

An operation does at most one thing to the highlight: it sets what is hovered, lets a frame pass, or
clears it. So what holds of a highlight after any acts holds in every state that is reached.

* `Simulation.act?`, `highlight_apply`: what an operation does to the highlight.
* `Simulation.Reachable.ranged`: all intensities are in range.
* `Simulation.nodeAt_le_run`: as long as an id is a target it does not get darker.
-/

namespace NodeLink.Simulation

open Exact

section

variable {α : Type}

theorem highlight_of_outlook {s s' : Simulation α} (h : s'.outlook = s.outlook) :
    s'.highlight = s.highlight := congrArg Outlook.highlight h

theorem highlight_setRunning (s : Simulation α) (running : Bool) :
    (s.setRunning running).highlight = s.highlight :=
  congrArg Outlook.highlight (outlook_setRunning s running)

variable [Scalar α]

theorem highlight_select (s : Simulation α) (id : String) :
    (s.select id).1.highlight = s.highlight := congrArg Outlook.highlight (outlook_select s id)

theorem highlight_focus (s : Simulation α) (id : String) :
    (s.focus id).1.highlight = s.highlight := by
  unfold focus
  split
  · rfl
  · exact highlight_select s id

theorem highlight_load (s : Simulation α) (raw : Json) : (s.load raw).highlight = {} := by
  rw [load_eq, setGraph_eq]

end

/-- The time of a frame. -/
noncomputable def frameSpan : NNReal := ⟨0.016, by norm_num⟩

/-- What an operation does to the highlight, if it does anything. -/
noncomputable def act? (s : Simulation Exact) : Operation Exact → Option Highlight.Act
  | .tick => some (.tick frameSpan)
  | .setHover index =>
    some (.setHover (index.bind s.graph.idAt?) ((index.map s.neighborIds).getD []))
  | op => if op.loads then some .clear else none

theorem highlight_apply (s : Simulation Exact) (op : Operation Exact) :
    (s.apply op).highlight = ((s.act? op).map s.highlight.perform).getD s.highlight := by
  cases op with
  | load raw => exact highlight_load s raw
  | loadText text =>
    have hact : s.act? (.loadText text) =
        if (Operation.loadText text : Operation Exact).loads then some .clear else none := rfl
    rw [hact]
    cases hl : (Operation.loadText text : Operation Exact).loads with
    | true =>
      obtain ⟨raw, hraw⟩ := apply_of_loads hl
      rw [hraw, highlight_load]
      rfl
    | false =>
      rw [apply_loadText hl]
      rfl
  | tick => exact congrArg Outlook.highlight (outlook_tick s)
  | setHover index => rfl
  | select id => exact highlight_select s id
  | deselect => exact congrArg Outlook.highlight (outlook_deselect s)
  | focus id => exact highlight_focus s id
  | setRunning running => exact highlight_setRunning s running
  | toggleRunning => exact highlight_setRunning s _
  | togglePin id => exact highlight_of_outlook (outlook_togglePin s id)
  | beginDrag i => exact highlight_of_outlook (outlook_beginDrag s i)
  | dragTo place => exact highlight_of_outlook (outlook_dragTo s place)
  | endDrag => exact highlight_of_outlook (outlook_endDrag s)
  | resize | fit | reheat | toast | drain => rfl

theorem exists_act_apply (s : Simulation Exact) (op : Operation Exact) :
    (s.apply op).highlight = s.highlight ∨
      ∃ act, (s.apply op).highlight = s.highlight.perform act := by
  rw [highlight_apply]
  cases s.act? op with
  | none => exact Or.inl rfl
  | some act => exact Or.inr ⟨act, rfl⟩

variable {s : Simulation Exact}

theorem ranged_apply (hs : s.highlight.Ranged) (op : Operation Exact) :
    (s.apply op).highlight.Ranged := by
  rcases s.exists_act_apply op with hkept | ⟨act, hact⟩
  · rwa [hkept]
  · rw [hact]
    exact hs.perform act

theorem Reachable.ranged (hs : s.Reachable) : s.highlight.Ranged :=
  Reachable.induction (P := fun s : Simulation Exact => s.highlight.Ranged)
    (fun _ _ _ _ => Highlight.ranged_empty) (fun _ op h => ranged_apply h op) hs

/-! ## Targets -/

theorem nodeAt_le_apply (hs : s.highlight.Ranged) {id : String} (hid : id ∈ s.highlight.targets)
    {op : Operation Exact} (hnext : id ∈ (s.apply op).highlight.targets) :
    s.highlight.nodeAt id ≤ (s.apply op).highlight.nodeAt id := by
  rcases s.exists_act_apply op with hkept | ⟨act, hact⟩
  · obtain ⟨x, hx, -, -⟩ := hs.nodeAt_range id
    rw [hkept, hx, real_le]
  · rw [hact] at hnext ⊢
    exact hs.nodeAt_le_perform hid hnext

/-- Through operations that never take an id from the targets its intensity does not fall. -/
theorem nodeAt_le_run (hs : s.highlight.Ranged) {id : String} {ops : List (Operation Exact)}
    (hid : ∀ first, first <+: ops → id ∈ (s.run first).highlight.targets) :
    s.highlight.nodeAt id ≤ (s.run ops).highlight.nodeAt id := by
  induction ops generalizing s with
  | nil =>
    obtain ⟨x, hx, -, -⟩ := hs.nodeAt_range id
    show s.highlight.nodeAt id ≤ s.highlight.nodeAt id
    rw [hx, real_le]
  | cons op rest ih =>
    have hstart : id ∈ s.highlight.targets := hid [] List.nil_prefix
    have hnext : ∀ first, first <+: rest → id ∈ ((s.apply op).run first).highlight.targets :=
      fun first hfirst => hid (op :: first) ((List.prefix_cons_inj op).mpr hfirst)
    exact Exact.le_trans (nodeAt_le_apply hs hstart (hnext [] List.nil_prefix))
      (ih (ranged_apply hs op) hnext)

end NodeLink.Simulation
