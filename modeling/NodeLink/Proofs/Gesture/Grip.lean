import Mathlib.Data.List.DropRight
import NodeLink.Proofs.Gesture.View
import NodeLink.Proofs.View.Anchor
/-!
# The grip of a pan

A pointer that has pressed beside the nodes holds the view by the world point under it. As long as
it only moves, and as long as the wheel only turns, that point stays under it. But the pan starts
each time from the shift of the press, which belongs to the zoom of the press: the first movement
after a notch of the wheel loses the point.

* `Held`: a state with the place of the pointer; `Held.run`: movements and notches in any order.
* `Pans`: what each of them keeps while the pan lasts.
* `pan_grip`: the world point under the pointer after any movements and notches.
-/

namespace NodeLink

open Exact

/-- What happens while a pointer holds the view: it moves, or the wheel turns under it. -/
inductive PanStep (α : Type) where
  | glide (place : Point α)
  | notch (deltaY : α)

namespace PanStep

variable {α : Type} [Scalar α]

def isNotch : PanStep α → Bool
  | .notch _ => true
  | .glide _ => false

def Finite : PanStep α → Prop
  | .glide place => place.isFinite = true
  | .notch _ => True

end PanStep

def Gesture.isPanning {α : Type} : Gesture α → Bool
  | .panning .. => true
  | _ => false

namespace GestureTracker

/-! ## The press -/

/-- A press that begins a pan takes down where the pointer and the view are, and moves nothing. -/
theorem down_panning {α : Type} [Scalar α] {w : State α} (hidle : w.1.gesture.isIdle = true)
    {pointer : Int} {place : Point α}
    (hpan : (down w pointer place).1.gesture.isPanning = true) :
    (down w pointer place).1.gesture = .panning place w.2.viewport.shift false ∧
      (down w pointer place).1.owner = some pointer ∧
      (down w pointer place).2.viewport = w.2.viewport := by
  obtain ⟨t, s⟩ := w
  unfold down at hpan ⊢
  dsimp only at hidle hpan ⊢
  rw [hidle, Bool.not_true, if_neg Bool.false_ne_true] at hpan ⊢
  split at hpan
  · exact ⟨rfl, rfl, rfl⟩
  · next index _ =>
    have hviewport : (s.beginDrag index).1.viewport = s.viewport :=
      Simulation.viewport_of_outlook (Simulation.outlook_beginDrag s index)
    split at hpan
    · exact absurd hpan Bool.false_ne_true
    · next s' hbegun =>
      rw [hbegun] at hviewport
      simp only
      exact ⟨by rw [hviewport], trivial, hviewport⟩

/-- A state, and where on the page its pointer is. -/
structure Held (α : Type) where
  state : State α
  place : Point α

namespace Held

variable {α : Type} [Scalar α]

def view (h : Held α) : Viewport α := h.state.2.viewport

def zoom (h : Held α) : α := h.view.transform.k

/-- The world point under the pointer. -/
def world (h : Held α) : Point α := h.view.pointerToWorld h.place

def step (pointer : Int) (h : Held α) : PanStep α → Held α
  | .glide place => ⟨apply h.state (.move pointer place), place⟩
  | .notch deltaY => ⟨apply h.state (.wheel h.place deltaY), h.place⟩

def run (pointer : Int) (h : Held α) (steps : List (PanStep α)) : Held α :=
  steps.foldl (step pointer) h

/-- The place where the pointer pressed. -/
def pressed (w : State α) (pointer : Int) (place : Point α) : Held α :=
  ⟨apply w (.down pointer place), place⟩

theorem run_snoc (pointer : Int) (h : Held α) (steps : List (PanStep α)) (last : PanStep α) :
    h.run pointer (steps ++ [last]) = (h.run pointer steps).step pointer last := by
  rw [run, List.foldl_append]
  rfl

/-! ## One step of a pan -/

variable {h : Held α} {pointer : Int} {start viewStart : Point α} {moved : Bool}

theorem step_glide (hgesture : h.state.1.gesture = .panning start viewStart moved)
    (howner : h.state.1.owner = some pointer) (place : Point α) :
    h.step pointer (.glide place) =
      ⟨({ h.state.1 with
          gesture := .panning start viewStart (moved || h.state.1.travelled start place) },
        { h.state.2 with viewport := h.view.panFrom viewStart (place.sub start) }), place⟩ := by
  obtain ⟨⟨t, s⟩, here⟩ := h
  dsimp only at hgesture howner
  have hforeign : t.isForeign pointer = false := by
    simp only [isForeign, howner, bne_self_eq_false, Bool.and_false]
  simp only [step, apply, move, hforeign, hgesture, Bool.false_eq_true, if_false]
  rfl

theorem step_notch (hgesture : h.state.1.gesture = .panning start viewStart moved) (deltaY : α) :
    h.step pointer (.notch deltaY) =
      ⟨(h.state.1, { h.state.2 with viewport := h.view.wheel h.place deltaY }), h.place⟩ := by
  obtain ⟨⟨t, s⟩, here⟩ := h
  dsimp only at hgesture
  have hdragging : t.gesture.isDragging = false := by
    rw [hgesture]
    rfl
  simp only [step, apply, wheel, hdragging, Bool.false_eq_true, if_false]
  rfl

end Held

/-! ## While the pan lasts -/

/-- The pointer pans from where it pressed, over a view that maps the world to the canvas. -/
structure Pans (pointer : Int) (start h : Held Exact) : Prop where
  gesture : ∃ moved, h.state.1.gesture = .panning start.place start.view.shift moved
  owner : h.state.1.owner = some pointer
  ratio : h.view.ratio = start.view.ratio
  faithful : h.view.Faithful
  place : h.place.isFinite = true

namespace Pans

variable {pointer : Int} {start h : Held Exact}

theorem step (hstart : Pans pointer start start) (hh : Pans pointer start h) {last : PanStep Exact}
    (hlast : last.Finite) : Pans pointer start (h.step pointer last) := by
  obtain ⟨moved, hgesture⟩ := hh.gesture
  cases last with
  | glide place =>
    rw [Held.step_glide hgesture hh.owner]
    exact ⟨⟨_, rfl⟩, hh.owner, hh.ratio,
      hh.faithful.panFrom hstart.faithful.place (Point.finite_sub hlast hstart.place), hlast⟩
  | notch deltaY =>
    rw [Held.step_notch hgesture]
    have hratio : (h.view.wheel h.place deltaY).ratio = h.view.ratio :=
      h.view.wheel_cases h.place deltaY rfl fun _ => rfl
    exact ⟨⟨moved, hgesture⟩, hh.owner, hratio.trans hh.ratio, hh.faithful.wheel hh.place deltaY,
      hh.place⟩

theorem run (hstart : Pans pointer start start) {steps : List (PanStep Exact)}
    (hsteps : ∀ s ∈ steps, s.Finite) : Pans pointer start (start.run pointer steps) := by
  induction steps using List.reverseRecOn with
  | nil => exact hstart
  | append_singleton before last ih =>
    rw [Held.run_snoc]
    exact hstart.step (ih fun s hs => hsteps s (List.mem_append_left [last] hs))
      (hsteps last (List.mem_append_right before List.mem_cons_self))

theorem zoom_glide (hh : Pans pointer start h) (place : Point Exact) :
    (h.step pointer (.glide place)).zoom = h.zoom := by
  obtain ⟨moved, hgesture⟩ := hh.gesture
  rw [Held.step_glide hgesture hh.owner]
  rfl

/-- A movement brings the point of the press, drawn by the quotient of the zooms. -/
theorem world_glide (hstart : Pans pointer start start) (hh : Pans pointer start h)
    {place : Point Exact} (hplace : place.isFinite = true) :
    (h.step pointer (.glide place)).world = start.world.scale (start.zoom / h.zoom) := by
  obtain ⟨moved, hgesture⟩ := hh.gesture
  rw [Held.step_glide hgesture hh.owner]
  exact Viewport.panFrom_pointerToWorld hh.faithful hstart.faithful hh.ratio hstart.place hplace

theorem world_notch (hh : Pans pointer start h) (deltaY : Exact) :
    (h.step pointer (.notch deltaY)).world = h.world := by
  obtain ⟨moved, hgesture⟩ := hh.gesture
  rw [Held.step_notch hgesture]
  exact Viewport.wheel_pointerToWorld hh.faithful hh.place deltaY

/-! ## Any steps -/

/-- The zoom at the latest movement decides which point is under the pointer: notches after it
change nothing. -/
theorem world_run (hstart : Pans pointer start start) {steps : List (PanStep Exact)}
    (hsteps : ∀ s ∈ steps, s.Finite) :
    (start.run pointer steps).world = start.world.scale
      (start.zoom / (start.run pointer (steps.rdropWhile PanStep.isNotch)).zoom) := by
  -- from the right: a movement sets the view anew from the press, whatever came before it
  induction steps using List.reverseRecOn with
  | nil =>
    exact (Point.scale_div_self (hstart.faithful.finite_pointerToWorld hstart.place)
      hstart.faithful.zoom).symm
  | append_singleton before last ih =>
    have hbefore : ∀ s ∈ before, s.Finite := fun s hs => hsteps s (List.mem_append_left [last] hs)
    have hlast : last.Finite := hsteps last (List.mem_append_right before List.mem_cons_self)
    have hh := hstart.run hbefore
    rw [Held.run_snoc]
    cases last with
    | glide place =>
      rw [List.rdropWhile_concat_neg _ _ _ Bool.false_ne_true, Held.run_snoc, hh.zoom_glide]
      exact hstart.world_glide hh hlast
    | notch deltaY =>
      rw [List.rdropWhile_concat_pos _ _ _ rfl, hh.world_notch]
      exact ih hbefore

/-- Movements alone do not zoom. -/
theorem zoom_run (hstart : Pans pointer start start) {steps : List (PanStep Exact)}
    (hsteps : ∀ s ∈ steps, s.Finite) (hglides : ∀ s ∈ steps, s.isNotch = false) :
    (start.run pointer steps).zoom = start.zoom := by
  induction steps using List.reverseRecOn with
  | nil => rfl
  | append_singleton before last ih =>
    have hbefore : ∀ s ∈ before, s.Finite := fun s hs => hsteps s (List.mem_append_left [last] hs)
    rw [Held.run_snoc]
    cases last with
    | glide place =>
      rw [(hstart.run hbefore).zoom_glide]
      exact ih hbefore fun s hs => hglides s (List.mem_append_left _ hs)
    | notch deltaY =>
      exact absurd (hglides _ (List.mem_append_right before List.mem_cons_self)).symm
        Bool.false_ne_true

end Pans

/-! ## Main result -/

theorem pans_pressed {w : State Exact} (hw : Reachable w) (hplace : w.2.viewport.shift.isFinite = true)
    {pointer : Int} {place : Point Exact} (hpointer : place.isFinite = true)
    (hidle : w.1.gesture.isIdle = true)
    (hpan : (down w pointer place).1.gesture.isPanning = true) :
    Pans pointer (.pressed w pointer place) (.pressed w pointer place) := by
  obtain ⟨hgesture, howner, hviewport⟩ := down_panning hidle hpan
  have hview : (Held.pressed w pointer place).view = w.2.viewport := hviewport
  have hfaithful : (Held.pressed w pointer place).view.Faithful := by
    rw [hview]
    exact ⟨hw.zoomed, hplace⟩
  refine ⟨⟨false, ?_⟩, howner, rfl, hfaithful, hpointer⟩
  rw [hview]
  exact hgesture

/-- In any state that is reached and has the view at a finite place, let a pointer press and begin a
pan, and let it move and the wheel turn under it in any order. Then the world point under it is that
of the press, drawn by the quotient of the zoom of the press and the zoom at the latest movement. So
it is that of the press exactly if the two zooms are the same or it is the origin; they are the same
if no movement comes after a notch of the wheel. -/
theorem pan_grip {w : State Exact} (hw : Reachable w) (hplace : w.2.viewport.shift.isFinite = true)
    {pointer : Int} {place : Point Exact} (hpointer : place.isFinite = true)
    (hidle : w.1.gesture.isIdle = true)
    (hpan : (down w pointer place).1.gesture.isPanning = true) {steps : List (PanStep Exact)}
    (hsteps : ∀ s ∈ steps, s.Finite) :
    let start := Held.pressed w pointer place
    let now := start.run pointer steps
    let moved := start.run pointer (steps.rdropWhile PanStep.isNotch)
    now.world = start.world.scale (start.zoom / moved.zoom) ∧
      (now.world = start.world ↔ moved.zoom = start.zoom ∨ start.world = Point.origin) ∧
      ((∀ s ∈ steps.rdropWhile PanStep.isNotch, s.isNotch = false) → now.world = start.world) := by
  intro start now moved
  have hstart : Pans pointer start start := pans_pressed hw hplace hpointer hidle hpan
  have hbefore : ∀ s ∈ steps.rdropWhile PanStep.isNotch, s.Finite :=
    fun s hs => hsteps s ((List.rdropWhile_prefix _ steps).subset hs)
  have hmoved : Pans pointer start moved := hstart.run hbefore
  have hworld : now.world = start.world.scale (start.zoom / moved.zoom) := hstart.world_run hsteps
  have hsame : now.world = start.world ↔ moved.zoom = start.zoom ∨ start.world = Point.origin := by
    rw [hworld]
    exact Point.scale_div_eq_self_iff (hstart.faithful.finite_pointerToWorld hstart.place)
      hstart.faithful.zoom hmoved.faithful.zoom
  refine ⟨hworld, hsame, fun hglides => ?_⟩
  exact hsame.mpr (Or.inl (hstart.zoom_run hbefore hglides))

/-! ## A lost grip -/

/-- Nothing loaded, on a canvas of 800 by 600 pixels. -/
noncomputable def emptyState : State Exact :=
  (new GestureSettings.standard, Simulation.new Settings.standard 800 600 1)

theorem reachable_emptyState : Reachable emptyState :=
  ⟨Settings.standard, 800, 600, 1, [], rfl⟩

/-- Right of the middle, at the world point (100, 0). -/
noncomputable def grip : Point Exact := ⟨500, 300⟩

theorem isPanning_down_emptyState : (down emptyState 1 grip).1.gesture.isPanning = true := rfl

theorem viewport_emptyState : emptyState.2.viewport = Viewport.plainView := Viewport.new_plainView

/-- One notch of the wheel, and then a movement. -/
noncomputable def notchThenGlide : List (PanStep Exact) :=
  [.notch (-1), .glide ⟨520, 310⟩]

theorem finite_notchThenGlide : ∀ s ∈ notchThenGlide, s.Finite := by
  simp [notchThenGlide, PanStep.Finite, Point.isFinite_iff]

theorem isFinite_shift_emptyState : emptyState.2.viewport.shift.isFinite = true := by
  rw [viewport_emptyState]
  rfl

/-- The pointer has lost the point it pressed. -/
theorem world_notchThenGlide_ne :
    let start := Held.pressed emptyState 1 grip
    Reachable emptyState ∧ (down emptyState 1 grip).1.gesture.isPanning = true ∧
      start.world = ⟨100, 0⟩ ∧ (start.run 1 notchThenGlide).world = ⟨100 / 1.12, 0⟩ ∧
      (start.run 1 notchThenGlide).world ≠ start.world := by
  intro start
  have hstart : Pans 1 start start := pans_pressed reachable_emptyState isFinite_shift_emptyState
    rfl rfl isPanning_down_emptyState
  have hview : start.view = Viewport.plainView :=
    (down_panning (w := emptyState) rfl isPanning_down_emptyState).2.2.trans viewport_emptyState
  have hpressed : start.world = ⟨100, 0⟩ := by
    rw [Held.world, hview]
    simp only [start, Held.pressed, grip, Viewport.pointerToWorld, Viewport.toDevice,
      Viewport.toWorld, Transform.toWorld, Viewport.plainView, literal_eq, Nat.cast_one, real_mul,
      real_sub, real_div _ one_ne_zero]
    norm_num
  have hzoom : (start.step 1 (.notch (-1))).zoom = 1.12 := by
    obtain ⟨moved, hgesture⟩ := hstart.gesture
    rw [Held.step_notch hgesture]
    show (start.view.wheel start.place (-1)).transform.k = 1.12
    rw [hview]
    exact Viewport.zoom_wheel_standard rfl rfl rfl _
  have hnonzero : (1.12 : ℝ) ≠ 0 := by norm_num
  have hworld : (start.run 1 notchThenGlide).world = ⟨100 / 1.12, 0⟩ := by
    have hnotch : (PanStep.notch (-1 : Exact)).Finite := trivial
    have hplace : (⟨520, 310⟩ : Point Exact).isFinite = true := rfl
    have hone : start.zoom = 1 := congrArg (fun v => v.transform.k) hview
    have hglide : (start.run 1 notchThenGlide).world = start.world.scale (start.zoom / 1.12) := by
      rw [← hzoom]
      exact hstart.world_glide (hstart.step hstart hnotch) hplace
    rw [hglide, hpressed, hone]
    simp only [Point.scale, literal_eq, decimal_eq, real_div _ hnonzero, real_mul, Nat.cast_one,
      Nat.cast_zero, zero_div, mul_one_div]
  refine ⟨reachable_emptyState, isPanning_down_emptyState, hpressed, hworld, ?_⟩
  rw [hworld, hpressed]
  intro h
  have hx : (100 / 1.12 : Exact) = 100 := congrArg Point.x h
  rw [literal_eq, decimal_eq, real_div _ hnonzero, Exact.real.injEq] at hx
  norm_num at hx

theorem pan_grip_notchThenGlide :
    let start := Held.pressed emptyState 1 grip
    Reachable emptyState ∧ emptyState.2.viewport.shift.isFinite = true ∧ grip.isFinite = true ∧
      emptyState.1.gesture.isIdle = true ∧ (down emptyState 1 grip).1.gesture.isPanning = true ∧
      (∀ s ∈ notchThenGlide, s.Finite) ∧
      (start.run 1 notchThenGlide).world =
        start.world.scale (start.zoom / (start.run 1 notchThenGlide).zoom) :=
  ⟨reachable_emptyState, isFinite_shift_emptyState, rfl, rfl, isPanning_down_emptyState,
    finite_notchThenGlide, (pan_grip reachable_emptyState isFinite_shift_emptyState rfl rfl
      isPanning_down_emptyState finite_notchThenGlide).1⟩

end GestureTracker
end NodeLink
