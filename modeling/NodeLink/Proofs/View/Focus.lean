import NodeLink.Proofs.View.Arrival
/-!
# A movement that nothing disturbs

From frame to frame a movement brings its point nearer to the middle of the canvas, on each axis by
itself. After `i` of `n` frames the distance left is the first one times `(1 - i / n) ^ 3`: it
shrinks, does not change sign and is gone with the last frame, and so is the movement. A movement
started on the way begins where the view has come to and shares nothing else with the one before.

* `Viewport.offMiddle_afterFrames`: the distance left after each frame.
* `Viewport.afterFrames_of_le`: frames beyond the last one.
* `Viewport.focus_run`: the movement as a whole.
-/

namespace NodeLink

open Exact

namespace Viewport

theorem movementFrames_pos {α : Type} (v : Viewport α) : 0 < v.movementFrames :=
  Nat.le_max_right _ _

/-! ## Frame by frame -/

section Frames

variable {α : Type} [Scalar α]

/-- The view after some frames of a movement to a world point. -/
def afterFrames (v : Viewport α) (p : Point α) (i : Nat) : Viewport α :=
  (v.animateTo p).run (List.replicate i .advance)

/-- How far from the middle of the canvas a world point is drawn. -/
def offMiddle (v : Viewport α) (p : Point α) : Point α := (v.toScreen p).sub v.middle

variable (v : Viewport α) (p : Point α)

theorem afterFrames_succ (i : Nat) : v.afterFrames p (i + 1) = (v.afterFrames p i).advance := by
  rw [afterFrames, List.replicate_succ', run_append]
  rfl

theorem animation_afterFrames {i : Nat} (hi : i < v.movementFrames) :
    (v.afterFrames p i).animation = some (v.movementTo p i) := by
  have hmoves : ∀ m ∈ List.replicate i (Move.advance : Move α), m.accompanies = true := by
    intro m hm
    rw [List.eq_of_mem_replicate hm]
    rfl
  have hcount : (List.replicate i (Move.advance : Move α)).countP Move.isAdvance = i :=
    List.countP_replicate.trans (if_pos rfl)
  have hstart : (v.animateTo p).animation = some (v.movementTo p 0) := rfl
  have hlasts := animation_run hstart hmoves (by rw [hcount, Nat.zero_add]; exact hi)
  rwa [hcount, Nat.zero_add] at hlasts

theorem afterFrames_underway {i : Nat} (hi : i < v.movementFrames) :
    v.afterFrames p (i + 1) = (v.afterFrames p i).underway (v.movementTo p (i + 1))
      (easeOut (Scalar.ofNat (i + 1) / Scalar.ofNat v.movementFrames)) := by
  rw [afterFrames_succ, advance_movementTo (v.animation_afterFrames p hi)]

theorem animation_afterFrames_last : (v.afterFrames p v.movementFrames).animation = none := by
  obtain ⟨i, hi⟩ := Nat.exists_eq_add_one_of_ne_zero v.movementFrames_pos.ne'
  have hlast := v.afterFrames_underway p (i := i) (by omega)
  rw [← hi] at hlast
  rw [hlast]
  exact if_pos (Nat.le_refl v.movementFrames)

/-- Once a movement has ended, frames change nothing. -/
theorem afterFrames_of_le {i : Nat} (hi : v.movementFrames ≤ i) :
    v.afterFrames p i = v.afterFrames p v.movementFrames := by
  induction i, hi using Nat.le_induction with
  | base => rfl
  | succ i _ ih =>
    rw [afterFrames_succ, ih, advance, v.animation_afterFrames_last p]

theorem isSome_animation_afterFrames (i : Nat) :
    (v.afterFrames p i).animation.isSome = true ↔ i < v.movementFrames := by
  constructor
  · intro hon
    by_contra hi
    rw [v.afterFrames_of_le p (Nat.le_of_not_lt hi), v.animation_afterFrames_last p] at hon
    exact Bool.false_ne_true hon
  · intro hi
    rw [v.animation_afterFrames p hi]
    rfl

/-- A movement takes from the view it starts in only where that is. -/
theorem animateTo_afterFrames (i : Nat) (q : Point α) :
    (v.afterFrames p i).animateTo q = (v.movedTo (v.afterFrames p i).shift).animateTo q := by
  obtain ⟨place, animation, hframes⟩ := (v.animateTo p).exists_frames i
  rw [show v.afterFrames p i = _ from hframes]
  rfl

end Frames

/-! ## The distance left -/

/-- What is left on one axis when a part of the way has been made. -/
theorem way_left {x shift side k : Exact} (hx : Scalar.isFinite x = true)
    (hshift : Scalar.isFinite shift = true) (hside : Scalar.isFinite side = true) (hk : k.Positive)
    (part : ℝ) :
    x * k + (shift + (side * 0.5 - x * k - shift) * real (1 - part)) - side * 0.5 =
      (x * k + shift - side * 0.5) * real part := by
  obtain ⟨x, rfl⟩ := finite_iff.mp hx
  obtain ⟨s, rfl⟩ := finite_iff.mp hshift
  obtain ⟨w, rfl⟩ := finite_iff.mp hside
  obtain ⟨k, -, rfl⟩ := hk
  simp only [decimal_eq, real_mul, real_sub, real_add]
  congr 1
  ring

/-- What part of the way is left after `i` of `n` frames. -/
noncomputable def partLeft (n i : ℕ) : ℝ := (1 - i / n) ^ 3

theorem partLeft_zero (n : ℕ) : partLeft n 0 = 1 := by
  rw [partLeft, Nat.cast_zero, zero_div, sub_zero, one_pow]

theorem partLeft_last {n : ℕ} (hn : 0 < n) : partLeft n n = 0 := by
  rw [partLeft, div_self (Nat.cast_pos.mpr hn).ne', sub_self, zero_pow (by decide)]

theorem partLeft_succ {n i : ℕ} (hi : i < n) :
    0 ≤ partLeft n (i + 1) ∧ partLeft n (i + 1) < partLeft n i := by
  have hn : (0 : ℝ) < n := Nat.cast_pos.mpr (Nat.zero_lt_of_lt hi)
  have hreached : ((i + 1 : ℕ) : ℝ) / n ≤ 1 := (div_le_one hn).mpr (Nat.cast_le.mpr hi)
  have hstep : (i : ℝ) / n < (i + 1 : ℕ) / n :=
    div_lt_div_of_pos_right (Nat.cast_lt.mpr i.lt_succ_self) hn
  have hleft : 0 ≤ 1 - ((i + 1 : ℕ) : ℝ) / n := sub_nonneg.mpr hreached
  exact ⟨pow_nonneg hleft 3, pow_lt_pow_left₀ (sub_lt_sub_left hstep 1) hleft (by decide)⟩

/-- Nearer to zero and on the same side of it; only zero stays. -/
def Shrinks (a b : Exact) : Prop :=
  0 ≤ a * b ∧ (a = 0 ∧ b = 0 ∨ Scalar.abs b < Scalar.abs a)

theorem shrinks_mul {a : Exact} (ha : Scalar.isFinite a = true) {r s : ℝ} (hs : 0 ≤ s)
    (hsr : s < r) : Shrinks (a * real r) (a * real s) := by
  obtain ⟨x, rfl⟩ := finite_iff.mp ha
  have hr : 0 ≤ r := hs.trans hsr.le
  rw [real_mul, real_mul, Shrinks, real_mul, abs_real, abs_real, literal_eq, real_le, real_lt,
    Nat.cast_zero, mul_mul_mul_comm]
  refine ⟨mul_nonneg (mul_self_nonneg x) (mul_nonneg hr hs), ?_⟩
  rcases eq_or_ne x 0 with rfl | hx
  · rw [zero_mul, zero_mul]
    exact Or.inl ⟨rfl, rfl⟩
  · rw [abs_mul, abs_mul, abs_of_nonneg hr, abs_of_nonneg hs]
    exact Or.inr (mul_lt_mul_of_pos_left hsr (abs_pos.mpr hx))

section Distance

variable {v : Viewport Exact} {p : Point Exact}

theorem finite_offMiddle (hk : v.transform.k.Positive) (hplace : v.shift.isFinite = true)
    (hwidth : Scalar.isFinite v.width = true) (hheight : Scalar.isFinite v.height = true)
    (hp : p.isFinite = true) : (v.offMiddle p).isFinite = true := by
  refine Point.finite_sub (Transform.finite_toScreen hplace hk hp) (Point.isFinite_iff.mpr ?_)
  exact ⟨finite_mul hwidth (isFinite_real _), finite_mul hheight (isFinite_real _)⟩

theorem offMiddle_afterFrames (hk : v.transform.k.Positive) (hplace : v.shift.isFinite = true)
    (hwidth : Scalar.isFinite v.width = true) (hheight : Scalar.isFinite v.height = true)
    (hp : p.isFinite = true) {i : ℕ} (hi : i ≤ v.movementFrames) :
    (v.afterFrames p i).offMiddle p =
      (v.offMiddle p).scale (real (partLeft v.movementFrames i)) := by
  cases i with
  | zero =>
    rw [partLeft_zero, Point.scale_one (finite_offMiddle hk hplace hwidth hheight hp)]
    rfl
  | succ i =>
    obtain ⟨hshiftX, hshiftY⟩ := Point.isFinite_iff.mp hplace
    obtain ⟨hx, hy⟩ := Point.isFinite_iff.mp hp
    obtain ⟨place, animation, hframes⟩ := (v.animateTo p).exists_frames i
    rw [v.afterFrames_underway p hi, easeOut_frame hi v.movementFrames_pos,
      show v.afterFrames p i = _ from hframes]
    exact congrArg₂ Point.mk (way_left hx hshiftX hwidth hk _) (way_left hy hshiftY hheight hk _)

end Distance

/-- A movement to a world point that nothing disturbs, in `n` frames. It lasts until the last of
them, never changes the zoom, and with each frame brings the point nearer to the middle of the
canvas, until it is there. Further frames change nothing. A movement started on the way runs as if
the view had always been where it has come to. -/
theorem focus_run {v : Viewport Exact} (hk : v.transform.k.Positive)
    (hplace : v.shift.isFinite = true) (hwidth : Scalar.isFinite v.width = true)
    (hheight : Scalar.isFinite v.height = true) {p : Point Exact} (hp : p.isFinite = true) {n : ℕ}
    (hn : 1 ≤ n) (hframes : v.limits.focusFrames = n) :
    let after := v.afterFrames p
    (∀ i, (after i).animation.isSome = true ↔ i < n) ∧
      (∀ i, (after i).transform.k = v.transform.k) ∧
      (∀ i < n, Shrinks ((after i).offMiddle p).x ((after (i + 1)).offMiddle p).x ∧
        Shrinks ((after i).offMiddle p).y ((after (i + 1)).offMiddle p).y) ∧
      (after n).offMiddle p = Point.origin ∧
      (∀ i, n ≤ i → after i = after n) ∧
      ∀ i q moves, ((after i).animateTo q).run moves =
        ((v.movedTo (after i).shift).animateTo q).run moves := by
  intro after
  have hcount : v.movementFrames = n := by
    rw [movementFrames, hframes]
    exact Nat.max_eq_left hn
  have hfinite := finite_offMiddle hk hplace hwidth hheight hp
  obtain ⟨hx, hy⟩ := Point.isFinite_iff.mp hfinite
  have hleft : ∀ i ≤ n, (after i).offMiddle p = (v.offMiddle p).scale (real (partLeft n i)) := by
    rw [← hcount]
    exact fun i hi => offMiddle_afterFrames hk hplace hwidth hheight hp hi
  refine ⟨?_, ?_, ?_, ?_, ?_, ?_⟩
  · rw [← hcount]
    exact v.isSome_animation_afterFrames p
  · exact fun i => (run_frames (v.animateTo p) i).1
  · intro i hi
    obtain ⟨hpart, hless⟩ := partLeft_succ hi
    rw [hleft i hi.le, hleft (i + 1) hi]
    exact ⟨shrinks_mul hx hpart hless, shrinks_mul hy hpart hless⟩
  · rw [hleft n (Nat.le_refl n), partLeft_last hn, Point.scale_zero hfinite]
  · rw [← hcount]
    exact fun i hi => v.afterFrames_of_le p hi
  · intro i q moves
    rw [show after i = _ from rfl, animateTo_afterFrames]

theorem focus_run_plainView :
    let after := plainView.afterFrames beside
    plainView.transform.k.Positive ∧ plainView.limits.focusFrames = 16 ∧
      (after 15).animation.isSome = true ∧ (after 16).offMiddle beside = Point.origin ∧
      Shrinks ((after 0).offMiddle beside).x ((after 1).offMiddle beside).x ∧
      after 20 = after 16 := by
  intro after
  obtain ⟨hlasts, -, hnearer, hends, hstays, -⟩ := focus_run faithful_plainView.zoom
    faithful_plainView.place rfl rfl (p := beside) rfl (n := 16) (by decide) rfl
  exact ⟨faithful_plainView.zoom, rfl, (hlasts 15).mpr (by decide), hends,
    (hnearer 0 (by decide)).1, hstays 20 (by decide)⟩

end Viewport
end NodeLink
