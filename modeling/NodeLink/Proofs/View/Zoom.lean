import NodeLink.Proofs.View.Anchor
/-!
# Zooming in and out

The shift is solved anew for the zoom that the clamp leaves, so the world point under the anchor
stays whether or not a limit is hit. The lower limit gives way to a zoom that is below it already,
and no zoom is above the upper one: so the clamp takes a larger zoom to no smaller one than before,
and a smaller zoom to no larger one. Notches one way and the other are factors inverse to each
other, and what the shift has moved on the way it moves back.

* `Viewport.le_clampZoom`, `clampZoom_le`: the clamp does not turn a zoom round.
* `Viewport.notchFactor_opposite`: the factors of a notch one way and of one the other way.
* `Viewport.zoomTo_back`: to another zoom and back.
* `Viewport.run_zoomAt`: what each zoom does after any moves.
-/

namespace NodeLink

open Exact

namespace Exact

/-! ## Signs and clamps -/

theorem not_pos_of_neg {a : Exact} (h : a < 0) : ¬0 < a := by
  cases a with
  | real x => exact not_lt_of_gt (show x < (0 : ℕ) from h)
  | infinity s =>
    intro hpos
    exact absurd ((show s = true from h).symm.trans (show s = false from hpos)) (by decide)
  | nan => exact id

theorem beq_zero_of_lt {a : Exact} (h : 0 < a ∨ a < 0) : (a == 0) = false := by
  cases a with
  | real x =>
    refine decide_eq_false fun hx => ?_
    rcases h with h | h
    · exact ne_of_gt (show ((0 : ℕ) : ℝ) < x from h) hx
    · exact ne_of_lt (show x < ((0 : ℕ) : ℝ) from h) hx
  | infinity s => rfl
  | nan => rfl

section Clamp

variable {lo hi a c : Exact}

theorem le_clamp (hlo : Scalar.isFinite lo = true) (ha : Scalar.isFinite a = true) (hca : c ≤ a)
    (hchi : c ≤ hi) : c ≤ Scalar.clamp lo hi a := by
  obtain ⟨l, rfl⟩ := finite_iff.mp hlo
  obtain ⟨x, rfl⟩ := finite_iff.mp ha
  unfold Scalar.clamp
  split
  · next hlow => exact le_trans hca ((real_le x l).mpr (le_of_lt hlow))
  · split
    · exact hchi
    · exact hca

theorem clamp_le (hhi : Scalar.isFinite hi = true) (ha : Scalar.isFinite a = true) (hlo : lo ≤ c)
    (hac : a ≤ c) : Scalar.clamp lo hi a ≤ c := by
  obtain ⟨u, rfl⟩ := finite_iff.mp hhi
  obtain ⟨x, rfl⟩ := finite_iff.mp ha
  unfold Scalar.clamp
  split
  · exact hlo
  · split
    · next hhigh => exact le_trans ((real_le u x).mpr (le_of_lt hhigh)) hac
    · exact hac

end Clamp

namespace Positive

variable {a b : Exact}

theorem le_mul (ha : a.Positive) (hb : b.Positive) (h : 1 ≤ b) : a ≤ a * b := by
  obtain ⟨x, hx, rfl⟩ := ha
  obtain ⟨y, -, rfl⟩ := hb
  rw [literal_eq, real_le, Nat.cast_one] at h
  rw [real_mul, real_le]
  exact le_mul_of_one_le_right hx.le h

theorem mul_le (ha : a.Positive) (hb : b.Positive) (h : b ≤ 1) : a * b ≤ a := by
  obtain ⟨x, hx, rfl⟩ := ha
  obtain ⟨y, -, rfl⟩ := hb
  rw [literal_eq, real_le, Nat.cast_one] at h
  rw [real_mul, real_le]
  exact mul_le_of_le_one_right hx.le h

end Positive

end Exact

theorem ViewLimits.wheelStep_sanitized (l : ViewLimits Exact) : l.sanitized.wheelStep.Positive :=
  Positive.positiveOr l.wheelStep ⟨1.12, by norm_num, rfl⟩

/-- Moved by what the anchor has strayed at the zoom `k'`, and again at the zoom of before. -/
theorem shift_back {shift k k' x : Exact} (hshift : Scalar.isFinite shift = true) (hk : k.Positive)
    (hk' : k'.Positive) (hx : Scalar.isFinite x = true) :
    let moved := shift + (x - ((x - shift) / k * k' + shift))
    moved + (x - ((x - moved) / k' * k + moved)) = shift := by
  intro moved
  -- the anchor's place in the world is that of before the first zoom
  have hplace : (x - moved) / k' = (x - shift) / k := anchor_stays hshift hk hk' hx
  rw [hplace]
  obtain ⟨s, rfl⟩ := finite_iff.mp hshift
  obtain ⟨x, rfl⟩ := finite_iff.mp hx
  obtain ⟨k, hk, rfl⟩ := hk
  obtain ⟨k', -, rfl⟩ := hk'
  simp only [moved, real_sub, real_add, real_mul, real_div _ hk.ne']
  congr 1
  field_simp
  ring

namespace Viewport

variable {v : Viewport Exact}

/-! ## The clamp -/

theorem Zoomed.zoomFloor_le (hv : v.Zoomed) : v.zoomFloor ≤ v.transform.k :=
  Positive.min_le_right _ hv.zoom

theorem le_clampZoom (hv : v.Zoomed) (hle : v.transform.k ≤ v.maxK) {k : Exact} (hk : k.Positive)
    (hlarger : v.transform.k ≤ k) : v.transform.k ≤ v.clampZoom k := by
  rw [clampZoom, if_pos hk.finite]
  exact le_clamp (hv.scaled.zoomFloor hv.zoom).1.finite hk.finite hlarger hle

theorem clampZoom_le (hv : v.Zoomed) {k : Exact} (hk : k.Positive) (hsmaller : k ≤ v.transform.k) :
    v.clampZoom k ≤ v.transform.k := by
  rw [clampZoom, if_pos hk.finite]
  exact clamp_le hv.scaled.maxK.finite hk.finite hv.zoomFloor_le hsmaller

/-! ## Notches -/

theorem notchFactor_of_pos {step : ℝ} (hstep : 0 < step) (hlimit : v.limits.wheelStep = real step)
    {deltaY : Exact} (h : 0 < deltaY) : v.notchFactor deltaY = real step⁻¹ := by
  rw [notchFactor, if_pos h, hlimit, literal_eq, real_neg, pow_real _ hstep, Nat.cast_one,
    Real.rpow_neg_one]

theorem notchFactor_of_not_pos {step : ℝ} (hstep : 0 < step)
    (hlimit : v.limits.wheelStep = real step) {deltaY : Exact} (h : ¬0 < deltaY) :
    v.notchFactor deltaY = real step := by
  rw [notchFactor, if_neg h, hlimit, literal_eq, pow_real _ hstep, Nat.cast_one, Real.rpow_one]

/-- Whether two turns of the wheel are one up and one down. -/
def Opposite (deltaY deltaY' : Exact) : Prop :=
  (0 < deltaY ∧ deltaY' < 0) ∨ (deltaY < 0 ∧ 0 < deltaY')

theorem notchFactor_opposite (hstep : v.limits.wheelStep.Positive) {deltaY deltaY' : Exact}
    (h : Opposite deltaY deltaY') : ∃ f : ℝ, 0 < f ∧
      v.notchFactor deltaY = real f ∧ v.notchFactor deltaY' = real f⁻¹ := by
  obtain ⟨step, hpos, hlimit⟩ := hstep
  rcases h with ⟨hdown, hup⟩ | ⟨hup, hdown⟩
  · refine ⟨step⁻¹, inv_pos.mpr hpos, notchFactor_of_pos hpos hlimit hdown, ?_⟩
    rw [inv_inv]
    exact notchFactor_of_not_pos hpos hlimit (not_pos_of_neg hup)
  · exact ⟨step, hpos, notchFactor_of_not_pos hpos hlimit (not_pos_of_neg hup),
      notchFactor_of_pos hpos hlimit hdown⟩

theorem wheel_of_turned (v : Viewport Exact) (p : Point Exact) {deltaY : Exact}
    (hfinite : Scalar.isFinite deltaY = true) (h : 0 < deltaY ∨ deltaY < 0) :
    v.wheel p deltaY =
      v.zoomTo (v.toDevice p) (v.clampZoom (v.transform.k * v.notchFactor deltaY)) := by
  rw [wheel, beq_zero_of_lt h, hfinite]
  exact v.zoomAt_eq _ _

/-! ## There and back -/

theorem zoomTo_back (hv : v.Faithful) {anchor : Point Exact} (hanchor : anchor.isFinite = true)
    {k : Exact} (hk : k.Positive) : (v.zoomTo anchor k).zoomTo anchor v.transform.k = v := by
  obtain ⟨hx, hy⟩ := Point.isFinite_iff.mp hv.place
  obtain ⟨hanchorX, hanchorY⟩ := Point.isFinite_iff.mp hanchor
  have htransform : ((v.zoomTo anchor k).zoomTo anchor v.transform.k).transform = v.transform :=
    congrArg₂ (Transform.mk · · v.transform.k) (shift_back hx hv.zoom hk hanchorX)
      (shift_back hy hv.zoom hk hanchorY)
  exact congrArg (fun t => { v with transform := t }) htransform

/-- Notches one way and the other, neither of which hits a limit. -/
theorem wheel_back (hv : v.Faithful) (hstep : v.limits.wheelStep.Positive) {p : Point Exact}
    (hp : p.isFinite = true) {deltaY deltaY' : Exact} (hfinite : Scalar.isFinite deltaY = true)
    (hfinite' : Scalar.isFinite deltaY' = true) (h : Opposite deltaY deltaY')
    (hthere : (v.wheel p deltaY).transform.k = v.transform.k * v.notchFactor deltaY)
    (hback : ((v.wheel p deltaY).wheel p deltaY').transform.k =
      (v.wheel p deltaY).transform.k * v.notchFactor deltaY') :
    (v.wheel p deltaY).wheel p deltaY' = v := by
  have hturned : 0 < deltaY ∨ deltaY < 0 := h.imp And.left And.left
  have hturned' : 0 < deltaY' ∨ deltaY' < 0 := h.symm.imp And.right And.right
  have hzoomed : v.wheel p deltaY =
      v.zoomTo (v.toDevice p) (v.clampZoom (v.transform.k * v.notchFactor deltaY)) :=
    v.wheel_of_turned p hfinite hturned
  have hk := (hv.scaled.clampZoom hv.zoom (v.transform.k * v.notchFactor deltaY)).1
  generalize v.clampZoom (v.transform.k * v.notchFactor deltaY) = k at hzoomed hk
  -- the second notch ends at the zoom of before the first
  have hzoom : ((v.wheel p deltaY).wheel p deltaY').transform.k = v.transform.k := by
    obtain ⟨f, hf, hfactor, hfactor'⟩ := notchFactor_opposite hstep h
    obtain ⟨z, -, hz⟩ := hv.zoom
    rw [hback, hthere, hfactor, hfactor', hz, real_mul, real_mul, mul_inv_cancel_right₀ hf.ne']
  rw [(v.wheel p deltaY).wheel_of_turned p hfinite' hturned'] at hzoom ⊢
  change Viewport.clampZoom _ _ = v.transform.k at hzoom
  rw [hzoom, hzoomed]
  exact zoomTo_back hv (hv.scaled.finite_toDevice hp) hk

/-! ## After any moves -/

/-- With any limits, on a canvas of any finite size and at any ratio, and after any moves between
finite points and sizes, a zoom by a positive factor keeps the world point under its anchor, leads
in the direction of the factor or nowhere, and ends in the range that the zoom of before allows;
and a notch of the wheel is taken back by one the other way, unless the clamp has changed either
zoom. -/
theorem run_zoomAt (limits : ViewLimits Exact) {width height : Exact}
    (hwidth : Scalar.isFinite width = true) (hheight : Scalar.isFinite height = true)
    (ratio : Exact) {moves : List (Move Exact)} (hmoves : ∀ m ∈ moves, m.Finite) :
    let v := (new limits width height ratio).run moves
    (∀ anchor factor, anchor.isFinite = true → factor.Positive →
      let zoomed := v.zoomAt anchor factor
      zoomed.toWorld anchor = v.toWorld anchor ∧
        (1 ≤ factor → v.transform.k ≤ zoomed.transform.k) ∧
        (factor ≤ 1 → zoomed.transform.k ≤ v.transform.k) ∧
        Scalar.min v.minK v.transform.k ≤ zoomed.transform.k ∧ zoomed.transform.k ≤ v.maxK) ∧
      ∀ p deltaY deltaY', p.isFinite = true → Scalar.isFinite deltaY = true →
        Scalar.isFinite deltaY' = true → Opposite deltaY deltaY' →
        let there := v.wheel p deltaY
        let back := there.wheel p deltaY'
        there.transform.k = v.transform.k * v.notchFactor deltaY →
        back.transform.k = there.transform.k * there.notchFactor deltaY' → back = v := by
  intro v
  have hv : v.Usable := (run_keeps_usable (new_usable limits hwidth hheight ratio).2 hmoves).2
  have hfaithful : v.Faithful := ⟨⟨hv.scaled, hv.zoom⟩, hv.place⟩
  have hzoomed : v.Zoomed := hfaithful.toZoomed
  have hlimits : v.limits = limits.sanitized := limits_run _ moves
  have hstep : v.limits.wheelStep.Positive := by
    rw [hlimits]
    exact limits.wheelStep_sanitized
  constructor
  · intro anchor factor hanchor hfactor
    have hk : (v.transform.k * factor).Positive := hv.zoom.mul hfactor
    exact ⟨zoomAt_toWorld hfaithful hanchor factor,
      fun h => le_clampZoom hzoomed hv.zoom_le hk (hv.zoom.le_mul hfactor h),
      fun h => clampZoom_le hzoomed hk (hv.zoom.mul_le hfactor h),
      hzoomed.zoomFloor_le_clampZoom _, (hv.scaled.clampZoom hv.zoom _).2⟩
  · intro p deltaY deltaY' hp hfinite hfinite' hopposite there back hthere hback
    have hsame : there.notchFactor deltaY' = v.notchFactor deltaY' :=
      wheel_cases (motive := fun w => w.notchFactor deltaY' = v.notchFactor deltaY') v p deltaY rfl
        fun _ => rfl
    rw [hsame] at hback
    exact wheel_back hfaithful hstep hp hfinite hfinite' hopposite hthere hback

/-- A zoom that hits its limit, and a notch up and one down that hit none. -/
theorem run_zoomAt_plainView :
    (plainView.zoomAt ⟨5, 6⟩ 0.1).toWorld ⟨5, 6⟩ = plainView.toWorld ⟨5, 6⟩ ∧
      (plainView.wheel ⟨7, 8⟩ (-1)).wheel ⟨7, 8⟩ 1 = plainView := by
  have hneg : (-1 : Exact) < 0 := by
    rw [literal_eq, literal_eq, real_neg, real_lt]
    norm_num
  have hpos : (0 : Exact) < 1 := (Positive.literal 0).zero_lt
  have hstep : (0 : ℝ) < 1.12 := by norm_num
  have hthere : plainView.wheel ⟨7, 8⟩ (-1) =
      plainView.zoomTo (plainView.toDevice ⟨7, 8⟩) 1.12 := by
    rw [wheel_of_turned _ _ rfl (.inr hneg),
      ← zoom_wheel_standard (v := plainView) rfl rfl rfl ⟨7, 8⟩,
      wheel_of_turned _ _ rfl (.inr hneg)]
    rfl
  have hfactor : plainView.notchFactor (-1) = real 1.12 :=
    notchFactor_of_not_pos hstep rfl (not_pos_of_neg hneg)
  have hfactor' : (plainView.wheel ⟨7, 8⟩ (-1)).notchFactor 1 = real 1.12⁻¹ := by
    rw [hthere]
    exact notchFactor_of_pos hstep rfl hpos
  have hfirst : (new ViewLimits.standard 800 600 1).run [] = plainView := new_plainView
  have hwidth : Scalar.isFinite (800 : Exact) = true := rfl
  have hheight : Scalar.isFinite (600 : Exact) = true := rfl
  have hmoves : ∀ m ∈ ([] : List (Move Exact)), m.Finite := fun m hm => absurd hm List.not_mem_nil
  obtain ⟨hzoom, hwheel⟩ := run_zoomAt ViewLimits.standard hwidth hheight 1 hmoves
  rw [hfirst] at hzoom hwheel
  refine ⟨(hzoom ⟨5, 6⟩ 0.1 rfl ⟨0.1, by norm_num, rfl⟩).1, ?_⟩
  refine hwheel ⟨7, 8⟩ (-1) 1 rfl rfl rfl (.inr ⟨hneg, hpos⟩) ?_ ?_
  · rw [hthere, hfactor]
    show real 1.12 = real ((1 : ℕ) * 1.12)
    rw [Nat.cast_one, one_mul]
  · rw [wheel_of_turned _ _ rfl (.inl hpos), hfactor', hthere]
    show clampZoom _ (real 1.12 * real 1.12⁻¹) = real 1.12 * real 1.12⁻¹
    simp only [clampZoom, zoomFloor, minK, maxK, zoomTo, plainView, ViewLimits.standard, literal_eq,
      decimal_eq, real_mul, isFinite_real, if_true, min_real, clamp_real]
    norm_num

end Viewport
end NodeLink
