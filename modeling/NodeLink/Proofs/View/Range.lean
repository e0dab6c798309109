import NodeLink.Proofs.View.Usable
/-!
# The range of the zoom

The limits of the zoom are multiplied by the pixel ratio, and a zoom below the lower one may stay.
A fit takes the zoom there, but so does a ratio that grows: the limit then rises past the zoom. So
without a fit the zoom is bounded below by the limit at the lowest ratio that the view has had.

* `Viewport.zoom_perform`: a move that does not fit leaves the zoom or clamps it.
* `Viewport.Zoomed`: limits in order and a positive zoom, which every move keeps.
* `Viewport.lowestRatio`, `run_zoom_range`: the range of the zoom after any moves but fits.
-/

namespace NodeLink

open Exact

namespace Viewport

section Moves

variable {α : Type} [Scalar α]

def Move.fits : Move α → Bool
  | .fit _ => true
  | _ => false

/-- The lowest ratio of the view on its way through the moves, before the first and after the last
included. -/
def lowestRatio (v : Viewport α) : List (Move α) → α
  | [] => v.ratio
  | m :: rest => Scalar.min v.ratio ((v.perform m).lowestRatio rest)

/-- A move that is no fit leaves zoom and ratio, or it clamps a zoom within the new limits; for the
lower one the zoom of before counts. -/
theorem zoom_perform (v : Viewport α) {m : Move α} (hm : m.fits = false) :
    ((v.perform m).transform.k = v.transform.k ∧ (v.perform m).ratio = v.ratio) ∨
      ∃ k, (v.perform m).transform.k = ((v.perform m).withZoom v.transform.k).clampZoom k := by
  cases m with
  | resize => exact Or.inr ⟨v.transform.k, rfl⟩
  | zoomAt anchor factor => exact Or.inr ⟨v.transform.k * factor, rfl⟩
  | wheel p deltaY =>
    rw [perform]
    exact v.wheel_cases p deltaY (Or.inl ⟨rfl, rfl⟩)
      fun factor => Or.inr ⟨v.transform.k * factor, rfl⟩
  | panFrom | animateTo => exact Or.inl ⟨rfl, rfl⟩
  | fit => exact absurd hm.symm Bool.false_ne_true
  | advance =>
    rw [perform, advance_eq]
    exact Or.inl ⟨rfl, rfl⟩

end Moves

/-! ## What every move keeps -/

/-- Limits and ratio are in their ranges and the zoom is positive, wherever the view stands. -/
structure Zoomed (v : Viewport Exact) : Prop where
  scaled : v.Scaled
  zoom : v.transform.k.Positive

variable {v : Viewport Exact}

theorem scaled_perform (hv : v.Scaled) (m : Move Exact) : (v.perform m).Scaled := by
  cases m with
  | resize width height ratio => exact (scaled_sized hv.limits width height ratio).congr rfl rfl
  | zoomAt | panFrom | animateTo => exact hv.congr rfl rfl
  | wheel p deltaY =>
    rw [perform]
    exact v.wheel_cases p deltaY hv fun _ => hv.congr rfl rfl
  | fit box =>
    cases box with
    | none | some => exact hv.congr rfl rfl
  | advance =>
    rw [perform, advance_eq]
    exact hv.congr rfl rfl

/-- The view after the move, at the zoom of before. -/
theorem Zoomed.withZoom (hv : v.Zoomed) (m : Move Exact) :
    ((v.perform m).withZoom v.transform.k).Zoomed :=
  ⟨(scaled_perform hv.scaled m).congr rfl rfl, hv.zoom⟩

theorem Zoomed.perform (hv : v.Zoomed) (m : Move Exact) : (v.perform m).Zoomed := by
  refine ⟨scaled_perform hv.scaled m, ?_⟩
  cases hm : m.fits with
  | false =>
    rcases v.zoom_perform hm with ⟨hzoom, -⟩ | ⟨k, hzoom⟩
    · rw [hzoom]
      exact hv.zoom
    · rw [hzoom]
      exact ((hv.withZoom m).scaled.clampZoom hv.zoom k).1
  | true =>
    cases m with
    | fit box =>
      cases box with
      | none => exact hv.zoom
      | some b => exact (hv.scaled.fitZoom b).1
    | _ => exact absurd hm Bool.false_ne_true

theorem Zoomed.run (hv : v.Zoomed) (moves : List (Move Exact)) : (v.run moves).Zoomed := by
  induction moves generalizing v with
  | nil => exact hv
  | cons m rest ih => exact ih (hv.perform m)

/-! ## Bounds of the zoom -/

theorem Zoomed.zoomFloor_le_clampZoom (hv : v.Zoomed) (k : Exact) :
    v.zoomFloor ≤ v.clampZoom k := by
  obtain ⟨hfloor, hordered⟩ := hv.scaled.zoomFloor hv.zoom
  unfold Viewport.clampZoom
  by_cases hfinite : Scalar.isFinite k = true
  · rw [if_pos hfinite]
    exact (clamp_mem hfloor.finite hv.scaled.maxK.finite hfinite hordered).1
  · rw [if_neg hfinite]
    exact hfloor.le_refl

theorem zoom_le_perform (hv : v.Zoomed) (hle : v.transform.k ≤ v.maxK) {m : Move Exact}
    (hm : m.fits = false) : (v.perform m).transform.k ≤ (v.perform m).maxK := by
  rcases v.zoom_perform hm with ⟨hzoom, hratio⟩ | ⟨k, hzoom⟩
  · rw [hzoom, maxK, limits_perform, hratio]
    exact hle
  · rw [hzoom]
    exact ((hv.withZoom m).scaled.clampZoom hv.zoom k).2

theorem zoom_le_run (hv : v.Zoomed) (hle : v.transform.k ≤ v.maxK) {moves : List (Move Exact)}
    (hmoves : ∀ m ∈ moves, m.fits = false) : (v.run moves).transform.k ≤ (v.run moves).maxK := by
  induction moves generalizing v with
  | nil => exact hle
  | cons m rest ih =>
    have hnext := zoom_le_perform hv hle (hmoves m List.mem_cons_self)
    exact ih (hv.perform m) hnext fun m' hm' => hmoves m' (List.mem_cons_of_mem m hm')

/-- A bound below the zoom and below the lower limit after the move is still below the zoom. -/
theorem zoom_ge_perform (hv : v.Zoomed) {low : Exact} (hlow : low.Positive)
    (hzoom : low ≤ v.transform.k) {m : Move Exact} (hm : m.fits = false)
    (hmin : low ≤ (v.perform m).minK) : low ≤ (v.perform m).transform.k := by
  rcases v.zoom_perform hm with ⟨hk, -⟩ | ⟨k, hk⟩
  · rw [hk]
    exact hzoom
  · have hw := hv.withZoom m
    have hfloor : low ≤ ((v.perform m).withZoom v.transform.k).zoomFloor :=
      hw.scaled.minK.le_min hw.zoom hlow hmin hzoom
    rw [hk]
    exact le_trans hfloor (hw.zoomFloor_le_clampZoom k)

theorem lowestRatio_range (hv : v.Zoomed) (moves : List (Move Exact)) :
    (v.lowestRatio moves).Positive ∧ v.lowestRatio moves ≤ v.ratio := by
  induction moves generalizing v with
  | nil => exact ⟨hv.scaled.ratio, hv.scaled.ratio.le_refl⟩
  | cons m rest ih =>
    have hrest := (ih (hv.perform m)).1
    exact ⟨hv.scaled.ratio.min hrest, hv.scaled.ratio.min_le_left hrest⟩

theorem zoom_ge_run (hv : v.Zoomed) {low : Exact} (hlow : low.Positive)
    (hzoom : low ≤ v.transform.k) {moves : List (Move Exact)}
    (hmoves : ∀ m ∈ moves, m.fits = false)
    (hratio : low ≤ v.limits.minZoom * v.lowestRatio moves) :
    low ≤ (v.run moves).transform.k := by
  -- one bound for the whole run, since the lowest ratio of the rest only rises as moves are taken
  induction moves generalizing v with
  | nil => exact hzoom
  | cons m rest ih =>
    have hnext : (v.perform m).Zoomed := hv.perform m
    have hlimit : (v.perform m).limits.minZoom.Positive := hnext.scaled.limits.minZoom
    have hlowest := (lowestRatio_range hv (m :: rest)).1
    obtain ⟨hrest, hle⟩ := lowestRatio_range hnext rest
    have hlater : low ≤ (v.perform m).limits.minZoom * (v.perform m).lowestRatio rest :=
      calc low ≤ v.limits.minZoom * v.lowestRatio (m :: rest) := hratio
        _ ≤ v.limits.minZoom * (v.perform m).lowestRatio rest :=
          hlowest.mul_le_mul_left hrest hv.scaled.limits.minZoom (Positive.min_le_right _ hrest)
        _ = (v.perform m).limits.minZoom * (v.perform m).lowestRatio rest := by
          rw [limits_perform]
    have hminK : low ≤ (v.perform m).minK :=
      le_trans hlater (hrest.mul_le_mul_left hnext.scaled.ratio hlimit hle)
    exact ih hnext (zoom_ge_perform hv hlow hzoom (hmoves m List.mem_cons_self) hminK)
      (fun m' hm' => hmoves m' (List.mem_cons_of_mem m hm')) hlater

/-! ## From the first view on -/

theorem new_zoomed (limits : ViewLimits Exact) (width height ratio : Exact) :
    let v := new limits width height ratio
    v.Zoomed ∧ v.minK ≤ v.transform.k ∧ v.transform.k ≤ v.maxK := by
  intro v
  have hv : v.Scaled :=
    (scaled_sized (v := opened limits) limits.sound_sanitized width height ratio).congr rfl rfl
  obtain ⟨hlow, hhigh⟩ := clamp_mem hv.minK.finite hv.maxK.finite hv.ratio.finite hv.minK_le
  exact ⟨⟨hv, hv.minK.of_between hv.maxK hlow hhigh⟩, hlow, hhigh⟩

/-- With any limits and on any canvas, after any moves that are no fits: the zoom is within its
upper limit, and above the lower limit for the lowest ratio that the view has had. So it lies below
the lower limit only if the ratio has grown. -/
theorem run_zoom_range (limits : ViewLimits Exact) (width height ratio : Exact)
    {moves : List (Move Exact)} (hmoves : ∀ m ∈ moves, m.fits = false) :
    let first := new limits width height ratio
    let v := first.run moves
    v.transform.k ≤ v.maxK ∧
      v.limits.minZoom * first.lowestRatio moves ≤ v.transform.k ∧
      (v.transform.k < v.minK → first.lowestRatio moves < v.ratio) := by
  intro first v
  obtain ⟨hfirst, hlow, hhigh⟩ := new_zoomed limits width height ratio
  have hv : v.Zoomed := hfirst.run moves
  have hlimits : v.limits = first.limits := limits_run first moves
  have hlimit : first.limits.minZoom.Positive := hfirst.scaled.limits.minZoom
  obtain ⟨hlowest, hle⟩ := lowestRatio_range hfirst moves
  have hbound : first.limits.minZoom * first.lowestRatio moves ≤ first.transform.k :=
    le_trans (hlowest.mul_le_mul_left hfirst.scaled.ratio hlimit hle) hlow
  have hzoom : v.limits.minZoom * first.lowestRatio moves ≤ v.transform.k := by
    rw [hlimits]
    exact zoom_ge_run hfirst (hlimit.mul hlowest) hbound hmoves
      (hlimit.mul hlowest).le_refl
  refine ⟨zoom_le_run hfirst hhigh hmoves, hzoom, fun hbelow => ?_⟩
  by_contra hratio
  -- a ratio that was never lower leaves the zoom above its limit
  have habove : v.minK ≤ v.transform.k :=
    calc v.limits.minZoom * v.ratio ≤ v.limits.minZoom * first.lowestRatio moves :=
          hv.scaled.ratio.mul_le_mul_left hlowest hv.scaled.limits.minZoom
            ((hlowest.not_lt_iff hv.scaled.ratio).mp hratio)
      _ ≤ v.transform.k := hzoom
  exact (hv.zoom.not_lt_iff hv.scaled.minK).mpr habove hbelow

/-! ## An example -/

theorem ratioOf_real {r : ℝ} (hlow : 1 ≤ r) (hhigh : r ≤ 2) : ratioOf (real r) = real r := by
  simp [ratioOf, not_lt.mpr hlow, not_lt.mpr hhigh]

theorem standard_sanitized :
    (ViewLimits.standard : ViewLimits Exact).sanitized = ViewLimits.standard := by
  simp only [ViewLimits.sanitized, ViewLimits.standard, Scalar.positiveOr, literal_eq, decimal_eq,
    isFinite_real, real_lt, max_real]
  norm_num

/-- The first view with the standard limits, on a canvas of 800 by 600 pixels. -/
noncomputable def plainView : Viewport Exact :=
  { transform := ⟨400, 300, 1⟩, limits := ViewLimits.standard, ratio := 1,
    width := 800, height := 600, animation := none }

theorem new_plainView : new ViewLimits.standard 800 600 1 = plainView := by
  have hratio : ratioOf (real 1) = real 1 := ratioOf_real le_rfl (by norm_num)
  have hhalf (x : ℝ) : real x / real 2 = real (x / 2) := real_div x two_ne_zero
  rw [new_eq, opened, standard_sanitized]
  simp only [resize, centeredAt, plainView, minK, maxK, ViewLimits.standard, literal_eq, decimal_eq,
    Nat.cast_ofNat, Nat.cast_one, hratio, hhalf, real_mul, max_real, floor_real, clamp_real]
  norm_num

/-- One notch up at the standard limits. -/
theorem zoom_wheel_standard (hlimits : v.limits = ViewLimits.standard) (hratio : v.ratio = 1)
    (hk : v.transform.k = 1) (p : Point Exact) :
    (v.wheel p (-1)).transform.k = 1.12 := by
  have hturned : ((-1 : Exact) == 0 || !Scalar.isFinite (-1 : Exact)) = false := by
    rw [Bool.or_eq_false_iff]
    exact ⟨decide_eq_false (by norm_num), rfl⟩
  have hfactor : v.notchFactor (-1) = 1.12 := by
    have hup : ¬(0 : Exact) < -1 := by
      rw [literal_eq, literal_eq, real_neg, real_lt]
      norm_num
    rw [notchFactor, if_neg hup, hlimits]
    show Scalar.pow (real 1.12) (real (1 : ℕ)) = real 1.12
    rw [pow_real _ (by norm_num), Nat.cast_one, Real.rpow_one]
  rw [wheel, hturned, if_neg Bool.false_ne_true, hfactor]
  simp only [zoomAt, clampZoom, zoomFloor, minK, maxK, hlimits, hratio, hk, ViewLimits.standard,
    literal_eq, decimal_eq, real_mul, isFinite_real, if_true, min_real, clamp_real]
  norm_num

/-- Zoomed out as far as it goes, and then taken to a screen of twice the ratio. -/
noncomputable def towardsSharper : List (Move Exact) :=
  [.zoomAt ⟨400, 300⟩ 0.1, .resize 800 600 2]

theorem noFit_towardsSharper : ∀ m ∈ towardsSharper, m.fits = false := by
  simp [towardsSharper, Move.fits]

theorem run_towardsSharper :
    let v := plainView.run towardsSharper
    v.transform.k = 0.2 ∧ v.minK = 0.4 ∧ v.ratio = 2 := by
  have hratio : ratioOf (real 2) = real 2 := ratioOf_real (by norm_num) le_rfl
  simp only [run, towardsSharper, List.foldl_cons, List.foldl_nil, perform, plainView, zoomAt,
    resize, clampZoom, zoomFloor, minK, maxK, ViewLimits.standard, literal_eq, decimal_eq,
    Nat.cast_ofNat, hratio, real_mul, isFinite_real, if_true, min_real, clamp_real]
  norm_num

/-- No fit, and yet the zoom ends at half its lower limit. -/
theorem zoom_lt_minK_towardsSharper :
    (∀ m ∈ towardsSharper, m.fits = false) ∧
      let v := (new ViewLimits.standard 800 600 1).run towardsSharper
      v.transform.k < v.minK := by
  obtain ⟨hzoom, hlimit, -⟩ := run_towardsSharper
  refine ⟨noFit_towardsSharper, ?_⟩
  rw [new_plainView]
  dsimp only
  rw [hzoom, hlimit, decimal_eq, decimal_eq, real_lt]
  norm_num

theorem run_zoom_range_towardsSharper :
    (∀ m ∈ towardsSharper, m.fits = false) ∧
      let first := new ViewLimits.standard 800 600 1
      let v := first.run towardsSharper
      v.transform.k ≤ v.maxK ∧
        v.limits.minZoom * first.lowestRatio towardsSharper ≤ v.transform.k ∧
        (v.transform.k < v.minK → first.lowestRatio towardsSharper < v.ratio) :=
  ⟨noFit_towardsSharper, run_zoom_range ViewLimits.standard 800 600 1
    noFit_towardsSharper⟩

end Viewport
end NodeLink
