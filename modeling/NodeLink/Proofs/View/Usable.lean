import NodeLink.Proofs.Scalar.Exact
import NodeLink.Proofs.View.Moves
/-!
# The view can always be used

Whatever the limits are set to and however the view is moved, the zoom stays positive and within
the upper limit, so that the map from the world to the canvas has an inverse. The lower limit
moves with the zoom itself, and a change of the pixel ratio moves both limits under the zoom. So
the range of each clamp is part of one invariant, together with what keeps the numbers finite.

* `ViewLimits.Sound`, `sound_sanitized`: limits that a view can work with.
* `Viewport.Usable`: the invariant, with one lemma for each move.
* `Viewport.run_usable`: what holds after any moves.
-/

namespace NodeLink

open Exact

/-! ## Limits -/

/-- Limits in order, and none that is zero or not finite where that would matter. -/
structure ViewLimits.Sound (l : ViewLimits Exact) : Prop where
  minZoom : l.minZoom.Positive
  maxZoom : l.maxZoom.Positive
  ordered : l.minZoom ≤ l.maxZoom
  fitMaxZoom : l.fitMaxZoom.Positive
  fitPadding : Scalar.isFinite l.fitPadding = true

theorem ViewLimits.sound_sanitized (l : ViewLimits Exact) : l.sanitized.Sound := by
  have hmin : (standard : ViewLimits Exact).minZoom.Positive := ⟨0.20, by norm_num, rfl⟩
  have hmax : (standard : ViewLimits Exact).maxZoom.Positive := Positive.literal 4
  have hfit : (standard : ViewLimits Exact).fitMaxZoom.Positive := ⟨2.4, by norm_num, rfl⟩
  have hlo := Positive.positiveOr l.minZoom hmin
  have hhi := Positive.positiveOr l.maxZoom hmax
  refine ⟨hlo.min hhi, hlo.max hhi, hlo.min_le_max hhi, Positive.positiveOr _ hfit, ?_⟩
  show Scalar.isFinite (if Scalar.isFinite l.fitPadding then Scalar.max l.fitPadding 0
    else (standard : ViewLimits Exact).fitPadding) = true
  by_cases hpad : Scalar.isFinite l.fitPadding = true
  · rw [if_pos hpad]
    exact finite_max hpad (isFinite_real _)
  · rw [if_neg hpad]
    exact isFinite_real _

/-! ## Points -/

theorem Point.isFinite_iff {p : Point Exact} :
    p.isFinite = true ↔ Scalar.isFinite p.x = true ∧ Scalar.isFinite p.y = true :=
  Bool.and_eq_true_iff

namespace Transform

variable {t : Transform Exact} {p : Point Exact}

theorem finite_toScreen (hshift : t.shift.isFinite = true) (hk : t.k.Positive)
    (hp : p.isFinite = true) : (t.toScreen p).isFinite = true := by
  obtain ⟨htx, hty⟩ := Point.isFinite_iff.mp hshift
  obtain ⟨hx, hy⟩ := Point.isFinite_iff.mp hp
  exact Point.isFinite_iff.mpr
    ⟨finite_add (finite_mul hx hk.finite) htx, finite_add (finite_mul hy hk.finite) hty⟩

theorem finite_toWorld (hshift : t.shift.isFinite = true) (hk : t.k.Positive)
    (hp : p.isFinite = true) : (t.toWorld p).isFinite = true := by
  obtain ⟨htx, hty⟩ := Point.isFinite_iff.mp hshift
  obtain ⟨hx, hy⟩ := Point.isFinite_iff.mp hp
  exact Point.isFinite_iff.mpr
    ⟨Positive.finite_div (finite_sub hx htx) hk, Positive.finite_div (finite_sub hy hty) hk⟩

/-- A coordinate that is scaled and moved, then moved and scaled back. -/
theorem scale_back {x shift k : Exact} (hx : Scalar.isFinite x = true)
    (hshift : Scalar.isFinite shift = true) (hk : k.Positive) :
    (x * k + shift - shift) / k = x ∧ (x - shift) / k * k + shift = x := by
  obtain ⟨x, rfl⟩ := finite_iff.mp hx
  obtain ⟨s, rfl⟩ := finite_iff.mp hshift
  obtain ⟨k, hk, rfl⟩ := hk
  constructor
  · rw [real_mul, real_add, real_sub, real_div _ hk.ne', add_sub_cancel_right,
      mul_div_cancel_right₀ x hk.ne']
  · rw [real_sub, real_div _ hk.ne', real_mul, real_add, div_mul_cancel₀ _ hk.ne', sub_add_cancel]

theorem toWorld_toScreen (hshift : t.shift.isFinite = true) (hk : t.k.Positive)
    (hp : p.isFinite = true) : t.toWorld (t.toScreen p) = p := by
  obtain ⟨htx, hty⟩ := Point.isFinite_iff.mp hshift
  obtain ⟨hx, hy⟩ := Point.isFinite_iff.mp hp
  exact congrArg₂ Point.mk (scale_back hx htx hk).1 (scale_back hy hty hk).1

theorem toScreen_toWorld (hshift : t.shift.isFinite = true) (hk : t.k.Positive)
    (hp : p.isFinite = true) : t.toScreen (t.toWorld p) = p := by
  obtain ⟨htx, hty⟩ := Point.isFinite_iff.mp hshift
  obtain ⟨hx, hy⟩ := Point.isFinite_iff.mp hp
  exact congrArg₂ Point.mk (scale_back hx htx hk).2 (scale_back hy hty hk).2

end Transform

namespace Viewport

/-! ## Ratio and zoom -/

/-- The ratio is in its range, and so are the limits. -/
structure Scaled (v : Viewport Exact) : Prop where
  limits : v.limits.Sound
  ratio_ge : 1 ≤ v.ratio
  ratio_le : v.ratio ≤ 2

theorem Scaled.congr {v w : Viewport Exact} (hv : v.Scaled) (hlimits : w.limits = v.limits)
    (hratio : w.ratio = v.ratio) : w.Scaled := by
  refine ⟨?_, ?_, ?_⟩
  · rw [hlimits]
    exact hv.limits
  · rw [hratio]
    exact hv.ratio_ge
  · rw [hratio]
    exact hv.ratio_le

theorem one_le_two : (1 : Exact) ≤ 2 := by
  rw [literal_eq, literal_eq, real_le]
  norm_num

theorem ratioOf_range (ratio : Exact) : 1 ≤ ratioOf ratio ∧ ratioOf ratio ≤ 2 := by
  unfold ratioOf
  by_cases hratio : Scalar.isFinite ratio = true
  · rw [if_pos hratio]
    exact clamp_mem (isFinite_real _) (isFinite_real _) hratio one_le_two
  · rw [if_neg hratio]
    exact ⟨(real_le _ _).mpr le_rfl, one_le_two⟩

theorem ratioOf?_eq (ratio : Exact) : ratioOf? ratio = some (ratioOf ratio) := by
  rw [ratioOf?, Scalar.clamp?_of_le one_le_two, ratioOf]
  split
  · rfl
  · rfl

section Scaled

variable {v : Viewport Exact}

theorem Scaled.ratio (hv : v.Scaled) : v.ratio.Positive :=
  Positive.of_between (Positive.literal 0) (Positive.literal 1) hv.ratio_ge hv.ratio_le

theorem Scaled.minK (hv : v.Scaled) : v.minK.Positive := hv.limits.minZoom.mul hv.ratio

theorem Scaled.maxK (hv : v.Scaled) : v.maxK.Positive := hv.limits.maxZoom.mul hv.ratio

theorem Scaled.minK_le (hv : v.Scaled) : v.minK ≤ v.maxK :=
  hv.limits.minZoom.mul_le_mul hv.limits.maxZoom hv.ratio hv.limits.ordered

theorem Scaled.zoomFloor (hv : v.Scaled) (hk : v.transform.k.Positive) :
    v.zoomFloor.Positive ∧ v.zoomFloor ≤ v.maxK :=
  ⟨hv.minK.min hk, hv.minK.min_le_of_le hk hv.maxK hv.minK_le⟩

/-- Whatever zoom is asked for, the one that is taken is positive and within the upper limit. -/
theorem Scaled.clampZoom (hv : v.Scaled) (hk : v.transform.k.Positive) (k : Exact) :
    (v.clampZoom k).Positive ∧ v.clampZoom k ≤ v.maxK := by
  obtain ⟨hfloor, hordered⟩ := hv.zoomFloor hk
  unfold Viewport.clampZoom
  by_cases hfinite : Scalar.isFinite k = true
  · rw [if_pos hfinite]
    obtain ⟨hlow, hhigh⟩ := clamp_mem hfloor.finite hv.maxK.finite hfinite hordered
    exact ⟨hfloor.of_between hv.maxK hlow hhigh, hhigh⟩
  · rw [if_neg hfinite]
    exact ⟨hfloor, hordered⟩

theorem Scaled.clampZoom?_eq (hv : v.Scaled) (hk : v.transform.k.Positive) (k : Exact) :
    v.clampZoom? k = some (v.clampZoom k) := by
  rw [clampZoom?, Scalar.clamp?_of_le (hv.zoomFloor hk).2, Viewport.clampZoom]
  split
  · rfl
  · rfl

end Scaled

/-! ## The invariant -/

/-- A movement between two places, which takes some time. -/
structure MovesOn (a : PanAnimation Exact) : Prop where
  start : a.start.isFinite = true
  goal : a.goal.isFinite = true
  frames : 0 < a.frames

/-- A view with a positive zoom within the limits, all of whose numbers are finite. -/
structure Usable (v : Viewport Exact) : Prop where
  scaled : v.Scaled
  zoom : v.transform.k.Positive
  zoom_le : v.transform.k ≤ v.maxK
  place : v.shift.isFinite = true
  width : Scalar.isFinite v.width = true
  height : Scalar.isFinite v.height = true
  movement : ∀ a, v.animation = some a → MovesOn a

variable {v : Viewport Exact}

/-! ## Size -/

theorem scaled_sized (hlimits : v.limits.Sound) (width height ratio : Exact) :
    (v.sized width height (ratioOf ratio)).Scaled :=
  ⟨hlimits, (ratioOf_range ratio).1, (ratioOf_range ratio).2⟩

theorem finite_side {side ratio : Exact} (hside : Scalar.isFinite side = true)
    (hratio : ratio.Positive) :
    Scalar.isFinite (Scalar.floor (Scalar.max side 0 * ratio)) = true :=
  finite_floor (finite_mul (finite_max hside (isFinite_real _)) hratio.finite)

/-- Nothing needs to hold of the size and the ratio before, which are replaced, nor of the limits
on the zoom before. -/
theorem resize_usable {width height : Exact} (hlimits : v.limits.Sound)
    (hk : v.transform.k.Positive) (hplace : v.shift.isFinite = true)
    (hmovement : ∀ a, v.animation = some a → MovesOn a)
    (hwidth : Scalar.isFinite width = true) (hheight : Scalar.isFinite height = true)
    (ratio : Exact) :
    v.resize? width height ratio = some (v.resize width height ratio) ∧
      (v.resize width height ratio).Usable := by
  have hsized := scaled_sized hlimits width height ratio
  obtain ⟨hzoom, hle⟩ := hsized.clampZoom hk v.transform.k
  constructor
  · rw [resize?, ratioOf?_eq]
    show (do let k ← (v.sized width height (ratioOf ratio)).clampZoom? v.transform.k
             return (v.sized width height (ratioOf ratio)).withZoom k) = _
    rw [hsized.clampZoom?_eq hk]
    rfl
  · rw [resize_eq]
    exact ⟨hsized.congr rfl rfl, hzoom, hle, hplace,
      finite_side hwidth hsized.ratio, finite_side hheight hsized.ratio, hmovement⟩

theorem new_usable (limits : ViewLimits Exact) {width height : Exact}
    (hwidth : Scalar.isFinite width = true) (hheight : Scalar.isFinite height = true)
    (ratio : Exact) :
    new? limits width height ratio = some (new limits width height ratio) ∧
      (new limits width height ratio).Usable := by
  obtain ⟨hchecked, hv⟩ := resize_usable (v := opened limits) limits.sound_sanitized
    (Positive.literal 0) (Point.isFinite_iff.mpr ⟨isFinite_real _, isFinite_real _⟩)
    (fun a ha => absurd ha.symm (Option.some_ne_none a)) hwidth hheight ratio
  have hordered := hv.scaled.minK_le
  obtain ⟨hlow, hhigh⟩ := clamp_mem hv.scaled.minK.finite hv.scaled.maxK.finite
    hv.scaled.ratio.finite hordered
  constructor
  · rw [new?, hchecked]
    show (do let k ← Scalar.clamp? ((opened limits).resize width height ratio).minK
               ((opened limits).resize width height ratio).maxK
               ((opened limits).resize width height ratio).ratio
             return ((opened limits).resize width height ratio).centeredAt k) = _
    rw [Scalar.clamp?_of_le hordered]
    rfl
  · rw [new_eq]
    exact ⟨hv.scaled.congr rfl rfl, hv.scaled.minK.of_between hv.scaled.maxK hlow hhigh, hhigh,
      Point.isFinite_iff.mpr ⟨Positive.finite_div hv.width (Positive.literal 1),
        Positive.finite_div hv.height (Positive.literal 1)⟩,
      hv.width, hv.height, hv.movement⟩

/-! ## Zooming and panning -/

theorem finite_zoomTo (hk : v.transform.k.Positive) (hplace : v.shift.isFinite = true)
    {anchor : Point Exact} (hanchor : anchor.isFinite = true) {k : Exact} (hzoom : k.Positive) :
    (v.zoomTo anchor k).shift.isFinite = true := by
  have hafter : ((v.withZoom k).toScreen (v.toWorld anchor)).isFinite = true :=
    Transform.finite_toScreen hplace hzoom (Transform.finite_toWorld hplace hk hanchor)
  obtain ⟨hx, hy⟩ := Point.isFinite_iff.mp hplace
  obtain ⟨hanchorX, hanchorY⟩ := Point.isFinite_iff.mp hanchor
  obtain ⟨hafterX, hafterY⟩ := Point.isFinite_iff.mp hafter
  exact Point.isFinite_iff.mpr
    ⟨finite_add hx (finite_sub hanchorX hafterX), finite_add hy (finite_sub hanchorY hafterY)⟩

theorem zoomAt_usable (hv : v.Usable) {anchor : Point Exact} (hanchor : anchor.isFinite = true)
    (factor : Exact) :
    v.zoomAt? anchor factor = some (v.zoomAt anchor factor) ∧ (v.zoomAt anchor factor).Usable := by
  obtain ⟨hzoom, hle⟩ := hv.scaled.clampZoom hv.zoom (v.transform.k * factor)
  constructor
  · rw [zoomAt?, hv.scaled.clampZoom?_eq hv.zoom]
    rfl
  · rw [zoomAt_eq]
    generalize v.clampZoom (v.transform.k * factor) = k at hzoom hle
    exact ⟨hv.scaled.congr rfl rfl, hzoom, hle, finite_zoomTo hv.zoom hv.place hanchor hzoom,
      hv.width, hv.height, hv.movement⟩

theorem Scaled.finite_toDevice (hv : v.Scaled) {p : Point Exact} (hp : p.isFinite = true) :
    (v.toDevice p).isFinite = true := by
  obtain ⟨hx, hy⟩ := Point.isFinite_iff.mp hp
  exact Point.isFinite_iff.mpr ⟨finite_mul hx hv.ratio.finite, finite_mul hy hv.ratio.finite⟩

theorem wheel_usable (hv : v.Usable) {p : Point Exact} (hp : p.isFinite = true) (deltaY : Exact) :
    v.wheel? p deltaY = some (v.wheel p deltaY) ∧ (v.wheel p deltaY).Usable := by
  unfold wheel? wheel
  split
  · exact ⟨rfl, hv⟩
  · exact zoomAt_usable hv (hv.scaled.finite_toDevice hp) _

theorem Scaled.finite_panFrom (hv : v.Scaled) {start delta : Point Exact}
    (hstart : start.isFinite = true) (hdelta : delta.isFinite = true) :
    (v.panFrom start delta).shift.isFinite = true := by
  obtain ⟨hx, hy⟩ := Point.isFinite_iff.mp hstart
  obtain ⟨hdx, hdy⟩ := Point.isFinite_iff.mp hdelta
  exact Point.isFinite_iff.mpr
    ⟨finite_add hx (finite_mul hdx hv.ratio.finite), finite_add hy (finite_mul hdy hv.ratio.finite)⟩

theorem panFrom_usable (hv : v.Usable) {start delta : Point Exact} (hstart : start.isFinite = true)
    (hdelta : delta.isFinite = true) : (v.panFrom start delta).Usable :=
  ⟨hv.scaled.congr rfl rfl, hv.zoom, hv.zoom_le, hv.scaled.finite_panFrom hstart hdelta, hv.width,
    hv.height, hv.movement⟩

/-! ## Fitting -/

theorem finite_centered (hv : v.Usable) {p : Point Exact} (hp : p.isFinite = true) {k : Exact}
    (hk : k.Positive) : (v.centered p k).shift.isFinite = true := by
  obtain ⟨hx, hy⟩ := Point.isFinite_iff.mp hp
  exact Point.isFinite_iff.mpr
    ⟨finite_sub (finite_mul hv.width (isFinite_real _)) (finite_mul hx hk.finite),
      finite_sub (finite_mul hv.height (isFinite_real _)) (finite_mul hy hk.finite)⟩

/-- A zoom at which the box fits is taken if it is positive; the least of several is at most the
last of them. -/
theorem Scaled.fitZoom (hv : v.Scaled) (b : Bounds Exact) :
    (v.fitZoom b).Positive ∧ v.fitZoom b ≤ v.maxK := by
  unfold Viewport.fitZoom
  dsimp only
  split
  · next h =>
    obtain ⟨hfinite, hpos⟩ := Bool.and_eq_true_iff.mp h
    exact ⟨Positive.of_finite hfinite (of_decide_eq_true hpos),
      Positive.min_le_right _ hv.maxK⟩
  · exact ⟨hv.minK, hv.minK_le⟩

theorem fit_usable (hv : v.Usable) {box : Option (Bounds Exact)}
    (hbox : ∀ b, box = some b → b.min.isFinite = true ∧ b.max.isFinite = true) :
    (v.fit box).Usable := by
  cases box with
  | none => exact hv
  | some b =>
    obtain ⟨hmin, hmax⟩ := hbox b rfl
    obtain ⟨hminX, hminY⟩ := Point.isFinite_iff.mp hmin
    obtain ⟨hmaxX, hmaxY⟩ := Point.isFinite_iff.mp hmax
    have hcenter : b.center.isFinite = true := Point.isFinite_iff.mpr
      ⟨finite_mul (finite_add hminX hmaxX) (isFinite_real _),
        finite_mul (finite_add hminY hmaxY) (isFinite_real _)⟩
    obtain ⟨hzoom, hle⟩ := hv.scaled.fitZoom b
    exact ⟨hv.scaled.congr rfl rfl, hzoom, hle, finite_centered hv hcenter hzoom, hv.width,
      hv.height, fun a ha => absurd ha.symm (Option.some_ne_none a)⟩

/-! ## Movement -/

theorem animateTo_usable (hv : v.Usable) {p : Point Exact} (hp : p.isFinite = true) :
    (v.animateTo p).Usable := by
  refine ⟨hv.scaled.congr rfl rfl, hv.zoom, hv.zoom_le, hv.place, hv.width, hv.height, ?_⟩
  intro a ha
  obtain rfl := Option.some.inj ha
  have hgoal : (v.centered p v.transform.k).shift.isFinite = true := finite_centered hv hp hv.zoom
  exact ⟨hv.place, hgoal, Nat.lt_of_lt_of_le Nat.zero_lt_one (Nat.le_max_right _ 1)⟩

/-- The part of the way that a movement has gone, at any finite time. -/
theorem easeOut_finite {t : Exact} (ht : Scalar.isFinite t = true) :
    easeOut? t = some (easeOut t) ∧ Scalar.isFinite (easeOut t) = true := by
  have hunit : (0 : Exact) ≤ 1 := by
    rw [literal_eq, literal_eq, real_le]
    norm_num
  have hclamp : Scalar.isFinite (Scalar.clampUnit t) = true :=
    finite_clamp (isFinite_real _) (isFinite_real _) ht
  constructor
  · rw [easeOut?, Scalar.clamp?_of_le hunit]
    rfl
  · have hrest : Scalar.isFinite (1 - Scalar.clampUnit t) = true :=
      finite_sub (isFinite_real _) hclamp
    exact finite_sub (isFinite_real _) (finite_mul hrest (finite_mul hrest hrest))

theorem underway_usable (hv : v.Usable) {a : PanAnimation Exact} (ha : MovesOn a) {part : Exact}
    (hpart : Scalar.isFinite part = true) : (v.underway a part).Usable := by
  obtain ⟨hstartX, hstartY⟩ := Point.isFinite_iff.mp ha.start
  obtain ⟨hgoalX, hgoalY⟩ := Point.isFinite_iff.mp ha.goal
  have hplace : (v.underway a part).shift.isFinite = true := Point.isFinite_iff.mpr
    ⟨finite_add hstartX (finite_mul (finite_sub hgoalX hstartX) hpart),
      finite_add hstartY (finite_mul (finite_sub hgoalY hstartY) hpart)⟩
  refine ⟨hv.scaled.congr rfl rfl, hv.zoom, hv.zoom_le, hplace, hv.width, hv.height, ?_⟩
  intro b hb
  obtain ⟨-, hab⟩ := Option.ite_none_left_eq_some.mp hb
  rw [← Option.some.inj hab]
  exact ha

theorem advance_usable (hv : v.Usable) : v.advance? = some v.advance ∧ v.advance.Usable := by
  unfold advance? advance
  cases hanimation : v.animation with
  | none => exact ⟨rfl, hv⟩
  | some a =>
    have ha : MovesOn a := hv.movement a hanimation
    have hnext : MovesOn { a with frame := a.frame + 1 } := ⟨ha.start, ha.goal, ha.frames⟩
    have hframes : (Scalar.ofNat a.frames : Exact).Positive :=
      ⟨a.frames, Nat.cast_pos.mpr ha.frames, rfl⟩
    obtain ⟨hchecked, hpart⟩ := easeOut_finite (Positive.finite_div
      (isFinite_real (a.frame + 1 : ℕ)) hframes)
    constructor
    · show (do let part ← easeOut? (real (a.frame + 1 : ℕ) / Scalar.ofNat a.frames)
               return v.underway { a with frame := a.frame + 1 } part) = _
      rw [hchecked]
      rfl
    · exact underway_usable hv hnext hpart

/-! ## Any moves -/

theorem perform_usable (hv : v.Usable) {m : Move Exact} (hm : m.Finite) :
    v.perform? m = some (v.perform m) ∧ (v.perform m).Usable := by
  cases m with
  | resize width height ratio =>
    exact resize_usable hv.scaled.limits hv.zoom hv.place hv.movement hm.1 hm.2 ratio
  | zoomAt anchor factor => exact zoomAt_usable hv hm factor
  | wheel p deltaY => exact wheel_usable hv hm deltaY
  | panFrom start delta => exact ⟨rfl, panFrom_usable hv hm.1 hm.2⟩
  | fit box => exact ⟨rfl, fit_usable hv hm⟩
  | animateTo p => exact ⟨rfl, animateTo_usable hv hm⟩
  | advance => exact advance_usable hv

theorem run_keeps_usable (hv : v.Usable) {moves : List (Move Exact)}
    (hmoves : ∀ m ∈ moves, m.Finite) :
    v.run? moves = some (v.run moves) ∧ (v.run moves).Usable := by
  induction moves generalizing v with
  | nil => exact ⟨rfl, hv⟩
  | cons m rest ih =>
    obtain ⟨hchecked, hnext⟩ := perform_usable hv (hmoves m List.mem_cons_self)
    have hrest := ih hnext (fun m' hm' => hmoves m' (List.mem_cons_of_mem m hm'))
    rw [run?, List.foldlM_cons, hchecked]
    exact hrest

/-- With any limits, on a canvas of any finite size and at any ratio, and after any moves between
finite points and sizes: no clamp on the way has had bounds out of order, ratio and zoom are in
their ranges, and canvas and world are mapped to each other and back without loss. -/
theorem run_usable (limits : ViewLimits Exact) {width height : Exact}
    (hwidth : Scalar.isFinite width = true) (hheight : Scalar.isFinite height = true)
    (ratio : Exact) {moves : List (Move Exact)} (hmoves : ∀ m ∈ moves, m.Finite) :
    let v := (new limits width height ratio).run moves
    (new? limits width height ratio >>= run? moves) = some v ∧
      1 ≤ v.ratio ∧ v.ratio ≤ 2 ∧
      v.minK ≤ v.maxK ∧
      0 < v.transform.k ∧ v.transform.k ≤ v.maxK ∧
      ∀ p : Point Exact, p.isFinite = true →
        v.toWorld (v.toScreen p) = p ∧ v.toScreen (v.toWorld p) = p := by
  intro v
  obtain ⟨hnew, hstart⟩ := new_usable limits hwidth hheight ratio
  obtain ⟨hrun, hv⟩ := run_keeps_usable hstart hmoves
  refine ⟨?_, hv.scaled.ratio_ge, hv.scaled.ratio_le, hv.scaled.minK_le, hv.zoom.zero_lt,
    hv.zoom_le, ?_⟩
  · rw [hnew]
    exact hrun
  · intro p hp
    exact ⟨Transform.toWorld_toScreen hv.place hv.zoom hp,
      Transform.toScreen_toWorld hv.place hv.zoom hp⟩

/-- The upper limit below the lower one, which is no number. -/
noncomputable def crossedLimits : ViewLimits Exact where
  minZoom := nan
  maxZoom := 0.1
  fitMaxZoom := infinity false
  wheelStep := -2
  fitPadding := nan
  focusFrames := 0

/-- A box fitted into no canvas at all, zooms by what are no factors, and a movement under which
the canvas changes its size. -/
noncomputable def roughMoves : List (Move Exact) :=
  [.resize (-1) 0 nan, .fit (some ⟨⟨3, 4⟩, ⟨1, 8⟩⟩), .zoomAt ⟨5, 6⟩ nan, .zoomAt ⟨5, 6⟩ (-3),
    .wheel ⟨1, 1⟩ nan, .wheel ⟨1, 1⟩ (-1), .animateTo ⟨2, 2⟩, .advance,
    .resize 800 600 (infinity false), .advance, .zoomAt ⟨0, 0⟩ 0]

theorem run_usable_roughMoves :
    (∀ m ∈ roughMoves, m.Finite) ∧
      (new? crossedLimits (real 0) (real 0) nan >>= run? roughMoves) =
        some ((new crossedLimits (real 0) (real 0) nan).run roughMoves) := by
  have hmoves : ∀ m ∈ roughMoves, m.Finite := by
    simp [roughMoves, Move.Finite, Point.isFinite_iff]
  exact ⟨hmoves, (run_usable crossedLimits (isFinite_real 0) (isFinite_real 0) nan hmoves).1⟩

end Viewport
end NodeLink
