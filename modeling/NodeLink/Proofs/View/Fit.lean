import NodeLink.Proofs.View.Arrival
/-!
# What a fit shows

A fit puts the middle of a box into the middle of the canvas, at the largest zoom at which the box
keeps off the edges by half the padding, within the upper limits. If the padding leaves nothing of
the canvas there is no such zoom, and the lower limit is taken.

* `Bounds.Tight`, `tight_ofPoints?`: the smallest box around finite points.
* `Viewport.le_roomZoom_iff`: the zoom of a fit as the least of four bounds.
* `Viewport.Frames`: a transform that shows points within the padding, with their box in the middle.
* `Viewport.Fitted`, `fitted_fit`: what a fit shows, and that no larger zoom does.
-/

namespace NodeLink

open Exact

/-! ## The box around points -/

namespace Exact

theorem finite_min {a b : Exact} (ha : Scalar.isFinite a = true) (hb : Scalar.isFinite b = true) :
    Scalar.isFinite (Scalar.min a b) = true := by
  obtain ⟨x, rfl⟩ := finite_iff.mp ha
  obtain ⟨y, rfl⟩ := finite_iff.mp hb
  rw [min_real, isFinite_real]

theorem le_min_iff {a b : Exact} (ha : Scalar.isFinite a = true) (hb : Scalar.isFinite b = true)
    (k : Exact) : k ≤ Scalar.min a b ↔ k ≤ a ∧ k ≤ b := by
  obtain ⟨x, rfl⟩ := finite_iff.mp ha
  obtain ⟨y, rfl⟩ := finite_iff.mp hb
  rw [min_real]
  cases k with
  | real z => exact show z ≤ min x y ↔ z ≤ x ∧ z ≤ y from le_inf_iff
  | infinity s => exact (and_self_iff).symm
  | nan => exact (and_self_iff).symm

theorem lt_min_iff {a b : Exact} (ha : Scalar.isFinite a = true) (hb : Scalar.isFinite b = true)
    (k : Exact) : k < Scalar.min a b ↔ k < a ∧ k < b := by
  obtain ⟨x, rfl⟩ := finite_iff.mp ha
  obtain ⟨y, rfl⟩ := finite_iff.mp hb
  rw [min_real]
  cases k with
  | real z => exact show z < min x y ↔ z < x ∧ z < y from lt_inf_iff
  | infinity s => exact (and_self_iff).symm
  | nan => exact (and_self_iff).symm

/-- `lo` and `hi` are the least and the greatest of `xs`. -/
structure Spans (lo hi : Exact) (xs : List Exact) : Prop where
  low : lo ∈ xs
  high : hi ∈ xs
  between : ∀ x ∈ xs, lo ≤ x ∧ x ≤ hi

theorem spans_singleton {x : Exact} (hx : Scalar.isFinite x = true) : Spans x x [x] := by
  obtain ⟨x, rfl⟩ := finite_iff.mp hx
  refine ⟨List.mem_singleton_self _, List.mem_singleton_self _, fun y hy => ?_⟩
  rw [List.mem_singleton.mp hy]
  exact ⟨(real_le x x).mpr le_rfl, (real_le x x).mpr le_rfl⟩

theorem Spans.concat {lo hi x : Exact} {xs : List Exact} (h : Spans lo hi xs)
    (hxs : ∀ y ∈ xs, Scalar.isFinite y = true) (hx : Scalar.isFinite x = true) :
    Spans (Scalar.min lo x) (Scalar.max hi x) (xs ++ [x]) := by
  obtain ⟨l, rfl⟩ := finite_iff.mp (hxs lo h.low)
  obtain ⟨u, rfl⟩ := finite_iff.mp (hxs hi h.high)
  obtain ⟨x, rfl⟩ := finite_iff.mp hx
  rw [min_real, max_real]
  have hlast : real x ∈ xs ++ [real x] := List.mem_append_right _ (List.mem_singleton_self _)
  refine ⟨?_, ?_, fun y hy => ?_⟩
  · rcases min_choice l x with hmin | hmin
    · rw [hmin]
      exact List.mem_append_left _ h.low
    · rw [hmin]
      exact hlast
  · rcases max_choice u x with hmax | hmax
    · rw [hmax]
      exact List.mem_append_left _ h.high
    · rw [hmax]
      exact hlast
  · rcases List.mem_append.mp hy with hold | hnew
    · obtain ⟨y, rfl⟩ := finite_iff.mp (hxs y hold)
      obtain ⟨hlow, hhigh⟩ := h.between _ hold
      exact ⟨(real_le _ _).mpr (min_le_of_left_le hlow),
        (real_le _ _).mpr (le_max_of_le_left hhigh)⟩
    · rw [List.mem_singleton.mp hnew]
      exact ⟨(real_le _ _).mpr (min_le_right l x), (real_le _ _).mpr (le_max_right u x)⟩

end Exact

namespace Bounds

/-- The smallest box that holds the points: on each axis from the least coordinate to the
greatest. -/
def Tight (b : Bounds Exact) (ps : List (Point Exact)) : Prop :=
  Spans b.min.x b.max.x (ps.map Point.x) ∧ Spans b.min.y b.max.y (ps.map Point.y)

theorem Tight.enclose {b : Bounds Exact} {ps : List (Point Exact)} {p : Point Exact}
    (hb : b.Tight ps) (hps : ∀ q ∈ ps, q.isFinite = true) (hp : p.isFinite = true) :
    (b.enclose p).Tight (ps ++ [p]) := by
  obtain ⟨hx, hy⟩ := Point.isFinite_iff.mp hp
  unfold Tight
  rw [List.map_append, List.map_append]
  refine ⟨hb.1.concat (fun y hy => ?_) hx, hb.2.concat (fun y hy => ?_) hy⟩
  · obtain ⟨q, hq, rfl⟩ := List.mem_map.mp hy
    exact (Point.isFinite_iff.mp (hps q hq)).1
  · obtain ⟨q, hq, rfl⟩ := List.mem_map.mp hy
    exact (Point.isFinite_iff.mp (hps q hq)).2

theorem Tight.foldl_enclose {b : Bounds Exact} {ps rest : List (Point Exact)} (hb : b.Tight ps)
    (hps : ∀ q ∈ ps ++ rest, q.isFinite = true) :
    (rest.foldl Bounds.enclose b).Tight (ps ++ rest) := by
  induction rest generalizing b ps with
  | nil => rwa [List.append_nil]
  | cons p rest ih =>
    have hnext : (b.enclose p).Tight (ps ++ [p]) :=
      hb.enclose (fun q hq => hps q (List.mem_append_left _ hq))
        (hps p (List.mem_append_right _ List.mem_cons_self))
    rw [List.append_cons] at hps ⊢
    exact ih hnext hps

theorem tight_ofPoints? {ps : List (Point Exact)} (hps : ∀ q ∈ ps, q.isFinite = true)
    {b : Bounds Exact} (hb : ofPoints? ps = some b) : b.Tight ps := by
  cases ps with
  | nil => exact absurd hb.symm (Option.some_ne_none b)
  | cons p rest =>
    obtain ⟨hx, hy⟩ := Point.isFinite_iff.mp (hps p List.mem_cons_self)
    have hfirst : (⟨p, p⟩ : Bounds Exact).Tight [p] := ⟨spans_singleton hx, spans_singleton hy⟩
    rw [← Option.some.inj hb]
    exact hfirst.foldl_enclose hps

/-- Both corners are finite. -/
def Finite (b : Bounds Exact) : Prop := b.min.isFinite = true ∧ b.max.isFinite = true

theorem Tight.finite {b : Bounds Exact} {ps : List (Point Exact)} (hb : b.Tight ps)
    (hps : ∀ q ∈ ps, q.isFinite = true) : b.Finite := by
  have hx {x : Exact} (hx : x ∈ ps.map Point.x) : Scalar.isFinite x = true := by
    obtain ⟨q, hq, rfl⟩ := List.mem_map.mp hx
    exact (Point.isFinite_iff.mp (hps q hq)).1
  have hy {y : Exact} (hy : y ∈ ps.map Point.y) : Scalar.isFinite y = true := by
    obtain ⟨q, hq, rfl⟩ := List.mem_map.mp hy
    exact (Point.isFinite_iff.mp (hps q hq)).2
  exact ⟨Point.isFinite_iff.mpr ⟨hx hb.1.low, hy hb.2.low⟩,
    Point.isFinite_iff.mpr ⟨hx hb.1.high, hy hb.2.high⟩⟩

theorem Finite.width {b : Bounds Exact} (hb : b.Finite) : Scalar.isFinite b.width = true :=
  finite_sub (Point.isFinite_iff.mp hb.2).1 (Point.isFinite_iff.mp hb.1).1

theorem Finite.height {b : Bounds Exact} (hb : b.Finite) : Scalar.isFinite b.height = true :=
  finite_sub (Point.isFinite_iff.mp hb.2).2 (Point.isFinite_iff.mp hb.1).2

theorem Finite.center {b : Bounds Exact} (hb : b.Finite) : b.center.isFinite = true := by
  obtain ⟨hminX, hminY⟩ := Point.isFinite_iff.mp hb.1
  obtain ⟨hmaxX, hmaxY⟩ := Point.isFinite_iff.mp hb.2
  exact Point.isFinite_iff.mpr ⟨finite_mul (finite_add hminX hmaxX) (isFinite_real _),
    finite_mul (finite_add hminY hmaxY) (isFinite_real _)⟩

end Bounds

namespace Viewport

/-! ## The zoom of a fit -/

section Frames

variable {α : Type} [Scalar α]

/-- The space kept free by a fit on each axis, in device pixels. -/
def padding (v : Viewport α) : α := v.limits.fitPadding * v.ratio

/-- The padding leaves some of the canvas on both axes. -/
def Roomy (v : Viewport α) : Prop := v.padding < v.width ∧ v.padding < v.height

/-- The upper limit of the zoom of a fit. -/
def maxFitK (v : Viewport α) : α := v.limits.fitMaxZoom * v.ratio

/-- The zoom at which a stretch of the world fills a side of the canvas less the padding. -/
def fillZoom (side pad extent : α) : α := (side - pad) / Scalar.max extent 1

/-- A pixel is on the canvas and off each edge by at least half the padding. -/
def Inset (v : Viewport α) (q : Point α) : Prop :=
  (v.padding * 0.5 ≤ q.x ∧ q.x ≤ v.width - v.padding * 0.5) ∧
    (v.padding * 0.5 ≤ q.y ∧ q.y ≤ v.height - v.padding * 0.5)

/-- A transform that shows the points of a box within the padding and the middle of the box in the
middle of the canvas, at a zoom within the upper limits. -/
structure Frames (v : Viewport α) (t : Transform α) (b : Bounds α) (ps : List (Point α)) :
    Prop where
  inset : ∀ p ∈ ps, v.Inset (t.toScreen p)
  middle : t.toScreen b.center = v.middle
  maxFitK : t.k ≤ v.maxFitK
  maxK : t.k ≤ v.maxK

end Frames

/-- A canvas of finite size, with ratio and limits in their ranges. -/
structure OnCanvas (v : Viewport Exact) : Prop extends v.Scaled where
  width : Scalar.isFinite v.width = true
  height : Scalar.isFinite v.height = true

/-- A new size, if there is one, is finite. -/
def Move.Sized : Move Exact → Prop
  | .resize width height _ => Scalar.isFinite width = true ∧ Scalar.isFinite height = true
  | _ => True

theorem OnCanvas.perform {v : Viewport Exact} (hv : v.OnCanvas) {m : Move Exact} (hm : m.Sized) :
    (v.perform m).OnCanvas := by
  cases m with
  | resize width height ratio =>
    have hsized : (v.sized width height (ratioOf ratio)).Scaled :=
      scaled_sized hv.limits width height ratio
    exact ⟨hsized.congr rfl rfl, finite_side hm.1 hsized.ratio, finite_side hm.2 hsized.ratio⟩
  | zoomAt | panFrom | animateTo => exact ⟨hv.toScaled.congr rfl rfl, hv.width, hv.height⟩
  | wheel p deltaY =>
    rw [Viewport.perform]
    exact v.wheel_cases p deltaY hv fun _ => ⟨hv.toScaled.congr rfl rfl, hv.width, hv.height⟩
  | fit box =>
    cases box with
    | none | some => exact ⟨hv.toScaled.congr rfl rfl, hv.width, hv.height⟩
  | advance =>
    rw [Viewport.perform, advance_eq]
    exact ⟨hv.toScaled.congr rfl rfl, hv.width, hv.height⟩

theorem OnCanvas.run {v : Viewport Exact} (hv : v.OnCanvas) {moves : List (Move Exact)}
    (hmoves : ∀ m ∈ moves, m.Sized) : (v.run moves).OnCanvas := by
  induction moves generalizing v with
  | nil => exact hv
  | cons m rest ih =>
    obtain ⟨hm, hrest⟩ := List.forall_mem_cons.mp hmoves
    exact ih (hv.perform hm) hrest

theorem onCanvas_new (limits : ViewLimits Exact) {width height : Exact}
    (hwidth : Scalar.isFinite width = true) (hheight : Scalar.isFinite height = true)
    (ratio : Exact) : (new limits width height ratio).OnCanvas :=
  have hv : (new limits width height ratio).Usable := (new_usable limits hwidth hheight ratio).2
  ⟨hv.scaled, hv.width, hv.height⟩

theorem fillZoom_real (side pad extent : ℝ) :
    fillZoom (real side) (real pad) (real extent) = real ((side - pad) / max extent 1) := by
  have hpos : max extent 1 ≠ 0 := (lt_max_of_lt_right one_pos).ne'
  rw [fillZoom, literal_eq, Nat.cast_one, max_real, real_sub, real_div _ hpos]

theorem positive_fillZoom_iff {side pad extent : Exact} (hside : Scalar.isFinite side = true)
    (hpad : Scalar.isFinite pad = true) (hextent : Scalar.isFinite extent = true) :
    0 < fillZoom side pad extent ↔ pad < side := by
  obtain ⟨w, rfl⟩ := finite_iff.mp hside
  obtain ⟨p, rfl⟩ := finite_iff.mp hpad
  obtain ⟨e, rfl⟩ := finite_iff.mp hextent
  have hpos : 0 < max e 1 := lt_max_of_lt_right one_pos
  rw [fillZoom_real, literal_eq, real_lt, real_lt, Nat.cast_zero, div_pos_iff_of_pos_right hpos,
    sub_pos]

theorem finite_fillZoom {side pad extent : Exact} (hside : Scalar.isFinite side = true)
    (hpad : Scalar.isFinite pad = true) (hextent : Scalar.isFinite extent = true) :
    Scalar.isFinite (fillZoom side pad extent) = true := by
  obtain ⟨w, rfl⟩ := finite_iff.mp hside
  obtain ⟨p, rfl⟩ := finite_iff.mp hpad
  obtain ⟨e, rfl⟩ := finite_iff.mp hextent
  rw [fillZoom_real, isFinite_real]

section Fit

variable {v : Viewport Exact} {b : Bounds Exact}

theorem OnCanvas.padding (hv : v.OnCanvas) : Scalar.isFinite v.padding = true :=
  finite_mul hv.limits.fitPadding hv.ratio.finite

theorem OnCanvas.maxFitK (hv : v.OnCanvas) : v.maxFitK.Positive :=
  hv.limits.fitMaxZoom.mul hv.ratio

/-- The largest zoom at which the box fits, if the padding leaves room for one. -/
noncomputable def roomZoom (v : Viewport Exact) (b : Bounds Exact) : Exact :=
  Scalar.min (Scalar.min (Scalar.min (fillZoom v.width v.padding b.width)
    (fillZoom v.height v.padding b.height)) v.maxFitK) v.maxK

theorem fitZoom_eq (v : Viewport Exact) (b : Bounds Exact) : v.fitZoom b =
    if Scalar.isFinite (v.roomZoom b) && decide (0 < v.roomZoom b) then v.roomZoom b
    else v.minK := rfl

variable (hv : v.OnCanvas) (hb : b.Finite)

include hv hb

theorem OnCanvas.finite_fillZooms :
    Scalar.isFinite (fillZoom v.width v.padding b.width) = true ∧
      Scalar.isFinite (fillZoom v.height v.padding b.height) = true :=
  ⟨finite_fillZoom hv.width hv.padding hb.width, finite_fillZoom hv.height hv.padding hb.height⟩

theorem finite_roomZoom : Scalar.isFinite (v.roomZoom b) = true := by
  obtain ⟨hwide, hhigh⟩ := hv.finite_fillZooms hb
  exact finite_min (finite_min (finite_min hwide hhigh) hv.maxFitK.finite) hv.maxK.finite

theorem le_roomZoom_iff (k : Exact) : k ≤ v.roomZoom b ↔
    ((k ≤ fillZoom v.width v.padding b.width ∧ k ≤ fillZoom v.height v.padding b.height) ∧
      k ≤ v.maxFitK) ∧ k ≤ v.maxK := by
  obtain ⟨hwide, hhigh⟩ := hv.finite_fillZooms hb
  have hsides := finite_min hwide hhigh
  rw [roomZoom, le_min_iff (finite_min hsides hv.maxFitK.finite) hv.maxK.finite,
    le_min_iff hsides hv.maxFitK.finite, le_min_iff hwide hhigh]

theorem positive_roomZoom_iff : 0 < v.roomZoom b ↔ v.Roomy := by
  obtain ⟨hwide, hhigh⟩ := hv.finite_fillZooms hb
  have hsides := finite_min hwide hhigh
  rw [roomZoom, lt_min_iff (finite_min hsides hv.maxFitK.finite) hv.maxK.finite,
    lt_min_iff hsides hv.maxFitK.finite, lt_min_iff hwide hhigh,
    positive_fillZoom_iff hv.width hv.padding hb.width,
    positive_fillZoom_iff hv.height hv.padding hb.height,
    and_iff_left hv.maxK.zero_lt, and_iff_left hv.maxFitK.zero_lt]
  rfl

theorem fitZoom_of_roomy (hroomy : v.Roomy) : v.fitZoom b = v.roomZoom b := by
  have hpos : 0 < v.roomZoom b := (positive_roomZoom_iff hv hb).mpr hroomy
  rw [fitZoom_eq, if_pos]
  exact Bool.and_eq_true_iff.mpr ⟨finite_roomZoom hv hb, decide_eq_true hpos⟩

theorem fitZoom_of_not_roomy (hcramped : ¬v.Roomy) : v.fitZoom b = v.minK := by
  rw [fitZoom_eq, if_neg]
  intro h
  have hpos : 0 < v.roomZoom b := of_decide_eq_true (Bool.and_eq_true_iff.mp h).2
  exact hcramped ((positive_roomZoom_iff hv hb).mp hpos)

end Fit

/-! ## One axis -/

section Axis

variable {lo hi side pad k : Exact} (hlo : Scalar.isFinite lo = true)
  (hhi : Scalar.isFinite hi = true) (hside : Scalar.isFinite side = true)
  (hpad : Scalar.isFinite pad = true)

include hlo hhi hside hpad

/-- What lies between the ends of a stretch whose middle is in the middle of the side keeps off both
ends of the side, if the stretch fills it at most. -/
theorem inset_of_le_fillZoom {x : Exact} (hlow : lo ≤ x) (hhigh : x ≤ hi)
    (hx : Scalar.isFinite x = true) (hk : k.Positive) (hfill : k ≤ fillZoom side pad (hi - lo)) :
    pad * 0.5 ≤ x * k + (side * 0.5 - (lo + hi) * 0.5 * k) ∧
      x * k + (side * 0.5 - (lo + hi) * 0.5 * k) ≤ side - pad * 0.5 := by
  obtain ⟨l, rfl⟩ := finite_iff.mp hlo
  obtain ⟨u, rfl⟩ := finite_iff.mp hhi
  obtain ⟨w, rfl⟩ := finite_iff.mp hside
  obtain ⟨p, rfl⟩ := finite_iff.mp hpad
  obtain ⟨x, rfl⟩ := finite_iff.mp hx
  obtain ⟨k, hk, rfl⟩ := hk
  rw [real_le] at hlow hhigh
  rw [real_sub, fillZoom_real, real_le, le_div_iff₀ (lt_max_of_lt_right one_pos)] at hfill
  have hstretch : k * (u - l) ≤ w - p :=
    (mul_le_mul_of_nonneg_left (le_max_left _ _) hk.le).trans hfill
  have hleft : 0 ≤ k * (x - l) := mul_nonneg hk.le (sub_nonneg.mpr hlow)
  have hright : 0 ≤ k * (u - x) := mul_nonneg hk.le (sub_nonneg.mpr hhigh)
  simp only [decimal_eq, real_mul, real_add, real_sub, real_le]
  norm_num
  constructor
  · linarith
  · linarith

/-- A stretch of at least one unit that keeps off both ends of the side fills it at most. -/
theorem le_fillZoom_of_inset {shift : Exact} (hshift : Scalar.isFinite shift = true)
    (hk : Scalar.isFinite k = true) (hunit : 1 ≤ hi - lo) (hleft : pad * 0.5 ≤ lo * k + shift)
    (hright : hi * k + shift ≤ side - pad * 0.5) : k ≤ fillZoom side pad (hi - lo) := by
  obtain ⟨l, rfl⟩ := finite_iff.mp hlo
  obtain ⟨u, rfl⟩ := finite_iff.mp hhi
  obtain ⟨w, rfl⟩ := finite_iff.mp hside
  obtain ⟨p, rfl⟩ := finite_iff.mp hpad
  obtain ⟨t, rfl⟩ := finite_iff.mp hshift
  obtain ⟨k, rfl⟩ := finite_iff.mp hk
  simp only [literal_eq, decimal_eq, real_mul, real_add, real_sub, real_le, Nat.cast_one] at *
  rw [fillZoom_real, max_eq_left hunit, real_le, le_div_iff₀ (one_pos.trans_le hunit)]
  linarith

omit hlo hhi hpad in
/-- The shift of a fit brings the point it is made for into the middle. -/
theorem meets_middle {x : Exact} (hx : Scalar.isFinite x = true) (hk : k.Positive) :
    x * k + (side * 0.5 - x * k) = side * 0.5 := by
  obtain ⟨w, rfl⟩ := finite_iff.mp hside
  obtain ⟨x, rfl⟩ := finite_iff.mp hx
  obtain ⟨k, -, rfl⟩ := hk
  simp only [decimal_eq, real_mul, real_sub, real_add]
  congr 1
  ring

end Axis

/-! ## Both axes -/

/-- What a view shows of points with a box around them after it has been fitted to the box. -/
structure Fitted (v : Viewport Exact) (b : Bounds Exact) (ps : List (Point Exact)) : Prop where
  still : v.animation = none
  middle : v.toScreen b.center = v.middle
  frames : v.Roomy → v.Frames v.transform b ps
  largest : v.Roomy → 1 ≤ b.width → 1 ≤ b.height →
    ∀ t, v.Frames t b ps → t.k ≤ v.transform.k
  cramped : ¬v.Roomy → v.transform.k = v.minK

section Fitted

variable {v : Viewport Exact} {b : Bounds Exact} {ps : List (Point Exact)}

theorem finite_of_middle (hv : v.OnCanvas) {t : Transform Exact} {p : Point Exact}
    (ht : t.toScreen p = v.middle) : t.shift.isFinite = true ∧ Scalar.isFinite t.k = true := by
  have hx : Scalar.isFinite (p.x * t.k + t.x) = true := by
    rw [show p.x * t.k + t.x = v.width * 0.5 from congrArg Point.x ht]
    exact finite_mul hv.width (isFinite_real _)
  have hy : Scalar.isFinite (p.y * t.k + t.y) = true := by
    rw [show p.y * t.k + t.y = v.height * 0.5 from congrArg Point.y ht]
    exact finite_mul hv.height (isFinite_real _)
  have hk : Scalar.isFinite t.k = true := (isFinite_of_mul (isFinite_of_add hx).1).2
  exact ⟨Point.isFinite_iff.mpr ⟨(isFinite_of_add hx).2, (isFinite_of_add hy).2⟩, hk⟩

/-- No transform that keeps the points off the edges has a larger zoom than there is room for. -/
theorem zoom_le_of_frames (hv : v.OnCanvas) (hb : b.Tight ps)
    (hps : ∀ p ∈ ps, p.isFinite = true) (hwide : 1 ≤ b.width) (hhigh : 1 ≤ b.height)
    {t : Transform Exact} (ht : v.Frames t b ps) : t.k ≤ v.roomZoom b := by
  have hfinite : b.Finite := hb.finite hps
  obtain ⟨hminX, hminY⟩ := Point.isFinite_iff.mp hfinite.1
  obtain ⟨hmaxX, hmaxY⟩ := Point.isFinite_iff.mp hfinite.2
  obtain ⟨hshift, hk⟩ := finite_of_middle hv ht.middle
  obtain ⟨hshiftX, hshiftY⟩ := Point.isFinite_iff.mp hshift
  -- each side of the box has a point on it
  obtain ⟨left, hleft, hleftX⟩ := List.mem_map.mp hb.1.low
  obtain ⟨right, hright, hrightX⟩ := List.mem_map.mp hb.1.high
  obtain ⟨top, htop, htopY⟩ := List.mem_map.mp hb.2.low
  obtain ⟨bottom, hbottom, hbottomY⟩ := List.mem_map.mp hb.2.high
  have hx : t.k ≤ fillZoom v.width v.padding b.width := by
    refine le_fillZoom_of_inset hminX hmaxX hv.width hv.padding hshiftX hk hwide ?_ ?_
    · rw [← hleftX]
      exact (ht.inset left hleft).1.1
    · rw [← hrightX]
      exact (ht.inset right hright).1.2
  have hy : t.k ≤ fillZoom v.height v.padding b.height := by
    refine le_fillZoom_of_inset hminY hmaxY hv.height hv.padding hshiftY hk hhigh ?_ ?_
    · rw [← htopY]
      exact (ht.inset top htop).2.1
    · rw [← hbottomY]
      exact (ht.inset bottom hbottom).2.2
  exact (le_roomZoom_iff hv hfinite t.k).mpr ⟨⟨⟨hx, hy⟩, ht.maxFitK⟩, ht.maxK⟩

theorem toScreen_centered (hv : v.OnCanvas) {p : Point Exact} (hp : p.isFinite = true) {k : Exact}
    (hk : k.Positive) : (v.centered p k).toScreen p = v.middle := by
  obtain ⟨hx, hy⟩ := Point.isFinite_iff.mp hp
  exact congrArg₂ Point.mk (meets_middle hv.width hx hk) (meets_middle hv.height hy hk)

/-- The zoom there is room for keeps all points off the edges. -/
theorem frames_centered (hv : v.OnCanvas) (hb : b.Tight ps) (hps : ∀ p ∈ ps, p.isFinite = true)
    (hroomy : v.Roomy) : v.Frames (v.centered b.center (v.roomZoom b)) b ps := by
  have hfinite : b.Finite := hb.finite hps
  obtain ⟨hminX, hminY⟩ := Point.isFinite_iff.mp hfinite.1
  obtain ⟨hmaxX, hmaxY⟩ := Point.isFinite_iff.mp hfinite.2
  have hk : (v.roomZoom b).Positive :=
    Positive.of_finite (finite_roomZoom hv hfinite) ((positive_roomZoom_iff hv hfinite).mpr hroomy)
  have hle : v.roomZoom b ≤ v.roomZoom b := by
    obtain ⟨k, -, hreal⟩ := hk
    rw [hreal]
    exact (real_le k k).mpr le_rfl
  obtain ⟨⟨⟨hwide, hhigh⟩, hfit⟩, hmax⟩ := (le_roomZoom_iff hv hfinite (v.roomZoom b)).mp hle
  refine ⟨fun p hp => ⟨?_, ?_⟩, toScreen_centered hv hfinite.center hk, hfit, hmax⟩
  · obtain ⟨hlow, hhigh⟩ := hb.1.between p.x (List.mem_map_of_mem hp)
    exact inset_of_le_fillZoom hminX hmaxX hv.width hv.padding hlow hhigh
      (Point.isFinite_iff.mp (hps p hp)).1 hk hwide
  · obtain ⟨hlow, hhigh'⟩ := hb.2.between p.y (List.mem_map_of_mem hp)
    exact inset_of_le_fillZoom hminY hmaxY hv.height hv.padding hlow hhigh'
      (Point.isFinite_iff.mp (hps p hp)).2 hk hhigh

theorem fitted_fit (hv : v.OnCanvas) (hb : b.Tight ps) (hps : ∀ p ∈ ps, p.isFinite = true) :
    (v.fit (some b)).Fitted b ps := by
  have hfinite : b.Finite := hb.finite hps
  refine ⟨rfl, toScreen_centered hv hfinite.center (hv.toScaled.fitZoom b).1, ?_, ?_, ?_⟩
  · intro (hroomy : v.Roomy)
    have hzoom : v.fitZoom b = v.roomZoom b := fitZoom_of_roomy hv hfinite hroomy
    have hframes := frames_centered hv hb hps hroomy
    rw [← hzoom] at hframes
    exact ⟨hframes.inset, hframes.middle, hframes.maxFitK, hframes.maxK⟩
  · intro (hroomy : v.Roomy) hwide hhigh t ht
    show t.k ≤ v.fitZoom b
    rw [fitZoom_of_roomy hv hfinite hroomy]
    have hframes : v.Frames t b ps := ⟨ht.inset, ht.middle, ht.maxFitK, ht.maxK⟩
    exact zoom_le_of_frames hv hb hps hwide hhigh hframes
  · intro (hcramped : ¬v.Roomy)
    exact fitZoom_of_not_roomy hv hfinite hcramped

end Fitted

end Viewport
end NodeLink
