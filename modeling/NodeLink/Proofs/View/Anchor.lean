import NodeLink.Proofs.View.Range
/-!
# The world under the pointer

A zoom keeps the world point under its anchor. A pan does not look at the zoom: it puts the shift
where it was at its start, and the distance of the pointer on top. So the world point under the
pointer is the one at the start only if the zoom is that of the start, and otherwise that point
drawn towards the world's origin, or away from it, by the quotient of the zooms.

* `Viewport.Faithful`: a view that maps the world to the canvas and back.
* `Viewport.wheel_pointerToWorld`: what is under the pointer after a notch of the wheel.
* `Viewport.panFrom_pointerToWorld`: what is under the pointer after a pan.
-/

namespace NodeLink

open Exact

namespace Point

variable {α : Type} [Scalar α]

def scale (p : Point α) (k : α) : Point α := ⟨p.x * k, p.y * k⟩

theorem scale_one {p : Point Exact} (hp : p.isFinite = true) : p.scale (real 1) = p := by
  obtain ⟨x, y⟩ := p
  obtain ⟨hx, hy⟩ := isFinite_iff.mp hp
  obtain ⟨x, rfl⟩ := finite_iff.mp hx
  obtain ⟨y, rfl⟩ := finite_iff.mp hy
  rw [scale, real_mul, real_mul, mul_one, mul_one]

theorem scale_zero {p : Point Exact} (hp : p.isFinite = true) : p.scale (real 0) = origin := by
  obtain ⟨x, y⟩ := p
  obtain ⟨hx, hy⟩ := isFinite_iff.mp hp
  obtain ⟨x, rfl⟩ := finite_iff.mp hx
  obtain ⟨y, rfl⟩ := finite_iff.mp hy
  rw [scale, real_mul, real_mul, mul_zero, mul_zero, origin, literal_eq, Nat.cast_zero]

theorem finite_sub {p q : Point Exact} (hp : p.isFinite = true) (hq : q.isFinite = true) :
    (p.sub q).isFinite = true := by
  obtain ⟨hpx, hpy⟩ := isFinite_iff.mp hp
  obtain ⟨hqx, hqy⟩ := isFinite_iff.mp hq
  exact isFinite_iff.mpr ⟨Exact.finite_sub hpx hqx, Exact.finite_sub hpy hqy⟩

/-- Drawn by a quotient of zooms, a point stays if the zooms are the same, and the origin always. -/
theorem scale_div_eq_self_iff {p : Point Exact} (hp : p.isFinite = true) {k k' : Exact}
    (hk : k.Positive) (hk' : k'.Positive) : p.scale (k / k') = p ↔ k' = k ∨ p = origin := by
  obtain ⟨x, y⟩ := p
  obtain ⟨hx, hy⟩ := isFinite_iff.mp hp
  obtain ⟨x, rfl⟩ := finite_iff.mp hx
  obtain ⟨y, rfl⟩ := finite_iff.mp hy
  obtain ⟨k, hk, rfl⟩ := hk
  obtain ⟨k', hk', rfl⟩ := hk'
  have hone : k / k' = 1 ↔ k' = k := (div_eq_one_iff_eq hk'.ne').trans eq_comm
  have hstays (z : ℝ) : z * (k / k') = z ↔ k' = k ∨ z = 0 := by
    rw [← hone, mul_right_eq_self₀]
  simp only [scale, origin, real_div _ hk'.ne', real_mul, literal_eq, Point.mk.injEq,
    Exact.real.injEq, hstays, Nat.cast_zero, or_and_left]

theorem scale_div_self {p : Point Exact} (hp : p.isFinite = true) {k : Exact} (hk : k.Positive) :
    p.scale (k / k) = p := (scale_div_eq_self_iff hp hk hk).mpr (Or.inl rfl)

end Point

/-! ## One coordinate -/

section Coordinate

variable {shift k k' x : Exact}

/-- At a new zoom, moved by what the anchor has strayed. -/
theorem anchor_stays (hshift : Scalar.isFinite shift = true) (hk : k.Positive) (hk' : k'.Positive)
    (hx : Scalar.isFinite x = true) :
    (x - (shift + (x - ((x - shift) / k * k' + shift)))) / k' = (x - shift) / k := by
  obtain ⟨s, rfl⟩ := finite_iff.mp hshift
  obtain ⟨x, rfl⟩ := finite_iff.mp hx
  obtain ⟨k, hk, rfl⟩ := hk
  obtain ⟨k', hk', rfl⟩ := hk'
  simp only [real_sub, real_add, real_mul, real_div _ hk.ne', real_div _ hk'.ne']
  congr 1
  field_simp
  ring

/-- From `x` to `y` on a page whose unit is `ratio`, with the shift moved by as much. -/
theorem grip_scales {ratio y : Exact} (hshift : Scalar.isFinite shift = true) (hk : k.Positive)
    (hk' : k'.Positive) (hratio : ratio.Positive) (hx : Scalar.isFinite x = true)
    (hy : Scalar.isFinite y = true) :
    (y * ratio - (shift + (y - x) * ratio)) / k' = (x * ratio - shift) / k * (k / k') := by
  obtain ⟨s, rfl⟩ := finite_iff.mp hshift
  obtain ⟨x, rfl⟩ := finite_iff.mp hx
  obtain ⟨y, rfl⟩ := finite_iff.mp hy
  obtain ⟨r, -, rfl⟩ := hratio
  obtain ⟨k, hk, rfl⟩ := hk
  obtain ⟨k', hk', rfl⟩ := hk'
  simp only [real_sub, real_add, real_mul, real_div _ hk.ne', real_div _ hk'.ne']
  congr 1
  field_simp
  ring

end Coordinate

namespace Viewport

/-! ## The map and its inverse -/

/-- The zoom is positive and the shift finite, so that world and canvas map to each other. -/
structure Faithful (v : Viewport Exact) : Prop extends v.Zoomed where
  place : v.shift.isFinite = true

variable {v : Viewport Exact} {p : Point Exact}

theorem Faithful.zoomAt (hv : v.Faithful) {anchor : Point Exact} (hanchor : anchor.isFinite = true)
    (factor : Exact) : (v.zoomAt anchor factor).Faithful :=
  ⟨hv.perform (.zoomAt anchor factor), finite_zoomTo hv.zoom hv.place hanchor
    (hv.scaled.clampZoom hv.zoom _).1⟩

theorem Faithful.wheel (hv : v.Faithful) (hp : p.isFinite = true) (deltaY : Exact) :
    (v.wheel p deltaY).Faithful :=
  v.wheel_cases p deltaY hv (hv.zoomAt (hv.scaled.finite_toDevice hp))

theorem Faithful.panFrom (hv : v.Faithful) {start delta : Point Exact}
    (hstart : start.isFinite = true) (hdelta : delta.isFinite = true) :
    (v.panFrom start delta).Faithful :=
  ⟨hv.perform (.panFrom start delta), hv.scaled.finite_panFrom hstart hdelta⟩

theorem Faithful.finite_pointerToWorld (hv : v.Faithful) (hp : p.isFinite = true) :
    (v.pointerToWorld p).isFinite = true :=
  Transform.finite_toWorld hv.place hv.zoom (hv.scaled.finite_toDevice hp)

/-! ## Zooms and pans -/

theorem zoomAt_toWorld (hv : v.Faithful) {anchor : Point Exact} (hanchor : anchor.isFinite = true)
    (factor : Exact) : (v.zoomAt anchor factor).toWorld anchor = v.toWorld anchor := by
  obtain ⟨hx, hy⟩ := Point.isFinite_iff.mp hv.place
  obtain ⟨hanchorX, hanchorY⟩ := Point.isFinite_iff.mp hanchor
  have hk : (v.clampZoom (v.transform.k * factor)).Positive := (hv.scaled.clampZoom hv.zoom _).1
  exact congrArg₂ Point.mk (anchor_stays hx hv.zoom hk hanchorX)
    (anchor_stays hy hv.zoom hk hanchorY)

theorem wheel_pointerToWorld (hv : v.Faithful) (hp : p.isFinite = true) (deltaY : Exact) :
    (v.wheel p deltaY).pointerToWorld p = v.pointerToWorld p :=
  v.wheel_cases p deltaY rfl (zoomAt_toWorld hv (hv.scaled.finite_toDevice hp))

/-- A pan from the shift of another view of the same ratio, which has the pointer at `p`. -/
theorem panFrom_pointerToWorld (hv : v.Faithful) {start : Viewport Exact} (hstart : start.Faithful)
    (hratio : v.ratio = start.ratio) (hp : p.isFinite = true) {q : Point Exact}
    (hq : q.isFinite = true) :
    (v.panFrom start.shift (q.sub p)).pointerToWorld q =
      (start.pointerToWorld p).scale (start.transform.k / v.transform.k) := by
  obtain ⟨hx, hy⟩ := Point.isFinite_iff.mp hstart.place
  obtain ⟨hpx, hpy⟩ := Point.isFinite_iff.mp hp
  obtain ⟨hqx, hqy⟩ := Point.isFinite_iff.mp hq
  have hdevice : (v.panFrom start.shift (q.sub p)).toDevice q = start.toDevice q :=
    congrArg q.scale hratio
  rw [pointerToWorld, hdevice]
  unfold panFrom
  rw [hratio]
  exact congrArg₂ Point.mk (grip_scales hx hstart.zoom hv.zoom hstart.scaled.ratio hpx hqx)
    (grip_scales hy hstart.zoom hv.zoom hstart.scaled.ratio hpy hqy)

end Viewport
end NodeLink
