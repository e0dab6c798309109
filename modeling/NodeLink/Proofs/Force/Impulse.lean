import NodeLink.Proofs.Force.DoubleLoop
import NodeLink.Proofs.Settings.Exact
import NodeLink.Proofs.View.Anchor
/-!
# Impulses of pairs and springs

What a pair of near nodes and what a spring add to the velocity of their first node; the second one
gets the opposite. Both act along the line of the nodes. The epsilon that is added to the squared
distance weakens a repulsion and shortens an overlap, so the limits on both hold also for nodes in
one place; these have no line, and are pushed along a direction that their indices fix.

* `Physics.tug`: what a link gives to its ends.
* `Physics.bearing`, `length_bearing`: the direction of a pair, a unit vector.
* `Physics.exists_impulse`, `exists_tug`: direction, sign and bound of each impulse.
-/

namespace NodeLink

open Exact

/-! ## Vectors -/

section

variable {α : Type} [Scalar α]

def Point.length (p : Point α) : α := Scalar.sqrt (p.x * p.x + p.y * p.y)

end

namespace Point

theorem exists_real {p : Point Exact} (hp : p.isFinite = true) :
    ∃ x y : ℝ, p = ⟨real x, real y⟩ := by
  obtain ⟨x, y⟩ := p
  obtain ⟨hx, hy⟩ := isFinite_iff.mp hp
  obtain ⟨x, rfl⟩ := finite_iff.mp hx
  obtain ⟨y, rfl⟩ := finite_iff.mp hy
  exact ⟨x, y, rfl⟩

theorem length_real (x y : ℝ) :
    (⟨real x, real y⟩ : Point Exact).length = real √(x * x + y * y) :=
  sqrt_real (add_nonneg (mul_self_nonneg x) (mul_self_nonneg y))

theorem distance_eq (p q : Point Exact) : p.distance q = (q.sub p).length := rfl

theorem length_scale {p : Point Exact} {l c : ℝ} (hp : p.isFinite = true) (hl : p.length = real l) :
    (p.scale (real c)).length = real (|c| * l) := by
  obtain ⟨x, y, rfl⟩ := exists_real hp
  rw [length_real, real.injEq] at hl
  have hfactor : x * c * (x * c) + y * c * (y * c) = c ^ 2 * (x * x + y * y) := by ring
  show Point.length ⟨real (x * c), real (y * c)⟩ = _
  rw [length_real, hfactor, Real.sqrt_mul (sq_nonneg c), Real.sqrt_sq_eq_abs, hl]

theorem scale_scale {p : Point Exact} (hp : p.isFinite = true) (c d : ℝ) :
    (p.scale (real c)).scale (real d) = p.scale (real (c * d)) := by
  obtain ⟨x, y, rfl⟩ := exists_real hp
  simp only [scale, real_mul, mul_assoc]

theorem finite_scale {p : Point Exact} (hp : p.isFinite = true) {k : Exact}
    (hk : Scalar.isFinite k = true) : (p.scale k).isFinite = true := by
  obtain ⟨hx, hy⟩ := isFinite_iff.mp hp
  exact isFinite_iff.mpr ⟨finite_mul hx hk, finite_mul hy hk⟩

end Point

namespace Physics

section

variable {α : Type} [Scalar α]

/-! ## Springs as impulses -/

/-- What a link adds to the velocity of its source: nothing if a node is missing, and nothing if
it leads to itself. -/
def tug (p : ForceParams α) (nodes : Array (Node α)) (link : Link α × Nat × Nat) :
    Option (Point α) :=
  if link.2.1 = link.2.2 then none
  else
    match nodes[link.2.1]?, nodes[link.2.2]? with
    | some a, some b =>
      let (direction, f) := spring p a.position b.position link.1.weight
      some ⟨direction.x * f, direction.y * f⟩
    | _, _ => none

/-- A tug does not depend on velocities. -/
theorem tug_map_paused (p : ForceParams α) (nodes : Array (Node α)) (link : Link α × Nat × Nat) :
    tug p (nodes.map Node.paused) link = tug p nodes link := by
  unfold tug
  rw [Array.getElem?_map, Array.getElem?_map]
  cases nodes[link.2.1]? with
  | none => rfl
  | some a =>
    cases nodes[link.2.2]? with
    | none => rfl
    | some b => rfl

theorem exists_of_impulse {p : ForceParams α} {nodes : Array (Node α)} {i j : Nat} {v : Point α}
    (h : impulse p nodes (i, j) = some v) : ∃ a b, nodes[i]? = some a ∧ nodes[j]? = some b ∧
      let (direction, d2) := separation a.position b.position i j
      direction.scale (pairForce p a b d2) = v := by
  unfold impulse at h
  split at h
  · next a b hi hj => exact ⟨a, b, hi, hj, Option.some.inj h⟩
  · exact absurd h.symm (Option.some_ne_none v)

theorem exists_of_tug {p : ForceParams α} {nodes : Array (Node α)} {l : Link α} {s t : Nat}
    {v : Point α} (h : tug p nodes (l, s, t) = some v) :
    ∃ a b, nodes[s]? = some a ∧ nodes[t]? = some b ∧
      let (direction, f) := spring p a.position b.position l.weight
      direction.scale f = v := by
  obtain ⟨-, h⟩ := Option.ite_none_left_eq_some.mp h
  split at h
  · next a b hs ht => exact ⟨a, b, hs, ht, Option.some.inj h⟩
  · exact absurd h.symm (Option.some_ne_none v)

/-- The direction in which two nodes without a line between them are pushed apart. -/
def indexDirection (i j : Nat) : Point α :=
  let angle := (Scalar.ofNat i * 0.618034 + Scalar.ofNat j * 0.414214) * Scalar.turn
  ⟨Scalar.cos angle, Scalar.sin angle⟩

/-- The direction of a push on the first of two nodes: away from the second one, unless they are
too near to tell where that is. -/
def bearing (a b : Point α) (i j : Nat) : Point α :=
  if 1e-6 < a.distance b then (a.sub b).scale (1 / a.distance b) else indexDirection i j

end

theorem pull_eq_shove (p : ForceParams Exact) (nodes : Array (Node Exact))
    (link : Link Exact × Nat × Nat) :
    pull p nodes link = shove link.2 (tug p nodes link) nodes := by
  obtain ⟨l, s, t⟩ := link
  unfold pull tug
  dsimp only
  split
  · rfl
  · cases nodes[s]? with
    | none => rfl
    | some a =>
      cases nodes[t]? with
      | none => rfl
      | some b =>
        dsimp only [shove]
        rw [push_eq_nudge, pushBack_eq_nudge]

/-! ## Directions -/

theorem length_indexDirection (i j : Nat) : (indexDirection i j : Point Exact).length = 1 := by
  show Point.length ⟨real (Real.cos _), real (Real.sin _)⟩ = _
  rw [Point.length_real, ← sq, ← sq, Real.cos_sq_add_sin_sq, Real.sqrt_one, literal_eq,
    Nat.cast_one]

theorem finite_indexDirection (i j : Nat) :
    (indexDirection i j : Point Exact).isFinite = true := rfl

variable {a b : Point Exact}

theorem exists_distance (ha : a.isFinite = true) (hb : b.isFinite = true) :
    ∃ d : ℝ, 0 ≤ d ∧ a.distance b = real d := by
  obtain ⟨x, y, h⟩ := Point.exists_real (Point.finite_sub hb ha)
  exact ⟨_, Real.sqrt_nonneg _, by rw [Point.distance_eq, h, Point.length_real]⟩

theorem length_sub (ha : a.isFinite = true) (hb : b.isFinite = true) :
    (a.sub b).length = a.distance b := by
  obtain ⟨ax, ay, rfl⟩ := Point.exists_real ha
  obtain ⟨bx, by', rfl⟩ := Point.exists_real hb
  simp only [Point.distance_eq, Point.sub, real_sub, Point.length_real]
  congr 2
  ring

theorem length_bearing (ha : a.isFinite = true) (hb : b.isFinite = true) (i j : Nat) :
    (bearing a b i j).length = 1 := by
  obtain ⟨d, -, hd⟩ := exists_distance ha hb
  unfold bearing
  split
  · next hfar =>
    rw [hd, decimal_eq, real_lt] at hfar
    have hpos : 0 < d := lt_trans (by norm_num) hfar
    rw [hd, literal_eq, real_div _ hpos.ne', Nat.cast_one,
      Point.length_scale (Point.finite_sub ha hb) ((length_sub ha hb).trans hd),
      abs_of_pos (one_div_pos.mpr hpos), one_div_mul_cancel hpos.ne']
  · exact length_indexDirection i j

theorem finite_bearing (ha : a.isFinite = true) (hb : b.isFinite = true) (i j : Nat) :
    (bearing a b i j).isFinite = true := by
  obtain ⟨d, -, hd⟩ := exists_distance ha hb
  unfold bearing
  split
  · next hfar =>
    rw [hd, decimal_eq, real_lt] at hfar
    have hpos : (real d).Positive := ⟨d, lt_trans (by norm_num) hfar, rfl⟩
    rw [hd]
    exact Point.finite_scale (Point.finite_sub ha hb) (Positive.finite_div (isFinite_real _) hpos)
  · exact finite_indexDirection i j

/-- The square of the distance tells near nodes from others as the distance would. -/
theorem separation_eq (ha : a.isFinite = true) (hb : b.isFinite = true) (i j : Nat) {d : ℝ}
    (hpos : 0 ≤ d) (hd : a.distance b = real d) :
    separation a b i j = (bearing a b i j, real (d * d)) := by
  have hnear : (1e-12 : Exact) < real (d * d) ↔ (1e-6 : Exact) < real d := by
    have hsquare : (1e-12 : ℝ) = 1e-6 * 1e-6 := by norm_num
    rw [decimal_eq, decimal_eq, real_lt, real_lt, hsquare]
    exact (mul_self_lt_mul_self_iff (by norm_num) hpos).symm
  have hlength := (length_sub ha hb).trans hd
  unfold separation bearing
  rw [hd]
  obtain ⟨ax, ay, rfl⟩ := Point.exists_real ha
  obtain ⟨bx, by', rfl⟩ := Point.exists_real hb
  simp only [Point.sub, real_sub, Point.length_real, real.injEq] at hlength
  have hsquare : (ax - bx) * (ax - bx) + (ay - by') * (ay - by') = d * d := by
    rw [← hlength, Real.mul_self_sqrt (add_nonneg (mul_self_nonneg _) (mul_self_nonneg _))]
  simp only [real_sub, real_mul, real_add, hsquare, sqrt_real (mul_self_nonneg d),
    Real.sqrt_mul_self hpos]
  by_cases hfar : (1e-6 : Exact) < real d
  · have hne : d ≠ 0 := by
      rw [decimal_eq, real_lt] at hfar
      exact (lt_trans (by norm_num) hfar).ne'
    rw [if_pos hfar, if_pos (hnear.mpr hfar)]
    simp only [Point.scale, Point.sub, literal_eq, Nat.cast_one, real_sub, real_div _ hne, real_mul,
      mul_one_div]
  · rw [if_neg hfar, if_neg (mt hnear.mp hfar)]
    rfl

/-! ## The push on a pair -/

variable {p : ForceParams Exact}

/-- The most a pair is pushed: by repulsion, and by the overlap of two nodes in one place. -/
def pushMax {α : Type} [Scalar α] (p : ForceParams α) (a b : Node α) : α :=
  p.repulsionMax + p.collisionStrength * Scalar.max 0 (p.collisionPadding + a.radius + b.radius)

/-- The force on real numbers: `e` is the squared distance with the epsilon. -/
theorem pairForce_bounds (reach : ℝ) {r m s e : ℝ} (hr : 0 ≤ r) (hm : 0 ≤ m) (hs : 0 ≤ s)
    (he : 0 < e) :
    let f := if √e < reach then min (r / e) m + (reach - √e) * s else min (r / e) m
    0 ≤ f ∧ f ≤ m + s * max 0 reach ∧ (0 < r → 0 < m → 0 < f) := by
  have hrepels : 0 ≤ min (r / e) m := le_min (div_nonneg hr he.le) hm
  have hlimit : min (r / e) m ≤ m := min_le_right _ _
  have hpos (hr : 0 < r) (hm : 0 < m) : 0 < min (r / e) m := lt_min (div_pos hr he) hm
  intro f
  by_cases hoverlap : √e < reach
  · have hf : f = min (r / e) m + (reach - √e) * s := if_pos hoverlap
    have hpush : 0 ≤ (reach - √e) * s := mul_nonneg (sub_nonneg.mpr hoverlap.le) hs
    have hdepth : (reach - √e) * s ≤ s * max 0 reach :=
      calc (reach - √e) * s ≤ max 0 reach * s := by
            refine mul_le_mul_of_nonneg_right ?_ hs
            exact (sub_le_self reach (Real.sqrt_nonneg e)).trans (le_max_right 0 reach)
        _ = s * max 0 reach := mul_comm _ _
    rw [hf]
    exact ⟨add_nonneg hrepels hpush, add_le_add hlimit hdepth,
      fun hr hm => add_pos_of_pos_of_nonneg (hpos hr hm) hpush⟩
  · have hf : f = min (r / e) m := if_neg hoverlap
    rw [hf]
    exact ⟨hrepels, hlimit.trans (le_add_of_nonneg_right (mul_nonneg hs (le_max_left 0 reach))),
      hpos⟩

theorem exists_pairForce (hp : p.Valid) {a b : Node Exact} (ha : Scalar.isFinite a.radius = true)
    (hb : Scalar.isFinite b.radius = true) {d2 : ℝ} (hd : 0 ≤ d2) :
    ∃ f : ℝ, pairForce p a b (real d2) = real f ∧ 0 ≤ f ∧ real f ≤ pushMax p a b ∧
      (0 < p.repulsion → 0 < p.repulsionMax → 0 < f) := by
  obtain ⟨e, he, hepsilon⟩ := Positive.of_finite hp.epsilon.1 hp.epsilon.2
  obtain ⟨r, hr, hrepulsion⟩ := exists_nonneg hp.repulsion
  obtain ⟨m, hm, hmax⟩ := exists_nonneg hp.repulsionMax
  obtain ⟨s, hs, hstrength⟩ := exists_nonneg hp.collisionStrength
  obtain ⟨c, hpadding⟩ := finite_iff.mp hp.collisionPadding
  obtain ⟨x, hx⟩ := finite_iff.mp ha
  obtain ⟨y, hy⟩ := finite_iff.mp hb
  have hdivisor : 0 < d2 + e := add_pos_of_nonneg_of_pos hd he
  obtain ⟨hnonneg, hle, hpos⟩ := pairForce_bounds (c + x + y) hr hm hs hdivisor
  refine ⟨_, ?_, hnonneg, ?_, ?_⟩
  · simp only [pairForce, hepsilon, hrepulsion, hmax, hstrength, hpadding, hx, hy, real_add,
      sqrt_real hdivisor.le, real_div _ hdivisor.ne', min_real, real_lt, real_sub, real_mul]
    split
    · rfl
    · rfl
  · simp only [pushMax, hmax, hstrength, hpadding, hx, hy, literal_eq, Nat.cast_zero, real_add,
      max_real, real_mul, real_le]
    exact hle
  · rw [hrepulsion, hmax, literal_eq, real_lt, real_lt, Nat.cast_zero]
    exact hpos

/-- The push on the first of two nodes: in the direction of the pair, not back, at most `pushMax`
long, and there at all if there is any repulsion. -/
theorem exists_impulse (hp : p.Valid) {nodes : Array (Node Exact)} {i j : Nat} {a b : Node Exact}
    (hi : nodes[i]? = some a) (hj : nodes[j]? = some b) (ha : a.position.isFinite = true)
    (hb : b.position.isFinite = true) (hra : Scalar.isFinite a.radius = true)
    (hrb : Scalar.isFinite b.radius = true) :
    ∃ f : ℝ, impulse p nodes (i, j) = some ((bearing a.position b.position i j).scale (real f)) ∧
      0 ≤ f ∧ ((bearing a.position b.position i j).scale (real f)).length ≤ pushMax p a b ∧
      (0 < p.repulsion → 0 < p.repulsionMax → 0 < f) := by
  obtain ⟨d, hd, hdistance⟩ := exists_distance ha hb
  obtain ⟨f, hf, hnonneg, hle, hpos⟩ := exists_pairForce hp hra hrb (mul_nonneg hd hd)
  refine ⟨f, ?_, hnonneg, ?_, hpos⟩
  · simp only [impulse, hi, hj, separation_eq ha hb i j hd hdistance, hf]
    rfl
  · rw [Point.length_scale (finite_bearing ha hb i j) (length_bearing ha hb i j), Nat.cast_one,
      mul_one, abs_of_nonneg hnonneg]
    exact hle

/-! ## The pull of a spring -/

/-- The force of a spring on real numbers: `stretch` is its stiffness times how far it is
stretched. -/
theorem springForce_bounds (stretch : ℝ) {m : ℝ} (hm : 0 ≤ m) :
    let f := min (max stretch (-m)) m
    |f| ≤ m ∧ (0 ≤ stretch → 0 ≤ f) ∧ (stretch ≤ 0 → f ≤ 0) := by
  intro f
  refine ⟨abs_le.mpr ⟨le_min (le_max_right _ _) (neg_le_self hm), min_le_right _ _⟩, ?_, ?_⟩
  · intro h
    exact le_min (h.trans (le_max_left _ _)) hm
  · intro h
    exact (min_le_left _ _).trans (max_le h (neg_nonpos.mpr hm))

/-- A spring between two points acts along their line, with a force that is spread over the distance
and a little more. -/
theorem spring_eq (ha : a.isFinite = true) (hb : b.isFinite = true) {d rest k w m : ℝ}
    (hd : 0 ≤ d) (hdistance : a.distance b = real d) (hrest : p.linkDistance = real rest)
    (hk : p.linkStiffness = real k) (hm : p.springMax = real m) :
    let f := min (max ((d + 1e-6 - rest) * k * w) (-m)) m
    spring p a b (real w) = ((b.sub a).scale (real (1 / (d + 1e-6))), real f) := by
  obtain ⟨ax, ay, rfl⟩ := Point.exists_real ha
  obtain ⟨bx, by', rfl⟩ := Point.exists_real hb
  have hlonger : d + 1e-6 ≠ 0 := (add_pos_of_nonneg_of_pos hd (by norm_num)).ne'
  simp only [Point.distance_eq, Point.sub, real_sub, Point.length_real, real.injEq] at hdistance
  simp only [spring, Point.scale, Point.sub, hrest, hk, hm, real_sub, real_mul, real_add, real_neg,
    decimal_eq, sqrt_real (add_nonneg (mul_self_nonneg _) (mul_self_nonneg _)), hdistance,
    real_div _ hlonger, max_real, min_real, mul_one_div]

/-- The pull on the first end of a spring: along its line, at most `springMax`, towards the other
end if the spring is longer than at rest, and away from it if it is shorter. -/
theorem exists_tug (hp : p.Valid) {nodes : Array (Node Exact)} {l : Link Exact} {s t : Nat}
    {a b : Node Exact} (hne : s ≠ t) (hs : nodes[s]? = some a) (ht : nodes[t]? = some b)
    (ha : a.position.isFinite = true) (hb : b.position.isFinite = true)
    (hweight : Scalar.isFinite l.weight = true) (hpos : 0 < l.weight) :
    ∃ c : ℝ, tug p nodes (l, s, t) = some ((b.position.sub a.position).scale (real c)) ∧
      ((b.position.sub a.position).scale (real c)).length ≤ p.springMax ∧
      (p.linkDistance < a.position.distance b.position + 1e-6 → 0 ≤ c) ∧
      (a.position.distance b.position + 1e-6 < p.linkDistance → c ≤ 0) := by
  obtain ⟨d, hd, hdistance⟩ := exists_distance ha hb
  obtain ⟨w, hw, hlink⟩ := Positive.of_finite hweight hpos
  obtain ⟨rest, -, hrest⟩ := exists_nonneg hp.linkDistance
  obtain ⟨k, hk, hstiffness⟩ := exists_nonneg hp.linkStiffness
  obtain ⟨m, hm, hmax⟩ := exists_nonneg hp.springMax
  have hlonger : 0 < d + 1e-6 := add_pos_of_nonneg_of_pos hd (by norm_num)
  obtain ⟨hbound, htogether, hapart⟩ := springForce_bounds ((d + 1e-6 - rest) * k * w) hm
  have hspring := spring_eq (w := w) ha hb hd hdistance hrest hstiffness hmax
  generalize min (max ((d + 1e-6 - rest) * k * w) (-m)) m = f at hbound htogether hapart hspring
  refine ⟨1 / (d + 1e-6) * f, ?_, ?_, ?_, ?_⟩
  · simp only [tug, if_neg hne, hs, ht, hlink, hspring]
    rw [← Point.scale_scale (Point.finite_sub hb ha)]
    rfl
  · -- the distance is a part of what the force is spread over
    have hpart : |1 / (d + 1e-6) * f| * d ≤ m :=
      calc |1 / (d + 1e-6) * f| * d = |f| * (d / (d + 1e-6)) := by
            rw [abs_mul, abs_of_pos (one_div_pos.mpr hlonger)]
            ring
        _ ≤ |f| := by
            refine mul_le_of_le_one_right (abs_nonneg f) ((div_le_one hlonger).mpr ?_)
            exact le_add_of_nonneg_right (by norm_num)
        _ ≤ m := hbound
    rw [hmax, Point.length_scale (Point.finite_sub hb ha) hdistance]
    exact hpart
  · rw [hrest, hdistance, decimal_eq, real_add, real_lt]
    intro h
    refine mul_nonneg (one_div_pos.mpr hlonger).le (htogether ?_)
    exact mul_nonneg (mul_nonneg (sub_pos.mpr h).le hk) hw.le
  · rw [hrest, hdistance, decimal_eq, real_add, real_lt]
    intro h
    refine mul_nonpos_of_nonneg_of_nonpos (one_div_pos.mpr hlonger).le (hapart ?_)
    exact mul_nonpos_of_nonpos_of_nonneg
      (mul_nonpos_of_nonpos_of_nonneg (sub_neg.mpr h).le hk) hw.le

end Physics
end NodeLink
