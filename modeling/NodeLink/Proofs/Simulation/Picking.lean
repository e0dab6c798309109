import NodeLink.Proofs.Force.Impulse
import NodeLink.Simulation.Basic
/-!
# What a pointer picks

Picking compares distances in the world, with a tolerance that is converted for the zoom. Told on
the canvas, a node is in reach if its middle is drawn nearer to the pointer than its drawn radius
and the tolerance, which is the same length on the page at every zoom and ratio. Of the nodes in
reach the nearest is picked, and the first of several equally near; a nearer node out of reach does
not matter.

* `IsNearest`: the first of the nearest nodes that are near.
* `BestOf.step`, `bestOf_foldl`: what the pass over the nodes finds, from one step to the whole.
* `Simulation.reach_iff`: the same reach in the world and on the canvas.
* `Simulation.pick_nearest`: what is picked, and when nothing is.
-/

namespace NodeLink

open Exact

/-! ## The nearest node -/

/-- The node at an index is the first of those that are near and the least far. -/
structure IsNearest {β : Type} [LT β] (near : Node Exact → Prop) (far : Node Exact → β)
    (nodes : List (Node Exact)) (i : ℕ) (n : Node Exact) : Prop where
  node : nodes[i]? = some n
  reached : near n
  first : ∀ j m, nodes[j]? = some m → near m → far n < far m ∨ far n = far m ∧ i ≤ j

section Order

variable {β γ : Type} [LT β] [LT γ] {near : Node Exact → Prop} {far : Node Exact → β}
  {far' : Node Exact → γ} {nodes : List (Node Exact)} {i : ℕ} {n : Node Exact}

theorem IsNearest.mono (h : IsNearest near far nodes i n)
    (hless : ∀ n ∈ nodes, ∀ m ∈ nodes, far n < far m → far' n < far' m)
    (hequal : ∀ n ∈ nodes, ∀ m ∈ nodes, far n = far m → far' n = far' m) :
    IsNearest near far' nodes i n := by
  refine ⟨h.node, h.reached, fun j m hj hnear => ?_⟩
  have hn := List.mem_of_getElem? h.node
  have hm := List.mem_of_getElem? hj
  exact (h.first j m hj hnear).imp (hless n hn m hm) (And.imp_left (hequal n hn m hm))

/-- Distances in the same order have the same nearest node. -/
theorem isNearest_congr (hless : ∀ n ∈ nodes, ∀ m ∈ nodes, far n < far m ↔ far' n < far' m)
    (hequal : ∀ n ∈ nodes, ∀ m ∈ nodes, far n = far m ↔ far' n = far' m) :
    IsNearest near far nodes i n ↔ IsNearest near far' nodes i n := by
  constructor
  · exact fun h => h.mono (fun n hn m hm => (hless n hn m hm).mp)
      fun n hn m hm => (hequal n hn m hm).mp
  · exact fun h => h.mono (fun n hn m hm => (hless n hn m hm).mpr)
      fun n hn m hm => (hequal n hn m hm).mpr

end Order

section Nearest

variable {near : Node Exact → Prop} {far : Node Exact → ℝ} {nodes : List (Node Exact)} {i j : ℕ}
  {n m : Node Exact}

theorem IsNearest.unique (hi : IsNearest near far nodes i n) (hj : IsNearest near far nodes j m) :
    i = j := by
  rcases hi.first j m hj.node hj.reached with hless | ⟨hequal, hij⟩
  · rcases hj.first i n hi.node hi.reached with hless' | ⟨hequal', -⟩
    · exact absurd hless' hless.asymm
    · exact absurd hequal' hless.ne'
  · rcases hj.first i n hi.node hi.reached with hless' | ⟨-, hji⟩
    · exact absurd hequal hless'.ne'
    · exact Nat.le_antisymm hij hji

theorem getElem?_concat_cases (h : (nodes ++ [n])[j]? = some m) :
    nodes[j]? = some m ∨ j = nodes.length ∧ n = m := by
  rcases Nat.lt_or_ge j nodes.length with hj | hj
  · rw [List.getElem?_append_left hj] at h
    exact Or.inl h
  · rw [List.getElem?_append_right hj, List.getElem?_singleton] at h
    obtain ⟨hj', hnm⟩ := Option.ite_none_right_eq_some.mp h
    exact Or.inr ⟨by omega, Option.some.inj hnm⟩

/-- One node more changes nothing unless it is near and nearer. -/
theorem IsNearest.concat (h : IsNearest near far nodes i n) (hm : near m → far n ≤ far m) :
    IsNearest near far (nodes ++ [m]) i n := by
  have hi : i < nodes.length := (List.getElem?_eq_some_iff.mp h.node).1
  refine ⟨(List.getElem?_append_left hi).trans h.node, h.reached, ?_⟩
  intro j m' hj hnear
  rcases getElem?_concat_cases hj with hold | ⟨rfl, rfl⟩
  · exact h.first j m' hold hnear
  · exact (hm hnear).lt_or_eq.imp_right fun hequal => ⟨hequal, hi.le⟩

theorem isNearest_last (hnear : near n) (hless : ∀ m ∈ nodes, near m → far n < far m) :
    IsNearest near far (nodes ++ [n]) nodes.length n := by
  refine ⟨List.getElem?_concat_length, hnear, ?_⟩
  intro j m hj hnear'
  rcases getElem?_concat_cases hj with hold | ⟨rfl, rfl⟩
  · exact Or.inl (hless m (List.mem_of_getElem? hold) hnear')
  · exact Or.inr ⟨rfl, Nat.le_refl _⟩

theorem IsNearest.le (h : IsNearest near far nodes i n) (hm : m ∈ nodes) (hnear : near m) :
    far n ≤ far m := by
  obtain ⟨j, hj⟩ := List.mem_iff_getElem?.mp hm
  exact (h.first j m hj hnear).elim le_of_lt fun hequal => hequal.1.le

/-! ## The pass over the nodes -/

/-- Distances that tell whether a node is hit, and how far it is. -/
structure Measures (p : Point Exact) (slop : Exact) (near : Node Exact → Prop)
    (far : Node Exact → ℝ) (n : Node Exact) : Prop where
  hit : near n → n.hit? p slop = some (real (far n))
  miss : ¬near n → n.hit? p slop = none

/-- What has been found when these nodes have been passed. -/
def BestOf (near : Node Exact → Prop) (far : Node Exact → ℝ) (nodes : List (Node Exact)) :
    Option (ℕ × Exact) → Prop
  | none => ∀ n ∈ nodes, ¬near n
  | some (i, d) => ∃ n, IsNearest near far nodes i n ∧ d = real (far n)

variable {p : Point Exact} {slop : Exact}

theorem BestOf.step {best : Option (ℕ × Exact)} (h : BestOf near far nodes best)
    (hn : Measures p slop near far n) :
    BestOf near far (nodes ++ [n]) (betterHit p slop best (n, nodes.length)) := by
  unfold betterHit
  by_cases hnear : near n
  · rw [hn.hit hnear]
    cases best with
    | none => exact ⟨n, isNearest_last hnear fun m hm hnear' => absurd hnear' (h m hm), rfl⟩
    | some found =>
      obtain ⟨i, d⟩ := found
      obtain ⟨b, hb, rfl⟩ := h
      by_cases hless : far n < far b
      · have hfound : BestOf near far (nodes ++ [n]) (some (nodes.length, real (far n))) :=
          ⟨n, isNearest_last hnear fun m hm hnear' => hless.trans_le (hb.le hm hnear'), rfl⟩
        simpa only [real_lt, hless, if_true] using hfound
      · have hkept : BestOf near far (nodes ++ [n]) (some (i, real (far b))) :=
          ⟨b, hb.concat fun _ => not_lt.mp hless, rfl⟩
        simpa only [real_lt, hless, if_false] using hkept
  · rw [hn.miss hnear]
    cases best with
    | none =>
      intro m hm
      rcases List.mem_append.mp hm with hold | hnew
      · exact h m hold
      · rwa [List.mem_singleton.mp hnew]
    | some found =>
      obtain ⟨b, hb, hd⟩ := h
      exact ⟨b, hb.concat fun hnear' => absurd hnear' hnear, hd⟩

theorem bestOf_foldl (h : ∀ n ∈ nodes, Measures p slop near far n) :
    BestOf near far nodes (nodes.zipIdx.foldl (betterHit p slop) none) := by
  -- from the right, so that the passed nodes are the ones that the step speaks of
  induction nodes using List.reverseRecOn with
  | nil => exact fun n hn => absurd hn List.not_mem_nil
  | append_singleton nodes n ih =>
    have hpassed := ih fun m hm => h m (List.mem_append_left _ hm)
    have hstep := hpassed.step (h n (List.mem_append_right _ List.mem_cons_self))
    rwa [List.zipIdx_append, List.foldl_append, Nat.zero_add]

/-- The best of some nodes is the nearest that is near, and missing exactly if none is. -/
theorem BestOf.index_iff {best : Option (ℕ × Exact)} (h : BestOf near far nodes best) :
    (∀ i, best.map Prod.fst = some i ↔ ∃ n, IsNearest near far nodes i n) ∧
      (best.map Prod.fst = none ↔ ∀ n ∈ nodes, ¬near n) := by
  cases best with
  | none =>
    refine ⟨fun i => iff_of_false (Option.some_ne_none i).symm ?_, iff_of_true rfl h⟩
    rintro ⟨n, hn⟩
    exact h n (List.mem_of_getElem? hn.node) hn.reached
  | some found =>
    obtain ⟨b, hb, -⟩ := h
    refine ⟨fun i => ?_, iff_of_false (Option.some_ne_none _) fun hnone => ?_⟩
    · rw [Option.map_some, Option.some.injEq]
      constructor
      · rintro rfl
        exact ⟨b, hb⟩
      · rintro ⟨n, hn⟩
        exact hb.unique hn
    · exact hnone b (List.mem_of_getElem? hb.node) hb.reached

end Nearest

/-! ## Reach on the canvas -/

namespace Simulation

section

variable {α : Type} [Scalar α]

/-- The distance in device pixels from the pointer to where the middle of a node is drawn. -/
def apart (s : Simulation α) (p : Point α) (n : Node α) : α :=
  (s.viewport.toScreen n.position).distance (s.viewport.toDevice p)

/-- The pointer is inside the drawn disc of a node, widened by the tolerance. -/
def InReach (s : Simulation α) (p : Point α) (n : Node α) : Prop :=
  s.apart p n < n.radius * s.viewport.transform.k + s.scale.node.hitSlop * s.viewport.ratio

end

/-- A distance on the canvas is one of the world times the zoom. -/
theorem sqrt_drawn {x y px py tx ty k : ℝ} (hk : 0 < k) :
    √((px - (x * k + tx)) * (px - (x * k + tx)) + (py - (y * k + ty)) * (py - (y * k + ty))) =
      k * √((x - (px - tx) / k) * (x - (px - tx) / k) +
        (y - (py - ty) / k) * (y - (py - ty) / k)) := by
  have hx : px - (x * k + tx) = -(k * (x - (px - tx) / k)) := by
    field_simp
    ring
  have hy : py - (y * k + ty) = -(k * (y - (py - ty) / k)) := by
    field_simp
    ring
  have hsum (a b : ℝ) : -(k * a) * -(k * a) + -(k * b) * -(k * b) = k ^ 2 * (a * a + b * b) := by
    ring
  rw [hx, hy, hsum, Real.sqrt_mul (sq_nonneg k), Real.sqrt_sq hk.le]

/-- A reach is the same measured in the world and on the canvas. -/
theorem reach_iff {d radius slop k r : ℝ} (hk : 0 < k) (hr : 0 < r) (hradius : 0 < radius)
    (hslop : 0 ≤ slop) : d < (radius + slop * r / k) * (radius + slop * r / k) ↔
      k * √d < radius * k + slop * r := by
  have hreach : 0 < radius + slop * r / k := by positivity
  have hscaled : radius * k + slop * r = k * (radius + slop * r / k) := by
    field_simp
  rw [hscaled, mul_lt_mul_iff_right₀ hk, Real.sqrt_lt' hreach, sq]

/-- The squared distance in the world that picking looks at, and what it is on the canvas. -/
theorem exists_gap {s : Simulation Exact} (hv : s.viewport.Usable) {p : Point Exact}
    (hp : p.isFinite = true) {slop : ℝ} (hslop : 0 ≤ slop)
    (hscale : s.scale.node.hitSlop = real slop) {n : Node Exact}
    (hplace : n.position.isFinite = true) (hradius : n.radius.Positive) :
    ∃ d : ℝ, 0 ≤ d ∧ s.apart p n = s.viewport.transform.k * real √d ∧
      (s.InReach p n → n.hit? (s.viewport.pointerToWorld p) s.sizes.hitSlop = some (real d)) ∧
      (¬s.InReach p n → n.hit? (s.viewport.pointerToWorld p) s.sizes.hitSlop = none) := by
  obtain ⟨px, py, rfl⟩ := Point.exists_real hp
  obtain ⟨x, y, hxy⟩ := Point.exists_real hplace
  obtain ⟨radius, hradius, hn⟩ := hradius
  obtain ⟨tx, ty, hshift⟩ := Point.exists_real hv.place
  obtain ⟨k, hk, hzoom⟩ := hv.zoom
  obtain ⟨r, hr, hratio⟩ := hv.scaled.ratio
  have htx : s.viewport.transform.x = real tx := congrArg Point.x hshift
  have hty : s.viewport.transform.y = real ty := congrArg Point.y hshift
  let d : ℝ := (x - (px * r - tx) / k) * (x - (px * r - tx) / k) +
    (y - (py * r - ty) / k) * (y - (py * r - ty) / k)
  have hd : 0 ≤ d := add_nonneg (mul_self_nonneg _) (mul_self_nonneg _)
  have hapart : s.apart ⟨real px, real py⟩ n = real (k * √d) := by
    simp only [apart, Point.distance_eq, Viewport.toScreen, Transform.toScreen, Viewport.toDevice,
      Point.sub, hxy, hzoom, hratio, htx, hty, real_mul, real_add, real_sub, Point.length_real]
    exact congrArg real (sqrt_drawn hk)
  have hreach : s.InReach ⟨real px, real py⟩ n ↔
      d < (radius + slop * r / k) * (radius + slop * r / k) := by
    rw [InReach, hapart, hn, hzoom, hratio, hscale, reach_iff hk hr hradius hslop]
    rfl
  have hhit : n.hit? (s.viewport.pointerToWorld ⟨real px, real py⟩) s.sizes.hitSlop =
      if real d < real ((radius + slop * r / k) * (radius + slop * r / k)) then some (real d)
      else none := by
    simp only [Node.hit?, Viewport.pointerToWorld, Viewport.toWorld, Transform.toWorld,
      Viewport.toDevice, sizes, Scale.sizes, Scale.worldLength, hxy, hn, hzoom, hratio, htx, hty,
      hscale, real_mul, real_add, real_sub, real_div _ hk.ne', d]
  refine ⟨d, hd, ?_, ?_, ?_⟩
  · rw [hapart, hzoom, real_mul]
  · intro hnear
    rw [hhit, if_pos ((real_lt _ _).mpr (hreach.mp hnear))]
  · intro hfar
    rw [hhit, if_neg fun hlt => hfar (hreach.mpr ((real_lt _ _).mp hlt))]

/-- Beyond the drawn edge of a node the reach is the tolerance, in pixels of the page. -/
theorem inReach_iff {s : Simulation Exact} (hv : s.viewport.Usable) {p : Point Exact}
    (hp : p.isFinite = true) {n : Node Exact} (hplace : n.position.isFinite = true)
    (hradius : n.radius.Positive) (hslop : Scalar.isFinite s.scale.node.hitSlop = true) :
    s.InReach p n ↔ (s.apart p n - n.radius * s.viewport.transform.k) / s.viewport.ratio <
      s.scale.node.hitSlop := by
  obtain ⟨k, hk, hzoom⟩ := hv.zoom
  obtain ⟨r, hr, hratio⟩ := hv.scaled.ratio
  obtain ⟨radius, -, hn⟩ := hradius
  obtain ⟨slop, hscale⟩ := finite_iff.mp hslop
  obtain ⟨t, -, hapart⟩ := Physics.exists_distance
    (Transform.finite_toScreen hv.place hv.zoom hplace) (hv.scaled.finite_toDevice hp)
  rw [InReach, show s.apart p n = real t from hapart, hn, hzoom, hratio, hscale, real_mul, real_mul,
    real_add, real_sub, real_div _ hr.ne', real_lt, real_lt, div_lt_iff₀ hr, sub_lt_iff_lt_add']

/-- What is picked is the nearest node in reach, and the first of several equally near. -/
theorem pick_iff {s : Simulation Exact} (hv : s.viewport.Usable) {p : Point Exact}
    (hp : p.isFinite = true) {slop : ℝ} (hslop : 0 ≤ slop)
    (hscale : s.scale.node.hitSlop = real slop)
    (hnodes : ∀ n ∈ s.graph.nodes.toList, n.position.isFinite = true ∧ n.radius.Positive) :
    (∀ i, s.pick p = some i ↔
        ∃ n, IsNearest (s.InReach p) (s.apart p) s.graph.nodes.toList i n) ∧
      (s.pick p = none ↔ ∀ n ∈ s.graph.nodes.toList, ¬s.InReach p n) := by
  have hgaps := fun n hn => exists_gap hv hp hslop hscale (hnodes n hn).1 (hnodes n hn).2
  choose! far hpos hdrawn hhit hmiss using hgaps
  have hbest : BestOf (s.InReach p) far s.graph.nodes.toList _ :=
    bestOf_foldl fun n hn => ⟨hhit n hn, hmiss n hn⟩
  obtain ⟨hpicked, hnone⟩ := hbest.index_iff
  obtain ⟨k, hk, hzoom⟩ := hv.zoom
  have hreal : ∀ n ∈ s.graph.nodes.toList, s.apart p n = real (k * √(far n)) := by
    intro n hn
    rw [hdrawn n hn, hzoom, real_mul]
  have hless : ∀ n ∈ s.graph.nodes.toList, ∀ m ∈ s.graph.nodes.toList,
      far n < far m ↔ s.apart p n < s.apart p m := by
    intro n hn m hm
    rw [hreal n hn, hreal m hm, real_lt, mul_lt_mul_iff_right₀ hk,
      Real.sqrt_lt_sqrt_iff (hpos n hn)]
  have hequal : ∀ n ∈ s.graph.nodes.toList, ∀ m ∈ s.graph.nodes.toList,
      far n = far m ↔ s.apart p n = s.apart p m := by
    intro n hn m hm
    rw [hreal n hn, hreal m hm, real.injEq, mul_right_inj' hk.ne',
      Real.sqrt_inj (hpos n hn) (hpos m hm)]
  refine ⟨fun i => ?_, hnone⟩
  exact (hpicked i).trans (exists_congr fun n => isNearest_congr hless hequal)

/-- Picking told on the canvas, in every view that can be reached. The nearest node in reach is
picked, and the first of several equally near; none exactly if none is in reach. Beyond the edge of
a node the reach is the same number of pixels of the page at every zoom and ratio. -/
theorem pick_nearest {s : Simulation Exact} {limits : ViewLimits Exact}
    {width height ratio : Exact} (hwidth : Scalar.isFinite width = true)
    (hheight : Scalar.isFinite height = true) {moves : List (Viewport.Move Exact)}
    (hmoves : ∀ m ∈ moves, m.Finite)
    (hview : s.viewport = (Viewport.new limits width height ratio).run moves)
    (hnodes : ∀ n ∈ s.graph.nodes.toList, n.position.isFinite = true ∧ n.radius.Positive)
    {slop : ℝ} (hslop : 0 ≤ slop) (hscale : s.scale.node.hitSlop = real slop) {p : Point Exact}
    (hp : p.isFinite = true) :
    (∀ i, s.pick p = some i ↔
        ∃ n, IsNearest (s.InReach p) (s.apart p) s.graph.nodes.toList i n) ∧
      (s.pick p = none ↔ ∀ n ∈ s.graph.nodes.toList, ¬s.InReach p n) ∧
      ∀ n ∈ s.graph.nodes.toList, s.InReach p n ↔
        (s.apart p n - n.radius * s.viewport.transform.k) / s.viewport.ratio < real slop := by
  have hfirst := (Viewport.new_usable limits hwidth hheight ratio).2
  have hv : s.viewport.Usable := hview ▸ (Viewport.run_keeps_usable hfirst hmoves).2
  obtain ⟨hpicked, hnone⟩ := pick_iff hv hp hslop hscale hnodes
  refine ⟨hpicked, hnone, fun n hn => ?_⟩
  obtain ⟨hplace, hradius⟩ := hnodes n hn
  rw [inReach_iff hv hp hplace hradius (hscale ▸ isFinite_real slop), hscale]

/-- Two nodes as far from the middle of the canvas. -/
noncomputable def twins : Simulation Exact :=
  { Simulation.new Settings.standard 800 600 1 with
    graph := Graph.ofContent ⟨[Node.stub "left" ⟨-10, 0⟩, Node.stub "right" ⟨10, 0⟩], []⟩ }

theorem viewport_twins : twins.viewport = Viewport.plainView := Viewport.new_plainView

theorem mem_twins {n : Node Exact} (hn : n ∈ twins.graph.nodes.toList) :
    n = Node.stub "left" ⟨-10, 0⟩ ∨ n = Node.stub "right" ⟨10, 0⟩ := List.mem_pair.mp hn

theorem nodes_twins {n : Node Exact} (hn : n ∈ twins.graph.nodes.toList) :
    n.position.isFinite = true ∧ n.radius = real 4 := by
  rcases mem_twins hn with rfl | rfl
  · exact ⟨rfl, rfl⟩
  · exact ⟨rfl, rfl⟩

theorem apart_twins {n : Node Exact} (hn : n ∈ twins.graph.nodes.toList) :
    twins.apart ⟨400, 300⟩ n = real 10 := by
  have hsquare {d : ℝ} (hd : d * d = 100) : √(d * d + 0 * 0) = 10 := by
    rw [hd, Real.sqrt_eq_iff_mul_self_eq_of_pos (by norm_num)]
    norm_num
  have hlength {d : ℝ} (hd : d * d = 100) : (⟨real d, real 0⟩ : Point Exact).length = real 10 := by
    rw [Point.length_real, hsquare hd]
  rw [apart, viewport_twins, Point.distance_eq]
  rcases mem_twins hn with rfl | rfl
  · have hway : (Viewport.plainView.toDevice ⟨400, 300⟩).sub
        (Viewport.plainView.toScreen ⟨-10, 0⟩) = ⟨real 10, real 0⟩ := by
      simp only [Viewport.toDevice, Viewport.toScreen, Transform.toScreen, Viewport.plainView,
        Point.sub, literal_eq, real_neg, real_mul, real_add, real_sub]
      norm_num
    rw [Node.stub, hway, hlength (by norm_num)]
  · have hway : (Viewport.plainView.toDevice ⟨400, 300⟩).sub
        (Viewport.plainView.toScreen ⟨10, 0⟩) = ⟨real (-10), real 0⟩ := by
      simp only [Viewport.toDevice, Viewport.toScreen, Transform.toScreen, Viewport.plainView,
        Point.sub, literal_eq, real_mul, real_add, real_sub]
      norm_num
    rw [Node.stub, hway, hlength (by norm_num)]

theorem inReach_twins {n : Node Exact} (hn : n ∈ twins.graph.nodes.toList) :
    twins.InReach ⟨400, 300⟩ n := by
  have hscale : twins.scale.node.hitSlop = real 10 := rfl
  rw [InReach, apart_twins hn, (nodes_twins hn).2, hscale, viewport_twins]
  simp only [Viewport.plainView, literal_eq, real_mul, real_add, real_lt]
  norm_num

theorem pick_nearest_twins : twins.pick ⟨400, 300⟩ = some 0 := by
  have hnodes : ∀ n ∈ twins.graph.nodes.toList, n.position.isFinite = true ∧ n.radius.Positive :=
    fun n hn => ⟨(nodes_twins hn).1, 4, by norm_num, (nodes_twins hn).2⟩
  have hmoves : ∀ m ∈ ([] : List (Viewport.Move Exact)), m.Finite :=
    fun m hm => absurd hm List.not_mem_nil
  have hview : twins.viewport = (Viewport.new ViewLimits.standard 800 600 1).run [] := rfl
  have hscale : twins.scale.node.hitSlop = real 10 := rfl
  have hpicked := (pick_nearest (isFinite_real _) (isFinite_real _) hmoves hview hnodes
    (by norm_num) hscale (p := ⟨400, 300⟩) rfl).1
  have hleft : Node.stub "left" ⟨-10, 0⟩ ∈ twins.graph.nodes.toList := List.mem_cons_self
  refine (hpicked 0).mpr ⟨_, rfl, inReach_twins hleft, fun j m hj _ => Or.inr ⟨?_, Nat.zero_le j⟩⟩
  rw [apart_twins hleft, apart_twins (List.mem_of_getElem? hj)]

end Simulation

end NodeLink
