import NodeLink.Proofs.Force.Impulse
/-!
# Balance of forces

A pass over pairs and a pass over springs give impulses that depend on places alone, and a pass
moves no node. So each pass is a sequence of impulses that are known before it starts, each given
to one node and taken from another. The sum of all velocities stays, whatever the links are.

* `Physics.applyPairs_eq_shoves`, `applySprings_eq_shoves`: each pass as a sequence of impulses.
* `Physics.sumVelocities_shove`: one impulse leaves the sum.
* `Physics.sumVelocities_passes`: so does each pass.
* `Physics.forces_balanced`: the sum after each pass, and the limits on each impulse.
-/

namespace NodeLink

open Exact

/-! ## Sums of points -/

namespace Exact

theorem add_real_zero (a : Exact) : a + real 0 = a := by
  cases a with
  | real x => rw [real_add, add_zero]
  | infinity s => rfl
  | nan => rfl

end Exact

namespace Point

theorem add_comm (p q : Point Exact) : p.add q = q.add p :=
  congrArg₂ mk (Exact.add_comm p.x q.x) (Exact.add_comm p.y q.y)

theorem add_assoc (p q r : Point Exact) : (p.add q).add r = p.add (q.add r) :=
  congrArg₂ mk (Exact.add_assoc p.x q.x r.x) (Exact.add_assoc p.y q.y r.y)

/-- The point itself need not be finite, only what is added and taken away. -/
theorem add_add_neg (p : Point Exact) {v : Point Exact} (hv : v.isFinite = true) :
    (p.add v).add v.neg = p := by
  obtain ⟨x, y, rfl⟩ := exists_real hv
  have hcancel (a : Exact) (z : ℝ) : a + real z + -real z = a := by
    rw [Exact.add_assoc, real_neg, real_add, add_neg_cancel, Exact.add_real_zero]
  exact congrArg₂ mk (hcancel p.x x) (hcancel p.y y)

end Point

/-- All places, radii and weights are real numbers; velocities may be anything. -/
structure Graph.Measured (g : Graph Exact) : Prop where
  position : ∀ n ∈ g.nodes, n.position.isFinite = true
  radius : ∀ n ∈ g.nodes, Scalar.isFinite n.radius = true
  weight : ∀ l ∈ g.links, Scalar.isFinite l.weight = true

namespace Physics

/-! ## Passes as impulses -/

/-- If each step is an impulse and impulses do not depend on velocities, then they can all be read
off the nodes of any earlier moment, since velocities are all that impulses change. -/
theorem foldl_eq_shoves {ι : Type} (ends : ι → Nat × Nat)
    {step : Array (Node Exact) → ι → Array (Node Exact)}
    {given : Array (Node Exact) → ι → Option (Point Exact)}
    (hstep : ∀ nodes x, step nodes x = shove (ends x) (given nodes x) nodes)
    (hgiven : ∀ nodes x, given (nodes.map Node.paused) x = given nodes x) (xs : List ι)
    {start nodes : Array (Node Exact)} (h : nodes.map Node.paused = start.map Node.paused) :
    xs.foldl step nodes = xs.foldl (fun nodes x => shove (ends x) (given start x) nodes) nodes := by
  induction xs generalizing nodes with
  | nil => rfl
  | cons x rest ih =>
    have hx : given nodes x = given start x := by rw [← hgiven nodes, h, hgiven start]
    rw [List.foldl_cons, List.foldl_cons, hstep, hx]
    exact ih ((map_paused_shove _ _ nodes).trans h)

theorem applyPairs_eq_shoves (p : ForceParams Exact) (grid : Grid Exact)
    (nodes : Array (Node Exact)) : applyPairs p grid nodes =
      (pairs grid (nodes.toList.map Node.position)).foldl
        (fun moved pair => shove pair (impulse p nodes pair) moved) nodes :=
  foldl_eq_shoves id (repel_eq_shove p) (impulse_map_paused p) _ rfl

theorem applySprings_eq_shoves (p : ForceParams Exact) (links : List (Link Exact × Nat × Nat))
    (nodes : Array (Node Exact)) : applySprings p links nodes =
      links.foldl (fun moved link => shove link.2 (tug p nodes link) moved) nodes :=
  foldl_eq_shoves Prod.snd (pull_eq_shove p) (tug_map_paused p) _ rfl

/-! ## The sum of velocities -/

def sumVelocities {α : Type} [Scalar α] (nodes : Array (Node α)) : Point α :=
  nodes.toList.foldr (fun n sum => n.velocity.add sum) Point.origin

theorem sumVelocities_nudge (v : Point Exact) {nodes : Array (Node Exact)} {i : Nat}
    (hi : i < nodes.size) :
    sumVelocities (nodes.modify i (Node.nudge v)) = (sumVelocities nodes).add v := by
  unfold sumVelocities
  rw [Array.toList_modify]
  rw [← Array.length_toList] at hi
  generalize nodes.toList = nodes at hi
  induction nodes generalizing i with
  | nil => exact absurd hi (Nat.not_lt_zero i)
  | cons n rest ih =>
    cases i with
    | zero =>
      rw [List.modify_zero_cons, List.foldr_cons, List.foldr_cons]
      show (n.velocity.add v).add _ = _
      rw [Point.add_assoc, Point.add_comm v, Point.add_assoc]
    | succ i =>
      rw [List.modify_succ_cons, List.foldr_cons, List.foldr_cons,
        ih (Nat.lt_of_succ_lt_succ hi), Point.add_assoc]

/-- An impulse of real numbers, between nodes that are there. -/
def Fits (nodes : Array (Node Exact)) (pair : Nat × Nat) (v : Option (Point Exact)) : Prop :=
  ∀ w, v = some w → w.isFinite = true ∧ pair.1 < nodes.size ∧ pair.2 < nodes.size

theorem size_shove (pair : Nat × Nat) (v : Option (Point Exact)) (nodes : Array (Node Exact)) :
    (shove pair v nodes).size = nodes.size := by
  cases v with
  | none => rfl
  | some w => rw [shove, Array.size_modify, Array.size_modify]

theorem sumVelocities_shove {nodes : Array (Node Exact)} {pair : Nat × Nat}
    {v : Option (Point Exact)} (h : Fits nodes pair v) :
    sumVelocities (shove pair v nodes) = sumVelocities nodes := by
  cases v with
  | none => rfl
  | some w =>
    obtain ⟨hw, hi, hj⟩ := h w rfl
    have hj' : pair.2 < (nodes.modify pair.1 (Node.nudge w)).size := by
      rw [Array.size_modify]
      exact hj
    rw [shove, sumVelocities_nudge w.neg hj', sumVelocities_nudge w hi, Point.add_add_neg _ hw]

theorem sumVelocities_shoves {ι : Type} {ends : ι → Nat × Nat} {given : ι → Option (Point Exact)}
    {xs : List ι} {nodes : Array (Node Exact)} (h : ∀ x ∈ xs, Fits nodes (ends x) (given x)) :
    sumVelocities (xs.foldl (fun nodes x => shove (ends x) (given x) nodes) nodes) =
      sumVelocities nodes := by
  induction xs generalizing nodes with
  | nil => rfl
  | cons x rest ih =>
    have hrest : ∀ y ∈ rest, Fits (shove (ends x) (given x) nodes) (ends y) (given y) := by
      intro y hy
      unfold Fits
      rw [size_shove]
      exact h y (List.mem_cons_of_mem x hy)
    rw [List.foldl_cons, ih hrest, sumVelocities_shove (h x List.mem_cons_self)]

/-! ## Impulses are finite -/

section Finite

variable {p : ForceParams Exact} {nodes : Array (Node Exact)}

theorem exists_field (hp : ∀ field ∈ p.fields, Scalar.isFinite field.2 = true) (name : String)
    {a : Exact} (h : (name, a) ∈ p.fields) : ∃ x, a = real x := finite_iff.mp (hp _ h)

/-- The divisor may be negative if the parameters are not repaired; then nodes do not overlap. -/
theorem finite_pairForce (hp : ∀ field ∈ p.fields, Scalar.isFinite field.2 = true)
    {a b : Node Exact} (ha : Scalar.isFinite a.radius = true)
    (hb : Scalar.isFinite b.radius = true) {d2 : ℝ} (hd : real d2 + p.epsilon ≠ 0) :
    Scalar.isFinite (pairForce p a b (real d2)) = true := by
  obtain ⟨r, hr⟩ := exists_field hp "repulsion" (a := p.repulsion) (by simp [ForceParams.fields])
  obtain ⟨m, hm⟩ :=
    exists_field hp "repulsionMax" (a := p.repulsionMax) (by simp [ForceParams.fields])
  obtain ⟨s, hs⟩ :=
    exists_field hp "collisionStrength" (a := p.collisionStrength) (by simp [ForceParams.fields])
  obtain ⟨c, hc⟩ :=
    exists_field hp "collisionPadding" (a := p.collisionPadding) (by simp [ForceParams.fields])
  obtain ⟨e, he⟩ := exists_field hp "epsilon" (a := p.epsilon) (by simp [ForceParams.fields])
  obtain ⟨x, hx⟩ := finite_iff.mp ha
  obtain ⟨y, hy⟩ := finite_iff.mp hb
  have hne : d2 + e ≠ 0 := by
    intro h
    rw [he, real_add, h] at hd
    exact hd (congrArg real Nat.cast_zero.symm)
  simp only [pairForce, hr, hm, hs, hc, he, hx, hy, real_add, real_div _ hne, min_real]
  split
  · next hoverlap =>
    rcases lt_or_ge (d2 + e) 0 with hneg | hpos
    · have hsqrt : Scalar.sqrt (real (d2 + e)) = nan := if_pos hneg
      rw [hsqrt] at hoverlap
      exact False.elim hoverlap
    · rw [sqrt_real hpos]
      rfl
  · rfl

theorem fits_impulse (hp : ∀ field ∈ p.fields, Scalar.isFinite field.2 = true)
    (hposition : ∀ n ∈ nodes, n.position.isFinite = true)
    (hradius : ∀ n ∈ nodes, Scalar.isFinite n.radius = true) {i j : Nat}
    (hd : ∀ a b, nodes[i]? = some a → nodes[j]? = some b →
      (separation a.position b.position i j).2 + p.epsilon ≠ 0) :
    Fits nodes (i, j) (impulse p nodes (i, j)) := by
  intro v hv
  obtain ⟨a, b, hi, hj, hv⟩ := exists_of_impulse hv
  have ha := Array.mem_of_getElem? hi
  have hb := Array.mem_of_getElem? hj
  have hdivisor := hd a b hi hj
  obtain ⟨d, hd, hdistance⟩ := exists_distance (hposition a ha) (hposition b hb)
  rw [separation_eq (hposition a ha) (hposition b hb) i j hd hdistance] at hdivisor hv
  have hfinite := Point.finite_scale (finite_bearing (hposition a ha) (hposition b hb) i j)
    (finite_pairForce hp (hradius a ha) (hradius b hb) hdivisor)
  rw [← hv]
  exact ⟨hfinite, (Array.getElem?_eq_some_iff.mp hi).1, (Array.getElem?_eq_some_iff.mp hj).1⟩

theorem fits_tug (hp : ∀ field ∈ p.fields, Scalar.isFinite field.2 = true)
    (hposition : ∀ n ∈ nodes, n.position.isFinite = true) {link : Link Exact × Nat × Nat}
    (hweight : Scalar.isFinite link.1.weight = true) : Fits nodes link.2 (tug p nodes link) := by
  obtain ⟨rest, hrest⟩ :=
    exists_field hp "linkDistance" (a := p.linkDistance) (by simp [ForceParams.fields])
  obtain ⟨k, hk⟩ :=
    exists_field hp "linkStiffness" (a := p.linkStiffness) (by simp [ForceParams.fields])
  obtain ⟨m, hm⟩ := exists_field hp "springMax" (a := p.springMax) (by simp [ForceParams.fields])
  obtain ⟨l, s, t⟩ := link
  obtain ⟨w, hw⟩ := finite_iff.mp hweight
  intro v hv
  obtain ⟨a, b, hs, ht, hv⟩ := exists_of_tug hv
  have ha := hposition a (Array.mem_of_getElem? hs)
  have hb := hposition b (Array.mem_of_getElem? ht)
  obtain ⟨d, hd, hdistance⟩ := exists_distance ha hb
  rw [hw, spring_eq ha hb hd hdistance hrest hk hm] at hv
  have hfinite := Point.finite_scale (Point.finite_sub hb ha) (isFinite_real (1 / (d + 1e-6)))
  rw [← hv]
  exact ⟨Point.finite_scale hfinite (isFinite_real _), (Array.getElem?_eq_some_iff.mp hs).1,
    (Array.getElem?_eq_some_iff.mp ht).1⟩

end Finite

theorem divisor_ne_zero {g : Graph Exact} (hg : g.Measured) {p : ForceParams Exact}
    (hp : p.epsilon.Positive) {i j : Nat} {a b : Node Exact} (hi : g.nodes[i]? = some a)
    (hj : g.nodes[j]? = some b) : (separation a.position b.position i j).2 + p.epsilon ≠ 0 := by
  have ha := hg.position a (Array.mem_of_getElem? hi)
  have hb := hg.position b (Array.mem_of_getElem? hj)
  obtain ⟨d, hd, hdistance⟩ := exists_distance ha hb
  obtain ⟨e, he, hepsilon⟩ := hp
  rw [separation_eq ha hb i j hd hdistance, hepsilon]
  intro h
  have hsum : d * d + e = (0 : ℕ) := real.inj h
  rw [Nat.cast_zero] at hsum
  exact absurd hsum (add_pos_of_nonneg_of_pos (mul_self_nonneg d) he).ne'

theorem weight_of_mem_resolvedLinks {g : Graph Exact} (hg : g.Measured)
    {link : Link Exact × Nat × Nat} (h : link ∈ g.resolvedLinks) :
    Scalar.isFinite link.1.weight = true := by
  obtain ⟨⟨l, e⟩, hmem, he⟩ := List.mem_filterMap.mp h
  obtain ⟨⟨s, t⟩, -, rfl⟩ := Option.map_eq_some_iff.mp he
  exact hg.weight l (List.of_mem_zip hmem).1

/-- No pair and no link changes the sum, so no pass does, unless a pass divides by zero. -/
theorem sumVelocities_passes {g : Graph Exact} (hg : g.Measured) {p : ForceParams Exact}
    (hp : ∀ field ∈ p.fields, Scalar.isFinite field.2 = true)
    (hd : ∀ i j a b, i < j → g.nodes[i]? = some a → g.nodes[j]? = some b →
      (separation a.position b.position i j).2 + p.epsilon ≠ 0) (grid : Grid Exact) :
    sumVelocities (applyPairs p grid g.nodes) = sumVelocities g.nodes ∧
      sumVelocities (applySprings p g.resolvedLinks g.nodes) = sumVelocities g.nodes := by
  rw [applyPairs_eq_shoves, applySprings_eq_shoves]
  constructor
  · refine sumVelocities_shoves fun (i, j) hpair => ?_
    obtain ⟨-, -, -, hlt⟩ := mem_pairs_iff.mp hpair
    exact fits_impulse hp hg.position hg.radius fun a b => hd i j a b hlt
  · exact sumVelocities_shoves fun link hlink =>
      fits_tug hp hg.position (weight_of_mem_resolvedLinks hg hlink)

/-! ## Both passes -/

/-- Forces give to one node what they take from another. The sum of all velocities stays, in any
graph and with any parameters, as long as nothing is divided by zero. With repaired parameters a
pair of nodes is pushed apart, each node away from the other, or along a direction of its own if
they are too near; a push is never longer than its limit, and there is one if there is any
repulsion. A spring pulls its ends together or apart, as it is longer or shorter than at rest, and
never more than its limit; a link to itself does nothing. -/
theorem forces_balanced (g : Graph Exact) (hg : g.Measured) :
    (∀ (p : ForceParams Exact) (grid : Grid Exact),
      (∀ field ∈ p.fields, Scalar.isFinite field.2 = true) →
      (∀ i j a b, i < j → g.nodes[i]? = some a → g.nodes[j]? = some b →
        (separation a.position b.position i j).2 + p.epsilon ≠ 0) →
      sumVelocities (applyPairs p grid g.nodes) = sumVelocities g.nodes ∧
        sumVelocities (applySprings p g.resolvedLinks g.nodes) = sumVelocities g.nodes) ∧
    ∀ (given : ForceParams Exact) (grid : Grid Exact),
      let p := given.sanitized
      sumVelocities (applyPairs p grid g.nodes) = sumVelocities g.nodes ∧
        sumVelocities (applySprings p g.resolvedLinks g.nodes) = sumVelocities g.nodes ∧
        -- Each pass gives its impulses one after another, to one node and its opposite to another.
        applyPairs p grid g.nodes = (pairs grid (g.nodes.toList.map Node.position)).foldl
          (fun moved pair => shove pair (impulse p g.nodes pair) moved) g.nodes ∧
        applySprings p g.resolvedLinks g.nodes = g.resolvedLinks.foldl
          (fun moved link => shove link.2 (tug p g.nodes link) moved) g.nodes ∧
        (∀ i j a b, g.nodes[i]? = some a → g.nodes[j]? = some b →
          let direction := bearing a.position b.position i j
          direction.length = 1 ∧
            ∃ f : ℝ, impulse p g.nodes (i, j) = some (direction.scale (real f)) ∧ 0 ≤ f ∧
              (direction.scale (real f)).length ≤ pushMax p a b ∧
              (0 < p.repulsion → 0 < p.repulsionMax → 0 < f)) ∧
        ∀ l s t a b, (l, s, t) ∈ g.resolvedLinks → 0 < l.weight →
          g.nodes[s]? = some a → g.nodes[t]? = some b →
          (s = t → tug p g.nodes (l, s, t) = none) ∧
            (s ≠ t → ∃ c : ℝ,
              tug p g.nodes (l, s, t) = some ((b.position.sub a.position).scale (real c)) ∧
              ((b.position.sub a.position).scale (real c)).length ≤ p.springMax ∧
              (p.linkDistance < a.position.distance b.position + 1e-6 → 0 ≤ c) ∧
              (a.position.distance b.position + 1e-6 < p.linkDistance → c ≤ 0)) := by
  refine ⟨fun p grid hp hd => sumVelocities_passes hg hp hd grid, fun given grid => ?_⟩
  intro p
  have hp : p.Valid := given.valid_sanitized
  have hepsilon : p.epsilon.Positive := Positive.of_finite hp.epsilon.1 hp.epsilon.2
  have hsums := sumVelocities_passes hg hp.isFinite
    (fun i j a b _ hi hj => divisor_ne_zero hg hepsilon hi hj) grid
  refine ⟨hsums.1, hsums.2, applyPairs_eq_shoves p grid g.nodes,
    applySprings_eq_shoves p g.resolvedLinks g.nodes, fun i j a b hi hj => ?_,
    fun l s t a b hlink hweight hs ht => ⟨fun h => if_pos h, ?_⟩⟩
  · have ha := Array.mem_of_getElem? hi
    have hb := Array.mem_of_getElem? hj
    exact ⟨length_bearing (hg.position a ha) (hg.position b hb) i j,
      exists_impulse hp hi hj (hg.position a ha) (hg.position b hb) (hg.radius a ha)
        (hg.radius b hb)⟩
  · intro hne
    exact exists_tug hp hne hs ht (hg.position a (Array.mem_of_getElem? hs))
      (hg.position b (Array.mem_of_getElem? ht)) (weight_of_mem_resolvedLinks hg hlink) hweight

/-- Two nodes in one place and a third one, two links side by side, one of a node to itself, and
one to a node that is not there. -/
noncomputable def tangle : Graph Exact := Graph.ofContent
  ⟨[Node.stub "A" ⟨0, 0⟩, Node.stub "B" ⟨0, 0⟩,
      { Node.stub "C" ⟨60, 80⟩ with velocity := ⟨1, -2⟩ }],
    [⟨"A", "C", 1⟩, ⟨"A", "C", 2⟩, ⟨"B", "B", 1⟩, ⟨"B", "Z", 1⟩]⟩

theorem measured_tangle : tangle.Measured where
  position := by simp [tangle, Graph.ofContent, Node.stub, Point.isFinite]
  radius := by simp [tangle, Graph.ofContent, Node.stub, Node.defaultRadius]
  weight := by simp [tangle, Graph.ofContent]

/-- The grid of the tangle. -/
noncomputable def tangleGrid : Grid Exact :=
  (Grid.empty 110).rebuild (tangle.nodes.toList.map Node.position) 110

theorem cellsTouch_tangle :
    tangleGrid.cellsTouch (tangle.nodes.toList.map Node.position) 0 1 = true := by
  have hnear : Scalar.abs ((0 : Exact) - 0) ≤ 110 := by
    simp only [literal_eq, real_sub, abs_real, real_le]
    norm_num
  exact Grid.cellsTouch_iff.mpr
    ⟨_, _, rfl, rfl, cellOf_touches (Grid.empty 110) _ hnear hnear⟩

theorem forces_balanced_tangle :
    let p : ForceParams Exact := ForceParams.standard
    let places := tangle.nodes.toList.map Node.position
    (0, 1) ∈ pairs tangleGrid places ∧
      sumVelocities (applyPairs p tangleGrid tangle.nodes) = sumVelocities tangle.nodes ∧
      sumVelocities (applySprings p tangle.resolvedLinks tangle.nodes) =
        sumVelocities tangle.nodes ∧
      applyPairs p.sanitized tangleGrid tangle.nodes = (pairs tangleGrid places).foldl
        (fun moved pair => shove pair (impulse p.sanitized tangle.nodes pair) moved)
        tangle.nodes ∧
      ∃ f : ℝ, 0 < f ∧ impulse p.sanitized tangle.nodes (0, 1) =
        some ((bearing ⟨0, 0⟩ ⟨0, 0⟩ 0 1).scale (real f)) := by
  intro p places
  obtain ⟨hsums, himpulses⟩ := forces_balanced tangle measured_tangle
  have hpair : (0, 1) ∈ pairs tangleGrid places :=
    (mem_pairs_rebuild (Grid.empty 110) places 110 0 1).mpr ⟨by decide, cellsTouch_tangle⟩
  have hfields : ∀ field ∈ p.fields, Scalar.isFinite field.2 = true := by
    simp [p, ForceParams.fields, ForceParams.standard]
  have hepsilon : p.epsilon.Positive := ⟨0.01, by norm_num, rfl⟩
  obtain ⟨hpairs, hsprings⟩ := hsums p tangleGrid hfields fun i j a b _ hi hj =>
    divisor_ne_zero measured_tangle hepsilon hi hj
  obtain ⟨-, -, hpass, -, hpush, -⟩ := himpulses p tangleGrid
  obtain ⟨-, f, hf, -, -, hpos⟩ := hpush 0 1 (Node.stub "A" ⟨0, 0⟩) (Node.stub "B" ⟨0, 0⟩) rfl rfl
  have hrepulsion : 0 < p.sanitized.repulsion := by
    simp [p, ForceParams.sanitized, ForceParams.standard, Scalar.finiteOr]
  have hmax : 0 < p.sanitized.repulsionMax := by
    simp [p, ForceParams.sanitized, ForceParams.standard, Scalar.finiteOr]
  exact ⟨hpair, hpairs, hsprings, hpass, f, hpos hrepulsion hmax, hf⟩

end Physics
end NodeLink
