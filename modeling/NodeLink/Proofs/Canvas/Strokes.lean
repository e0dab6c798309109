import NodeLink.Canvas.Frame
import NodeLink.Proofs.Force.Impulse
import NodeLink.Proofs.Simulation.Bodies
import NodeLink.Proofs.Simulation.Glow
import NodeLink.Proofs.Simulation.References
/-!
# What the highlight draws

Links and nodes are drawn by their own length and size, and by their intensity on top of that. The
intensities are in range and the eased step keeps them so; hence the alpha of a link lies between
its resting one and that of the highlight, and a node that is not selected is drawn at most by the
boost larger than it is.

* `Frame.linkAlpha_range`, `drawnRadius_range`: the values that are drawn.
* `Frame.strokes_link`, `Frame.strokes_node`: the calls of a frame that draw them.
* `Simulation.glow_in_range`: intensities and drawn values in every state that is reached.
-/

namespace NodeLink

open Exact

/-! ## Scales -/

/-- A range of alphas below that of the highlight, with a falloff that is always a number. -/
structure LinkScale.Graded (l : LinkScale Exact) : Prop where
  alphaMin : Scalar.isFinite l.alphaMin = true
  alphaMax : Scalar.isFinite l.alphaMax = true
  alphaHighlight : Scalar.isFinite l.alphaHighlight = true
  ordered : l.alphaMin ≤ l.alphaMax
  below : l.alphaMax ≤ l.alphaHighlight
  falloff : Scalar.isFinite l.falloff = true
  falloffOffset : l.falloffOffset.Positive
  falloffScale : Scalar.isFinite l.falloffScale = true

theorem LinkScale.graded_standard : (Scale.standard.link : LinkScale Exact).Graded where
  alphaMin := rfl
  alphaMax := rfl
  alphaHighlight := rfl
  ordered := (real_le _ _).mpr (by norm_num)
  below := (real_le _ _).mpr (by norm_num)
  falloff := rfl
  falloffOffset := Positive.literal 39
  falloffScale := rfl

/-- The alpha of a link of any length is in the range. -/
theorem LinkScale.Graded.alphaForLength {l : LinkScale Exact} (hl : l.Graded) {d : ℝ}
    (hd : 0 ≤ d) : Scalar.isFinite (l.alphaForLength (real d)) = true ∧
      l.alphaMin ≤ l.alphaForLength (real d) ∧ l.alphaForLength (real d) ≤ l.alphaMax := by
  obtain ⟨offset, hpos, hoffset⟩ := hl.falloffOffset
  have hlength : (real d + l.falloffOffset).Positive :=
    ⟨d + offset, add_pos_of_nonneg_of_pos hd hpos, by rw [hoffset, real_add]⟩
  have hfalloff : Scalar.isFinite
      (l.falloff / (real d + l.falloffOffset) * l.falloffScale) = true :=
    finite_mul (Positive.finite_div hl.falloff hlength) hl.falloffScale
  exact ⟨finite_clamp hl.alphaMin hl.alphaMax hfalloff,
    clamp_mem hl.alphaMin hl.alphaMax hfalloff hl.ordered⟩

namespace Frame

/-- The eased step goes from zero to one as its argument does. -/
theorem smoothStep_range {x : ℝ} (hx : 0 ≤ x) (hxle : x ≤ 1) :
    ∃ y : ℝ, smoothStep (real x) = real y ∧ 0 ≤ y ∧ y ≤ 1 := by
  refine ⟨x * x * (3 - 2 * x), ?_, ?_, ?_⟩
  · simp only [smoothStep, literal_eq, real_mul, real_sub]
    norm_num
  · exact mul_nonneg (mul_self_nonneg x) (by linarith)
  · have hmissing : 1 - x * x * (3 - 2 * x) = (1 - x) ^ 2 * (1 + 2 * x) := by ring
    have hnonneg : 0 ≤ (1 - x) ^ 2 * (1 + 2 * x) := mul_nonneg (sq_nonneg _) (by linarith)
    linarith

/-! ## Calls -/

section

variable {α : Type}

-- `List.infix_flatMap_of_mem` is for lists of one type only
theorem infix_flatMap {β γ : Type} {xs : List β} {x : β} (hx : x ∈ xs) (f : β → List γ) :
    f x <:+: xs.flatMap f := List.infix_of_mem_flatten (List.mem_map_of_mem hx)

theorem mem_resolvedLinks {g : Graph α} {k i j : Nat} {l : Link α} (hl : g.links[k]? = some l)
    (hends : g.linkEnds? k = some (i, j)) : (l, i, j) ∈ g.resolvedLinks := by
  have hend : g.ends[k]? = some (some (i, j)) := Option.join_eq_some_iff.mp hends
  have hpair : (g.links.zip g.ends)[k]? = some (l, some (i, j)) :=
    List.getElem?_zip_eq_some.mpr ⟨hl, hend⟩
  exact List.mem_filterMap.mpr ⟨_, List.mem_of_getElem? hpair, rfl⟩

variable [Scalar α]

/-- The alpha of a link outside the hovered neighbourhood. -/
def restingAlpha (s : Simulation α) (a b : Node α) : α :=
  s.scale.link.alphaForLength (a.position.distance b.position)

/-- The links and then the nodes are drawn in the middle of a frame. -/
theorem middle_infix_draw (s : Simulation α) (theme : Theme α) :
    links s s.sizes theme.link ++ s.graph.nodes.toList.flatMap (node s s.sizes theme) <:+:
      draw s theme := by
  have hmiddle (before : List (Call α)) :
      links s s.sizes theme.link ++ s.graph.nodes.toList.flatMap (node s s.sizes theme) <:+:
        before ++ links s s.sizes theme.link ++
          s.graph.nodes.toList.flatMap (node s s.sizes theme) := by
    rw [List.append_assoc]
    exact (List.suffix_append _ _).isInfix
  exact ((hmiddle _).trans (List.prefix_append _ _).isInfix).trans
    (List.prefix_append _ _).isInfix

/-- A link between two nodes is stroked from the one to the other. -/
theorem strokes_link (s : Simulation α) (theme : Theme α) {k i j : Nat} {l : Link α} {a b : Node α}
    (hl : s.graph.links[k]? = some l) (hends : s.graph.linkEnds? k = some (i, j))
    (ha : s.graph.nodes[i]? = some a) (hb : s.graph.nodes[j]? = some b) :
    [.strokeStyle (theme.link.color.withAlpha (linkAlpha s a b)), .beginPath, .moveTo a.position,
      .lineTo b.position, .stroke] <:+: draw s theme := by
  have hcalls : link s theme.link (i, j) =
      [.strokeStyle (theme.link.color.withAlpha (linkAlpha s a b)), .beginPath,
        .moveTo a.position, .lineTo b.position, .stroke] := by
    rw [link, ha, hb]
  have hpair : (i, j) ∈ s.graph.resolvedLinks.map Prod.snd :=
    List.mem_map_of_mem (mem_resolvedLinks hl hends)
  have hlinks : link s theme.link (i, j) <:+: links s s.sizes theme.link :=
    (infix_flatMap hpair (link s theme.link)).trans (List.suffix_append _ _).isInfix
  rw [← hcalls]
  exact (hlinks.trans (List.prefix_append _ _).isInfix).trans (middle_infix_draw s theme)

/-- Each node is filled as a disc. -/
theorem strokes_node (s : Simulation α) (theme : Theme α) {n : Node α} (hn : n ∈ s.graph.nodes) :
    [.beginPath, .arc n.position (drawnRadius s n) 0 (2 * Scalar.pi), .fill] <:+:
      draw s theme := by
  have hdisc : [.beginPath, .arc n.position (drawnRadius s n) 0 (2 * Scalar.pi), .fill] <:+:
      disc s theme n := ⟨(disc s theme n).take 4, [.restore], rfl⟩
  have hnode : node s s.sizes theme n <:+:
      s.graph.nodes.toList.flatMap (node s s.sizes theme) :=
    infix_flatMap (Array.mem_toList_iff.mpr hn) _
  exact (((hdisc.trans (List.prefix_append _ _).isInfix).trans hnode).trans
    (List.suffix_append _ _).isInfix).trans (middle_infix_draw s theme)

end

/-! ## Drawn values -/

variable {s : Simulation Exact}

theorem linkAlpha_range (hscale : s.scale.link.Graded) (hglow : s.highlight.Ranged)
    {a b : Node Exact} (ha : a.position.isFinite = true) (hb : b.position.isFinite = true) :
    s.scale.link.alphaMin ≤ restingAlpha s a b ∧ restingAlpha s a b ≤ linkAlpha s a b ∧
      linkAlpha s a b ≤ s.scale.link.alphaHighlight := by
  obtain ⟨d, hd, hdistance⟩ := Physics.exists_distance ha hb
  obtain ⟨hfinite, hlow, hhigh⟩ := hscale.alphaForLength hd
  obtain ⟨base, hbase⟩ := finite_iff.mp hfinite
  obtain ⟨top, htop⟩ := finite_iff.mp hscale.alphaHighlight
  obtain ⟨x, hx, hnonneg, hle⟩ := hglow.edgeAt_range a.id b.id
  obtain ⟨lit, hlit, hlitLow, hlitHigh⟩ := smoothStep_range hnonneg hle
  have hrest : restingAlpha s a b = real base := by rw [restingAlpha, hdistance, hbase]
  have hbelow : base ≤ top := by
    have htrans := Exact.le_trans hhigh hscale.below
    rwa [hbase, htop, real_le] at htrans
  have halpha : linkAlpha s a b = real (base + (top - base) * lit) := by
    rw [linkAlpha, hdistance, hbase, htop, hx, hlit, literal_eq, real_sub, max_real, real_mul,
      real_add, Nat.cast_zero, max_eq_left (sub_nonneg.mpr hbelow)]
  rw [hrest, halpha, htop, real_le, real_le]
  rw [hbase] at hlow
  refine ⟨hlow, ?_, ?_⟩
  · exact le_add_of_nonneg_right (mul_nonneg (sub_nonneg.mpr hbelow) hlitLow)
  · have hpart : (top - base) * lit ≤ top - base :=
      mul_le_of_le_one_right (sub_nonneg.mpr hbelow) hlitHigh
    linarith

theorem drawnRadius_range {boost : ℝ} (hboost : 0 ≤ boost)
    (hscale : s.scale.node.hoverBoost = real boost) (hglow : s.highlight.Ranged) {n : Node Exact}
    (hradius : Scalar.isFinite n.radius = true) (hother : isSelected s n = false) :
    n.radius ≤ drawnRadius s n ∧ drawnRadius s n ≤ n.radius + s.scale.node.hoverBoost := by
  obtain ⟨r, hr⟩ := finite_iff.mp hradius
  obtain ⟨x, hx, hnonneg, hle⟩ := hglow.hoverAt n.id
  obtain ⟨lit, hlit, hlitLow, hlitHigh⟩ := smoothStep_range hnonneg hle
  have hdrawn : drawnRadius s n = real (r + boost * lit) := by
    rw [drawnRadius, hother, if_neg Bool.false_ne_true, hoverOf, hx, hlit, hr, hscale, real_mul,
      real_add]
  rw [hdrawn, hr, hscale, real_add, real_le, real_le]
  constructor
  · exact le_add_of_nonneg_right (mul_nonneg hboost hlitLow)
  · exact add_le_add_right (mul_le_of_le_one_right hboost hlitHigh) r

end Frame

namespace Simulation

theorem scale_run (settings : Settings Exact) (width height ratio : Exact)
    (ops : List (Operation Exact)) :
    ((new settings width height ratio).run ops).scale = Scale.standard := by
  refine run_keeps (P := fun s => s.scale = Scale.standard) (fun s op _ hs => ?_) rfl
  have hscale : (s.apply op).scale = s.scale := congrArg (fun c => c.2.2) (setup_apply s op)
  rw [hscale, hs]

/-- Both ends of a link are nodes that stand there. -/
theorem Reachable.exists_ends {α : Type} [Scalar α] {s : Simulation α} (hs : s.Reachable) {k : Nat}
    {l : Link α} (hl : s.graph.links[k]? = some l) :
    ∃ i j, ∃ a b : Node α, s.graph.linkEnds? k = some (i, j) ∧ s.graph.nodes[i]? = some a ∧
      s.graph.nodes[j]? = some b ∧ a.id = l.source ∧ b.id = l.target := by
  obtain ⟨i, j, hends, hsource, htarget⟩ := hs.anchored.closed.exists_linkEnds? hl
  obtain ⟨a, ha, haid⟩ := Option.map_eq_some_iff.mp hsource
  obtain ⟨b, hb, hbid⟩ := Option.map_eq_some_iff.mp htarget
  exact ⟨i, j, a, b, hends, ha, hb, haid, hbid⟩

/-- In every state that is reached, with nodes dragged to finite places only: each stored intensity
is above the threshold and at most one, and an id that is not stored reads zero; the intensity of a
link is the same either way and between zero and one; a node does not get darker while it is a
target. So each link is stroked with an alpha between its resting one and that of the highlight, and
each node that is not selected is drawn at most by the boost larger than it is. -/
theorem glow_in_range (settings : Settings Exact) (width height ratio : Exact)
    {ops : List (Operation Exact)} (hops : ∀ op ∈ ops, FiniteDrag op) :
    let s := (new settings width height ratio).run ops
    let h := s.highlight
    (∀ id v, (id, v) ∈ h.nodeIntensity ∨ (id, v) ∈ h.hoverIntensity → Highlight.Bright v) ∧
    (∀ id, (id ∉ Highlight.keys h.nodeIntensity → h.nodeAt id = 0) ∧
      (id ∉ Highlight.keys h.hoverIntensity → h.hoverAt id = 0)) ∧
    (∀ a b, h.edgeAt a b = h.edgeAt b a ∧ 0 ≤ h.edgeAt a b ∧ h.edgeAt a b ≤ 1) ∧
    (∀ id more, (∀ first, first <+: more → id ∈ (s.run first).highlight.targets) →
      h.nodeAt id ≤ (s.run more).highlight.nodeAt id) ∧
    (∀ (theme : Theme Exact) (k : ℕ) (l : Link Exact), s.graph.links[k]? = some l →
      ∃ a b : Node Exact, a ∈ s.graph.nodes ∧ b ∈ s.graph.nodes ∧ a.id = l.source ∧
        b.id = l.target ∧
        [.strokeStyle (theme.link.color.withAlpha (Frame.linkAlpha s a b)), .beginPath,
          .moveTo a.position, .lineTo b.position, .stroke] <:+: Frame.draw s theme ∧
        s.scale.link.alphaMin ≤ Frame.restingAlpha s a b ∧
        Frame.restingAlpha s a b ≤ Frame.linkAlpha s a b ∧
        Frame.linkAlpha s a b ≤ s.scale.link.alphaHighlight) ∧
    ∀ (theme : Theme Exact) (n : Node Exact), n ∈ s.graph.nodes →
      Frame.isSelected s n = false →
        [.beginPath, .arc n.position (Frame.drawnRadius s n) 0 (2 * Scalar.pi), .fill] <:+:
          Frame.draw s theme ∧
        n.radius ≤ Frame.drawnRadius s n ∧
        Frame.drawnRadius s n ≤ n.radius + s.scale.node.hoverBoost := by
  intro s h
  have hreached : s.Reachable := ⟨settings, width, height, ratio, ops, rfl⟩
  have hglow : h.Ranged := hreached.ranged
  have hsolid : s.graph.Solid := solid_run settings width height ratio hops
  have hscale : s.scale = Scale.standard := scale_run settings width height ratio ops
  refine ⟨?_, ?_, ?_, ?_, ?_, ?_⟩
  · exact fun id v hv => hglow.stored_bright hv
  · exact fun id => ⟨Highlight.valueOf_of_not_mem, Highlight.valueOf_of_not_mem⟩
  · exact fun a b => ⟨hglow.edgeAt_comm a b, hglow.edgeAt_bounds a b⟩
  · exact fun id more hid => nodeAt_le_run hglow hid
  · intro theme k l hl
    obtain ⟨i, j, a, b, hends, ha, hb, haid, hbid⟩ := hreached.exists_ends hl
    have hamem : a ∈ s.graph.nodes := Array.mem_of_getElem? ha
    have hbmem : b ∈ s.graph.nodes := Array.mem_of_getElem? hb
    have hgraded : s.scale.link.Graded := hscale ▸ LinkScale.graded_standard
    refine ⟨a, b, hamem, hbmem, haid, hbid, Frame.strokes_link s theme hl hends ha hb, ?_⟩
    exact Frame.linkAlpha_range hgraded hglow (hsolid a hamem).place (hsolid b hbmem).place
  · intro theme n hn hother
    have hboost : s.scale.node.hoverBoost = real 2 := by
      rw [hscale]
      rfl
    refine ⟨Frame.strokes_node s theme hn, ?_⟩
    exact Frame.drawnRadius_range (by norm_num) hboost hglow (hsolid n hn).radius.finite hother

/-- A pair of linked nodes, one of them dragged and under the pointer. -/
noncomputable def grazedPair : List (Operation Exact) :=
  [.load pairRecord, .beginDrag 0, .dragTo ⟨10, 0⟩, .setHover (some 0)]

theorem finiteDrag_grazedPair : ∀ op ∈ grazedPair, FiniteDrag op := by
  simp [grazedPair, FiniteDrag, Point.isFinite_iff]

theorem targets_grazedPair : (blank.run grazedPair).highlight.targets = ["A", "B"] := rfl

theorem links_grazedPair :
    (blank.run grazedPair).graph.links[0]? = some ⟨"A", "B", 1⟩ := rfl

theorem glow_in_range_grazedPair :
    (∀ op ∈ grazedPair, FiniteDrag op) ∧
      let s := blank.run grazedPair
      s.highlight.nodeAt "A" ≤ s.tick.highlight.nodeAt "A" ∧
      s.highlight.edgeAt "A" "B" = s.highlight.edgeAt "B" "A" ∧
      ∃ a b : Node Exact, a.id = "A" ∧ b.id = "B" ∧
        Frame.restingAlpha s a b ≤ Frame.linkAlpha s a b ∧
        Frame.linkAlpha s a b ≤ s.scale.link.alphaHighlight := by
  refine ⟨finiteDrag_grazedPair, ?_⟩
  intro s
  obtain ⟨-, -, hedge, hrises, hlinks, -⟩ :=
    glow_in_range Settings.standard 800 600 1 finiteDrag_grazedPair
  have htick : s.tick.highlight = s.highlight.tick frameTime :=
    congrArg Outlook.highlight (outlook_tick s)
  have htarget : "A" ∈ s.highlight.targets := by
    rw [targets_grazedPair]
    decide
  have htargets : ∀ first, first <+: [.tick] → "A" ∈ (s.run first).highlight.targets := by
    intro first hfirst
    rcases List.prefix_cons_iff.mp hfirst with rfl | ⟨rest, rfl, hrest⟩
    · exact htarget
    · rw [List.prefix_nil.mp hrest, show s.run [.tick] = s.tick from rfl, htick]
      exact htarget
  obtain ⟨a, b, -, -, ha, hb, -, -, hrest, hhigh⟩ :=
    hlinks Theme.standard 0 _ links_grazedPair
  exact ⟨hrises "A" [.tick] htargets, (hedge "A" "B").1, a, b, ha, hb, hrest, hhigh⟩

end Simulation

end NodeLink
