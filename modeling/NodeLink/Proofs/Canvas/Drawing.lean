import NodeLink.Proofs.Canvas.Strokes
import NodeLink.Proofs.Canvas.Surface
/-!
# What a frame puts on a canvas

A frame is drawn in passes that set the composite mode and more for the passes after them, and the
whole stands between a save and a restore. On any canvas it draws one line for each resolved link,
one disc for each node with a ring around the selected one, and a label for each node that shows
one; and it leaves the canvas in the state it found.

* `Frame.draws_link`, `draws_node`, `draws_label`: what the calls of one link or node draw.
* `Frame.draws_underlay`, `shown_scene`, `shown_labels`: what the passes draw.
* `Frame.Complete`: what a whole frame does to a canvas; `complete_of_reachable`.
* `Frame.labelled_iff`: which nodes show a label.
* `Frame.frame_complete`: all of this in every state that is reached.
-/

namespace NodeLink.Frame

open Surface

variable {α : Type}

theorem isSelected_iff (s : Simulation α) (n : Node α) :
    isSelected s n = true ↔ s.selected = some n.id := beq_iff_eq

variable [Scalar α]

/-! ## Figures -/

/-- The line of a link: from where the one end is to where the other one is. -/
def IsLine (g : Graph α) (l : Link α × Nat × Nat) (f : Figure α) : Prop :=
  ∃ a b, g.nodes[l.2.1]? = some a ∧ g.nodes[l.2.2]? = some b ∧
    f = .stroked [.start a.position, .line b.position]

/-- The disc of a node, and the ring around it if it is selected. -/
def nodeFigures (s : Simulation α) (n : Node α) : List (Figure α) :=
  .filled [.arc n.position (drawnRadius s n) 0 (2 * Scalar.pi)] ::
    if s.selected = some n.id then
      [.stroked [.arc n.position (drawnRadius s n + s.scale.node.ringOffset) 0 (2 * Scalar.pi)]]
    else []

/-- Whether the label of a node is drawn. -/
def labelled (s : Simulation α) (n : Node α) : Bool :=
  !(n.label.isEmpty || decide (labelAlpha s s.sizes n < 0.01))

def labelFigure (s : Simulation α) (n : Node α) : Figure α :=
  .text n.label (n.position.x + drawnRadius s n + s.sizes.labelOffset) n.position.y

/-! ## Passes -/

section Passes

variable {σ : Type} {u : Surface α σ} {mode : String} (s : Simulation α)

theorem draws_background (style : BackgroundStyle α) : ∃ ground : List (Figure α),
    (∀ f ∈ ground, f = .rect 0 0 s.viewport.width s.viewport.height) ∧
    ∀ {σ : Type} (u : Surface α σ) (mode : String), u.Draws mode (background s style) ground := by
  have hground {σ : Type} (u : Surface α σ) (mode : String) :
      u.Draws mode
        [.fillStyle (.color style.color), .fillRect 0 0 s.viewport.width s.viewport.height]
        [.rect 0 0 s.viewport.width s.viewport.height] := .set rfl (.mark fun _ => rfl)
  unfold background
  dsimp only
  split
  · refine ⟨List.replicate 2 (.rect 0 0 s.viewport.width s.viewport.height),
      fun f => List.eq_of_mem_replicate, fun u mode => (hground u mode).append ?_⟩
    exact .set rfl (.set rfl (.set rfl (.set rfl (.mark fun _ => rfl))))
  · exact ⟨List.replicate 1 (.rect 0 0 s.viewport.width s.viewport.height),
      fun f => List.eq_of_mem_replicate, fun u mode => (hground u mode).append .nil⟩

theorem draws_link (style : LinkStyle α) {ends : Nat × Nat} {a b : Node α}
    (ha : s.graph.nodes[ends.1]? = some a) (hb : s.graph.nodes[ends.2]? = some b) :
    u.Draws mode (link s style ends) [.stroked [.start a.position, .line b.position]] := by
  rw [link, ha, hb]
  exact .set rfl (.stroked [.start a.position, .line b.position])

/-- Links with both ends among the nodes draw one line each, in their order. -/
theorem exists_lines (style : LinkStyle α) {ls : List (Link α × Nat × Nat)}
    (hls : ∀ l ∈ ls, l.2.1 < s.graph.size ∧ l.2.2 < s.graph.size) :
    ∃ lines, List.Forall₂ (IsLine s.graph) ls lines ∧
      ∀ {σ : Type} (u : Surface α σ) (mode : String),
        u.Draws mode ((ls.map Prod.snd).flatMap (link s style)) lines := by
  induction ls with
  | nil => exact ⟨[], .nil, fun _ _ => .nil⟩
  | cons l rest ih =>
    obtain ⟨lines, hlines, hdraws⟩ := ih fun l' hl' => hls l' (List.mem_cons_of_mem l hl')
    obtain ⟨hi, hj⟩ := hls l List.mem_cons_self
    obtain ⟨a, ha⟩ : ∃ a, s.graph.nodes[l.2.1]? = some a := ⟨_, Array.getElem?_eq_getElem hi⟩
    obtain ⟨b, hb⟩ : ∃ b, s.graph.nodes[l.2.2]? = some b := ⟨_, Array.getElem?_eq_getElem hj⟩
    exact ⟨_ :: lines, .cons ⟨a, b, ha, hb, rfl⟩ hlines,
      fun u mode => (draws_link s style ha hb).append (hdraws u mode)⟩

/-- The disc is drawn between a save and its restore. -/
theorem exists_disc (theme : Theme α) (n : Node α) : ∃ inner,
    disc s theme n = .save :: (inner ++ [.restore]) ∧ Call.Nested inner ∧
      ∀ {σ : Type} (u : Surface α σ) (mode : String), u.Draws mode inner
        [.filled [.arc n.position (drawnRadius s n) 0 (2 * Scalar.pi)]] := by
  refine ⟨[_, _, _, .beginPath, .arc n.position (drawnRadius s n) 0 (2 * Scalar.pi), .fill], rfl,
    ?_, fun u mode => ?_⟩
  · exact .plain rfl (.plain rfl (.plain rfl (.plain rfl (.plain rfl (.plain rfl .nil)))))
  · exact .set rfl (.set rfl (.set rfl
      (.filled [.arc n.position (drawnRadius s n) 0 (2 * Scalar.pi)])))

theorem draws_node (theme : Theme α) (n : Node α) :
    u.Draws mode (node s s.sizes theme n) (nodeFigures s n) := by
  obtain ⟨inner, hdisc, hnested, hinner⟩ := exists_disc s theme n
  have hfilled : u.Draws mode (disc s theme n)
      [.filled [.arc n.position (drawnRadius s n) 0 (2 * Scalar.pi)]] := by
    rw [hdisc]
    exact .enclosed hnested (hinner u mode)
  have hring : u.Draws mode (if isSelected s n then ring s s.sizes theme n else [])
      (if s.selected = some n.id then
        [.stroked [.arc n.position (drawnRadius s n + s.scale.node.ringOffset) 0 (2 * Scalar.pi)]]
      else []) := by
    by_cases hselected : s.selected = some n.id
    · rw [if_pos ((isSelected_iff s n).mpr hselected), if_pos hselected]
      exact .set rfl (.set rfl (.stroked
        [.arc n.position (drawnRadius s n + s.scale.node.ringOffset) 0 (2 * Scalar.pi)]))
    · rw [if_neg fun h => hselected ((isSelected_iff s n).mp h), if_neg hselected]
      exact .nil
  exact hfilled.append hring

theorem draws_label (style : LabelStyle α) (n : Node α) :
    u.Draws mode (label s s.sizes style n) (if labelled s n then [labelFigure s n] else []) := by
  rw [label, labelled]
  dsimp only
  split
  · rename_i hnone
    rw [hnone]
    exact .nil
  · rename_i hsome
    rw [Bool.not_eq_true] at hsome
    rw [hsome]
    exact .set rfl (.mark fun _ => rfl)

/-- The ground, and the transform of the view for what follows. -/
def underlay (theme : Theme α) : List (Call α) :=
  background s theme.background ++
    [.translate s.viewport.transform.x s.viewport.transform.y,
      .scale s.viewport.transform.k s.viewport.transform.k]

/-- The links and the nodes, which are drawn under one mode. -/
def scene (theme : Theme α) : List (Call α) :=
  links s s.sizes theme.link ++ s.graph.nodes.toList.flatMap (node s s.sizes theme)

/-- The calls between the first save and the last restore. -/
def contents (theme : Theme α) : List (Call α) :=
  underlay s theme ++ scene s theme ++ labels s s.sizes theme.label

theorem draw_eq (theme : Theme α) : draw s theme = .save :: (contents s theme ++ [.restore]) := by
  simp only [draw, contents, underlay, scene, List.append_assoc, List.cons_append, List.nil_append]

theorem draws_underlay (theme : Theme α) : ∃ ground : List (Figure α),
    (∀ f ∈ ground, f = .rect 0 0 s.viewport.width s.viewport.height) ∧
    ∀ {σ : Type} (u : Surface α σ) (mode : String), u.Draws mode (underlay s theme) ground := by
  obtain ⟨ground, hground, hdraws⟩ := draws_background s theme.background
  refine ⟨ground, hground, fun u mode => ?_⟩
  have htransform : u.Draws mode
      [.translate s.viewport.transform.x s.viewport.transform.y,
        .scale s.viewport.transform.k s.viewport.transform.k] [] := .set rfl (.set rfl .nil)
  rw [← List.append_nil ground]
  exact (hdraws u mode).append htransform

/-- The links set the mode, and the nodes are drawn under it as well. -/
theorem shown_scene (theme : Theme α)
    (hends : ∀ l ∈ s.graph.resolvedLinks, l.2.1 < s.graph.size ∧ l.2.2 < s.graph.size) :
    ∃ lines, List.Forall₂ (IsLine s.graph) s.graph.resolvedLinks lines ∧
      ∀ {σ : Type} (u : Surface α σ) (c : Canvas α σ), u.knows theme.link.composite →
        (c.run u (scene s theme)).shown u = c.shown u ++
          (lines ++ s.graph.nodes.toList.flatMap (nodeFigures s)).map
            fun f => (f, theme.link.composite) := by
  obtain ⟨lines, hlines, hdraws⟩ := exists_lines s theme.link hends
  refine ⟨lines, hlines, fun u c hknows => ?_⟩
  have hlinks : u.Draws theme.link.composite
      (.lineWidth s.sizes.lineWidth ::
        (s.graph.resolvedLinks.map Prod.snd).flatMap (link s theme.link)) lines :=
    .set rfl (hdraws u _)
  exact ((hlinks.append (.flatMap (draws_node s theme) _)).under hknows c).2

theorem flatMap_ite {β γ : Type} (p : β → Bool) (f : β → γ) (xs : List β) :
    (xs.flatMap fun x => if p x then [f x] else []) = (xs.filter p).map f := by
  induction xs with
  | nil => rfl
  | cons x rest ih =>
    by_cases hx : p x = true
    · rw [List.flatMap_cons, if_pos hx, ih, List.filter_cons_of_pos hx]
      rfl
    · rw [List.flatMap_cons, if_neg hx, ih, List.filter_cons_of_neg hx]
      rfl

theorem shown_labels (style : LabelStyle α) (c : Canvas α σ) :
    (c.run u (labels s s.sizes style)).shown u = c.shown u ++
      (s.graph.nodes.toList.filter (labelled s)).map
        fun n => (labelFigure s n, "source-over") := by
  have hlabels : u.Draws "source-over"
      (.font s.sizes.labelSize :: .textBaseline "middle" ::
        s.graph.nodes.toList.flatMap (label s s.sizes style))
      ((s.graph.nodes.toList.filter (labelled s)).map (labelFigure s)) := by
    rw [← flatMap_ite]
    exact .set rfl (.set rfl (.flatMap (draws_label s style) _))
  refine (hlabels.under u.knows_sourceOver c).2.trans ?_
  rw [List.map_map]
  rfl

end Passes

/-! ## Saves and restores -/

section Nested

variable (s : Simulation α)

theorem nested_background (style : BackgroundStyle α) : Call.Nested (background s style) := by
  unfold background
  dsimp only
  split
  · exact .of_all (by simp [Call.nests, Call.isSave, Call.isRestore])
  · exact .of_all (by simp [Call.nests, Call.isSave, Call.isRestore])

theorem nested_link (style : LinkStyle α) (ends : Nat × Nat) : Call.Nested (link s style ends) := by
  unfold link
  split
  · exact .of_all (by simp [Call.nests, Call.isSave, Call.isRestore])
  · exact .nil

theorem nested_node (theme : Theme α) (n : Node α) : Call.Nested (node s s.sizes theme n) := by
  obtain ⟨inner, hdisc, hnested, -⟩ := exists_disc s theme n
  rw [node, hdisc]
  refine hnested.enclosed.append ?_
  split
  · exact .of_all (by simp [ring, Call.nests, Call.isSave, Call.isRestore])
  · exact .nil

theorem nested_label (style : LabelStyle α) (n : Node α) :
    Call.Nested (label s s.sizes style n) := by
  unfold label
  dsimp only
  split
  · exact .nil
  · exact .of_all (by simp [Call.nests, Call.isSave, Call.isRestore])

theorem nested_contents (theme : Theme α) : Call.Nested (contents s theme) := by
  have htransform : Call.Nested (α := α)
      [.translate s.viewport.transform.x s.viewport.transform.y,
        .scale s.viewport.transform.k s.viewport.transform.k] := .plain rfl (.plain rfl .nil)
  have hlinks : Call.Nested (links s s.sizes theme.link) :=
    .plain rfl (.plain rfl (.flatMap (nested_link s theme.link) _))
  have hlabels : Call.Nested (labels s s.sizes theme.label) :=
    .plain rfl (.plain rfl (.plain rfl (.flatMap (nested_label s theme.label) _)))
  exact (((nested_background s theme.background).append htransform).append
    (hlinks.append (.flatMap (nested_node s theme) _))).append hlabels

end Nested

/-! ## Frames -/

/-- After the ground, in whatever mode the canvas is, the calls draw a line for each resolved link
and then a disc for each node, with a ring around the one that is selected, under the mode of the
links, and over these the labels that show. -/
def Shows (s : Simulation α) (theme : Theme α) (calls : List (Call α)) : Prop :=
  ∃ ground lines : List (Figure α),
    (∀ f ∈ ground, f = .rect 0 0 s.viewport.width s.viewport.height) ∧
    List.Forall₂ (IsLine s.graph) s.graph.resolvedLinks lines ∧
    ∀ {σ : Type} (u : Surface α σ) (c : Canvas α σ), u.knows theme.link.composite →
      (c.run u calls).shown u = c.shown u ++
        (ground.map fun f => (f, u.mode c.state)) ++
        ((lines ++ s.graph.nodes.toList.flatMap (nodeFigures s)).map
          fun f => (f, theme.link.composite)) ++
        ((s.graph.nodes.toList.filter (labelled s)).map
          fun n => (labelFigure s n, "source-over"))

/-- What a frame does to any canvas: its saves and restores are balanced up to every call and as a
whole, the canvas is left in the state it was in, with the states that were put aside, and on it
there are the figures of the frame. -/
structure Complete (s : Simulation α) (theme : Theme α) : Prop where
  restores_le : ∀ first, first <+: draw s theme →
    first.countP Call.isRestore ≤ first.countP Call.isSave
  restores_eq : (draw s theme).countP Call.isRestore = (draw s theme).countP Call.isSave
  noTrace : ∀ {σ : Type} (u : Surface α σ) (c : Canvas α σ),
    (c.run u (draw s theme)).state = c.state ∧ (c.run u (draw s theme)).saved = c.saved
  shows : Shows s theme (draw s theme)
  oneSelected : ∀ id, s.selected = some id → ∃ i, ∀ j, s.graph.idAt? j = some id ↔ j = i

theorem shows_contents (s : Simulation α) (theme : Theme α)
    (hends : ∀ l ∈ s.graph.resolvedLinks, l.2.1 < s.graph.size ∧ l.2.2 < s.graph.size) :
    Shows s theme (contents s theme) := by
  obtain ⟨ground, hground, hunderlay⟩ := draws_underlay s theme
  obtain ⟨lines, hlines, hscene⟩ := shown_scene s theme hends
  refine ⟨ground, lines, hground, hlines, fun u c hknows => ?_⟩
  rw [contents, Canvas.run_append, Canvas.run_append, shown_labels, hscene u _ hknows,
    (hunderlay u (u.mode c.state) c rfl).2]

theorem complete (s : Simulation α) (theme : Theme α)
    (hends : ∀ l ∈ s.graph.resolvedLinks, l.2.1 < s.graph.size ∧ l.2.2 < s.graph.size)
    (hselected : ∀ id, s.selected = some id → ∃ i, ∀ j, s.graph.idAt? j = some id ↔ j = i) :
    Complete s theme := by
  have hnested : Call.Nested (draw s theme) := by
    rw [draw_eq]
    exact (nested_contents s theme).enclosed
  have hrun {σ : Type} (u : Surface α σ) (c : Canvas α σ) : c.run u (draw s theme) =
      { (c.step u .save).run u (contents s theme) with state := c.state, saved := c.saved } := by
    rw [draw_eq, (nested_contents s theme).run_enclosed]
  obtain ⟨ground, lines, hground, hlines, hshown⟩ := shows_contents s theme hends
  refine ⟨fun _ hfirst => hnested.restores_le hfirst, hnested.count_eq, fun u c => ?_,
    ⟨ground, lines, hground, hlines, fun u c hknows => ?_⟩, hselected⟩
  · rw [hrun]
    exact ⟨rfl, rfl⟩
  · rw [hrun]
    exact hshown u (c.step u .save) hknows

/-- In every state that is reached, frames are complete. -/
theorem complete_of_reachable {s : Simulation α} (hs : s.Reachable) (theme : Theme α) :
    Complete s theme := by
  have hclosed : s.graph.Closed := hs.anchored.closed
  have hindexed : s.graph.Indexed := hclosed.built.indexed
  have htied : s.graph.Tied := hclosed.built.tied
  refine complete s theme (fun l hl => ?_) fun id hid => ?_
  · have hmem : l.2 ∈ s.graph.knownEnds := by
      rw [← Graph.map_snd_resolvedLinks htied.ends]
      exact List.mem_map_of_mem hl
    exact htied.inRange l.2 hmem
  · obtain ⟨i, hi⟩ := Option.isSome_iff_exists.mp (hs.anchored.selected id hid)
    refine ⟨i, fun j => ?_⟩
    rw [← hindexed, hi, Option.some.injEq]
    exact eq_comm

/-! ## Labels -/

/-- A label that is not empty shows on the selected node, and elsewhere from the threshold on, where
these are numbers. -/
theorem labelled_iff (s : Simulation α) (n : Node α) (hfull : ¬(1 : α) < 0.01)
    (hlaw : ∀ a : α, ¬a < 0.01 ↔ 0.01 ≤ a ∨ Scalar.isNaN a = true) :
    labelled s n = true ↔ n.label ≠ "" ∧ (s.selected = some n.id ∨
      0.01 ≤ Scalar.max s.sizes.labelAlpha (hoverOf s n) ∨
      (Scalar.isNaN s.sizes.labelAlpha = true ∧ Scalar.isNaN (hoverOf s n) = true)) := by
  have hshows : ¬labelAlpha s s.sizes n < 0.01 ↔ s.selected = some n.id ∨
      0.01 ≤ Scalar.max s.sizes.labelAlpha (hoverOf s n) ∨
      (Scalar.isNaN s.sizes.labelAlpha = true ∧ Scalar.isNaN (hoverOf s n) = true) := by
    rw [labelAlpha]
    by_cases hselected : s.selected = some n.id
    · rw [if_pos ((isSelected_iff s n).mpr hselected)]
      exact iff_of_true hfull (.inl hselected)
    · rw [if_neg fun h => hselected ((isSelected_iff s n).mp h), hlaw, Scalar.isNaN_max,
        Bool.and_eq_true, or_iff_right hselected]
  rw [labelled, Bool.not_eq_true', Bool.or_eq_false_iff, decide_eq_false_iff_not, hshows]
  simp

/-! ## Main result -/

/-- In every state that is reached, with floats or with exact scalars, and under every theme, a
frame is complete: what it draws on any canvas is a line for each resolved link, a disc for each
node, a ring around the one that is selected, and the labels that show, and the canvas is left in the
state it was in. A label that is not empty shows on the selected node, and on others if the larger
one of the fade of the zoom and the eased intensity under the pointer is at least the threshold. With
exact scalars there always is a larger one, and with floats unless neither is a number. -/
theorem frame_complete :
    (∀ s : Simulation Float, s.Reachable → ∀ theme, Complete s theme ∧ ∀ n : Node Float,
      labelled s n = true ↔ n.label ≠ "" ∧ (s.selected = some n.id ∨
        0.01 ≤ Scalar.max s.sizes.labelAlpha (hoverOf s n) ∨
        (Scalar.isNaN s.sizes.labelAlpha = true ∧ Scalar.isNaN (hoverOf s n) = true))) ∧
    ∀ s : Simulation Exact, s.Reachable → ∀ theme, Complete s theme ∧ ∀ n : Node Exact,
      labelled s n = true ↔ n.label ≠ "" ∧ (s.selected = some n.id ∨
        0.01 ≤ Scalar.max s.sizes.labelAlpha (hoverOf s n)) := by
  constructor
  · intro s hs theme
    refine ⟨complete_of_reachable hs theme, fun n => ?_⟩
    exact labelled_iff s n (by decide) fun a => not_lt_float_iff (by decide)
  · intro s hs theme
    refine ⟨complete_of_reachable hs theme, fun n => ?_⟩
    obtain ⟨x, hx, hnonneg, hle⟩ := hs.ranged.hoverAt n.id
    obtain ⟨y, hy, -, -⟩ := smoothStep_range hnonneg hle
    have hnumber : Scalar.isNaN (hoverOf s n) = false := by
      rw [hoverOf, hx, hy, Exact.isNaN_real]
    have hfull : ¬(1 : Exact) < 0.01 := by
      rw [Exact.literal_eq, Exact.decimal_eq, Exact.real_lt]
      norm_num
    rw [labelled_iff s n hfull fun a => Exact.not_lt_real_iff _ a, hnumber]
    simp

/-- A canvas of which only the composite mode is told. -/
def modes : Surface Float String where
  set call mode := match call with
    | .globalCompositeOperation m => if m = "source-over" ∨ m = "lighter" then m else mode
    | _ => mode
  mode := id
  knows m := m = "source-over" ∨ m = "lighter"
  knows_sourceOver := .inl rfl
  mode_set _ _ hm := if_pos hm
  mode_keeps call _ hcall := by
    cases call with
    | globalCompositeOperation m => exact Bool.noConfusion hcall
    | _ => rfl

/-- Two linked nodes, one of them selected. -/
def selectedPair : Simulation Float := Simulation.pair.run [.select "A"]

theorem reachable_selectedPair : selectedPair.Reachable := Simulation.reachable_pair.run _

theorem frame_complete_selectedPair :
    selectedPair.Reachable ∧ modes.knows (Theme.standard : Theme Float).link.composite ∧
      let c : Canvas Float String := ⟨"source-over", ["copy"], [], []⟩
      let drawn := c.run modes (draw selectedPair Theme.standard)
      drawn.state = "source-over" ∧ drawn.saved = ["copy"] ∧
        -- a line, two discs and a ring
        (drawn.shown modes).countP (fun f => f.2 = "lighter") = 4 := by
  have hknows : modes.knows (Theme.standard : Theme Float).link.composite := .inr rfl
  refine ⟨reachable_selectedPair, hknows, ?_⟩
  intro c drawn
  obtain ⟨-, -, hleaves, ⟨ground, lines, -, hlines, hshown⟩, -⟩ :=
    (frame_complete.1 selectedPair reachable_selectedPair Theme.standard).1
  have hline : lines.length = 1 := hlines.length_eq.symm
  have hnodes : (selectedPair.graph.nodes.toList.flatMap (nodeFigures selectedPair)).length = 3 :=
    rfl
  have hunder (mode : String) (fs : List (Figure Float)) :
      (fs.map fun f => (f, mode)).countP (fun f => f.2 = "lighter") =
        if mode = "lighter" then fs.length else 0 := by
    rw [List.countP_map]
    split
    · rename_i hmode
      exact List.countP_eq_length.mpr fun f _ => decide_eq_true hmode
    · rename_i hmode
      exact List.countP_eq_zero.mpr fun f _ => by simpa using hmode
  have htexts : (fun n => (labelFigure selectedPair n, "source-over")) =
      (fun f : Figure Float => (f, "source-over")) ∘ labelFigure selectedPair := rfl
  refine ⟨(hleaves modes c).1, (hleaves modes c).2, ?_⟩
  rw [hshown modes c hknows, List.countP_append, List.countP_append, List.countP_append, hunder,
    hunder, htexts, ← List.map_map, hunder, List.length_append, hline, hnodes]
  rfl

end NodeLink.Frame
