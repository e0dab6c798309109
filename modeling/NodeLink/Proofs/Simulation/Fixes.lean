import NodeLink.Proofs.Simulation.Pins
/-!
# Why nodes are fixed

The pin, the drag and the hold of a new hub write one field, and each clears it with regard to the
other two. In every state that is reached a fix has one of these causes, a pin and a drag each keep
their node fixed, and a fixed node stands still at its place.

* `Node.Accounted`: this for one node.
* `Holding.Sound`: this for all nodes, and what it rests on.
* `sound_apply`: every operation keeps it.
* `hubHold_run`: the hold of the hub ends with the frames that pass.
-/

namespace NodeLink

namespace Node

variable {α : Type} [Scalar α]

/-- A fixed node has a cause to be fixed, where `dragged` and `hub` are the ids of the dragged node
and of the held hub. -/
structure Accounted (dragged hub : Option String) (n : Node α) : Prop where
  pin : n.pinned = true → n.fixed.isSome = true
  drag : dragged = some n.id → n.fixed.isSome = true
  cause : n.fixed.isSome = true → n.pinned = true ∨ dragged = some n.id ∨ hub = some n.id
  rests : n.Rests

variable {dragged hub dragged' hub' : Option String} {m n : Node α}

theorem Accounted.of_ids (hn : n.Accounted dragged hub)
    (hdrag : dragged' = some n.id ↔ dragged = some n.id)
    (hhub : hub = some n.id → dragged' = some n.id ∨ hub' = some n.id) :
    n.Accounted dragged' hub' where
  pin := hn.pin
  drag h := hn.drag (hdrag.mp h)
  cause h := by
    rcases hn.cause h with hp | hd | hh
    · exact Or.inl hp
    · exact Or.inr (Or.inl (hdrag.mpr hd))
    · exact Or.inr (hhub hh)
  rests := hn.rests

theorem Accounted.of_still (hm : m.Accounted dragged hub) (hstill : n.still = m.still)
    (hrests : n.Rests) : n.Accounted dragged hub := by
  have hid : n.id = m.id := id_of_still hstill
  have hfixed : n.fixed = m.fixed := fixed_of_still hstill
  have hpinned : n.pinned = m.pinned := pinned_of_still hstill
  refine ⟨?_, ?_, ?_, hrests⟩
  · rw [hpinned, hfixed]
    exact hm.pin
  · rw [hid, hfixed]
    exact hm.drag
  · rw [hfixed, hpinned, hid]
    exact hm.cause

theorem accounted_of_unfixed (hfixed : n.fixed = none) (hpinned : n.pinned = false)
    (hdrag : dragged ≠ some n.id) : n.Accounted dragged hub where
  pin h := absurd (hpinned.symm.trans h) Bool.false_ne_true
  drag h := absurd h hdrag
  cause h := by
    rw [hfixed] at h
    exact absurd h Bool.false_ne_true
  rests := rests_of_free hfixed

theorem accounted_holdAt (n : Node α) (place : Point α)
    (hcause : n.pinned = true ∨ dragged = some n.id ∨ hub = some n.id) :
    (n.holdAt place).Accounted dragged hub where
  pin _ := rfl
  drag _ := rfl
  cause _ := hcause
  rests := rests_holdAt n place

theorem Accounted.releaseUnpinned (hn : n.Accounted dragged hub) (hdrag : dragged' ≠ some n.id) :
    (if n.pinned then n else n.release).Accounted dragged' hub' := by
  cases hp : n.pinned with
  | true =>
    rw [if_pos rfl]
    exact ⟨hn.pin, fun _ => hn.pin hp, fun _ => Or.inl hp, hn.rests⟩
  | false =>
    rw [if_neg Bool.false_ne_true]
    exact accounted_of_unfixed rfl hp hdrag

end Node

/-! ## All nodes -/

namespace Holding

variable {α : Type} [Scalar α]

/-- Ids are looked up rightly, what is dragged or held is a node, the hold of the hub has frames
left, and every fixed node has a cause to be fixed. -/
structure Sound (h : Holding α) : Prop where
  indexed : h.graph.Indexed
  dragged : ∀ id, h.dragging = some id → h.graph.hasNode id = true
  hub : ∀ hold, h.hubHold = some hold → h.graph.hasNode hold.id = true
  frames : ∀ hold, h.hubHold = some hold →
    0 < hold.framesLeft ∧ hold.framesLeft ≤ Simulation.hubHoldFrames
  nodes : ∀ n ∈ h.graph.nodes, n.Accounted h.dragging (h.hubHold.map HubHold.id)

variable {h : Holding α}

/-- A graph of the same shape with the same drag and hold: only the nodes are to be looked at. -/
theorem Sound.of_shape (hs : h.Sound) {g : Graph α} (hshape : g.shape = h.graph.shape)
    (hnodes : ∀ n ∈ g.nodes, n.Accounted h.dragging (h.hubHold.map HubHold.id)) :
    Sound ⟨g, h.dragging, h.hubHold⟩ where
  indexed := hs.indexed.of_shape hshape
  dragged id hid := (Graph.hasNode_of_shape hshape id).trans (hs.dragged id hid)
  hub hold hhold := (Graph.hasNode_of_shape hshape _).trans (hs.hub hold hhold)
  frames := hs.frames
  nodes := hnodes

/-- The node of an id loses one cause to be fixed, and is released unless it is pinned. -/
theorem Sound.release (hs : h.Sound) {id : String} {d : Option String} {hub : Option HubHold}
    (hd : d ≠ some id) (hother : ∀ k, k ≠ id → (d = some k ↔ h.dragging = some k))
    (hhub : ∀ hold, hub = some hold → h.hubHold = some hold)
    (hkept : ∀ hold, h.hubHold = some hold → hold.id ≠ id → hub = some hold) :
    Sound ⟨h.graph.modify id fun n => if n.pinned then n else n.release, d, hub⟩ := by
  have hid : ∀ n : Node α, (if n.pinned then n else n.release).id = n.id := by
    intro n
    split
    · rfl
    · rfl
  have hshape := Graph.shape_modify h.graph id hid
  refine ⟨hs.indexed.of_shape hshape, ?_, ?_, fun hold hh => hs.frames hold (hhub hold hh), ?_⟩
  · intro k hk
    have hne : k ≠ id := fun he => hd (he ▸ hk)
    exact (Graph.hasNode_of_shape hshape k).trans (hs.dragged k ((hother k hne).mp hk))
  · intro hold hh
    exact (Graph.hasNode_of_shape hshape _).trans (hs.hub hold (hhub hold hh))
  · intro n hn
    dsimp only at hn ⊢
    rw [hs.indexed.nodes_modify, Array.mem_map] at hn
    rcases hn with ⟨m, hm, rfl⟩
    by_cases hmid : m.id = id
    · rw [if_pos hmid]
      exact (hs.nodes m hm).releaseUnpinned (hmid ▸ hd)
    · rw [if_neg hmid]
      refine (hs.nodes m hm).of_ids (hother m.id hmid) fun hh => Or.inr ?_
      rcases Option.map_eq_some_iff.mp hh with ⟨hold, hhold, hmh⟩
      rw [hkept hold hhold (hmh ▸ hmid), Option.map_some, hmh]

/-- In a graph just loaded only the hub is fixed. -/
theorem sound_ofGraph {g : Graph α} (hg : g.Indexed) (hfree : ∀ n ∈ g.nodes, n.Free) :
    (ofGraph g).Sound := by
  have hunfixed : ∀ hub, ∀ n ∈ g.nodes, n.Accounted none hub := fun hub n hn =>
    Node.accounted_of_unfixed (hfree n hn).1 (hfree n hn).2 (Option.some_ne_none _).symm
  unfold ofGraph
  cases g.hub? with
  | none =>
    exact ⟨hg, fun id h => absurd h.symm (Option.some_ne_none id),
      fun hold h => absurd h.symm (Option.some_ne_none hold),
      fun hold h => absurd h.symm (Option.some_ne_none hold), hunfixed none⟩
  | some i =>
    have hid : ∀ n : Node α, (n.holdAt Point.origin).id = n.id := fun _ => rfl
    have hshape := Graph.shape_modifyAt g i hid
    refine ⟨hg.of_shape hshape, fun id h => absurd h.symm (Option.some_ne_none id), ?_, ?_, ?_⟩
    · intro hold hhold
      rcases Option.map_eq_some_iff.mp hhold with ⟨id, hat, rfl⟩
      rw [Graph.hasNode_of_shape hshape, Graph.hasNode, (hg id i).mpr hat]
      rfl
    · intro hold hhold
      rcases Option.map_eq_some_iff.mp hhold with ⟨id, -, rfl⟩
      exact ⟨Nat.succ_pos 38, Nat.le_refl _⟩
    · intro n hn
      rcases Array.mem_iff_getElem?.mp hn with ⟨j, hj⟩
      dsimp only [Graph.modifyAt] at hj ⊢
      rw [Array.getElem?_modify] at hj
      by_cases hij : i = j
      · rw [if_pos hij, ← hij] at hj
        rcases Option.map_eq_some_iff.mp hj with ⟨m, hm, rfl⟩
        apply Node.accounted_holdAt
        rw [Graph.idAt?, hm]
        exact Or.inr (Or.inr rfl)
      · rw [if_neg hij] at hj
        exact hunfixed _ n (Array.mem_of_getElem? hj)

end Holding

/-! ## Operations -/

namespace Simulation

variable {α : Type} [Scalar α] {s : Simulation α}

theorem sound_endDrag (hs : s.holding.Sound) : s.endDrag.holding.Sound := by
  unfold endDrag
  split
  · exact hs
  · rename_i id hid
    refine hs.release (Option.some_ne_none id).symm ?_ (fun _ h => h) fun _ h _ => h
    intro k hk
    rw [show s.holding.dragging = some id from hid]
    exact ⟨fun h => absurd h.symm (Option.some_ne_none k),
      fun h => absurd (Option.some.inj h).symm hk⟩

theorem sound_beginDrag (hs : s.holding.Sound) (i : Nat) : (s.beginDrag i).1.holding.Sound := by
  have hend := sound_endDrag hs
  have hdrag := dragging_endDrag s
  unfold beginDrag
  dsimp only
  generalize s.endDrag = s₁ at hend hdrag ⊢
  cases hn : s₁.graph.nodes[i]? with
  | none => exact hend
  | some n =>
    have hi : s₁.graph.Indexed := hend.indexed
    have hid : ∀ m : Node α, (m.holdAt m.position).id = m.id := fun _ => rfl
    have hshape := Graph.shape_modifyAt s₁.graph i hid
    refine ⟨hend.indexed.of_shape hshape, ?_, ?_, hend.frames, ?_⟩
    · rintro id ⟨⟩
      refine (Graph.hasNode_of_shape hshape _).trans ?_
      exact (hend.indexed.hasNode_iff _).mpr ⟨n, Array.mem_of_getElem? hn, rfl⟩
    · intro hold hhold
      exact (Graph.hasNode_of_shape hshape _).trans (hend.hub hold hhold)
    · intro m hm
      dsimp only [holding, reheat] at hm ⊢
      rw [hi.nodes_modifyAt hn, Array.mem_map] at hm
      rcases hm with ⟨m, hm, rfl⟩
      by_cases hmn : m.id = n.id
      · rw [if_pos hmn]
        exact Node.accounted_holdAt m _ (Or.inr (Or.inl (congrArg some hmn.symm)))
      · rw [if_neg hmn]
        refine (hend.nodes m hm).of_ids ?_ Or.inr
        rw [show s₁.holding.dragging = none from hdrag]
        exact ⟨fun h => absurd (Option.some.inj h).symm hmn,
          fun h => absurd h.symm (Option.some_ne_none _)⟩

theorem sound_dragTo (hs : s.holding.Sound) (place : Point α) :
    (s.dragTo place).1.holding.Sound := by
  unfold dragTo
  split
  · exact hs
  · rename_i id hid
    -- a dragged id is always a node's, so the drag is never lost here
    have hknown : s.graph.hasNode id = true := hs.dragged id hid
    have hi : s.graph.Indexed := hs.indexed
    have hhold : ∀ m : Node α, (m.holdAt place).id = m.id := fun _ => rfl
    rw [if_pos hknown]
    refine hs.of_shape (Graph.shape_modify _ _ hhold) fun n hn => ?_
    rw [hi.nodes_modify, Array.mem_map] at hn
    rcases hn with ⟨m, hm, rfl⟩
    by_cases hmid : m.id = id
    · rw [if_pos hmid]
      exact Node.accounted_holdAt m place (Or.inr (Or.inl (hid.trans (congrArg some hmid.symm))))
    · rw [if_neg hmid]
      exact hs.nodes m hm

theorem sound_togglePin (hs : s.holding.Sound) (id : String) :
    (s.togglePin id).1.holding.Sound := by
  have hi : s.graph.Indexed := hs.indexed
  have hshape := shape_togglePin s id
  unfold togglePin at hshape ⊢
  cases hn : s.graph.node? id with
  | none => exact hs
  | some n =>
    rw [hn] at hshape
    refine hs.of_shape hshape fun m' hm' => ?_
    dsimp only [toast, emit] at hm'
    rw [hi.nodes_modify, Array.mem_map] at hm'
    rcases hm' with ⟨m, hm, rfl⟩
    by_cases hmid : m.id = id
    · rw [if_pos hmid]
      by_cases hp : (!n.pinned) = true
      · rw [if_pos hp]
        exact Node.accounted_holdAt _ _ (Or.inl hp)
      · rw [if_neg hp]
        have hunpinned : (!n.pinned) = false := Bool.eq_false_iff.mpr hp
        by_cases hdrag : s.dragging = some id
        · -- the drag alone keeps the node fixed now
          rw [if_pos hdrag]
          have hd : s.holding.dragging = some m.id := hdrag.trans (congrArg some hmid.symm)
          exact ⟨fun _ => (hs.nodes m hm).drag hd, fun _ => (hs.nodes m hm).drag hd,
            fun _ => Or.inr (Or.inl hd), (hs.nodes m hm).rests⟩
        · rw [if_neg hdrag]
          have hother : s.dragging ≠ some m.id := fun h => hdrag (h.trans (congrArg some hmid))
          exact Node.accounted_of_unfixed rfl hunpinned hother
    · rw [if_neg hmid]
      exact hs.nodes m hm

theorem sound_stepForces (hs : s.holding.Sound) : s.stepForces.holding.Sound := by
  unfold stepForces
  split
  · refine hs.of_shape (Graph.shape_of_outline (Physics.step_outline _ _)) fun n hn => ?_
    rcases Physics.exists_of_mem_step hn with ⟨m, hm, hstill⟩
    exact (hs.nodes m hm).of_still hstill (Physics.step_rests hn)
  · exact hs

theorem sound_releaseHub (hs : s.holding.Sound) : s.releaseHub.holding.Sound := by
  unfold releaseHub
  split
  · exact hs
  · rename_i hold hhold
    have hheld : s.holding.hubHold = some hold := hhold
    dsimp only
    split
    · rename_i hleft
      refine ⟨hs.indexed, hs.dragged, ?_, ?_, ?_⟩
      · rintro _ ⟨⟩
        exact hs.hub hold hheld
      · rintro _ ⟨⟩
        exact ⟨hleft, Nat.le_trans (Nat.sub_le _ _) (hs.frames hold hheld).2⟩
      · have hnodes := hs.nodes
        rw [hheld] at hnodes
        exact hnodes
    · split
      · rename_i hdrag
        refine ⟨hs.indexed, hs.dragged, fun _ h => absurd h.symm (Option.some_ne_none _),
          fun _ h => absurd h.symm (Option.some_ne_none _), fun n hn => ?_⟩
        refine (hs.nodes n hn).of_ids Iff.rfl fun hhub => Or.inl ?_
        rw [hheld] at hhub
        exact hdrag.trans hhub
      · rename_i hdrag
        refine hs.release hdrag (fun _ _ => Iff.rfl)
          (fun _ h => absurd h.symm (Option.some_ne_none _)) fun other h hne => ?_
        rw [hheld] at h
        exact absurd (congrArg HubHold.id (Option.some.inj h).symm) hne

theorem sound_apply (hs : s.holding.Sound) (op : Operation α) : (s.apply op).holding.Sound := by
  cases s.effect op with
  | keeps _ _ hholding =>
    rw [hholding]
    exact hs
  | loads hloads =>
    rcases apply_of_loads hloads with ⟨raw, hraw⟩
    rw [hraw, holding_load]
    exact Holding.sound_ofGraph (Graph.indexed_read raw _) fun n hn =>
      Graph.free_of_mem_nodes_read hn
  | tick => exact sound_releaseHub (sound_stepForces hs)
  | togglePin id => exact sound_togglePin hs id
  | beginDrag i => exact sound_beginDrag hs i
  | dragTo place => exact sound_dragTo hs place
  | endDrag => exact sound_endDrag hs

theorem sound_new (settings : Settings α) (width height ratio : α) :
    (new settings width height ratio).holding.Sound :=
  ⟨Graph.indexed_empty, fun id h => absurd h.symm (Option.some_ne_none id),
    fun _ h => absurd h.symm (Option.some_ne_none _),
    fun _ h => absurd h.symm (Option.some_ne_none _), fun _ hn => absurd hn (Array.not_mem_empty _)⟩

theorem Reachable.sound (hs : s.Reachable) : s.holding.Sound :=
  Reachable.induction (P := fun s : Simulation α => s.holding.Sound) sound_new
    (fun _ op h => sound_apply h op) hs

/-! ## The hold of the hub -/

theorem hubHold_dragTo (s : Simulation α) (place : Point α) :
    (s.dragTo place).1.hubHold = s.hubHold := by
  unfold dragTo
  split
  · rfl
  · split
    · rfl
    · rfl

/-- A frame takes one from the frames left, or ends the hold. -/
theorem hubHold_tick {hold : HubHold} (h : s.tick.hubHold = some hold) :
    ∃ before, s.hubHold = some before ∧ hold.framesLeft + 1 ≤ before.framesLeft := by
  rw [← show s.stepForces.hubHold = s.hubHold from congrArg Holding.hubHold (holding_stepForces s)]
  change s.stepForces.releaseHub.hubHold = some hold at h
  generalize s.stepForces = s at h ⊢
  unfold releaseHub at h
  split at h
  · rename_i hnone
    rw [hnone] at h
    exact absurd h.symm (Option.some_ne_none hold)
  · rename_i before hbefore
    dsimp only at h
    split at h
    · rename_i hleft
      refine ⟨before, hbefore, ?_⟩
      rw [← Option.some.inj h]
      dsimp only
      omega
    · split at h
      · exact absurd h.symm (Option.some_ne_none hold)
      · exact absurd h.symm (Option.some_ne_none hold)

theorem hubHold_apply {op : Operation α} (hload : op.loads = false) {hold : HubHold}
    (h : (s.apply op).hubHold = some hold) : ∃ before, s.hubHold = some before ∧
      hold.framesLeft + Operation.ticks [op] ≤ before.framesLeft := by
  have hsame (htick : op.isTick = false) (heq : (s.apply op).hubHold = s.hubHold) :
      ∃ before, s.hubHold = some before ∧
        hold.framesLeft + Operation.ticks [op] ≤ before.framesLeft := by
    refine ⟨hold, heq.symm.trans h, ?_⟩
    rw [Operation.ticks, List.countP_singleton, htick]
    exact Nat.le_refl _
  cases s.effect op with
  | keeps _ htick hholding => exact hsame htick (hubHold_of_holding hholding)
  | loads hloads => exact absurd (hload.symm.trans hloads) Bool.false_ne_true
  | tick => exact hubHold_tick h
  | togglePin id => exact hsame rfl (congrArg Holding.hubHold (holding_togglePin s id))
  | beginDrag i => exact hsame rfl (congrArg Holding.hubHold (holding_beginDrag s i))
  | dragTo place => exact hsame rfl (hubHold_dragTo s place)
  | endDrag => exact hsame rfl (congrArg Holding.hubHold (holding_endDrag s))

/-- Each frame that passes without a load takes one from the frames for which the hub is held. -/
theorem hubHold_run {ops : List (Operation α)} (hload : ∀ op ∈ ops, op.loads = false)
    {hold : HubHold} (h : (s.run ops).hubHold = some hold) : ∃ before, s.hubHold = some before ∧
      hold.framesLeft + Operation.ticks ops ≤ before.framesLeft := by
  induction ops generalizing s with
  | nil => exact ⟨hold, h, Nat.le_refl _⟩
  | cons op rest ih =>
    rcases ih (fun o ho => hload o (List.mem_cons_of_mem _ ho)) h with ⟨mid, hmid, hleft⟩
    rcases hubHold_apply (hload op List.mem_cons_self) hmid with ⟨before, hbefore, hone⟩
    refine ⟨before, hbefore, ?_⟩
    have hsplit : Operation.ticks (op :: rest) = Operation.ticks [op] + Operation.ticks rest := by
      change ([op] ++ rest).countP Operation.isTick = _
      exact List.countP_append
    omega

theorem hubHold_run_eq_none (hs : s.holding.Sound) {ops : List (Operation α)}
    (hload : ∀ op ∈ ops, op.loads = false) (hticks : hubHoldFrames ≤ Operation.ticks ops) :
    (s.run ops).hubHold = none := by
  cases hhold : (s.run ops).hubHold with
  | none => rfl
  | some hold =>
    rcases hubHold_run hload hhold with ⟨before, hbefore, hleft⟩
    have hfull := (hs.frames before hbefore).2
    have hpos := ((run_keeps (P := fun s : Simulation α => s.holding.Sound)
      (fun _ op _ h => sound_apply h op) hs).frames hold hhold).1
    omega

/-! ## Main result -/

theorem isPinned_run (hs : s.graph.Indexed) {id : String} {ops : List (Operation α)}
    (hops : ∀ op ∈ ops, op.loads = false ∧ op ≠ .togglePin id) :
    (s.run ops).graph.isPinned id = s.graph.isPinned id := by
  let P := fun s' : Simulation α => s'.graph.Indexed ∧ s'.graph.isPinned id = s.graph.isPinned id
  have hkeep : P (s.run ops) := by
    refine run_keeps (fun s' op hop h => ?_) ⟨hs, rfl⟩
    rcases hops op hop with ⟨hload, hpin⟩
    exact ⟨h.1.of_shape (shape_apply s' hload), (isPinned_apply h.1 hload hpin).trans h.2⟩
  exact hkeep.2

/-- In every state that is reached, pinned and dragged nodes are fixed, a fixed node is pinned or
dragged or the held hub and stands still at its place; once 39 frames have passed since the last
load the hub's hold is over for good; and a pin stays until it is taken away. -/
theorem Reachable.fixed_node_cause (hs : s.Reachable) :
    (∀ n ∈ s.graph.nodes,
      (n.pinned = true ∨ s.dragging = some n.id → n.fixed.isSome = true) ∧
      (n.fixed.isSome = true → n.pinned = true ∨ s.dragging = some n.id ∨
        ∃ hold, s.hubHold = some hold ∧ hold.id = n.id) ∧
      ∀ place, n.fixed = some place → n.position = place ∧ n.velocity = ⟨0, 0⟩) ∧
    (∀ ops : List (Operation α), (∀ op ∈ ops, op.loads = false) → 39 ≤ Operation.ticks ops →
      (s.run ops).hubHold = none ∧ ∀ n ∈ (s.run ops).graph.nodes,
        (n.fixed.isSome = true ↔ n.pinned = true ∨ (s.run ops).dragging = some n.id)) ∧
    (∀ n ∈ s.graph.nodes, n.pinned = true → ∀ ops : List (Operation α),
      (∀ op ∈ ops, op.loads = false ∧ op ≠ .togglePin n.id) →
        ∃ m ∈ (s.run ops).graph.nodes, m.id = n.id ∧ m.pinned = true) := by
  have hsound := hs.sound
  refine ⟨fun n hn => ?_, fun ops hload hticks => ?_, fun n hn hp ops hops => ?_⟩
  · have hacc := hsound.nodes n hn
    refine ⟨fun h => h.elim hacc.pin hacc.drag, fun h => ?_, hacc.rests⟩
    rcases hacc.cause h with hp | hd | hh
    · exact Or.inl hp
    · exact Or.inr (Or.inl hd)
    · exact Or.inr (Or.inr (Option.map_eq_some_iff.mp hh))
  · have hnone := hubHold_run_eq_none hsound hload hticks
    refine ⟨hnone, fun n hn => ?_⟩
    have hacc := (hs.run ops).sound.nodes n hn
    refine ⟨fun h => ?_, fun h => h.elim hacc.pin hacc.drag⟩
    -- the third cause is excluded, for the hold is over
    rcases hacc.cause h with hp | hd | hh
    · exact Or.inl hp
    · exact Or.inr hd
    · rw [show (s.run ops).holding.hubHold = none from hnone] at hh
      exact absurd hh.symm (Option.some_ne_none _)
  · have hi := hs.indexed
    have hpin : s.graph.isPinned n.id = true := (Graph.isPinned_iff hi n.id).mpr ⟨n, hn, rfl, hp⟩
    rw [← isPinned_run hi hops] at hpin
    exact (Graph.isPinned_iff (hs.run ops).indexed n.id).mp hpin

/-- The pair with one node pinned and the other, the held hub, dragged. -/
def heldPair : Simulation Float := pair.run [.togglePin "B", .beginDrag 0]

theorem fixed_node_cause_pair :
    heldPair.Reachable ∧ heldPair.hubHold = some ⟨"A", 39⟩ ∧ heldPair.dragging = some "A" ∧
      heldPair.graph.isPinned "B" = true ∧
      (heldPair.run (List.replicate 39 .tick)).hubHold = none ∧
      (∀ n ∈ (heldPair.run (List.replicate 39 .tick)).graph.nodes, (n.fixed.isSome = true ↔
        n.pinned = true ∨ (heldPair.run (List.replicate 39 .tick)).dragging = some n.id)) ∧
      ∃ m ∈ (heldPair.run (List.replicate 39 .tick)).graph.nodes, m.id = "B" ∧ m.pinned = true := by
  have hreach : heldPair.Reachable := reachable_pair.run _
  have hpin : heldPair.graph.isPinned "B" = true := by decide +kernel
  rcases hreach.fixed_node_cause with ⟨-, hlater, hkept⟩
  rcases (Graph.isPinned_iff hreach.indexed "B").mp hpin with ⟨n, hn, hid, hp⟩
  have hticks : ∀ op ∈ List.replicate 39 (Operation.tick : Operation Float),
      op.loads = false ∧ op ≠ .togglePin n.id := by
    intro op hop
    rw [List.eq_of_mem_replicate hop]
    exact ⟨rfl, nofun⟩
  have hend := hlater (List.replicate 39 .tick) (fun op hop => (hticks op hop).1) (by decide)
  refine ⟨hreach, by decide +kernel, by decide +kernel, hpin, hend.1, hend.2, ?_⟩
  rw [← hid]
  exact hkept n hn hp _ hticks

end Simulation
end NodeLink
