import NodeLink.Proofs.Highlight.Fade
/-!
# Intensities stay in range

Whatever is hovered and however much time passes, each intensity that is stored is above the
threshold and at most one, and an id that is not stored reads zero. While an id is a target its node
intensity does not fall, since only time changes it, and time brightens targets; it may stay at zero
as long as what it gains is still below the threshold.

* `Highlight.Ranged`: the invariant, for the intensities of nodes beside those of hovers.
* `Highlight.Ranged.nodeAt_le_perform`: targets do not get darker.
* `Highlight.Ranged.edgeAt_comm`, `edgeAt_range`: the intensities of links.
-/

namespace NodeLink.Highlight

open Exact

/-- Targets stand once, and so do ids with a node intensity, which is bright. -/
structure Ranged (h : Highlight Exact) : Prop extends Lit h where
  distinct : h.targets.Nodup
  nodeKeys : (keys h.nodeIntensity).Nodup
  nodesBright : ∀ id v, h.nodeIntensity.lookup id = some v → Bright v

theorem ranged_empty : ({} : Highlight Exact).Ranged where
  toLit := lit_empty
  distinct := List.nodup_nil
  nodeKeys := List.nodup_nil
  nodesBright _ _ hv := absurd hv.symm (Option.some_ne_none _)

variable {h : Highlight Exact}

namespace Ranged

theorem setHover (hh : h.Ranged) (node : Option String) (neighbors : List String) :
    (h.setHover node neighbors).Ranged where
  toLit := hh.toLit.setHover node neighbors
  distinct := nodup_targets_setHover hh.distinct node neighbors
  nodeKeys := by
    rw [nodeIntensity_setHover]
    exact hh.nodeKeys
  nodesBright := by
    rw [nodeIntensity_setHover]
    exact hh.nodesBright

theorem tick (hh : h.Ranged) (dt : NNReal) : (h.tick (real dt)).Ranged where
  toLit := hh.toLit.tick dt
  distinct := hh.distinct
  nodeKeys := nodup_keys_nodeIntensity_tick hh.nodeKeys _
  nodesBright id v hv := by
    rw [lookup_nodeIntensity_tick hh.distinct hh.nodeKeys] at hv
    exact bright_of_ticked (hh.nodesBright id) hv

theorem perform (hh : h.Ranged) (act : Act) : (h.perform act).Ranged := by
  cases act with
  | setHover node neighbors => exact hh.setHover node neighbors
  | tick dt => exact hh.tick dt
  | clear => exact ranged_empty

/-! ## Reading -/

/-- Each intensity that is stored, of a node or of its hover effect, is bright. -/
theorem stored_bright (hh : h.Ranged) {id : String} {v : Exact}
    (hv : (id, v) ∈ h.nodeIntensity ∨ (id, v) ∈ h.hoverIntensity) : Bright v := by
  rcases hv with hnode | hhover
  · exact hh.nodesBright id v (lookup_of_mem_nodup hh.nodeKeys hnode)
  · exact hh.bright id v (lookup_of_mem_nodup hh.hoverKeys hhover)

theorem nodeAt_range (hh : h.Ranged) (id : String) :
    ∃ x : ℝ, h.nodeAt id = real x ∧ 0 ≤ x ∧ x ≤ 1 := valueOf_range (hh.nodesBright id)

theorem edgeAt_comm (hh : h.Ranged) (a b : String) : h.edgeAt a b = h.edgeAt b a := by
  obtain ⟨x, hx, -, -⟩ := hh.nodeAt_range a
  obtain ⟨y, hy, -, -⟩ := hh.nodeAt_range b
  rw [edgeAt, edgeAt, hx, hy, real_mul, real_mul, mul_comm]

theorem edgeAt_range (hh : h.Ranged) (a b : String) :
    ∃ x : ℝ, h.edgeAt a b = real x ∧ 0 ≤ x ∧ x ≤ 1 := by
  obtain ⟨x, hx, hlow, hhigh⟩ := hh.nodeAt_range a
  obtain ⟨y, hy, hlow', hhigh'⟩ := hh.nodeAt_range b
  have hproduct : x * y ≤ 1 := mul_le_one₀ hhigh hlow' hhigh'
  refine ⟨√(x * y), ?_, Real.sqrt_nonneg _, Real.sqrt_le_one.mpr hproduct⟩
  rw [edgeAt, hx, hy, real_mul, sqrt_real (mul_nonneg hlow hlow')]

theorem edgeAt_bounds (hh : h.Ranged) (a b : String) : 0 ≤ h.edgeAt a b ∧ h.edgeAt a b ≤ 1 := by
  obtain ⟨x, hx, hlow, hhigh⟩ := hh.edgeAt_range a b
  rw [hx, literal_eq, literal_eq, real_le, real_le, Nat.cast_zero, Nat.cast_one]
  exact ⟨hlow, hhigh⟩

/-! ## Targets -/

/-- Time makes a bright intensity no darker, and it stays bright. -/
theorem bright_gain {x : ℝ} (hx : 0.005 < x) (hle : x ≤ 1) (dt : NNReal) :
    x ≤ x + (1 - x) * (1 - Real.exp (-6 * dt)) ∧
      Bright (real (x + (1 - x) * (1 - Real.exp (-6 * dt)))) := by
  have hin : Real.exp (-6 * dt) ≤ 1 := Real.exp_le_one_iff.mpr (by linarith [dt.coe_nonneg])
  have hgain : x ≤ x + (1 - x) * (1 - Real.exp (-6 * dt)) :=
    le_add_of_nonneg_right (mul_nonneg (by linarith) (by linarith))
  have hhigh := (brightened_range (by linarith) hle (Real.exp_pos (-6 * dt)).le hin).2
  exact ⟨hgain, _, rfl, hx.trans_le hgain, hhigh⟩

theorem nodeAt_le_tick (hh : h.Ranged) {id : String} (hid : id ∈ h.targets) (dt : NNReal) :
    h.nodeAt id ≤ (h.tick (real dt)).nodeAt id := by
  obtain ⟨y, hy, hnonneg, -⟩ := (hh.tick dt).nodeAt_range id
  cases hlookup : h.nodeIntensity.lookup id with
  | none =>
    rw [hy, nodeAt, valueOf, hlookup, Option.getD_none, literal_eq, real_le, Nat.cast_zero]
    exact hnonneg
  | some v =>
    obtain ⟨x, rfl, hx, hle⟩ := hh.nodesBright id v hlookup
    obtain ⟨hgain, hbright⟩ := bright_gain hx hle dt
    have hbefore : h.nodeAt id = real x := by rw [nodeAt, valueOf, hlookup, Option.getD_some]
    have hafter : (h.tick (real dt)).nodeAt id =
        real (x + (1 - x) * (1 - Real.exp (-6 * dt))) := by
      rw [nodeAt, valueOf, lookup_nodeIntensity_tick hh.distinct hh.nodeKeys, if_pos hid, hbefore,
        fadeIn_real, literal_eq, real_sub, real_mul, real_add, Nat.cast_one, Option.bind_some,
        decide_eq_true hid, Bool.true_or, faded_stands hbright, Option.getD_some]
    rw [hbefore, hafter, real_le]
    exact hgain

/-- An id that is a target before and after an act does not get darker. -/
theorem nodeAt_le_perform (hh : h.Ranged) {id : String} (hid : id ∈ h.targets) {act : Act}
    (hnext : id ∈ (h.perform act).targets) : h.nodeAt id ≤ (h.perform act).nodeAt id := by
  cases act with
  | setHover node neighbors =>
    obtain ⟨x, hx, -, -⟩ := hh.nodeAt_range id
    rw [Highlight.perform, nodeAt, nodeAt, nodeIntensity_setHover, ← nodeAt, hx, real_le]
  | tick dt => exact hh.nodeAt_le_tick hid dt
  | clear => exact absurd hnext List.not_mem_nil

end Ranged

end NodeLink.Highlight
