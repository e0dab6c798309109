import NodeLink.Proofs.Scalar.Exact
import NodeLink.Proofs.Settings.Repair
/-!
# Settings in exact arithmetic

Exact scalars are in order as scalars are, so repair makes exact settings valid too. What is valid
there is a real number in a range.

* `ForceParams.valid_sanitized`, `Valid.isFinite`: repaired parameters of the force model.
* `Exact.exists_nonneg`: a valid value that is not negative is a real number.
-/

namespace NodeLink

namespace Exact

open Scalar

theorem real_beq_iff {x y : ℝ} : (real x == real y) = true ↔ ¬x < y ∧ ¬y < x := by
  rw [real_beq, not_lt, not_lt, and_comm, ← le_antisymm_iff]

theorem eq_of_beq {a b : Exact} (h : (a == b) = true) : a = b := by
  cases a with
  | real x =>
    cases b with
    | real y => rw [(real_beq x y).mp h]
    | infinity t => exact absurd h Bool.false_ne_true
    | nan => exact absurd h Bool.false_ne_true
  | infinity s =>
    cases b with
    | real y => exact absurd h Bool.false_ne_true
    | infinity t => exact congrArg infinity (beq_iff_eq.mp h)
    | nan => exact absurd h Bool.false_ne_true
  | nan => exact absurd h Bool.false_ne_true

theorem abs_idem (a : Exact) : Scalar.abs (Scalar.abs a) = Scalar.abs a := by
  cases a with
  | real x => exact congrArg real (abs_abs x)
  | infinity s => rfl
  | nan => rfl

instance : Ordered Exact where
  finite_zero := rfl
  finite_one := rfl
  zero_lt_one := (Positive.literal 0).zero_lt
  beq_iff ha hb := by
    obtain ⟨x, rfl⟩ := finite_iff.mp ha
    obtain ⟨y, rfl⟩ := finite_iff.mp hb
    exact real_beq_iff
  le_iff ha hb := by
    obtain ⟨x, rfl⟩ := finite_iff.mp ha
    obtain ⟨y, rfl⟩ := finite_iff.mp hb
    rw [real_le, real_lt, not_lt]
  lt_asymm ha hb h := by
    obtain ⟨x, rfl⟩ := finite_iff.mp ha
    obtain ⟨y, rfl⟩ := finite_iff.mp hb
    exact not_lt_of_gt ((real_lt x y).mp h)
  lt_or_lt ha hb hc h := by
    obtain ⟨x, rfl⟩ := finite_iff.mp ha
    obtain ⟨y, rfl⟩ := finite_iff.mp hb
    obtain ⟨z, rfl⟩ := finite_iff.mp hc
    exact (lt_or_ge x y).imp_right fun hyx => lt_of_le_of_lt hyx ((real_lt x z).mp h)
  finite_of_beq h ha := eq_of_beq h ▸ ha
  finite_abs ha := by
    obtain ⟨x, rfl⟩ := finite_iff.mp ha
    rfl
  abs_not_neg ha := by
    obtain ⟨x, rfl⟩ := finite_iff.mp ha
    rw [abs_real, literal_eq, real_lt, Nat.cast_zero, not_lt]
    exact abs_nonneg x
  abs_beq ha h := by
    obtain ⟨x, rfl⟩ := finite_iff.mp ha
    rw [literal_eq, real_lt, Nat.cast_zero, not_lt] at h
    rw [abs_real, real_beq, abs_of_nonneg h]
  abs_abs := abs_idem

theorem exists_nonneg {a : Exact} (ha : Scalar.NonNegative a) : ∃ x : ℝ, 0 ≤ x ∧ a = real x := by
  obtain ⟨hfinite, hle⟩ := ha
  obtain ⟨x, rfl⟩ := finite_iff.mp hfinite
  rw [literal_eq, real_le, Nat.cast_zero] at hle
  exact ⟨x, hle, rfl⟩

end Exact

theorem ForceParams.valid_standard : (standard : ForceParams Exact).Valid := by
  simp only [valid_iff, standard, Scalar.NonNegative, Scalar.Finite, Scalar.InUnit,
    Scalar.PositiveInUnit, Scalar.Positive, Exact.literal_eq, Exact.decimal_eq, Exact.isFinite_real,
    Exact.real_le, Exact.real_lt]
  norm_num

theorem ForceParams.Valid.isFinite {p : ForceParams Exact} (hp : p.Valid) :
    ∀ field ∈ p.fields, Scalar.isFinite field.2 = true := by
  simp only [fields, List.forall_mem_cons]
  exact ⟨hp.linkDistance.1, hp.linkStiffness.1, hp.springMax.1, hp.repulsion.1, hp.repulsionMax.1,
    hp.centerStrength, hp.damping.1, hp.collisionPadding, hp.collisionStrength.1, hp.step.1,
    hp.cellSize.1, hp.energyDecay.1, hp.energyFloor.1, hp.epsilon.1,
    fun _ h => absurd h List.not_mem_nil⟩

theorem ForceParams.valid_sanitized (p : ForceParams Exact) : p.sanitized.Valid :=
  (repairs valid_standard).passes p

end NodeLink
