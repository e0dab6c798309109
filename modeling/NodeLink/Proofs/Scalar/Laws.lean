import NodeLink.Scalar.Binary
/-!
# Laws of scalars

What the theory asks of a type of scalars, each law in a class of its own, so that a statement says
which arithmetic it needs. Binary floating point has both.

* `Scalar.FiniteOperands`: a finite sum or product has finite operands.
* `Scalar.Saturating`: whole parts stay within the signed integers of 32 bits.
-/

namespace NodeLink

namespace Scalar

/-- What is not finite makes every sum and every product not finite that it enters. -/
class FiniteOperands (α : Type) [Scalar α] : Prop where
  finite_zero : isFinite (0 : α) = true
  finite_of_add : ∀ a b : α, isFinite (a + b) = true → isFinite a = true ∧ isFinite b = true
  finite_of_mul : ∀ a b : α, isFinite (a * b) = true → isFinite a = true ∧ isFinite b = true

/-- No whole part leaves the signed integers of 32 bits. -/
class Saturating (α : Type) [Scalar α] : Prop where
  toInt32_range : ∀ a : α, -2147483648 ≤ toInt32 a ∧ toInt32 a ≤ 2147483647

end Scalar

/-! ## Floats -/

namespace Binary64

theorem toIntWithin_range {lo hi : Int} (hlo : lo ≤ 0) (hhi : 0 ≤ hi) (x : Binary64) :
    lo ≤ x.toIntWithin lo hi ∧ x.toIntWithin lo hi ≤ hi := by
  unfold toIntWithin
  split
  · exact ⟨hlo, hhi⟩
  · split
    · omega
    · omega
  · dsimp only
    generalize hwhole : (if x.isNegative then _ else _ : Int) = whole
    omega

end Binary64

open Float.Model in
theorem isFinite_of_pack {x : UnpackedFloat} (hx : (pack x).isFinite = true) :
    x.isFinite = true := by
  cases x with
  | infinity s =>
    cases s with
    | positive => exact absurd hx (by decide)
    | negative => exact absurd hx (by decide)
  | notANumber => exact absurd hx (by decide)
  | zero s => rfl
  | finite s m e hm => rfl

open Float.Model in
theorem isFinite_of_unpackedAdd {spec : Format} {x y : UnpackedFloat}
    (h : (UnpackedFloat.add spec x y).isFinite = true) :
    x.isFinite = true ∧ y.isFinite = true := by
  cases x with
  | notANumber => exact absurd h Bool.false_ne_true
  | infinity s => cases y with
    | notANumber => exact absurd h Bool.false_ne_true
    | infinity t => cases s <;> cases t <;> exact absurd h Bool.false_ne_true
    | zero t => exact absurd h Bool.false_ne_true
    | finite t m e hm => exact absurd h Bool.false_ne_true
  | zero s => cases y with
    | notANumber => exact absurd h Bool.false_ne_true
    | infinity t => exact absurd h Bool.false_ne_true
    | zero t => exact ⟨rfl, rfl⟩
    | finite t m e hm => exact ⟨rfl, rfl⟩
  | finite s m e hm => cases y with
    | notANumber => exact absurd h Bool.false_ne_true
    | infinity t => exact absurd h Bool.false_ne_true
    | zero t => exact ⟨rfl, rfl⟩
    | finite t m e hm => exact ⟨rfl, rfl⟩

open Float.Model in
theorem isFinite_of_unpackedMul {spec : Format} {x y : UnpackedFloat}
    (h : (UnpackedFloat.mul spec x y).isFinite = true) :
    x.isFinite = true ∧ y.isFinite = true := by
  cases x with
  | notANumber => exact absurd h Bool.false_ne_true
  | infinity s => cases y with
    | notANumber => exact absurd h Bool.false_ne_true
    | infinity t => exact absurd h Bool.false_ne_true
    | zero t => exact absurd h Bool.false_ne_true
    | finite t m e hm => exact absurd h Bool.false_ne_true
  | zero s => cases y with
    | notANumber => exact absurd h Bool.false_ne_true
    | infinity t => exact absurd h Bool.false_ne_true
    | zero t => exact ⟨rfl, rfl⟩
    | finite t m e hm => exact ⟨rfl, rfl⟩
  | finite s m e hm => cases y with
    | notANumber => exact absurd h Bool.false_ne_true
    | infinity t => exact absurd h Bool.false_ne_true
    | zero t => exact ⟨rfl, rfl⟩
    | finite t m e hm => exact ⟨rfl, rfl⟩

instance : Scalar.FiniteOperands Float where
  finite_zero := by decide
  finite_of_add _ _ h := isFinite_of_unpackedAdd (isFinite_of_pack h)
  finite_of_mul _ _ h := isFinite_of_unpackedMul (isFinite_of_pack h)

instance : Scalar.Saturating Float where
  toInt32_range a := Binary64.toIntWithin_range (by decide) (by decide) (Binary64.ofFloat a)

end NodeLink
