import Mathlib.Analysis.SpecialFunctions.Pow.Real
import NodeLink.Proofs.Scalar.Laws
/-!
# Exact scalars

The scalars of exact arithmetic: the real numbers, and besides them the two infinities and no
number, which come up as in floating point. A finite scalar is a real number, and operations on
finite scalars do not round; division by zero and the like leave the finite ones. There is one
zero, read as positive where a sign would matter.

* `Exact.real_add` and its kind: arithmetic on finite scalars is that of the reals.
* `Exact.add_right_comm`: sums may be taken in any order, those that are not finite included.
* `Exact.finite_iff`: what is finite is a real number.
-/

namespace NodeLink

/-- A real number, an infinity with its sign, or no number. -/
inductive Exact where
  | real (x : ℝ)
  | infinity (negative : Bool)
  | nan

namespace Exact

/-! ## Operations -/

noncomputable section

open Classical

def neg : Exact → Exact
  | real x => real (-x)
  | infinity s => infinity (!s)
  | nan => nan

def add : Exact → Exact → Exact
  | nan, _ => nan
  | _, nan => nan
  | infinity s, infinity t => if s = t then infinity s else nan
  | infinity s, real _ => infinity s
  | real _, infinity t => infinity t
  | real x, real y => real (x + y)

/-- An infinity times a real number: of the sign of both, and no number for zero. -/
def scaleInfinity (s : Bool) (x : ℝ) : Exact :=
  if x = 0 then nan else infinity (s ^^ decide (x < 0))

def mul : Exact → Exact → Exact
  | nan, _ => nan
  | _, nan => nan
  | infinity s, infinity t => infinity (s ^^ t)
  | infinity s, real y => scaleInfinity s y
  | real x, infinity t => scaleInfinity t x
  | real x, real y => real (x * y)

def div : Exact → Exact → Exact
  | nan, _ => nan
  | _, nan => nan
  | infinity _, infinity _ => nan
  | infinity s, real y => infinity (s ^^ decide (y < 0))
  | real _, infinity _ => real 0
  | real x, real y => if y = 0 then scaleInfinity false x else real (x / y)

def lt : Exact → Exact → Prop
  | real x, real y => x < y
  | real _, infinity t => t = false
  | infinity s, real _ => s = true
  | infinity s, infinity t => s = true ∧ t = false
  | nan, _ => False
  | _, nan => False

def le : Exact → Exact → Prop
  | real x, real y => x ≤ y
  | real _, infinity t => t = false
  | infinity s, real _ => s = true
  | infinity s, infinity t => s = true ∨ t = false
  | nan, _ => False
  | _, nan => False

def beq : Exact → Exact → Bool
  | real x, real y => decide (x = y)
  | infinity s, infinity t => s == t
  | _, _ => false

def isFinite : Exact → Bool
  | real _ => true
  | infinity _ => false
  | nan => false

def abs : Exact → Exact
  | real x => real |x|
  | infinity _ => infinity false
  | nan => nan

def sqrt : Exact → Exact
  | real x => if x < 0 then nan else real (Real.sqrt x)
  | infinity s => if s then nan else infinity false
  | nan => nan

def floor : Exact → Exact
  | real x => real ⌊x⌋
  | infinity s => infinity s
  | nan => nan

def exp : Exact → Exact
  | real x => real (Real.exp x)
  | infinity s => if s then real 0 else infinity false
  | nan => nan

/-- A function of the reals that has no value at the infinities. -/
def periodic (f : ℝ → ℝ) : Exact → Exact
  | real x => real (f x)
  | infinity _ => nan
  | nan => nan

def IsOdd (y : ℝ) : Prop := ∃ n : ℤ, y = 2 * n + 1

def pow : Exact → Exact → Exact
  | real x, real y =>
    if x < 0 ∧ ∀ n : ℤ, y ≠ n then nan
    else if x = 0 ∧ y < 0 then infinity false
    else real (x ^ y)
  | infinity s, real y =>
    if y = 0 then real 1 else if y < 0 then real 0 else infinity (s && decide (IsOdd y))
  | nan, real y => if y = 0 then real 1 else nan
  | real x, infinity t =>
    if |x| = 1 then real 1 else if decide (1 < |x|) = t then real 0 else infinity false
  | infinity _, infinity t => if t then real 0 else infinity false
  | nan, infinity _ => nan
  | real x, nan => if x = 1 then real 1 else nan
  | _, nan => nan

def toIntWithin (lo hi : Int) : Exact → Int
  | real x => max lo (min hi (if x < 0 then ⌈x⌉ else ⌊x⌋))
  | infinity s => if s then lo else hi
  | nan => 0

def ofBinary64 (x : Binary64) : Exact :=
  match x.magnitude with
  | .finite m e => real ((if x.isNegative then -1 else 1) * m * 2 ^ e)
  | .infinite => infinity x.isNegative
  | .nan => nan

instance : Scalar Exact where
  add := add
  sub a b := a.add b.neg
  mul := mul
  div := div
  neg := neg
  lt := lt
  le := le
  beq := beq
  decLt _ _ := propDecidable _
  decLe _ _ := propDecidable _
  ofNat n := real n
  ofScientific m s e := real (OfScientific.ofScientific m s e)
  ofBinary64 := ofBinary64
  isFinite := isFinite
  abs := abs
  sqrt := sqrt
  floor := floor
  sin := periodic Real.sin
  cos := periodic Real.cos
  exp := exp
  pow := pow
  pi := real Real.pi
  toIntWithin := toIntWithin

end

/-! ## Finite scalars -/

variable (x y : ℝ)

@[simp] theorem literal_eq (n : ℕ) : (OfNat.ofNat n : Exact) = real n := rfl

@[simp] theorem decimal_eq (m : ℕ) (s : Bool) (e : ℕ) :
    (OfScientific.ofScientific m s e : Exact) = real (OfScientific.ofScientific m s e) := rfl

@[simp] theorem real_add : real x + real y = real (x + y) := rfl

@[simp] theorem real_neg : -real x = real (-x) := rfl

@[simp] theorem real_sub : real x - real y = real (x - y) :=
  congrArg real (sub_eq_add_neg x y).symm

@[simp] theorem real_mul : real x * real y = real (x * y) := rfl

theorem real_div {y : ℝ} (hy : y ≠ 0) : real x / real y = real (x / y) := if_neg hy

@[simp] theorem real_lt : real x < real y ↔ x < y := Iff.rfl

@[simp] theorem real_le : real x ≤ real y ↔ x ≤ y := Iff.rfl

@[simp] theorem real_beq : (real x == real y) = true ↔ x = y := decide_eq_true_iff

@[simp] theorem isFinite_real : Scalar.isFinite (real x) = true := rfl

@[simp] theorem abs_real : Scalar.abs (real x) = real |x| := rfl

@[simp] theorem floor_real : Scalar.floor (real x) = real ⌊x⌋ := rfl

@[simp] theorem exp_real : Scalar.exp (real x) = real (Real.exp x) := rfl

theorem sqrt_real {x : ℝ} (hx : 0 ≤ x) : Scalar.sqrt (real x) = real √x := if_neg (not_lt.mpr hx)

theorem pow_real {x : ℝ} (hx : 0 < x) : Scalar.pow (real x) (real y) = real (x ^ y) := by
  show pow (real x) (real y) = real (x ^ y)
  rw [pow, if_neg fun h => not_lt.mpr hx.le h.1, if_neg fun h => hx.ne' h.1]

@[simp] theorem isNaN_real : Scalar.isNaN (real x) = false := by
  show (!(real x == real x)) = false
  rw [(real_beq x x).mpr rfl, Bool.not_true]

@[simp] theorem isNaN_infinity (s : Bool) : Scalar.isNaN (infinity s) = false := by
  show (!(s == s)) = false
  rw [beq_self_eq_true, Bool.not_true]

@[simp] theorem isNaN_nan : Scalar.isNaN nan = true := rfl

/-- What is not below a real number is at or above it, or it is no number. -/
theorem not_lt_real_iff (a : Exact) : ¬a < real y ↔ real y ≤ a ∨ Scalar.isNaN a = true := by
  cases a with
  | real x => rw [real_lt, real_le, not_lt, isNaN_real, or_iff_left Bool.false_ne_true]
  | nan => exact iff_of_true not_false (.inr rfl)
  | infinity s =>
    rw [isNaN_infinity, or_iff_left Bool.false_ne_true]
    exact iff_of_eq (Bool.not_eq_true s)

@[simp] theorem max_real : Scalar.max (real x) (real y) = real (max x y) := by
  simp only [Scalar.max, isNaN_real, Bool.false_eq_true, if_false, real_lt]
  rw [max_def_lt]
  split
  · rfl
  · rfl

@[simp] theorem min_real : Scalar.min (real x) (real y) = real (min x y) := by
  simp only [Scalar.min, isNaN_real, Bool.false_eq_true, if_false, real_lt]
  rw [min_comm, min_def_lt]
  split
  · rfl
  · rfl

@[simp] theorem clamp_real (lo hi : ℝ) : Scalar.clamp (real lo) (real hi) (real x) =
    real (if x < lo then lo else if hi < x then hi else x) := by
  simp only [Scalar.clamp, real_lt]
  split
  · rfl
  · split
    · rfl
    · rfl

theorem finite_iff {a : Exact} : Scalar.isFinite a = true ↔ ∃ x, a = real x := by
  cases a with
  | real x => exact iff_of_true rfl ⟨x, rfl⟩
  | infinity s => exact iff_of_false Bool.false_ne_true (fun ⟨_, h⟩ => Exact.noConfusion h)
  | nan => exact iff_of_false Bool.false_ne_true (fun ⟨_, h⟩ => Exact.noConfusion h)

/-! ## Order -/

theorem le_trans {a b c : Exact} (hab : a ≤ b) (hbc : b ≤ c) : a ≤ c := by
  change le a b at hab
  change le b c at hbc
  show le a c
  cases b with
  | nan => cases a <;> exact False.elim hab
  | real y =>
    cases a with
    | nan => exact False.elim hab
    | real x =>
      cases c with
      | real z => exact show x ≤ z from (show x ≤ y from hab).trans hbc
      | infinity t => exact hbc
      | nan => exact False.elim hbc
    | infinity s =>
      cases c with
      | real z => exact hab
      | infinity t => exact Or.inl hab
      | nan => exact False.elim hbc
  | infinity s =>
    cases a with
    | nan => exact False.elim hab
    | real x =>
      have hs : s = false := hab
      cases c with
      | real z => exact absurd (hs.symm.trans hbc) Bool.false_ne_true
      | infinity t => exact hbc.resolve_left fun h => absurd (hs.symm.trans h) Bool.false_ne_true
      | nan => exact False.elim hbc
    | infinity r =>
      cases c with
      | real z => exact hab.resolve_right fun h => absurd (h.symm.trans hbc) Bool.false_ne_true
      | infinity t =>
        rcases hab with hr | hs
        · exact Or.inl hr
        · exact Or.inr (hbc.resolve_left fun h => absurd (hs.symm.trans h) Bool.false_ne_true)
      | nan => exact False.elim hbc

instance : Trans (fun a b : Exact => a ≤ b) (fun a b : Exact => a ≤ b) fun a b : Exact => a ≤ b :=
  ⟨le_trans⟩

/-! ## Arithmetic stays finite -/

section Finite

variable {a b : Exact}

theorem finite_add (ha : Scalar.isFinite a = true) (hb : Scalar.isFinite b = true) :
    Scalar.isFinite (a + b) = true := by
  obtain ⟨x, rfl⟩ := finite_iff.mp ha
  obtain ⟨y, rfl⟩ := finite_iff.mp hb
  rfl

theorem finite_sub (ha : Scalar.isFinite a = true) (hb : Scalar.isFinite b = true) :
    Scalar.isFinite (a - b) = true := by
  obtain ⟨x, rfl⟩ := finite_iff.mp ha
  obtain ⟨y, rfl⟩ := finite_iff.mp hb
  rfl

theorem finite_mul (ha : Scalar.isFinite a = true) (hb : Scalar.isFinite b = true) :
    Scalar.isFinite (a * b) = true := by
  obtain ⟨x, rfl⟩ := finite_iff.mp ha
  obtain ⟨y, rfl⟩ := finite_iff.mp hb
  rfl

theorem finite_max (ha : Scalar.isFinite a = true) (hb : Scalar.isFinite b = true) :
    Scalar.isFinite (Scalar.max a b) = true := by
  obtain ⟨x, rfl⟩ := finite_iff.mp ha
  obtain ⟨y, rfl⟩ := finite_iff.mp hb
  rw [max_real, isFinite_real]

theorem finite_floor (ha : Scalar.isFinite a = true) :
    Scalar.isFinite (Scalar.floor a) = true := by
  obtain ⟨x, rfl⟩ := finite_iff.mp ha
  rfl

theorem finite_clamp {lo hi : Exact} (hlo : Scalar.isFinite lo = true)
    (hhi : Scalar.isFinite hi = true) (ha : Scalar.isFinite a = true) :
    Scalar.isFinite (Scalar.clamp lo hi a) = true := by
  unfold Scalar.clamp
  split
  · exact hlo
  · split
    · exact hhi
    · exact ha

/-- A finite scalar that is clamped to a range lies in it. -/
theorem clamp_mem {lo hi : Exact} (hlo : Scalar.isFinite lo = true)
    (hhi : Scalar.isFinite hi = true) (ha : Scalar.isFinite a = true) (h : lo ≤ hi) :
    lo ≤ Scalar.clamp lo hi a ∧ Scalar.clamp lo hi a ≤ hi := by
  obtain ⟨x, rfl⟩ := finite_iff.mp ha
  obtain ⟨l, rfl⟩ := finite_iff.mp hlo
  obtain ⟨u, rfl⟩ := finite_iff.mp hhi
  unfold Scalar.clamp
  rw [real_le] at h
  split
  · exact ⟨le_refl l, h⟩
  · split
    · exact ⟨h, le_refl u⟩
    · next hlow hhigh =>
      rw [real_lt] at hlow hhigh
      exact ⟨(real_le l x).mpr (not_lt.mp hlow), (real_le x u).mpr (not_lt.mp hhigh)⟩

end Finite

/-! ## Positive scalars -/

/-- Finite and above zero. -/
def Positive (a : Exact) : Prop := ∃ x : ℝ, 0 < x ∧ a = real x

namespace Positive

variable {a b : Exact}

theorem finite (ha : a.Positive) : Scalar.isFinite a = true := by
  obtain ⟨x, -, rfl⟩ := ha
  rfl

theorem zero_lt (ha : a.Positive) : 0 < a := by
  obtain ⟨x, hx, rfl⟩ := ha
  rw [literal_eq, real_lt, Nat.cast_zero]
  exact hx

theorem of_finite (hfinite : Scalar.isFinite a = true) (hpos : 0 < a) : a.Positive := by
  obtain ⟨x, rfl⟩ := finite_iff.mp hfinite
  rw [literal_eq, real_lt, Nat.cast_zero] at hpos
  exact ⟨x, hpos, rfl⟩

theorem literal (n : ℕ) : (OfNat.ofNat (n + 1) : Exact).Positive :=
  ⟨(n + 1 : ℕ), Nat.cast_pos.mpr n.succ_pos, rfl⟩

/-- What lies between positive scalars is positive. -/
theorem of_between (ha : a.Positive) (hb : b.Positive) {c : Exact} (hac : a ≤ c) (hcb : c ≤ b) :
    c.Positive := by
  obtain ⟨x, hx, rfl⟩ := ha
  obtain ⟨y, -, rfl⟩ := hb
  cases c with
  | real z => exact ⟨z, lt_of_lt_of_le hx hac, rfl⟩
  | infinity s =>
    have hupper : s = false := hac
    have hlower : s = true := hcb
    exact absurd (hlower.symm.trans hupper) (by decide)
  | nan => exact False.elim hac

theorem mul (ha : a.Positive) (hb : b.Positive) : (a * b).Positive := by
  obtain ⟨x, hx, rfl⟩ := ha
  obtain ⟨y, hy, rfl⟩ := hb
  exact ⟨x * y, mul_pos hx hy, rfl⟩

theorem min (ha : a.Positive) (hb : b.Positive) : (Scalar.min a b).Positive := by
  obtain ⟨x, hx, rfl⟩ := ha
  obtain ⟨y, hy, rfl⟩ := hb
  exact ⟨Min.min x y, lt_min hx hy, min_real x y⟩

theorem max (ha : a.Positive) (hb : b.Positive) : (Scalar.max a b).Positive := by
  obtain ⟨x, hx, rfl⟩ := ha
  obtain ⟨y, hy, rfl⟩ := hb
  exact ⟨Max.max x y, lt_max_of_lt_left hx, max_real x y⟩

theorem min_le_max (ha : a.Positive) (hb : b.Positive) : Scalar.min a b ≤ Scalar.max a b := by
  obtain ⟨x, -, rfl⟩ := ha
  obtain ⟨y, -, rfl⟩ := hb
  rw [min_real, max_real, real_le]
  exact inf_le_sup

theorem min_le_of_le (ha : a.Positive) (hb : b.Positive) {c : Exact} (hc : c.Positive)
    (hac : a ≤ c) : Scalar.min a b ≤ c := by
  obtain ⟨x, -, rfl⟩ := ha
  obtain ⟨y, -, rfl⟩ := hb
  obtain ⟨z, -, rfl⟩ := hc
  rw [min_real, real_le]
  exact min_le_of_left_le hac

theorem le_min (ha : a.Positive) (hb : b.Positive) {c : Exact} (hc : c.Positive) (hca : c ≤ a)
    (hcb : c ≤ b) : c ≤ Scalar.min a b := by
  obtain ⟨x, -, rfl⟩ := ha
  obtain ⟨y, -, rfl⟩ := hb
  obtain ⟨z, -, rfl⟩ := hc
  rw [min_real, real_le]
  exact le_inf hca hcb

theorem min_le_left (ha : a.Positive) (hb : b.Positive) : Scalar.min a b ≤ a := by
  obtain ⟨x, -, rfl⟩ := ha
  obtain ⟨y, -, rfl⟩ := hb
  rw [min_real, real_le]
  exact inf_le_left

theorem le_refl (ha : a.Positive) : a ≤ a := by
  obtain ⟨x, -, rfl⟩ := ha
  exact (real_le x x).mpr le_rfl

theorem not_lt_iff (ha : a.Positive) (hb : b.Positive) : ¬a < b ↔ b ≤ a := by
  obtain ⟨x, -, rfl⟩ := ha
  obtain ⟨y, -, rfl⟩ := hb
  rw [real_lt, real_le, ← not_le, Classical.not_not]

/-- The lesser one is at most the second, whatever the first may be. -/
theorem min_le_right (a : Exact) (hb : b.Positive) : Scalar.min a b ≤ b := by
  obtain ⟨y, -, rfl⟩ := hb
  have hself : real y ≤ real y := (real_le y y).mpr le_rfl
  rw [Scalar.min, isNaN_real, if_neg Bool.false_ne_true]
  split
  · exact hself
  · next hnumber =>
    split
    · exact hself
    · next hlt =>
      cases a with
      | real x => exact (real_le x y).mpr (not_lt.mp hlt)
      | infinity s => exact Bool.eq_true_of_not_eq_false hlt
      | nan => exact absurd isNaN_nan hnumber

theorem mul_le_mul (ha : a.Positive) (hb : b.Positive) {c : Exact} (hc : c.Positive)
    (hab : a ≤ b) : a * c ≤ b * c := by
  obtain ⟨x, -, rfl⟩ := ha
  obtain ⟨y, -, rfl⟩ := hb
  obtain ⟨z, hz, rfl⟩ := hc
  rw [real_mul, real_mul, real_le]
  exact mul_le_mul_of_nonneg_right hab hz.le

theorem mul_le_mul_left (ha : a.Positive) (hb : b.Positive) {c : Exact} (hc : c.Positive)
    (hab : a ≤ b) : c * a ≤ c * b := by
  obtain ⟨x, -, rfl⟩ := ha
  obtain ⟨y, -, rfl⟩ := hb
  obtain ⟨z, hz, rfl⟩ := hc
  rw [real_mul, real_mul, real_le]
  exact mul_le_mul_of_nonneg_left hab hz.le

theorem positiveOr (a : Exact) {d : Exact} (hd : d.Positive) :
    (Scalar.positiveOr a d).Positive := by
  unfold Scalar.positiveOr
  split
  · next h =>
    obtain ⟨hfinite, hpos⟩ := Bool.and_eq_true_iff.mp h
    exact of_finite hfinite (of_decide_eq_true hpos)
  · exact hd

theorem finite_div (ha : Scalar.isFinite a = true) (hb : b.Positive) :
    Scalar.isFinite (a / b) = true := by
  obtain ⟨x, rfl⟩ := finite_iff.mp ha
  obtain ⟨y, hy, rfl⟩ := hb
  rw [real_div x hy.ne', isFinite_real]

end Positive

/-! ## Sums in any order -/

theorem add_comm (a b : Exact) : a + b = b + a := by
  show add a b = add b a
  cases a with
  | nan =>
    cases b with
    | real y => rfl
    | infinity t => rfl
    | nan => rfl
  | real x =>
    cases b with
    | real y => exact congrArg real (by ring)
    | infinity t => rfl
    | nan => rfl
  | infinity s =>
    cases b with
    | infinity t => cases s <;> cases t <;> rfl
    | real y => rfl
    | nan => rfl

theorem add_assoc (a b c : Exact) : a + b + c = a + (b + c) := by
  show add (add a b) c = add a (add b c)
  cases a with
  | nan => rfl
  | real x =>
    cases b with
    | nan => rfl
    | real y =>
      cases c with
      | real z => exact congrArg real (by ring)
      | infinity u => rfl
      | nan => rfl
    | infinity t =>
      cases c with
      | real z => rfl
      | infinity u => cases t <;> cases u <;> rfl
      | nan => rfl
  | infinity s =>
    cases b with
    | nan => rfl
    | real y =>
      cases c with
      | real z => rfl
      | infinity u => rfl
      | nan => rfl
    | infinity t =>
      cases c with
      | real z => cases s <;> cases t <;> rfl
      | infinity u => cases s <;> cases t <;> cases u <;> rfl
      | nan => cases s <;> cases t <;> rfl

theorem add_right_comm (a b c : Exact) : a + b + c = a + c + b := by
  rw [add_assoc, add_comm b c, add_assoc]

/-! ## Laws -/

theorem isFinite_of_add {a b : Exact} (h : Scalar.isFinite (a + b) = true) :
    Scalar.isFinite a = true ∧ Scalar.isFinite b = true := by
  change isFinite (add a b) = true at h
  show isFinite a = true ∧ isFinite b = true
  cases a with
  | nan => exact absurd h Bool.false_ne_true
  | real x =>
    cases b with
    | real y => exact ⟨rfl, rfl⟩
    | infinity t => exact absurd h Bool.false_ne_true
    | nan => exact absurd h Bool.false_ne_true
  | infinity s =>
    cases b with
    | real y => exact absurd h Bool.false_ne_true
    | infinity t => cases s <;> cases t <;> exact absurd h Bool.false_ne_true
    | nan => exact absurd h Bool.false_ne_true

theorem isFinite_scaleInfinity (s : Bool) (x : ℝ) : isFinite (scaleInfinity s x) = false := by
  unfold scaleInfinity
  split
  · rfl
  · rfl

theorem isFinite_of_mul {a b : Exact} (h : Scalar.isFinite (a * b) = true) :
    Scalar.isFinite a = true ∧ Scalar.isFinite b = true := by
  change isFinite (mul a b) = true at h
  show isFinite a = true ∧ isFinite b = true
  cases a with
  | nan => exact absurd h Bool.false_ne_true
  | real x =>
    cases b with
    | real y => exact ⟨rfl, rfl⟩
    | infinity t => exact absurd ((isFinite_scaleInfinity t x).symm.trans h) Bool.false_ne_true
    | nan => exact absurd h Bool.false_ne_true
  | infinity s =>
    cases b with
    | real y => exact absurd ((isFinite_scaleInfinity s y).symm.trans h) Bool.false_ne_true
    | infinity t => exact absurd h Bool.false_ne_true
    | nan => exact absurd h Bool.false_ne_true

instance : Scalar.FiniteOperands Exact where
  finite_zero := rfl
  finite_of_add _ _ := isFinite_of_add
  finite_of_mul _ _ := isFinite_of_mul

theorem toIntWithin_range {lo hi : Int} (hlo : lo ≤ 0) (hhi : 0 ≤ hi) (a : Exact) :
    lo ≤ a.toIntWithin lo hi ∧ a.toIntWithin lo hi ≤ hi := by
  cases a with
  | real x =>
    show lo ≤ max lo (min hi _) ∧ max lo (min hi _) ≤ hi
    omega
  | infinity s =>
    show lo ≤ (if s then lo else hi) ∧ (if s then lo else hi) ≤ hi
    split
    · omega
    · omega
  | nan => exact ⟨hlo, hhi⟩

instance : Scalar.Saturating Exact where
  toInt32_range := toIntWithin_range (by decide) (by decide)

end Exact
end NodeLink
