import Mathlib
import NodeLink.Proofs.Scalar.Laws
/-!
# The order of scalars

Finite scalars are in order like numbers, except that several may stand at one place, as the two
zeros of floating point do. Absolute values stand at zero or above.

* `Scalar.Ordered`: these laws, which binary floating point has.
* `Scalar.lt_congr`, `lt_congr_right`: scalars that equal each other compare alike.
* `Scalar.max_eq`, `min_eq`: of finite scalars, maxima and minima are those of the order.
* `not_lt_float_iff`: the order against a finite float, for any float.
-/

namespace NodeLink

namespace Scalar

/-- Comparisons of finite scalars are those of places in a line, and what equals a finite scalar is
finite. -/
class Ordered (α : Type) [Scalar α] : Prop where
  finite_zero : isFinite (0 : α) = true
  finite_one : isFinite (1 : α) = true
  zero_lt_one : (0 : α) < 1
  beq_iff : ∀ {a b : α}, isFinite a = true → isFinite b = true →
    ((a == b) = true ↔ ¬a < b ∧ ¬b < a)
  le_iff : ∀ {a b : α}, isFinite a = true → isFinite b = true → (a ≤ b ↔ ¬b < a)
  lt_asymm : ∀ {a b : α}, isFinite a = true → isFinite b = true → a < b → ¬b < a
  -- Whatever is put between two scalars, it is above the one or below the other.
  lt_or_lt : ∀ {a b c : α}, isFinite a = true → isFinite b = true → isFinite c = true → a < c →
    a < b ∨ b < c
  finite_of_beq : ∀ {a b : α}, (a == b) = true → isFinite a = true → isFinite b = true
  finite_abs : ∀ {a : α}, isFinite a = true → isFinite (abs a) = true
  abs_not_neg : ∀ {a : α}, isFinite a = true → ¬abs a < 0
  abs_beq : ∀ {a : α}, isFinite a = true → ¬a < 0 → (abs a == a) = true
  abs_abs : ∀ a : α, abs (abs a) = abs a

/-- Of two scalars the larger one is a number if either is. -/
theorem isNaN_max {α : Type} [Scalar α] (a b : α) : isNaN (max a b) = (isNaN a && isNaN b) := by
  unfold max
  split
  · rename_i ha
    rw [ha, Bool.true_and]
  · rename_i ha
    rw [Bool.not_eq_true] at ha
    rw [ha, Bool.false_and]
    split
    · exact ha
    · rename_i hb
      rw [Bool.not_eq_true] at hb
      split
      · exact hb
      · exact ha

section Ordered

variable {α : Type} [Scalar α] [Ordered α] {a b c : α}

open Ordered

theorem lt_irrefl (ha : isFinite a = true) : ¬a < a := fun h => lt_asymm ha ha h h

theorem beq_self (ha : isFinite a = true) : (a == a) = true :=
  (beq_iff ha ha).mpr ⟨lt_irrefl ha, lt_irrefl ha⟩

theorem isNaN_of_finite (ha : isFinite a = true) : isNaN a = false := by
  rw [isNaN, beq_self ha, Bool.not_true]

theorem max_eq (ha : isFinite a = true) (hb : isFinite b = true) :
    max a b = if a < b then b else a := by
  simp only [max, isNaN_of_finite ha, isNaN_of_finite hb, Bool.false_eq_true, if_false]

theorem min_eq (ha : isFinite a = true) (hb : isFinite b = true) :
    min a b = if b < a then b else a := by
  simp only [min, isNaN_of_finite ha, isNaN_of_finite hb, Bool.false_eq_true, if_false]

theorem lt_congr (ha : isFinite a = true) (hc : isFinite c = true) (h : (a == b) = true) :
    a < c ↔ b < c := by
  have hb := finite_of_beq h ha
  obtain ⟨hab, hba⟩ := (beq_iff ha hb).mp h
  exact ⟨fun hac => (lt_or_lt ha hb hc hac).resolve_left hab,
    fun hbc => (lt_or_lt hb ha hc hbc).resolve_left hba⟩

theorem lt_congr_right (ha : isFinite a = true) (hc : isFinite c = true) (h : (a == b) = true) :
    c < a ↔ c < b := by
  have hb := finite_of_beq h ha
  obtain ⟨hab, hba⟩ := (beq_iff ha hb).mp h
  exact ⟨fun hca => (lt_or_lt hc hb ha hca).resolve_right hba,
    fun hcb => (lt_or_lt hc ha hb hcb).resolve_right hab⟩

theorem le_congr (ha : isFinite a = true) (hc : isFinite c = true) (h : (a == b) = true) :
    a ≤ c ↔ b ≤ c := by
  rw [le_iff ha hc, le_iff (finite_of_beq h ha) hc, lt_congr_right ha hc h]

theorem le_congr_right (ha : isFinite a = true) (hc : isFinite c = true) (h : (a == b) = true) :
    c ≤ a ↔ c ≤ b := by
  rw [le_iff hc ha, le_iff hc (finite_of_beq h ha), lt_congr ha hc h]

end Ordered

end Scalar

/-! ## Places of floats

Unpacked floats of one format are compared by sign, exponent and significand, and so like the
triples of these. -/

open Float.Model UnpackedFloat

theorem compares_then (e f : ℤ) (m n : ℕ) : ((compare e f).then (compare m n)).Compares
    (toLex (e, (m : ℤ)) : ℤ ×ₗ ℤ) (toLex (f, (n : ℤ))) := by
  rcases lt_trichotomy e f with hlt | rfl | hgt
  · rw [compare_lt_iff_lt.mpr hlt]
    exact Prod.Lex.toLex_lt_toLex.mpr (.inl hlt)
  · rw [compare_eq_iff_eq.mpr rfl, Ordering.eq_then]
    rcases lt_trichotomy m n with hlt | rfl | hgt
    · rw [compare_lt_iff_lt.mpr hlt]
      exact Prod.Lex.toLex_lt_toLex.mpr (.inr ⟨rfl, Int.ofNat_lt.mpr hlt⟩)
    · rw [compare_eq_iff_eq.mpr rfl]
      rfl
    · rw [compare_gt_iff_gt.mpr hgt]
      exact Prod.Lex.toLex_lt_toLex.mpr (.inr ⟨rfl, Int.ofNat_lt.mpr hgt⟩)
  · rw [compare_gt_iff_gt.mpr hgt]
    exact Prod.Lex.toLex_lt_toLex.mpr (.inl hgt)

/-- Below zero the order is the other way round. -/
theorem compares_neg {o : Ordering} {e f m n : ℤ}
    (h : o.Compares (toLex (e, m) : ℤ ×ₗ ℤ) (toLex (f, n))) :
    o.Compares (toLex (-f, -n) : ℤ ×ₗ ℤ) (toLex (-e, -m)) := by
  have hneg {e f m n : ℤ} (h : (toLex (e, m) : ℤ ×ₗ ℤ) < toLex (f, n)) :
      (toLex (-f, -n) : ℤ ×ₗ ℤ) < toLex (-e, -m) := by
    rw [Prod.Lex.toLex_lt_toLex] at h ⊢
    omega
  cases o with
  | lt => exact hneg h
  | eq =>
    obtain ⟨rfl, rfl⟩ := Prod.mk.inj (toLex.injective h : (e, m) = (f, n))
    rfl
  | gt => exact hneg h

theorem compares_same_sign {o : Ordering} (s : ℤ) {p q : ℤ ×ₗ ℤ} (h : o.Compares p q) :
    o.Compares (toLex (s, p) : ℤ ×ₗ ℤ ×ₗ ℤ) (toLex (s, q)) := by
  cases o with
  | lt => exact Prod.Lex.toLex_lt_toLex.mpr (.inr ⟨rfl, h⟩)
  | eq => exact congrArg (fun p => toLex (s, p)) h
  | gt => exact Prod.Lex.toLex_lt_toLex.mpr (.inr ⟨rfl, h⟩)

theorem lt_of_sign_lt {s t : ℤ} (h : s < t) (p q : ℤ ×ₗ ℤ) :
    (toLex (s, p) : ℤ ×ₗ ℤ ×ₗ ℤ) < toLex (t, q) :=
  Prod.Lex.toLex_lt_toLex.mpr (.inl h)

/-- Where a finite float stands; both zeros stand at one place. -/
def placeOf : UnpackedFloat → ℤ ×ₗ ℤ ×ₗ ℤ
  | .finite .negative m e _ => toLex (-1, toLex (-e, -(m : ℤ)))
  | .finite .positive m e _ => toLex (1, toLex (e, (m : ℤ)))
  | _ => toLex (0, toLex (0, 0))

theorem exists_compare {x y : UnpackedFloat} (hx : x.isFinite = true) (hy : y.isFinite = true) :
    ∃ o, x.compare y = some o ∧ o.Compares (placeOf x) (placeOf y) := by
  cases x with
  | infinity s => exact absurd hx Bool.false_ne_true
  | notANumber => exact absurd hx Bool.false_ne_true
  | zero s =>
    cases y with
    | infinity t => exact absurd hy Bool.false_ne_true
    | notANumber => exact absurd hy Bool.false_ne_true
    | zero t => exact ⟨.eq, rfl, rfl⟩
    | finite t n f hn =>
      cases t with
      | negative => exact ⟨.gt, rfl, lt_of_sign_lt (by decide) _ _⟩
      | positive => exact ⟨.lt, rfl, lt_of_sign_lt (by decide) _ _⟩
  | finite s m e hm =>
    cases y with
    | infinity t => exact absurd hy Bool.false_ne_true
    | notANumber => exact absurd hy Bool.false_ne_true
    | zero t =>
      cases s with
      | negative => exact ⟨.lt, rfl, lt_of_sign_lt (by decide) _ _⟩
      | positive => exact ⟨.gt, rfl, lt_of_sign_lt (by decide) _ _⟩
    | finite t n f hn =>
      have hcompares := compares_then e f m n
      cases s with
      | negative =>
        cases t with
        | negative =>
          refine ⟨_, rfl, Ordering.compares_swap.mpr ?_⟩
          exact compares_same_sign (-1) (compares_neg hcompares)
        | positive => exact ⟨.lt, rfl, lt_of_sign_lt (by decide) _ _⟩
      | positive =>
        cases t with
        | negative => exact ⟨.gt, rfl, lt_of_sign_lt (by decide) _ _⟩
        | positive => exact ⟨_, rfl, compares_same_sign 1 hcompares⟩

section Places

variable {x y : UnpackedFloat}

theorem lt_iff_placeOf (hx : x.isFinite = true) (hy : y.isFinite = true) :
    x.lt y = true ↔ placeOf x < placeOf y := by
  obtain ⟨o, ho, hcompares⟩ := exists_compare hx hy
  rw [UnpackedFloat.lt, ho, beq_iff_eq, Option.some.injEq]
  exact hcompares.eq_lt

theorem beq_iff_placeOf (hx : x.isFinite = true) (hy : y.isFinite = true) :
    x.beq y = true ↔ placeOf x = placeOf y := by
  obtain ⟨o, ho, hcompares⟩ := exists_compare hx hy
  rw [UnpackedFloat.beq, ho, beq_iff_eq, Option.some.injEq]
  exact hcompares.eq_eq

theorem le_iff_placeOf (hx : x.isFinite = true) (hy : y.isFinite = true) :
    x.le y = true ↔ placeOf x ≤ placeOf y := by
  obtain ⟨o, ho, hcompares⟩ := exists_compare hx hy
  rw [UnpackedFloat.le, ho]
  cases o with
  | lt => exact iff_of_true rfl (le_of_lt hcompares)
  | eq => exact iff_of_true rfl (le_of_eq hcompares)
  | gt => exact iff_of_false Bool.false_ne_true (not_le_of_gt hcompares)

/-- Infinities equal infinities only. -/
theorem isFinite_of_unpackedBeq (h : x.beq y = true) (hx : x.isFinite = true) :
    y.isFinite = true := by
  cases y with
  | zero t => rfl
  | finite t n f hn => rfl
  | notANumber =>
    cases x with
    | infinity s => exact absurd hx Bool.false_ne_true
    | notANumber => exact absurd hx Bool.false_ne_true
    | zero s => exact absurd h Bool.false_ne_true
    | finite s m e hm => exact absurd h Bool.false_ne_true
  | infinity t =>
    cases x with
    | infinity s => exact absurd hx Bool.false_ne_true
    | notANumber => exact absurd hx Bool.false_ne_true
    | zero s => cases t <;> exact absurd h Bool.false_ne_true
    | finite s m e hm => cases t <;> exact absurd h Bool.false_ne_true

theorem placeOf_abs_nonneg (x : UnpackedFloat) : placeOf (.zero .positive) ≤ placeOf x.abs := by
  cases x with
  | infinity s => exact le_refl _
  | notANumber => exact le_refl _
  | zero s => exact le_refl _
  | finite s m e hm => exact le_of_lt (lt_of_sign_lt (by decide) _ _)

theorem placeOf_abs (h : placeOf (.zero .positive) ≤ placeOf x) : placeOf x.abs = placeOf x := by
  cases x with
  | infinity s => rfl
  | notANumber => rfl
  | zero s => rfl
  | finite s m e hm =>
    cases s with
    | negative => exact absurd h (not_le_of_gt (lt_of_sign_lt (by decide) _ _))
    | positive => rfl

end Places

/-! ## Absolute values of floats

The absolute value of a float is a float again: packing and unpacking it changes nothing. -/

theorem toNat_leadingOne (m : BitVec 52) : (1#1 ++ m).toNat = 2 ^ 52 + m.toNat := by
  rw [BitVec.toNat_append, Nat.shiftLeft_eq, Nat.or_comm]
  show m.toNat ||| 2 ^ 52 = _
  rw [Nat.or_two_pow_eq_add_of_lt m.isLt, Nat.add_comm]

/-- The float of a sign, an exponent and a significand as they are stored. -/
def ofFields (s : Sign) (e : BitVec 11) (m : BitVec 52) : UnpackedFloat :=
  if e = -1#_ then if m = 0#_ then .infinity s else .notANumber
  else if e = 0#_ then
    if h : m = 0#_ then .zero s
    else .finite s m.toNat (-1074) (Nat.pos_of_ne_zero fun h0 => h (BitVec.eq_of_toNat_eq h0))
  else .finite s (1#1 ++ m).toNat (e.toNat - 1075) (by rw [toNat_leadingOne]; omega)

theorem unpack_eq (b : BitVec 64) : UnpackedFloat.unpack Format.binary64 b =
    ofFields (.ofBitVec (@unpackSign Format.binary64 b))
      (@unpackExponent Format.binary64 b) (@unpackMantissa Format.binary64 b) := by
  unfold UnpackedFloat.unpack ofFields
  dsimp only
  split
  · rfl
  · split
    · next hzero =>
      split
      · rfl
      · congr 1
        rw [hzero]
        rfl
    · rfl

theorem abs_ofFields (s : Sign) (e : BitVec 11) (m : BitVec 52) :
    (ofFields s e m).abs = ofFields .positive e m := by
  unfold ofFields
  split
  · split
    · rfl
    · rfl
  · split
    · split
      · rfl
      · rfl
    · rfl

theorem unpackSign_packComponents (s : Sign) (e : BitVec 11) (m : BitVec 52) :
    Sign.ofBitVec (@unpackSign Format.binary64
      (packComponents Format.binary64 s e m)) = s := by
  have hbit : @unpackSign Format.binary64 (packComponents Format.binary64 s e m) =
      s.toBitVec := by
    show (s.toBitVec ++ e ++ m).extractLsb' 63 1 = s.toBitVec
    rw [BitVec.extractLsb'_append_eq_of_le (by decide),
      BitVec.extractLsb'_append_eq_of_le (by decide), BitVec.extractLsb'_eq_self]
  rw [hbit]
  cases s with
  | negative => rfl
  | positive => rfl

theorem unpack_packComponents (s : Sign) (e : BitVec 11) (m : BitVec 52) :
    UnpackedFloat.unpack Format.binary64 (packComponents Format.binary64 s e m) =
      ofFields s e m := by
  rw [unpack_eq, unpackSign_packComponents, unpackExponent_packComponents,
    unpackMantissa_packComponents]

theorem pack_finite (s : Sign) (m : ℕ) (e : ℤ) (hm : 0 < m) :
    UnpackedFloat.pack Format.binary64 (.finite s m e hm) =
      if 2048 ≤ (e + 1023 + 52).toNat + 1 then packedInfinity Format.binary64 s
      else if m.log2 + 1 = 53 then
        packComponents Format.binary64 s (BitVec.ofNat 11 (e + 1023 + 52).toNat) (BitVec.ofNat 52 m)
      else packComponents Format.binary64 s 0#11 (BitVec.ofNat 52 m) := rfl

theorem pack_ofFields (s : Sign) {e : BitVec 11} {m : BitVec 52}
    (h : ofFields s e m ≠ .notANumber) :
    UnpackedFloat.pack Format.binary64 (ofFields s e m) = packComponents Format.binary64 s e m := by
  have hm : m.toNat < 2 ^ 52 := m.isLt
  unfold ofFields at h ⊢
  split
  · next hones =>
    rw [if_pos hones] at h
    split
    · next hzero =>
      rw [hones, hzero]
      rfl
    · next hzero => exact absurd (if_neg hzero) h
  · next hones =>
    split
    · next hexponent =>
      split
      · next hzero =>
        rw [hexponent, hzero]
        rfl
      · next hzero =>
        -- A subnormal number: its significand is short of the leading one.
        have hlog : ¬m.toNat.log2 + 1 = 53 := by
          have hlt := (Nat.log2_lt fun h0 => hzero (BitVec.eq_of_toNat_eq h0)).mpr hm
          omega
        rw [pack_finite, if_neg (by decide), if_neg hlog, hexponent, BitVec.ofNat_toNat,
          BitVec.setWidth_eq]
    · next hexponent =>
      have hlow : e.toNat ≠ 0 := fun h0 => hexponent (BitVec.eq_of_toNat_eq h0)
      have hhigh : e.toNat ≠ 2047 := fun h0 => hones (BitVec.eq_of_toNat_eq h0)
      have hlt : e.toNat < 2048 := e.isLt
      have hlog : (2 ^ 52 + m.toNat).log2 = 52 := (Nat.log2_eq_iff (by omega)).mpr (by omega)
      have hbias : ((e.toNat : ℤ) - 1075 + 1023 + 52).toNat = e.toNat := by omega
      have hfraction : BitVec.ofNat 52 (2 ^ 52 + m.toNat) = m := by
        apply BitVec.eq_of_toNat_eq
        rw [BitVec.toNat_ofNat, Nat.add_mod_left, Nat.mod_eq_of_lt hm]
      rw [pack_finite, hbias, if_neg (by omega), if_pos (by rw [toNat_leadingOne, hlog]),
        toNat_leadingOne, hfraction, BitVec.ofNat_toNat, BitVec.setWidth_eq]

theorem unpack_abs (a : Float.Model) : a.abs.unpack = a.unpack.abs := by
  show UnpackedFloat.unpack Format.binary64 (UnpackedFloat.pack Format.binary64
    (UnpackedFloat.unpack Format.binary64 a.toBits.toBitVec).abs) =
      (UnpackedFloat.unpack Format.binary64 a.toBits.toBitVec).abs
  rw [unpack_eq a.toBits.toBitVec, abs_ofFields]
  generalize @unpackExponent Format.binary64 a.toBits.toBitVec = e
  generalize @unpackMantissa Format.binary64 a.toBits.toBitVec = m
  by_cases hnan : ofFields .positive e m = .notANumber
  · rw [hnan]
    rfl
  · rw [pack_ofFields .positive hnan, unpack_packComponents]

theorem abs_unpackedAbs (x : UnpackedFloat) : x.abs.abs = x.abs := by
  cases x with
  | infinity s => rfl
  | notANumber => rfl
  | zero s => rfl
  | finite s m e hm => rfl

theorem isFinite_unpackedAbs (x : UnpackedFloat) : x.abs.isFinite = x.isFinite := by
  cases x with
  | infinity s => rfl
  | notANumber => rfl
  | zero s => rfl
  | finite s m e hm => rfl

/-! ## Floats -/

section Floats

variable {a b : Float}

theorem float_lt_iff (ha : a.isFinite = true) (hb : b.isFinite = true) :
    a < b ↔ placeOf a.toModel.unpack < placeOf b.toModel.unpack := by
  refine Iff.trans ?_ (lt_iff_placeOf ha hb)
  show decide (a.toModel.unpack.lt b.toModel.unpack = true) = true ↔ _
  rw [decide_eq_true_iff]

theorem float_le_iff (ha : a.isFinite = true) (hb : b.isFinite = true) :
    a ≤ b ↔ placeOf a.toModel.unpack ≤ placeOf b.toModel.unpack := by
  refine Iff.trans ?_ (le_iff_placeOf ha hb)
  show decide (a.toModel.unpack.le b.toModel.unpack = true) = true ↔ _
  rw [decide_eq_true_iff]

theorem not_lt_float_zero_iff (ha : a.isFinite = true) {z : Float}
    (hz : z.toModel.unpack = .zero .positive) :
    ¬a < z ↔ placeOf (.zero .positive) ≤ placeOf a.toModel.unpack := by
  have hfinite : z.isFinite = true := congrArg UnpackedFloat.isFinite hz
  rw [float_lt_iff ha hfinite, hz, not_lt]

theorem finite_float_abs (ha : a.isFinite = true) : a.abs.isFinite = true := by
  show a.toModel.abs.unpack.isFinite = true
  rw [unpack_abs, isFinite_unpackedAbs]
  exact ha

end Floats

instance : Scalar.Ordered Float where
  finite_zero := by decide
  finite_one := by decide
  zero_lt_one := by decide
  beq_iff ha hb := by
    rw [float_lt_iff ha hb, float_lt_iff hb ha, not_lt, not_lt, and_comm, ← le_antisymm_iff]
    exact beq_iff_placeOf ha hb
  le_iff ha hb := by rw [float_lt_iff hb ha, float_le_iff ha hb, not_lt]
  lt_asymm ha hb h := by
    rw [float_lt_iff ha hb] at h
    rw [float_lt_iff hb ha]
    exact lt_asymm h
  lt_or_lt ha hb hc h := by
    rw [float_lt_iff ha hc] at h
    rw [float_lt_iff ha hb, float_lt_iff hb hc]
    exact (lt_or_ge _ _).imp_right fun hba => lt_of_le_of_lt hba h
  finite_of_beq h ha := isFinite_of_unpackedBeq h ha
  finite_abs ha := finite_float_abs ha
  abs_not_neg {a} ha := by
    refine (not_lt_float_zero_iff (finite_float_abs ha) rfl).mpr ?_
    show placeOf (.zero .positive) ≤ placeOf a.toModel.abs.unpack
    rw [unpack_abs]
    exact placeOf_abs_nonneg _
  abs_beq {a} ha h := by
    have hplace := (not_lt_float_zero_iff ha rfl).mp h
    refine (beq_iff_placeOf (finite_float_abs ha) ha).mpr ?_
    show placeOf a.toModel.abs.unpack = placeOf a.toModel.unpack
    rw [unpack_abs, placeOf_abs hplace]
  abs_abs a := by
    show Float.ofModel (Float.Model.pack a.toModel.abs.unpack.abs) = Float.ofModel a.toModel.abs
    rw [unpack_abs, abs_unpackedAbs]
    rfl

/-- An infinity is above or below all finite floats, and what is no number is neither. -/
theorem not_lt_iff_of_infinite {x y : UnpackedFloat} (hx : ¬x.isFinite = true)
    (hy : y.isFinite = true) : ¬x.lt y = true ↔ y.le x = true ∨ x.beq x = false := by
  cases x with
  | zero s => exact absurd rfl hx
  | finite s m e hm => exact absurd rfl hx
  | notANumber => exact iff_of_true Bool.false_ne_true (.inr rfl)
  | infinity s =>
    cases y with
    | infinity t => exact absurd hy Bool.false_ne_true
    | notANumber => exact absurd hy Bool.false_ne_true
    | zero t =>
      cases s with
      | negative =>
        exact iff_of_false (not_not.mpr rfl)
          (not_or.mpr ⟨Bool.false_ne_true, Bool.false_ne_true.symm⟩)
      | positive => exact iff_of_true Bool.false_ne_true (.inl rfl)
    | finite t n f hn =>
      cases s with
      | negative =>
        exact iff_of_false (not_not.mpr rfl)
          (not_or.mpr ⟨Bool.false_ne_true, Bool.false_ne_true.symm⟩)
      | positive => exact iff_of_true Bool.false_ne_true (.inl rfl)

/-- What is not below a finite float is at or above it, or it is no number. -/
theorem not_lt_float_iff {a b : Float} (hb : b.isFinite = true) :
    ¬a < b ↔ b ≤ a ∨ Scalar.isNaN a = true := by
  by_cases ha : a.isFinite = true
  · rw [float_lt_iff ha hb, float_le_iff hb ha, not_lt, Scalar.isNaN_of_finite ha]
    simp only [Bool.false_eq_true, or_false]
  · have hinfinite := not_lt_iff_of_infinite ha hb
    show ¬decide (a.toModel.unpack.lt b.toModel.unpack = true) = true ↔
      decide (b.toModel.unpack.le a.toModel.unpack = true) = true ∨
        (!a.toModel.unpack.beq a.toModel.unpack) = true
    rw [decide_eq_true_iff, decide_eq_true_iff, Bool.not_eq_true']
    exact hinfinite

end NodeLink
