import NodeLink.Gesture.Basic
import NodeLink.Proofs.Scalar.Order
import NodeLink.Widget.Basic
/-!
# Repair of settings

Settings are valid when the widget can work with each of their values. Repair makes any settings
valid and leaves valid ones alone, so that it makes no difference how many of the parts that take
settings repair them once more.

* `Settings.Valid`: what the force model, the view and the gestures ask of their values.
* `Scalar.Repairs`: what the repair of one value does, for each of the rules in use.
* `Settings.sanitized_projection`: repair projects all settings onto the valid ones.
-/

namespace NodeLink

namespace Scalar

variable {α : Type} [Scalar α]

/-! ## Checks of single values -/

def Finite (x : α) : Prop := isFinite x = true

def NonNegative (x : α) : Prop := isFinite x = true ∧ 0 ≤ x

def Positive (x : α) : Prop := isFinite x = true ∧ 0 < x

/-- From zero to one. -/
def InUnit (x : α) : Prop := isFinite x = true ∧ 0 ≤ x ∧ x ≤ 1

/-- Above zero, up to one. -/
def PositiveInUnit (x : α) : Prop := isFinite x = true ∧ 0 < x ∧ x ≤ 1

/-- Two positive values in order. -/
def IsRange (r : α × α) : Prop := Positive r.1 ∧ Positive r.2 ∧ r.1 ≤ r.2

instance (x : α) : Decidable (Finite x) := inferInstanceAs (Decidable (_ = _))
instance (x : α) : Decidable (NonNegative x) := inferInstanceAs (Decidable (_ ∧ _))
instance (x : α) : Decidable (Positive x) := inferInstanceAs (Decidable (_ ∧ _))
instance (x : α) : Decidable (InUnit x) := inferInstanceAs (Decidable (_ ∧ _))
instance (x : α) : Decidable (PositiveInUnit x) := inferInstanceAs (Decidable (_ ∧ _))
instance (r : α × α) : Decidable (IsRange r) := inferInstanceAs (Decidable (_ ∧ _))

section Rule

variable {β : Type} [BEq β] {start ok : β → Prop} {f fix : β → β}

/-- A check that values equal to each other pass alike. -/
def Respects (ok : β → Prop) : Prop := ∀ {x y : β}, (x == y) = true → ok x → ok y

/-- `fix` makes every value pass `ok`, leaves those alone that do, and does nothing twice. -/
structure Repairs (fix : β → β) (ok : β → Prop) : Prop where
  passes : ∀ x, ok (fix x)
  kept : ∀ {x}, ok x → (fix x == x) = true
  again : ∀ x, fix (fix x) = fix x
  respects : Respects ok

/-- Repair leaves a value alone exactly if it passes. -/
theorem Repairs.same_iff (h : Repairs fix ok) (x : β) : (fix x == x) = true ↔ ok x :=
  ⟨fun hsame => h.respects hsame (h.passes x), h.kept⟩

/-- `fix` makes the values that pass `start` pass the narrower `ok`. -/
structure Narrows (start : β → Prop) (fix : β → β) (ok : β → Prop) : Prop where
  within : ∀ {x}, ok x → start x
  passes : ∀ {x}, start x → ok (fix x)
  kept : ∀ {x}, ok x → (fix x == x) = true
  again : ∀ {x}, start x → fix (fix x) = fix x
  respects : Respects ok

/-- Values that cannot be used at all are replaced, and what there is then is narrowed. -/
theorem Narrows.repairs (h : Narrows start fix ok) (hf : ∀ x, start (f x))
    (hself : ∀ {x}, start x → f x = x) : Repairs (fun x => fix (f x)) ok where
  passes x := h.passes (hf x)
  kept hx := by rw [hself (h.within hx)]; exact h.kept hx
  again x := by
    have hok : ok (fix (f x)) := h.passes (hf x)
    rw [hself (h.within hok), h.again (hf x)]
  respects := h.respects

/-- Two values that are repaired each by itself. -/
theorem Repairs.prod {γ : Type} [BEq γ] {g : γ → γ} {good : γ → Prop} (hf : Repairs f ok)
    (hg : Repairs g good) :
    Repairs (fun r : β × γ => (f r.1, g r.2)) (fun r => ok r.1 ∧ good r.2) where
  passes r := ⟨hf.passes r.1, hg.passes r.2⟩
  kept hr := Bool.and_eq_true_iff.mpr ⟨hf.kept hr.1, hg.kept hr.2⟩
  again r := Prod.ext (hf.again r.1) (hg.again r.2)
  respects h hr :=
    have hboth := Bool.and_eq_true_iff.mp h
    ⟨hf.respects hboth.1 hr.1, hg.respects hboth.2 hr.2⟩

/-- A record is repaired when the tuple `e` of its values is. -/
theorem Repairs.record {γ : Type} [BEq γ] {e : γ → β} {g : γ → γ} {good : γ → Prop}
    (h : Repairs f ok) (hfix : ∀ x, e (g x) = f (e x)) (hok : ∀ x, good x ↔ ok (e x))
    (hsame : ∀ x y, (x == y) = (e x == e y)) (hinj : ∀ x y, e x = e y → x = y) :
    Repairs g good where
  passes x := (hok _).mpr (by rw [hfix]; exact h.passes _)
  kept hx := by rw [hsame, hfix]; exact h.kept ((hok _).mp hx)
  again x := hinj _ _ (by rw [hfix, hfix, h.again])
  respects hxy hx := (hok _).mpr (h.respects (by rwa [← hsame]) ((hok _).mp hx))

end Rule

/-! ## Rules of repair -/

theorem finiteOr_finite {d : α} (hd : Finite d) (x : α) : Finite (finiteOr x d) := by
  unfold finiteOr
  split
  next hx => exact hx
  next => exact hd

theorem finiteOr_eq {x : α} (d : α) (hx : Finite x) : finiteOr x d = x := if_pos hx

theorem positiveOr_positive {d : α} (hd : Positive d) (x : α) : Positive (positiveOr x d) := by
  unfold positiveOr
  split
  next hx => simpa [Positive] using hx
  next => exact hd

theorem positiveOr_eq {x : α} (d : α) (hx : Positive x) : positiveOr x d = x :=
  if_pos (by simpa [Positive] using hx)

/-- Here the fallback itself is not narrowed, so it has to be one that narrowing leaves alone. -/
theorem Narrows.repairs_ite {fix : α → α} {ok : α → Prop} (h : Narrows Finite fix ok) {d : α}
    (hd : ok d) (hfix : fix d = d) : Repairs (fun x => if isFinite x then fix x else d) ok := by
  have heq : (fun x => if isFinite x then fix x else d) = fun x => fix (finiteOr x d) := by
    funext x
    rw [finiteOr, apply_ite fix, hfix]
  rw [heq]
  exact h.repairs (finiteOr_finite (h.within hd)) (finiteOr_eq d)

section Ordered

variable [Ordered α] {d : α}

open Ordered

theorem respects_finite : Respects (Finite (α := α)) := fun h hx => finite_of_beq h hx

theorem respects_nonNegative : Respects (NonNegative (α := α)) := fun h hx =>
  ⟨finite_of_beq h hx.1, (le_congr_right hx.1 finite_zero h).mp hx.2⟩

theorem respects_positive : Respects (Positive (α := α)) := fun h hx =>
  ⟨finite_of_beq h hx.1, (lt_congr_right hx.1 finite_zero h).mp hx.2⟩

theorem respects_inUnit : Respects (InUnit (α := α)) := fun h hx =>
  ⟨finite_of_beq h hx.1, (le_congr_right hx.1 finite_zero h).mp hx.2.1,
    (le_congr hx.1 finite_one h).mp hx.2.2⟩

theorem respects_positiveInUnit : Respects (PositiveInUnit (α := α)) := fun h hx =>
  ⟨finite_of_beq h hx.1, (lt_congr_right hx.1 finite_zero h).mp hx.2.1,
    (le_congr hx.1 finite_one h).mp hx.2.2⟩

theorem max_zero_eq {x : α} (hx : NonNegative x) : max x 0 = x := by
  rw [max_eq hx.1 finite_zero, if_neg ((le_iff finite_zero hx.1).mp hx.2)]

theorem narrows_max : Narrows Finite (fun x : α => max x 0) NonNegative := by
  have hpasses {x : α} (hx : Finite x) : NonNegative (max x 0) := by
    rw [max_eq hx finite_zero]
    split
    next => exact ⟨finite_zero, (le_iff finite_zero finite_zero).mpr (lt_irrefl finite_zero)⟩
    next hlt => exact ⟨hx, (le_iff finite_zero hx).mpr hlt⟩
  refine ⟨And.left, hpasses, fun hx => ?_, fun hx => max_zero_eq (hpasses hx), respects_nonNegative⟩
  rw [max_zero_eq hx]
  exact beq_self hx.1

theorem narrows_abs : Narrows Finite (abs : α → α) NonNegative where
  within := And.left
  passes hx := ⟨finite_abs hx, (le_iff finite_zero (finite_abs hx)).mpr (abs_not_neg hx)⟩
  kept hx := abs_beq hx.1 ((le_iff finite_zero hx.1).mp hx.2)
  again _ := abs_abs _
  respects := respects_nonNegative

theorem narrows_clampUnit : Narrows Finite (clampUnit : α → α) InUnit := by
  have hle {x y : α} (hx : Finite x) (hy : Finite y) (h : ¬y < x) : x ≤ y := (le_iff hx hy).mpr h
  have hkept {x : α} (hx : InUnit x) : clampUnit x = x := by
    rw [clampUnit, clamp, if_neg ((le_iff finite_zero hx.1).mp hx.2.1),
      if_neg ((le_iff hx.1 finite_one).mp hx.2.2)]
  have hpasses {x : α} (hx : Finite x) : InUnit (clampUnit x) := by
    have hzero : (0 : α) ≤ 1 :=
      hle finite_zero finite_one (lt_asymm finite_zero finite_one zero_lt_one)
    unfold clampUnit clamp
    split
    next => exact ⟨finite_zero, hle finite_zero finite_zero (lt_irrefl finite_zero), hzero⟩
    next hlow =>
      split
      next => exact ⟨finite_one, hzero, hle finite_one finite_one (lt_irrefl finite_one)⟩
      next hhigh => exact ⟨hx, hle finite_zero hx hlow, hle hx finite_one hhigh⟩
  refine ⟨And.left, hpasses, fun hx => ?_, fun hx => hkept (hpasses hx), respects_inUnit⟩
  rw [hkept hx]
  exact beq_self hx.1

theorem narrows_min : Narrows Positive (fun x : α => min x 1) PositiveInUnit := by
  have hkept {x : α} (hx : PositiveInUnit x) : min x 1 = x := by
    rw [min_eq hx.1 finite_one, if_neg ((le_iff hx.1 finite_one).mp hx.2.2)]
  have hpasses {x : α} (hx : Positive x) : PositiveInUnit (min x 1) := by
    rw [min_eq hx.1 finite_one]
    split
    next =>
      exact ⟨finite_one, zero_lt_one, (le_iff finite_one finite_one).mpr (lt_irrefl finite_one)⟩
    next hlt => exact ⟨hx.1, hx.2, (le_iff hx.1 finite_one).mpr hlt⟩
  refine ⟨fun hx => ⟨hx.1, hx.2.1⟩, hpasses, fun hx => ?_, fun hx => hkept (hpasses hx),
    respects_positiveInUnit⟩
  rw [hkept hx]
  exact beq_self hx.1

theorem narrows_id {ok : α → Prop} (hfinite : ∀ {x}, ok x → Finite x) (hok : Respects ok) :
    Narrows ok (fun x => x) ok :=
  ⟨id, id, fun hx => beq_self (hfinite hx), fun _ => rfl, hok⟩

theorem repairs_finite (hd : Finite d) : Repairs (finiteOr · d) Finite :=
  (narrows_id id respects_finite).repairs (finiteOr_finite hd) (finiteOr_eq d)

theorem repairs_max (hd : NonNegative d) : Repairs (fun x => max (finiteOr x d) 0) NonNegative :=
  narrows_max.repairs (finiteOr_finite hd.1) (finiteOr_eq d)

theorem repairs_abs (hd : NonNegative d) : Repairs (fun x => abs (finiteOr x d)) NonNegative :=
  narrows_abs.repairs (finiteOr_finite hd.1) (finiteOr_eq d)

theorem repairs_clampUnit (hd : InUnit d) : Repairs (fun x => clampUnit (finiteOr x d)) InUnit :=
  narrows_clampUnit.repairs (finiteOr_finite hd.1) (finiteOr_eq d)

theorem repairs_positive (hd : Positive d) : Repairs (positiveOr · d) Positive :=
  (narrows_id And.left respects_positive).repairs (positiveOr_positive hd) (positiveOr_eq d)

theorem repairs_min (hd : PositiveInUnit d) :
    Repairs (fun x => min (positiveOr x d) 1) PositiveInUnit :=
  narrows_min.repairs (positiveOr_positive ⟨hd.1, hd.2.1⟩) (positiveOr_eq d)

theorem minMax_of_lt {lo hi : α} (hlo : Finite lo) (hhi : Finite hi) (h : lo < hi) :
    (min lo hi, max lo hi) = (lo, hi) := by
  rw [min_eq hlo hhi, max_eq hlo hhi, if_pos h, if_neg (lt_asymm hlo hhi h)]

theorem minMax_of_gt {lo hi : α} (hlo : Finite lo) (hhi : Finite hi) (h : hi < lo) :
    (min lo hi, max lo hi) = (hi, lo) := by
  rw [min_eq hlo hhi, max_eq hlo hhi, if_pos h, if_neg (lt_asymm hhi hlo h)]

/-- Of two values in one place both are the first. -/
theorem minMax_of_beq {lo hi : α} (hlo : Finite lo) (hhi : Finite hi) (h : (lo == hi) = true) :
    (min lo hi, max lo hi) = (lo, lo) := by
  obtain ⟨hlt, hgt⟩ := (beq_iff hlo hhi).mp h
  rw [min_eq hlo hhi, max_eq hlo hhi, if_neg hlt, if_neg hgt]

theorem lt_or_gt_or_beq {lo hi : α} (hlo : Finite lo) (hhi : Finite hi) :
    lo < hi ∨ hi < lo ∨ (lo == hi) = true := by
  rcases Classical.em (lo < hi) with hlt | hlt
  · exact .inl hlt
  · rcases Classical.em (hi < lo) with hgt | hgt
    · exact .inr (.inl hgt)
    · exact .inr (.inr ((beq_iff hlo hhi).mpr ⟨hlt, hgt⟩))

/-- Two values in one place are not told apart, so that the second one is lost then. -/
theorem narrows_minMax : Narrows (fun r : α × α => Positive r.1 ∧ Positive r.2)
    (fun r => (min r.1 r.2, max r.1 r.2)) IsRange where
  within h := ⟨h.1, h.2.1⟩
  passes := by
    rintro ⟨lo, hi⟩ ⟨hlo, hhi⟩
    rcases lt_or_gt_or_beq hlo.1 hhi.1 with h | h | h
    · rw [minMax_of_lt hlo.1 hhi.1 h]
      exact ⟨hlo, hhi, (le_iff hlo.1 hhi.1).mpr (lt_asymm hlo.1 hhi.1 h)⟩
    · rw [minMax_of_gt hlo.1 hhi.1 h]
      exact ⟨hhi, hlo, (le_iff hhi.1 hlo.1).mpr (lt_asymm hhi.1 hlo.1 h)⟩
    · rw [minMax_of_beq hlo.1 hhi.1 h]
      exact ⟨hlo, hlo, (le_iff hlo.1 hlo.1).mpr (lt_irrefl hlo.1)⟩
  kept := by
    rintro ⟨lo, hi⟩ ⟨hlo, hhi, hle⟩
    have hself := beq_self hlo.1
    rcases lt_or_gt_or_beq hlo.1 hhi.1 with h | h | h
    · rw [minMax_of_lt hlo.1 hhi.1 h]
      exact Bool.and_eq_true_iff.mpr ⟨hself, beq_self hhi.1⟩
    · exact absurd h ((le_iff hlo.1 hhi.1).mp hle)
    · rw [minMax_of_beq hlo.1 hhi.1 h]
      exact Bool.and_eq_true_iff.mpr ⟨hself, h⟩
  again := by
    rintro ⟨lo, hi⟩ ⟨hlo, hhi⟩
    rcases lt_or_gt_or_beq hlo.1 hhi.1 with h | h | h
    · rw [minMax_of_lt hlo.1 hhi.1 h]
      exact minMax_of_lt hlo.1 hhi.1 h
    · rw [minMax_of_gt hlo.1 hhi.1 h]
      exact minMax_of_lt hhi.1 hlo.1 h
    · rw [minMax_of_beq hlo.1 hhi.1 h]
      exact minMax_of_beq hlo.1 hlo.1 (beq_self hlo.1)
  respects := by
    rintro ⟨lo, hi⟩ ⟨lo', hi'⟩ h ⟨hlo, hhi, hle⟩
    obtain ⟨hbot, htop⟩ := Bool.and_eq_true_iff.mp h
    have hlo' := respects_positive hbot hlo
    exact ⟨hlo', respects_positive htop hhi,
      (le_congr_right hhi.1 hlo'.1 htop).mp ((le_congr hlo.1 hhi.1 hbot).mp hle)⟩

/-- Limits that cannot be zooms are replaced first, which may turn the order round. -/
theorem repairs_minMax {bottom top : α} (hbottom : Positive bottom) (htop : Positive top) :
    Repairs (fun r : α × α => (min (positiveOr r.1 bottom) (positiveOr r.2 top),
      max (positiveOr r.1 bottom) (positiveOr r.2 top))) IsRange :=
  narrows_minMax.repairs (f := fun r => (positiveOr r.1 bottom, positiveOr r.2 top))
    (fun r => ⟨positiveOr_positive hbottom r.1, positiveOr_positive htop r.2⟩)
    (fun hr => Prod.ext (positiveOr_eq bottom hr.1) (positiveOr_eq top hr.2))

end Ordered

end Scalar

/-! ## Valid settings -/

open Scalar

variable {α : Type} [Scalar α]

/-- With these a step of the force model does not diverge. -/
@[mk_iff]
structure ForceParams.Valid (p : ForceParams α) : Prop where
  linkDistance : NonNegative p.linkDistance
  linkStiffness : NonNegative p.linkStiffness
  springMax : NonNegative p.springMax
  repulsion : NonNegative p.repulsion
  repulsionMax : NonNegative p.repulsionMax
  centerStrength : Finite p.centerStrength
  damping : InUnit p.damping
  collisionPadding : Finite p.collisionPadding
  collisionStrength : NonNegative p.collisionStrength
  step : NonNegative p.step
  cellSize : Positive p.cellSize
  energyDecay : InUnit p.energyDecay
  energyFloor : PositiveInUnit p.energyFloor
  epsilon : Positive p.epsilon

/-- Limits that a zoom can be brought between, and movements of one frame at least. -/
@[mk_iff]
structure ViewLimits.Valid (l : ViewLimits α) : Prop where
  zooms : IsRange (l.minZoom, l.maxZoom)
  fitMaxZoom : Positive l.fitMaxZoom
  wheelStep : Positive l.wheelStep
  fitPadding : NonNegative l.fitPadding
  focusFrames : 1 ≤ l.focusFrames

@[mk_iff]
structure GestureSettings.Valid (s : GestureSettings α) : Prop where
  clickSlop : NonNegative s.clickSlop

@[mk_iff]
structure Settings.Valid (s : Settings α) : Prop where
  physics : s.physics.Valid
  viewport : s.viewport.Valid
  interaction : s.interaction.Valid

instance (p : ForceParams α) : Decidable p.Valid := decidable_of_iff _ (ForceParams.valid_iff p).symm
instance (l : ViewLimits α) : Decidable l.Valid := decidable_of_iff _ (ViewLimits.valid_iff l).symm
instance (s : GestureSettings α) : Decidable s.Valid :=
  decidable_of_iff _ (GestureSettings.valid_iff s).symm
instance (s : Settings α) : Decidable s.Valid := decidable_of_iff _ (Settings.valid_iff s).symm

theorem Settings.standard_valid : (Settings.standard : Settings Float).Valid := by decide

/-! ## Repair of records

A record equals another if each of its values does. -/

instance : BEq (ForceParams α) := ⟨fun a b => Settings.sameValues a.fields b.fields⟩
instance : BEq (ViewLimits α) :=
  ⟨fun a b => Settings.sameValues a.fields b.fields && a.focusFrames == b.focusFrames⟩
instance : BEq (GestureSettings α) := ⟨fun a b => Settings.sameValues a.fields b.fields⟩
instance : BEq (Settings α) := ⟨Settings.same⟩

/-- The values, each of which is repaired by itself. -/
def ForceParams.values (p : ForceParams α) :=
  (p.linkDistance, p.linkStiffness, p.springMax, p.repulsion, p.repulsionMax, p.centerStrength,
    p.damping, p.collisionPadding, p.collisionStrength, p.step, p.cellSize, p.energyDecay,
    p.energyFloor, p.epsilon)

/-- The two zooms are repaired together, since they may change places. -/
def ViewLimits.values (l : ViewLimits α) :=
  ((l.minZoom, l.maxZoom), l.fitMaxZoom, l.wheelStep, l.fitPadding, l.focusFrames)

theorem ForceParams.same_values (p q : ForceParams α) : (p == q) = (p.values == q.values) := by
  change Settings.sameValues p.fields q.fields = _
  simp only [Settings.sameValues, fields, values, List.zip_cons_cons, List.zip_nil_left,
    List.all_cons, List.all_nil, Bool.and_true]
  rfl

theorem ViewLimits.same_values (l m : ViewLimits α) : (l == m) = (l.values == m.values) := by
  change (Settings.sameValues l.fields m.fields && l.focusFrames == m.focusFrames) = _
  simp only [Settings.sameValues, fields, List.zip_cons_cons, List.zip_nil_left,
    List.all_cons, List.all_nil, Bool.and_true, Bool.and_assoc]
  change _ = ((l.minZoom == m.minZoom && l.maxZoom == m.maxZoom) && _)
  rw [Bool.and_assoc]
  rfl

section Ordered

variable [Ordered α]

theorem ForceParams.repairs (hd : (standard : ForceParams α).Valid) :
    Repairs (sanitized : ForceParams α → ForceParams α) Valid := by
  -- One rule for each value, in the order of the values.
  refine Repairs.record (e := values)
    ((repairs_max hd.linkDistance).prod <| (repairs_max hd.linkStiffness).prod <|
      (repairs_abs hd.springMax).prod <| (repairs_max hd.repulsion).prod <|
      (repairs_abs hd.repulsionMax).prod <| (repairs_finite hd.centerStrength).prod <|
      (repairs_clampUnit hd.damping).prod <| (repairs_finite hd.collisionPadding).prod <|
      (repairs_max hd.collisionStrength).prod <| (repairs_max hd.step).prod <|
      (repairs_positive hd.cellSize).prod <| (repairs_clampUnit hd.energyDecay).prod <|
      (repairs_min hd.energyFloor).prod (repairs_positive hd.epsilon))
    (fun _ => rfl) valid_iff same_values ?_
  rintro ⟨⟩ ⟨⟩ h
  simpa only [values, Prod.mk.injEq, mk.injEq] using h

theorem ViewLimits.repairs (hd : (standard : ViewLimits α).Valid) :
    Repairs (sanitized : ViewLimits α → ViewLimits α) Valid := by
  have hframes : Repairs (Nat.max · 1) (1 ≤ ·) :=
    ⟨fun n => Nat.le_max_right n 1, fun h => beq_iff_eq.mpr (Nat.max_eq_left h),
      fun n => Nat.max_eq_left (Nat.le_max_right n 1), fun h hx => beq_iff_eq.mp h ▸ hx⟩
  refine Repairs.record (e := values)
    ((repairs_minMax hd.zooms.1 hd.zooms.2.1).prod <| (repairs_positive hd.fitMaxZoom).prod <|
      (repairs_positive hd.wheelStep).prod <|
      (narrows_max.repairs_ite hd.fitPadding (max_zero_eq hd.fitPadding)).prod hframes)
    (fun _ => rfl) valid_iff same_values ?_
  rintro ⟨⟩ ⟨⟩ h
  simpa only [values, Prod.mk.injEq, mk.injEq, and_assoc] using h

theorem GestureSettings.repairs (hd : (standard : GestureSettings α).Valid)
    (habs : abs (standard : GestureSettings α).clickSlop = standard.clickSlop) :
    Repairs (sanitized : GestureSettings α → GestureSettings α) Valid := by
  refine Repairs.record (e := clickSlop) (narrows_abs.repairs_ite hd.clickSlop habs)
    (fun _ => rfl) valid_iff (fun s t => ?_) ?_
  · exact Bool.and_true (s.clickSlop == t.clickSlop)
  · rintro ⟨⟩ ⟨⟩ rfl
    rfl

theorem Settings.repairs (hd : (standard : Settings α).Valid)
    (habs : abs (standard : Settings α).interaction.clickSlop = standard.interaction.clickSlop) :
    Repairs (sanitized : Settings α → Settings α) Valid := by
  refine Repairs.record (e := fun s => (s.physics, s.viewport, s.interaction))
    ((ForceParams.repairs hd.physics).prod <| (ViewLimits.repairs hd.viewport).prod <|
      GestureSettings.repairs hd.interaction habs)
    (fun _ => rfl) valid_iff (fun s t => ?_) ?_
  · change Settings.same s t = (_ && ((_ && _) && _))
    rw [Settings.same, Bool.and_assoc, Bool.and_assoc, Bool.and_assoc]
    rfl
  · rintro ⟨⟩ ⟨⟩ h
    simpa only [Prod.mk.injEq, mk.injEq] using h

end Ordered

/-! ## Floats -/

theorem Settings.repairs_float : Repairs (sanitized : Settings Float → Settings Float) Valid :=
  repairs standard_valid (by decide)

/-- Repair makes any settings valid, it leaves alone exactly the valid ones, where a zero equals a
negative zero, and who takes settings need not care whether they are repaired already. -/
theorem Settings.sanitized_projection (s : Settings Float) :
    s.sanitized.Valid ∧ (s.sanitized.same s = true ↔ s.Valid) ∧
      s.sanitized.sanitized = s.sanitized ∧
      -- Each part repairs what it takes, and so has the repaired settings in use.
      (Widget.new s).settings = s.sanitized ∧
      (Widget.new s).simulation.physics.params = s.sanitized.physics ∧
      (Widget.new s).simulation.viewport.limits = s.sanitized.viewport ∧
      (GestureTracker.new (Widget.new s).settings.interaction).settings = s.sanitized.interaction ∧
      Widget.new s.sanitized = Widget.new s ∧
      (∀ width height ratio,
        Simulation.new s.sanitized width height ratio = Simulation.new s width height ratio) ∧
      Physics.new s.sanitized.physics = Physics.new s.physics ∧
      (∀ width height ratio, Viewport.new s.sanitized.viewport width height ratio =
        Viewport.new s.viewport width height ratio) ∧
      GestureTracker.new s.sanitized.interaction = GestureTracker.new s.interaction := by
  have hagain : s.sanitized.sanitized = s.sanitized := repairs_float.again s
  have hphysics : s.sanitized.physics.sanitized = s.physics.sanitized :=
    congrArg physics hagain
  have hviewport : s.sanitized.viewport.sanitized = s.viewport.sanitized :=
    congrArg viewport hagain
  have hinteraction : s.sanitized.interaction.sanitized = s.interaction.sanitized :=
    congrArg interaction hagain
  have hforce : Physics.new s.sanitized.physics = Physics.new s.physics := by
    simp only [Physics.new, hphysics]
  have hview width height ratio : Viewport.new s.sanitized.viewport width height ratio =
      Viewport.new s.viewport width height ratio := by
    simp only [Viewport.new, hviewport]
  have hsimulation width height ratio :
      Simulation.new s.sanitized width height ratio = Simulation.new s width height ratio := by
    simp only [Simulation.new, hforce, hview]
  have hwidget : Widget.new s.sanitized = Widget.new s := by
    simp only [Widget.new, hagain]
  have hgesture : GestureTracker.new s.sanitized.interaction = GestureTracker.new s.interaction := by
    simp only [GestureTracker.new, hinteraction]
  exact ⟨repairs_float.passes s, repairs_float.same_iff s, hagain, rfl, hphysics, hviewport,
    hinteraction, hwidget, hsimulation, hforce, hview, hgesture⟩

end NodeLink
