import NodeLink.Proofs.View.Anchor
/-!
# Where a movement ends

A movement to a world point takes a number of frames, and ends with the last of them whatever comes
in between. Its goal is the shift that would show the point in the middle of the canvas, with the
zoom and the canvas of the start. Zooms and resizes on the way change both, but not the goal: at the
end the point is off the middle by what the zoom has moved it, and by what the middle itself has
moved.

* `Viewport.animation_run`: a movement counts its frames, and nothing else changes it on the way.
* `Viewport.movement_ends`: when the movement ends and where it leaves its point.
-/

namespace NodeLink

open Exact

namespace Viewport

section Moves

variable {α : Type} [Scalar α]

def Move.isAdvance : Move α → Bool
  | .advance => true
  | _ => false

/-- Whether a move may come on the way: a frame, a zoom about a point or a new size. -/
def Move.accompanies : Move α → Bool
  | .advance | .resize .. | .zoomAt .. | .wheel .. => true
  | _ => false

/-- The device pixel in the middle of the canvas. -/
def middle (v : Viewport α) : Point α := ⟨v.width * 0.5, v.height * 0.5⟩

def movementFrames (v : Viewport α) : Nat := Nat.max v.limits.focusFrames 1

/-- The movement from a view to a world point, after some of its frames. -/
def movementTo (v : Viewport α) (p : Point α) (frame : Nat) : PanAnimation α where
  start := v.shift
  goal := (v.centered p v.transform.k).shift
  frame := frame
  frames := v.movementFrames

theorem zoom_advance (v : Viewport α) : v.advance.transform.k = v.transform.k := by
  rw [advance_eq]

theorem advance_movementTo {v start : Viewport α} {p : Point α} {frame : Nat}
    (h : v.animation = some (start.movementTo p frame)) :
    v.advance = v.underway (start.movementTo p (frame + 1))
      (easeOut (Scalar.ofNat (frame + 1) / Scalar.ofNat start.movementFrames)) := by
  rw [advance, h]
  rfl

/-- Only frames change a movement, among the moves on the way. -/
theorem animation_perform (v : Viewport α) {m : Move α} (hm : m.accompanies = true)
    (hframe : m.isAdvance = false) : (v.perform m).animation = v.animation := by
  cases m with
  | resize | zoomAt => rfl
  | wheel p deltaY =>
    rw [perform]
    exact v.wheel_cases p deltaY rfl fun _ => rfl
  | advance => exact absurd hframe.symm Bool.false_ne_true
  | panFrom | fit | animateTo => exact absurd hm Bool.false_ne_true

/-- A movement counts its frames, and lasts while there are some left. -/
theorem animation_run {v start : Viewport α} {p : Point α} {frame : Nat}
    (h : v.animation = some (start.movementTo p frame)) {moves : List (Move α)}
    (hmoves : ∀ m ∈ moves, m.accompanies = true)
    (hleft : frame + moves.countP Move.isAdvance < start.movementFrames) :
    (v.run moves).animation =
      some (start.movementTo p (frame + moves.countP Move.isAdvance)) := by
  -- the view and its frame change with every move, the movement it is on does not
  induction moves generalizing v frame with
  | nil => exact h
  | cons m rest ih =>
    have hrest : ∀ m' ∈ rest, m'.accompanies = true :=
      fun m' hm' => hmoves m' (List.mem_cons_of_mem m hm')
    cases hframe : m.isAdvance with
    | false =>
      have hnext : (v.perform m).animation = some (start.movementTo p frame) :=
        (v.animation_perform (hmoves m List.mem_cons_self) hframe).trans h
      have hcount : (m :: rest).countP Move.isAdvance = rest.countP Move.isAdvance :=
        List.countP_cons_of_neg (by rw [hframe]; exact Bool.false_ne_true)
      rw [hcount] at hleft ⊢
      exact ih hnext hrest hleft
    | true =>
      have hcount : frame + (m :: rest).countP Move.isAdvance =
          frame + 1 + rest.countP Move.isAdvance := by
        rw [List.countP_cons_of_pos hframe]
        omega
      rw [hcount] at hleft ⊢
      have hnext : (v.perform m).animation = some (start.movementTo p (frame + 1)) := by
        cases m with
        | advance =>
          -- not the last one, so the movement goes on
          rw [perform, advance_movementTo h]
          have hgoing : ¬start.movementFrames ≤ frame + 1 := by omega
          exact if_neg hgoing
        | _ => exact absurd hframe Bool.false_ne_true
      exact ih hnext hrest hleft

end Moves

/-! ## The last frame -/

/-- What an eased movement leaves of its way shrinks with the cube of the frames left. -/
theorem easeOut_frame {i n : ℕ} (hi : i ≤ n) (hn : 0 < n) :
    easeOut (Scalar.ofNat i / Scalar.ofNat n : Exact) = real (1 - (1 - i / n) ^ 3) := by
  have hpos : (0 : ℝ) < n := Nat.cast_pos.mpr hn
  have hpart : (Scalar.ofNat i / Scalar.ofNat n : Exact) = real (i / n) := real_div _ hpos.ne'
  have hlow : ¬(i / n : ℝ) < 0 := not_lt.mpr (div_nonneg i.cast_nonneg hpos.le)
  have hhigh : ¬(1 : ℝ) < i / n :=
    not_lt.mpr ((div_le_one hpos).mpr (Nat.cast_le.mpr hi))
  rw [hpart]
  simp only [easeOut, Scalar.clampUnit, literal_eq, clamp_real, real_sub, real_mul, Nat.cast_zero,
    Nat.cast_one, if_neg hlow, if_neg hhigh]
  congr 1
  ring

theorem easeOut_last {n : ℕ} (hn : 0 < n) :
    easeOut (Scalar.ofNat n / Scalar.ofNat n : Exact) = real 1 := by
  rw [easeOut_frame (Nat.le_refl n) hn, div_self (Nat.cast_pos.mpr hn).ne']
  norm_num

/-- The last frame puts the shift at the goal, which was set for the zoom `k` and is met at `k'`. -/
theorem arrives {x shift side k k' : Exact} (hx : Scalar.isFinite x = true)
    (hshift : Scalar.isFinite shift = true) (hside : Scalar.isFinite side = true) (hk : k.Positive)
    (hk' : k'.Positive) :
    x * k' + (shift + (side * 0.5 - x * k - shift) * real 1) = side * 0.5 + x * (k' - k) := by
  obtain ⟨x, rfl⟩ := finite_iff.mp hx
  obtain ⟨s, rfl⟩ := finite_iff.mp hshift
  obtain ⟨w, rfl⟩ := finite_iff.mp hside
  obtain ⟨k, -, rfl⟩ := hk
  obtain ⟨k', -, rfl⟩ := hk'
  simp only [decimal_eq, real_mul, real_sub, real_add]
  congr 1
  ring

theorem add_eq_iff {a b : Exact} (ha : Scalar.isFinite a = true) (hb : Scalar.isFinite b = true)
    (c : Exact) : a + b = c ↔ b = c - a := by
  obtain ⟨x, rfl⟩ := finite_iff.mp ha
  obtain ⟨y, rfl⟩ := finite_iff.mp hb
  cases c with
  | real z =>
    rw [real_add, real_sub, Exact.real.injEq, Exact.real.injEq]
    exact eq_sub_iff_add_eq'.symm
  | infinity | nan => exact iff_of_false Exact.noConfusion Exact.noConfusion

section Ends

variable {v : Viewport Exact} {p : Point Exact} {moves : List (Move Exact)}

theorem animation_before_end (hmoves : ∀ m ∈ moves, m.accompanies = true)
    (hcount : moves.countP Move.isAdvance + 1 = v.movementFrames) :
    ((v.animateTo p).run moves).animation =
      some (v.movementTo p (moves.countP Move.isAdvance)) := by
  have hstart : (v.animateTo p).animation = some (v.movementTo p 0) := rfl
  have hlasts := animation_run hstart hmoves (by omega)
  rwa [Nat.zero_add] at hlasts

theorem advance_end (hmoves : ∀ m ∈ moves, m.accompanies = true)
    (hcount : moves.countP Move.isAdvance + 1 = v.movementFrames) :
    ((v.animateTo p).run moves).advance =
      ((v.animateTo p).run moves).underway (v.movementTo p v.movementFrames) (real 1) := by
  rw [advance_movementTo (animation_before_end hmoves hcount), hcount, easeOut_last (by omega)]

theorem animation_end (hmoves : ∀ m ∈ moves, m.accompanies = true)
    (hcount : moves.countP Move.isAdvance + 1 = v.movementFrames) :
    ((v.animateTo p).run moves).advance.animation = none := by
  rw [advance_end hmoves hcount]
  exact if_pos (Nat.le_refl v.movementFrames)

/-- The point ends in what was the middle of the canvas, and from there as far as the zoom has moved
it since. -/
theorem toScreen_end (hv : v.Faithful) (hwidth : Scalar.isFinite v.width = true)
    (hheight : Scalar.isFinite v.height = true) (hp : p.isFinite = true)
    (hmoves : ∀ m ∈ moves, m.accompanies = true)
    (hcount : moves.countP Move.isAdvance + 1 = v.movementFrames) :
    ((v.animateTo p).run moves).advance.toScreen p = v.middle.add
      (p.scale (((v.animateTo p).run moves).transform.k - v.transform.k)) := by
  have hzoom : ((v.animateTo p).run moves).transform.k.Positive :=
    ((hv.perform (.animateTo p)).run moves).zoom
  obtain ⟨hshiftX, hshiftY⟩ := Point.isFinite_iff.mp hv.place
  obtain ⟨hx, hy⟩ := Point.isFinite_iff.mp hp
  rw [advance_end hmoves hcount]
  exact congrArg₂ Point.mk (arrives hx hshiftX hwidth hv.zoom hzoom)
    (arrives hy hshiftY hheight hv.zoom hzoom)

end Ends

/-- A movement to a world point, with any zooms and resizes on the way. It lasts through all its
frames but the last, and ends with that one. The point is then off what was the middle of the canvas
at the start by what the zoom has moved it since; so it is in the middle exactly if the middle has
moved by as much. -/
theorem movement_ends {v : Viewport Exact} (hv : v.Faithful) (hwidth : Scalar.isFinite v.width = true)
    (hheight : Scalar.isFinite v.height = true) {p : Point Exact} (hp : p.isFinite = true)
    {moves : List (Move Exact)} (hmoves : ∀ m ∈ moves, m.accompanies = true)
    (hcount : moves.countP Move.isAdvance + 1 = v.movementFrames) :
    let before := (v.animateTo p).run moves
    let after := before.advance
    let drift := p.scale (after.transform.k - v.transform.k)
    before.animation.isSome = true ∧ after.animation = none ∧
      after.toScreen p = v.middle.add drift ∧
      (after.toScreen p = after.middle ↔ drift = after.middle.sub v.middle) := by
  intro before after drift
  have hzoom : after.transform.k = before.transform.k := zoom_advance before
  have hdrawn : after.toScreen p = v.middle.add drift := by
    show after.toScreen p = v.middle.add (p.scale (after.transform.k - v.transform.k))
    rw [hzoom]
    exact toScreen_end hv hwidth hheight hp hmoves hcount
  have hdrift : Scalar.isFinite (after.transform.k - v.transform.k) = true := by
    rw [hzoom]
    exact finite_sub ((hv.perform (.animateTo p)).run moves).zoom.finite hv.zoom.finite
  obtain ⟨hx, hy⟩ := Point.isFinite_iff.mp hp
  have hmiddleX : Scalar.isFinite (v.width * 0.5) = true := finite_mul hwidth (isFinite_real _)
  have hmiddleY : Scalar.isFinite (v.height * 0.5) = true := finite_mul hheight (isFinite_real _)
  refine ⟨?_, animation_end hmoves hcount, hdrawn, ?_⟩
  · rw [animation_before_end hmoves hcount]
    rfl
  · rw [hdrawn]
    simp only [Point.add, Point.sub, middle, drift, Point.scale, Point.mk.injEq,
      add_eq_iff hmiddleX (finite_mul hx hdrift), add_eq_iff hmiddleY (finite_mul hy hdrift)]

/-! ## A missed goal -/

theorem run_frames (v : Viewport Exact) (n : ℕ) :
    let w := v.run (List.replicate n .advance)
    w.transform.k = v.transform.k ∧ w.width = v.width ∧ w.height = v.height := by
  obtain ⟨place, animation, hframes⟩ := v.exists_frames n
  intro w
  rw [show w = _ from hframes]
  exact ⟨rfl, rfl, rfl⟩

/-- One notch of the wheel over the middle of the canvas, and all frames but the last. -/
noncomputable def notchThenFrames : List (Move Exact) :=
  .wheel ⟨400, 300⟩ (-1) :: List.replicate 15 .advance

theorem accompanies_notchThenFrames : ∀ m ∈ notchThenFrames, m.accompanies = true := by
  simp [notchThenFrames, Move.accompanies]

theorem countP_notchThenFrames :
    notchThenFrames.countP Move.isAdvance + 1 = plainView.movementFrames := rfl

theorem faithful_plainView : plainView.Faithful := by
  have hfirst := (new_zoomed ViewLimits.standard 800 600 1).1
  rw [new_plainView] at hfirst
  exact ⟨hfirst, rfl⟩

/-- Right of the middle of the first view. -/
noncomputable def beside : Point Exact := ⟨100, 0⟩

theorem run_notchThenFrames :
    let before := (plainView.animateTo beside).run notchThenFrames
    before.transform.k = 1.12 ∧ before.width = 800 ∧ before.height = 600 := by
  let notched : Viewport Exact := (plainView.animateTo beside).wheel ⟨400, 300⟩ (-1)
  have hk : notched.transform.k = 1.12 := zoom_wheel_standard rfl rfl rfl _
  have hsize : notched.width = 800 ∧ notched.height = 600 :=
    wheel_cases (motive := fun w => w.width = 800 ∧ w.height = 600) (plainView.animateTo beside)
      ⟨400, 300⟩ (-1) ⟨rfl, rfl⟩ fun _ => ⟨rfl, rfl⟩
  obtain ⟨hzoom, hwidth, hheight⟩ := run_frames notched 15
  exact ⟨hzoom.trans hk, hwidth.trans hsize.1, hheight.trans hsize.2⟩

/-- Twelve pixels right of the middle, where the movement should have brought it. -/
theorem toScreen_notchThenFrames_ne :
    (∀ m ∈ notchThenFrames, m.accompanies = true) ∧
      notchThenFrames.countP Move.isAdvance + 1 = plainView.movementFrames ∧
      let after := ((plainView.animateTo beside).run notchThenFrames).advance
      after.animation = none ∧ after.toScreen beside = ⟨412, 300⟩ ∧
        after.middle = ⟨400, 300⟩ ∧ after.toScreen beside ≠ after.middle := by
  refine ⟨accompanies_notchThenFrames, countP_notchThenFrames, ?_⟩
  intro after
  obtain ⟨hk, hwidth, hheight⟩ := run_notchThenFrames
  have hended : after.animation = none :=
    animation_end accompanies_notchThenFrames countP_notchThenFrames
  have hplace : after.toScreen beside = ⟨412, 300⟩ := by
    have hend := toScreen_end faithful_plainView rfl rfl (p := beside) rfl
      accompanies_notchThenFrames countP_notchThenFrames
    rw [hk] at hend
    refine hend.trans ?_
    simp only [plainView, middle, beside, Point.scale, Point.add, literal_eq, decimal_eq, real_mul,
      real_sub, real_add]
    norm_num
  have hmiddle : after.middle = ⟨400, 300⟩ := by
    show (⟨after.width * 0.5, after.height * 0.5⟩ : Point Exact) = _
    rw [show after = _ from advance_eq _]
    simp only [hwidth, hheight, literal_eq, decimal_eq, real_mul]
    norm_num
  refine ⟨hended, hplace, hmiddle, ?_⟩
  rw [hplace, hmiddle]
  intro h
  have hx := Exact.real.inj (congrArg Point.x h)
  norm_num at hx

theorem movement_ends_notchThenFrames :
    plainView.Faithful ∧ Scalar.isFinite plainView.width = true ∧
      Scalar.isFinite plainView.height = true ∧ beside.isFinite = true ∧
      (∀ m ∈ notchThenFrames, m.accompanies = true) ∧
      notchThenFrames.countP Move.isAdvance + 1 = plainView.movementFrames ∧
      let after := ((plainView.animateTo beside).run notchThenFrames).advance
      after.animation = none ∧ after.toScreen beside =
        plainView.middle.add (beside.scale (after.transform.k - plainView.transform.k)) :=
  have hends := movement_ends faithful_plainView rfl rfl (p := beside) rfl
    accompanies_notchThenFrames countP_notchThenFrames
  ⟨faithful_plainView, rfl, rfl, rfl, accompanies_notchThenFrames, countP_notchThenFrames,
    hends.2.1, hends.2.2.1⟩

end Viewport
end NodeLink
