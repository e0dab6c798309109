import Mathlib.Data.List.DropRight
import NodeLink.Proofs.Settings.Exact
import NodeLink.Proofs.Simulation.Run
/-!
# How the layout cools

A step leaves a part of the energy and brings it up to the floor, and a reheat makes it full again.
To bring it up with each step comes to the same as to do it once in the end. So the energy is a
power of what one step leaves, or the floor if that is more.

* `Physics.energy_takeTurns`: the energy after any steps and reheats.
* `Simulation.exists_turns_run`: a simulation does nothing else to its force model.
* `Physics.energy_cools`: what follows for the course of the energy.
-/

namespace NodeLink

/-! ## Steps and reheats -/

namespace Physics

section Turns

variable {α : Type}

/-- What is done to a force model. The graph can be another one with each step. -/
inductive Turn (α : Type) where
  | step (g : Graph α)
  | reheat

def Turn.isStep : Turn α → Bool
  | .step _ => true
  | .reheat => false

/-- The number of steps since the last reheat, or since the beginning. -/
def stepsSinceReheat (turns : List (Turn α)) : Nat := (turns.rtakeWhile Turn.isStep).length

theorem stepsSinceReheat_step (turns : List (Turn α)) (g : Graph α) :
    stepsSinceReheat (turns ++ [.step g]) = stepsSinceReheat turns + 1 := by
  rw [stepsSinceReheat, List.rtakeWhile_concat_pos _ _ _ rfl, List.length_append,
    List.length_singleton, ← stepsSinceReheat]

theorem stepsSinceReheat_reheat (turns : List (Turn α)) :
    stepsSinceReheat (turns ++ [.reheat]) = 0 := by
  rw [stepsSinceReheat, List.rtakeWhile_concat_neg _ _ _ Bool.false_ne_true, List.length_nil]

theorem le_stepsSinceReheat_append (turns : List (Turn α)) {steps : List (Turn α)}
    (hsteps : ∀ t ∈ steps, t.isStep = true) :
    stepsSinceReheat turns ≤ stepsSinceReheat (turns ++ steps) := by
  induction steps generalizing turns with
  | nil => rw [List.append_nil]
  | cons t rest ih =>
    obtain ⟨ht, hrest⟩ := List.forall_mem_cons.mp hsteps
    cases t with
    | reheat => exact absurd ht Bool.false_ne_true
    | step g =>
      have hlater := ih (turns ++ [.step g]) hrest
      rw [stepsSinceReheat_step, List.append_assoc, List.singleton_append] at hlater
      exact Nat.le_of_succ_le hlater

variable [Scalar α]

def turn (ph : Physics α) : Turn α → Physics α
  | .step g => (ph.step g).1
  | .reheat => ph.reheat

def takeTurns (ph : Physics α) (turns : List (Turn α)) : Physics α := turns.foldl turn ph

/-- The energy of a new force model after some turns. -/
def energyAfter (given : ForceParams α) (turns : List (Turn α)) : α :=
  ((new given).takeTurns turns).energy.value

theorem takeTurns_append (ph : Physics α) (first second : List (Turn α)) :
    ph.takeTurns (first ++ second) = (ph.takeTurns first).takeTurns second := List.foldl_append

theorem params_turn (ph : Physics α) (t : Turn α) : (ph.turn t).params = ph.params := by
  cases t with
  | step g => rfl
  | reheat => rfl

theorem params_takeTurns (ph : Physics α) (turns : List (Turn α)) :
    (ph.takeTurns turns).params = ph.params := by
  induction turns generalizing ph with
  | nil => rfl
  | cons t rest ih => exact (ih (ph.turn t)).trans (ph.params_turn t)

end Turns

end Physics

/-! ## The turns of a simulation -/

namespace Simulation

section Turns

variable {α : Type}

theorem physics_deselect (s : Simulation α) : s.deselect.physics = s.physics := by
  unfold deselect
  split
  · rfl
  · rfl

theorem physics_setRunning (s : Simulation α) (running : Bool) :
    (s.setRunning running).physics = s.physics := by
  unfold setRunning
  split
  · rfl
  · rfl

theorem physics_endDrag (s : Simulation α) : s.endDrag.physics = s.physics := by
  unfold endDrag
  split
  · rfl
  · rfl

theorem physics_releaseHub (s : Simulation α) : s.releaseHub.physics = s.physics := by
  unfold releaseHub
  split
  · rfl
  · dsimp only
    split
    · rfl
    · split
      · rfl
      · rfl

variable [Scalar α]

theorem physics_togglePin (s : Simulation α) (id : String) :
    (s.togglePin id).1.physics = s.physics := by
  unfold togglePin
  split
  · rfl
  · rfl

theorem physics_dragTo (s : Simulation α) (place : Point α) :
    (s.dragTo place).1.physics = s.physics := by
  unfold dragTo
  split
  · rfl
  · split
    · rfl
    · rfl

theorem physics_load (s : Simulation α) (raw : Json) : (s.load raw).physics = s.physics.reheat := by
  rw [load_eq, setGraph_eq]

/-- A node that is there is selected, which heats the layout. -/
theorem physics_select (s : Simulation α) (id : String) :
    (s.select id).1.physics = s.physics ∨ (s.select id).1.physics = s.physics.reheat := by
  unfold select
  split
  · exact .inr rfl
  · exact .inl rfl

theorem physics_focus (s : Simulation α) (id : String) :
    (s.focus id).1.physics = s.physics ∨ (s.focus id).1.physics = s.physics.reheat := by
  unfold focus
  split
  · exact .inl rfl
  · exact s.physics_select id

theorem physics_beginDrag (s : Simulation α) (i : Nat) :
    (s.beginDrag i).1.physics = s.physics ∨ (s.beginDrag i).1.physics = s.physics.reheat := by
  unfold beginDrag
  dsimp only
  split
  · exact .inl s.physics_endDrag
  · exact .inr (congrArg Physics.reheat s.physics_endDrag)

/-- In a frame the forces act on the graph there is, unless the layout is paused. -/
theorem physics_tick (s : Simulation α) :
    s.tick.physics = s.physics ∨ s.tick.physics = (s.physics.step s.graph).1 := by
  have hforces : s.tick.physics = s.stepForces.physics := physics_releaseHub _
  rw [hforces, stepForces]
  split
  · exact .inr rfl
  · exact .inl rfl

/-- An operation heats the layout, or lets it take a step, or leaves the force model as it is. -/
theorem exists_turns_apply (s : Simulation α) (op : Operation α) :
    ∃ turns, (s.apply op).physics = s.physics.takeTurns turns := by
  have hkept {ph : Physics α} (h : ph = s.physics) : ∃ turns, ph = s.physics.takeTurns turns :=
    ⟨[], h⟩
  have hheated {ph : Physics α} (h : ph = s.physics ∨ ph = s.physics.reheat) :
      ∃ turns, ph = s.physics.takeTurns turns :=
    h.elim hkept fun h => ⟨[.reheat], h⟩
  cases hl : op.loads with
  | true =>
    obtain ⟨raw, hraw⟩ := apply_of_loads hl
    rw [hraw]
    exact hheated (.inr (s.physics_load raw))
  | false =>
    cases op with
    | load raw => exact absurd hl.symm Bool.false_ne_true
    | loadText text =>
      rw [apply_loadText hl]
      exact hkept rfl
    | tick => exact s.physics_tick.elim hkept fun h => ⟨[.step s.graph], h⟩
    | select id => exact hheated (s.physics_select id)
    | deselect => exact hkept s.physics_deselect
    | focus id => exact hheated (s.physics_focus id)
    | setRunning running => exact hkept (s.physics_setRunning running)
    | toggleRunning => exact hkept (s.physics_setRunning _)
    | reheat => exact hheated (.inr rfl)
    | togglePin id => exact hkept (s.physics_togglePin id)
    | beginDrag i => exact hheated (s.physics_beginDrag i)
    | dragTo place => exact hkept (s.physics_dragTo place)
    | endDrag => exact hkept s.physics_endDrag
    | resize | fit | setHover | toast | drain => exact hkept rfl

theorem exists_turns_run (s : Simulation α) (ops : List (Operation α)) :
    ∃ turns, (s.run ops).physics = s.physics.takeTurns turns := by
  refine run_keeps (P := fun t => ∃ turns, t.physics = s.physics.takeTurns turns)
    (fun t op _ ⟨before, hbefore⟩ => ?_) ⟨[], rfl⟩
  obtain ⟨turns, hturns⟩ := t.exists_turns_apply op
  exact ⟨before ++ turns, by rw [hturns, hbefore, Physics.takeTurns_append]⟩

end Turns

end Simulation

/-! ## The energy -/

open Exact

theorem Energy.decay_real (e factor floor : ℝ) :
    (⟨real e⟩ : Energy Exact).decay (real factor) (real floor) =
      ⟨real (min (max (e * factor) floor) 1)⟩ := by
  rw [decay, real_mul, max_real, literal_eq, Nat.cast_one, min_real]

namespace Physics

/-- What one step more leaves. The floor itself would fall below the floor, so it is brought up; the
bound above is never met. -/
theorem cooled_succ {floor decay : ℝ} (hfloor : 0 ≤ floor) (hfloor1 : floor ≤ 1)
    (hdecay : 0 ≤ decay) (hdecay1 : decay ≤ 1) (n : ℕ) :
    min (max (max floor (decay ^ n) * decay) floor) 1 = max floor (decay ^ (n + 1)) := by
  have hbelow : floor * decay ≤ floor := mul_le_of_le_one_right hfloor hdecay1
  rw [max_mul_of_nonneg _ _ hdecay, ← pow_succ, max_right_comm, max_eq_right hbelow]
  exact min_eq_left (max_le hfloor1 (pow_le_one₀ hdecay hdecay1))

/-- The parameters that the energy depends on, as real numbers. -/
structure CoolsBy (p : ForceParams Exact) (floor decay : ℝ) : Prop where
  energyFloor : p.energyFloor = real floor
  energyDecay : p.energyDecay = real decay
  floor_pos : 0 < floor
  floor_le : floor ≤ 1
  decay_nonneg : 0 ≤ decay
  decay_le : decay ≤ 1

theorem exists_coolsBy (given : ForceParams Exact) :
    ∃ floor decay, CoolsBy given.sanitized floor decay := by
  have hvalid : given.sanitized.Valid := given.valid_sanitized
  obtain ⟨hfinite, hpos, hle⟩ := hvalid.energyFloor
  obtain ⟨floor, hfloor⟩ := finite_iff.mp hfinite
  obtain ⟨hfinite', hnonneg, hle'⟩ := hvalid.energyDecay
  obtain ⟨decay, hdecay⟩ := finite_iff.mp hfinite'
  rw [hfloor, literal_eq] at hpos hle
  rw [hdecay, literal_eq] at hnonneg hle'
  simp only [real_lt, real_le, Nat.cast_zero, Nat.cast_one] at hpos hle hnonneg hle'
  exact ⟨floor, decay, hfloor, hdecay, hpos, hle, hnonneg, hle'⟩

theorem energy_takeTurns (ph : Physics Exact) (hfull : ph.energy = Energy.full) {floor decay : ℝ}
    (h : CoolsBy ph.params floor decay) (turns : List (Turn Exact)) :
    (ph.takeTurns turns).energy = ⟨real (max floor (decay ^ stepsSinceReheat turns))⟩ := by
  have hone : (Energy.full : Energy Exact) = ⟨real (max floor (decay ^ 0))⟩ := by
    rw [pow_zero, max_eq_right h.floor_le, Energy.full, literal_eq, Nat.cast_one]
  -- The last turn decides whether a step is counted or the count begins anew.
  induction turns using List.reverseRecOn with
  | nil => exact hfull.trans hone
  | append_singleton turns t ih =>
    rw [takeTurns_append]
    cases t with
    | reheat =>
      rw [stepsSinceReheat_reheat]
      exact hone
    | step g =>
      show (ph.takeTurns turns).energy.decay (ph.takeTurns turns).params.energyDecay
        (ph.takeTurns turns).params.energyFloor = _
      rw [stepsSinceReheat_step, ih, params_takeTurns, h.energyDecay, h.energyFloor,
        Energy.decay_real, cooled_succ h.floor_pos.le h.floor_le h.decay_nonneg h.decay_le]

/-- The energy of a force model after any steps and reheats, whatever its parameters were repaired
from: the `n`-th power of the decay, or the floor if that is more, for `n` steps since the last
reheat. So it lies between the floor and one, and steps alone never make it rise. A decay below one
brings it down to the floor in the end, where it stays. The force model of a simulation is never
treated in any other way. -/
theorem energy_cools (given : ForceParams Exact) :
    ∃ floor decay : ℝ, given.sanitized.energyFloor = real floor ∧
      given.sanitized.energyDecay = real decay ∧
      0 < floor ∧ floor ≤ 1 ∧ 0 ≤ decay ∧ decay ≤ 1 ∧
      (∀ turns, energyAfter given turns = real (max floor (decay ^ stepsSinceReheat turns))) ∧
      (∀ turns, real floor ≤ energyAfter given turns ∧ energyAfter given turns ≤ 1) ∧
      (∀ turns steps, (∀ t ∈ steps, t.isStep = true) →
        energyAfter given (turns ++ steps) ≤ energyAfter given turns) ∧
      (decay < 1 →
        ∃ n, ∀ turns, n ≤ stepsSinceReheat turns → energyAfter given turns = real floor) ∧
      ∀ (settings : Settings Exact) (width height ratio : Exact) (ops : List (Operation Exact)),
        settings.physics = given →
        ∃ turns, ((Simulation.new settings width height ratio).run ops).physics =
          (new given).takeTurns turns := by
  obtain ⟨floor, decay, h⟩ := exists_coolsBy given
  have hclosed (turns : List (Turn Exact)) :
      energyAfter given turns = real (max floor (decay ^ stepsSinceReheat turns)) :=
    congrArg Energy.value (energy_takeTurns (new given) rfl h turns)
  have hpower {m n : ℕ} (hmn : m ≤ n) : decay ^ n ≤ decay ^ m :=
    pow_le_pow_of_le_one h.decay_nonneg h.decay_le hmn
  refine ⟨floor, decay, h.energyFloor, h.energyDecay, h.floor_pos, h.floor_le, h.decay_nonneg,
    h.decay_le, hclosed, fun turns => ?_, fun turns steps hsteps => ?_, fun hless => ?_, ?_⟩
  · rw [hclosed, literal_eq, real_le, real_le, Nat.cast_one]
    exact ⟨le_max_left _ _, max_le h.floor_le (pow_le_one₀ h.decay_nonneg h.decay_le)⟩
  · rw [hclosed, hclosed, real_le]
    exact max_le_max_left floor (hpower (le_stepsSinceReheat_append turns hsteps))
  · obtain ⟨n, hn⟩ := exists_pow_lt_of_lt_one h.floor_pos hless
    refine ⟨n, fun turns hturns => ?_⟩
    rw [hclosed, max_eq_left ((hpower hturns).trans hn.le)]
  · rintro settings width height ratio ops rfl
    exact (Simulation.new settings width height ratio).exists_turns_run ops

/-- No number for a floor, and less than nothing left by a step. -/
noncomputable def frozenParams : ForceParams Exact :=
  { ForceParams.standard with energyFloor := nan, energyDecay := real (-1) }

theorem coolsBy_frozenParams : CoolsBy frozenParams.sanitized 0.02 0 := by
  have hfloor : Scalar.min (real 0.02) 1 = real 0.02 := by
    rw [literal_eq, min_real, Nat.cast_one, min_eq_left (by norm_num)]
  have hdecay : Scalar.clamp 0 1 (real (-1)) = real 0 := by
    rw [literal_eq, literal_eq, clamp_real, Nat.cast_zero, if_pos (by norm_num)]
  exact ⟨hfloor, hdecay, by norm_num, by norm_num, le_refl 0, zero_le_one⟩

theorem energy_cools_frozenParams :
    let steps : List (Turn Exact) := [.step Graph.empty, .step Graph.empty]
    let settings : Settings Exact := { Settings.standard with physics := frozenParams }
    energyAfter frozenParams (steps ++ [.reheat]) = 1 ∧
      energyAfter frozenParams (steps ++ [.reheat] ++ steps) = real 0.02 ∧
      energyAfter frozenParams (steps ++ [.reheat] ++ steps) ≤
        energyAfter frozenParams (steps ++ [.reheat]) ∧
      (∃ n, ∀ turns, n ≤ stepsSinceReheat turns → energyAfter frozenParams turns = real 0.02) ∧
      ∃ turns, ((Simulation.new settings 800 600 1).run [.reheat, .tick]).physics =
        (new frozenParams).takeTurns turns := by
  intro steps settings
  obtain ⟨floor, decay, hfloor, hdecay, -, -, -, -, hclosed, -, hfalls, hends, hturns⟩ :=
    energy_cools frozenParams
  obtain rfl : floor = 0.02 := real.inj (hfloor.symm.trans coolsBy_frozenParams.energyFloor)
  obtain rfl : decay = 0 := real.inj (hdecay.symm.trans coolsBy_frozenParams.energyDecay)
  have hsteps : ∀ t ∈ steps, t.isStep = true :=
    List.forall_mem_cons.mpr ⟨rfl, List.forall_mem_singleton.mpr rfl⟩
  refine ⟨?_, ?_, hfalls _ steps hsteps, hends zero_lt_one, hturns settings 800 600 1 _ rfl⟩
  · rw [hclosed, stepsSinceReheat_reheat, pow_zero, max_eq_right (by norm_num), literal_eq,
      Nat.cast_one]
  · rw [hclosed, show stepsSinceReheat (steps ++ [.reheat] ++ steps) = 2 from rfl,
      zero_pow (by decide), max_eq_left (by norm_num)]

end Physics
end NodeLink
