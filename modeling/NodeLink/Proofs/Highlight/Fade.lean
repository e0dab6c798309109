import NodeLink.Proofs.Highlight.Lookup
import NodeLink.Proofs.Scalar.Exact
/-!
# How the hover effect goes out

The hover intensity of a node fades once the node has been outside the targets for longer than
timers hold. What counts is the neighbourhood, not the hovered node alone: a timer belongs to an
id, stands still as long as the id is a target, and holds both intensities of the id. A node beside
the hovered one therefore keeps what it had when the pointer left it.

* `Highlight.Lit`: the invariant, kept by each step and so by every run.
* `Highlight.hover_fades_outside`: where the hover effect stands still and where it goes out.
* `Highlight.hover_held_beside`: it does not go out by the time since the node was hovered.
-/

namespace NodeLink.Highlight

open Exact

/-! ## Runs -/

/-- What is done to a highlight; time does not run backwards. -/
inductive Act where
  | setHover (node : Option String) (neighbors : List String)
  | tick (dt : NNReal)
  | clear

noncomputable section

def perform (h : Highlight Exact) : Act → Highlight Exact
  | .setHover node neighbors => h.setHover node neighbors
  | .tick dt => h.tick (real dt)
  | .clear => {}

def run (acts : List Act) (h : Highlight Exact) : Highlight Exact := acts.foldl perform h

def Act.time : Act → NNReal
  | .setHover _ _ => 0
  | .tick dt => dt
  | .clear => 0

/-- The time that some acts take. -/
def elapsed (acts : List Act) : NNReal := (acts.map Act.time).sum

end

noncomputable def after (acts : List Act) : Highlight Exact := run acts {}

/-- The state has a property before and after each of the acts. -/
def Throughout (p : Highlight Exact → Prop) : List Act → Highlight Exact → Prop
  | [], h => p h
  | act :: rest, h => p h ∧ Throughout p rest (h.perform act)

theorem Throughout.head {p : Highlight Exact → Prop} {acts : List Act} {h : Highlight Exact}
    (hp : Throughout p acts h) : p h := by
  cases acts with
  | nil => exact hp
  | cons act rest => exact hp.1

theorem Throughout.last {p : Highlight Exact → Prop} {acts : List Act} {h : Highlight Exact}
    (hp : Throughout p acts h) : p (h.run acts) := by
  induction acts generalizing h with
  | nil => exact hp
  | cons act rest ih => exact ih hp.2

theorem after_append (first second : List Act) :
    after (first ++ second) = (after first).run second := List.foldl_append

theorem run_keeps {p : Highlight Exact → Prop} (hstep : ∀ h act, p h → p (h.perform act))
    {h : Highlight Exact} (hh : p h) (acts : List Act) : p (h.run acts) := by
  induction acts generalizing h with
  | nil => exact hh
  | cons act rest ih => exact ih (hstep h act hh)

theorem run_tick (h : Highlight Exact) (dt : NNReal) : h.run [.tick dt] = h.tick (real dt) := rfl

theorem elapsed_tick (dt : NNReal) : elapsed [.tick dt] = dt := List.sum_singleton

/-- Passing time changes neither what is hovered nor the targets. -/
theorem throughout_tick {p : Option String → List String → Prop} {h : Highlight Exact}
    (hp : p h.hovered h.targets) (dt : NNReal) :
    Throughout (fun h => p h.hovered h.targets) [.tick dt] h := ⟨hp, hp⟩

theorem elapsed_cons (act : Act) (rest : List Act) :
    (elapsed (act :: rest) : ℝ) = act.time + elapsed rest := by
  rw [elapsed, List.map_cons, List.sum_cons, NNReal.coe_add, ← elapsed]

/-! ## Timers -/

/-- The timer of an id, if it has one, still runs, for at most `c`. -/
def TimerWithin (h : Highlight Exact) (id : String) (c : ℝ) : Prop :=
  ∀ t, h.holdTimer.lookup id = some t → ∃ x : ℝ, t = real x ∧ 0 < x ∧ x ≤ c

variable {h : Highlight Exact} {id : String} {c : ℝ}

/-- Outside the targets a timer runs down by all the time that passes. -/
theorem TimerWithin.tick_outside (hnd : (keys h.holdTimer).Nodup) (ht : h.TimerWithin id c)
    (hid : id ∉ h.targets) (dt : NNReal) : (h.tick (real dt)).TimerWithin id (c - dt) := by
  intro t hlookup
  rw [lookup_holdTimer_tick hnd] at hlookup
  obtain ⟨t', ht', hrun⟩ := Option.bind_eq_some_iff.mp hlookup
  obtain ⟨x, rfl, hx, hxc⟩ := ht t' ht'
  rw [runDown, decide_eq_false hid, if_neg Bool.false_ne_true, real_sub] at hrun
  obtain ⟨hpos, hsome⟩ := Option.ite_none_right_eq_some.mp hrun
  rw [literal_eq, real_lt, Nat.cast_zero] at hpos
  exact ⟨x - dt, (Option.some.inj hsome).symm, hpos, by linarith⟩

theorem TimerWithin.tick (hnd : (keys h.holdTimer).Nodup) (ht : h.TimerWithin id c)
    (dt : NNReal) : (h.tick (real dt)).TimerWithin id c := by
  by_cases hid : id ∈ h.targets
  · intro t hlookup
    rw [lookup_holdTimer_tick hnd] at hlookup
    obtain ⟨t', ht', hrun⟩ := Option.bind_eq_some_iff.mp hlookup
    rw [runDown, decide_eq_true hid, if_pos rfl] at hrun
    rw [← Option.some.inj hrun]
    exact ht t' ht'
  · intro t hlookup
    obtain ⟨x, hx, hpos, hle⟩ := ht.tick_outside hnd hid dt t hlookup
    exact ⟨x, hx, hpos, hle.trans (sub_le_self c dt.coe_nonneg)⟩

theorem TimerWithin.setHover (ht : h.TimerWithin id c) {node : Option String}
    {neighbors : List String} (hid : id ∉ (h.setHover node neighbors).targets) :
    (h.setHover node neighbors).TimerWithin id c := by
  intro t hlookup
  rw [lookup_holdTimer_setHover, if_neg (fun hand => hid hand.2)] at hlookup
  exact ht t hlookup

theorem timerWithin_empty : ({} : Highlight Exact).TimerWithin id c :=
  fun _ hlookup => absurd hlookup.symm (Option.some_ne_none _)

theorem TimerWithin.mono (ht : h.TimerWithin id c) {d : ℝ} (hcd : c ≤ d) : h.TimerWithin id d := by
  intro t hlookup
  obtain ⟨x, hx, hpos, hle⟩ := ht t hlookup
  exact ⟨x, hx, hpos, hle.trans hcd⟩

/-- A timer that has at most no time left is gone. -/
theorem TimerWithin.lookup_eq_none (ht : h.TimerWithin id c) (hc : c ≤ 0) :
    h.holdTimer.lookup id = none := by
  cases hlookup : h.holdTimer.lookup id with
  | none => rfl
  | some t =>
    obtain ⟨x, -, hpos, hle⟩ := ht t hlookup
    exact absurd (hpos.trans_le (hle.trans hc)) (lt_irrefl 0)

/-! ## Intensities -/

theorem holdTime_eq : (holdTime : Exact) = real 0.12 := rfl

theorem threshold_eq : (threshold : Exact) = real 0.005 := rfl

theorem fadeOut_real (dt : ℝ) : (fadeOut (real dt) : Exact) = real (Real.exp (-4 * dt)) := by
  show Scalar.exp (-real (4 : ℕ) * real dt) = _
  rw [real_neg, real_mul, exp_real, Nat.cast_ofNat]

theorem fadeIn_real (dt : ℝ) : (fadeIn (real dt) : Exact) = real (1 - Real.exp (-6 * dt)) := by
  show real (1 : ℕ) - Scalar.exp (-real (6 : ℕ) * real dt) = _
  rw [real_neg, real_mul, exp_real, real_sub, Nat.cast_one, Nat.cast_ofNat]

/-- An intensity that is kept: above the threshold, and at most full. -/
def Bright (v : Exact) : Prop := ∃ x : ℝ, v = real x ∧ 0.005 < x ∧ x ≤ 1

/-- An id that is not stored reads zero, and a bright one its intensity. -/
theorem valueOf_range {table : List (String × Exact)} {id : String}
    (hbright : ∀ v, table.lookup id = some v → Bright v) :
    ∃ x : ℝ, valueOf table id = real x ∧ 0 ≤ x ∧ x ≤ 1 := by
  rw [valueOf]
  cases hlookup : table.lookup id with
  | none => exact ⟨(0 : ℕ), rfl, Nat.cast_nonneg 0, by rw [Nat.cast_zero]; exact zero_le_one⟩
  | some v =>
    obtain ⟨x, rfl, hx, hxle⟩ := hbright v hlookup
    exact ⟨x, rfl, by linarith, hxle⟩

theorem bright_of_faded {stands : Bool} {part x : ℝ} {v : Exact} (hx : 0 ≤ x) (hxle : x ≤ 1)
    (hpart : part ≤ 1) (hv : faded stands (real part) (real x) = some v) : Bright v := by
  obtain ⟨hbright, hsome⟩ := Option.ite_none_right_eq_some.mp hv
  obtain rfl := Option.some.inj hsome
  rw [threshold_eq] at hbright
  cases stands with
  | true =>
    rw [if_pos rfl, real_lt] at hbright
    exact ⟨x, rfl, hbright, hxle⟩
  | false =>
    rw [if_neg Bool.false_ne_true, real_mul, real_lt] at hbright
    refine ⟨x * part, rfl, hbright, ?_⟩
    calc x * part ≤ x * 1 := mul_le_mul_of_nonneg_left hpart hx
      _ ≤ 1 := by rw [mul_one]; exact hxle

/-- What an intensity misses to be full shrinks to a part of itself. -/
theorem brightened_range {x e : ℝ} (hx : 0 ≤ x) (hxle : x ≤ 1) (he : 0 ≤ e) (hele : e ≤ 1) :
    0 ≤ x + (1 - x) * (1 - e) ∧ x + (1 - x) * (1 - e) ≤ 1 := by
  have hgain : 0 ≤ (1 - x) * (1 - e) := mul_nonneg (by linarith) (by linarith)
  have hmissing : 0 ≤ (1 - x) * e := mul_nonneg (by linarith) he
  constructor
  · linarith
  · linarith

/-- A bright intensity that stands is kept as it is. -/
theorem faded_stands {v : Exact} (hv : Bright v) (part : Exact) : faded true part v = some v := by
  obtain ⟨x, rfl, hx, -⟩ := hv
  rw [faded, threshold_eq, if_pos rfl, if_pos ((real_lt _ _).mpr hx)]

/-- Passing time leaves no intensity that is not bright, of what it brightens and of the others. -/
theorem bright_of_ticked {table : List (String × Exact)} {id : String}
    (hbright : ∀ v, table.lookup id = some v → Bright v) {aimed : Prop} [Decidable aimed]
    {stands : Bool} {dt : NNReal} {v : Exact}
    (hv : (if aimed then some (valueOf table id + (1 - valueOf table id) * fadeIn (real dt))
      else table.lookup id).bind (faded stands (fadeOut (real dt))) = some v) : Bright v := by
  have hdt : (0 : ℝ) ≤ dt := dt.coe_nonneg
  have hin : Real.exp (-6 * dt) ≤ 1 := Real.exp_le_one_iff.mpr (by linarith)
  have hout : Real.exp (-4 * dt) ≤ 1 := Real.exp_le_one_iff.mpr (by linarith)
  rw [fadeOut_real, fadeIn_real] at hv
  obtain ⟨w, hw, hfaded⟩ := Option.bind_eq_some_iff.mp hv
  by_cases haimed : aimed
  · rw [if_pos haimed] at hw
    obtain ⟨x, hx, hnonneg, hle⟩ := valueOf_range hbright
    rw [hx, literal_eq, real_sub, real_mul, real_add, Nat.cast_one] at hw
    rw [← Option.some.inj hw] at hfaded
    obtain ⟨hlow, hhigh⟩ := brightened_range hnonneg hle (Real.exp_pos (-6 * dt)).le hin
    exact bright_of_faded hlow hhigh hout hfaded
  · rw [if_neg haimed] at hw
    obtain ⟨x, rfl, hx, hle⟩ := hbright w hw
    exact bright_of_faded (by linarith) hle hout hfaded

/-! ## The invariant -/

/-- Every id stands once in the tables, targets have their full time, and what is stored is
bright. -/
structure Lit (h : Highlight Exact) : Prop where
  aimed : ∀ id, h.hovered = some id → id ∈ h.targets
  timerKeys : (keys h.holdTimer).Nodup
  hoverKeys : (keys h.hoverIntensity).Nodup
  full : ∀ id ∈ h.targets, h.holdTimer.lookup id = some holdTime
  timers : ∀ id, h.TimerWithin id 0.12
  bright : ∀ id v, h.hoverIntensity.lookup id = some v → Bright v

theorem lit_empty : ({} : Highlight Exact).Lit where
  aimed _ hid := absurd hid.symm (Option.some_ne_none _)
  timerKeys := List.nodup_nil
  hoverKeys := List.nodup_nil
  full _ hid := absurd hid List.not_mem_nil
  timers _ := timerWithin_empty
  bright _ _ hv := absurd hv.symm (Option.some_ne_none _)

theorem Lit.hoverAt (hh : h.Lit) (id : String) :
    ∃ x : ℝ, h.hoverAt id = real x ∧ 0 ≤ x ∧ x ≤ 1 := valueOf_range (hh.bright id)

theorem Lit.setHover (hh : h.Lit) (node : Option String) (neighbors : List String) :
    (h.setHover node neighbors).Lit := by
  by_cases hsame : h.hovered = node
  · have hstay : h.setHover node neighbors = h := if_pos hsame
    rw [hstay]
    exact hh
  have hfull : ∀ id ∈ (h.setHover node neighbors).targets,
      (h.setHover node neighbors).holdTimer.lookup id = some holdTime := by
    intro id hid
    rw [lookup_holdTimer_setHover, if_pos ⟨hsame, hid⟩]
  refine ⟨?_, nodup_keys_holdTimer_setHover hh.timerKeys node neighbors, ?_, hfull, ?_, ?_⟩
  · intro id hid
    rw [hovered_setHover] at hid
    subst hid
    unfold Highlight.setHover
    rw [if_neg hsame]
    exact List.mem_eraseDups.mpr List.mem_cons_self
  · rw [hoverIntensity_setHover]
    exact hh.hoverKeys
  · intro id
    by_cases hid : id ∈ (h.setHover node neighbors).targets
    · intro t ht
      rw [hfull id hid] at ht
      exact ⟨0.12, (Option.some.inj ht).symm, by norm_num, le_rfl⟩
    · exact (hh.timers id).setHover hid
  · rw [hoverIntensity_setHover]
    exact hh.bright

theorem Lit.bright_tick (hh : h.Lit) (dt : NNReal) (id : String) (v : Exact)
    (hv : (h.tick (real dt)).hoverIntensity.lookup id = some v) : Bright v := by
  rw [lookup_hoverIntensity_tick hh.hoverKeys] at hv
  exact bright_of_ticked (hh.bright id) hv

theorem Lit.tick (hh : h.Lit) (dt : NNReal) : (h.tick (real dt)).Lit where
  aimed := hh.aimed
  timerKeys := nodup_keys_holdTimer_tick hh.timerKeys _
  hoverKeys := nodup_keys_hoverIntensity_tick hh.hoverKeys _
  full id hid := by
    have htarget : id ∈ h.targets := hid
    rw [lookup_holdTimer_tick hh.timerKeys, hh.full id htarget, Option.bind_some, runDown,
      decide_eq_true htarget, if_pos rfl]
  timers id := (hh.timers id).tick hh.timerKeys dt
  bright := hh.bright_tick dt

theorem Lit.perform (hh : h.Lit) (act : Act) : (h.perform act).Lit := by
  cases act with
  | setHover node neighbors => exact hh.setHover node neighbors
  | tick dt => exact hh.tick dt
  | clear => exact lit_empty

theorem Lit.run (hh : h.Lit) (acts : List Act) : (h.run acts).Lit :=
  run_keeps (fun _ act h => h.perform act) hh acts

/-! ## The hover effect of one id -/

/-- Beside the hovered node an intensity stands still. -/
theorem hoverAt_tick_beside (hh : h.Lit) (hid : id ∈ h.targets) (hhovered : h.hovered ≠ some id)
    (dt : NNReal) : (h.tick (real dt)).hoverAt id = h.hoverAt id := by
  have hheld : isHeld (h.tick (real dt)).holdTimer id = true := by
    rw [isHeld, valueOf, (hh.tick dt).full id hid, Option.getD_some, holdTime_eq]
    exact decide_eq_true ((real_lt _ _).mpr (by norm_num))
  rw [Highlight.hoverAt, Highlight.hoverAt, valueOf, valueOf,
    lookup_hoverIntensity_tick hh.hoverKeys, if_neg hhovered, hheld, Bool.or_true]
  cases hlookup : h.hoverIntensity.lookup id with
  | none => rfl
  | some v => rw [Option.bind_some, faded_stands (hh.bright id v hlookup)]

/-- Outside the targets, with no timer left, an intensity fades. -/
theorem lookup_tick_outside (hh : h.Lit) (hid : id ∉ h.targets)
    (htimer : h.holdTimer.lookup id = none) (dt : NNReal) :
    (h.tick (real dt)).hoverIntensity.lookup id =
      (h.hoverIntensity.lookup id).bind (faded false (fadeOut (real dt))) := by
  have hhovered : h.hovered ≠ some id := fun h' => hid (hh.aimed id h')
  have hheld : isHeld (h.tick (real dt)).holdTimer id = false := by
    rw [isHeld, valueOf, lookup_holdTimer_tick hh.timerKeys, htimer, Option.bind_none,
      Option.getD_none]
    exact decide_eq_false (fun h' => lt_irrefl _ ((real_lt _ _).mp h'))
  rw [lookup_hoverIntensity_tick hh.hoverKeys, if_neg hhovered, hheld, decide_eq_false hhovered,
    Bool.or_false]

/-! ## Stretches outside the targets -/

theorem TimerWithin.perform (hh : h.Lit) (ht : h.TimerWithin id c) {act : Act}
    (hid : id ∉ h.targets) (hnext : id ∉ (h.perform act).targets) :
    (h.perform act).TimerWithin id (c - act.time) := by
  cases act with
  | setHover node neighbors =>
    rw [Act.time, NNReal.coe_zero, sub_zero]
    exact ht.setHover hnext
  | tick dt => exact ht.tick_outside hh.timerKeys hid dt
  | clear => exact timerWithin_empty

theorem TimerWithin.run (hh : h.Lit) (ht : h.TimerWithin id c) {acts : List Act}
    (hout : Throughout (fun h => id ∉ h.targets) acts h) :
    (h.run acts).TimerWithin id (c - elapsed acts) := by
  induction acts generalizing h c with
  | nil => exact ht.mono (by rw [elapsed, List.map_nil, List.sum_nil, NNReal.coe_zero, sub_zero])
  | cons act rest ih =>
    obtain ⟨hid, hrest⟩ := hout
    have hstep := ht.perform hh hid hrest.head
    rw [elapsed_cons, ← sub_sub]
    exact ih (hh.perform act) hstep hrest

/-- What is left of an intensity after an act during which no timer holds it. -/
theorem exists_before_perform (hh : h.Lit) (htimer : h.TimerWithin id 0) {act : Act}
    (hid : id ∉ h.targets) {x : ℝ} (hx : (h.perform act).hoverIntensity.lookup id = some (real x)) :
    ∃ y, h.hoverIntensity.lookup id = some (real y) ∧ x = y * Real.exp (-4 * act.time) := by
  cases act with
  | setHover node neighbors =>
    rw [perform, hoverIntensity_setHover] at hx
    exact ⟨x, hx, by rw [Act.time, NNReal.coe_zero, mul_zero, Real.exp_zero, mul_one]⟩
  | tick dt =>
    rw [perform, lookup_tick_outside hh hid (htimer.lookup_eq_none le_rfl)] at hx
    obtain ⟨v, hv, hfaded⟩ := Option.bind_eq_some_iff.mp hx
    obtain ⟨y, rfl, -, -⟩ := hh.bright id v hv
    obtain ⟨-, hsome⟩ := Option.ite_none_right_eq_some.mp hfaded
    rw [fadeOut_real, if_neg Bool.false_ne_true, real_mul] at hsome
    exact ⟨y, hv, (real.inj (Option.some.inj hsome)).symm⟩
  | clear => exact absurd hx.symm (Option.some_ne_none _)

theorem exists_before_run (hh : h.Lit) (htimer : h.TimerWithin id 0) {acts : List Act}
    (hout : Throughout (fun h => id ∉ h.targets) acts h) {x : ℝ}
    (hx : (h.run acts).hoverIntensity.lookup id = some (real x)) :
    ∃ y, h.hoverIntensity.lookup id = some (real y) ∧ x = y * Real.exp (-4 * elapsed acts) := by
  induction acts generalizing h with
  | nil =>
    refine ⟨x, hx, ?_⟩
    rw [elapsed, List.map_nil, List.sum_nil, NNReal.coe_zero, mul_zero, Real.exp_zero, mul_one]
  | cons act rest ih =>
    obtain ⟨hid, hrest⟩ := hout
    have hstep : (h.perform act).TimerWithin id 0 :=
      (htimer.perform hh hid hrest.head).mono (sub_le_self 0 act.time.coe_nonneg)
    obtain ⟨y', hy', rfl⟩ := ih (hh.perform act) hstep hrest hx
    obtain ⟨y, hy, rfl⟩ := exists_before_perform hh htimer hid hy'
    refine ⟨y, hy, ?_⟩
    rw [elapsed_cons, mul_add, Real.exp_add, mul_assoc]

/-- After the time in which even a full intensity falls to the threshold, none is left. -/
theorem hoverAt_run_eq_zero (hh : h.Lit) (htimer : h.TimerWithin id 0) {acts : List Act}
    (hout : Throughout (fun h => id ∉ h.targets) acts h)
    (hlong : Real.log 200 ≤ 4 * elapsed acts) : (h.run acts).hoverAt id = 0 := by
  rw [Highlight.hoverAt, valueOf]
  cases hlookup : (h.run acts).hoverIntensity.lookup id with
  | none => rfl
  | some v =>
    obtain ⟨x, rfl, hx, -⟩ := (hh.run acts).bright id v hlookup
    obtain ⟨y, hy, rfl⟩ := exists_before_run hh htimer hout hlookup
    obtain ⟨y', hy', hpos, hle⟩ := hh.bright id (real y) hy
    obtain rfl := real.inj hy'
    have hpart : Real.exp (-4 * elapsed acts) ≤ 0.005 := by
      calc Real.exp (-4 * elapsed acts) ≤ Real.exp (-Real.log 200) :=
            Real.exp_le_exp.mpr (by linarith)
        _ = (200 : ℝ)⁻¹ := by rw [Real.exp_neg, Real.exp_log (by norm_num)]
        _ = 0.005 := by norm_num
    have hfallen : y * Real.exp (-4 * elapsed acts) ≤ 0.005 := by
      calc y * Real.exp (-4 * elapsed acts) ≤ 1 * Real.exp (-4 * elapsed acts) :=
            mul_le_mul_of_nonneg_right hle (Real.exp_pos _).le
        _ ≤ 0.005 := by rw [one_mul]; exact hpart
    exact absurd hx (not_lt.mpr hfallen)

/-- In every run, the hover intensity of a node stands still as long as the node lies beside the
hovered one. Once it has been outside the neighbourhood for longer than timers hold, each further
tick outside fades or drops it, and some time later nothing of it is left. -/
theorem hover_fades_outside (past : List Act) (id : String) :
    (∀ dt : NNReal, id ∈ (after past).targets → (after past).hovered ≠ some id →
      ((after past).tick (real dt)).hoverAt id = (after past).hoverAt id) ∧
    ∀ during : List Act, Throughout (fun h => id ∉ h.targets) during (after past) →
      holdTime < real (elapsed during) →
      (∀ dt : NNReal,
        ((after (past ++ during)).tick (real dt)).hoverAt id =
          (after (past ++ during)).hoverAt id * fadeOut (real dt) ∨
        ((after (past ++ during)).tick (real dt)).hoverAt id = 0) ∧
      ∀ more : List Act, Throughout (fun h => id ∉ h.targets) more (after (past ++ during)) →
        Real.log 200 ≤ 4 * elapsed more → (after (past ++ during ++ more)).hoverAt id = 0 := by
  have hlit : (after past).Lit := lit_empty.run past
  refine ⟨fun dt hid hhovered => hoverAt_tick_beside hlit hid hhovered dt, ?_⟩
  intro during hout hlong
  rw [holdTime_eq, real_lt] at hlong
  have hlit' : ((after past).run during).Lit := hlit.run during
  have htimer : ((after past).run during).TimerWithin id 0 :=
    ((hlit.timers id).run hlit hout).mono (by linarith)
  rw [after_append]
  constructor
  · intro dt
    rw [Highlight.hoverAt, Highlight.hoverAt, valueOf, valueOf,
      lookup_tick_outside hlit' hout.last (htimer.lookup_eq_none le_rfl)]
    cases ((after past).run during).hoverIntensity.lookup id with
    | none => exact Or.inr rfl
    | some v =>
      rw [Option.bind_some, faded, if_neg Bool.false_ne_true]
      split
      · exact Or.inl rfl
      · exact Or.inr rfl
  · intro more hmore hfar
    rw [after_append, after_append]
    exact hoverAt_run_eq_zero hlit' htimer hmore hfar

/-! ## Neighbours in turn -/

/-- One of two neighbours is hovered for a second, and then the other. -/
noncomputable def inTurn : List Act :=
  [.setHover (some "a") ["b"], .tick 1, .setHover (some "b") ["a"]]

theorem hovered_inTurn : (after inTurn).hovered = some "b" := rfl

theorem targets_inTurn : (after inTurn).targets = ["b", "a"] := rfl

theorem exp_neg_six_lt : Real.exp (-6) < 0.995 := by
  have hbound : (6 : ℝ) + 1 ≤ Real.exp 6 := Real.add_one_le_exp 6
  rw [Real.exp_neg]
  calc (Real.exp 6)⁻¹ ≤ ((6 : ℝ) + 1)⁻¹ := inv_anti₀ (by norm_num) hbound
    _ < 0.995 := by norm_num

theorem lookup_inTurn :
    (after inTurn).hoverIntensity.lookup "a" = some (real (1 - Real.exp (-6))) := by
  have hstart : ({} : Highlight Exact).Lit := lit_empty
  have hkeys := (hstart.setHover (some "a") ["b"]).hoverKeys
  have hbright : Bright (real (1 - Real.exp (-6))) :=
    ⟨_, rfl, by linarith [exp_neg_six_lt], by linarith [Real.exp_pos (-6)]⟩
  have hfull : (real (0 : ℕ) + (1 - real (0 : ℕ)) * fadeIn (real (1 : NNReal)) : Exact) =
      real (1 - Real.exp (-6)) := by
    rw [fadeIn_real, literal_eq, real_sub, real_mul, real_add]
    norm_num
  show (((({} : Highlight Exact).setHover (some "a") ["b"]).tick (real (1 : NNReal))).setHover
    (some "b") ["a"]).hoverIntensity.lookup "a" = _
  rw [hoverIntensity_setHover, lookup_hoverIntensity_tick hkeys]
  show (some (real (0 : ℕ) + (1 - real (0 : ℕ)) * fadeIn (real (1 : NNReal)))).bind
    (faded true _) = _
  rw [hfull, Option.bind_some, faded_stands hbright]

/-- It is not enough that a node has not been hovered for longer than timers hold: while its
neighbour is hovered, its hover intensity neither fades nor is dropped. -/
theorem hover_held_beside :
    ¬ ∀ (past during : List Act) (id : String),
      Throughout (fun h => h.hovered ≠ some id) during (after past) →
      holdTime < real (elapsed during) →
      ∀ dt : NNReal,
        ((after (past ++ during)).tick (real dt)).hoverAt id =
          (after (past ++ during)).hoverAt id * fadeOut (real dt) ∨
        ((after (past ++ during)).tick (real dt)).hoverAt id = 0 := by
  intro hfades
  have hlit : (after inTurn).Lit := lit_empty.run inTurn
  have hvalue : (after inTurn).hoverAt "a" = real (1 - Real.exp (-6)) := by
    rw [Highlight.hoverAt, valueOf, lookup_inTurn, Option.getD_some]
  have hother : (after inTurn).hovered ≠ some "a" := by
    rw [hovered_inTurn]
    decide
  have hnear : "a" ∈ (after inTurn).targets := by
    rw [targets_inTurn]
    decide
  have hlong : holdTime < real (elapsed [.tick 1]) := by
    rw [holdTime_eq, real_lt, elapsed_tick]
    norm_num
  have hpos : 0 < 1 - Real.exp (-6) := by linarith [exp_neg_six_lt]
  have hcases := hfades inTurn [.tick 1] "a"
  rw [after_append, run_tick] at hcases
  -- Neither of two seconds beside the hovered node changes anything.
  generalize after inTurn = h at *
  have hfirst : (h.tick (real (1 : NNReal))).hoverAt "a" = h.hoverAt "a" :=
    hoverAt_tick_beside hlit hnear hother 1
  have hsecond : ((h.tick (real (1 : NNReal))).tick (real (1 : NNReal))).hoverAt "a" =
      (h.tick (real (1 : NNReal))).hoverAt "a" :=
    hoverAt_tick_beside (hlit.tick 1) hnear hother 1
  have hnever : Throughout (fun h => h.hovered ≠ some "a") [.tick 1] h :=
    throughout_tick (p := fun hovered _ => hovered ≠ some "a") hother 1
  rcases hcases hnever hlong 1 with hfades | hgone
  · rw [hsecond, hfirst, hvalue, fadeOut_real, real_mul] at hfades
    have hpart : Real.exp (-4 * (1 : NNReal)) < 1 := Real.exp_lt_one_iff.mpr (by norm_num)
    have hequal := real.inj hfades
    nlinarith
  · rw [hsecond, hfirst, hvalue, literal_eq, Nat.cast_zero] at hgone
    exact hpos.ne' (real.inj hgone)

/-- The node beside the hovered one stands still, and goes out once the pointer has left both. -/
theorem hover_fades_outside_inTurn :
    ((after inTurn).tick (real (1 : NNReal))).hoverAt "a" = (after inTurn).hoverAt "a" ∧
      (after (inTurn ++ [.setHover none []] ++ [.tick 1] ++ [.tick 50])).hoverAt "a" = 0 := by
  have hother : (after inTurn).hovered ≠ some "a" := by
    rw [hovered_inTurn]
    decide
  have hnear : "a" ∈ (after inTurn).targets := by
    rw [targets_inTurn]
    decide
  have hlong : holdTime < real (elapsed [.tick 1]) := by
    rw [holdTime_eq, real_lt, elapsed_tick]
    norm_num
  have hfar : Real.log 200 ≤ 4 * elapsed [.tick 50] := by
    have hlog : Real.log 200 ≤ 200 - 1 := Real.log_le_sub_one_of_pos (by norm_num)
    rw [elapsed_tick]
    push_cast
    linarith
  have hout : "a" ∉ (after (inTurn ++ [.setHover none []])).targets := List.not_mem_nil
  have hduring : Throughout (fun h => "a" ∉ h.targets) [.tick 1]
      (after (inTurn ++ [.setHover none []])) :=
    throughout_tick (p := fun _ targets => "a" ∉ targets) hout 1
  have hmore : Throughout (fun h => "a" ∉ h.targets) [.tick 50]
      (after (inTurn ++ [.setHover none []] ++ [.tick 1])) := by
    rw [after_append _ [.tick 1], run_tick]
    exact throughout_tick (p := fun _ targets => "a" ∉ targets) hout 50
  have hgone := ((hover_fades_outside (inTurn ++ [.setHover none []]) "a").2 _ hduring hlong).2 _
    hmore hfar
  exact ⟨(hover_fades_outside inTurn "a").1 1 hnear hother, hgone⟩

end NodeLink.Highlight
