import Mathlib.Analysis.Complex.ExponentialBounds
import NodeLink.Proofs.Simulation.Glow
/-!
# How the highlight goes out

Once nothing is hovered any more, the timers run down first: no intensity falls before its timer is
gone, and none stands after it. From then on every intensity falls to the same part of itself in
each frame, until it is no longer above the threshold and is forgotten. The timers start with the
same time and the intensities with at most one, so the number of frames is the same for all pasts.

* `Highlight.FadingFor`: what is left some frames after the hover; `FadingFor.tick`,
  `FadingFor.dark`.
* `Highlight.held_run`: an id outside the targets keeps its intensity as long as its timer runs.
* `Simulation.goes_dark`: nothing is left after `framesToDark` frames.
-/

namespace NodeLink

open Exact

namespace Highlight

variable {h : Highlight Exact}

/-- No timer that has run down holds anything. -/
theorem TimerWithin.isHeld_eq_false {id : String} {c : ℝ} (ht : h.TimerWithin id c) (hc : c ≤ 0) :
    isHeld h.holdTimer id = false := by
  rw [isHeld, valueOf, ht.lookup_eq_none hc, Option.getD_none]
  exact decide_eq_false fun hpos => lt_irrefl _ ((real_lt _ _).mp hpos)

/-! ## Without a hover -/

/-- Where nothing is hovered there are no targets. -/
def Idle (h : Highlight Exact) : Prop := h.hovered = none → h.targets = []

theorem Idle.perform (hh : h.Idle) (act : Act) : (h.perform act).Idle := by
  cases act with
  | setHover node neighbors =>
    show (h.setHover node neighbors).Idle
    unfold setHover
    split
    · exact hh
    · cases node with
      | none => exact fun _ => rfl
      | some id => exact fun hnone => absurd hnone (Option.some_ne_none id)
  | tick dt => exact hh
  | clear => exact fun _ => rfl

theorem ranged_after (past : List Act) : (after past).Ranged :=
  run_keeps (fun _ act hh => hh.perform act) ranged_empty past

theorem idle_after (past : List Act) : (after past).Idle :=
  run_keeps (p := Idle) (fun _ act hh => hh.perform act) (fun _ => rfl) past

theorem Idle.targets_setHover (hh : h.Idle) (neighbors : List String) :
    (h.setHover none neighbors).targets = [] := by
  unfold setHover
  split
  · exact hh ‹_›
  · rfl

/-! ## Frames without a hover -/

/-- The frames through which timers hold what they hold. -/
def heldFrames : ℕ := 7

/-- The frames after which nothing is left. -/
def framesToDark : ℕ := 90

/-- What is left of an intensity after a frame. -/
noncomputable def framePart : ℝ := Real.exp (-4 * 0.016)

theorem framePart_pos : 0 < framePart := Real.exp_pos _

theorem framePart_le_one : framePart ≤ 1 := Real.exp_le_one_iff.mpr (by norm_num)

theorem fadeOut_frame : (fadeOut (real Simulation.frameSpan) : Exact) = real framePart :=
  fadeOut_real _

def AtMost (c : ℝ) (v : Exact) : Prop := ∃ x : ℝ, v = real x ∧ x ≤ c

/-- What is left when nothing has been hovered for `k` frames. As long as timers may run, which is
for some frames, intensities are only known to be at most one. -/
structure FadingFor (h : Highlight Exact) (k : ℕ) : Prop extends Ranged h where
  unhovered : h.hovered = none
  untargeted : h.targets = []
  timersWithin : ∀ id, h.TimerWithin id (0.12 - k * 0.016)
  nodesWithin : ∀ id v, h.nodeIntensity.lookup id = some v →
    AtMost (framePart ^ (k - heldFrames)) v
  hoversWithin : ∀ id v, h.hoverIntensity.lookup id = some v →
    AtMost (framePart ^ (k - heldFrames)) v

theorem Bright.atMost_one {v : Exact} (hv : Bright v) : AtMost 1 v := by
  obtain ⟨x, hx, -, hle⟩ := hv
  exact ⟨x, hx, hle⟩

theorem Ranged.fadingFor_setHover (hh : h.Ranged) (hidle : h.Idle) (neighbors : List String) :
    (h.setHover none neighbors).FadingFor 0 where
  toRanged := hh.setHover none neighbors
  unhovered := hovered_setHover h none neighbors
  untargeted := hidle.targets_setHover neighbors
  timersWithin id := by
    rw [Nat.cast_zero, zero_mul, sub_zero]
    exact (hh.setHover none neighbors).timers id
  nodesWithin id v hv := ((hh.setHover none neighbors).nodesBright id v hv).atMost_one
  hoversWithin id v hv := ((hh.setHover none neighbors).bright id v hv).atMost_one

theorem fadingFor_empty (k : ℕ) : ({} : Highlight Exact).FadingFor k where
  toRanged := ranged_empty
  unhovered := rfl
  untargeted := rfl
  timersWithin _ := timerWithin_empty
  nodesWithin _ _ hv := absurd hv.symm (Option.some_ne_none _)
  hoversWithin _ _ hv := absurd hv.symm (Option.some_ne_none _)

/-- A frame leaves at most what there was of an intensity, and a part of it if no timer holds. -/
theorem atMost_of_faded {stands : Bool} {c : ℝ} {v w : Exact} (hbright : Bright v)
    (hv : AtMost c v) (hw : faded stands (real framePart) v = some w) :
    AtMost (if stands then c else c * framePart) w := by
  obtain ⟨x, rfl, hx⟩ := hv
  obtain ⟨-, hsome⟩ := Option.ite_none_right_eq_some.mp hw
  rw [← Option.some.inj hsome]
  cases stands with
  | true => exact ⟨x, rfl, hx⟩
  | false => exact ⟨x * framePart, rfl, mul_le_mul_of_nonneg_right hx framePart_pos.le⟩

namespace FadingFor

variable {k : ℕ}

/-- Without targets every intensity stands or falls by its timer alone. -/
theorem lookup_tick (hh : h.FadingFor k) (id : String) :
    let h' := h.tick (real Simulation.frameSpan)
    h'.nodeIntensity.lookup id = (h.nodeIntensity.lookup id).bind
        (faded (isHeld h'.holdTimer id) (real framePart)) ∧
      h'.hoverIntensity.lookup id = (h.hoverIntensity.lookup id).bind
        (faded (isHeld h'.holdTimer id) (real framePart)) := by
  have htarget : id ∉ h.targets := by
    rw [hh.untargeted]
    exact List.not_mem_nil
  have hhovered : h.hovered ≠ some id := by
    rw [hh.unhovered]
    exact (Option.some_ne_none id).symm
  intro h'
  constructor
  · rw [lookup_nodeIntensity_tick hh.distinct hh.nodeKeys, if_neg htarget, decide_eq_false htarget,
      Bool.false_or, fadeOut_frame]
  · rw [lookup_hoverIntensity_tick hh.hoverKeys, if_neg hhovered, decide_eq_false hhovered,
      Bool.false_or, fadeOut_frame]

theorem timers_tick (hh : h.FadingFor k) (id : String) :
    (h.tick (real Simulation.frameSpan)).TimerWithin id (0.12 - (k + 1 : ℕ) * 0.016) := by
  have htarget : id ∉ h.targets := by
    rw [hh.untargeted]
    exact List.not_mem_nil
  have hspan : ((Simulation.frameSpan : NNReal) : ℝ) = 0.016 := rfl
  have hshorter := (hh.timersWithin id).tick_outside hh.timerKeys htarget Simulation.frameSpan
  rw [hspan] at hshorter
  refine hshorter.mono (le_of_eq ?_)
  push_cast
  ring

/-- How far an intensity has fallen after one more frame. -/
theorem atMost_tick {stands : Bool} {v w : Exact} (hbright : Bright v)
    (hv : AtMost (framePart ^ (k - heldFrames)) v)
    (hstands : heldFrames < k + 1 → stands = false)
    (hw : faded stands (real framePart) v = some w) :
    AtMost (framePart ^ (k + 1 - heldFrames)) w := by
  have hfallen := atMost_of_faded hbright hv hw
  by_cases hk : heldFrames < k + 1
  · rw [hstands hk, if_neg Bool.false_ne_true, ← pow_succ] at hfallen
    rwa [Nat.sub_add_comm (Nat.le_of_lt_succ hk)]
  · have hbefore : k - heldFrames = 0 := by omega
    have hafter : k + 1 - heldFrames = 0 := by omega
    rw [hbefore, pow_zero] at hfallen
    rw [hafter, pow_zero]
    obtain ⟨x, hx, hle⟩ := hfallen
    refine ⟨x, hx, hle.trans ?_⟩
    split
    · exact le_rfl
    · rw [one_mul]
      exact framePart_le_one

theorem tick (hh : h.FadingFor k) : (h.tick (real Simulation.frameSpan)).FadingFor (k + 1) := by
  have hstands (id : String) (hk : heldFrames < k + 1) :
      isHeld (h.tick (real Simulation.frameSpan)).holdTimer id = false := by
    have hk' : (8 : ℝ) ≤ (k + 1 : ℕ) := by exact_mod_cast hk
    exact (hh.timers_tick id).isHeld_eq_false (by linarith)
  refine ⟨hh.toRanged.tick _, hh.unhovered, hh.untargeted, hh.timers_tick, ?_, ?_⟩
  · intro id w hw
    rw [(hh.lookup_tick id).1] at hw
    obtain ⟨v, hv, hfaded⟩ := Option.bind_eq_some_iff.mp hw
    exact atMost_tick (hh.nodesBright id v hv) (hh.nodesWithin id v hv) (hstands id) hfaded
  · intro id w hw
    rw [(hh.lookup_tick id).2] at hw
    obtain ⟨v, hv, hfaded⟩ := Option.bind_eq_some_iff.mp hw
    exact atMost_tick (hh.bright id v hv) (hh.hoversWithin id v hv) (hstands id) hfaded

theorem run (hh : h.FadingFor k) (n : ℕ) :
    (h.run (List.replicate n (.tick Simulation.frameSpan))).FadingFor (k + n) := by
  induction n generalizing h k with
  | zero => exact hh
  | succ n ih =>
    rw [show k + (n + 1) = k + 1 + n by omega]
    exact ih hh.tick

end FadingFor

/-! ## Nothing left -/

/-- Nothing is stored of any id. -/
def Dark {α : Type} (h : Highlight α) : Prop :=
  h.nodeIntensity = [] ∧ h.hoverIntensity = [] ∧ h.holdTimer = []

theorem eq_nil_of_lookup {α : Type} {table : List (String × α)}
    (hnone : ∀ id, table.lookup id = none) : table = [] := by
  cases table with
  | nil => rfl
  | cons entry rest =>
    have hself := hnone entry.1
    rw [List.lookup_cons_self] at hself
    exact absurd hself (Option.some_ne_none _)

theorem log_two_hundred_le : Real.log 200 ≤ 5.312 := by
  have hpowers : Real.log ((200 : ℝ) ^ 17) ≤ Real.log ((2 : ℝ) ^ 130) :=
    Real.log_le_log (by norm_num) (by norm_num)
  rw [Real.log_pow, Real.log_pow] at hpowers
  have htwo := Real.log_two_lt_d9
  push_cast at hpowers
  linarith

/-- In the frames left after the timers, even a full intensity falls to the threshold. -/
theorem framePart_pow_le {n : ℕ} (hn : framesToDark - heldFrames ≤ n) :
    framePart ^ n ≤ 0.005 := by
  have hexp : framePart ^ (framesToDark - heldFrames) = Real.exp (-5.312) := by
    rw [framePart, framesToDark, heldFrames, ← Real.exp_nat_mul]
    norm_num
  calc framePart ^ n ≤ framePart ^ (framesToDark - heldFrames) :=
        pow_le_pow_of_le_one framePart_pos.le framePart_le_one hn
    _ ≤ Real.exp (-Real.log 200) := by
        rw [hexp]
        exact Real.exp_le_exp.mpr (neg_le_neg log_two_hundred_le)
    _ = (200 : ℝ)⁻¹ := by rw [Real.exp_neg, Real.exp_log (by norm_num)]
    _ = 0.005 := by norm_num

theorem lookup_eq_none_of_atMost {table : List (String × Exact)} {c : ℝ} (hc : c ≤ 0.005)
    {id : String} (hbright : ∀ v, table.lookup id = some v → Bright v)
    (hle : ∀ v, table.lookup id = some v → AtMost c v) : table.lookup id = none := by
  cases hlookup : table.lookup id with
  | none => rfl
  | some v =>
    obtain ⟨x, rfl, hx, -⟩ := hbright v hlookup
    obtain ⟨y, hy, hyc⟩ := hle _ hlookup
    obtain rfl := real.inj hy
    exact absurd hx (not_lt.mpr (hyc.trans hc))

theorem FadingFor.dark {k : ℕ} (hh : h.FadingFor k) (hk : framesToDark ≤ k) : h.Dark := by
  have hpart : framePart ^ (k - heldFrames) ≤ 0.005 :=
    framePart_pow_le (Nat.sub_le_sub_right hk heldFrames)
  have hk' : (90 : ℝ) ≤ k := by exact_mod_cast hk
  refine ⟨?_, ?_, ?_⟩
  · exact eq_nil_of_lookup fun id =>
      lookup_eq_none_of_atMost hpart (hh.nodesBright id) (hh.nodesWithin id)
  · exact eq_nil_of_lookup fun id =>
      lookup_eq_none_of_atMost hpart (hh.bright id) (hh.hoversWithin id)
  · exact eq_nil_of_lookup fun id => (hh.timersWithin id).lookup_eq_none (by linarith)

/-! ## While a timer runs -/

/-- Outside the targets an act that is no reset takes its time off a timer that lasts, and leaves
the intensity of the id as it is. -/
theorem held_perform (hh : h.Ranged) {id : String} (hid : id ∉ h.targets) {x : ℝ}
    (htimer : h.holdTimer.lookup id = some (real x)) {act : Act} (hact : act ≠ .clear)
    (hnext : id ∉ (h.perform act).targets) (hlasts : act.time < x) :
    (h.perform act).holdTimer.lookup id = some (real (x - act.time)) ∧
      (h.perform act).nodeIntensity.lookup id = h.nodeIntensity.lookup id := by
  cases act with
  | clear => exact absurd rfl hact
  | setHover node neighbors =>
    have hkept : ¬(h.hovered ≠ node ∧ id ∈ (h.setHover node neighbors).targets) :=
      fun hand => hnext hand.2
    constructor
    · show (h.setHover node neighbors).holdTimer.lookup id = _
      rw [lookup_holdTimer_setHover, if_neg hkept, htimer, Act.time, NNReal.coe_zero, sub_zero]
    · show (h.setHover node neighbors).nodeIntensity.lookup id = _
      rw [nodeIntensity_setHover]
  | tick dt =>
    have hpos : (0 : Exact) < real (x - dt) := by
      rw [literal_eq, real_lt, Nat.cast_zero]
      exact sub_pos.mpr hlasts
    have hafter : (h.tick (real dt)).holdTimer.lookup id = some (real (x - dt)) := by
      rw [lookup_holdTimer_tick hh.timerKeys, htimer, Option.bind_some, runDown,
        decide_eq_false hid, if_neg Bool.false_ne_true, real_sub, if_pos hpos]
    have hheld : isHeld (h.tick (real dt)).holdTimer id = true := by
      rw [isHeld, valueOf, hafter, Option.getD_some]
      exact decide_eq_true hpos
    refine ⟨hafter, ?_⟩
    show (h.tick (real dt)).nodeIntensity.lookup id = _
    rw [lookup_nodeIntensity_tick hh.distinct hh.nodeKeys, if_neg hid, hheld, Bool.or_true]
    cases hlookup : h.nodeIntensity.lookup id with
    | none => rfl
    | some v => rw [Option.bind_some, faded_stands (hh.nodesBright id v hlookup)]

theorem held_run (hh : h.Ranged) {id : String} {x : ℝ}
    (htimer : h.holdTimer.lookup id = some (real x)) {acts : List Act} (hacts : .clear ∉ acts)
    (hout : Throughout (fun h => id ∉ h.targets) acts h) (hlasts : elapsed acts < x) :
    (h.run acts).holdTimer.lookup id = some (real (x - elapsed acts)) ∧
      (h.run acts).nodeIntensity.lookup id = h.nodeIntensity.lookup id := by
  induction acts generalizing h x with
  | nil =>
    rw [elapsed, List.map_nil, List.sum_nil, NNReal.coe_zero, sub_zero]
    exact ⟨htimer, rfl⟩
  | cons act rest ih =>
    obtain ⟨hact, hrest⟩ := not_or.mp (mt List.mem_cons.mpr hacts)
    obtain ⟨hid, hnext⟩ := hout
    rw [elapsed_cons] at hlasts ⊢
    have hnonneg : (0 : ℝ) ≤ elapsed rest := (elapsed rest).coe_nonneg
    obtain ⟨htimer', hkept⟩ :=
      held_perform hh hid htimer (Ne.symm hact) hnext.head (by linarith)
    obtain ⟨hleft, hsame⟩ := ih (hh.perform act) htimer' hrest hnext (by linarith)
    rw [← sub_sub]
    exact ⟨hleft, hsame.trans hkept⟩

/-- A timer is there exactly as long as less time has passed than it had. -/
theorem timer_run_iff (hh : h.Ranged) {id : String} {x : ℝ}
    (htimer : h.holdTimer.lookup id = some (real x)) (hwithin : h.TimerWithin id x)
    {acts : List Act} (hacts : .clear ∉ acts)
    (hout : Throughout (fun h => id ∉ h.targets) acts h) :
    id ∈ keys (h.run acts).holdTimer ↔ elapsed acts < x := by
  constructor
  · intro hkey
    by_contra hlong
    obtain ⟨entry, hentry, rfl⟩ := List.mem_map.mp hkey
    have hgone := (hwithin.run hh.toLit hout).lookup_eq_none (by linarith)
    rw [lookup_of_mem_nodup (hh.toLit.run acts).timerKeys hentry] at hgone
    exact Option.some_ne_none _ hgone
  · intro hlasts
    exact List.mem_map_of_mem (mem_of_lookup (held_run hh htimer hacts hout hlasts).1)

end Highlight

namespace Simulation

variable {s : Simulation Exact}

/-! ## Simulations -/

/-- The highlight of a state that is reached is that of some acts. -/
theorem Reachable.exists_past (hs : s.Reachable) :
    ∃ past, s.highlight = Highlight.after past := by
  refine Reachable.induction (P := fun s : Simulation Exact => ∃ past, s.highlight =
    Highlight.after past) (fun _ _ _ _ => ⟨[], rfl⟩) ?_ hs
  rintro s op ⟨past, hpast⟩
  rcases s.exists_act_apply op with hkept | ⟨act, hact⟩
  · exact ⟨past, hkept.trans hpast⟩
  · refine ⟨past ++ [act], ?_⟩
    rw [hact, hpast, Highlight.after_append]
    rfl

/-- Whatever else is done without a hover, the highlight stays, starts anew or lets a frame pass. -/
theorem fadingFor_apply {k : ℕ} (hs : s.highlight.FadingFor k) {op : Operation Exact}
    (hop : ∀ index, op ≠ .setHover index) :
    (s.apply op).highlight.FadingFor (k + if op.isTick then 1 else 0) := by
  rw [highlight_apply]
  have hother (hact : s.act? op = if op.loads then some .clear else none) :
      (((s.act? op).map s.highlight.perform).getD s.highlight).FadingFor k := by
    rw [hact]
    cases op.loads with
    | true => exact Highlight.fadingFor_empty k
    | false => exact hs
  cases op with
  | tick => exact hs.tick
  | setHover index => exact absurd rfl (hop index)
  | load | loadText | resize | fit | select | deselect | focus | setRunning | toggleRunning | reheat
  | togglePin | beginDrag | dragTo | endDrag | toast | drain => exact hother rfl

theorem fadingFor_run {k : ℕ} (hs : s.highlight.FadingFor k) {ops : List (Operation Exact)}
    (hops : ∀ op ∈ ops, ∀ index, op ≠ .setHover index) :
    (s.run ops).highlight.FadingFor (k + Operation.ticks ops) := by
  induction ops generalizing s k with
  | nil => exact hs
  | cons op rest ih =>
    have hstep := fadingFor_apply hs (hops op List.mem_cons_self)
    have hcount : k + Operation.ticks (op :: rest) =
        (k + if op.isTick then 1 else 0) + Operation.ticks rest := by
      rw [Operation.ticks, Operation.ticks, List.countP_cons]
      omega
    rw [hcount]
    exact ih hstep fun op' hop' => hops op' (List.mem_cons_of_mem op hop')

/-- From whatever past, once the pointer is taken away and `framesToDark` frames have passed without
a new hover, no intensity and no timer is left; in a simulation anything but a hover may be done
between the frames. An id that leaves the targets by a hover keeps its node intensity, as long as it
stays outside them, until its timer is gone, and that is after the hold time. Time and intensities
are exact numbers. -/
theorem goes_dark :
    (∀ (past : List Highlight.Act) (neighbors : List String) (n : ℕ), Highlight.framesToDark ≤ n →
      (((Highlight.after past).setHover none neighbors).run
        (List.replicate n (.tick frameSpan))).Dark) ∧
    (∀ s : Simulation Exact, s.Reachable → ∀ ops : List (Operation Exact),
      (∀ op ∈ ops, ∀ index, op ≠ .setHover index) →
      Highlight.framesToDark ≤ Operation.ticks ops → ((s.setHover none).run ops).highlight.Dark) ∧
    ∀ (past during : List Highlight.Act) (node : Option String) (neighbors : List String)
      (id : String), id ∈ (Highlight.after past).targets → .clear ∉ during →
      Highlight.Throughout (fun h => id ∉ h.targets) during
        ((Highlight.after past).setHover node neighbors) →
      let h := ((Highlight.after past).setHover node neighbors).run during
      (id ∈ Highlight.keys h.holdTimer ↔
        real (Highlight.elapsed during) < Highlight.holdTime) ∧
      (real (Highlight.elapsed during) < Highlight.holdTime →
        h.nodeIntensity.lookup id = (Highlight.after past).nodeIntensity.lookup id) := by
  refine ⟨?_, ?_, ?_⟩
  · intro past neighbors n hn
    have hstart := (Highlight.ranged_after past).fadingFor_setHover (Highlight.idle_after past)
      neighbors
    exact (hstart.run n).dark (by omega)
  · intro s hs ops hops hn
    obtain ⟨past, hpast⟩ := hs.exists_past
    have hstart : (s.setHover none).highlight.FadingFor 0 := by
      show (s.highlight.setHover none []).FadingFor 0
      rw [hpast]
      exact (Highlight.ranged_after past).fadingFor_setHover (Highlight.idle_after past) []
    exact (fadingFor_run hstart hops).dark (by omega)
  · intro past during node neighbors id hid hclear hout h
    have hranged := Highlight.ranged_after past
    have hleft := hranged.setHover node neighbors
    have htimer : ((Highlight.after past).setHover node neighbors).holdTimer.lookup id =
        some (real 0.12) := by
      rw [Highlight.lookup_holdTimer_setHover, if_neg fun hand => hout.head hand.2,
        hranged.full id hid, Highlight.holdTime_eq]
    rw [Highlight.holdTime_eq, real_lt]
    refine ⟨Highlight.timer_run_iff hleft htimer (hleft.timers id) hclear hout, fun hlasts => ?_⟩
    rw [(Highlight.held_run hleft htimer hclear hout hlasts).2, Highlight.nodeIntensity_setHover]

/-- The pair with the pointer on one node for a frame. -/
noncomputable def hoveredPair : Simulation Exact :=
  (new Settings.standard 800 600 1).run [.load pairRecord, .setHover (some 0), .tick]

theorem goes_dark_inTurn :
    let left := (Highlight.after Highlight.inTurn).setHover none []
    (left.run (List.replicate Highlight.framesToDark (.tick frameSpan))).Dark ∧
      "a" ∈ (Highlight.after Highlight.inTurn).targets ∧
      "a" ∈ Highlight.keys (left.run [.tick frameSpan]).holdTimer ∧
      (left.run [.tick frameSpan]).nodeIntensity.lookup "a" =
        (Highlight.after Highlight.inTurn).nodeIntensity.lookup "a" ∧
      hoveredPair.Reachable ∧
      ((hoveredPair.setHover none).run
        (.togglePin "A" :: List.replicate Highlight.framesToDark .tick)).highlight.Dark := by
  intro left
  obtain ⟨hhighlight, hsimulation, hheld⟩ := goes_dark
  have hnear : "a" ∈ (Highlight.after Highlight.inTurn).targets := by
    rw [Highlight.targets_inTurn]
    decide
  have hout : "a" ∉ left.targets := List.not_mem_nil
  have hshort : real (Highlight.elapsed [.tick frameSpan]) < Highlight.holdTime := by
    rw [Highlight.holdTime_eq, real_lt, Highlight.elapsed_tick]
    show (0.016 : ℝ) < 0.12
    norm_num
  obtain ⟨htimer, hkept⟩ := hheld Highlight.inTurn [.tick frameSpan] none [] "a" hnear
    (by simp only [List.mem_singleton, reduceCtorEq, not_false_eq_true])
    (Highlight.throughout_tick (p := fun _ targets => "a" ∉ targets) hout frameSpan)
  have hreached : hoveredPair.Reachable := ⟨Settings.standard, 800, 600, 1, _, rfl⟩
  have hops : ∀ op ∈ (.togglePin "A" :: List.replicate Highlight.framesToDark .tick :
      List (Operation Exact)), ∀ index, op ≠ .setHover index := by
    intro op hop index heq
    rcases List.mem_cons.mp hop with rfl | hframe
    · cases heq
    · rw [List.eq_of_mem_replicate hframe] at heq
      cases heq
  exact ⟨hhighlight Highlight.inTurn [] _ le_rfl, hnear, htimer.mpr hshort, hkept hshort, hreached,
    hsimulation hoveredPair hreached _ hops le_rfl⟩

end Simulation
end NodeLink
