import NodeLink.Gesture.Input
import NodeLink.Proofs.Simulation.EventLog
import NodeLink.Scalar.Binary
/-!
# Other pointers

While a gesture is under way the pointers that do not own it are bystanders. A run without all that
they do, and without all presses during gestures, is the same run: it ends in the same state, and
the same events are taken on the way.

* `isOutside`: which inputs are passed over in a state.
* `strike`: a sequence of inputs without those, as the run itself finds them.
* `run_strike_eq`: striking them changes nothing, and leaves none behind.
-/

namespace NodeLink

namespace Input

variable {α : Type}

/-- The pointer that does it, if one does. -/
def pointer? : Input α → Option Int
  | .down pointer _ | .move pointer _ | .up pointer _ | .leave pointer => some pointer
  | .wheel _ _ | .operate _ => none

def isPress : Input α → Bool
  | .down _ _ => true
  | _ => false

end Input

namespace GestureTracker

variable {α : Type}

/-- Whether a gesture is under way and the input is a press or comes from a pointer that does not
own the gesture. -/
def isOutside (w : State α) (i : Input α) : Bool :=
  !w.1.gesture.isIdle && (i.isPress || i.pointer?.any fun pointer => w.1.owner != some pointer)

def taken (w : State α) : Input α → List Event
  | .operate op => w.2.taken op
  | _ => []

variable {w : State α} {i : Input α}

theorem taken_of_outside (h : isOutside w i = true) : taken w i = [] := by
  cases i with
  | operate op =>
    have hother := (Bool.and_eq_true_iff.mp h).2
    exact absurd hother Bool.false_ne_true
  | _ => rfl

variable [Scalar α]

/-- The inputs without those that are outside when they come. -/
def strike (w : State α) : List (Input α) → List (Input α)
  | [] => []
  | i :: rest =>
    if isOutside w i then strike (apply w i) rest else i :: strike (apply w i) rest

/-- All that inputs take from the queue, in order. -/
def drained (w : State α) : List (Input α) → List Event
  | [] => []
  | i :: rest => taken w i ++ drained (apply w i) rest

/-- Each handler has a test of its own for the inputs it passes over. -/
theorem apply_of_outside (h : isOutside w i = true) : apply w i = w := by
  rcases Bool.and_eq_true_iff.mp h with ⟨hbusy, hother⟩
  have hforeign : ∀ pointer, (w.1.owner != some pointer) = true →
      w.1.isForeign pointer = true := fun pointer hp => by
    rw [isForeign, hbusy, hp]
    rfl
  cases i with
  | down pointer place => exact if_pos hbusy
  | move pointer place => exact if_pos (hforeign pointer hother)
  | up pointer place => exact if_pos hother
  | leave pointer => exact if_pos (hforeign pointer hother)
  | wheel | operate => exact absurd hother Bool.false_ne_true

theorem strike_of_outside (h : isOutside w i = true) (rest : List (Input α)) :
    strike w (i :: rest) = strike w rest := by
  rw [strike, if_pos h, apply_of_outside h]

theorem strike_of_inside (h : isOutside w i = false) (rest : List (Input α)) :
    strike w (i :: rest) = i :: strike (apply w i) rest := by
  rw [strike, if_neg (Bool.eq_false_iff.mp h)]

theorem run_strike (w : State α) (inputs : List (Input α)) :
    run w (strike w inputs) = run w inputs := by
  induction inputs generalizing w with
  | nil => rfl
  | cons i rest ih =>
    cases h : isOutside w i with
    | true =>
      rw [strike_of_outside h, ih w]
      change run w rest = run (apply w i) rest
      rw [apply_of_outside h]
    | false =>
      rw [strike_of_inside h]
      exact ih (apply w i)

theorem drained_strike (w : State α) (inputs : List (Input α)) :
    drained w (strike w inputs) = drained w inputs := by
  induction inputs generalizing w with
  | nil => rfl
  | cons i rest ih =>
    cases h : isOutside w i with
    | true => rw [strike_of_outside h, ih w, drained, taken_of_outside h, apply_of_outside h,
        List.nil_append]
    | false => rw [strike_of_inside h, drained, drained, ih (apply w i)]

theorem strike_sublist (w : State α) (inputs : List (Input α)) :
    (strike w inputs).Sublist inputs := by
  induction inputs generalizing w with
  | nil => exact List.Sublist.refl _
  | cons i rest ih =>
    rw [strike]
    split
    · exact (ih _).cons i
    · exact (ih _).cons_cons i

/-- None is outside in the run that is left, judged by the states of that run. -/
theorem not_outside_of_strike {inputs before after : List (Input α)}
    (h : strike w inputs = before ++ i :: after) : isOutside (run w before) i = false := by
  induction inputs generalizing w before with
  | nil => exact absurd h.symm (List.append_ne_nil_of_right_ne_nil _ (List.cons_ne_nil _ _))
  | cons j rest ih =>
    cases hj : isOutside w j with
    | true =>
      rw [strike_of_outside hj] at h
      exact ih h
    | false =>
      rw [strike_of_inside hj] at h
      cases before with
      | nil =>
        rw [List.nil_append, List.cons.injEq] at h
        rw [← h.1]
        exact hj
      | cons k before =>
        rw [List.cons_append, List.cons.injEq] at h
        rw [← h.1]
        exact ih (w := apply w j) h.2

/-! ## Main result -/

/-- From any state, inputs and the same inputs without those that are outside end in the same
tracker and the same simulation, events still queued included, and the same events are taken on the
way; what is left are inputs in their order, none of them outside in the run that they make. -/
theorem run_strike_eq (w : State α) (inputs : List (Input α)) :
    run w (strike w inputs) = run w inputs ∧ drained w (strike w inputs) = drained w inputs ∧
      (strike w inputs).Sublist inputs ∧
      ∀ before i after, strike w inputs = before ++ i :: after →
        isOutside (run w before) i = false :=
  ⟨run_strike w inputs, drained_strike w inputs, strike_sublist w inputs,
    fun _ _ _ => not_outside_of_strike⟩

/-- The second pointer counts only once the first is up again. -/
example :
    let place : Point Float := ⟨0, 0⟩
    let start := (new Settings.standard.interaction, Simulation.new Settings.standard 800 600 1)
    (strike start [.down 1 place, .down 2 place, .move 2 place, .operate .toggleRunning,
      .up 2 place, .leave 3, .operate .drain, .up 1 place, .move 2 place]).map Input.pointer? =
        [some 1, none, none, some 1, some 2] := by
  decide +kernel

end GestureTracker
end NodeLink
