import NodeLink.Canvas.Call
/-!
# What calls do to a canvas

A canvas has a drawing state that calls set, states put aside by saves and taken back by restores, a
current path, and on it the marks that have been made. How the state looks is left to the canvas;
of what calls set in it only one thing is said here: which composite mode there is.

* `Surface`: the drawing states of a canvas.
* `Canvas.run`: what calls do, one after the other.
* `Call.Nested`: calls in which each save has its restore; `Nested.restores_le`,
  `Nested.saved_run`.
* `Surface.Draws`: what calls put on a canvas that is in a mode, if they leave it in this mode.
-/

namespace NodeLink

/-- A piece of a path. -/
inductive Segment (α : Type) where
  | start (p : Point α)
  | line (p : Point α)
  | arc (center : Point α) (radius startAngle endAngle : α)

/-- What a single call puts on a canvas. -/
inductive Figure (α : Type) where
  | stroked (path : List (Segment α))
  | filled (path : List (Segment α))
  | rect (x y width height : α)
  | text (text : String) (x y : α)

namespace Call

variable {α : Type}

def isSave : Call α → Bool
  | .save => true
  | _ => false

def isRestore : Call α → Bool
  | .restore => true
  | _ => false

/-- The call puts a state aside or takes one back. -/
def nests (call : Call α) : Bool := call.isSave || call.isRestore

/-- The call sets something in the drawing state, but for the composite mode. -/
def sets : Call α → Bool
  | .translate .. | .scale .. | .createRadialGradient .. | .addColorStop .. | .lineWidth _
  | .shadowBlur _ | .fillStyle _ | .fillStyleGradient | .strokeStyle _ | .shadowColor _ | .font _
  | .textBaseline _ => true
  | _ => false

end Call

/-- The drawing states of a canvas, by what the calls that set something make of them. A composite
mode is set if the canvas knows it; all other calls leave the mode as it is. -/
structure Surface (α σ : Type) where
  set : Call α → σ → σ
  mode : σ → String
  knows : String → Prop
  knows_sourceOver : knows "source-over"
  mode_set : ∀ m st, knows m → mode (set (.globalCompositeOperation m) st) = m
  mode_keeps : ∀ call st, call.sets = true → mode (set call st) = mode st

structure Canvas (α σ : Type) where
  state : σ
  -- States put aside, the last one first.
  saved : List σ
  path : List (Segment α)
  -- The figures that have been drawn, each with the state it was drawn in.
  marks : List (Figure α × σ)

namespace Canvas

variable {α σ : Type}

def extend (c : Canvas α σ) (piece : Segment α) : Canvas α σ := { c with path := c.path ++ [piece] }

def mark (c : Canvas α σ) (figure : Figure α) : Canvas α σ :=
  { c with marks := c.marks ++ [(figure, c.state)] }

/-- What a call does. A restore without a save does nothing. -/
def step (u : Surface α σ) (c : Canvas α σ) : Call α → Canvas α σ
  | .save => { c with saved := c.state :: c.saved }
  | .restore => match c.saved with
    | [] => c
    | st :: rest => { c with state := st, saved := rest }
  | .beginPath => { c with path := [] }
  | .moveTo p => c.extend (.start p)
  | .lineTo p => c.extend (.line p)
  | .arc center radius startAngle endAngle => c.extend (.arc center radius startAngle endAngle)
  | .stroke => c.mark (.stroked c.path)
  | .fill => c.mark (.filled c.path)
  | .fillRect x y width height => c.mark (.rect x y width height)
  | .fillText text x y => c.mark (.text text x y)
  | call => { c with state := u.set call c.state }

def run (u : Surface α σ) (c : Canvas α σ) (calls : List (Call α)) : Canvas α σ :=
  calls.foldl (step u) c

/-- The figures that have been drawn, each with the mode it was drawn under. -/
def shown (u : Surface α σ) (c : Canvas α σ) : List (Figure α × String) :=
  c.marks.map fun (figure, st) => (figure, u.mode st)

variable (u : Surface α σ) (c : Canvas α σ)

theorem run_cons (call : Call α) (calls : List (Call α)) :
    c.run u (call :: calls) = (c.step u call).run u calls := rfl

theorem run_append (calls more : List (Call α)) :
    c.run u (calls ++ more) = (c.run u calls).run u more := List.foldl_append

theorem saved_step {call : Call α} (hcall : call.nests = false) :
    (c.step u call).saved = c.saved := by
  cases call with
  | save => exact Bool.noConfusion hcall
  | restore => exact Bool.noConfusion hcall
  | _ => rfl

theorem step_sets {call : Call α} (hcall : call.sets = true) :
    c.step u call = { c with state := u.set call c.state } := by
  cases call with
  | translate | scale | createRadialGradient | addColorStop | lineWidth | shadowBlur | fillStyle
  | fillStyleGradient | strokeStyle | shadowColor | font | textBaseline => rfl
  | _ => exact Bool.noConfusion hcall

theorem step_restore {c : Canvas α σ} {st : σ} {rest : List σ} (hsaved : c.saved = st :: rest) :
    c.step u .restore = { c with state := st, saved := rest } := by
  rw [step, hsaved]

theorem shown_mark (figure : Figure α) :
    (c.mark figure).shown u = c.shown u ++ [(figure, u.mode c.state)] := List.map_append

end Canvas

/-! ## Saves and restores -/

namespace Call

variable {α σ : Type}

/-- Each save has its restore after it, and each restore its save before. -/
inductive Nested : List (Call α) → Prop where
  | nil : Nested []
  | plain {call : Call α} {rest : List (Call α)} (hcall : call.nests = false)
    (hrest : Nested rest) : Nested (call :: rest)
  | saved {inner rest : List (Call α)} (hinner : Nested inner) (hrest : Nested rest) :
    Nested (.save :: (inner ++ .restore :: rest))

namespace Nested

variable {calls more : List (Call α)}

theorem append (h : Nested calls) (hmore : Nested more) : Nested (calls ++ more) := by
  induction h with
  | nil => exact hmore
  | plain hcall _ ih => exact .plain hcall ih
  | saved hinner _ _ ih =>
    rw [List.cons_append, List.append_assoc, List.cons_append]
    exact .saved hinner ih

theorem flatMap {β : Type} {f : β → List (Call α)} (hf : ∀ x, Nested (f x)) (xs : List β) :
    Nested (xs.flatMap f) := by
  induction xs with
  | nil => exact .nil
  | cons x rest ih => exact (hf x).append ih

theorem of_all (h : ∀ call ∈ calls, call.nests = false) : Nested calls := by
  induction calls with
  | nil => exact .nil
  | cons call rest ih =>
    exact .plain (h call List.mem_cons_self) (ih fun c hc => h c (List.mem_cons_of_mem call hc))

theorem enclosed (h : Nested calls) : Nested (.save :: (calls ++ [.restore])) := .saved h .nil

theorem count_eq (h : Nested calls) : calls.countP isRestore = calls.countP isSave := by
  induction h with
  | nil => rfl
  | plain hcall _ ih =>
    obtain ⟨hsave, hrestore⟩ := Bool.or_eq_false_iff.mp hcall
    rw [List.countP_cons_of_neg (by simp [hrestore]), List.countP_cons_of_neg (by simp [hsave]), ih]
  | saved _ _ ihinner ihrest =>
    simp only [List.countP_cons, List.countP_append, ihinner, ihrest, isSave, isRestore,
      Bool.false_eq_true, if_false, if_true]
    omega

/-- Up to any call there are no more restores than saves. -/
theorem restores_le (h : Nested calls) {first : List (Call α)} (hfirst : first <+: calls) :
    first.countP isRestore ≤ first.countP isSave := by
  induction h generalizing first with
  | nil =>
    rw [List.prefix_nil.mp hfirst]
    exact Nat.le_refl _
  | plain hcall _ ih =>
    obtain ⟨hsave, hrestore⟩ := Bool.or_eq_false_iff.mp hcall
    rcases List.prefix_cons_iff.mp hfirst with rfl | ⟨next, rfl, hnext⟩
    · exact Nat.le_refl _
    · rw [List.countP_cons_of_neg (by simp [hrestore]), List.countP_cons_of_neg (by simp [hsave])]
      exact ih hnext
  | @saved inner rest hinner _ ihinner ihrest =>
    rcases List.prefix_cons_iff.mp hfirst with rfl | ⟨next, rfl, hnext⟩
    · exact Nat.le_refl _
    · rw [List.countP_cons_of_neg (by simp [isRestore]), List.countP_cons_of_pos rfl]
      -- the prefix ends before the restore or goes on after it
      rcases List.prefix_or_prefix_of_prefix hnext (List.prefix_append inner _) with hin | hout
      · exact Nat.le_trans (ihinner hin) (Nat.le_succ _)
      · obtain ⟨beyond, rfl⟩ := hout
        have hbeyond := (List.prefix_append_right_inj inner).mp hnext
        rw [List.countP_append, List.countP_append, hinner.count_eq]
        rcases List.prefix_cons_iff.mp hbeyond with rfl | ⟨last, rfl, hlast⟩
        · exact Nat.le_succ _
        · have hle := ihrest hlast
          rw [List.countP_cons_of_pos rfl, List.countP_cons_of_neg (by simp [isSave])]
          omega

/-- States that were put aside before are still there. -/
theorem saved_run (h : Nested calls) (u : Surface α σ) (c : Canvas α σ) :
    (c.run u calls).saved = c.saved := by
  induction h generalizing c with
  | nil => rfl
  | plain hcall _ ih => rw [Canvas.run_cons, ih, Canvas.saved_step u c hcall]
  | saved _ _ ihinner ihrest =>
    rw [Canvas.run_cons, Canvas.run_append, Canvas.run_cons, ihrest,
      Canvas.step_restore u (ihinner _)]

/-- Between a save and its restore the state may be changed at will. -/
theorem run_enclosed (h : Nested calls) (u : Surface α σ) (c : Canvas α σ) :
    c.run u (.save :: (calls ++ [.restore])) =
      { (c.step u .save).run u calls with state := c.state, saved := c.saved } := by
  rw [Canvas.run_cons, Canvas.run_append, Canvas.run_cons,
    Canvas.step_restore u (h.saved_run u (c.step u .save))]
  rfl

end Nested

end Call

/-! ## Figures -/

namespace Segment

variable {α σ : Type}

def call : Segment α → Call α
  | .start p => .moveTo p
  | .line p => .lineTo p
  | .arc center radius startAngle endAngle => .arc center radius startAngle endAngle

theorem run_calls (u : Surface α σ) (c : Canvas α σ) (path : List (Segment α)) :
    c.run u (path.map call) = { c with path := c.path ++ path } := by
  induction path generalizing c with
  | nil =>
    rw [List.append_nil]
    rfl
  | cons piece rest ih =>
    have hstep : c.step u piece.call = c.extend piece := by
      cases piece with
      | start p => rfl
      | line p => rfl
      | arc center radius startAngle endAngle => rfl
    rw [List.map_cons, Canvas.run_cons, hstep, ih, Canvas.extend, List.append_assoc]
    rfl

theorem run_path (u : Surface α σ) (c : Canvas α σ) (path : List (Segment α)) :
    c.run u (.beginPath :: path.map call) = { c with path := path } := run_calls u _ path

end Segment

namespace Surface

variable {α σ : Type} {u : Surface α σ} {mode : String}

/-- In a mode the calls draw these figures and stay in the mode. -/
def Draws (u : Surface α σ) (mode : String) (calls : List (Call α)) (figures : List (Figure α)) :
    Prop :=
  ∀ c : Canvas α σ, u.mode c.state = mode → u.mode (c.run u calls).state = mode ∧
    (c.run u calls).shown u = c.shown u ++ figures.map fun figure => (figure, mode)

namespace Draws

variable {calls more : List (Call α)} {figures others : List (Figure α)}

theorem nil : u.Draws mode [] [] := fun _ hc => ⟨hc, (List.append_nil _).symm⟩

theorem append (h : u.Draws mode calls figures) (hmore : u.Draws mode more others) :
    u.Draws mode (calls ++ more) (figures ++ others) := by
  intro c hc
  obtain ⟨hmode, hshown⟩ := h c hc
  obtain ⟨hmode', hshown'⟩ := hmore _ hmode
  rw [Canvas.run_append, hshown', hshown, List.map_append, List.append_assoc]
  exact ⟨hmode', rfl⟩

theorem flatMap {β : Type} {f : β → List (Call α)} {figuresOf : β → List (Figure α)}
    (hf : ∀ x, u.Draws mode (f x) (figuresOf x)) (xs : List β) :
    u.Draws mode (xs.flatMap f) (xs.flatMap figuresOf) := by
  induction xs with
  | nil => exact nil
  | cons x rest ih => exact (hf x).append ih

/-- A call that only sets something draws nothing. -/
theorem set {call : Call α} (hcall : call.sets = true) (h : u.Draws mode calls figures) :
    u.Draws mode (call :: calls) figures := by
  intro c hc
  rw [Canvas.run_cons, Canvas.step_sets u c hcall]
  exact h { c with state := u.set call c.state } ((u.mode_keeps call c.state hcall).trans hc)

/-- A single call that draws. -/
theorem mark {call : Call α} {figure : Figure α}
    (hcall : ∀ c : Canvas α σ, c.step u call = c.mark figure) : u.Draws mode [call] [figure] := by
  intro c hc
  rw [Canvas.run_cons, hcall]
  exact ⟨hc, (Canvas.shown_mark u c figure).trans (by rw [hc]; rfl)⟩

/-- A path of its own, drawn by the last call. -/
theorem path {call : Call α} {figure : List (Segment α) → Figure α}
    (hcall : ∀ c : Canvas α σ, c.step u call = c.mark (figure c.path))
    (path : List (Segment α)) :
    u.Draws mode (.beginPath :: path.map Segment.call ++ [call]) [figure path] := by
  intro c hc
  rw [Canvas.run_append, Segment.run_path, Canvas.run_cons, hcall]
  exact ⟨hc, (Canvas.shown_mark u _ _).trans (by rw [hc]; rfl)⟩

theorem stroked (path : List (Segment α)) :
    u.Draws mode (.beginPath :: path.map Segment.call ++ [.stroke]) [.stroked path] :=
  Draws.path (fun _ => rfl) path

theorem filled (path : List (Segment α)) :
    u.Draws mode (.beginPath :: path.map Segment.call ++ [.fill]) [.filled path] :=
  Draws.path (fun _ => rfl) path

theorem enclosed (hnested : Call.Nested calls) (h : u.Draws mode calls figures) :
    u.Draws mode (.save :: (calls ++ [.restore])) figures := by
  intro c hc
  obtain ⟨-, hshown⟩ := h (c.step u .save) hc
  rw [hnested.run_enclosed]
  exact ⟨hc, hshown⟩

/-- Calls that follow when a mode has been set. -/
theorem under (hmode : u.knows mode) (h : u.Draws mode calls figures) (c : Canvas α σ) :
    u.mode (c.run u (.globalCompositeOperation mode :: calls)).state = mode ∧
      (c.run u (.globalCompositeOperation mode :: calls)).shown u =
        c.shown u ++ figures.map fun figure => (figure, mode) :=
  h (c.step u (.globalCompositeOperation mode)) (u.mode_set mode c.state hmode)

end Draws

end Surface
end NodeLink
