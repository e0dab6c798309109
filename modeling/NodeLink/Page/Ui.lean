import NodeLink.Widget.Search
/-!
# Signals of the user interface

What the parts around the canvas show: the panel, a message, whether the layout runs, the results of
a search. Events of the simulation are turned into these after each frame. A message goes away after
a while, unless another one has come: each has a serial number, and a timer only takes away the
message it was started for.
-/

namespace NodeLink

/-- A timer that takes a message away when its time has come. -/
structure ToastTimer where
  -- In milliseconds.
  due : Nat
  serial : Nat
deriving DecidableEq, Inhabited

structure Ui where
  panel : Option Panel := none
  toast : Option String := none
  -- The number of messages so far.
  serial : Nat := 0
  running : Bool
  results : List SearchHit := []
  query : String := ""
  -- Timers that have not fired yet, oldest first.
  timers : List ToastTimer := []
deriving Inhabited

namespace Ui

/-- How long a message stays, in milliseconds. -/
def toastTime : Nat := 1400

def showToast (ui : Ui) (now : Nat) (message : String) : Ui :=
  let serial := ui.serial + 1
  { ui with
    toast := some message
    serial := serial
    timers := ui.timers ++ [⟨now + toastTime, serial⟩] }

/-- A timer fires: its message goes away if it is still the last one. -/
def expire (ui : Ui) (serial : Nat) : Ui :=
  if ui.serial = serial then { ui with toast := none } else ui

/-- Fires the timers whose time has come, in the order they were started; also their number. -/
def fireDue (ui : Ui) (now : Nat) : Ui × Nat :=
  let (due, later) := ui.timers.partition fun t => decide (t.due ≤ now)
  ((due.map ToastTimer.serial).foldl expire { ui with timers := later }, due.length)

/-- A timer that fires leaves the others as they are. -/
theorem timers_foldl_expire (serials : List Nat) (ui : Ui) :
    (serials.foldl expire ui).timers = ui.timers := by
  induction serials generalizing ui with
  | nil => rfl
  | cons n rest ih =>
    rw [List.foldl_cons, ih]
    unfold expire
    split <;> rfl

variable {α : Type} [Scalar α]

def showPanel (w : Widget α) (ui : Ui) (id : String) : Widget α × Ui :=
  let (w, panel) := w.detail id
  (w, { ui with panel := panel })

def shows (ui : Ui) (id : String) : Bool := (ui.panel.map fun p => p.id == id).getD false

/-- Takes in one event. The panel of a node may need the host, so the widget can change too. -/
def takeIn (now : Nat) (w : Widget α) (ui : Ui) : Event → Widget α × Ui
  | .loaded _ _ => (w, { ui with results := [] })
  | .selected id => showPanel w ui id
  | .deselected => (w, { ui with panel := none })
  | .pinChanged id _ => if ui.shows id then showPanel w ui id else (w, ui)
  | .runningChanged running => (w, { ui with running := running })
  | .toast message => (w, ui.showToast now message)

def takeInAll (now : Nat) (w : Widget α) (ui : Ui) : List Event → Widget α × Ui
  | [] => (w, ui)
  | e :: rest =>
    let (w, ui) := takeIn now w ui e
    takeInAll now w ui rest

end Ui
end NodeLink
