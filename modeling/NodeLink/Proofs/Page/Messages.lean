import Mathlib.Data.List.Nodup
import NodeLink.Proofs.Page.Truth
/-!
# Messages and their timers

Each message starts a timer of its own, and the timers fire in any order and as late as they like.
A timer knows its message by a serial number alone, so it must find that number just as long as no
other message has come.

* `Ui.Course.Numbered`: the `k`-th timer has the serial number `k + 1`, whatever has happened.
* `Ui.Course.Waits.toast_run`: how long the last message stays.
* `Ui.Past`: the signals have come about by messages and timers; `Page.Reached.past`: on a page too.
* `Ui.message_stays`: a message stays until its own timer fires or another message comes.
-/

namespace NodeLink

namespace Ui

/-! ## One timer -/

/-- A timer fires, whenever that is. -/
def fire (ui : Ui) (t : ToastTimer) : Ui := { ui with timers := ui.timers.erase t }.expire t.serial

theorem serial_expire (ui : Ui) (n : Nat) : (ui.expire n).serial = ui.serial := by
  unfold expire
  split
  · rfl
  · rfl

theorem timers_fire (ui : Ui) (t : ToastTimer) : (ui.fire t).timers = ui.timers.erase t :=
  timers_foldl_expire [t.serial] _

theorem serial_fire (ui : Ui) (t : ToastTimer) : (ui.fire t).serial = ui.serial :=
  serial_expire _ _

theorem toast_fire_of_eq {ui : Ui} {t : ToastTimer} (h : ui.serial = t.serial) :
    (ui.fire t).toast = none := by
  rw [fire, expire, if_pos h]

theorem toast_fire_of_ne {ui : Ui} {t : ToastTimer} (h : ui.serial ≠ t.serial) :
    (ui.fire t).toast = ui.toast := by
  rw [fire, expire, if_neg h]

theorem toast_fire_of_none {ui : Ui} (h : ui.toast = none) (t : ToastTimer) :
    (ui.fire t).toast = none := by
  by_cases hserial : ui.serial = t.serial
  · exact toast_fire_of_eq hserial
  · exact (toast_fire_of_ne hserial).trans h

theorem foldl_fire (due : List ToastTimer) (ui : Ui) :
    due.foldl fire ui =
      (due.map ToastTimer.serial).foldl expire { ui with timers := ui.timers.diff due } := by
  induction due generalizing ui with
  | nil => rfl
  | cons t rest ih =>
    have hfire (timers : List ToastTimer) :
        { ui.fire t with timers := timers } = { ui with timers := timers }.expire t.serial := by
      unfold fire expire
      dsimp only
      split
      · rfl
      · rfl
    rw [List.foldl_cons, ih, timers_fire, List.map_cons, List.foldl_cons, List.diff_cons]
    exact congrArg (List.foldl expire · _) (hfire _)

/-- To fire all timers that are due is to fire them one by one. -/
theorem fireDue_eq_foldl {ui : Ui} (hnd : ui.timers.Nodup) (now : Nat) :
    (ui.fireDue now).1 = (ui.timers.filter fun t => decide (t.due ≤ now)).foldl fire ui := by
  have hlater : ui.timers.diff (ui.timers.filter fun t => decide (t.due ≤ now)) =
      ui.timers.filter (not ∘ fun t => decide (t.due ≤ now)) := by
    rw [hnd.sdiff_eq_filter]
    refine List.filter_congr fun t ht => ?_
    simp only [List.mem_filter, ht, true_and, decide_eq_true_eq, decide_not, Function.comp_apply]
  rw [foldl_fire, hlater, fireDue, List.partition_eq_filter_filter]

/-! ## What happens to the signals -/

/-- One thing that happens to the signals. -/
inductive Moment where
  | message (now : Nat) (text : String)
  -- The timer fires that was started for the message of this number, the first one being zero.
  | timer (number : Nat)
  -- Everything but messages and timers is set.
  | others (panel : Option Panel) (running : Bool) (results : List SearchHit) (query : String)

def Moment.isMessage : Moment → Bool
  | .message _ _ => true
  | _ => false

/-- The number of messages. -/
def messages (moments : List Moment) : Nat := moments.countP Moment.isMessage

/-- The signals, and all timers that were ever started, in the order of their messages. -/
structure Course where
  ui : Ui
  started : List ToastTimer

namespace Course

def start (running : Bool) : Course := ⟨{ running := running }, []⟩

/-- A timer that has fired already, or is not there yet, does nothing. -/
def happen (c : Course) : Moment → Course
  | .message now text =>
    let ui := c.ui.showToast now text
    ⟨ui, c.started ++ ui.timers.drop c.ui.timers.length⟩
  | .timer number =>
    match c.started[number]? with
    | some t => if t ∈ c.ui.timers then { c with ui := c.ui.fire t } else c
    | none => c
  | .others panel running results query =>
    { c with ui :=
      { c.ui with panel := panel, running := running, results := results, query := query } }

def run (c : Course) (moments : List Moment) : Course := moments.foldl happen c

theorem run_append (c : Course) (first second : List Moment) :
    c.run (first ++ second) = (c.run first).run second := List.foldl_append

/-- A timer fires or does nothing; what holds either way holds after it. -/
theorem happen_timer {P : Course → Prop} {c : Course} {number : Nat} (hkept : P c)
    (hfired : ∀ t, c.started[number]? = some t → t ∈ c.ui.timers →
      P { c with ui := c.ui.fire t }) : P (c.happen (.timer number)) := by
  unfold happen
  dsimp only
  split
  · next t ht =>
    split
    · next hwaits => exact hfired t ht hwaits
    · exact hkept
  · exact hkept

theorem started_message (c : Course) (now : Nat) (text : String) :
    (c.happen (.message now text)).started =
      c.started ++ [⟨now + toastTime, c.ui.serial + 1⟩] := by
  show c.started ++ (c.ui.showToast now text).timers.drop c.ui.timers.length = _
  rw [showToast, List.drop_left]

/-! ## Serial numbers -/

/-- Timers are numbered as their messages are, and those that wait are among them. -/
structure Numbered (c : Course) : Prop where
  serials : c.started.map ToastTimer.serial = List.range' 1 c.ui.serial
  waiting : c.ui.timers.Sublist c.started

variable {c : Course}

theorem Numbered.length (hc : c.Numbered) : c.started.length = c.ui.serial := by
  have hlength := congrArg List.length hc.serials
  rwa [List.length_map, List.length_range'] at hlength

theorem Numbered.lt_serial (hc : c.Numbered) {number : Nat} {t : ToastTimer}
    (ht : c.started[number]? = some t) : number < c.ui.serial :=
  hc.length ▸ (List.getElem?_eq_some_iff.mp ht).1

theorem Numbered.serial_eq (hc : c.Numbered) {number : Nat} {t : ToastTimer}
    (ht : c.started[number]? = some t) : t.serial = number + 1 := by
  have hserial : (c.started.map ToastTimer.serial)[number]? = some t.serial := by
    rw [List.getElem?_map, ht, Option.map_some]
  rw [hc.serials, List.getElem?_range' (hc.lt_serial ht), Nat.one_mul, Nat.add_comm] at hserial
  exact (Option.some.inj hserial).symm

/-- Serial numbers in words of 64 bits tell messages apart just as well, unless as many of them as
there are words come while one timer waits. -/
theorem Numbered.word_eq_iff (hc : c.Numbered) {t : ToastTimer} (ht : t ∈ c.ui.timers)
    (hfew : c.ui.serial < t.serial + 2 ^ 64) :
    c.ui.serial % 2 ^ 64 = t.serial % 2 ^ 64 ↔ c.ui.serial = t.serial := by
  obtain ⟨number, hnumber⟩ := List.mem_iff_getElem?.mp (hc.waiting.subset ht)
  have hlt : number < c.ui.serial := hc.lt_serial hnumber
  have hserial : t.serial = number + 1 := hc.serial_eq hnumber
  omega

theorem Numbered.nodup (hc : c.Numbered) : c.ui.timers.Nodup := by
  have hserials : (c.started.map ToastTimer.serial).Nodup := hc.serials ▸ List.nodup_range'
  exact (List.Nodup.of_map _ hserials).sublist hc.waiting

theorem numbered_start (running : Bool) : (start running).Numbered := ⟨rfl, List.Sublist.refl []⟩

theorem Numbered.happen (hc : c.Numbered) (m : Moment) : (c.happen m).Numbered := by
  cases m with
  | message now text =>
    have hserial : (c.happen (.message now text)).ui.serial = c.ui.serial + 1 := rfl
    refine ⟨?_, ?_⟩
    · rw [started_message, hserial, List.map_append, hc.serials, List.range'_1_concat,
        List.map_singleton, Nat.add_comm 1]
    · rw [started_message]
      exact hc.waiting.append_right _
  | timer number =>
    refine happen_timer hc fun t _ _ => ⟨?_, ?_⟩
    · rw [serial_fire]
      exact hc.serials
    · rw [timers_fire]
      exact List.erase_sublist.trans hc.waiting
  | others => exact ⟨hc.serials, hc.waiting⟩

theorem Numbered.run (hc : c.Numbered) (moments : List Moment) : (c.run moments).Numbered := by
  induction moments generalizing c with
  | nil => exact hc
  | cons m rest ih => exact ih (hc.happen m)

/-! ## How long a message stays -/

theorem toast_run_of_none (hnone : c.ui.toast = none) {moments : List Moment}
    (hquiet : ∀ m ∈ moments, m.isMessage = false) : (c.run moments).ui.toast = none := by
  induction moments generalizing c with
  | nil => exact hnone
  | cons m rest ih =>
    obtain ⟨hm, hrest⟩ := List.forall_mem_cons.mp hquiet
    refine ih ?_ hrest
    cases m with
    | message now text => exact absurd hm.symm Bool.false_ne_true
    | timer number =>
      exact happen_timer (P := fun c => c.ui.toast = none) hnone fun t _ _ =>
        toast_fire_of_none hnone t
    | others => exact hnone

/-- The last message has this number, and its timer has not fired. -/
structure Waits (c : Course) (number : Nat) : Prop where
  numbered : c.Numbered
  last : c.ui.serial = number + 1
  timer : ∃ t ∈ c.ui.timers, c.started[number]? = some t

theorem Numbered.waits (hc : c.Numbered) (now : Nat) (text : String) :
    (c.happen (.message now text)).Waits c.ui.serial where
  numbered := hc.happen _
  last := rfl
  timer := by
    refine ⟨⟨now + toastTime, c.ui.serial + 1⟩, List.mem_append_right _ List.mem_cons_self, ?_⟩
    rw [started_message, ← hc.length, List.getElem?_concat_length]

theorem Waits.toast_timer {number : Nat} (hc : c.Waits number) :
    (c.happen (.timer number)).ui.toast = none := by
  obtain ⟨t, hwaits, ht⟩ := hc.timer
  unfold Course.happen
  simp only [ht, if_pos hwaits]
  exact toast_fire_of_eq (hc.last.trans (hc.numbered.serial_eq ht).symm)

/-- The timers of messages before find another number than their own. -/
theorem Waits.happen {number : Nat} (hc : c.Waits number) {m : Moment}
    (hquiet : m.isMessage = false) (hother : m ≠ .timer number) :
    (c.happen m).Waits number ∧ (c.happen m).ui.toast = c.ui.toast := by
  cases m with
  | message now text => exact absurd hquiet.symm Bool.false_ne_true
  | others => exact ⟨⟨hc.numbered.happen (.others _ _ _ _), hc.last, hc.timer⟩, rfl⟩
  | timer other =>
    have hnumbered : (c.happen (.timer other)).Numbered := hc.numbered.happen (.timer other)
    revert hnumbered
    refine happen_timer (P := fun c' => c'.Numbered → c'.Waits number ∧ c'.ui.toast = c.ui.toast)
      (fun _ => ⟨hc, rfl⟩) fun t ht _ hnumbered => ?_
    -- `t` belongs to a message before: it is not the timer that waits, nor is its number the last.
    have hne : other ≠ number := fun h => hother (congrArg Moment.timer h)
    have hserial : c.ui.serial ≠ t.serial := by
      rw [hc.last, hc.numbered.serial_eq ht]
      omega
    obtain ⟨own, hwaits, hown⟩ := hc.timer
    refine ⟨⟨hnumbered, (serial_fire _ _).trans hc.last, own, ?_, hown⟩, toast_fire_of_ne hserial⟩
    have hdistinct : own ≠ t := by
      rintro rfl
      exact hserial (hc.last.trans (hc.numbered.serial_eq hown).symm)
    rw [timers_fire]
    exact (List.mem_erase_of_ne hdistinct).mpr hwaits

/-- As long as no other message comes, the last one stays until its own timer fires. -/
theorem Waits.toast_run {number : Nat} (hc : c.Waits number) {moments : List Moment}
    (hquiet : ∀ m ∈ moments, m.isMessage = false) :
    (.timer number ∉ moments → (c.run moments).ui.toast = c.ui.toast) ∧
      (.timer number ∈ moments → (c.run moments).ui.toast = none) := by
  induction moments generalizing c with
  | nil => exact ⟨fun _ => rfl, fun h => absurd h List.not_mem_nil⟩
  | cons m rest ih =>
    obtain ⟨hm, hrest⟩ := List.forall_mem_cons.mp hquiet
    by_cases hown : m = .timer number
    · rw [hown]
      exact ⟨fun h => absurd List.mem_cons_self h,
        fun _ => toast_run_of_none (c := c.happen (.timer number)) hc.toast_timer hrest⟩
    · obtain ⟨hwaits, hsame⟩ := hc.happen hm hown
      obtain ⟨hstays, hgoes⟩ := ih hwaits hrest
      exact ⟨fun h => (hstays fun hmem => h (List.mem_cons_of_mem m hmem)).trans hsame,
        fun h => hgoes ((List.mem_cons.mp h).resolve_left (Ne.symm hown))⟩

theorem serial_run (c : Course) (moments : List Moment) :
    (c.run moments).ui.serial = c.ui.serial + messages moments := by
  induction moments generalizing c with
  | nil => rfl
  | cons m rest ih =>
    refine (ih (c.happen m)).trans ?_
    cases m with
    | message now text =>
      have hcount : messages (.message now text :: rest) = messages rest + 1 :=
        List.countP_cons_of_pos rfl
      rw [hcount, Nat.add_comm _ 1, ← Nat.add_assoc]
      rfl
    | timer number =>
      have hserial : (c.happen (.timer number)).ui.serial = c.ui.serial :=
        happen_timer (P := fun c' => c'.ui.serial = c.ui.serial) rfl fun t _ _ => serial_fire _ t
      rw [hserial]
      rfl
    | others => rfl

end Course

/-! ## The signals of a page -/

/-- The signals have come about by messages and timers, and by what sets the others. -/
def Past (ui : Ui) : Prop := ∃ running moments, ui = ((Course.start running).run moments).ui

variable {ui : Ui}

theorem Past.happen (h : ui.Past) {m : Moment} {after : Ui}
    (hafter : ∀ started, (Course.happen ⟨ui, started⟩ m).ui = after) : after.Past := by
  obtain ⟨running, moments, rfl⟩ := h
  refine ⟨running, moments ++ [m], ?_⟩
  rw [Course.run_append, ← hafter ((Course.start running).run moments).started]
  rfl

theorem Past.showToast (h : ui.Past) (now : Nat) (text : String) : (ui.showToast now text).Past :=
  h.happen (m := .message now text) fun _ => rfl

theorem Past.others (h : ui.Past) (panel : Option Panel) (running : Bool)
    (results : List SearchHit) (query : String) :
    { ui with panel := panel, running := running, results := results, query := query }.Past :=
  h.happen (m := .others panel running results query) fun _ => rfl

theorem Past.fire (h : ui.Past) {t : ToastTimer} (ht : t ∈ ui.timers) : (ui.fire t).Past := by
  obtain ⟨running, moments, rfl⟩ := h
  have hnumbered := (Course.numbered_start running).run moments
  obtain ⟨number, hnumber⟩ := List.mem_iff_getElem?.mp (hnumbered.waiting.subset ht)
  refine ⟨running, moments ++ [.timer number], ?_⟩
  rw [Course.run_append]
  show _ = (((Course.start running).run moments).happen (.timer number)).ui
  unfold Course.happen
  simp only [hnumber, if_pos ht]

theorem Past.foldl_fire (h : ui.Past) {due : List ToastTimer} (hnd : due.Nodup)
    (hdue : ∀ t ∈ due, t ∈ ui.timers) : (due.foldl Ui.fire ui).Past := by
  induction due generalizing ui with
  | nil => exact h
  | cons t rest ih =>
    obtain ⟨ht, hrest⟩ := List.forall_mem_cons.mp hdue
    obtain ⟨hnot, hnd⟩ := List.nodup_cons.mp hnd
    refine ih (h.fire ht) hnd fun t' ht' => ?_
    rw [timers_fire]
    exact (List.mem_erase_of_ne (ne_of_mem_of_not_mem ht' hnot)).mpr (hrest t' ht')

theorem Past.fireDue (h : ui.Past) (now : Nat) : (ui.fireDue now).1.Past := by
  have hnd : ui.timers.Nodup := by
    obtain ⟨running, moments, rfl⟩ := h
    exact ((Course.numbered_start running).run moments).nodup
  rw [fireDue_eq_foldl hnd]
  exact h.foldl_fire (hnd.filter _) fun t ht => List.mem_of_mem_filter ht

section Page

variable {α : Type} [Scalar α]

theorem Past.takeIn (h : ui.Past) (now : Nat) (w : Widget α) (e : Event) :
    (Ui.takeIn now w ui e).2.Past := by
  cases e with
  | loaded => exact h.others _ _ [] _
  | selected id => exact h.others _ _ _ _
  | deselected => exact h.others none _ _ _
  | pinChanged id pinned =>
    unfold Ui.takeIn
    dsimp only
    split
    · exact h.others _ _ _ _
    · exact h
  | runningChanged running => exact h.others _ running _ _
  | toast message => exact h.showToast now message

theorem Past.takeInAll (h : ui.Past) (now : Nat) (w : Widget α) (events : List Event) :
    (Ui.takeInAll now w ui events).2.Past := by
  induction events generalizing w ui with
  | nil => exact h
  | cons e rest ih => exact ih (h.takeIn now w e) _

end Page
end Ui

namespace Page

variable {α : Type} [Scalar α] {p : Page α}

theorem past_perform (hp : p.ui.Past) (c : Click) : (p.perform c).ui.Past := by
  cases c with
  | chooseResult id => exact hp.others _ _ [] _
  | _ => exact hp

/-- Frames bring messages, and waiting lets their timers fire; nothing else touches them. -/
theorem Reached.past (hp : p.Reached) : p.ui.Past := by
  induction hp with
  | opened place hw extent fullscreen hasApi => exact ⟨_, [], rfl⟩
  | @mount p _ ih =>
    unfold Surroundings.mount
    split
    · exact ih
    · exact ih
  | step _ _ _ ih => exact ih
  | pointerDown _ _ _ ih => exact ih
  | pointerMove _ _ _ ih => exact ih
  | pointerUp _ _ _ ih => exact ih
  | pointerLeave _ _ ih => exact ih
  | wheel _ _ _ ih => exact ih
  | input _ query ih => exact ih.others _ _ _ query
  | perform _ c ih => exact past_perform ih c
  | @resize p _ window parent ih =>
    unfold Page.resize
    dsimp only
    split
    · exact ih
    · exact ih
  | wait _ milliseconds ih => exact ih.fireDue _
  | frame _ _ ih => exact ih.takeInAll _ _ _

end Page

namespace Ui

/-- However messages come and timers fire: each message starts one timer, nothing is shown before
the first message, and a message is shown until the timer that it started fires, or until another
message comes. From then on nothing is shown until the next message. Timers of messages before it
make no difference, nor does what happens to the other signals. On a page nothing else happens to
messages. Serial numbers kept in words of 64 bits are told apart just as these are, unless as many
messages as there are words come while one timer waits. -/
theorem message_stays (α : Type) [Scalar α] :
    (∀ running moments,
      ((Course.start running).run moments).started.length = messages moments) ∧
    (∀ running moments, let ui := ((Course.start running).run moments).ui
      ∀ t ∈ ui.timers, ui.serial < t.serial + 2 ^ 64 →
        (ui.serial % 2 ^ 64 = t.serial % 2 ^ 64 ↔ ui.serial = t.serial)) ∧
    (∀ running moments, (∀ m ∈ moments, m.isMessage = false) →
      ((Course.start running).run moments).ui.toast = none) ∧
    (∀ running before now text after, (∀ m ∈ after, m.isMessage = false) →
      let ui := ((Course.start running).run (before ++ .message now text :: after)).ui
      (.timer (messages before) ∉ after → ui.toast = some text) ∧
        (.timer (messages before) ∈ after → ui.toast = none)) ∧
    ∀ p : Page α, p.Reached →
      ∃ running moments, p.ui = ((Course.start running).run moments).ui := by
  have hserial (running : Bool) (moments : List Moment) :
      ((Course.start running).run moments).ui.serial = messages moments :=
    (Course.serial_run _ moments).trans (Nat.zero_add _)
  have hnumbered (running : Bool) (moments : List Moment) :=
    (Course.numbered_start running).run moments
  refine ⟨fun running moments => (hnumbered running moments).length.trans (hserial _ _),
    fun running moments _ ht => (hnumbered running moments).word_eq_iff ht,
    fun running moments hquiet => Course.toast_run_of_none rfl hquiet, ?_, fun p hp => hp.past⟩
  intro running before now text after hquiet
  have hwaits := (hnumbered running before).waits now text
  rw [hserial] at hwaits
  rw [Course.run_append]
  exact hwaits.toast_run hquiet

/-! ## An example -/

/-- A page after a click that brings a message, and after as long as the message stays. -/
def quietPage : Page Float :=
  (((Surroundings.mount Page.openedPage).perform .fit).frame.wait toastTime).1

theorem message_stays_quietPage :
    let shown := fun moments => ((Course.start true).run moments).ui.toast
    let both : List Moment := [.message 0 "Fit", .message 0 "Reheat"]
    shown [.timer 0] = none ∧ shown (both ++ [.timer 0]) = some "Reheat" ∧
      shown (both ++ [.timer 1, .timer 0]) = none ∧
      (((Course.start true).run both).ui.serial % 2 ^ 64 = 1 % 2 ^ 64 ↔
        ((Course.start true).run both).ui.serial = 1) ∧
      quietPage.Reached ∧
      ∃ running moments, quietPage.ui = ((Course.start running).run moments).ui := by
  intro shown both
  obtain ⟨-, hwords, hnothing, hstays, hpage⟩ := message_stays Float
  have hopened : (Surroundings.mount Page.openedPage).Reached :=
    .mount (.opened Page.emptyPlace Page.undrained_pausedPair _ _ _)
  have hreached : quietPage.Reached := .wait (.frame (.perform hopened .fit) fun _ _ _ => rfl) _
  refine ⟨hnothing true _ fun m hm => ?_, ?_, ?_,
    hwords true both ⟨toastTime, 1⟩ (by decide) (by decide), hreached, hpage _ hreached⟩
  · rw [List.mem_singleton.mp hm]
    rfl
  · exact (hstays true [.message 0 "Fit"] 0 "Reheat" [.timer 0]
      (List.forall_mem_singleton.mpr rfl)).1 (by simp [messages, Moment.isMessage])
  · exact (hstays true [.message 0 "Fit"] 0 "Reheat" [.timer 1, .timer 0]
      (List.forall_mem_cons.mpr ⟨rfl, List.forall_mem_singleton.mpr rfl⟩)).2 List.mem_cons_self

end Ui
end NodeLink
