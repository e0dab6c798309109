import Mathlib.Data.List.Basic
/-!
# The log of a channel

What has happened to a channel, in order: who subscribed with which handle, which handles were
dropped, given up and entrusted to subscribers, what was published, and whom each publication
called. From the log alone it can be told which registrations are live at any time, and so whom a
publication has to call.

* `Channel.Live`: a registration is live unless its handle was dropped while it was held.
* `live_concat`: what one more entry does to the live registrations.
-/

namespace NodeLink.Channel

/-! ## The log -/

/-- Something that has happened to a channel. -/
inductive Entry where
  -- Subscribers are numbered in the order they came; one that is not kept has no handle.
  | subscribed (number : Nat) (handle : Option Nat)
  | dropped (handle : Nat)
  | detached (handle : Nat)
  | published (value : String)
  -- The publication is named by its place in the log.
  | called (publication number : Nat) (value : String)
  | entrusted (handle number : Nat)
  | closed
deriving DecidableEq

namespace Entry

/-- After this the handle is no longer held. -/
def settles (handle : Nat) (e : Entry) : Bool := e = .dropped handle ∨ e = .detached handle

theorem settles_dropped (h h' : Nat) : (dropped h).settles h' = decide (h' = h) := by
  simp only [settles, dropped.injEq, reduceCtorEq, or_false, eq_comm]

theorem settles_detached (h h' : Nat) : (detached h).settles h' = decide (h' = h) := by
  simp only [settles, detached.injEq, reduceCtorEq, false_or, eq_comm]

def number? : Entry → Option Nat
  | .subscribed number _ => some number
  | _ => none

def handle? : Entry → Option Nat
  | .subscribed _ handle => handle
  | _ => none

/-- Whom a publication calls, and with what. -/
def call? (publication : Nat) : Entry → Option (Nat × String)
  | .called p number value => if p = publication then some (number, value) else none
  | _ => none

end Entry

/-- The registration of a number, with its handle and what has happened since. -/
def Registered (log : List Entry) (number : Nat) (handle : Option Nat) (later : List Entry) :
    Prop :=
  ∃ before, log = before ++ .subscribed number handle :: later

/-- The first thing done to the handle was to drop it. -/
def Ended (handle : Option Nat) (later : List Entry) : Prop :=
  ∃ h, handle = some h ∧ later.find? (Entry.settles h) = some (.dropped h)

/-- The channel is there, and the registration has not ended. -/
def Live (log : List Entry) (number : Nat) : Prop :=
  .closed ∉ log ∧ ∃ handle later, Registered log number handle later ∧ ¬Ended handle later

/-- A handle is held, and to drop it would end the registration of a number. -/
def Holds (log : List Entry) (handle number : Nat) : Prop :=
  ∃ later, Registered log number (some handle) later ∧ later.find? (Entry.settles handle) = none

/-- The live registrations, in the order of subscription. -/
structure Lists (log : List Entry) (numbers : List Nat) : Prop where
  ordered : numbers.Pairwise (· < ·)
  mem : ∀ n, n ∈ numbers ↔ Live log n

/-! ## One more entry -/

theorem registered_concat (log : List Entry) (e : Entry) (n : Nat) (handle : Option Nat)
    (later : List Entry) : Registered (log ++ [e]) n handle later ↔
      (∃ later', later = later' ++ [e] ∧ Registered log n handle later') ∨
        e = .subscribed n handle ∧ later = [] := by
  constructor
  · rintro ⟨before, hlog⟩
    rcases List.eq_nil_or_concat later with rfl | ⟨later', last, hlater⟩
    · obtain ⟨-, hlast⟩ := List.append_inj' hlog rfl
      exact .inr ⟨(List.cons.inj hlast).1, rfl⟩
    · rw [List.concat_eq_append] at hlater
      subst hlater
      have hsplit : log ++ [e] = (before ++ .subscribed n handle :: later') ++ [last] := by
        rw [hlog, List.append_assoc, List.cons_append]
      obtain ⟨hbefore, hlast⟩ := List.append_inj' hsplit rfl
      rw [(List.cons.inj hlast).1]
      exact .inl ⟨later', rfl, before, hbefore⟩
  · rintro (⟨later', rfl, before, rfl⟩ | ⟨rfl, rfl⟩)
    · exact ⟨before, by rw [List.append_assoc, List.cons_append]⟩
    · exact ⟨log, rfl⟩

theorem Registered.mem {log later : List Entry} {n : Nat} {handle : Option Nat}
    (h : Registered log n handle later) : Entry.subscribed n handle ∈ log := by
  obtain ⟨before, rfl⟩ := h
  exact List.mem_append_right before List.mem_cons_self

theorem Registered.mem_numbers {log later : List Entry} {n : Nat} {handle : Option Nat}
    (h : Registered log n handle later) : n ∈ log.filterMap Entry.number? :=
  List.mem_filterMap.mpr ⟨.subscribed n handle, h.mem, rfl⟩

theorem registered_cons (e : Entry) (log : List Entry) (n : Nat) (handle : Option Nat)
    (later : List Entry) : Registered (e :: log) n handle later ↔
      e = .subscribed n handle ∧ later = log ∨ Registered log n handle later := by
  constructor
  · rintro ⟨before, hlog⟩
    cases before with
    | nil =>
      obtain ⟨he, hlater⟩ := List.cons.inj hlog
      exact .inl ⟨he, hlater.symm⟩
    | cons first before => exact .inr ⟨before, (List.cons.inj hlog).2⟩
  · rintro (⟨rfl, rfl⟩ | ⟨before, rfl⟩)
    · exact ⟨[], rfl⟩
    · exact ⟨e :: before, rfl⟩

/-- A number that was given once has one registration. -/
theorem Registered.unique {log later later' : List Entry} {n : Nat} {handle handle' : Option Nat}
    (hlog : (log.filterMap Entry.number?).Nodup) (h : Registered log n handle later)
    (h' : Registered log n handle' later') : handle' = handle ∧ later' = later := by
  induction log with
  | nil => exact absurd h.mem List.not_mem_nil
  | cons e rest ih =>
    have hfirst {handle later} (hreg : Registered rest n handle later) :
        ∀ handle', e ≠ .subscribed n handle' := by
      rintro handle' rfl
      exact (List.nodup_cons.mp hlog).1 hreg.mem_numbers
    rcases (registered_cons e rest n handle later).mp h with ⟨he, rfl⟩ | hrest
    · rcases (registered_cons e _ n handle' later').mp h' with ⟨he', rfl⟩ | hrest'
      · rw [he, Entry.subscribed.injEq] at he'
        exact ⟨he'.2.symm, rfl⟩
      · exact absurd he (hfirst hrest' handle)
    · rcases (registered_cons e rest n handle' later').mp h' with ⟨he', rfl⟩ | hrest'
      · exact absurd he' (hfirst hrest handle')
      · exact ih (hlog.sublist ((List.sublist_cons_self e rest).filterMap _)) hrest hrest'

theorem find?_settles_concat (handle : Nat) (later : List Entry) (e : Entry) :
    (later ++ [e]).find? (Entry.settles handle) =
      (later.find? (Entry.settles handle)).or (if e.settles handle then some e else none) := by
  rw [List.find?_append, List.find?_singleton]

theorem ended_concat (handle : Option Nat) (later : List Entry) (e : Entry) :
    Ended handle (later ++ [e]) ↔ Ended handle later ∨
      ∃ h, handle = some h ∧ e = .dropped h ∧ later.find? (Entry.settles h) = none := by
  constructor
  · rintro ⟨h, rfl, hfind⟩
    rw [find?_settles_concat] at hfind
    cases hlater : later.find? (Entry.settles h) with
    | some first =>
      rw [hlater, Option.some_or] at hfind
      exact .inl ⟨h, rfl, hlater.trans hfind⟩
    | none =>
      rw [hlater, Option.none_or] at hfind
      split at hfind
      · exact .inr ⟨h, rfl, Option.some.inj hfind, hlater⟩
      · exact absurd hfind.symm (Option.some_ne_none _)
  · rintro (⟨h, rfl, hfind⟩ | ⟨h, rfl, rfl, hfind⟩)
    · refine ⟨h, rfl, ?_⟩
      rw [find?_settles_concat, hfind, Option.some_or]
    · refine ⟨h, rfl, ?_⟩
      rw [find?_settles_concat, hfind, Option.none_or, if_pos]
      exact decide_eq_true (.inl rfl)

theorem holds_concat (log : List Entry) (e : Entry) (h n : Nat) :
    Holds (log ++ [e]) h n ↔
      Holds log h n ∧ e.settles h = false ∨ e = .subscribed n (some h) := by
  unfold Holds
  constructor
  · rintro ⟨later, hreg, hfind⟩
    rcases (registered_concat log e n (some h) later).mp hreg with ⟨later', rfl, hreg'⟩ | ⟨he, -⟩
    · rw [find?_settles_concat, Option.or_eq_none_iff] at hfind
      refine .inl ⟨⟨later', hreg', hfind.1⟩, ?_⟩
      by_contra hsettles
      rw [Bool.not_eq_false] at hsettles
      rw [if_pos hsettles] at hfind
      exact absurd hfind.2 (Option.some_ne_none e)
    · exact .inr he
  · rintro (⟨⟨later, hreg, hfind⟩, hsettles⟩ | rfl)
    · refine ⟨later ++ [e], ?_, ?_⟩
      · exact (registered_concat log e n (some h) _).mpr (.inl ⟨later, rfl, hreg⟩)
      · rw [find?_settles_concat, hfind, hsettles]
        rfl
    · exact ⟨[], (registered_concat log _ n (some h) []).mpr (.inr ⟨rfl, rfl⟩), rfl⟩

theorem filterMap_concat {β : Type} {f : Entry → Option β} {e : Entry} (he : f e = none)
    (log : List Entry) : (log ++ [e]).filterMap f = log.filterMap f := by
  rw [List.filterMap_append, List.filterMap_cons_none he, List.filterMap_nil, List.append_nil]

theorem closed_notMem_concat (log : List Entry) (e : Entry) :
    .closed ∉ log ++ [e] ↔ .closed ∉ log ∧ e ≠ .closed := by
  rw [List.mem_append, List.mem_singleton, not_or, ne_comm]

/-- Of the entries only the loss of a handle that is held ends a registration, its own. -/
theorem live_concat {log : List Entry} (hlog : (log.filterMap Entry.number?).Nodup) {e : Entry}
    (he : e ≠ .closed) (n : Nat) : Live (log ++ [e]) n ↔
      (Live log n ∧ ∀ h, e = .dropped h → ¬Holds log h n) ∨
        .closed ∉ log ∧ e.number? = some n := by
  unfold Live
  rw [closed_notMem_concat, and_iff_left he]
  constructor
  · rintro ⟨hopen, handle, later, hreg, hended⟩
    rcases (registered_concat log e n handle later).mp hreg with ⟨later', rfl, hreg'⟩ | ⟨rfl, -⟩
    · rw [ended_concat, not_or] at hended
      refine .inl ⟨⟨hopen, handle, later', hreg', hended.1⟩, ?_⟩
      rintro h hdrop ⟨later'', hheld, hfind⟩
      obtain ⟨rfl, rfl⟩ := hreg'.unique hlog hheld
      exact hended.2 ⟨h, rfl, hdrop, hfind⟩
    · exact .inr ⟨hopen, rfl⟩
  · rintro (⟨⟨hopen, handle, later, hreg, hended⟩, hdrop⟩ | ⟨hopen, hnumber⟩)
    · refine ⟨hopen, handle, later ++ [e],
        (registered_concat log e n handle _).mpr (.inl ⟨later, rfl, hreg⟩), ?_⟩
      rw [ended_concat, not_or]
      refine ⟨hended, ?_⟩
      rintro ⟨h, rfl, he, hfind⟩
      exact hdrop h he ⟨later, hreg, hfind⟩
    · cases e with
      | subscribed number handle =>
        obtain rfl : number = n := Option.some.inj hnumber
        refine ⟨hopen, handle, [], (registered_concat log _ number handle []).mpr (.inr ⟨rfl, rfl⟩),
          ?_⟩
        rintro ⟨h, -, hfind⟩
        exact absurd hfind.symm (Option.some_ne_none _)
      | _ => exact absurd hnumber.symm (Option.some_ne_none n)

end NodeLink.Channel
