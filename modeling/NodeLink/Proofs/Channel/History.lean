import NodeLink.Proofs.Channel.Coherent
/-!
# What a channel owes its subscribers

A log is kept beside a room while it does its work. Subscribers may do anything while they are
called: between any two steps any act may be put before the work that is left.

* `Scene`: a room with its work and its log; `Scene.step` does the next piece of work.
* `Scene.Sound`: the calls of a publication, made and due, are those it owed when it began.
* `Scene.Reachable.orderly`: what holds after any history, in the middle of a publication too, and
  the one thing that can fail.
-/

namespace NodeLink.Channel

variable {ν : Type}

/-! ## Scenes -/

/-- A piece of work: an act, a call that a publication owes, or the end of a call. -/
inductive Errand (ν : Type) where
  | act (a : Act ν)
  | call (publication number : Nat) (value : String)
  | release (number : Nat)

namespace Errand

def task : Errand ν → Task ν
  | .act a => .act a
  | .call _ number value => .tell number value
  | .release number => .release number

/-- A task that follows from what is written at a place of the log. -/
def ofTask (place : Nat) : Task ν → Errand ν
  | .act a => .act a
  | .tell number value => .call place number value
  | .release number => .release number

/-- Whom a publication has still to call, and with what. -/
def due? (publication : Nat) : Errand ν → Option (Nat × String)
  | .call p number value => if p = publication then some (number, value) else none
  | _ => none

theorem task_ofTask (place : Nat) (t : Task ν) : (ofTask place t).task = t := by
  cases t with
  | act | tell | release => rfl

end Errand

/-- A room, the work that is left, what comes first, and the log so far. -/
structure Scene (ν : Type) where
  room : Room ν := {}
  errands : List (Errand ν) := []
  log : List Entry := []

namespace Scene

/-- What a piece of work does. -/
def outcome (r : Room ν) (e : Errand ν) : Room ν × List (Task ν) := r.carryOut e.task

/-- What a piece of work writes into the log. -/
def record (r : Room ν) : Errand ν → List Entry
  | .act (.subscribe _ _ _ keep) =>
    if r.channel.isSome then [.subscribed r.subscribers.length (r.newHandle keep)] else []
  | .act (.drop handle) => [.dropped handle]
  | .act (.detach handle) => [.detached handle]
  | .act (.publish value) => [.published value]
  | .act (.entrust handle number) => [.entrusted handle number]
  | .call publication number value =>
    match r.subscribers[number]? with
    | none => []
    | some s => .called publication number value :: (r.dropAll s.drops).2.map .dropped
  | .release number => (r.release number).2.map .dropped

/-- Does the first piece of work, if there is any and nothing has failed. -/
def step (s : Scene ν) : Scene ν :=
  match s.errands with
  | [] => s
  | e :: rest =>
    if s.room.failed then s
    else {
      room := (outcome s.room e).1
      errands := (outcome s.room e).2.map (Errand.ofTask s.log.length) ++ rest
      log := s.log ++ record s.room e }

def steps : Nat → Scene ν → Scene ν
  | 0, s => s
  | k + 1, s => s.step.steps k

/-- Puts an act before the work that is left. -/
def interrupt (s : Scene ν) (a : Act ν) : Scene ν := { s with errands := .act a :: s.errands }

def close (s : Scene ν) : Scene ν :=
  { s with room := s.room.close, log := s.log ++ .closed :: s.room.closeWith.2.map .dropped }

/-- What can come of an empty room. The channel is not closed while it has work to do. -/
inductive Reachable : Scene ν → Prop where
  | start : Reachable {}
  | interrupt {s : Scene ν} (hs : Reachable s) (a : Act ν) : Reachable (s.interrupt a)
  | step {s : Scene ν} (hs : Reachable s) : Reachable s.step
  | close {s : Scene ν} (hs : Reachable s) (hidle : s.errands = [])
    (hfine : s.room.failed = false) : Reachable s.close

/-- Whom a publication has called, and with what. -/
def called (s : Scene ν) (publication : Nat) : List (Nat × String) :=
  s.log.filterMap (Entry.call? publication)

/-- Whom it has still to call. -/
def due (s : Scene ν) (publication : Nat) : List (Nat × String) :=
  s.errands.filterMap (Errand.due? publication)

/-- Whom publications are calling or have still to call. -/
def held (s : Scene ν) : List Nat := (s.errands.map Errand.task).filterMap Task.holds?

/-- The calls of a publication are those of the subscribers that were live when it began. -/
structure Sound (s : Scene ν) : Prop where
  coherent : Coherent s.room s.log
  kept : s.room.Kept
  inUse : s.room.inUse = s.held
  calls : ∀ p value, s.log[p]? = some (.published value) →
    ∃ numbers, Lists (s.log.take p) numbers ∧
      s.called p ++ s.due p = numbers.map fun n => (n, value)
  fresh : ∀ p, (∀ value, s.log[p]? ≠ some (.published value)) → s.called p = [] ∧ s.due p = []

theorem step_eq {s : Scene ν} {e : Errand ν} {rest : List (Errand ν)}
    (herrands : s.errands = e :: rest) (hfine : s.room.failed = false) :
    s.step = {
      room := (outcome s.room e).1
      errands := (outcome s.room e).2.map (Errand.ofTask s.log.length) ++ rest
      log := s.log ++ record s.room e } := by
  rw [Scene.step, herrands]
  exact if_neg (Bool.eq_false_iff.mp hfine)

theorem step_of_failed {s : Scene ν} (hfailed : s.room.failed = true) : s.step = s := by
  unfold Scene.step
  split
  · rfl
  · exact if_pos hfailed

theorem coherent_outcome {r : Room ν} {log : List Entry} (hr : Coherent r log)
    (hfine : r.failed = false) (e : Errand ν) :
    Coherent (outcome r e).1 (log ++ record r e) := by
  cases e with
  | act a =>
    cases a with
    | subscribe name drops reactions keep =>
      show Coherent (r.addSubscriber ⟨name, drops, reactions⟩ keep) _
      cases hc : r.channel with
      | none =>
        -- a closed channel takes nobody
        rw [record, hc, Option.isSome_none, if_neg Bool.false_ne_true, List.append_nil,
          Room.addSubscriber, hc]
        exact hr
      | some c =>
        rw [record, hc, Option.isSome_some, if_pos rfl]
        exact hr.subscribe hfine hc ⟨name, drops, reactions⟩ keep
    | drop handle => exact hr.drop hfine handle
    | detach handle => exact hr.detach hfine handle
    | publish value =>
      have hpublished := hr.inert (e := .published value) hfine rfl Entry.noConfusion fun _ => rfl
      exact hpublished.congr rfl rfl rfl rfl (Room.failed_elim hfine)
    | entrust handle number => exact hr.entrust hfine handle number
  | call p number value =>
    show Coherent (r.tell number value).1 (log ++ record r (.call p number value))
    cases hx : r.subscribers[number]? with
    | none =>
      rw [record, hx, List.append_nil, Room.tell_of_none hx]
      exact hr
    | some x =>
      have hcalled : Coherent r (log ++ [.called p number value]) :=
        hr.inert hfine rfl Entry.noConfusion fun _ => rfl
      rw [record, hx, List.append_cons, Room.tell_eq hx]
      refine (hcalled.dropAll x.drops).congr rfl rfl ?_ rfl fun _ => rfl
      rw [(r.spares_dropAll x.drops).subscribers]
      exact List.length_set ..
  | release number =>
    have herased : Coherent ({ r with inUse := r.inUse.erase number } : Room ν) log :=
      hr.congr rfl rfl rfl rfl (Room.failed_elim hfine)
    show Coherent (r.release number).1 (log ++ (r.release number).2.map .dropped)
    unfold Room.release
    dsimp only
    split
    · rw [List.map_nil, List.append_nil]
      exact herased
    · exact herased.dropAll _

theorem tasks_step {s : Scene ν} {e : Errand ν} {rest : List (Errand ν)}
    (herrands : s.errands = e :: rest) (hfine : s.room.failed = false) :
    s.step.errands.map Errand.task = (outcome s.room e).2 ++ rest.map Errand.task := by
  have hsame : ((outcome s.room e).2.map (Errand.ofTask s.log.length)).map Errand.task =
      (outcome s.room e).2 := by
    rw [List.map_map]
    exact List.map_id'' (Errand.task_ofTask s.log.length) _
  rw [step_eq herrands hfine]
  dsimp only
  rw [List.map_append, hsame]

theorem getElem?_published {log es : List Entry} (hes : ∀ e ∈ es, ∀ value, e ≠ .published value)
    (p : Nat) (value : String) :
    (log ++ es)[p]? = some (.published value) ↔ log[p]? = some (.published value) := by
  rw [List.getElem?_append]
  by_cases hlt : p < log.length
  · rw [if_pos hlt]
  · rw [if_neg hlt, List.getElem?_eq_none (Nat.le_of_not_lt hlt)]
    refine iff_of_false (fun hsome => ?_) (Option.some_ne_none _).symm
    exact hes _ (List.mem_of_getElem? hsome) value rfl

theorem getElem?_concat_published {log : List Entry} {value : String} {p : Nat} {v : String} :
    (log ++ [.published value])[p]? = some (.published v) ↔
      log[p]? = some (.published v) ∨ p = log.length ∧ v = value := by
  rw [List.getElem?_append]
  by_cases hlt : p < log.length
  · rw [if_pos hlt, or_iff_left fun h => absurd h.1 (Nat.ne_of_lt hlt)]
  · rw [if_neg hlt, List.getElem?_eq_none (Nat.le_of_not_lt hlt),
      or_iff_right (Option.some_ne_none _).symm, List.getElem?_singleton]
    have hlast : p - log.length = 0 ↔ p = log.length := by omega
    rw [Option.ite_none_right_eq_some, hlast, Option.some.injEq, Entry.published.injEq,
      eq_comm (a := value)]

namespace Sound

variable {s : Scene ν}

/-- Work that publishes nothing keeps all calls, made or due. -/
theorem extend (hs : s.Sound) {s' : Scene ν} {es : List Entry} (hlog : s'.log = s.log ++ es)
    (hes : ∀ e ∈ es, ∀ value, e ≠ .published value) (hcoherent : Coherent s'.room s'.log)
    (hkept : s'.room.Kept) (hinUse : s'.room.inUse = s'.held)
    (hcalls : ∀ p, s'.called p ++ s'.due p = s.called p ++ s.due p) : s'.Sound where
  coherent := hcoherent
  kept := hkept
  inUse := hinUse
  calls p value hp := by
    rw [hlog, getElem?_published hes] at hp
    have hlt : p < s.log.length := (List.getElem?_eq_some_iff.mp hp).1
    rw [hlog, hcalls, List.take_append_of_le_length (Nat.le_of_lt hlt)]
    exact hs.calls p value hp
  fresh p hp := by
    have hold : ∀ value, s.log[p]? ≠ some (.published value) := by
      intro value hvalue
      refine hp value ?_
      rw [hlog]
      exact (getElem?_published hes p value).mpr hvalue
    obtain ⟨hcalled, hdue⟩ := hs.fresh p hold
    have hnone : s'.called p ++ s'.due p = [] := by rw [hcalls, hcalled, hdue, List.append_nil]
    exact List.append_eq_nil_iff.mp hnone

theorem lt_length (hs : s.Sound) {p n : Nat} {value : String}
    (hn : (n, value) ∈ s.called p ++ s.due p) : n < s.room.subscribers.length := by
  by_cases hp : ∃ value, s.log[p]? = some (.published value)
  · obtain ⟨published, hp⟩ := hp
    obtain ⟨numbers, hlists, hcalls⟩ := hs.calls p published hp
    rw [hcalls] at hn
    obtain ⟨m, hm, heq⟩ := List.mem_map.mp hn
    obtain rfl : m = n := congrArg Prod.fst heq
    obtain ⟨-, handle, later, hreg, -⟩ := (hlists.mem m).mp hm
    rw [← List.mem_range, ← hs.coherent.numbers]
    exact ((List.take_sublist p s.log).filterMap _).subset hreg.mem_numbers
  · obtain ⟨hcalled, hdue⟩ := hs.fresh p (not_exists.mp hp)
    rw [hcalled, hdue] at hn
    exact absurd hn List.not_mem_nil

theorem interrupt (hs : s.Sound) (a : Act ν) : (s.interrupt a).Sound := by
  have hlog : (s.interrupt a).log = s.log ++ [] := (List.append_nil s.log).symm
  exact hs.extend hlog (fun _ he => absurd he List.not_mem_nil) hs.coherent hs.kept hs.inUse
    fun _ => rfl

/-- Entries that are neither publications nor calls. -/
def Quiet (es : List Entry) : Prop :=
  ∀ e ∈ es, (∀ value, e ≠ .published value) ∧ ∀ p, e.call? p = none

theorem quiet_map_dropped (hs : List Nat) : Quiet (hs.map .dropped) := by
  intro e he
  obtain ⟨h, -, rfl⟩ := List.mem_map.mp he
  exact ⟨fun _ => Entry.noConfusion, fun _ => rfl⟩

theorem Quiet.cons {e : Entry} {es : List Entry} (hes : Quiet es)
    (hpublished : ∀ value, e ≠ .published value) (hcall : ∀ p, e.call? p = none) :
    Quiet (e :: es) := by
  intro e' he'
  rcases List.mem_cons.mp he' with rfl | he'
  · exact ⟨hpublished, hcall⟩
  · exact hes e' he'

theorem quiet_singleton {e : Entry} (hpublished : ∀ value, e ≠ .published value)
    (hcall : ∀ p, e.call? p = none) : Quiet [e] :=
  (quiet_map_dropped []).cons hpublished hcall

theorem Quiet.calls {es : List Entry} (hes : Quiet es) (p : Nat) :
    es.filterMap (Entry.call? p) = [] :=
  List.filterMap_eq_nil_iff.mpr fun e he => (hes e he).2 p

theorem close (hs : s.Sound) (hfine : s.room.failed = false) : s.close.Sound := by
  have hquiet : Quiet (.closed :: s.room.closeWith.2.map .dropped) :=
    (quiet_map_dropped _).cons (fun _ => Entry.noConfusion) fun _ => rfl
  have hlog : s.close.log = s.log ++ .closed :: s.room.closeWith.2.map .dropped := rfl
  refine hs.extend hlog (fun e he => (hquiet e he).1) (hs.coherent.closeWith hfine)
    s.room.kept_closeWith ?_ fun p => ?_
  · exact (Room.spares_dropAll { s.room with channel := none } _).inUse.trans hs.inUse
  · show s.close.log.filterMap (Entry.call? p) ++ s.due p = _
    rw [hlog, List.filterMap_append, hquiet.calls, List.append_nil]
    rfl

section Step

variable {e : Errand ν} {rest : List (Errand ν)}

/-- What holds of every piece of work alike. -/
theorem step_room (hs : s.Sound) (herrands : s.errands = e :: rest)
    (hfine : s.room.failed = false) :
    Coherent s.step.room s.step.log ∧ s.step.room.Kept ∧ s.step.room.inUse = s.step.held := by
  have hheld : s.step.held =
      ((outcome s.room e).2 ++ rest.map Errand.task).filterMap Task.holds? := by
    rw [held, tasks_step herrands hfine]
  have hinUse := hs.inUse
  rw [held, herrands, List.map_cons] at hinUse
  rw [hheld, step_eq herrands hfine]
  exact ⟨coherent_outcome hs.coherent hfine e, Room.kept_carryOut hs.kept hs.coherent.keyed e.task,
    Room.inUse_carryOut hinUse⟩

/-- Work that publishes nothing, and that leaves of a publication to be called, with those who are
called now, as many as before. -/
theorem step_unpublished (hs : s.Sound) (herrands : s.errands = e :: rest)
    (hfine : s.room.failed = false)
    (hpublished : ∀ e' ∈ record s.room e, ∀ value, e' ≠ .published value)
    (hcalls : ∀ p, (record s.room e).filterMap (Entry.call? p) ++
      ((outcome s.room e).2.map (Errand.ofTask s.log.length)).filterMap (Errand.due? p) =
        (e.due? p).toList) : s.step.Sound := by
  obtain ⟨hcoherent, hkept, hinUse⟩ := hs.step_room herrands hfine
  have hlog : s.step.log = s.log ++ record s.room e := by rw [step_eq herrands hfine]
  refine hs.extend hlog hpublished hcoherent hkept hinUse fun p => ?_
  have hdue : s.due p = (e.due? p).toList ++ rest.filterMap (Errand.due? p) := by
    rw [due, herrands, List.filterMap_cons]
    cases e.due? p with
    | none => rfl
    | some call => rfl
  rw [hdue, ← hcalls, step_eq herrands hfine, called, due, called]
  simp only [List.filterMap_append, List.append_assoc]

/-- An act that is no publication asks for nothing more, and calls nobody. -/
theorem step_quiet (hs : s.Sound) (herrands : s.errands = e :: rest)
    (hfine : s.room.failed = false) (hdue : ∀ p, e.due? p = none)
    (hnext : (outcome s.room e).2 = []) (hquiet : Quiet (record s.room e)) : s.step.Sound := by
  refine hs.step_unpublished herrands hfine (fun e' he' => (hquiet e' he').1) fun p => ?_
  rw [hquiet.calls, hnext, hdue]
  rfl

theorem due_acts (acts : List (Act ν)) (place p : Nat) :
    ((acts.map Task.act).map (Errand.ofTask place)).filterMap (Errand.due? p) = [] := by
  rw [List.map_map, List.filterMap_map]
  exact List.filterMap_eq_nil_iff.mpr fun _ _ => rfl

theorem step_call (hs : s.Sound) {p n : Nat} {value : String}
    (herrands : s.errands = .call p n value :: rest) (hfine : s.room.failed = false) :
    s.step.Sound := by
  have hdue : (n, value) ∈ s.due p := by
    rw [due, herrands]
    exact List.mem_filterMap.mpr ⟨_, List.mem_cons_self, if_pos rfl⟩
  have hn : n < s.room.subscribers.length := hs.lt_length (List.mem_append_right _ hdue)
  have hx := List.getElem?_eq_getElem hn
  generalize s.room.subscribers[n] = x at hx
  have hquiet : Quiet ((s.room.dropAll x.drops).2.map .dropped) := quiet_map_dropped _
  have hrecord : record s.room (.call p n value) =
      .called p n value :: (s.room.dropAll x.drops).2.map .dropped := by
    rw [record, hx]
  refine hs.step_unpublished herrands hfine (fun e he value' => ?_) fun q => ?_
  · rw [hrecord] at he
    rcases List.mem_cons.mp he with rfl | hdropped
    · exact Entry.noConfusion
    · exact (hquiet e hdropped).1 value'
  · -- the call moves from what is due to what is done
    have hnext : (outcome s.room (.call p n value)).2 =
        (x.reactions.headD []).map .act ++ [.release n] := congrArg Prod.snd (Room.tell_eq hx value)
    rw [hrecord, hnext, List.map_append, List.filterMap_append, due_acts]
    by_cases hq : p = q
    · have hcall : (Entry.called p n value).call? q = some (n, value) := if_pos hq
      have hdue : (Errand.call p n value : Errand ν).due? q = some (n, value) := if_pos hq
      rw [List.filterMap_cons_some hcall, hquiet.calls, hdue]
      rfl
    · have hcall : (Entry.called p n value).call? q = none := if_neg hq
      have hdue : (Errand.call p n value : Errand ν).due? q = none := if_neg hq
      rw [List.filterMap_cons_none hcall, hquiet.calls, hdue]
      rfl

/-- What a publication has to do is to call those who are subscribed now. -/
theorem due_publish (numbers : List Nat) (value : String) (place p : Nat) :
    ((numbers.map fun n => (Task.tell n value : Task ν)).map (Errand.ofTask place)).filterMap
      (Errand.due? p) = if place = p then numbers.map fun n => (n, value) else [] := by
  rw [List.map_map, List.filterMap_map]
  by_cases hp : place = p
  · rw [if_pos hp, ← List.filterMap_eq_map]
    exact List.filterMap_congr fun n _ => if_pos hp
  · rw [if_neg hp]
    exact List.filterMap_eq_nil_iff.mpr fun n _ => if_neg hp

theorem step_publish (hs : s.Sound) {value : String}
    (herrands : s.errands = .act (.publish value) :: rest) (hfine : s.room.failed = false) :
    s.step.Sound := by
  obtain ⟨hcoherent, hkept, hinUse⟩ := hs.step_room herrands hfine
  have hcalled (p : Nat) : s.step.called p = s.called p := by
    rw [step_eq herrands hfine]
    exact filterMap_concat rfl s.log
  have hdue (p : Nat) : s.step.due p =
      (if s.log.length = p then s.room.audience.map fun n => (n, value) else []) ++ s.due p := by
    rw [step_eq herrands hfine, due, due, herrands, List.filterMap_append,
      List.filterMap_cons_none rfl, ← due_publish s.room.audience]
    rfl
  have hlog : s.step.log = s.log ++ [.published value] := by rw [step_eq herrands hfine]; rfl
  refine ⟨hcoherent, hkept, hinUse, fun p v hp => ?_, fun p hp => ?_⟩
  · rw [hlog] at hp ⊢
    rw [hcalled, hdue]
    rcases getElem?_concat_published.mp hp with hold | ⟨rfl, rfl⟩
    · have hlt : p < s.log.length := (List.getElem?_eq_some_iff.mp hold).1
      rw [if_neg (Nat.ne_of_gt hlt), List.nil_append,
        List.take_append_of_le_length (Nat.le_of_lt hlt)]
      exact hs.calls p v hold
    · obtain ⟨hnocall, hnodue⟩ := hs.fresh s.log.length fun v hv =>
        absurd (List.getElem?_eq_some_iff.mp hv).1 (Nat.lt_irrefl _)
      rw [if_pos rfl, hnocall, hnodue, List.append_nil, List.nil_append, List.take_left]
      exact ⟨s.room.audience, hs.coherent.audience, rfl⟩
  · simp only [hlog, ne_eq, getElem?_concat_published, not_or, not_and] at hp
    have hne : s.log.length ≠ p := fun heq => (hp value).2 heq.symm rfl
    rw [hcalled, hdue, if_neg hne]
    exact hs.fresh p fun v => (hp v).1

end Step

theorem step (hs : s.Sound) : s.step.Sound := by
  cases hfine : s.room.failed with
  | true =>
    rw [step_of_failed hfine]
    exact hs
  | false =>
    cases herrands : s.errands with
    | nil =>
      rw [Scene.step, herrands]
      exact hs
    | cons e rest =>
      cases e with
      | call p n value => exact hs.step_call herrands hfine
      | release n => exact hs.step_quiet herrands hfine (fun _ => rfl) rfl (quiet_map_dropped _)
      | act a =>
        cases a with
        | publish value => exact hs.step_publish herrands hfine
        | subscribe name drops reactions keep =>
          refine hs.step_quiet herrands hfine (fun _ => rfl) rfl ?_
          show Quiet (if s.room.channel.isSome then _ else [])
          split
          · exact quiet_singleton (fun _ => Entry.noConfusion) fun _ => rfl
          · exact fun e he => absurd he List.not_mem_nil
        | drop | detach | entrust =>
          exact hs.step_quiet herrands hfine (fun _ => rfl) rfl
            (quiet_singleton (fun _ => Entry.noConfusion) fun _ => rfl)

end Sound

/-! ## Who was told what -/

/-- A call, with the name of the subscriber. -/
def heard (names : List ν) : Entry → Option (ν × String)
  | .called _ number value => names[number]?.map fun name => (name, value)
  | _ => none

theorem filterMap_heard_append {names : List ν} (more : List ν) {log : List Entry}
    (hlog : ∀ p n value, .called p n value ∈ log → n < names.length) :
    log.filterMap (heard (names ++ more)) = log.filterMap (heard names) := by
  refine List.filterMap_congr fun e he => ?_
  cases e with
  | called p n value => rw [heard, heard, List.getElem?_append_left (hlog p n value he)]
  | _ => rfl

theorem Sound.Quiet.heard {es : List Entry} (hes : Sound.Quiet es) (names : List ν) :
    es.filterMap (heard names) = [] := by
  refine List.filterMap_eq_nil_iff.mpr fun e he => ?_
  cases e with
  | called p n value => exact absurd ((hes _ he).2 p) (by simp [Entry.call?])
  | _ => rfl

theorem names_outcome (r : Room ν) (e : Errand ν) :
    ∃ more, (outcome r e).1.names = r.names ++ more := by
  have hkept {r' : Room ν} (h : r'.subscribers = r.subscribers) :
      ∃ more, r'.names = r.names ++ more :=
    ⟨[], by rw [Room.names, h, List.append_nil, Room.names]⟩
  cases e with
  | act a =>
    cases a with
    | subscribe name drops reactions keep =>
      show ∃ more, (r.addSubscriber ⟨name, drops, reactions⟩ keep).names = r.names ++ more
      cases hc : r.channel with
      | none => exact hkept (by rw [Room.addSubscriber, hc])
      | some c =>
        refine ⟨[name], ?_⟩
        rw [Room.addSubscriber, hc]
        exact List.map_append
    | drop handle => exact hkept (r.spares_dropHandle handle).subscribers
    | entrust handle number => exact hkept (r.spares_entrust handle number).subscribers
    | detach | publish => exact hkept rfl
  | release number => exact hkept (r.spares_release number).subscribers
  | call p number value =>
    show ∃ more, (r.tell number value).1.names = r.names ++ more
    cases hx : r.subscribers[number]? with
    | none => exact hkept (by rw [Room.tell_of_none hx])
    | some x =>
      have hname : r.names[number]? = some x.name := by rw [Room.names, List.getElem?_map, hx]; rfl
      obtain ⟨hlt, hget⟩ := List.getElem?_eq_some_iff.mp hname
      refine ⟨[], ?_⟩
      rw [Room.tell_eq hx, List.append_nil]
      show (r.subscribers.set number _).map Subscriber.name = r.names
      rw [List.map_set, ← Room.names, ← hget]
      exact List.set_getElem_self hlt

theorem told_outcome (r : Room ν) (e : Errand ν) :
    (outcome r e).1.told.reverse = r.told.reverse ++ (record r e).filterMap (heard r.names) := by
  have hkept {r' : Room ν} {es : List Entry} (h : r'.told = r.told)
      (hes : es.filterMap (heard r.names) = []) :
      r'.told.reverse = r.told.reverse ++ es.filterMap (heard r.names) := by
    rw [h, hes, List.append_nil]
  cases e with
  | act a =>
    cases a with
    | subscribe name drops reactions keep =>
      show (r.addSubscriber ⟨name, drops, reactions⟩ keep).told.reverse = _
      cases hc : r.channel with
      | none => exact hkept (by rw [Room.addSubscriber, hc]) (by rw [record, hc]; rfl)
      | some c => exact hkept (by rw [Room.addSubscriber, hc]) (by rw [record, hc]; rfl)
    | drop handle => exact hkept (r.spares_dropHandle handle).told rfl
    | entrust handle number => exact hkept (r.spares_entrust handle number).told rfl
    | detach | publish => exact hkept rfl rfl
  | release number =>
    exact hkept (r.spares_release number).told ((Sound.quiet_map_dropped _).heard _)
  | call p number value =>
    show (r.tell number value).1.told.reverse = _
    cases hx : r.subscribers[number]? with
    | none => exact hkept (by rw [Room.tell_of_none hx]) (by rw [record, hx]; rfl)
    | some x =>
      have hheard : heard r.names (.called p number value) = some (x.name, value) := by
        rw [heard, Room.names, List.getElem?_map, hx]
        rfl
      rw [Room.tell_eq hx, record, hx]
      show ((x.name, value) :: r.told).reverse = _
      rw [List.filterMap_cons_some hheard, (Sound.quiet_map_dropped _).heard, List.reverse_cons]

theorem lt_of_mem_record {r : Room ν} {e : Errand ν} {p n : Nat} {value : String}
    (h : .called p n value ∈ record r e) : n < r.names.length := by
  rw [Room.names, List.length_map]
  have hdropped (hs : List Nat) : .called p n value ∉ hs.map Entry.dropped := by
    intro hmem
    obtain ⟨_, -, hne⟩ := List.mem_map.mp hmem
    exact Entry.noConfusion hne
  cases e with
  | act a =>
    cases a with
    | subscribe name drops reactions keep =>
      rw [record] at h
      split at h
      · exact absurd (List.mem_singleton.mp h) Entry.noConfusion
      · exact absurd h List.not_mem_nil
    | drop | detach | publish | entrust =>
      exact absurd (List.mem_singleton.mp h) Entry.noConfusion
  | release number => exact absurd h (hdropped _)
  | call p' number value' =>
    cases hx : r.subscribers[number]? with
    | none =>
      rw [record, hx] at h
      exact absurd h List.not_mem_nil
    | some x =>
      rw [record, hx] at h
      have hcalled := (List.mem_cons.mp h).resolve_right (hdropped _)
      rw [(Entry.called.inj hcalled).2.1]
      exact (List.getElem?_eq_some_iff.mp hx).1

theorem Sound.told_step {s : Scene ν} (hs : s.Sound)
    (htold : s.room.told.reverse = s.log.filterMap (heard s.room.names)) :
    s.step.room.told.reverse = s.step.log.filterMap (heard s.step.room.names) := by
  cases hfine : s.room.failed with
  | true =>
    rw [step_of_failed hfine]
    exact htold
  | false =>
    cases herrands : s.errands with
    | nil =>
      rw [Scene.step, herrands]
      exact htold
    | cons e rest =>
      obtain ⟨more, hmore⟩ := names_outcome s.room e
      have hlog : ∀ p n value, .called p n value ∈ s.log ++ record s.room e →
          n < s.room.names.length := by
        intro p n value h
        rcases List.mem_append.mp h with hold | hnew
        · rw [Room.names, List.length_map]
          exact hs.lt_length (List.mem_append_left _ (List.mem_filterMap.mpr ⟨_, hold, if_pos rfl⟩))
        · exact lt_of_mem_record hnew
      rw [step_eq herrands hfine]
      show (outcome s.room e).1.told.reverse =
        (s.log ++ record s.room e).filterMap (heard (outcome s.room e).1.names)
      rw [hmore, filterMap_heard_append more hlog, told_outcome, htold, List.filterMap_append]

/-! ## The end of the work -/

theorem work_step {s : Scene ν} {e : Errand ν} {rest : List (Errand ν)}
    (herrands : s.errands = e :: rest) (hfine : s.room.failed = false) :
    s.step.room.work (s.step.errands.map Errand.task) =
      s.room.work (s.errands.map Errand.task) := by
  rw [tasks_step herrands hfine, step_eq herrands hfine, herrands, List.map_cons, Room.work,
    hfine]
  rfl

/-- The work of a scene ends, and has then been done as the room alone does it. -/
def Ends (s : Scene ν) : Prop :=
  ∃ k, ((s.steps k).errands = [] ∨ (s.steps k).room.failed = true) ∧ s.log <+: (s.steps k).log ∧
    (s.steps k).room = s.room.work (s.errands.map Errand.task)

theorem Ends.of_step {s : Scene ν} {e : Errand ν} {rest : List (Errand ν)}
    (herrands : s.errands = e :: rest) (hfine : s.room.failed = false) (h : s.step.Ends) :
    s.Ends := by
  obtain ⟨k, hdone, hlog, hwork⟩ := h
  have hprefix : s.log <+: s.step.log := by
    rw [step_eq herrands hfine]
    exact List.prefix_append _ _
  exact ⟨k + 1, hdone, hprefix.trans hlog, hwork.trans (work_step herrands hfine)⟩

theorem ends (s : Scene ν) : s.Ends := by
  generalize hroom : s.room = r
  generalize htasks : s.errands.map Errand.task = tasks
  -- the measure by which the room's own work ends
  induction r, tasks using Room.work.induct generalizing s with
  | case1 r =>
    refine ⟨0, .inl (List.map_eq_nil_iff.mp htasks), List.prefix_refl _, ?_⟩
    rw [htasks, Room.work]
    rfl
  | case2 r t rest hfailed =>
    subst hroom
    refine ⟨0, .inr hfailed, List.prefix_refl _, ?_⟩
    rw [htasks, Room.work, if_pos hfailed]
    rfl
  | case3 r t rest hfine ih =>
    obtain ⟨e, errands, herrands, rfl, rfl⟩ := List.map_eq_cons_iff.mp htasks
    subst hroom
    have hfine := Bool.eq_false_iff.mpr hfine
    refine .of_step herrands hfine (ih s.step ?_ (tasks_step herrands hfine))
    rw [step_eq herrands hfine]
    rfl

/-! ## Main result -/

theorem sound_start : ({} : Scene ν).Sound where
  coherent := {
    keyed := fun c hc => by
      obtain rfl := Option.some.inj hc
      exact ⟨rfl, fun x hx => absurd hx List.not_mem_nil⟩
    closed := iff_of_false (Option.some_ne_none _) List.not_mem_nil
    audience := by
      refine ⟨List.Pairwise.nil, fun n => iff_of_false List.not_mem_nil ?_⟩
      rintro ⟨-, handle, later, hreg, -⟩
      exact List.not_mem_nil hreg.mem
    numbers := rfl
    handles := rfl
    held := fun h n => by
      refine iff_of_false (fun hkey => absurd hkey.symm (Option.some_ne_none n)) ?_
      rintro ⟨later, hreg, -⟩
      exact List.not_mem_nil hreg.mem
    owned := fun h n howner => absurd howner.symm (Option.some_ne_none n)
    failed := Room.failed_elim rfl }
  kept _ h n howner := absurd howner.symm (Option.some_ne_none n)
  inUse := rfl
  calls p value hp := absurd hp.symm (Option.some_ne_none _)
  fresh _ _ := ⟨rfl, rfl⟩

theorem Reachable.sound {s : Scene ν} (hs : s.Reachable) :
    s.Sound ∧ s.room.told.reverse = s.log.filterMap (heard s.room.names) := by
  induction hs with
  | start => exact ⟨sound_start, rfl⟩
  | interrupt _ a ih => exact ⟨ih.1.interrupt a, ih.2⟩
  | step _ ih => exact ⟨ih.1.step, ih.1.told_step ih.2⟩
  | @close s _ _ hfine ih =>
    refine ⟨ih.1.close hfine, ?_⟩
    have hspares := Room.spares_dropAll ({ s.room with channel := none } : Room ν) s.room.owned
    have hquiet : (Entry.closed :: s.room.closeWith.2.map .dropped).filterMap
        (heard s.close.room.names) = [] :=
      ((Sound.quiet_map_dropped _).cons (fun _ => Entry.noConfusion) fun _ => rfl).heard _
    show s.close.room.told.reverse = (s.log ++ _ :: _).filterMap _
    rw [List.filterMap_append, hquiet, List.append_nil]
    show s.room.closeWith.1.told.reverse = s.log.filterMap (heard s.room.closeWith.1.names)
    rw [Room.closeWith, Room.names, hspares.told, hspares.subscribers]
    exact ih.2

/-- The first subscriber owns the handle of the second one. When it is told something it drops its
own handle, lets another one in, and publishes something itself; the second one only listens. -/
def nested : Scene String :=
  let start : Scene String := {}
  let one := (start.interrupt
    (.subscribe "one" [0] [[.subscribe "three" [] [] false, .publish "y"]] true)).step
  let two := (one.interrupt (.subscribe "two" [] [] true)).step
  ((two.interrupt (.entrust 1 0)).step.interrupt (.publish "x")).steps 11

theorem Reachable.steps {s : Scene ν} (hs : s.Reachable) (k : Nat) : (s.steps k).Reachable := by
  induction k generalizing s with
  | zero => exact hs
  | succ k ih => exact ih hs.step

/-- The first subscriber owns the handle of the second one, and its own handle is dropped while
nobody calls it. -/
example :
    let start : Scene String := {}
    let one := (start.interrupt (.subscribe "one" [] [] true)).step
    let two := (one.interrupt (.subscribe "two" [] [] true)).step
    ((two.interrupt (.entrust 1 0)).step.interrupt (.drop 0)).step.room.failed = true := rfl

end Scene
end NodeLink.Channel
