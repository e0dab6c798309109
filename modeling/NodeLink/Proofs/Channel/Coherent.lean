import NodeLink.Channel.Reentrant
import NodeLink.Proofs.Channel.Log
/-!
# A room and its log

Keys are given out like numbers, so that a room holds of every subscriber one number, under which
its channel, its handles and its log know it.

* `Room.failed_dropHandle`: when it fails to drop a handle.
* `Room.Kept`: handles are owned by those alone who are there to own them.
* `Channel.Coherent`: channel and handles of a room are as the log tells.
* `Coherent.subscribe`, `drop`, `detach`, `entrust`, `closeWith`: they stay so, whatever is done.
-/

namespace NodeLink.Channel

variable {ν : Type}

/-- Whom a task keeps in use: one who is being told something or has still to be. -/
def Task.holds? : Task ν → Option Nat
  | .act _ => none
  | .tell number _ => some number
  | .release number => some number

namespace Room

/-! ## Handles -/

theorem handle?_set (r : Room ν) {h : Nat} {new : Option Handle} (hlt : h < r.handles.length)
    (h' : Nat) : ({ r with handles := r.handles.set h new } : Room ν).handle? h' =
      if h' = h then new else r.handle? h' := by
  unfold handle?
  rw [List.getElem?_set, if_pos hlt]
  by_cases hsame : h' = h
  · rw [if_pos hsame, if_pos hsame.symm]
    rfl
  · rw [if_neg hsame, if_neg (Ne.symm hsame)]

theorem lt_of_handle? {r : Room ν} {h : Nat} {held : Handle} (hheld : r.handle? h = some held) :
    h < r.handles.length := by
  by_contra hge
  rw [handle?, List.getElem?_eq_none (Nat.le_of_not_lt hge)] at hheld
  exact Option.some_ne_none held hheld.symm

theorem handle?_forget (r : Room ν) (h h' : Nat) :
    (r.forget h).handle? h' = if h' = h then none else r.handle? h' := by
  by_cases hlt : h < r.handles.length
  · exact r.handle?_set hlt h'
  · have hsame : r.forget h = r := by
      rw [forget, List.set_eq_of_length_le (Nat.le_of_not_lt hlt)]
    rw [hsame]
    split
    · next heq => rw [heq, handle?, List.getElem?_eq_none (Nat.le_of_not_lt hlt), Option.join_none]
    · rfl

theorem keyOf?_forget (r : Room ν) (h h' : Nat) :
    (r.forget h).keyOf? h' = if h' = h then none else r.keyOf? h' := by
  rw [keyOf?, handle?_forget]
  split
  · rfl
  · rfl

theorem ownerOf?_forget (r : Room ν) (h h' : Nat) :
    (r.forget h).ownerOf? h' = if h' = h then none else r.ownerOf? h' := by
  rw [ownerOf?, handle?_forget]
  split
  · rfl
  · rfl

theorem mem_owned {r : Room ν} {h : Nat} : h ∈ r.owned ↔ ∃ n, r.ownerOf? h = some n := by
  rw [owned, List.mem_filter, List.mem_range, Option.isSome_iff_exists]
  refine and_iff_right_of_imp fun ⟨n, hn⟩ => ?_
  obtain ⟨held, hheld, -⟩ := Option.bind_eq_some_iff.mp hn
  exact lt_of_handle? hheld

theorem mem_ownedBy {r : Room ν} {h n : Nat} : h ∈ r.ownedBy n ↔ r.ownerOf? h = some n := by
  rw [ownedBy, List.mem_filter, decide_eq_true_eq, mem_owned]
  exact and_iff_right_of_imp fun hn => ⟨n, hn⟩

/-- The handle that a new subscription would get, if it is kept. -/
def newHandle (r : Room ν) (keep : Bool) : Option Nat :=
  if keep then some r.handles.length else none

theorem newHandle_eq {r : Room ν} {keep : Bool} {h : Nat} (hnew : r.newHandle keep = some h) :
    h = r.handles.length := by
  cases keep with
  | true => exact (Option.some.inj hnew).symm
  | false => exact absurd hnew.symm (Option.some_ne_none h)

/-- The handle of a new subscription, which is kept or not. -/
theorem handle?_append (r : Room ν) (keep : Bool) (new : Handle) (h : Nat) :
    ((r.handles ++ if keep then [some new] else [])[h]?).join =
      if r.newHandle keep = some h then some new else r.handle? h := by
  unfold handle? newHandle
  cases keep with
  | false => simp only [Bool.false_eq_true, if_false, List.append_nil, reduceCtorEq]
  | true =>
    simp only [if_true, Option.some.injEq]
    rcases Nat.lt_trichotomy h r.handles.length with hlt | rfl | hgt
    · rw [List.getElem?_append_left hlt, if_neg (Nat.ne_of_gt hlt)]
    · rw [List.getElem?_concat_length, if_pos rfl]
      rfl
    · rw [if_neg (Nat.ne_of_lt hgt), List.getElem?_eq_none,
        List.getElem?_eq_none (Nat.le_of_lt hgt)]
      rw [List.length_append, List.length_singleton]
      omega

/-! ## Keys -/

def names (r : Room ν) : List ν := r.subscribers.map Subscriber.name

/-- Keys are given out like the numbers of subscribers, so each subscriber has its own as key. -/
def Keyed (r : Room ν) : Prop :=
  ∀ c, r.channel = some c → c.nextKey = r.subscribers.length ∧ ∀ x ∈ c.subscribers, x.1 = x.2

theorem channel_cancelKey (r : Room ν) (key : Nat) :
    (r.cancelKey key).channel = r.channel.map fun c => c.cancel key := by
  unfold cancelKey
  split
  · next hc => rw [hc, Option.map_none]
  · next c hc => rw [hc, Option.map_some]

theorem handles_cancelKey (r : Room ν) (key : Nat) : (r.cancelKey key).handles = r.handles := by
  unfold cancelKey
  split
  · rfl
  · rfl

theorem keyOf?_cancelKey (r : Room ν) (key h : Nat) : (r.cancelKey key).keyOf? h = r.keyOf? h := by
  rw [keyOf?, handle?, handles_cancelKey]
  rfl

theorem ownerOf?_cancelKey (r : Room ν) (key h : Nat) :
    (r.cancelKey key).ownerOf? h = r.ownerOf? h := by
  rw [ownerOf?, handle?, handles_cancelKey]
  rfl

theorem audience_cancelKey {r : Room ν} (hr : r.Keyed) (key : Nat) :
    (r.cancelKey key).audience = r.audience.filter (· ≠ key) := by
  rw [audience, channel_cancelKey, audience]
  cases hc : r.channel with
  | none => rfl
  | some c =>
    show ((c.subscribers.filter fun x => x.1 != key).map Prod.snd) =
      (c.subscribers.map Prod.snd).filter (· ≠ key)
    rw [List.filter_map]
    congr 1
    refine List.filter_congr fun x hx => ?_
    have hkey : x.1 = x.2 := (hr c hc).2 x hx
    rw [Function.comp_apply, hkey, bne, beq_eq_decide, decide_not]

theorem keyed_cancelKey {r : Room ν} (hr : r.Keyed) (key : Nat) : (r.cancelKey key).Keyed := by
  intro c hc
  rw [channel_cancelKey] at hc
  obtain ⟨c, hopen, rfl⟩ := Option.map_eq_some_iff.mp hc
  rw [(r.spares_cancelKey key).subscribers]
  exact ⟨(hr c hopen).1, fun x hx => (hr c hopen).2 x (List.mem_filter.mp hx).1⟩

theorem lookup_eq_some_iff {subs : List (Nat × Nat)} (hsubs : ∀ x ∈ subs, x.1 = x.2) (key n : Nat) :
    subs.lookup key = some n ↔ n = key ∧ key ∈ subs.map Prod.snd := by
  induction subs with
  | nil => exact iff_of_false (Option.some_ne_none n).symm fun h => List.not_mem_nil h.2
  | cons x rest ih =>
    obtain ⟨k, m⟩ := x
    obtain rfl : k = m := hsubs _ List.mem_cons_self
    have hrest := ih fun x hx => hsubs x (List.mem_cons_of_mem _ hx)
    rw [List.lookup_cons, List.map_cons, List.mem_cons]
    by_cases hkey : key = k
    · rw [hkey, beq_self_eq_true]
      simp only [Option.some.injEq, true_or, and_true, eq_comm]
    · simp only [beq_false_of_ne hkey, hrest, hkey, false_or]

/-- It fails to take a subscriber off the list if nobody else holds it and it owns a handle. -/
theorem failed_cancelKey {r : Room ν} (hr : r.Keyed) (key : Nat) :
    (r.cancelKey key).failed = true ↔ r.failed = true ∨
      key ∈ r.audience ∧ key ∉ r.inUse ∧ ∃ h, r.ownerOf? h = some key := by
  unfold cancelKey audience
  cases hc : r.channel with
  | none => exact (or_iff_left fun h => List.not_mem_nil h.1).symm
  | some c =>
    have howner : (r.ownedBy key).isEmpty = false ↔ ∃ h, r.ownerOf? h = some key := by
      simp only [List.isEmpty_eq_false_iff_exists_mem, mem_ownedBy]
    show (r.failed || (c.subscribers.lookup key).any fun n => n ∉ r.inUse && !(r.ownedBy n).isEmpty)
      = true ↔ r.failed = true ∨ key ∈ c.subscribers.map Prod.snd ∧ _
    rw [Bool.or_eq_true, Option.any_eq_true]
    simp only [lookup_eq_some_iff (hr c hc).2, Bool.and_eq_true, decide_eq_true_eq,
      Bool.not_eq_true', ← howner]
    refine or_congr_right ⟨?_, fun ⟨hmem, huse, hown⟩ => ⟨key, ⟨rfl, hmem⟩, huse, hown⟩⟩
    rintro ⟨n, ⟨rfl, hmem⟩, huse, hown⟩
    exact ⟨hmem, huse, hown⟩

/-! ## Dropping a handle -/

theorem keyed_dropHandle {r : Room ν} (hr : r.Keyed) (h : Nat) : (r.dropHandle h).Keyed := by
  unfold dropHandle
  split
  · exact keyed_cancelKey (r := r.forget h) hr _
  · exact hr

theorem keyOf?_dropHandle (r : Room ν) (h h' : Nat) :
    (r.dropHandle h).keyOf? h' = if h' = h then none else r.keyOf? h' := by
  unfold dropHandle
  split
  · rw [keyOf?_cancelKey, keyOf?_forget]
  · next hkey =>
    split
    · next heq => rw [heq, hkey]
    · rfl

theorem ownerOf?_dropHandle (r : Room ν) (h h' : Nat) :
    (r.dropHandle h).ownerOf? h' = if h' = h then none else r.ownerOf? h' := by
  unfold dropHandle
  split
  · rw [ownerOf?_cancelKey, ownerOf?_forget]
  · next hkey =>
    split
    · next heq => rw [heq, ownerOf?, Option.map_eq_none_iff.mp hkey, Option.bind_none]
    · rfl

theorem length_handles_dropHandle (r : Room ν) (h : Nat) :
    (r.dropHandle h).handles.length = r.handles.length := by
  unfold dropHandle
  split
  · rw [handles_cancelKey]
    exact List.length_set ..
  · rfl

theorem channel_dropHandle_eq_none (r : Room ν) (h : Nat) :
    (r.dropHandle h).channel = none ↔ r.channel = none := by
  unfold dropHandle
  split
  · rw [channel_cancelKey, Option.map_eq_none_iff]
    rfl
  · rfl

theorem audience_dropHandle {r : Room ν} (hr : r.Keyed) (h : Nat) :
    (r.dropHandle h).audience = r.audience.filter fun n => r.keyOf? h ≠ some n := by
  unfold dropHandle
  split
  · next key hkey =>
    rw [audience_cancelKey (r := r.forget h) hr]
    refine List.filter_congr fun n _ => ?_
    simp only [hkey, ne_eq, Option.some.injEq, eq_comm]
  · next hkey =>
    rw [hkey, List.filter_eq_self.mpr]
    exact fun n _ => decide_eq_true (Option.some_ne_none n).symm

/-- It fails to drop the handle of a subscriber that nobody else holds and that owns another one. -/
theorem failed_dropHandle {r : Room ν} (hr : r.Keyed) (hfine : r.failed = false) (h : Nat) :
    (r.dropHandle h).failed = true ↔ ∃ n ∈ r.audience, r.keyOf? h = some n ∧ n ∉ r.inUse ∧
      ∃ h', h' ≠ h ∧ r.ownerOf? h' = some n := by
  unfold dropHandle
  split
  · next key hkey =>
    have hfine' : ¬(r.forget h).failed = true := Bool.eq_false_iff.mp hfine
    have howner (n : Nat) : (∃ h', (r.forget h).ownerOf? h' = some n) ↔
        ∃ h', h' ≠ h ∧ r.ownerOf? h' = some n := by
      simp only [ownerOf?_forget, Option.ite_none_left_eq_some, ne_eq]
    rw [failed_cancelKey (r := r.forget h) hr, or_iff_right hfine', howner]
    simp only [hkey, Option.some.injEq]
    refine ⟨fun ⟨hmem, hrest⟩ => ⟨key, hmem, rfl, hrest⟩, ?_⟩
    rintro ⟨n, hmem, rfl, hrest⟩
    exact ⟨hmem, hrest⟩
  · next hkey =>
    refine iff_of_false (Bool.eq_false_iff.mp hfine) ?_
    rintro ⟨n, -, hsome, -⟩
    exact Option.some_ne_none n (hsome.symm.trans hkey)

theorem failed_of_dropHandle {r : Room ν} {h : Nat} (hfine : (r.dropHandle h).failed = false) :
    r.failed = false := by
  have hmono (r : Room ν) (key : Nat) (hfine : (r.cancelKey key).failed = false) :
      r.failed = false := by
    unfold cancelKey at hfine
    split at hfine
    · exact hfine
    · exact (Bool.or_eq_false_iff.mp hfine).1
  unfold dropHandle at hfine
  split at hfine
  · exact hmono (r.forget h) _ hfine
  · exact hfine

theorem addSubscriber_eq {r : Room ν} (hr : r.Keyed) {c : Channel Nat} (hc : r.channel = some c)
    (x : Subscriber ν) (keep : Bool) : r.addSubscriber x keep = { r with
      channel := some (c.subscribe r.subscribers.length).1
      subscribers := r.subscribers ++ [x]
      handles := r.handles ++ if keep then [some ⟨r.subscribers.length, none⟩] else [] } := by
  rw [addSubscriber, hc]
  cases keep with
  | true => simp only [Channel.subscribe, (hr c hc).1, if_true]
  | false => simp only [Bool.false_eq_true, if_false, List.append_nil]

theorem keyed_addSubscriber {r : Room ν} (hr : r.Keyed) {c : Channel Nat} (hc : r.channel = some c)
    (x : Subscriber ν) (keep : Bool) : (r.addSubscriber x keep).Keyed := by
  obtain ⟨hnext, hkeys⟩ := hr c hc
  rw [addSubscriber_eq hr hc]
  intro c' hc'
  obtain rfl := Option.some.inj hc'
  refine ⟨?_, fun y hy => ?_⟩
  · simp only [Channel.subscribe, List.length_append, List.length_singleton, hnext]
  · rcases List.mem_append.mp hy with hold | hnew
    · exact hkeys y hold
    · rw [List.mem_singleton.mp hnew]
      exact hnext

theorem audience_addSubscriber {r : Room ν} (hr : r.Keyed) {c : Channel Nat}
    (hc : r.channel = some c) (x : Subscriber ν) (keep : Bool) :
    (r.addSubscriber x keep).audience = r.audience ++ [r.subscribers.length] := by
  rw [addSubscriber_eq hr hc, audience, audience, hc]
  exact c.audience_subscribe _

theorem handle?_addSubscriber {r : Room ν} (hr : r.Keyed) {c : Channel Nat}
    (hc : r.channel = some c) (x : Subscriber ν) (keep : Bool) (h : Nat) :
    (r.addSubscriber x keep).handle? h =
      if r.newHandle keep = some h then some ⟨r.subscribers.length, none⟩ else r.handle? h := by
  rw [addSubscriber_eq hr hc]
  exact r.handle?_append keep _ h

theorem keyOf?_addSubscriber {r : Room ν} (hr : r.Keyed) {c : Channel Nat}
    (hc : r.channel = some c) (x : Subscriber ν) (keep : Bool) (h : Nat) :
    (r.addSubscriber x keep).keyOf? h =
      if r.newHandle keep = some h then some r.subscribers.length else r.keyOf? h := by
  rw [keyOf?, handle?_addSubscriber hr hc]
  split
  · rfl
  · rfl

/-- Nobody owns the handle of a new subscription. -/
theorem ownerOf?_addSubscriber {r : Room ν} {x : Subscriber ν} {keep : Bool} {h n : Nat}
    (hr : r.Keyed) (howner : (r.addSubscriber x keep).ownerOf? h = some n) :
    r.ownerOf? h = some n := by
  cases hc : r.channel with
  | none => rwa [addSubscriber, hc] at howner
  | some c =>
    rw [ownerOf?, handle?_addSubscriber hr hc] at howner
    split at howner
    · exact absurd howner.symm (Option.some_ne_none n)
    · exact howner

theorem entrust_eq (r : Room ν) (handle number : Nat) :
    r.entrust handle number = { r with handles := (r.entrust handle number).handles } := by
  unfold entrust
  split
  · split
    · rfl
    · rfl
  · rfl

theorem length_handles_entrust (r : Room ν) (handle number : Nat) :
    (r.entrust handle number).handles.length = r.handles.length := by
  unfold entrust
  split
  · split
    · exact List.length_set ..
    · rfl
  · rfl

theorem keyOf?_entrust (r : Room ν) (handle number h : Nat) :
    (r.entrust handle number).keyOf? h = r.keyOf? h := by
  unfold entrust
  split
  · next held hheld =>
    split
    · rw [keyOf?, r.handle?_set (lt_of_handle? hheld)]
      split
      · next heq => rw [heq, keyOf?, hheld, Option.map_some, Option.map_some]
      · rfl
    · rfl
  · rfl

theorem ownerOf?_entrust {r : Room ν} {handle number h n : Nat}
    (howner : (r.entrust handle number).ownerOf? h = some n) :
    r.ownerOf? h = some n ∨ h = handle ∧ n = number ∧ number ∈ r.present := by
  unfold entrust at howner
  split at howner
  · next held hheld =>
    split at howner
    · next hthere =>
      rw [ownerOf?, r.handle?_set (lt_of_handle? hheld)] at howner
      split at howner
      · next heq => exact .inr ⟨heq, (Option.some.inj howner).symm, hthere⟩
      · exact .inl howner
    · exact .inl howner
  · exact .inl howner

/-! ## Telling -/

/-- Whoever is told something drops its handles, does its next reaction, and is left with the later
ones. -/
theorem tell_eq {r : Room ν} {number : Nat} {x : Subscriber ν}
    (hx : r.subscribers[number]? = some x) (value : String) : r.tell number value =
      ({ (r.dropAll x.drops).1 with
          told := (x.name, value) :: r.told
          subscribers := r.subscribers.set number { x with reactions := x.reactions.tail } },
        (x.reactions.headD []).map .act ++ [.release number]) := by
  rw [← (r.spares_dropAll x.drops).told, ← (r.spares_dropAll x.drops).subscribers, tell, hx]

theorem tell_of_none {r : Room ν} {number : Nat} (hx : r.subscribers[number]? = none)
    (value : String) : r.tell number value = (r, [.release number]) := by
  rw [tell, hx]

/-! ## Owners -/

/-- The handles that are owned, except for some, are owned by subscribers that are there. -/
def KeptBut (r : Room ν) (out : List Nat) : Prop :=
  r.failed = false → ∀ h n, r.ownerOf? h = some n → h ∈ out ∨ n ∈ r.present

/-- Every handle that is owned is owned by a subscriber that is there. -/
def Kept (r : Room ν) : Prop := r.KeptBut []

variable {r r' : Room ν} {out : List Nat}

theorem failed_elim {P : Prop} (hfine : r.failed = false) (hfailed : r.failed = true) : P :=
  absurd (hfine.symm.trans hfailed) Bool.false_ne_true

theorem KeptBut.weaken (hr : r.KeptBut []) : r.KeptBut out :=
  fun hfine h n howner => .inr ((hr hfine h n howner).resolve_left List.not_mem_nil)

/-- Owners may lose handles, and others may come. -/
theorem KeptBut.congr (hr : r.KeptBut out) (hfailed : r'.failed = r.failed)
    (howner : ∀ h n, r'.ownerOf? h = some n → r.ownerOf? h = some n)
    (hpresent : ∀ n ∈ r.present, n ∈ r'.present) : r'.KeptBut out :=
  fun hfine h n hn =>
    (hr (hfailed.symm.trans hfine) h n (howner h n hn)).imp_right (hpresent n)

theorem KeptBut.dropHandle {h : Nat} (hr : r.KeptBut (h :: out)) (hkeyed : r.Keyed) :
    (r.dropHandle h).KeptBut out := by
  intro hfine h' n howner
  have hfine' : r.failed = false := failed_of_dropHandle hfine
  rw [ownerOf?_dropHandle, Option.ite_none_left_eq_some] at howner
  obtain ⟨hne, howner⟩ := howner
  rcases hr hfine' h' n howner with hout | hthere
  · exact .inl ((List.mem_cons.mp hout).resolve_left hne)
  · refine .inr (List.mem_append.mpr ?_)
    rw [audience_dropHandle hkeyed, (r.spares_dropHandle h).inUse, List.mem_filter]
    by_cases huse : n ∈ r.inUse
    · exact .inr huse
    · -- it is still subscribed, for to cancel it would have failed
      have hmem : n ∈ r.audience := (List.mem_append.mp hthere).resolve_right huse
      refine .inl ⟨hmem, decide_eq_true fun hkey => ?_⟩
      have hfailed := (failed_dropHandle hkeyed hfine' h).mpr ⟨n, hmem, hkey, huse, h', hne, howner⟩
      exact failed_elim hfine hfailed

theorem KeptBut.dropAll {hs : List Nat} (hr : r.KeptBut hs) (hkeyed : r.Keyed) :
    (r.dropAll hs).1.Kept := by
  induction hs generalizing r with
  | nil => exact hr
  | cons h rest ih =>
    rw [Room.dropAll]
    split
    · next hfailed => exact fun hfine => failed_elim hfine hfailed
    · exact ih (hr.dropHandle hkeyed) (keyed_dropHandle hkeyed h)

/-- A publication lets go of a subscriber: if that is destroyed, the handles it owns are dropped. -/
theorem Kept.release (hr : r.Kept) (hkeyed : r.Keyed) (number : Nat) :
    (r.release number).1.Kept := by
  have hother {n : Nat} (hne : n ≠ number) (hn : n ∈ r.present) :
      n ∈ ({ r with inUse := r.inUse.erase number } : Room ν).present :=
    (List.mem_append.mp hn).elim (List.mem_append_left _) fun huse =>
      List.mem_append_right _ ((List.mem_erase_of_ne hne).mpr huse)
  unfold Room.release
  dsimp only
  split
  · next hthere =>
    intro hfine h n howner
    refine .inr ?_
    by_cases hne : n = number
    · rw [hne]
      exact hthere
    · exact hother hne ((hr hfine h n howner).resolve_left List.not_mem_nil)
  · refine KeptBut.dropAll (r := { r with inUse := r.inUse.erase number }) ?_ hkeyed
    intro hfine h n howner
    by_cases hne : n = number
    · exact .inl (mem_ownedBy.mpr (hne ▸ howner))
    · exact .inr (hother hne ((hr hfine h n howner).resolve_left List.not_mem_nil))

theorem kept_addSubscriber (hr : r.Kept) (hkeyed : r.Keyed) (x : Subscriber ν) (keep : Bool) :
    (r.addSubscriber x keep).Kept := by
  have howner (h n : Nat) (hn : (r.addSubscriber x keep).ownerOf? h = some n) :
      r.ownerOf? h = some n := ownerOf?_addSubscriber hkeyed hn
  cases hc : r.channel with
  | none =>
    rw [addSubscriber, hc]
    exact hr
  | some c =>
    refine hr.congr ?_ howner fun n hn => ?_
    · rw [addSubscriber_eq hkeyed hc]
    · rw [present, audience_addSubscriber hkeyed hc, addSubscriber_eq hkeyed hc]
      refine List.mem_append.mpr ((List.mem_append.mp hn).imp_left (List.mem_append_left _))

theorem kept_perform (hr : r.Kept) (hkeyed : r.Keyed) (a : Act ν) : (r.perform a).1.Kept := by
  cases a with
  | subscribe name drops reactions keep => exact kept_addSubscriber hr hkeyed _ keep
  | drop h => exact hr.weaken.dropHandle hkeyed
  | detach h =>
    refine hr.congr rfl (fun h' n howner => ?_) fun _ => id
    rw [perform, ownerOf?_forget, Option.ite_none_left_eq_some] at howner
    exact howner.2
  | publish value =>
    refine hr.congr rfl (fun _ _ => id) fun n hn => ?_
    exact List.mem_append.mpr ((List.mem_append.mp hn).imp_right (List.mem_append_right _))
  | entrust handle number =>
    intro hfine h n howner
    have heq := r.entrust_eq handle number
    have hpresent : (r.entrust handle number).present = r.present := by rw [heq]; rfl
    have hfine' : r.failed = false := by
      rw [perform, heq] at hfine
      exact hfine
    rw [perform, hpresent]
    rcases ownerOf?_entrust howner with hold | ⟨-, rfl, hthere⟩
    · exact hr hfine' h n hold
    · exact .inr hthere

theorem kept_carryOut (hr : r.Kept) (hkeyed : r.Keyed) (t : Task ν) : (r.carryOut t).1.Kept := by
  cases t with
  | act a => exact kept_perform hr hkeyed a
  | release number => exact hr.release hkeyed number
  | tell number value =>
    unfold carryOut tell
    dsimp only
    split
    · exact hr
    · exact (hr.weaken.dropAll hkeyed).congr rfl (fun _ _ => id) fun _ => id

theorem inUse_perform {a : Act ν} {rest : List (Task ν)}
    (hr : r.inUse = rest.filterMap Task.holds?) :
    (r.perform a).1.inUse = ((r.perform a).2 ++ rest).filterMap Task.holds? := by
  cases a with
  | subscribe name drops reactions keep =>
    have hsame : (r.addSubscriber ⟨name, drops, reactions⟩ keep).inUse = r.inUse := by
      unfold addSubscriber
      split
      · rfl
      · rfl
    exact hsame.trans hr
  | drop h => exact (r.spares_dropHandle h).inUse.trans hr
  | detach h => exact hr
  | publish value =>
    have hall : (r.audience.map fun n => (Task.tell n value : Task ν)).filterMap Task.holds? =
        r.audience := by
      rw [List.filterMap_map]
      exact List.filterMap_some
    show r.audience ++ r.inUse = _
    rw [perform, List.filterMap_append, hall, hr]
  | entrust h n => exact (r.spares_entrust h n).inUse.trans hr

/-- Publications hold those whom the stack has still to tell something or to let go. -/
theorem inUse_carryOut {t : Task ν} {rest : List (Task ν)}
    (hr : r.inUse = (t :: rest).filterMap Task.holds?) :
    (r.carryOut t).1.inUse = ((r.carryOut t).2 ++ rest).filterMap Task.holds? := by
  cases t with
  | act a => exact inUse_perform hr
  | release n =>
    have hhead : r.inUse = n :: rest.filterMap Task.holds? := hr
    refine (r.spares_release n).inUse.trans ?_
    show r.inUse.erase n = _
    rw [hhead, List.erase_cons_head]
    rfl
  | tell n value =>
    have hacts (acts : List (Act ν)) : (acts.map Task.act).filterMap Task.holds? = [] := by
      rw [List.filterMap_map]
      exact List.filterMap_eq_nil_iff.mpr fun _ _ => rfl
    unfold carryOut tell
    dsimp only
    split
    · exact hr
    · next s _ =>
      rw [List.append_assoc, List.filterMap_append, hacts]
      exact (r.spares_dropAll s.drops).inUse.trans hr

/-- A channel that is closed takes all owners with it, and drops what they owned. -/
theorem kept_closeWith (r : Room ν) : r.closeWith.1.Kept := by
  refine KeptBut.dropAll (r := { r with channel := none }) (fun _ h n howner => .inl ?_) ?_
  · exact mem_owned.mpr ⟨n, howner⟩
  · exact fun c hc => absurd hc.symm (Option.some_ne_none c)

end Room

/-! ## Rooms and logs -/

/-- The last thing done was to drop the handle of a subscriber that no publication held and that
owned another handle. -/
def FailedBy (r : Room ν) (log : List Entry) : Prop :=
  ∃ before h n h', log = before ++ [.dropped h] ∧ Holds before h n ∧ n ∉ r.inUse ∧
    r.ownerOf? h' = some n

/-- The room is in the state that the log tells. -/
structure Coherent (r : Room ν) (log : List Entry) : Prop where
  keyed : r.Keyed
  closed : r.channel = none ↔ .closed ∈ log
  audience : Lists log r.audience
  numbers : log.filterMap Entry.number? = List.range r.subscribers.length
  handles : log.filterMap Entry.handle? = List.range r.handles.length
  held : ∀ h n, r.keyOf? h = some n ↔ Holds log h n
  owned : ∀ h n, r.ownerOf? h = some n → .entrusted h n ∈ log
  failed : r.failed = true → FailedBy r log

namespace Coherent

variable {r : Room ν} {log : List Entry}

theorem nodup (hr : Coherent r log) : (log.filterMap Entry.number?).Nodup := by
  rw [hr.numbers]
  exact List.nodup_range

theorem lt_length (hr : Coherent r log) {n : Nat} (hn : n ∈ r.audience) :
    n < r.subscribers.length := by
  obtain ⟨-, handle, later, hreg, -⟩ := (hr.audience.mem n).mp hn
  rw [← List.mem_range, ← hr.numbers]
  exact hreg.mem_numbers

/-- An entry that subscribes nobody: it may settle a handle, and if it drops one that is held, the
registration of the handle goes and no other. -/
theorem concat (hr : Coherent r log) {e : Entry} (hnumber : e.number? = none) (hopen : e ≠ .closed)
    {r' : Room ν} (hkeyed : r'.Keyed) (hchannel : r'.channel = none ↔ r.channel = none)
    (hlength : r'.subscribers.length = r.subscribers.length)
    (hhandles : r'.handles.length = r.handles.length)
    (hkeys : ∀ h, r'.keyOf? h = if e.settles h then none else r.keyOf? h)
    (hsublist : r'.audience.Sublist r.audience)
    (haudience : ∀ n, n ∈ r'.audience ↔
      n ∈ r.audience ∧ ∀ h, e = .dropped h → r.keyOf? h ≠ some n)
    (howners : ∀ h n, r'.ownerOf? h = some n → r.ownerOf? h = some n ∨ e = .entrusted h n)
    (hfailed : r'.failed = true → FailedBy r' (log ++ [e])) : Coherent r' (log ++ [e]) where
  keyed := hkeyed
  closed := by
    rw [hchannel, hr.closed, List.mem_append, List.mem_singleton, or_iff_left hopen.symm]
  audience := by
    refine ⟨hr.audience.ordered.sublist hsublist, fun n => ?_⟩
    have hnobody : ¬(.closed ∉ log ∧ e.number? = some n) := by
      rintro ⟨-, hsome⟩
      rw [hnumber] at hsome
      exact absurd hsome.symm (Option.some_ne_none n)
    rw [live_concat hr.nodup hopen, or_iff_left hnobody, haudience, hr.audience.mem]
    simp only [ne_eq, hr.held]
  numbers := by
    rw [hlength, ← hr.numbers]
    exact filterMap_concat hnumber log
  handles := by
    have hhandle : e.handle? = none := by
      cases e with
      | subscribed number handle => exact absurd hnumber (Option.some_ne_none number)
      | _ => rfl
    rw [filterMap_concat hhandle, hhandles]
    exact hr.handles
  held h n := by
    have hnobody : e ≠ .subscribed n (some h) := by
      rintro rfl
      exact Option.some_ne_none n hnumber
    rw [hkeys, holds_concat, or_iff_left hnobody, ← hr.held]
    cases e.settles h with
    | true => simp only [if_true, reduceCtorEq, and_false]
    | false => simp only [Bool.false_eq_true, if_false, and_true]
  owned h n hn := by
    rcases howners h n hn with hold | rfl
    · exact List.mem_append_left _ (hr.owned h n hold)
    · exact List.mem_append_right _ (List.mem_singleton_self _)
  failed := hfailed

/-- Only channel and handles matter, how many subscribers there are, and how it has failed. -/
theorem congr (hr : Coherent r log) {r' : Room ν} (hchannel : r'.channel = r.channel)
    (hhandles : r'.handles = r.handles)
    (hlength : r'.subscribers.length = r.subscribers.length) (hfailed : r'.failed = r.failed)
    (hinUse : r'.failed = true → r'.inUse = r.inUse) : Coherent r' log where
  keyed := by
    unfold Room.Keyed
    rw [hchannel, hlength]
    exact hr.keyed
  closed := by
    rw [hchannel]
    exact hr.closed
  audience := by
    rw [Room.audience, hchannel]
    exact hr.audience
  numbers := by
    rw [hlength]
    exact hr.numbers
  handles := by
    rw [hhandles]
    exact hr.handles
  held := by
    unfold Room.keyOf? Room.handle?
    rw [hhandles]
    exact hr.held
  owned := by
    unfold Room.ownerOf? Room.handle?
    rw [hhandles]
    exact hr.owned
  failed hfailed' := by
    unfold FailedBy Room.ownerOf? Room.handle?
    rw [hhandles, hinUse hfailed']
    exact hr.failed (hfailed.symm.trans hfailed')

/-- What neither subscribes nor settles changes nothing. -/
theorem inert (hr : Coherent r log) (hfine : r.failed = false) {e : Entry}
    (hnumber : e.number? = none) (hopen : e ≠ .closed) (hsettles : ∀ h, e.settles h = false) :
    Coherent r (log ++ [e]) := by
  refine hr.concat hnumber hopen hr.keyed Iff.rfl rfl rfl ?_ (List.Sublist.refl _) ?_
    (fun _ _ => .inl) (Room.failed_elim hfine)
  · intro h
    rw [hsettles]
    rfl
  · refine fun n => (and_iff_left ?_).symm
    rintro h rfl
    have hdropped := hsettles h
    rw [Entry.settles_dropped, decide_eq_false_iff_not] at hdropped
    exact absurd rfl hdropped

theorem detach (hr : Coherent r log) (hfine : r.failed = false) (h : Nat) :
    Coherent (r.forget h) (log ++ [.detached h]) := by
  refine hr.concat rfl Entry.noConfusion hr.keyed Iff.rfl rfl (List.length_set ..) ?_
    (List.Sublist.refl _) ?_ ?_ (Room.failed_elim hfine)
  · intro h'
    simp only [Room.keyOf?_forget, Entry.settles_detached, decide_eq_true_eq]
  · exact fun n => (and_iff_left fun _ => Entry.noConfusion).symm
  · intro h' n howner
    rw [Room.ownerOf?_forget, Option.ite_none_left_eq_some] at howner
    exact .inl howner.2

theorem drop (hr : Coherent r log) (hfine : r.failed = false) (h : Nat) :
    Coherent (r.dropHandle h) (log ++ [.dropped h]) := by
  refine hr.concat rfl Entry.noConfusion (Room.keyed_dropHandle hr.keyed h)
    (r.channel_dropHandle_eq_none h) (congrArg List.length (r.spares_dropHandle h).subscribers)
    (r.length_handles_dropHandle h) ?_ ?_ ?_ ?_ ?_
  · intro h'
    simp only [Room.keyOf?_dropHandle, Entry.settles_dropped, decide_eq_true_eq]
  · rw [Room.audience_dropHandle hr.keyed]
    exact List.filter_sublist
  · intro n
    rw [Room.audience_dropHandle hr.keyed, List.mem_filter, decide_eq_true_eq]
    refine and_congr_right fun _ => ⟨fun hne h' hdrop => ?_, fun hkept => hkept h rfl⟩
    rwa [← Entry.dropped.inj hdrop]
  · intro h' n howner
    rw [Room.ownerOf?_dropHandle, Option.ite_none_left_eq_some] at howner
    exact .inl howner.2
  · intro hfailed
    obtain ⟨n, -, hkey, huse, h', hne, howner⟩ :=
      (Room.failed_dropHandle hr.keyed hfine h).mp hfailed
    refine ⟨log, h, n, h', rfl, (hr.held h n).mp hkey, ?_, ?_⟩
    · rwa [(r.spares_dropHandle h).inUse]
    · rwa [Room.ownerOf?_dropHandle, if_neg hne]

theorem dropAll (hr : Coherent r log) (hs : List Nat) :
    Coherent (r.dropAll hs).1 (log ++ (r.dropAll hs).2.map .dropped) := by
  induction hs generalizing r log with
  | nil =>
    rw [Room.dropAll, List.map_nil, List.append_nil]
    exact hr
  | cons h rest ih =>
    rw [Room.dropAll]
    split
    · rw [List.map_nil, List.append_nil]
      exact hr
    · next hfine =>
      rw [List.map_cons, List.append_cons]
      exact ih (hr.drop (Bool.eq_false_iff.mpr hfine) h)

theorem entrust (hr : Coherent r log) (hfine : r.failed = false) (h n : Nat) :
    Coherent (r.entrust h n) (log ++ [.entrusted h n]) := by
  have heq := r.entrust_eq h n
  have haudience : (r.entrust h n).audience = r.audience := by rw [heq]; rfl
  refine hr.concat rfl Entry.noConfusion ?_ ?_ ?_ (r.length_handles_entrust h n) ?_ ?_ ?_ ?_ ?_
  · rw [heq]
    exact hr.keyed
  · rw [heq]
  · rw [heq]
  · intro h'
    rw [r.keyOf?_entrust, if_neg]
    exact fun hsettles => (of_decide_eq_true hsettles).elim Entry.noConfusion Entry.noConfusion
  · rw [haudience]
  · intro m
    rw [haudience]
    exact (and_iff_left fun _ => Entry.noConfusion).symm
  · rintro h' m howner
    exact (Room.ownerOf?_entrust howner).imp_right fun ⟨hh, hm, _⟩ => by rw [hh, hm]
  · rw [heq]
    exact Room.failed_elim hfine

theorem lt_handles (hr : Coherent r log) {h n : Nat} (hheld : Holds log h n) :
    h < r.handles.length := by
  obtain ⟨later, hreg, -⟩ := hheld
  rw [← List.mem_range, ← hr.handles]
  exact List.mem_filterMap.mpr ⟨_, hreg.mem, rfl⟩

/-- Only those who come after are subscribed under a handle that is given out now. -/
theorem held_subscribe (hr : Coherent r log) (keep : Bool) (h n : Nat) :
    (if r.newHandle keep = some h then some r.subscribers.length else r.keyOf? h) = some n ↔
      Holds (log ++ [.subscribed r.subscribers.length (r.newHandle keep)]) h n := by
  rw [holds_concat, ← hr.held, Entry.subscribed.injEq]
  by_cases hnew : r.newHandle keep = some h
  · have hfresh : r.keyOf? h ≠ some n := by
      intro hold
      have hlt : h < r.handles.length := hr.lt_handles ((hr.held h n).mp hold)
      have heq : h = r.handles.length := Room.newHandle_eq hnew
      omega
    rw [if_pos hnew, and_iff_left hnew, Option.some.injEq]
    exact (or_iff_right fun hold => hfresh hold.1).symm
  · rw [if_neg hnew, or_iff_left fun hold => hnew hold.2]
    exact (and_iff_left rfl).symm

theorem subscribe (hr : Coherent r log) (hfine : r.failed = false) {c : Channel Nat}
    (hc : r.channel = some c) (x : Subscriber ν) (keep : Bool) : Coherent (r.addSubscriber x keep)
      (log ++ [.subscribed r.subscribers.length (r.newHandle keep)]) := by
  have hopen : .closed ∉ log := by
    rw [← hr.closed, hc]
    exact Option.some_ne_none c
  refine ⟨Room.keyed_addSubscriber hr.keyed hc x keep, ?_, ⟨?_, fun n => ?_⟩, ?_, ?_,
    fun h n => ?_, fun h n howner => ?_, fun hfailed => ?_⟩
  · rw [Room.addSubscriber_eq hr.keyed hc]
    refine iff_of_false (Option.some_ne_none _) ?_
    exact (closed_notMem_concat log _).mpr ⟨hopen, Entry.noConfusion⟩
  · rw [Room.audience_addSubscriber hr.keyed hc, List.pairwise_append]
    refine ⟨hr.audience.ordered, List.pairwise_singleton _ _, fun n hn m hm => ?_⟩
    rw [List.mem_singleton.mp hm]
    exact hr.lt_length hn
  · have hkept : ∀ h, Entry.subscribed r.subscribers.length (r.newHandle keep) = .dropped h →
        ¬Holds log h n := fun h hdrop => Entry.noConfusion hdrop
    have hnew : (Entry.subscribed r.subscribers.length (r.newHandle keep)).number? = some n ↔
        n = r.subscribers.length := by rw [Entry.number?, Option.some.injEq, eq_comm]
    rw [Room.audience_addSubscriber hr.keyed hc, live_concat hr.nodup Entry.noConfusion,
      List.mem_append, List.mem_singleton, hr.audience.mem, and_iff_left hkept,
      and_iff_right hopen, hnew]
  · rw [Room.addSubscriber_eq hr.keyed hc, List.filterMap_append, hr.numbers, List.length_append,
      List.length_singleton, List.range_succ]
    rfl
  · rw [Room.addSubscriber_eq hr.keyed hc, List.filterMap_append, hr.handles, List.length_append]
    cases keep with
    | true => exact List.range_succ.symm
    | false => exact List.append_nil _
  · rw [Room.keyOf?_addSubscriber hr.keyed hc]
    exact hr.held_subscribe keep h n
  · exact List.mem_append_left _ (hr.owned h n (Room.ownerOf?_addSubscriber hr.keyed howner))
  · rw [Room.addSubscriber_eq hr.keyed hc] at hfailed
    exact Room.failed_elim hfine hfailed

theorem closeWith (hr : Coherent r log) (hfine : r.failed = false) :
    Coherent r.closeWith.1 (log ++ .closed :: r.closeWith.2.map .dropped) := by
  have hclosed : Coherent ({ r with channel := none } : Room ν) (log ++ [.closed]) := by
    refine ⟨fun _ hc => absurd hc.symm (Option.some_ne_none _), ?_,
      ⟨List.Pairwise.nil, fun n => ?_⟩, ?_, ?_, fun h n => ?_, fun h n howner => ?_,
      Room.failed_elim hfine⟩
    · exact iff_of_true rfl (List.mem_append_right log (List.mem_singleton_self _))
    · refine iff_of_false List.not_mem_nil fun hlive => ?_
      exact hlive.1 (List.mem_append_right log (List.mem_singleton_self _))
    · rw [filterMap_concat rfl]
      exact hr.numbers
    · rw [filterMap_concat rfl]
      exact hr.handles
    · have hnobody : Entry.closed ≠ .subscribed n (some h) := Entry.noConfusion
      rw [holds_concat, or_iff_left hnobody, ← hr.held]
      exact (and_iff_left rfl).symm
    · exact List.mem_append_left _ (hr.owned h n howner)
  rw [List.append_cons]
  exact hclosed.dropAll r.owned

end Coherent

end NodeLink.Channel
