import NodeLink.Proofs.Widget.Calls
/-!
# Which host is heard

A widget that is connected to a host subscribes to the host's two channels first and cancels its old
subscriptions then. Keys are not given out again, so what is cancelled is old even on a channel that
both hosts have, and what was registered before is all cancelled.

* `Widget.Wired`: every registration is one of the widget's own subscriptions.
* `registrations_rewired`: what is registered once another host is connected.
* `Widget.Attached`: what can come of a widget to which hosts are connected, one after the other.
* `Attached.newest_heard`: only the host that was connected last is heard.
-/

namespace NodeLink.Widget

variable {α : Type}

/-! ## Registrations -/

/-- Who is subscribed to a channel, under which keys. -/
def registrations (w : Widget α) (channel : Nat) : List (Nat × Listener) :=
  ((w.channels[channel]?).map Channel.subscribers).getD []

/-- The key that the next subscription to a channel gets. -/
def nextKey (w : Widget α) (channel : Nat) : Nat :=
  ((w.channels[channel]?).map Channel.nextKey).getD 0

/-- What news depend on. -/
def wiring (w : Widget α) : List (Channel Listener) × List (Nat × Nat) × Bool :=
  (w.channels, w.subscriptions, w.busy)

theorem subscriberCount_eq (w : Widget α) (c : Nat) :
    w.subscriberCount c = (w.registrations c).length := by
  unfold subscriberCount registrations
  cases w.channels[c]? with
  | none => rfl
  | some channel => rfl

theorem audience_eq (w : Widget α) (c : Nat) : w.audience c = (w.registrations c).map Prod.snd := by
  unfold audience registrations
  cases w.channels[c]? with
  | none => rfl
  | some channel => rfl

/-! ## One subscription -/

theorem getElem?_subscribe (w : Widget α) (channel : Nat) (l : Listener) (c : Nat) :
    (w.subscribe channel l).1.channels[c]? =
      (w.channels[c]?).map fun ch => if channel = c then (ch.subscribe l).1 else ch := by
  rw [subscribe_fst]
  exact List.getElem?_modify ..

theorem length_subscribe (w : Widget α) (channel : Nat) (l : Listener) :
    (w.subscribe channel l).1.channels.length = w.channels.length := by
  rw [subscribe_fst]
  exact List.length_modify ..

theorem subscription_eq {w : Widget α} {channel : Nat} (hlt : channel < w.channels.length)
    (l : Listener) : (w.subscribe channel l).2 = some (channel, w.nextKey channel) := by
  rw [subscribe, nextKey, List.getElem?_eq_getElem hlt]
  rfl

theorem registrations_subscribe {w : Widget α} {channel : Nat} (hlt : channel < w.channels.length)
    (l : Listener) (c : Nat) : (w.subscribe channel l).1.registrations c =
      w.registrations c ++ if c = channel then [(w.nextKey channel, l)] else [] := by
  rw [registrations, getElem?_subscribe, registrations]
  by_cases hc : channel = c
  · subst hc
    rw [if_pos rfl, nextKey, List.getElem?_eq_getElem hlt, Option.map_some, if_pos rfl]
    rfl
  · simp only [if_neg hc, if_neg (Ne.symm hc), Option.map_id', List.append_nil]

theorem nextKey_subscribe {w : Widget α} {channel : Nat} (hlt : channel < w.channels.length)
    (l : Listener) (c : Nat) : (w.subscribe channel l).1.nextKey c =
      w.nextKey c + if c = channel then 1 else 0 := by
  rw [nextKey, getElem?_subscribe, nextKey]
  by_cases hc : channel = c
  · subst hc
    rw [if_pos rfl, List.getElem?_eq_getElem hlt, Option.map_some, if_pos rfl]
    rfl
  · simp only [if_neg hc, if_neg (Ne.symm hc), Option.map_id', Nat.add_zero]

/-! ## Cancellations -/

theorem getElem?_cancel (w : Widget α) (old : Nat × Nat) (c : Nat) :
    (w.cancel old).channels[c]? =
      (w.channels[c]?).map fun ch => if old.1 = c then ch.cancel old.2 else ch :=
  List.getElem?_modify ..

theorem registrations_cancel (w : Widget α) (old : Nat × Nat) (c : Nat) :
    (w.cancel old).registrations c = (w.registrations c).filter fun x => (c, x.1) ≠ old := by
  obtain ⟨channel, key⟩ := old
  rw [registrations, registrations, getElem?_cancel]
  cases w.channels[c]? with
  | none => rfl
  | some ch =>
    show (if channel = c then ch.cancel key else ch).subscribers = ch.subscribers.filter _
    by_cases hc : channel = c
    · rw [if_pos hc]
      refine List.filter_congr fun x _ => ?_
      simp only [ne_eq, Prod.mk.injEq, hc, true_and]
      exact Bool.eq_iff_iff.mpr (bne_iff_ne.trans decide_eq_true_iff.symm)
    · rw [if_neg hc]
      refine (List.filter_eq_self.mpr fun x _ => ?_).symm
      exact decide_eq_true fun h => hc (Prod.mk.inj h).1.symm

theorem nextKey_cancel (w : Widget α) (old : Nat × Nat) (c : Nat) :
    (w.cancel old).nextKey c = w.nextKey c := by
  rw [nextKey, nextKey, getElem?_cancel]
  cases w.channels[c]? with
  | none => rfl
  | some ch =>
    show (if old.1 = c then ch.cancel old.2 else ch).nextKey = ch.nextKey
    split
    · rfl
    · rfl

theorem registrations_cancelAll (old : List (Nat × Nat)) (w : Widget α) (c : Nat) :
    (old.foldl cancel w).registrations c = (w.registrations c).filter fun x => (c, x.1) ∉ old := by
  induction old generalizing w with
  | nil => exact (List.filter_eq_self.mpr fun x _ => decide_eq_true List.not_mem_nil).symm
  | cons first rest ih =>
    rw [List.foldl_cons, ih, registrations_cancel, List.filter_filter]
    refine List.filter_congr fun x _ => ?_
    simp only [List.mem_cons, not_or, Bool.decide_and, Bool.and_comm, ne_eq]

theorem nextKey_cancelAll (old : List (Nat × Nat)) (w : Widget α) (c : Nat) :
    (old.foldl cancel w).nextKey c = w.nextKey c := by
  induction old generalizing w with
  | nil => rfl
  | cons first rest ih => rw [List.foldl_cons, ih, nextKey_cancel]

theorem length_cancelAll (old : List (Nat × Nat)) (w : Widget α) :
    (old.foldl cancel w).channels.length = w.channels.length := by
  induction old generalizing w with
  | nil => rfl
  | cons first rest ih => exact (ih (w.cancel first)).trans (List.length_modify ..)

/-! ## Another host -/

/-- Every registration is held by the widget, under a key that has been given out. -/
structure Wired (w : Widget α) : Prop where
  held : ∀ c, ∀ x ∈ w.registrations c, (c, x.1) ∈ w.subscriptions
  given : ∀ old ∈ w.subscriptions, old.2 < w.nextKey old.1
  idle : w.busy = false

def newSubscriptions (w : Widget α) (b : Bridge) : List (Nat × Nat) :=
  [(b.graphChannel, w.nextKey b.graphChannel),
    (b.selectionChannel, (w.subscribe b.graphChannel .loadGraph).1.nextKey b.selectionChannel)]

/-- The widget once it is connected to another host, before it has got the host's graph. -/
def rewired (w : Widget α) (b : Bridge) : Widget α :=
  { w.subscriptions.foldl cancel { w.joined b with subscriptions := w.newSubscriptions b } with
    bridge := some b }

/-- The widget can subscribe to both channels of the host. -/
def Offers (w : Widget α) (b : Bridge) : Prop :=
  b.graphChannel < w.channels.length ∧ b.selectionChannel < w.channels.length

/-- To whom a host is connected by a channel. -/
def listeners (b : Bridge) (c : Nat) : List Listener :=
  (if c = b.graphChannel then [.loadGraph] else []) ++
    if c = b.selectionChannel then [.focusNode] else []

section Listeners

variable {b : Bridge}

theorem listeners_graph (h : b.graphChannel ≠ b.selectionChannel) :
    listeners b b.graphChannel = [.loadGraph] := by
  rw [listeners, if_pos rfl, if_neg h, List.append_nil]

theorem listeners_selection (h : b.graphChannel ≠ b.selectionChannel) :
    listeners b b.selectionChannel = [.focusNode] := by
  rw [listeners, if_neg h.symm, if_pos rfl, List.nil_append]

/-- Over one channel for both, the graph is loaded first. -/
theorem listeners_shared (h : b.graphChannel = b.selectionChannel) :
    listeners b b.graphChannel = [.loadGraph, .focusNode] := by
  rw [listeners, if_pos rfl, if_pos h]
  rfl

theorem listeners_other {c : Nat} (hgraph : c ≠ b.graphChannel)
    (hselection : c ≠ b.selectionChannel) : listeners b c = [] := by
  rw [listeners, if_neg hgraph, if_neg hselection, List.append_nil]

end Listeners

/-- The registrations that a connection to a host makes on a channel. -/
def newRegistrations (w : Widget α) (b : Bridge) (c : Nat) : List (Nat × Listener) :=
  (if c = b.graphChannel then [(w.nextKey b.graphChannel, .loadGraph)] else []) ++
    if c = b.selectionChannel then
      [((w.subscribe b.graphChannel .loadGraph).1.nextKey b.selectionChannel, .focusNode)]
    else []

section Rewired

variable {w : Widget α} {b : Bridge}

/-- The first subscription opens and closes no channel. -/
theorem Offers.second (hb : w.Offers b) :
    b.selectionChannel < (w.subscribe b.graphChannel .loadGraph).1.channels.length := by
  rw [length_subscribe]
  exact hb.2

theorem attach_eq [Scalar α] (hb : w.Offers b) :
    w.attach b = ((w.rewired b).loadInitial b).update fun s => s.toast "Bridge connected" := by
  have hkeys : (w.subscribe b.graphChannel .loadGraph).2.toList ++
      ((w.subscribe b.graphChannel .loadGraph).1.subscribe b.selectionChannel .focusNode).2.toList =
        w.newSubscriptions b := by
    rw [subscription_eq hb.1, subscription_eq hb.second]
    rfl
  rw [rewired, ← hkeys]
  rfl

theorem map_snd_newRegistrations (w : Widget α) (b : Bridge) (c : Nat) :
    (w.newRegistrations b c).map Prod.snd = listeners b c := by
  rw [newRegistrations, List.map_append, listeners]
  congr 1
  · split
    · rfl
    · rfl
  · split
    · rfl
    · rfl

/-- New registrations are held by the widget, under keys that were not given out before. -/
theorem mem_newRegistrations (hb : w.Offers b) {c : Nat} {x : Nat × Listener}
    (hx : x ∈ w.newRegistrations b c) : (c, x.1) ∈ w.newSubscriptions b ∧ w.nextKey c ≤ x.1 := by
  rcases List.mem_append.mp hx with hgraph | hselection
  · split at hgraph
    · next hc =>
      rw [List.mem_singleton.mp hgraph, hc]
      exact ⟨List.mem_cons_self, Nat.le_refl _⟩
    · exact absurd hgraph List.not_mem_nil
  · split at hselection
    · next hc =>
      rw [List.mem_singleton.mp hselection, hc]
      refine ⟨List.mem_cons_of_mem _ List.mem_cons_self, ?_⟩
      rw [nextKey_subscribe hb.1]
      exact Nat.le_add_right _ _
    · exact absurd hselection List.not_mem_nil

theorem registrations_joined (hb : w.Offers b) (c : Nat) :
    (w.joined b).registrations c = w.registrations c ++ w.newRegistrations b c := by
  rw [joined, registrations_subscribe hb.second, registrations_subscribe hb.1, List.append_assoc]
  rfl

/-- What was registered before is gone, on the channels of the new host too. -/
theorem registrations_rewired (hw : w.Wired) (hb : w.Offers b) (c : Nat) :
    (w.rewired b).registrations c = w.newRegistrations b c := by
  have hcancelled : (w.rewired b).registrations c =
      ((w.joined b).registrations c).filter fun x => (c, x.1) ∉ w.subscriptions :=
    registrations_cancelAll w.subscriptions
      { w.joined b with subscriptions := w.newSubscriptions b } c
  have hold : (w.registrations c).filter (fun x => (c, x.1) ∉ w.subscriptions) = [] :=
    List.filter_eq_nil_iff.mpr fun x hx => by simpa using hw.held c x hx
  rw [hcancelled, registrations_joined hb, List.filter_append, hold, List.nil_append]
  refine List.filter_eq_self.mpr fun x hx => decide_eq_true fun hmem => ?_
  have hlt : x.1 < w.nextKey c := hw.given _ hmem
  exact Nat.not_lt.mpr (mem_newRegistrations hb hx).2 hlt

end Rewired

/-- The widget listens to the two channels of a host, once to each for its purpose, and to no other
channel. -/
structure Hears (w : Widget α) (b : Bridge) : Prop where
  offered : w.Offers b
  audience : ∀ c, w.audience c = listeners b c
  subscriptions : w.subscriptions.map Prod.fst = [b.graphChannel, b.selectionChannel]

section Wiring

variable {w w' : Widget α} {b : Bridge}

theorem Wired.congr (hw : w.Wired) (h : w'.wiring = w.wiring) : w'.Wired := by
  obtain ⟨hchannels, hrest⟩ := Prod.mk.inj h
  obtain ⟨hsubscriptions, hbusy⟩ := Prod.mk.inj hrest
  refine ⟨?_, ?_, hbusy.trans hw.idle⟩
  · unfold registrations
    rw [hchannels, hsubscriptions]
    exact hw.held
  · unfold nextKey
    rw [hchannels, hsubscriptions]
    exact hw.given

theorem Hears.congr (hw : w.Hears b) (h : w'.wiring = w.wiring) : w'.Hears b := by
  obtain ⟨hchannels, hrest⟩ := Prod.mk.inj h
  obtain ⟨hsubscriptions, -⟩ := Prod.mk.inj hrest
  refine ⟨?_, ?_, ?_⟩
  · unfold Offers
    rw [hchannels]
    exact hw.offered
  · unfold Widget.audience
    rw [hchannels]
    exact hw.audience
  · rw [hsubscriptions]
    exact hw.subscriptions

/-- Wired, and to no other host than the newest. -/
def HearsNewest (w : Widget α) (bs : List Bridge) : Prop :=
  w.Wired ∧ ∀ b, bs.head? = some b → w.Hears b

theorem HearsNewest.congr {bs : List Bridge} (hw : w.HearsNewest bs)
    (h : w'.wiring = w.wiring) : w'.HearsNewest bs :=
  ⟨hw.1.congr h, fun b hb => (hw.2 b hb).congr h⟩

theorem subscriptions_rewired (w : Widget α) (b : Bridge) :
    (w.rewired b).subscriptions = w.newSubscriptions b := by
  rw [rewired, cancelAll_eq]

theorem busy_rewired (w : Widget α) (b : Bridge) : (w.rewired b).busy = w.busy := by
  rw [rewired, cancelAll_eq, joined_eq]

theorem length_rewired (w : Widget α) (b : Bridge) :
    (w.rewired b).channels.length = w.channels.length := by
  have hcancelled : (w.rewired b).channels.length = (w.joined b).channels.length :=
    length_cancelAll w.subscriptions { w.joined b with subscriptions := w.newSubscriptions b }
  rw [hcancelled, joined, length_subscribe, length_subscribe]

theorem nextKey_rewired (hb : w.Offers b) (c : Nat) :
    (w.rewired b).nextKey c = w.nextKey c + (if c = b.graphChannel then 1 else 0) +
      if c = b.selectionChannel then 1 else 0 := by
  have hcancelled : (w.rewired b).nextKey c = (w.joined b).nextKey c :=
    nextKey_cancelAll w.subscriptions { w.joined b with subscriptions := w.newSubscriptions b } c
  rw [hcancelled, joined, nextKey_subscribe hb.second, nextKey_subscribe hb.1]

theorem wired_rewired (hw : w.Wired) (hb : w.Offers b) : (w.rewired b).Wired := by
  refine ⟨fun c x hx => ?_, fun old hold => ?_, (busy_rewired w b).trans hw.idle⟩
  · rw [registrations_rewired hw hb] at hx
    rw [subscriptions_rewired]
    exact (mem_newRegistrations hb hx).1
  · rw [subscriptions_rewired, newSubscriptions] at hold
    rw [nextKey_rewired hb]
    rcases List.mem_cons.mp hold with rfl | hselection
    · dsimp only
      rw [if_pos rfl]
      omega
    · rw [List.mem_singleton.mp hselection]
      dsimp only
      rw [nextKey_subscribe hb.1, if_pos rfl]
      omega

theorem hears_rewired (hw : w.Wired) (hb : w.Offers b) : (w.rewired b).Hears b := by
  refine ⟨?_, fun c => ?_, ?_⟩
  · rw [Offers, length_rewired]
    exact hb
  · rw [audience_eq, registrations_rewired hw hb, map_snd_newRegistrations]
  · rw [subscriptions_rewired]
    rfl

/-! ## A new channel -/

theorem getElem?_openChannel (w : Widget α) (c : Nat) : w.openChannel.1.channels[c]? =
    if c = w.channels.length then some ({} : Channel Listener) else w.channels[c]? := by
  show (w.channels ++ [({} : Channel Listener)])[c]? = _
  rw [List.getElem?_append]
  split
  · next hlt => rw [if_neg (Nat.ne_of_lt hlt)]
  · next hge =>
    split
    · next heq => rw [heq, Nat.sub_self, List.getElem?_cons_zero]
    · next hne => rw [List.getElem?_eq_none (by simp only [List.length_singleton]; omega),
        List.getElem?_eq_none (Nat.le_of_not_lt hge)]

/-- A new channel is like one that is not there. -/
theorem read_openChannel {β : Type} (f : Channel Listener → β) (w : Widget α) (c : Nat) :
    ((w.openChannel.1.channels[c]?).map f).getD (f {}) = ((w.channels[c]?).map f).getD (f {}) := by
  rw [getElem?_openChannel]
  split
  · next heq =>
    rw [heq, List.getElem?_eq_none (Nat.le_refl _)]
    rfl
  · rfl

theorem registrations_openChannel (w : Widget α) (c : Nat) :
    w.openChannel.1.registrations c = w.registrations c := read_openChannel Channel.subscribers w c

theorem nextKey_openChannel (w : Widget α) (c : Nat) :
    w.openChannel.1.nextKey c = w.nextKey c := read_openChannel Channel.nextKey w c

theorem length_openChannel (w : Widget α) :
    w.openChannel.1.channels.length = w.channels.length + 1 := List.length_append

theorem wired_openChannel (hw : w.Wired) : w.openChannel.1.Wired := by
  refine ⟨fun c x hx => ?_, fun old hold => ?_, hw.idle⟩
  · rw [registrations_openChannel] at hx
    exact hw.held c x hx
  · rw [nextKey_openChannel]
    exact hw.given old hold

theorem hears_openChannel (hw : w.Hears b) : w.openChannel.1.Hears b := by
  refine ⟨?_, fun c => ?_, hw.subscriptions⟩
  · rw [Offers, length_openChannel]
    exact ⟨Nat.lt_succ_of_lt hw.offered.1, Nat.lt_succ_of_lt hw.offered.2⟩
  · rw [audience_eq, registrations_openChannel, ← audience_eq]
    exact hw.audience c

/-! ## What leaves the wiring -/

variable [Scalar α]

theorem lasting_wiring (w : Widget α) : Lasting fun w' : Widget α => w'.wiring = w.wiring :=
  ⟨fun _ _ _ h => h, fun _ _ h => h, fun _ _ h => h⟩

theorem busy_setText (w : Widget α) (text : String) : (w.setText text).1.busy = w.busy :=
  congrArg (·.2.2) ((lasting_wiring w).setText rfl text)

theorem deliver_focusNode (hidle : w.busy = false) (text : String) :
    w.deliver text .focusNode = (w.focus text).1 :=
  if_neg (ne_true_of_eq_false hidle)

/-- While the simulation is lent out, that is what is noticed, and nothing else changes. -/
theorem wiring_publishMidFrame (w : Widget α) (channel : Nat) (text : String) :
    (w.publishMidFrame channel text).wiring = w.wiring := by
  have hkept : ({ w with busy := true }.publish channel text).wiring =
      { w with busy := true }.wiring := (lasting_wiring _).publish rfl channel text
  have hchannels : ({ w with busy := true }.publish channel text).channels = w.channels :=
    congrArg Prod.fst hkept
  have hsubscriptions : ({ w with busy := true }.publish channel text).subscriptions =
      w.subscriptions := congrArg (·.2.1) hkept
  simp only [wiring, publishMidFrame, hchannels, hsubscriptions]

theorem hearsNewest_attach (hw : w.Wired) (hb : w.Offers b) (bs : List Bridge) :
    (w.attach b).HearsNewest (b :: bs) := by
  have hwiring : (w.attach b).wiring = (w.rewired b).wiring := by
    rw [attach_eq hb]
    exact (lasting_wiring (w.rewired b)).loadInitial rfl b
  have hhears : (w.attach b).Hears b := (hears_rewired hw hb).congr hwiring
  refine ⟨(wired_rewired hw hb).congr hwiring, fun b' hb' => ?_⟩
  rw [← Option.some.inj hb']
  exact hhears

/-- A host value becomes a bridge with two channels of its own. -/
theorem wired_bridgeOfHost (hw : w.Wired) (number : Nat) (host : HostValue) :
    (w.bridgeOfHost number host).1.Wired ∧
      (w.bridgeOfHost number host).1.Offers (w.bridgeOfHost number host).2.1 := by
  have hlasting := lasting_wiring w.openChannel.1.openChannel.1
  have hwiring : (w.bridgeOfHost number host).1.wiring = w.openChannel.1.openChannel.1.wiring :=
    hlasting.connect (hlasting.connect rfl _ _ _) _ _ _
  refine ⟨(wired_openChannel (wired_openChannel hw)).congr hwiring, ?_⟩
  have hlength : (w.bridgeOfHost number host).1.channels.length = w.channels.length + 2 := by
    have hchannels : (w.bridgeOfHost number host).1.channels =
        w.openChannel.1.openChannel.1.channels := congrArg Prod.fst hwiring
    rw [hchannels]
    exact (length_openChannel _).trans (congrArg (· + 1) (length_openChannel w))
  have hgraph : (w.bridgeOfHost number host).2.1.graphChannel = w.channels.length := rfl
  have hselection : (w.bridgeOfHost number host).2.1.selectionChannel = w.channels.length + 1 :=
    length_openChannel w
  rw [Offers, hlength, hgraph, hselection]
  omega

end Wiring

/-! ## One host after the other -/

variable [Scalar α]

/-- What can come of a widget, with the bridges that it has been connected to, newest first. In
between anything may happen to the simulation, and hosts may be called. -/
inductive Attached : Widget α → List Bridge → Prop where
  | new (settings : Settings α) : Attached (Widget.new settings) []
  | openChannel {w : Widget α} {bs : List Bridge} (hw : Attached w bs) : Attached w.openChannel.1 bs
  | attach {w : Widget α} {bs : List Bridge} (hw : Attached w bs) {b : Bridge} (hb : w.Offers b) :
    Attached (w.attach b) (b :: bs)
  | attachHost {w : Widget α} {bs : List Bridge} (hw : Attached w bs) (number : Nat)
    (host : HostValue) :
    Attached (w.attachHost number host).1 ((w.attachHost number host).2.1 :: bs)
  | publish {w : Widget α} {bs : List Bridge} (hw : Attached w bs) (channel : Nat) (text : String) :
    Attached (w.publish channel text) bs
  | publishMidFrame {w : Widget α} {bs : List Bridge} (hw : Attached w bs) (channel : Nat)
    (text : String) : Attached (w.publishMidFrame channel text) bs
  | call {w : Widget α} {bs : List Bridge} (hw : Attached w bs) (b : Bridge) (r : Routine)
    (arguments : List String) : Attached (w.call b r arguments) bs
  | update {w : Widget α} {bs : List Bridge} (hw : Attached w bs)
    (f : Simulation α → Simulation α) : Attached (w.update f) bs

theorem wired_new (settings : Settings α) : (Widget.new settings).Wired :=
  ⟨fun _ _ hx => absurd hx List.not_mem_nil, fun _ hold => absurd hold List.not_mem_nil, rfl⟩

theorem Attached.hearsNewest {w : Widget α} {bs : List Bridge} (hw : Attached w bs) :
    w.HearsNewest bs := by
  induction hw with
  | new settings => exact ⟨wired_new settings, fun b hb => absurd hb.symm (Option.some_ne_none b)⟩
  | openChannel _ ih => exact ⟨wired_openChannel ih.1, fun b hb => hears_openChannel (ih.2 b hb)⟩
  | attach _ hb ih => exact hearsNewest_attach ih.1 hb _
  | attachHost _ number host ih =>
    obtain ⟨hwired, hoffers⟩ := wired_bridgeOfHost ih.1 number host
    exact hearsNewest_attach hwired hoffers _
  | @publish w _ _ channel text ih => exact ih.congr ((lasting_wiring w).publish rfl channel text)
  | @publishMidFrame w _ _ channel text ih => exact ih.congr (wiring_publishMidFrame w channel text)
  | @call w _ _ b r arguments ih => exact ih.congr ((lasting_wiring w).call rfl b r arguments)
  | update _ f ih => exact ih.congr rfl

/-- Whatever hosts the widget has been connected to, over channels of their own or shared ones, and
whatever has been published meanwhile: it listens to the two channels of the newest, once to each,
and to no other. What is published on another channel does nothing, also if it is that of an older
host; what is published on those two is loaded or focused once. -/
theorem Attached.newest_heard {w : Widget α} {b : Bridge} {bs : List Bridge}
    (hw : Attached w (b :: bs)) :
    (∀ c, w.audience c = listeners b c) ∧
      w.subscriptions.map Prod.fst = [b.graphChannel, b.selectionChannel] ∧
      (∀ c, c ≠ b.graphChannel → c ≠ b.selectionChannel →
        w.subscriberCount c = 0 ∧ ∀ text, w.publish c text = w) ∧
      w.busy = false ∧
      (b.graphChannel ≠ b.selectionChannel →
        w.subscriberCount b.graphChannel = 1 ∧ w.subscriberCount b.selectionChannel = 1 ∧
        ∀ text, w.publish b.graphChannel text = (w.setText text).1 ∧
          w.publish b.selectionChannel text = (w.focus text).1) ∧
      (b.graphChannel = b.selectionChannel →
        w.subscriberCount b.graphChannel = 2 ∧
        ∀ text, w.publish b.graphChannel text = ((w.setText text).1.focus text).1) := by
  obtain ⟨hwired, hheard⟩ := hw.hearsNewest
  have hears : w.Hears b := hheard b rfl
  have hcount (c : Nat) : w.subscriberCount c = (listeners b c).length := by
    rw [← hears.audience, subscriberCount_eq, audience_eq, List.length_map]
  have hpublish (c : Nat) (text : String) :
      w.publish c text = (listeners b c).foldl (deliver text) w := by
    rw [Widget.publish, hears.audience]
  refine ⟨hears.audience, hears.subscriptions, fun c hgraph hselection => ?_, hwired.idle,
    fun hne => ?_, fun heq => ?_⟩
  · rw [hcount, listeners_other hgraph hselection]
    refine ⟨rfl, fun text => ?_⟩
    rw [hpublish, listeners_other hgraph hselection]
    rfl
  · rw [hcount, hcount, listeners_graph hne, listeners_selection hne]
    refine ⟨rfl, rfl, fun text => ?_⟩
    rw [hpublish, hpublish, listeners_graph hne, listeners_selection hne]
    exact ⟨rfl, deliver_focusNode hwired.idle text⟩
  · rw [hcount, listeners_shared heq]
    refine ⟨rfl, fun text => ?_⟩
    rw [hpublish, listeners_shared heq]
    exact deliver_focusNode ((busy_setText w text).trans hwired.idle) text

/-- Two hosts that share their channel of graphs, and each have a channel of selections. -/
def firstHost : Bridge := { number := 0, graphChannel := 0, selectionChannel := 1 }

def secondHost : Bridge := { number := 1, graphChannel := 0, selectionChannel := 2 }

def threeChannels : Widget Float :=
  (Widget.new Settings.standard).openChannel.1.openChannel.1.openChannel.1

def takenOver : Widget Float := (threeChannels.attach firstHost).attach secondHost

theorem attached_takenOver : Attached takenOver [secondHost, firstHost] := by
  have hthree : Attached threeChannels [] := .openChannel (.openChannel (.openChannel (.new _)))
  have hfirst : Attached (threeChannels.attach firstHost) [firstHost] :=
    .attach hthree ⟨by decide, by decide⟩
  exact .attach hfirst ⟨by decide, by decide⟩

/-- The second host takes the shared channel over: whoever listened there for the first is gone. -/
theorem newest_heard_takenOver : Attached takenOver [secondHost, firstHost] ∧
    takenOver.audience 0 = [.loadGraph] ∧ takenOver.audience 2 = [.focusNode] ∧
    takenOver.subscriberCount 1 = 0 ∧ ∀ text, takenOver.publish 1 text = takenOver := by
  obtain ⟨haudience, -, hsilent, -⟩ := attached_takenOver.newest_heard
  obtain ⟨hcount, hpublish⟩ := hsilent 1 (by decide) (by decide)
  exact ⟨attached_takenOver, haudience 0, haudience 2, hcount, hpublish⟩

end NodeLink.Widget
