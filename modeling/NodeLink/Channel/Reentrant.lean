import NodeLink.Channel.Basic
/-!
# Channels used from within

A subscriber may itself subscribe others, cancel subscriptions and publish while it is being told
something. This module runs such subscribers. What is published reaches everyone who was subscribed
at that moment, in order, also those that are cancelled meanwhile, and none who come later.

A subscriber may also own handles, its own or others', which are dropped when it is destroyed. It
is destroyed when it is neither subscribed nor held by a publication any more. If that is because
its subscription is cancelled, then the list of subscribers is still in use, and a handle that is
dropped now cannot have it changed once more: this fails, and nothing is done after it.

The work still to be done is a stack: what a subscriber does when it is told something is done
before the next subscriber is told. Every subscriber reacts finitely often in ways of its own, so
the work always ends.
-/

namespace NodeLink.Channel

/-- Something done with a channel. Handles are numbered in the order they were kept, and subscribers
in the order they came. -/
inductive Act (ν : Type) where
  -- Subscribes under a name. Each time it is told something the subscriber drops the handles
  -- `drops`; the first time it also does the first of `reactions`, and so on. The handle of the
  -- subscription is kept, or else the subscription stays for good.
  | subscribe (name : ν) (drops : List Nat) (reactions : List (List (Act ν))) (keep : Bool)
  -- Drops a handle, which ends its subscription.
  | drop (handle : Nat)
  -- Gives up a handle; its subscription stays for good.
  | detach (handle : Nat)
  | publish (value : String)
  -- Makes a handle the property of a subscriber.
  | entrust (handle subscriber : Nat)

/-- One subscriber: its name, and how it reacts from now on. -/
structure Subscriber (ν : Type) where
  name : ν
  drops : List Nat
  reactions : List (List (Act ν))

/-- A handle that is held, with the key of its subscription. -/
structure Handle where
  key : Nat
  -- The subscriber that owns it; none if it is kept anywhere else.
  owner : Option Nat := none

/-- Something to be done: an act, telling a subscriber something, or letting go of one that has been
told. -/
inductive Task (ν : Type) where
  | act (a : Act ν)
  | tell (subscriber : Nat) (value : String)
  | release (subscriber : Nat)

/-- A channel with all its subscribers, the handles that are held, and who was told what. -/
structure Room (ν : Type) where
  -- The channel, whose subscribers are numbers of `subscribers`; none once it is closed.
  channel : Option (Channel Nat) := some {}
  subscribers : List (Subscriber ν) := []
  -- None stands for a handle that is no longer held.
  handles : List (Option Handle) := []
  -- Whom publications hold, because they are telling it something or have still to do so.
  inUse : List Nat := []
  -- Who was told what, newest first.
  told : List (ν × String) := []
  failed : Bool := false

namespace Room

variable {ν : Type}

/-- The numbers of those who are subscribed. -/
def audience (r : Room ν) : List Nat := (r.channel.map Channel.audience).getD []

def handle? (r : Room ν) (handle : Nat) : Option Handle := (r.handles[handle]?).join

def keyOf? (r : Room ν) (handle : Nat) : Option Nat := (r.handle? handle).map Handle.key

def ownerOf? (r : Room ν) (handle : Nat) : Option Nat := (r.handle? handle).bind Handle.owner

/-- All handles that subscribers own. -/
def owned (r : Room ν) : List Nat :=
  (List.range r.handles.length).filter fun h => (r.ownerOf? h).isSome

def ownedBy (r : Room ν) (number : Nat) : List Nat :=
  r.owned.filter fun h => r.ownerOf? h = some number

/-- Those that have not been destroyed: they are subscribed or a publication holds them. -/
def present (r : Room ν) : List Nat := r.audience ++ r.inUse

/-- Takes the subscriber of a key off the list. Unless a publication holds it, it is destroyed on
the spot, and this fails if it owns a handle. -/
def cancelKey (r : Room ν) (key : Nat) : Room ν :=
  match r.channel with
  | none => r
  | some c =>
    { r with
      channel := some (c.cancel key)
      failed := r.failed || (c.subscribers.lookup key).any fun number =>
        number ∉ r.inUse && !(r.ownedBy number).isEmpty }

def forget (r : Room ν) (handle : Nat) : Room ν := { r with handles := r.handles.set handle none }

def dropHandle (r : Room ν) (handle : Nat) : Room ν :=
  match r.keyOf? handle with
  | some key => (r.forget handle).cancelKey key
  | none => r

/-- Drops handles one after another, until that fails; also those that were dropped. -/
def dropAll (r : Room ν) : List Nat → Room ν × List Nat
  | [] => (r, [])
  | h :: rest =>
    if r.failed then (r, [])
    else
      let (r, done) := (r.dropHandle h).dropAll rest
      (r, h :: done)

/-- Makes a handle the property of a subscriber, if the one is held and the other is there. -/
def entrust (r : Room ν) (handle number : Nat) : Room ν :=
  match r.handle? handle with
  | some h =>
    if number ∈ r.present then
      { r with handles := r.handles.set handle (some { h with owner := some number }) }
    else r
  | none => r

/-- A publication lets go of a subscriber. If that was the last hold on it, it is destroyed, and
the handles that it owns are dropped; also those that were. -/
def release (r : Room ν) (number : Nat) : Room ν × List Nat :=
  let r := { r with inUse := r.inUse.erase number }
  if number ∈ r.present then (r, []) else r.dropAll (r.ownedBy number)

/-- Adds a subscriber; a closed channel has none. -/
def addSubscriber (r : Room ν) (s : Subscriber ν) (keep : Bool) : Room ν :=
  match r.channel with
  | none => r
  | some c =>
    let (c, key) := c.subscribe r.subscribers.length
    { r with
      channel := some c
      subscribers := r.subscribers ++ [s]
      handles := if keep then r.handles ++ [some ⟨key, none⟩] else r.handles }

/-! ## Running -/

mutual

def weight : Act ν → Nat
  | .subscribe _ _ reactions _ => 1 + reactionsWeight reactions
  | _ => 1

def actsWeight : List (Act ν) → Nat
  | [] => 0
  | a :: rest => weight a + actsWeight rest

def reactionsWeight : List (List (Act ν)) → Nat
  | [] => 0
  | r :: rest => 1 + actsWeight r + reactionsWeight rest

end

def tasksWeight : List (Task ν) → Nat
  | [] => 0
  | .act a :: rest => weight a + tasksWeight rest
  | .tell _ _ :: rest => tasksWeight rest
  | .release _ :: rest => tasksWeight rest

def subscribersWeight : List (Subscriber ν) → Nat
  | [] => 0
  | s :: rest => reactionsWeight s.reactions + subscribersWeight rest

/-- What a room can still do by itself. -/
def workLeft (r : Room ν) (tasks : List (Task ν)) : Nat :=
  subscribersWeight r.subscribers + tasksWeight tasks

/-- The length of a stack, where telling counts for letting go as well. -/
def tasksSize : List (Task ν) → Nat
  | [] => 0
  | .tell _ _ :: rest => tasksSize rest + 2
  | _ :: rest => tasksSize rest + 1

/-- Carries out one act, and the tasks that follow from it at once. -/
def perform (r : Room ν) : Act ν → Room ν × List (Task ν)
  | .subscribe name drops reactions keep => (r.addSubscriber ⟨name, drops, reactions⟩ keep, [])
  | .drop handle => (r.dropHandle handle, [])
  | .detach handle => (r.forget handle, [])
  | .publish value =>
    ({ r with inUse := r.audience ++ r.inUse }, r.audience.map fun s => .tell s value)
  | .entrust handle number => (r.entrust handle number, [])

/-- Tells a subscriber something: it drops handles, this is noted, and its next reaction follows. -/
def tell (r : Room ν) (number : Nat) (value : String) : Room ν × List (Task ν) :=
  match r.subscribers[number]? with
  | none => (r, [.release number])
  | some s =>
    let (r, _) := r.dropAll s.drops
    ({ r with
        told := (s.name, value) :: r.told
        subscribers := r.subscribers.set number { s with reactions := s.reactions.tail } },
      (s.reactions.headD []).map .act ++ [.release number])

def carryOut (r : Room ν) : Task ν → Room ν × List (Task ν)
  | .act a => r.perform a
  | .tell number value => r.tell number value
  | .release number => ((r.release number).1, [])

/-- Only the channel and its handles may differ. -/
structure Spares (r r' : Room ν) : Prop where
  subscribers : r'.subscribers = r.subscribers
  inUse : r'.inUse = r.inUse
  told : r'.told = r.told

theorem Spares.refl (r : Room ν) : r.Spares r := ⟨rfl, rfl, rfl⟩

theorem Spares.trans {r r' r'' : Room ν} (h : r.Spares r') (h' : r'.Spares r'') : r.Spares r'' :=
  ⟨h'.subscribers.trans h.subscribers, h'.inUse.trans h.inUse, h'.told.trans h.told⟩

theorem spares_cancelKey (r : Room ν) (key : Nat) : r.Spares (r.cancelKey key) := by
  unfold cancelKey
  split
  · exact .refl r
  · exact ⟨rfl, rfl, rfl⟩

theorem spares_dropHandle (r : Room ν) (h : Nat) : r.Spares (r.dropHandle h) := by
  unfold dropHandle
  split
  · next key _ =>
    have hforget : r.Spares (r.forget h) := ⟨rfl, rfl, rfl⟩
    exact hforget.trans ((r.forget h).spares_cancelKey key)
  · exact .refl r

theorem spares_dropAll (r : Room ν) (hs : List Nat) : r.Spares (r.dropAll hs).1 := by
  induction hs generalizing r with
  | nil => exact .refl r
  | cons h rest ih =>
    rw [dropAll]
    split
    · exact .refl r
    · exact (r.spares_dropHandle h).trans (ih _)

theorem spares_entrust (r : Room ν) (handle number : Nat) : r.Spares (r.entrust handle number) := by
  unfold entrust
  split
  · split
    · exact ⟨rfl, rfl, rfl⟩
    · exact .refl r
  · exact .refl r

/-- The publication that lets go of a subscriber held it once. -/
theorem spares_release (r : Room ν) (number : Nat) :
    ({ r with inUse := r.inUse.erase number } : Room ν).Spares (r.release number).1 := by
  unfold release
  dsimp only
  split
  · exact .refl _
  · exact spares_dropAll _ _

theorem tasksWeight_append (a b : List (Task ν)) :
    tasksWeight (a ++ b) = tasksWeight a + tasksWeight b := by
  induction a with
  | nil => simp [tasksWeight]
  | cons t rest ih =>
    cases t with
    | act a =>
      simp only [List.cons_append, tasksWeight, ih]
      omega
    | tell | release => simp only [List.cons_append, tasksWeight, ih]

theorem tasksWeight_acts (as : List (Act ν)) : tasksWeight (as.map .act) = actsWeight as := by
  induction as with
  | nil => rfl
  | cons a rest ih => simp [tasksWeight, actsWeight, ih]

theorem tasksWeight_tells (ns : List Nat) (value : String) :
    tasksWeight (ns.map fun s => (Task.tell s value : Task ν)) = 0 := by
  induction ns with
  | nil => rfl
  | cons n rest ih => simpa [tasksWeight] using ih

theorem subscribersWeight_append (a b : List (Subscriber ν)) :
    subscribersWeight (a ++ b) = subscribersWeight a + subscribersWeight b := by
  induction a with
  | nil => simp [subscribersWeight]
  | cons s rest ih => simp [subscribersWeight, ih]; omega

theorem subscribersWeight_set {subs : List (Subscriber ν)} {n : Nat} {s : Subscriber ν}
    (hs : subs[n]? = some s) (t : Subscriber ν) :
    subscribersWeight (subs.set n t) + reactionsWeight s.reactions =
      subscribersWeight subs + reactionsWeight t.reactions := by
  induction subs generalizing n with
  | nil => simp at hs
  | cons first rest ih =>
    cases n with
    | zero =>
      obtain rfl : first = s := Option.some.inj hs
      simp only [List.set_cons_zero, subscribersWeight]
      omega
    | succ n =>
      have hrest := ih (n := n) hs
      simp only [List.set_cons_succ, subscribersWeight]
      omega

theorem workLeft_perform (r : Room ν) (a : Act ν) (rest : List (Task ν)) :
    workLeft (r.perform a).1 ((r.perform a).2 ++ rest) < workLeft r (.act a :: rest) := by
  cases a with
  | subscribe name drops reactions keep =>
    simp only [perform, addSubscriber, workLeft, List.nil_append, tasksWeight]
    split
    · simp only [weight]
      omega
    · simp [weight, subscribersWeight_append, subscribersWeight]
      omega
  | drop handle =>
    simp [perform, workLeft, tasksWeight, (r.spares_dropHandle handle).subscribers, weight]
  | detach handle => simp [perform, workLeft, tasksWeight, forget, weight]
  | publish value =>
    simp only [perform, workLeft, tasksWeight, tasksWeight_append, tasksWeight_tells, weight]
    omega
  | entrust handle number =>
    simp [perform, workLeft, tasksWeight, (r.spares_entrust handle number).subscribers, weight]

/-- Telling a subscriber something uses up work, if it has a reaction left. -/
theorem workLeft_tell (r : Room ν) (n : Nat) (value : String) (rest : List (Task ν)) :
    workLeft (r.tell n value).1 ((r.tell n value).2 ++ rest) < workLeft r (.tell n value :: rest) ∨
      workLeft (r.tell n value).1 ((r.tell n value).2 ++ rest) =
        workLeft r (.tell n value :: rest) ∧ (r.tell n value).2 = [.release n] := by
  unfold tell
  split
  · exact .inr ⟨rfl, rfl⟩
  · rename_i s hs
    obtain ⟨name, drops, reactions⟩ := s
    have hset := subscribersWeight_set hs ⟨name, drops, reactions.tail⟩
    simp only [workLeft, tasksWeight, tasksWeight_append, tasksWeight_acts,
      (r.spares_dropAll drops).subscribers]
    cases reactions with
    | nil =>
      refine .inr ⟨?_, rfl⟩
      simp only [List.tail_nil, List.headD_nil, actsWeight] at hset ⊢
      omega
    | cons next later =>
      refine .inl ?_
      simp only [List.tail_cons, List.headD_cons, reactionsWeight] at hset ⊢
      omega

/-- Every task uses up work, or makes the stack smaller. -/
theorem workLeft_carryOut (r : Room ν) (t : Task ν) (rest : List (Task ν)) :
    workLeft (r.carryOut t).1 ((r.carryOut t).2 ++ rest) < workLeft r (t :: rest) ∨
      workLeft (r.carryOut t).1 ((r.carryOut t).2 ++ rest) = workLeft r (t :: rest) ∧
        tasksSize ((r.carryOut t).2 ++ rest) < tasksSize (t :: rest) := by
  cases t with
  | act a => exact .inl (r.workLeft_perform a rest)
  | tell n value =>
    refine (r.workLeft_tell n value rest).imp_right fun ⟨heq, htasks⟩ => ⟨heq, ?_⟩
    rw [carryOut, htasks]
    exact Nat.lt_succ_self _
  | release n =>
    refine .inr ⟨?_, Nat.lt_succ_self _⟩
    simp only [carryOut, workLeft, (r.spares_release n).subscribers, List.nil_append, tasksWeight]

/-- Does all the work, or as much of it as can be done before something fails. -/
def work (r : Room ν) : List (Task ν) → Room ν
  | [] => r
  | t :: rest => if r.failed then r else work (r.carryOut t).1 ((r.carryOut t).2 ++ rest)
termination_by tasks => (workLeft r tasks, tasksSize tasks)
decreasing_by
  rcases r.workLeft_carryOut t rest with h | ⟨heq, hsize⟩
  · exact Prod.Lex.left _ _ h
  · rw [heq]
    exact Prod.Lex.right _ hsize

/-- Does something from outside, with all that follows from it. -/
def run (r : Room ν) (a : Act ν) : Room ν := r.work [.act a]

/-- The channel is gone, and its subscribers with it. To drop the handles that they owned has no
effect any more, and neither has any other handle that is still held. -/
def closeWith (r : Room ν) : Room ν × List Nat :=
  ({ r with channel := none } : Room ν).dropAll r.owned

def close (r : Room ν) : Room ν := r.closeWith.1

/-- The number of subscriptions, none once the channel is closed. -/
def count? (r : Room ν) : Option Nat := r.channel.map Channel.count

def takeTold (r : Room ν) : Room ν × List (ν × String) := ({ r with told := [] }, r.told.reverse)

end Room
end NodeLink.Channel
