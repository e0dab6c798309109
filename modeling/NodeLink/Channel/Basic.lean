/-!
# Channels

Subscribers to one kind of news, in the order they came. Each has a key of its own, which is never
given out again, so cancelling one subscription cannot touch another.
-/

namespace NodeLink

/-- A channel whose subscribers are described by `κ`. -/
structure Channel (κ : Type) where
  nextKey : Nat := 0
  -- The subscribers with their keys, oldest first.
  subscribers : List (Nat × κ) := []
deriving Inhabited

namespace Channel

variable {κ : Type}

def subscribe (c : Channel κ) (k : κ) : Channel κ × Nat :=
  ({ nextKey := c.nextKey + 1, subscribers := c.subscribers ++ [(c.nextKey, k)] }, c.nextKey)

def cancel (c : Channel κ) (key : Nat) : Channel κ :=
  { c with subscribers := c.subscribers.filter fun s => s.1 != key }

/-- Those who are told what is published now. -/
def audience (c : Channel κ) : List κ := c.subscribers.map Prod.snd

def count (c : Channel κ) : Nat := c.subscribers.length

theorem audience_subscribe (c : Channel κ) (k : κ) :
    (c.subscribe k).1.audience = c.audience ++ [k] := by
  simp only [subscribe, audience, List.map_append, List.map_cons, List.map_nil]

end Channel
end NodeLink
