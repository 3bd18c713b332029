/-!
# Channels

A channel hands every item that is published on it to its subscribers, in the order in which they
subscribed. A subscriber may be registered more than once; cancelling a subscription takes the
first registration of that subscriber away, and does nothing when there is none.

Mirroring notes:
- `Channel` is `Subject`, `subscribe` and `publish` are its methods, `count` is `subscriber_count`,
  and `cancel` is the function that `subscribe` hands back. That function holds the callback and not
  its place in the list, so a registration is known by its subscriber alone: called a second time,
  it takes another registration of an equal callback away.
- `publish` goes through a copy of the list, made when it begins; a value that does not change is
  that copy.
- The lock of `Subject` has no counterpart: registrations change one after the other.
-/

namespace Walkthrough

/-- The subscribers of a channel, in the order in which they subscribed. -/
structure Channel (Subscriber : Type) where
  subscribers : List Subscriber := []
  deriving Repr

namespace Channel

variable {Subscriber : Type}

/-- Registers a subscriber. -/
def subscribe (c : Channel Subscriber) (s : Subscriber) : Channel Subscriber :=
  ⟨c.subscribers ++ [s]⟩

/-- Takes the first registration of a subscriber away. -/
def cancel [BEq Subscriber] (c : Channel Subscriber) (s : Subscriber) : Channel Subscriber :=
  ⟨c.subscribers.erase s⟩

/-- How many registrations there are. -/
def count (c : Channel Subscriber) : Nat := c.subscribers.length

/-- Delivers an item to every registration in turn. Registrations that change meanwhile do not
count, and the first delivery that fails is the last. -/
def publish {m : Type → Type} [Monad m] (c : Channel Subscriber) (deliver : Subscriber → m Unit) :
    m Unit :=
  c.subscribers.forM deliver

theorem cancel_of_not_mem [BEq Subscriber] [LawfulBEq Subscriber] {c : Channel Subscriber}
    {s : Subscriber} (h : s ∉ c.subscribers) : c.cancel s = c := by
  simp [cancel, List.erase_of_not_mem h]

end Channel

end Walkthrough
