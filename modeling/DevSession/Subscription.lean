import DevSession.Event

/-!
# Subscriptions

Those who listen to a handle (`Engine::subscribe`) get its events through a buffer. When they do not
look in time the oldest events are lost, and they are told how many.

* `Subscription`: a buffer with what is waiting in it.
* `Subscription.take`: how many events were lost, and the events that are left.
-/

namespace DevSession

/-- A buffer with what is waiting in it. -/
structure Subscription where
  /-- How many events the buffer holds. -/
  capacity : Nat
  /-- What has been sent since the last look. -/
  waiting : List Event := []

namespace Subscription

/-- The least power of two that is not below `n`, found by doubling from `power`. -/
def doubleTo (n : Nat) : Nat → Nat → Nat
  | 0, power => power
  | fuel + 1, power => if n ≤ power then power else doubleTo n fuel (2 * power)

/-- A buffer for at least `capacity` events and at least one; its size is a power of two. -/
def ofCapacity (capacity : Nat) : Subscription :=
  { capacity := doubleTo capacity 64 1 }

/-- The subscription with events sent to it. -/
def send (s : Subscription) (events : List Event) : Subscription :=
  { s with waiting := s.waiting ++ events }

/-- How many events were lost since the last look, and those that are left. -/
def take (s : Subscription) : Nat × List Event :=
  let lost := s.waiting.length - s.capacity
  (lost, s.waiting.drop lost)

/-- The subscription after a look. -/
def clear (s : Subscription) : Subscription :=
  { s with waiting := [] }

end Subscription

end DevSession
