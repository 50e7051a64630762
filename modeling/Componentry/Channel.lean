import Componentry.Dictionary

/-!
# Broadcast channels

Every subscriber receives each message that is sent while it is subscribed. The
channel holds only the newest messages; a subscriber that falls behind is told how
many it has missed and goes on with the oldest one held. A message that is sent
while there is no subscriber is lost.

The channel is kept as the whole sequence of messages with a place in it for each
subscriber, so that what is held follows from the capacity.
-/

namespace Componentry

/-- A broadcast channel. -/
structure Channel (α : Type) where
  /-- The number of messages held. -/
  capacity : Nat
  sent : List α
  /-- The number of messages that each subscriber is done with. -/
  places : Dictionary Nat

/-- What a subscriber receives: how many messages it has missed, and those that
follow. -/
structure Delivery (α : Type) where
  missed : Nat
  messages : List α

/-- The delivery where there is nothing to receive. -/
def Delivery.nothing {α : Type} : Delivery α := ⟨0, []⟩

namespace Channel

variable {α : Type}

/-- The least power of two that is not below a number. -/
def roundUp (n : Nat) : Nat := if n ≤ 1 then 1 else Nat.pow 2 ((n - 1).log2 + 1)

/-- A channel that holds at least a number of messages, and at least one. -/
def ofCapacity (capacity : Nat) : Channel α := ⟨roundUp capacity, [], .empty⟩

instance : Inhabited (Channel α) := ⟨ofCapacity 1⟩

/-- The number of subscribers. -/
def subscribers (channel : Channel α) : Nat := channel.places.size

/-- Whether there is a subscriber of a name. -/
def hasSubscriber (channel : Channel α) (name : String) : Bool := channel.places.contains name

/-- Subscribe; messages sent before are not received. -/
def subscribe (channel : Channel α) (name : String) : Channel α :=
  { channel with places := channel.places.insert name channel.sent.length }

/-- End a subscription. -/
def unsubscribe (channel : Channel α) (name : String) : Channel α :=
  { channel with places := channel.places.keep (· != name) }

/-- Send a message, if there is a subscriber. -/
def send (channel : Channel α) (message : α) : Channel α :=
  if channel.places.isEmpty then channel
  else { channel with sent := channel.sent ++ [message] }

/-- The place of the oldest message held. -/
def oldest (channel : Channel α) : Nat := channel.sent.length - channel.capacity

/-- What is there to receive from a place on. -/
def pending (channel : Channel α) (place : Nat) : Delivery α :=
  ⟨channel.oldest - place, channel.sent.drop (max place channel.oldest)⟩

/-- Receive all that is there for a subscriber. -/
def receive (channel : Channel α) (name : String) : Delivery α × Channel α :=
  match channel.places.get? name with
  | none => (.nothing, channel)
  | some place =>
      (channel.pending place,
        { channel with places := channel.places.insert name channel.sent.length })

end Channel

end Componentry
