import Componentry.Channel

/-!
# Switchboards

A switchboard holds channels under names and decides who listens to which. A
subscriber listens to one channel at a time: when it subscribes anew it gives up the
channel before, with what it has not received from it.

A name stands for the channel that was opened last under it. A channel that has lost
its name is sent nothing any more, but its subscribers can still receive what was
sent before.
-/

namespace Componentry

/-- Channels under names. -/
structure Switchboard (α : Type) where
  /-- The channels in the order in which they were opened. -/
  channels : List (Channel α)
  /-- The numbers of the channels that the names stand for. -/
  names : Dictionary Nat

namespace Switchboard

variable {α : Type}

/-- A switchboard without channels. -/
def empty : Switchboard α := ⟨[], .empty⟩

instance : Inhabited (Switchboard α) := ⟨empty⟩

/-- The channel that a name stands for. -/
def channel? (board : Switchboard α) (name : String) : Option (Channel α) := do
  board.channels[← board.names.get? name]?

/-- Open a channel under a name. -/
def connect (board : Switchboard α) (name : String) (capacity : Nat) : Switchboard α where
  channels := board.channels ++ [.ofCapacity capacity]
  names := board.names.insert name board.channels.length

/-- Change the channel that a name stands for. -/
def change (board : Switchboard α) (name : String) (f : Channel α → Channel α) :
    Switchboard α :=
  match board.names.get? name with
  | none => board
  | some number => { board with channels := board.channels.modify number f }

/-- End the subscription of a subscriber, whichever channel it listens to. -/
def unsubscribe (board : Switchboard α) (subscriber : String) : Switchboard α :=
  { board with channels := board.channels.map (·.unsubscribe subscriber) }

/-- Subscribe to a channel and to no other. -/
def subscribe (board : Switchboard α) (name subscriber : String) : Switchboard α :=
  (board.unsubscribe subscriber).change name (·.subscribe subscriber)

/-- Send a message on the channel of a name. -/
def send (board : Switchboard α) (name : String) (message : α) : Switchboard α :=
  board.change name (·.send message)

/-- Receive all that is there for a subscriber. A channel that it does not listen to
is left as it is. -/
def receive (board : Switchboard α) (subscriber : String) : Delivery α × Switchboard α :=
  match board.channels.find? (·.hasSubscriber subscriber) with
  | none => (.nothing, board)
  | some channel =>
      ((channel.receive subscriber).1,
        { board with channels := board.channels.map fun other => (other.receive subscriber).2 })

end Switchboard

end Componentry
