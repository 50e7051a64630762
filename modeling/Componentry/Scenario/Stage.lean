import Componentry.Scenario.Answer
import Componentry.Switchboard

/-!
# The stage of a scenario

Everything around the platform while a scenario is performed: a registry and a host
in memory, the event channel with its one subscriber, the hooks with the calls that
they count, the journal, and what the names of the scenario stand for.
-/

namespace Componentry.Scenario

/-- A component of the scenario with the handlers that it was last configured with. -/
structure Actor where
  component : Ref .component
  handlers : List Handler

namespace Actor

/-- The first handler that is a provider. -/
def provider? (actor : Actor) : Option (Ref .provider) :=
  actor.handlers.findSome? Handler.provider?

/-- The first handler that is a configurator. -/
def configurator? (actor : Actor) : Option (Ref .configurator) :=
  actor.handlers.findSome? Handler.configurator?

/-- The first handler that is a caller. -/
def caller? (actor : Actor) : Option (Ref .caller) :=
  actor.handlers.findSome? Handler.caller?

/-- The first handler of a role. -/
def handler? (actor : Actor) : Role → Option Handler
  | .provider => actor.provider?.map .provider
  | .configurator => actor.configurator?.map .configurator
  | .caller => actor.caller?.map .caller

end Actor

/-- A guest of a component. -/
structure Guest where
  plan : GuestPlan Action
  /-- The name of the component that the guest belongs to. -/
  owner : String
  ready : Bool
  /-- The occasions so far. -/
  occasions : List Occasion

/-- Whether a guest goes by a name. Guests that only register do not. -/
def Guest.isCalled (name : String) (guest : Guest) : Bool :=
  guest.plan.name == name && !guest.plan.silent

/-- The body of a method. -/
structure Body where
  method : String
  /-- The name of the component that the method belongs to. -/
  owner : String
  script : Script
  runs : Nat

/-- The surroundings of the platform of a scenario. -/
structure Stage where
  /-- The name of the component that is meant where no script names one. -/
  protagonist : String
  registry : Registry
  host : Host Target
  channel : Channel Event
  hooks : List Hook
  /-- The calls of collaborators so far, newest first. -/
  calls : List Call
  /-- What has happened in the current step, newest first. -/
  journal : List Entry
  actors : Dictionary Actor
  guests : List Guest
  bodies : List Body
  services : Dictionary (Ref .service)
  properties : Dictionary (Ref .property)
  holders : Dictionary ServiceProperty
  surfaces : Dictionary Surface
  switchboard : Switchboard Event
  /-- What each receiver of configurations has received. -/
  received : Dictionary (List (Option Properties))

namespace Stage

/-- The name of the one subscriber of the platform's events. -/
def audience : String := "audience"

/-- The stage before the first step. -/
def initial (settings : Settings) (protagonist : String) (hooks : List Hook) : Stage where
  protagonist := protagonist
  registry := .empty
  host := .empty
  channel := (Channel.ofCapacity settings.eventCapacity).subscribe audience
  hooks := hooks
  calls := []
  journal := []
  actors := .empty
  guests := []
  bodies := []
  services := .empty
  properties := .empty
  holders := .empty
  surfaces := .empty
  switchboard := .empty
  received := .empty

/-- Add an entry to the journal. -/
def enter (entry : Entry) (stage : Stage) : Stage :=
  { stage with journal := entry :: stage.journal }

/-- Count a call of a collaborator. -/
def count (call : Call) (stage : Stage) : Stage := { stage with calls := call :: stage.calls }

/-- How often a collaborator has been called. -/
def callsOf (call : Call) (stage : Stage) : Nat := stage.calls.count call

/-- The hooks on the latest call of a collaborator. -/
def hooksOn (call : Call) (after : Bool) (number : Nat) (stage : Stage) : List Hook :=
  stage.hooks.filter fun hook =>
    hook.call = call && hook.after == after && hook.nth.all (· = number)

/-- Change the guest of a number. -/
def changeGuest (number : Nat) (f : Guest → Guest) (stage : Stage) : Stage :=
  { stage with guests := stage.guests.modify number f }

/-- Change the body of a number. -/
def changeBody (number : Nat) (f : Body → Body) (stage : Stage) : Stage :=
  { stage with bodies := stage.bodies.modify number f }

/-- The number of the first guest of a name among the handlers of a component. -/
def guest? (actor : Actor) (name : String) (stage : Stage) : Option Nat :=
  (actor.handlers.filterMap Handler.guest?).find? fun number =>
    stage.guests[number]?.any (Guest.isCalled name)

/-- Let the first guest of a name among the handlers of a component be ready or not. -/
def setReady (actor : Actor) (name : String) (value : Bool) (stage : Stage) : Stage :=
  match stage.guest? actor name with
  | some number => stage.changeGuest number fun guest => { guest with ready := value }
  | none => stage

end Stage

/-- A computation on a platform with a stage around it. -/
abbrev Play (α : Type) : Type := Run Stage α

namespace Play

/-- The stage. -/
def stage : Play Stage := Run.surroundings

/-- Change the stage. -/
def change (f : Stage → Stage) : Play Unit := Run.changeSurroundings f

/-- Add an entry to the journal. -/
def enter (entry : Entry) : Play Unit := change (Stage.enter entry)

/-- The component of a name. -/
def actor? (id : String) : Play (Option Actor) := do return (← stage).actors.get? id

end Play

end Componentry.Scenario
