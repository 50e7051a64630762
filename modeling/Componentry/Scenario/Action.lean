import Componentry.Descriptor.Component
import Componentry.Descriptor.Service
import Componentry.Event
import Componentry.Surface

/-!
# Actions of a scenario

A scenario exercises a platform by actions: on its components and their handlers, on
the registry and the host, and on objects that stand by themselves. Actions are
performed one by one, and the scripts of methods, guests and hooks are lists of them.

Everything that an action is about is named by the scenario itself; what the names
stand for is known on the stage.
-/

namespace Componentry.Scenario

/-- The kinds of handlers that belong to the library. -/
inductive Role
  | provider
  | configurator
  | caller
  deriving DecidableEq, Repr

/-- What is done with a component as a whole. -/
inductive ComponentAction
  | start
  | stop
  | checkValidity
  | setState (state : Validity)
  | setField (field : String) (value : Value)
  | getField (field : String)
  | state
  | handlerNames
  | surface
  | addSpecification (specification : String)
  | describe
  | classNames
  | method (name : String)
  | invoke (name : String) (declaredStatic : Bool)
  /-- Count the subscribers of the platform that the component is on. -/
  | subscribers

/-- What is done with a handler itself, past its component. -/
inductive HandlerAction
  | start
  | stop
  | stateChanged (state : Validity)
  | fieldWritten (field : String) (value : Value)
  | readField (field : String) (value : Option Value)
  | attach (fields : List String)

/-- What is done with the provider of a component. -/
inductive ProviderAction
  | extend (entries : Properties)
  | reduce (entries : Properties)

/-- What is done with the configurator of a component. -/
inductive ConfiguratorAction
  | update (configuration : Option Properties)
  | addProperty (id : String)
  | property (name : String)

/-- What is done with the host. -/
inductive HostAction
  | push (identity : String) (configuration : Option Properties)
  | isPublished (identity : String)
  | count
  | properties (identity : String)
  /-- Publish an endpoint for a receiver that keeps what it receives. -/
  | publish (identity : String) (properties : Properties) (receiver : String)
  | withdraw (number : Nat)
  | received (receiver : String)

/-- What is done with the registry. -/
inductive RegistryAction
  | register (specifications : List String) (properties : Properties) (factory : FactoryPolicy)
  | unregister (number : Nat)
  | update (number : Nat) (properties : Properties)
  | record (number : Nat)
  | lookup (specification : String)
  | counters

/-- What is done with a service that stands by itself. -/
inductive ServiceAction
  | create (declared : ServiceDescriptor)
  | view
  | register
  | unregister
  | write (field : String) (value : Value)
  | read (field : String)
  | hasField (field : String)
  | extend (entries : Properties)
  | reduce (entries : Properties)
  | configure (configuration : Properties)

/-- What is done with a configurable property that stands by itself. -/
inductive PropertyAction
  | create (name : String) (field initial typeName : Option String)
  | view
  | assign (value : Value)
  | coerce (value : Value)

/-- What is done with a service property that stands by itself. -/
inductive HolderAction
  | create (declared : PropertyDescriptor)
  | view
  | assign (value : Value)

/-- What is done with a surface that stands by itself. -/
inductive SurfaceAction
  | create (className : String)
  | addSpecification (specification : String)
  | addProperty (property : SurfaceProperty)
  | provides (specification : String)
  | property (name : String)
  | text

/-- What is done with a channel that stands by itself. -/
inductive ChannelAction
  | create (capacity : Nat)
  | subscribe (subscriber : String)
  | unsubscribe (subscriber : String)
  | publish (event : Event)
  | receive (subscriber : String)

/-- An action of a script under the label that it is reported with. An action may be
limited to the first runs of its script. -/
structure Cue (α : Type) where
  label : String
  action : α
  first : Option Nat

/-- What a guest makes of the value of a field that is being read. -/
inductive Reading
  | pass
  | nothing
  | wrap
  | constant (value : Value)

/-- The occasions on which a guest runs a script. -/
inductive Occasion
  | configured
  | started
  | stopped
  | valid
  | invalid
  | written
  deriving DecidableEq, Repr

/-- The scripts of a guest, one for each occasion. -/
structure GuestScripts (α : Type) where
  configured : List (Cue α)
  started : List (Cue α)
  stopped : List (Cue α)
  valid : List (Cue α)
  invalid : List (Cue α)
  written : List (Cue α)

/-- The script for an occasion. -/
def GuestScripts.on {α : Type} (scripts : GuestScripts α) : Occasion → List (Cue α)
  | .configured => scripts.configured
  | .started => scripts.started
  | .stopped => scripts.stopped
  | .valid => scripts.valid
  | .invalid => scripts.invalid
  | .written => scripts.written

/-- How a guest behaves. -/
structure GuestPlan (α : Type) where
  name : String
  /-- Whether the guest leaves no trace of what it is told. -/
  silent : Bool
  /-- The fields that the guest registers with, if it names some. -/
  fields : Option (List String)
  ready : Bool
  registers : Bool
  reading : Reading
  scripts : GuestScripts α

/-- A guest that registers with fields and leaves it at that. -/
def GuestPlan.minimal {α : Type} (name : String) (fields : List String) : GuestPlan α :=
  ⟨name, true, some fields, true, true, .pass, ⟨[], [], [], [], [], []⟩⟩

/-- A handler that a scenario asks for. -/
inductive HandlerPlan (α : Type)
  | role (role : Role)
  | guest (plan : GuestPlan α)

/-- The handlers of a component that asks for none in particular. -/
def HandlerPlan.standard {α : Type} : List (HandlerPlan α) :=
  [.role .provider, .role .configurator, .role .caller]

/-- A method with a script as its body. -/
structure MethodPlan (α : Type) where
  name : String
  isPrivate : Bool
  isStatic : Bool
  script : List (Cue α)

/-- An action of a scenario. Actions on a component name it; without a name they mean
the component that the script belongs to. -/
inductive Action
  /-- Create a component, and configure it if there is a configuration. -/
  | create (id : Option String) (descriptor : ComponentDescriptor)
      (methods : List (MethodPlan Action)) (handlers : List (HandlerPlan Action))
      (configuration : Option Properties)
  /-- Configure a component, with new handlers or with those that it has. -/
  | configure (id : Option String) (handlers : Option (List (HandlerPlan Action)))
      (configuration : Properties)
  /-- Let a component go. -/
  | drop (id : Option String)
  | component (id : Option String) (action : ComponentAction)
  | snapshot (id : Option String)
  | handler (id : Option String) (role : Role) (action : HandlerAction)
  | provider (id : Option String) (action : ProviderAction)
  | configurator (id : Option String) (action : ConfiguratorAction)
  /-- Let a guest of a component be ready or not. -/
  | ready (id : Option String) (guest : String) (value : Bool)
  | host (action : HostAction)
  | registry (action : RegistryAction)
  | service (id : String) (action : ServiceAction)
  | property (id : String) (action : PropertyAction)
  | holder (id : String) (action : HolderAction)
  | surface (id : String) (action : SurfaceAction)
  | channel (id : String) (action : ChannelAction)
  /-- An action that cannot be performed for a reason known beforehand. -/
  | refused (failure : Failure)
  /-- End the script with a failure. -/
  | fail (message : String)
  /-- Break the script off. -/
  | panic (reason : Option String)

/-- A list of actions to be performed in order. -/
abbrev Script : Type := List (Cue Action)

/-- The calls of collaborators that hooks are put on. -/
inductive Call
  | register
  | unregister
  | update
  | publish
  | withdraw
  deriving DecidableEq, Repr

/-- What is done around the calls of a collaborator. -/
structure Hook where
  call : Call
  /-- The number of the only call that is meant, if it is one. -/
  nth : Option Nat
  /-- Whether it is done after the call and not before. -/
  after : Bool
  /-- The text of the failure that the call is turned into, if it is. -/
  failure : Option String
  script : Script

end Componentry.Scenario
