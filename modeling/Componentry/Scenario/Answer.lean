import Componentry.Channel
import Componentry.Engine.Run
import Componentry.Scenario.Action

/-!
# Answers and the journal

Every action has an answer. What happens while actions are performed is kept in a
journal: log records, calls of collaborators, calls of methods, what guests are
told, and the answers to the actions of scripts.
-/

namespace Componentry.Scenario

/-- A component as a snapshot shows it. -/
structure ComponentView where
  state : Validity
  handlerNames : List String
  surface : Surface
  hasProvider : Bool
  hasConfigurator : Bool
  hasCaller : Bool

/-- A configurator as a snapshot shows it. -/
structure ConfiguratorView where
  identity : String
  configurable : Bool
  published : Bool
  propagated : Properties
  properties : List ConfigurableProperty

/-- A component, if it is still there, with the handlers that it was last configured
with. -/
structure Snapshot where
  component : Option ComponentView
  configurator : Option ConfiguratorView
  services : Option (List Service)
  caller : Option Caller

/-- The answer to an action. -/
inductive Answer
  | done
  | noComponent
  | dropped
  | noHandler
  /-- What was asked for is not there. -/
  | nothing
  | flag (value : Bool)
  | count (n : Nat)
  | text (s : String)
  | texts (items : List String)
  | state (state : Validity)
  | failure (failure : Failure)
  | callbackFailure (failure : CallbackFailure)
  | value (value : Value)
  /-- A value that may be missing. -/
  | reading (value : Option Value)
  | properties (properties : Properties)
  | registration (handle : Registration)
  | publication (handle : Publication)
  | record (record : Option ServiceRecord)
  | records (records : List ServiceRecord)
  | counters (live registrations unregistrations updates : Nat)
  | endpoints (count : Nat) (description : String)
  | received (items : List (Option Properties))
  | delivery (delivery : Delivery Event)
  | service (service : Service)
  | property (property : ConfigurableProperty)
  | assigned (changed : Bool) (property : ConfigurableProperty)
  | holder (holder : ServiceProperty)
  | holderAssigned (changed : Bool) (holder : ServiceProperty)
  | surface (surface : Surface)
  /-- A surface with its JSON text. -/
  | surfaceText (surface : Surface) (text : String)
  | surfaceProperty (property : SurfaceProperty)
  | method (method : Method) (description : String)
  | snapshot (snapshot : Snapshot)

namespace Answer

/-- The answer to an action that may fail. -/
def ofExcept {α : Type} (answer : α → Answer) : Except Failure α → Answer
  | .ok a => answer a
  | .error cause => failure cause

/-- The answer to a call of a method. -/
def ofInvocation : Except CallbackFailure Unit → Answer
  | .ok () => done
  | .error cause => callbackFailure cause

end Answer

/-- What a guest is seen to be told. -/
inductive GuestEvent
  | configured (configuration : Properties)
  | noticed (notice : Notice)
  | read (field : String) (value : Option Value)

/-- An entry of the journal. -/
inductive Entry
  | log (record : Log.Record)
  | registered (handle : Registration) (specifications : List String)
      (properties : Properties) (factory : FactoryPolicy)
  | unregistered (handle : Registration)
  | updated (handle : Registration) (properties : Properties)
  | published (handle : Publication) (identity : String) (properties : Properties)
  | withdrawn (handle : Publication)
  /-- A collaborator has refused a call. -/
  | refused (call : Call) (failure : Failure)
  /-- A hook has turned a call into a failure. -/
  | hooked (call : Call) (after : Bool) (reason : String)
  | called (method : String)
  | did (label : String) (answer : Answer)
  | guest (name : String) (event : GuestEvent)

/-- Whether an entry is shown where log records have to pass a threshold. -/
def Entry.isShown (threshold : Log.Threshold) : Entry → Bool
  | .log record => threshold.passes record.level
  | _ => true

end Componentry.Scenario
