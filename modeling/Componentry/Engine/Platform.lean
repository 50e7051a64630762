import Componentry.ConfigurableProperty
import Componentry.Endpoint
import Componentry.Event
import Componentry.Method
import Componentry.Service
import Componentry.Settings
import Componentry.Store

/-!
# The platform

All components of a platform with their handlers and what the handlers hold. A
component drives its handlers. Three kinds of handler belong to the library; guests
are handlers whose behaviour lies outside.

Handlers know their component but do not keep it: a component is alive while its
owner keeps it or an operation on it runs.
-/

namespace Componentry

/-- A handler of a component. -/
inductive Handler
  | provider (r : Ref .provider)
  | configurator (r : Ref .configurator)
  | caller (r : Ref .caller)
  /-- A handler with a name whose behaviour is known outside under a number. -/
  | guest (name : String) (number : Nat)
  deriving DecidableEq, Repr

namespace Handler

/-- The name of a handler. -/
def name : Handler → String
  | provider _ => "provided_service"
  | configurator _ => "configuration"
  | caller _ => "lifecycle_callback"
  | guest name _ => name

/-- The provider that a handler is, if it is one. -/
def provider? : Handler → Option (Ref .provider)
  | provider r => some r
  | _ => none

/-- The configurator that a handler is, if it is one. -/
def configurator? : Handler → Option (Ref .configurator)
  | configurator r => some r
  | _ => none

/-- The caller that a handler is, if it is one. -/
def caller? : Handler → Option (Ref .caller)
  | caller r => some r
  | _ => none

/-- The number of the guest that a handler is, if it is one. -/
def guest? : Handler → Option Nat
  | guest _ number => some number
  | _ => none

end Handler

/-- What an endpoint is published for. -/
inductive Target
  | configurator (r : Ref .configurator)
  /-- A receiver with a name whose behaviour lies outside. -/
  | receiver (name : String)
  deriving DecidableEq, Repr

/-- A registered handler with the fields that it is interested in. -/
structure Attachment where
  handler : Handler
  fields : List String
  deriving DecidableEq, Repr

namespace Attachment

/-- Add fields behind those that are there already. -/
def addFields (fields : List String) : List String → List String
  | [] => fields
  | field :: rest =>
      addFields (if fields.contains field then fields else fields ++ [field]) rest

/-- Register a handler with fields. One that is registered already keeps its place
and adds to its fields. -/
def register (handler : Handler) (fields : List String) : List Attachment → List Attachment
  | [] => [⟨handler, fields⟩]
  | attachment :: rest =>
      if attachment.handler = handler then
        { attachment with fields := addFields attachment.fields fields } :: rest
      else attachment :: register handler fields rest

/-- Registering a handler adds it and no other. -/
theorem mem_handlers_register (handler other : Handler) (fields : List String)
    (attachments : List Attachment) :
    other ∈ (register handler fields attachments).map Attachment.handler ↔
      other = handler ∨ other ∈ attachments.map Attachment.handler := by
  induction attachments with
  | nil => simp [register]
  | cons attachment rest ih =>
      unfold register
      split
      next heq => simp [heq]
      next =>
        rw [List.map_cons, List.mem_cons, ih, List.map_cons, List.mem_cons]
        exact or_left_comm

/-- A handler is registered only once. -/
theorem nodup_handlers_register (handler : Handler) (fields : List String)
    {attachments : List Attachment} (hdistinct : (attachments.map Attachment.handler).Nodup) :
    ((register handler fields attachments).map Attachment.handler).Nodup := by
  induction attachments with
  | nil => simp [register]
  | cons attachment rest ih =>
      rw [List.map_cons, List.nodup_cons] at hdistinct
      unfold register
      split
      next => simpa using hdistinct
      next hne =>
        rw [List.map_cons, List.nodup_cons, mem_handlers_register]
        exact ⟨fun hmem => hmem.elim hne hdistinct.1, ih hdistinct.2⟩

end Attachment

/-- A component instance. -/
structure Component where
  descriptor : ComponentDescriptor
  methods : Methods
  surface : Surface
  state : Validity
  /-- The registered handlers in order of their first registration. -/
  attachments : List Attachment
  /-- The fields as they were last written. -/
  fields : Properties
  /-- Whether the owner keeps the component. -/
  owned : Bool
  /-- The number of operations that hold the component while they run. -/
  holds : Nat
  deriving Inhabited

namespace Component

/-- A component that has not been configured yet. -/
def create (descriptor : ComponentDescriptor) (methods : Methods) : Component :=
  ⟨descriptor, methods, .ofClass descriptor.className, .invalid, [], .empty, true, 0⟩

/-- The class of the component. -/
def className (component : Component) : String := component.descriptor.className

/-- Whether the component still exists. -/
def isAlive (component : Component) : Bool := component.owned || 0 < component.holds

/-- The registered handlers. -/
def handlers (component : Component) : List Handler :=
  component.attachments.map Attachment.handler

/-- The names of the registered handlers. -/
def handlerNames (component : Component) : List String := component.handlers.map Handler.name

/-- The handlers that are interested in a field. -/
def interested (component : Component) (field : String) : List Handler :=
  (component.attachments.filter fun attachment => attachment.fields.contains field).map
    Attachment.handler

/-- Whether a handler is registered. -/
def isRegistered (component : Component) (handler : Handler) : Bool :=
  component.handlers.contains handler

/-- The first registered handler that publishes services. -/
def provider? (component : Component) : Option (Ref .provider) :=
  component.handlers.findSome? Handler.provider?

/-- The first registered handler that brings configuration. -/
def configurator? (component : Component) : Option (Ref .configurator) :=
  component.handlers.findSome? Handler.configurator?

/-- The first registered handler that calls methods. -/
def caller? (component : Component) : Option (Ref .caller) :=
  component.handlers.findSome? Handler.caller?

end Component

/-- The handler that publishes the services of a component. -/
structure Provider where
  component : Option (Ref .component)
  services : List (Ref .service)
  deriving Inhabited

/-- A provider that is not configured yet. -/
def Provider.unbound : Provider := ⟨none, []⟩

/-- The handler that brings configuration to a component. -/
structure Configurator where
  component : Option (Ref .component)
  properties : List (Ref .property)
  /-- The entries that the last update propagated to the services. -/
  propagated : Properties
  identity : String
  configurable : Bool
  publication : Option Publication
  deriving Inhabited

/-- A configurator that is not configured yet. -/
def Configurator.unbound : Configurator := ⟨none, [], .empty, "", false, none⟩

/-- The handler that calls component methods on changes of state. -/
structure Caller where
  component : Option (Ref .component)
  callbacks : List Callback
  /-- The state that the handler has last seen. -/
  tracked : Validity
  deriving Inhabited

/-- A caller that is not configured yet. -/
def Caller.unbound : Caller := ⟨none, [], .invalid⟩

/-- The components of a platform, their handlers, and what the handlers hold. -/
structure Platform where
  settings : Settings
  components : Store .component Component
  services : Store .service Service
  properties : Store .property ConfigurableProperty
  providers : Store .provider Provider
  configurators : Store .configurator Configurator
  callers : Store .caller Caller
  deriving Inhabited

namespace Platform

/-- A platform without components. -/
def ofSettings (settings : Settings) : Platform :=
  ⟨settings, .empty, .empty, .empty, .empty, .empty, .empty⟩

/-- The record of settings that do not validate but are used. -/
def unsoundSettings (cause : SettingsFailure) : Log.Record :=
  ⟨.warn, "Using an engine configuration that does not validate",
    [Log.shown "error" (Failure.settings cause).message]⟩

/-- What is to be noted when a platform is made with some settings. -/
def notes (settings : Settings) : List Log.Record :=
  match settings.validate with
  | .ok _ => []
  | .error cause => [unsoundSettings cause]

end Platform

end Componentry
