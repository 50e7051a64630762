import Componentry.Engine.Attaching
import Componentry.Engine.Registering

/-!
# The provider

A provider offers the services of its component: registered while the component is
valid, and not otherwise. Declared services that do not pass their review are left
out. Field writes and propagated entries go to every service; a failure of the
registry is logged and concerns nobody else.
-/

namespace Componentry.Provider

variable {σ : Type} (out : Collaborators σ)

/-- The specifications of a service as the context of a log record. -/
def specificationText (specifications : List String) : String :=
  String.intercalate "," specifications

/-- Make the service of a declaration that passed its review, show it on the surface
of the component, and keep it. -/
def offer (component : Ref .component) (declared : ServiceDescriptor)
    (configuration : Properties) : Run σ (Ref .service) := do
  let (created, notes) := Service.create declared
  out.noteAll notes
  let service := created.configured configuration
  Component.changeSurface component fun surface =>
    service.describe.foldl Surface.addProperty
      (service.specifications.foldl Surface.addSpecification surface)
  Run.addService service

/-- Make the services that elements declare. -/
def offerAll (component : Ref .component) (descriptor : ComponentDescriptor)
    (configuration : Properties) : List Element → Run σ (List (Ref .service))
  | [] => return []
  | e :: rest => do
      let (declared, notes) := ServiceDescriptor.ofElement e descriptor configuration
      out.noteAll notes
      let review := declared.review descriptor
      out.noteAll review.notes
      if review.accepted then
        let service ← offer out component review.service configuration
        return service :: (← offerAll component descriptor configuration rest)
      else
        out.note (Log.caught descriptor.className "check_provided_service"
          "provided service rejected"
          (some (specificationText review.service.specifications)))
        offerAll component descriptor configuration rest

/-- The fields that back properties of services. -/
def fieldsOf (services : List Service) : List String :=
  services.flatMap fun service => service.declared.properties.filterMap PropertyDescriptor.field

/-- Configure the provider for a component. It registers only if there is a service
to offer. -/
def configure (r : Ref .provider) (component : Ref .component)
    (descriptor : ComponentDescriptor) (configuration : Properties) : Run σ Unit := do
  Run.changeProvider r fun _ => ⟨some component, []⟩
  let services ←
    offerAll out component descriptor configuration (descriptor.root.childrenNamed "Provides")
  if services.isEmpty then return
  let fields := fieldsOf (← services.mapM Run.service)
  out.note
    ⟨.debug, "Provided services configured",
      [Log.shown "component" descriptor.className,
        Log.shown "services" (String.ofList (Numeral.ofNat services.length)),
        ("fields", .quotedList fields)]⟩
  Run.changeProvider r fun provider => { provider with services := services }
  Component.attach out component (.provider r) fields

/-- Register a service, and announce it if that made a new registration. -/
def registerService (className : String) (r : Ref .service) : Run σ Unit := do
  let specifications := (← Run.service r).specifications
  match ← Service.register out r with
  | .ok true =>
      out.note (Log.registryOperation "register" className specifications "registered" none)
      let registration := (← Run.service r).registration
      out.tell (.serviceRegistered className specifications
        (registration.map Registration.text))
  | .ok false => return
  | .error failure =>
      out.noteCaught className "register_service" failure
        (some (specificationText specifications))

/-- Take back the registration of a service, and announce it if there was one. -/
def unregisterService (className : String) (r : Ref .service) : Run σ Unit := do
  let specifications := (← Run.service r).specifications
  match ← Service.unregister out r with
  | .ok true =>
      out.note
        (Log.registryOperation "unregister" className specifications "unregistered" none)
      out.tell (.serviceUnregistered className specifications)
  | .ok false => return
  | .error failure =>
      out.noteCaught className "unregister_service" failure
        (some (specificationText specifications))

/-- Register all services. -/
def registerAll (r : Ref .provider) (component : Ref .component) : Run σ Unit := do
  let className := (← Run.component component).className
  (← Run.provider r).services.forM (registerService out className)

/-- Take back the registrations of all services. -/
def unregisterAll (r : Ref .provider) (component : Ref .component) : Run σ Unit := do
  let className := (← Run.component component).className
  (← Run.provider r).services.forM (unregisterService out className)

/-- Start: services are registered at once if the component is valid already. -/
def start (r : Ref .provider) : Run σ Unit := do
  Run.whileAlive (← Run.provider r).component fun component => do
    if (← Run.component component).state = .valid then registerAll out r component

/-- Stop: no service stays registered. -/
def stop (r : Ref .provider) : Run σ Unit := do
  Run.whileAlive (← Run.provider r).component (unregisterAll out r)

/-- Follow a change of state. -/
def stateChanged (r : Ref .provider) (state : Validity) : Run σ Unit := do
  Run.whileAlive (← Run.provider r).component fun component =>
    match state with
    | .valid => registerAll out r component
    | .invalid => unregisterAll out r component

/-- Write a field of a service, if the service has it. -/
def writeService (className field : String) (value : Value) (r : Ref .service) :
    Run σ Unit := do
  if (← Run.service r).hasField field then
    match ← Service.write out r field value with
    | .ok _ => return
    | .error failure => out.noteCaught className "update_properties" failure (some field)

/-- Follow the write of a field. -/
def fieldWritten (r : Ref .provider) (field : String) (value : Value) : Run σ Unit := do
  Run.whileAlive (← Run.provider r).component fun component => do
    let className := (← Run.component component).className
    (← Run.provider r).services.forM (writeService out className field value)

/-- The value of a field that is being read: that of the first service that has one. -/
def readField (r : Ref .provider) (field : String) (value : Option Value) :
    Run σ (Option Value) := do
  let services ← (← Run.provider r).services.mapM Run.service
  return (services.findSome? (·.field? field)).or value

/-- Propagate entries onto all services. -/
def extendAll (r : Ref .provider) (entries : Properties) : Run σ Unit := do
  Run.whileAlive (← Run.provider r).component fun component => do
    let className := (← Run.component component).className
    (← Run.provider r).services.forM fun service => do
      match ← Service.extend out service entries with
      | .ok () => return
      | .error failure => out.noteCaught className "add_properties" failure none

/-- Remove propagated entries from all services. -/
def reduceAll (r : Ref .provider) (entries : Properties) : Run σ Unit := do
  Run.whileAlive (← Run.provider r).component fun component => do
    let className := (← Run.component component).className
    (← Run.provider r).services.forM fun service => do
      match ← Service.reduce out service entries with
      | .ok () => return
      | .error failure => out.noteCaught className "remove_properties" failure none

end Componentry.Provider
