import Componentry.Descriptor.Component
import Componentry.Descriptor.Property
import Componentry.Log

/-!
# Declared services

A `Provides` element declares a service: its specifications, how service objects
are shared, and its properties. A declared service is reviewed against what is
recorded of the implementation before anything is offered.
-/

namespace Componentry

/-- How service objects are shared among consumers. -/
inductive FactoryPolicy
  | singleton
  | perConsumer
  deriving DecidableEq, Repr, Inhabited

namespace FactoryPolicy

/-- The name of a policy, as a declaration writes it. -/
def name : FactoryPolicy → String
  | singleton => "singleton"
  | perConsumer => "service"

/-- The policy that a declaration names; only one name asks for an object per
consumer. -/
def ofDeclaration (name : Option String) : FactoryPolicy :=
  if name = some "service" then perConsumer else singleton

end FactoryPolicy

/-- A declared service. -/
structure ServiceDescriptor where
  specifications : List String
  factory : FactoryPolicy
  properties : List PropertyDescriptor
  deriving DecidableEq, Repr, Inhabited

namespace ServiceDescriptor

/-- The entries of a list of specifications: trimmed, and none of them empty. -/
def specificationList (list : String) : List String :=
  (((Text.split ',' list.toList).map Text.trim).filter (!·.isEmpty)).map String.ofList

/-- The record of a property that is left out. -/
def ignoredProperty (className : String) (cause : DescriptorFailure) : Log.Record :=
  ⟨.warn, "Ignoring malformed provided-service property",
    [Log.shown "component" className, Log.shown "error" (Failure.descriptor cause).message]⟩

/-- The properties that elements declare, and a record of each one left out. -/
def readProperties (className : String) (configuration : Properties) :
    List Element → List PropertyDescriptor × List Log.Record
  | [] => ([], [])
  | e :: rest =>
      let (properties, notes) := readProperties className configuration rest
      match PropertyDescriptor.ofElement e configuration with
      | .ok property => (property :: properties, notes)
      | .error cause => (properties, ignoredProperty className cause :: notes)

/-- The specifications that an element declares: those that it lists, or all
interfaces of the implementation where it lists none. -/
def declaredSpecifications (e : Element) (component : ComponentDescriptor) : List String :=
  match e.attribute? "interface" with
  | some list => specificationList list
  | none => component.interfaces

/-- The service that an element declares under a configuration, and what is to be
noted about it. -/
def ofElement (e : Element) (component : ComponentDescriptor) (configuration : Properties) :
    ServiceDescriptor × List Log.Record :=
  let (properties, notes) :=
    readProperties component.className configuration (e.childrenNamed "Property")
  (⟨declaredSpecifications e component, .ofDeclaration (e.attribute? "factory"), properties⟩,
    notes)

/-- The result of a review: the service with the types of its fields, whether it
may be offered, and what is to be noted. -/
structure Review where
  service : ServiceDescriptor
  accepted : Bool
  notes : List Log.Record

/-- The record of a property whose field is not recorded. -/
def unknownField (className property field : String) : Log.Record :=
  ⟨.error, "The property field does not exist in the implementation",
    [Log.shown "component" className, Log.shown "property" property,
      Log.shown "field" field]⟩

/-- The record of a property whose declared type gives way to that of its field. -/
def typeMismatch (className property declared real : String) : Log.Record :=
  ⟨.warn, "The property type does not match the field type, using the field type",
    [Log.shown "component" className, Log.shown "property" property,
      Log.shown "declared" declared, Log.shown "real" real]⟩

/-- Give properties the types of their fields, up to the first one whose field is
not recorded. The flag says that all fields are. -/
def reviewProperties (component : ComponentDescriptor) :
    List PropertyDescriptor → List PropertyDescriptor × Bool × List Log.Record
  | [] => ([], true, [])
  | property :: rest =>
      match property.field with
      | none =>
          let (reviewed, accepted, notes) := reviewProperties component rest
          (property :: reviewed, accepted, notes)
      | some field =>
          match component.fieldType? field with
          | none =>
              (property :: rest, false,
                [unknownField component.className property.name field])
          | some real =>
              let (reviewed, accepted, notes) := reviewProperties component rest
              let mismatch :=
                match property.typeName with
                | none => []
                | some declared =>
                    if declared = real then []
                    else [typeMismatch component.className property.name declared real]
              ({ property with typeName := some real } :: reviewed, accepted,
                mismatch ++ notes)

/-- Review a declared service. It is accepted when it has a specification, the
implementation is recorded with all its specifications, and all fields of its
properties are recorded. -/
def review (service : ServiceDescriptor) (component : ComponentDescriptor) : Review :=
  if service.specifications.isEmpty then
    ⟨service, false,
      [⟨.error, "The provided service declares no specification",
        [Log.shown "component" component.className]⟩]⟩
  else
    match service.specifications.find? (!component.implements ·) with
    | some specification =>
        ⟨service, false,
          [⟨.error, "The provided service specification is not implemented",
            [Log.shown "component" component.className,
              Log.shown "specification" specification]⟩]⟩
    | none =>
        let (properties, accepted, notes) := reviewProperties component service.properties
        ⟨{ service with properties := properties }, accepted, notes⟩

/-- A service that is accepted has a specification. -/
theorem specifications_ne_nil_of_accepted {service : ServiceDescriptor}
    {component : ComponentDescriptor} (haccepted : (service.review component).accepted = true) :
    (service.review component).service.specifications ≠ [] := by
  unfold review at haccepted ⊢
  split at haccepted
  next => cases haccepted
  next hspecified =>
    rw [if_neg hspecified]
    split at haccepted
    next => cases haccepted
    next =>
      exact fun hempty => hspecified (List.isEmpty_iff.mpr hempty)

end ServiceDescriptor

end Componentry
