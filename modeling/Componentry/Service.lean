import Componentry.Registry
import Componentry.Surface

/-!
# Provided services

The live counterpart of a declared service: its properties with their values, the
entries propagated onto it from configuration updates, and the registration that it
holds. The visible properties are the values of the declared ones, overridden by
the propagated entries. A revision counts the changes of what is visible, so that a
change made while the registry is being called can be told from none.
-/

namespace Componentry

/-- A property of a provided service with its live value. -/
structure ServiceProperty where
  declared : PropertyDescriptor
  value : Option Value

namespace ServiceProperty

/-- The type that the literal of a property is converted to. -/
def targetType (declared : PropertyDescriptor) : String :=
  declared.typeName.getD Value.textTypeName

/-- The record of a literal that does not convert. -/
def unconverted (declared : PropertyDescriptor) (failure : ConversionFailure) : Log.Record :=
  ⟨.error, "Cannot convert service property value",
    [Log.shown "property" declared.name,
      Log.shown "error" (Failure.conversion failure).message]⟩

/-- The property with its literal converted, and a note if it does not convert; then
the property has no value. -/
def create (declared : PropertyDescriptor) : ServiceProperty × List Log.Record :=
  match declared.value with
  | none => (⟨declared, none⟩, [])
  | some raw =>
      match Value.convert (targetType declared) raw with
      | .ok value => (⟨declared, some value⟩, [])
      | .error failure => (⟨declared, none⟩, [unconverted declared failure])

/-- Whether a field backs the property. -/
def isBackedBy (property : ServiceProperty) (field : String) : Bool :=
  property.declared.field == some field

/-- The property with another value, unless it has an equal one. -/
def assign? (property : ServiceProperty) (value : Value) : Option ServiceProperty :=
  if Value.sameOption property.value (some value) then none
  else some { property with value := some value }

/-- The entry of the property among the visible ones, if it has a value. -/
def entry? (property : ServiceProperty) : Option (String × Value) :=
  property.value.map (property.declared.name, ·)

/-- The property as the surface describes it. -/
def describe (property : ServiceProperty) : SurfaceProperty :=
  ⟨property.declared.name, property.declared.typeName, Value.renderOption property.value⟩

/-- The property with the typed value that the configuration has for it, if any. -/
def configured (property : ServiceProperty) (configuration : Properties) : ServiceProperty :=
  match typedEntry property.declared.name property.declared.field configuration with
  | some value => (property.assign? value).getD property
  | none => property

end ServiceProperty

/-- A provided service. -/
structure Service where
  declared : ServiceDescriptor
  properties : List ServiceProperty
  /-- The entries propagated from configuration updates. -/
  extras : Properties
  registration : Option Registration
  revision : Nat
  deriving Inhabited

/-- What the registry is to be told: the visible properties of a registered service
at a revision. -/
structure Update where
  handle : Registration
  properties : Properties
  revision : Nat

namespace Service

/-- The service of a declaration, with a note for each literal that does not
convert. -/
def create (declared : ServiceDescriptor) : Service × List Log.Record :=
  let created := declared.properties.map ServiceProperty.create
  (⟨declared, created.map Prod.fst, .empty, none, 0⟩, created.flatMap Prod.snd)

/-- The specifications of the service. -/
def specifications (service : Service) : List String := service.declared.specifications

/-- The visible properties. -/
def visible (service : Service) : Properties :=
  (Dictionary.ofList (service.properties.filterMap ServiceProperty.entry?)).override
    service.extras

/-- What the registry is to be told now, if the service is registered. -/
def snapshot (service : Service) : Option Update :=
  service.registration.map fun handle => ⟨handle, service.visible, service.revision⟩

/-- The service at its next revision. -/
def revised (service : Service) : Service := { service with revision := service.revision + 1 }

/-- The properties as the surface describes them. -/
def describe (service : Service) : List SurfaceProperty :=
  service.properties.map ServiceProperty.describe

/-- Whether a field backs a property. -/
def hasField (service : Service) (field : String) : Bool :=
  service.properties.any (·.isBackedBy field)

/-- The value of the first property that a field backs. -/
def field? (service : Service) (field : String) : Option Value :=
  (service.properties.find? (·.isBackedBy field)).bind ServiceProperty.value

/-- Assign a value to the first property that a field backs; nothing if there is
none or it has an equal value. -/
def assignFirst? (field : String) (value : Value) :
    List ServiceProperty → Option (List ServiceProperty)
  | [] => none
  | property :: rest =>
      if property.isBackedBy field then (property.assign? value).map (· :: rest)
      else (assignFirst? field value rest).map (property :: ·)

/-- The service after a field has been written, if that changes it. -/
def written? (service : Service) (field : String) (value : Value) : Option Service :=
  (assignFirst? field value service.properties).map fun properties =>
    { service with properties := properties }.revised

/-- The service with more propagated entries, unless there are none. -/
def extended? (service : Service) (entries : Properties) : Option Service :=
  if entries.isEmpty then none
  else some { service with extras := service.extras.override entries }.revised

/-- The service without the propagated entries under some keys, unless it has none
of them. -/
def reduced? (service : Service) (entries : Properties) : Option Service :=
  let extras := service.extras.without entries
  if extras.size = service.extras.size then none
  else some { service with extras := extras }.revised

/-- The service with the typed values that the configuration has for its properties. -/
def configured (service : Service) (configuration : Properties) : Service :=
  { service with properties := service.properties.map (·.configured configuration) }

section Changes

variable {service changed : Service}

/-- What a change of the properties or of the propagated entries leaves as it is. -/
structure Revised (service changed : Service) : Prop where
  declared : changed.declared = service.declared
  registration : changed.registration = service.registration
  revision : changed.revision = service.revision + 1

theorem written?_eq_some {field : String} {value : Value}
    (hwritten : service.written? field value = some changed) :
    service.Revised changed ∧ changed.extras = service.extras := by
  obtain ⟨properties, -, rfl⟩ := Option.map_eq_some_iff.mp hwritten
  exact ⟨⟨rfl, rfl, rfl⟩, rfl⟩

theorem extended?_eq_some {entries : Properties}
    (hextended : service.extended? entries = some changed) :
    service.Revised changed ∧ changed.properties = service.properties ∧
      changed.extras = service.extras.override entries := by
  unfold extended? at hextended
  split at hextended
  · cases hextended
  · cases hextended
    exact ⟨⟨rfl, rfl, rfl⟩, rfl, rfl⟩

theorem reduced?_eq_some {entries : Properties}
    (hreduced : service.reduced? entries = some changed) :
    service.Revised changed ∧ changed.properties = service.properties ∧
      changed.extras = service.extras.without entries := by
  simp only [reduced?] at hreduced
  split at hreduced
  · cases hreduced
  · cases hreduced
    exact ⟨⟨rfl, rfl, rfl⟩, rfl, rfl⟩

theorem extras_extended? (service : Service) (entries : Properties) :
    ((service.extended? entries).getD service).extras = service.extras.override entries := by
  unfold extended?
  split
  next hempty =>
    rw [Dictionary.isEmpty_iff.mp hempty, Dictionary.override_empty]
    rfl
  next => rfl

theorem extras_reduced? (service : Service) (entries : Properties) :
    ((service.reduced? entries).getD service).extras = service.extras.without entries := by
  simp only [reduced?]
  split
  next hsize => exact (Dictionary.without_eq_self hsize).symm
  next => rfl

end Changes

end Service

end Componentry
