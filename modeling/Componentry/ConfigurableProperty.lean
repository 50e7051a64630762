import Componentry.Descriptor.Property
import Componentry.Log

/-!
# Configurable properties

A configurable property binds a configuration key to a type and, where it has one,
to a field of the component. Its live value is missing until something gives one.
-/

namespace Componentry

/-- A configuration key with its live value. -/
structure ConfigurableProperty where
  name : String
  field : Option String
  typeName : String
  value : Option Value
  /-- How often the live value has changed. -/
  modifications : Nat
  deriving Inhabited

namespace ConfigurableProperty

/-- The record of an initial text that does not convert. -/
def unconverted (name : String) (failure : ConversionFailure) : Log.Record :=
  ⟨.error, "Cannot convert initial property value",
    [Log.shown "property" name, Log.shown "error" (Failure.conversion failure).message]⟩

/-- A property with its initial text converted, and a note if it does not convert;
then the property has no value. Without a type it holds text. -/
def create (name : String) (field initial fieldType : Option String) :
    ConfigurableProperty × List Log.Record :=
  let typeName := fieldType.getD Value.textTypeName
  match initial with
  | none => (⟨name, field, typeName, none, 0⟩, [])
  | some raw =>
      match Value.convert typeName raw with
      | .ok value => (⟨name, field, typeName, some value, 0⟩, [])
      | .error failure => (⟨name, field, typeName, none, 0⟩, [unconverted name failure])

/-- Whether a field backs the property. -/
def isBackedBy (property : ConfigurableProperty) (field : String) : Bool :=
  property.field == some field

/-- Whether the live value is equal to a value. -/
def holds (property : ConfigurableProperty) (value : Value) : Bool :=
  Value.sameOption property.value (some value)

/-- The property with another value, unless it has an equal one. -/
def assign? (property : ConfigurableProperty) (value : Value) :
    Option ConfigurableProperty :=
  if property.holds value then none
  else
    some { property with value := some value, modifications := property.modifications + 1 }

/-- The property after a value is given to it. -/
def assign (property : ConfigurableProperty) (value : Value) : ConfigurableProperty :=
  (property.assign? value).getD property

/-- A property that is given a value has it, has changed once more, and is bound as before. -/
theorem eq_of_assign? {property changed : ConfigurableProperty} {value : Value}
    (hassign : property.assign? value = some changed) :
    changed =
      { property with value := some value, modifications := property.modifications + 1 } := by
  unfold assign? at hassign
  split at hassign
  · cases hassign
  · exact (Option.some.inj hassign).symm

theorem name_of_assign? {property changed : ConfigurableProperty} {value : Value}
    (hassign : property.assign? value = some changed) : changed.name = property.name := by
  rw [eq_of_assign? hassign]

theorem field_of_assign? {property changed : ConfigurableProperty} {value : Value}
    (hassign : property.assign? value = some changed) : changed.field = property.field := by
  rw [eq_of_assign? hassign]

@[simp] theorem name_assign (property : ConfigurableProperty) (value : Value) :
    (property.assign value).name = property.name := by
  unfold assign
  cases hassign : property.assign? value with
  | none => rfl
  | some changed => exact name_of_assign? hassign

@[simp] theorem field_assign (property : ConfigurableProperty) (value : Value) :
    (property.assign value).field = property.field := by
  unfold assign
  cases hassign : property.assign? value with
  | none => rfl
  | some changed => exact field_of_assign? hassign

/-- Bring an incoming value to the type of the property. Text is converted, and kept
with a note if it does not convert; every other value stays. -/
def coerce (property : ConfigurableProperty) (incoming : Value) : Value × List Log.Record :=
  match incoming with
  | .text raw =>
      match Value.convert property.typeName raw with
      | .ok value => (value, [])
      | .error failure =>
          (incoming,
            [⟨.warn, "Keeping unconverted value",
              [Log.shown "property" property.name,
                Log.shown "error" (Failure.conversion failure).message]⟩])
  | _ => (incoming, [])

end ConfigurableProperty

end Componentry
