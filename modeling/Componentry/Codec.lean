import Componentry.Descriptor.Callback
import Componentry.Descriptor.Service
import Componentry.Json.Record
import Componentry.Settings
import Componentry.Surface

/-!
# Descriptors in JSON

The written form of every descriptor, of the surface and of the settings. Each form
is a record or a constant in the sense of `Componentry.Json.Record`.
-/

namespace Componentry

namespace Element

/-- The number of arrays and objects that may be open at once. -/
def depthLimit : Nat := 127

mutual

/-- The document of an element. A missing domain is left out. -/
def toJson : Element → Json
  | ⟨name, domain, attributes, children⟩ =>
      let domainMember :=
        match domain with
        | some domain => [("namespace", Json.string domain)]
        | none => []
      .object
        (("name", .string name) :: domainMember ++
          [("attributes", .object (attributes.entries.map fun (key, value) =>
              (key, .string value))),
            ("elements", .array (listToJson children))])

def listToJson : List Element → List Json
  | [] => []
  | e :: rest => toJson e :: listToJson rest

end

/-- The element of a document in which at most `depth` arrays and objects may be
open at once. The element itself opens one, and its parts each open another. -/
def ofJson? : (depth : Nat) → Json → Option Element
  | 0, _ => none
  | 1, document => do
      match ← Json.slots? ["name", "namespace", "attributes", "elements"] document with
      | [name, domain, attributes, children] =>
          pure ⟨← name.required Json.string?, ← domain.defaulted none Json.nullable?,
            ← attributes.defaulted .empty fun _ => none,
            ← children.defaulted [] fun _ => none⟩
      | _ => none
  | depth + 2, document => do
      match ← Json.slots? ["name", "namespace", "attributes", "elements"] document with
      | [name, domain, attributes, children] =>
          pure ⟨← name.required Json.string?, ← domain.defaulted none Json.nullable?,
            ← attributes.defaulted .empty Json.strings?,
            ← children.defaulted [] (Json.list? (ofJson? depth))⟩
      | _ => none

/-- The written form of elements. -/
def codec : Json.Codec Element := ⟨toJson, ofJson? depthLimit⟩

end Element

namespace PropertyDescriptor

/-- The written form of declared properties. -/
def codec : Json.Codec PropertyDescriptor where
  encode p := .object
    [("name", .string p.name), ("field", .ofString? p.field),
      ("type_name", .ofString? p.typeName), ("value", .ofString? p.value)]
  decode? document := do
    match ← Json.slots? ["name", "field", "type_name", "value"] document with
    | [name, field, typeName, value] =>
        pure ⟨← name.required Json.string?, ← field.optionalString,
          ← typeName.optionalString, ← value.optionalString⟩
    | _ => none

end PropertyDescriptor

namespace FactoryPolicy

/-- The constant of a policy. -/
def constant : FactoryPolicy → String
  | singleton => "singleton"
  | perConsumer => "service_instance_per_consumer"

/-- The policy of a constant. -/
def ofConstant? (name : String) : Option FactoryPolicy :=
  [singleton, perConsumer].find? fun policy => policy.constant == name

/-- The written form of policies. -/
def codec : Json.Codec FactoryPolicy :=
  ⟨fun policy => .string policy.constant, Json.constant? ofConstant?⟩

end FactoryPolicy

namespace ServiceDescriptor

/-- The written form of declared services. -/
def codec : Json.Codec ServiceDescriptor where
  encode service := .object
    [("specifications", .array (service.specifications.map .string)),
      ("factory", FactoryPolicy.codec.encode service.factory),
      ("properties", .array (service.properties.map PropertyDescriptor.codec.encode))]
  decode? document := do
    match ← Json.slots? ["specifications", "factory", "properties"] document with
    | [specifications, factory, properties] =>
        pure ⟨← specifications.required (Json.list? Json.string?),
          ← factory.required FactoryPolicy.codec.decode?,
          ← properties.required (Json.list? PropertyDescriptor.codec.decode?)⟩
    | _ => none

end ServiceDescriptor

namespace Validity

/-- The written form of states. -/
def codec : Json.Codec Validity :=
  ⟨fun state => .string state.name, Json.constant? ofName?⟩

end Validity

namespace Transition

/-- The written form of changes of state. -/
def codec : Json.Codec Transition where
  encode transition := .object
    [("from", Validity.codec.encode transition.source),
      ("to", Validity.codec.encode transition.target)]
  decode? document := do
    match ← Json.slots? ["from", "to"] document with
    | [source, target] =>
        pure ⟨← source.required Validity.codec.decode?,
          ← target.required Validity.codec.decode?⟩
    | _ => none

end Transition

namespace CallbackDescriptor

/-- The written form of declared callbacks. -/
def codec : Json.Codec CallbackDescriptor where
  encode callback := .object
    [("initial", Validity.codec.encode callback.initial),
      ("final_state", Validity.codec.encode callback.final),
      ("method", .string callback.method), ("is_static", .boolean callback.isStatic)]
  decode? document := do
    match ← Json.slots? ["initial", "final_state", "method", "is_static"] document with
    | [initial, final, method, isStatic] =>
        pure ⟨← initial.required Validity.codec.decode?,
          ← final.required Validity.codec.decode?, ← method.required Json.string?,
          ← isStatic.required Json.boolean?⟩
    | _ => none

end CallbackDescriptor

namespace SurfaceProperty

/-- The written form of described properties. -/
def codec : Json.Codec SurfaceProperty where
  encode := toJson
  decode? document := do
    match ← Json.slots? ["name", "type", "value"] document with
    | [name, typeName, value] =>
        pure ⟨← name.required Json.string?, ← typeName.optionalString,
          ← value.required Json.string?⟩
    | _ => none

end SurfaceProperty

namespace Surface

/-- The written form of surfaces. -/
def codec : Json.Codec Surface where
  encode := toJson
  decode? document := do
    match ← Json.slots? ["class_name", "provided_service_specifications", "properties"]
        document with
    | [className, specifications, properties] =>
        pure ⟨← className.required Json.string?,
          ← specifications.required (Json.list? Json.string?),
          ← properties.required (Json.list? SurfaceProperty.codec.decode?)⟩
    | _ => none

end Surface

namespace Settings

/-- The written form of settings. A missing setting has its standard value. -/
def codec : Json.Codec Settings where
  encode settings := .object
    [(specificationKey, .string settings.endpointSpecification),
      (pidKey, .string settings.pidProperty),
      (identityKeyKey, .string settings.identityKey),
      (capacityKey, .integer (Int.ofNat settings.eventCapacity)),
      (logLevelKey, .ofString? settings.logLevel)]
  decode? document := do
    match ← Json.slots? [specificationKey, pidKey, identityKeyKey, capacityKey, logLevelKey]
        document with
    | [specification, pid, identity, capacity, level] =>
        pure ⟨← specification.defaulted standard.endpointSpecification Json.string?,
          ← pid.defaulted standard.pidProperty Json.string?,
          ← identity.defaulted standard.identityKey Json.string?,
          ← capacity.defaulted standard.eventCapacity Json.unsigned?,
          ← level.defaulted standard.logLevel Json.nullable?⟩
    | _ => none

end Settings

end Componentry
