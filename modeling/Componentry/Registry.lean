import Componentry.Descriptor.Service

/-!
# Service registries

A registry shows the services that are offered. Every registration has a handle of
its own, under which its properties can be replaced and it can be taken back.
-/

namespace Componentry

/-- A handle on a registered service. Handles are numbered in order of creation. -/
structure Registration where
  number : Nat
  deriving DecidableEq, Repr

/-- The text of a handle. -/
def Registration.text (handle : Registration) : String :=
  "registration:#" ++ String.ofList (Numeral.ofNat handle.number)

/-- A service as the registry shows it. -/
structure ServiceRecord where
  handle : Registration
  specifications : List String
  properties : Properties
  factory : FactoryPolicy

/-- The registered services in order of their handles, and how often each operation
succeeded. -/
structure Registry where
  records : List ServiceRecord
  registrations : Nat
  unregistrations : Nat
  updates : Nat

namespace Registry

/-- The registry without services. -/
def empty : Registry := ⟨[], 0, 0, 0⟩

instance : Inhabited Registry := ⟨empty⟩

/-- The record of a handle. -/
def record? (registry : Registry) (handle : Registration) : Option ServiceRecord :=
  registry.records.find? fun record => record.handle == handle

/-- Whether a handle is that of a registered service. -/
def isRegistered (registry : Registry) (handle : Registration) : Bool :=
  (registry.record? handle).isSome

/-- The services with a specification. -/
def lookup (registry : Registry) (specification : String) : List ServiceRecord :=
  registry.records.filter fun record => record.specifications.contains specification

/-- The handle of the next registration. -/
def nextHandle (registry : Registry) : Registration := ⟨registry.registrations + 1⟩

/-- Register a service; it must have a specification. -/
def register (registry : Registry) (specifications : List String) (properties : Properties)
    (factory : FactoryPolicy) : Except Failure (Registration × Registry) :=
  if specifications.isEmpty then .error (.registry .noSpecifications)
  else
    let handle := registry.nextHandle
    .ok (handle,
      { registry with
        records := registry.records ++ [⟨handle, specifications, properties, factory⟩]
        registrations := registry.registrations + 1 })

/-- The record of a new registration. -/
def registeredRecord (handle : Registration) (specifications : List String) : Log.Record :=
  ⟨.debug, "Service registered",
    [Log.shown "handle" handle.text, ("specifications", .quotedList specifications)]⟩

/-- The record of a registration that was taken back. -/
def unregisteredRecord (handle : Registration) : Log.Record :=
  ⟨.debug, "Service unregistered", [Log.shown "handle" handle.text]⟩

/-- Take back a registration. -/
def unregister (registry : Registry) (handle : Registration) : Except Failure Registry :=
  if registry.isRegistered handle then
    .ok
      { registry with
        records := registry.records.filter fun record => record.handle != handle
        unregistrations := registry.unregistrations + 1 }
  else .error (.unknownHandle handle.text)

/-- Replace the properties of a registered service. -/
def update (registry : Registry) (handle : Registration) (properties : Properties) :
    Except Failure Registry :=
  if registry.isRegistered handle then
    .ok
      { registry with
        records := registry.records.map fun record =>
          if record.handle = handle then { record with properties := properties } else record
        updates := registry.updates + 1 }
  else .error (.unknownHandle handle.text)

end Registry

end Componentry
