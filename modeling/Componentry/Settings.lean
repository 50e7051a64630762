import Componentry.Failure
import Componentry.Text.Blank

/-!
# Settings of the engine

What all components of a platform share: the specification and the property under
which an endpoint is published, the configuration key that names a component, the
capacity of the event channel, and the level of the log.
-/

namespace Componentry

/-- The settings of a platform. -/
structure Settings where
  endpointSpecification : String
  pidProperty : String
  identityKey : String
  eventCapacity : Nat
  logLevel : Option String
  deriving DecidableEq, Repr

namespace Settings

/-- The settings that hold where nothing is set. -/
def standard : Settings :=
  ⟨"org.osgi.service.cm.ManagedService", "service.pid", "name", 256, none⟩

instance : Inhabited Settings := ⟨standard⟩

/-- The written name of the specification of endpoints. -/
def specificationKey : String := "managed_service_specification"

/-- The written name of the property that identifies an endpoint. -/
def pidKey : String := "pid_property"

/-- The written name of the configuration key that names a component. -/
def identityKeyKey : String := "identity_key"

/-- The written name of the capacity of the event channel. -/
def capacityKey : String := "event_channel_capacity"

/-- The written name of the level of the log. -/
def logLevelKey : String := "log_level"

/-- Check the settings: names must have a visible character and the capacity must
not be zero. -/
def validate (settings : Settings) : Except SettingsFailure Settings :=
  if Text.isBlankText settings.endpointSpecification then .error (.blank specificationKey)
  else if Text.isBlankText settings.pidProperty then .error (.blank pidKey)
  else if Text.isBlankText settings.identityKey then .error (.blank identityKeyKey)
  else if settings.eventCapacity = 0 then .error .zeroCapacity
  else .ok settings

end Settings

end Componentry
