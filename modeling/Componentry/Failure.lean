import Componentry.Value.Convert

/-!
# Failures

What can go wrong at the boundaries of the library, by cause. Every cause has one
wording; nothing inside the library looks at a wording.
-/

namespace Componentry

/-- Why settings are refused. -/
inductive SettingsFailure
  /-- The named setting has no visible character. -/
  | blank (setting : String)
  | zeroCapacity
  | invalidCapacity (fault : NumeralFault)
  /-- The source cannot be read as settings. -/
  | unreadable
  | other (reason : String)
  deriving DecidableEq, Repr

/-- Why a descriptor is refused. -/
inductive DescriptorFailure
  | unnamedProperty
  | callbackWithoutMethod
  | componentWithoutClass (element : String)
  | other (reason : String)
  deriving DecidableEq, Repr

/-- Why a registry or a configuration host refuses a call. -/
inductive RegistryFailure
  | noSpecifications
  | refused (reason : String)
  deriving DecidableEq, Repr

/-- Why a component method did not run to its end. -/
inductive CallbackFailure
  | notFound (method : String)
  | inaccessible (method : String)
  | failed (method cause : String)
  deriving DecidableEq, Repr

/-- Any failure of the library. -/
inductive Failure
  | settings (cause : SettingsFailure)
  | descriptor (cause : DescriptorFailure)
  | registry (cause : RegistryFailure)
  | unknownHandle (handle : String)
  | conversion (cause : ConversionFailure)
  | callback (cause : CallbackFailure)
  /-- A JSON text that is malformed or does not have the expected shape. -/
  | malformed
  deriving DecidableEq, Repr

namespace SettingsFailure

/-- The wording of the cause. -/
def message : SettingsFailure → String
  | blank setting => setting ++ " must not be empty"
  | zeroCapacity => "event_channel_capacity must be greater than zero"
  | invalidCapacity fault => "Invalid event_channel_capacity: " ++ fault.message
  | unreadable => "unreadable settings"
  | other reason => reason

end SettingsFailure

namespace DescriptorFailure

/-- The wording of the cause. -/
def message : DescriptorFailure → String
  | unnamedProperty => "a property needs a name or a field"
  | callbackWithoutMethod => "callback element has no method attribute"
  | componentWithoutClass element =>
      "component element '" ++ element ++ "' has no className attribute"
  | other reason => reason

end DescriptorFailure

namespace RegistryFailure

/-- The wording of the cause. -/
def message : RegistryFailure → String
  | noSpecifications => "cannot register a service without specifications"
  | refused reason => reason

end RegistryFailure

namespace ConversionFailure

/-- The wording of the failure. -/
def message (failure : ConversionFailure) : String :=
  "cannot convert '" ++ failure.value ++ "' to " ++ failure.target

end ConversionFailure

namespace CallbackFailure

/-- The method that did not run to its end. -/
def method : CallbackFailure → String
  | notFound method => method
  | inaccessible method => method
  | failed method _ => method

/-- The wording of the failure. -/
def message : CallbackFailure → String
  | notFound method => "callback method '" ++ method ++ "' is not found"
  | inaccessible method => "callback method '" ++ method ++ "' is not accessible"
  | failed method cause => "callback method '" ++ method ++ "' failed: " ++ cause

end CallbackFailure

namespace Failure

/-- The wording of the failure, with the area that it arose in. -/
def message : Failure → String
  | settings cause => "Configuration error: " ++ cause.message
  | descriptor cause => "Metadata error: " ++ cause.message
  | registry cause => "Registry error: " ++ cause.message
  | unknownHandle handle => "Unknown registration handle: " ++ handle
  | conversion cause => "Value conversion error: " ++ cause.message
  | callback cause => "Callback error: " ++ cause.message
  | malformed => "Serialization error"

end Failure

end Componentry
