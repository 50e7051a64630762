import Componentry.Validity
import Componentry.Value

/-!
# Lifecycle events

What is announced about the components of a platform: a name, and a value with the
particulars.
-/

namespace Componentry

/-- An announced event. -/
structure Event where
  name : String
  context : Value

namespace Event

/-- The value of a record of particulars. -/
def particulars (entries : List (String × Value)) : Value :=
  .ofProperties (Dictionary.ofList entries)

/-- The value of a list of texts. -/
def texts (items : List String) : Value := .list (items.map .text)

/-- A component has changed its state. -/
def stateChanged (component : String) (transition : Transition) : Event :=
  ⟨"component.state_changed",
    particulars
      [("component", .text component), ("from", .text transition.source.name),
        ("to", .text transition.target.name)]⟩

/-- A service has been registered. -/
def serviceRegistered (component : String) (specifications : List String)
    (registration : Option String) : Event :=
  ⟨"service.registered",
    particulars
      [("component", .text component), ("specifications", texts specifications),
        ("registration", (registration.map Value.text).getD .null)]⟩

/-- A service has been unregistered. -/
def serviceUnregistered (component : String) (specifications : List String) : Event :=
  ⟨"service.unregistered",
    particulars [("component", .text component), ("specifications", texts specifications)]⟩

/-- A configuration endpoint has been published. -/
def configurationPublished (component identity : String) : Event :=
  ⟨"configuration.published",
    particulars [("component", .text component), ("identity", .text identity)]⟩

/-- A configuration endpoint has been withdrawn. -/
def configurationWithdrawn (component identity : String) : Event :=
  ⟨"configuration.withdrawn",
    particulars [("component", .text component), ("identity", .text identity)]⟩

end Event

end Componentry
