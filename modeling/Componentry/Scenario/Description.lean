import Componentry.Engine.Platform
import Componentry.Text.Quoted

/-!
# Descriptions for developers

One-line texts that describe a component, a method and a host.
-/

namespace Componentry

namespace Validity

/-- The state as a description writes it. -/
def described : Validity → String
  | invalid => "Invalid"
  | valid => "Valid"

end Validity

namespace Component

/-- The text that describes a component. -/
def described (component : Component) : String :=
  "ComponentManager \x7b class_name: " ++ Text.quoted component.className ++ ", state: " ++
    component.state.described ++ ", handlers: " ++ Text.quotedList component.handlerNames ++
    " \x7d"

end Component

namespace Method

/-- The text that describes a method. -/
def described (method : Method) : String :=
  "ComponentMethod \x7b name: " ++ Text.quoted method.name ++ ", visibility: " ++
    (if method.isPrivate then "Private" else "Public") ++ ", kind: " ++
    Text.quoted (if method.isStatic then "static" else "instance") ++ " \x7d"

end Method

namespace Host

/-- The text that describes a host. -/
def described {τ : Type} (host : Host τ) : String :=
  "InMemoryConfigurationHost \x7b publications: " ++
    String.ofList (Numeral.ofNat host.endpoints.length) ++ " \x7d"

end Host

end Componentry
