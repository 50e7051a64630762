import Componentry.Engine.Calling
import Componentry.Engine.Configuring
import Componentry.Engine.Providing

/-!
# Handlers

What a component asks of each of its handlers, whatever their kind. A guest does
what the collaborators say; the other kinds ignore what does not concern them.
-/

namespace Componentry.Handler

variable {σ : Type} (out : Collaborators σ)

/-- Read the description of a component and its initial configuration. -/
def configure (handler : Handler) (component : Ref .component)
    (descriptor : ComponentDescriptor) (configuration : Properties) : Run σ Unit :=
  match handler with
  | provider r => Provider.configure out r component descriptor configuration
  | configurator r => Configurator.configure out r component descriptor configuration
  | caller r => Caller.configure out r component descriptor
  | guest _ number => out.configure number component descriptor configuration

/-- Start with the component. -/
def start : Handler → Run σ Unit
  | provider r => Provider.start out r
  | configurator r => Configurator.start out r
  | caller _ => return
  | guest _ number => out.notify number .started

/-- Stop with the component. -/
def stop : Handler → Run σ Unit
  | provider r => Provider.stop out r
  | configurator r => Configurator.stop out r
  | caller r => Caller.stop r
  | guest _ number => out.notify number .stopped

/-- Follow a change of the component's state. -/
def stateChanged (state : Validity) : Handler → Run σ Unit
  | provider r => Provider.stateChanged out r state
  | configurator r => Configurator.stateChanged out r state
  | caller r => Caller.stateChanged out r state
  | guest _ number => out.notify number (.stateChanged state)

/-- Follow the write of a field. -/
def fieldWritten (field : String) (value : Value) : Handler → Run σ Unit
  | provider r => Provider.fieldWritten out r field value
  | configurator r => Configurator.fieldWritten out r field value
  | caller _ => return
  | guest _ number => out.notify number (.fieldWritten field value)

/-- What the handler makes of the value of a field that is being read. -/
def readField (field : String) (value : Option Value) : Handler → Run σ (Option Value)
  | provider r => Provider.readField r field value
  | configurator r => Configurator.readField r field value
  | caller _ => return value
  | guest _ number => out.read number field value

/-- Whether the handler lets the component be valid. -/
def isReady : Handler → Run σ Bool
  | guest _ number => out.ready number
  | _ => return true

end Componentry.Handler
