import Componentry.Engine.Living
import Componentry.Scenario.Stage

/-!
# The cast of a scenario

Components and their handlers come onto the stage when they are created or
configured anew, and a component leaves it when it is let go. Its handlers stay.
-/

namespace Componentry.Scenario

variable (out : Collaborators Stage)

/-- The answer for a component, if there is one of that name. -/
def withActor (id : String) (answer : Actor → Play Answer) : Play Answer := do
  match ← Play.actor? id with
  | some actor => answer actor
  | none => return .noComponent

/-- The answer for a component that has not been let go. It is held meanwhile. -/
def withComponent (id : String) (answer : Ref .component → Play Answer) : Play Answer :=
  withActor id fun actor => do
    if (← Run.component actor.component).owned then
      Run.holding actor.component (answer actor.component)
    else return .dropped

/-- Bring a handler of a role onto the stage. -/
def Role.cast : Role → Play Handler
  | provider => do return .provider (← Run.addProvider .unbound)
  | configurator => do return .configurator (← Run.addConfigurator .unbound)
  | caller => do return .caller (← Run.addCaller .unbound)

/-- Bring a guest of a component onto the stage. -/
def GuestPlan.cast (owner : String) (plan : GuestPlan Action) : Play Handler := do
  let number := (← Play.stage).guests.length
  Play.change fun stage =>
    { stage with guests := stage.guests ++ [⟨plan, owner, plan.ready, []⟩] }
  return .guest plan.name number

/-- Bring a handler of a component onto the stage. -/
def HandlerPlan.cast (owner : String) : HandlerPlan Action → Play Handler
  | .role kind => kind.cast
  | .guest plan => plan.cast owner

/-- Bring a method of a component onto the stage. -/
def MethodPlan.cast (owner : String) (plan : MethodPlan Action) : Play Method := do
  let number := (← Play.stage).bodies.length
  Play.change fun stage =>
    { stage with bodies := stage.bodies ++ [⟨plan.name, owner, plan.script, 0⟩] }
  return ⟨plan.name, plan.isPrivate, plan.isStatic, number⟩

/-- Bring methods onto the stage; of methods with one name the last counts. -/
def castMethods (owner : String) (plans : List (MethodPlan Action)) : Play Methods := do
  let methods ← plans.mapM (MethodPlan.cast owner)
  return .ofList (methods.map fun method => (method.name, method))

/-- Let a name stand for a component. -/
def setActor (id : String) (actor : Actor) : Play Unit :=
  Play.change fun stage => { stage with actors := stage.actors.insert id actor }

/-- Give up a component. -/
def release (r : Ref .component) : Play Unit :=
  Run.changeComponent r fun component => { component with owned := false }

/-- Let the component of a name go. The answer is whether there was one that had not
been let go yet. -/
def drop (id : String) : Play Answer := do
  match ← Play.actor? id with
  | none => return .flag false
  | some actor => do
      let owned := (← Run.component actor.component).owned
      release actor.component
      return .flag owned

/-- Configure a component with handlers. -/
def configureActor (id : String) (r : Ref .component) (handlers : List Handler)
    (configuration : Properties) : Play Answer := do
  setActor id ⟨r, handlers⟩
  Component.configure out r handlers configuration
  return .texts (← Run.component r).handlerNames

/-- Configure a component with handlers that come onto the stage for it. -/
def configureNew (id : String) (r : Ref .component) (plans : List (HandlerPlan Action))
    (configuration : Properties) : Play Answer := do
  configureActor out id r (← plans.mapM (HandlerPlan.cast id)) configuration

/-- Create a component. One that had its name before is given up. -/
def create (id : String) (descriptor : ComponentDescriptor)
    (methods : List (MethodPlan Action)) (handlers : List (HandlerPlan Action))
    (configuration : Option Properties) : Play Answer := do
  match ← Play.actor? id with
  | some previous => release previous.component
  | none => pure ()
  let r ← Run.addComponent (.create descriptor (← castMethods id methods))
  setActor id ⟨r, []⟩
  match configuration with
  | some configuration => configureNew out id r handlers configuration
  | none => return .texts []

/-- Configure a component again, with new handlers or with those that it has. -/
def configure (id : String) (handlers : Option (List (HandlerPlan Action)))
    (configuration : Properties) : Play Answer :=
  withComponent id fun r => do
    match handlers with
    | some plans => configureNew out id r plans configuration
    | none =>
        let handlers := ((← Play.actor? id).map Actor.handlers).getD []
        configureActor out id r handlers configuration

end Componentry.Scenario
