import Componentry.Engine.Updating
import Componentry.Scenario.Casting
import Componentry.Scenario.Description
import Componentry.Scenario.Standalone

/-!
# Performing actions

Each action is performed by the operation of the library that it stands for, and
the answer is what the operation returns or what can be seen afterwards. Calls of
the registry and the host go through the collaborators, so that hooks see them.
-/

namespace Componentry.Scenario

variable (out : Collaborators Stage)

/-- Do something and answer that it is done. -/
def doing (operation : Play Unit) : Play Answer := do
  operation
  return .done

/-- Act on a component. -/
def performComponent (r : Ref .component) : ComponentAction → Play Answer
  | .start => doing (Component.start out r)
  | .stop => doing (Component.stop out r)
  | .checkValidity => doing (Component.checkValidity out r)
  | .setState state => doing (Component.setState out r state)
  | .setField field value => doing (Component.setField out r field value)
  | .getField field => do return .reading (← Component.getField out r field)
  | .state => do return .state (← Run.component r).state
  | .handlerNames => do return .texts (← Run.component r).handlerNames
  | .surface => do
      let surface := (← Run.component r).surface
      return .surfaceText surface surface.toText
  | .addSpecification specification =>
      doing (Component.changeSurface r (·.addSpecification specification))
  | .describe => do return .text (← Run.component r).described
  | .classNames => do
      let component ← Run.component r
      return .texts [component.className, component.className, component.descriptor.className]
  | .method name => do
      let method := (← Run.component r).methods.get? name
      return orNothing (fun method => .method method method.described) method
  | .invoke name declaredStatic => do
      match (← Run.component r).methods.get? name with
      | none => return .nothing
      | some method => return .ofInvocation (← method.invoke out r declaredStatic)
  | .subscribers => do return .count (← Play.stage).channel.subscribers

/-- Act on a handler of a component. -/
def performHandler (actor : Actor) (handler : Handler) : HandlerAction → Play Answer
  | .start => doing (handler.start out)
  | .stop => doing (handler.stop out)
  | .stateChanged state => doing (handler.stateChanged out state)
  | .fieldWritten field value => doing (handler.fieldWritten out field value)
  | .readField field value => do return .reading (← handler.readField out field value)
  | .attach fields => doing do
      if (← Run.component actor.component).owned then
        Component.attach out actor.component handler fields

/-- Act on a provider. -/
def performProvider (r : Ref .provider) : ProviderAction → Play Answer
  | .extend entries => doing (Provider.extendAll out r entries)
  | .reduce entries => doing (Provider.reduceAll out r entries)

/-- Act on a configurator. -/
def performConfigurator (r : Ref .configurator) : ConfiguratorAction → Play Answer
  | .update configuration => doing (Configurator.updated out r configuration)
  | .addProperty id => do
      match (← Play.stage).properties.get? id with
      | some property => doing (Configurator.addProperty r property)
      | none => return .nothing
  | .property name => do return orNothing .property (← Configurator.property? r name)

/-- What can be seen of a component and its handlers. -/
def snapshot (actor : Actor) : Play Snapshot := do
  let platform ← Run.platform
  let component := platform.components.get actor.component
  let view : ComponentView :=
    ⟨component.state, component.handlerNames, component.surface,
      component.provider?.isSome, component.configurator?.isSome, component.caller?.isSome⟩
  let configurator := actor.configurator?.map fun r =>
    let c := platform.configurators.get r
    ⟨c.identity, c.configurable, c.publication.isSome, c.propagated,
      c.properties.map platform.properties.get⟩
  let services := actor.provider?.map fun r =>
    (platform.providers.get r).services.map platform.services.get
  return ⟨if component.owned then some view else none, configurator, services,
    actor.caller?.map platform.callers.get⟩

/-- Deliver a configuration to a target. -/
def deliver (configuration : Option Properties) : Target → Play Unit
  | .configurator r => Configurator.updated out r configuration
  | .receiver name =>
      Play.change fun stage =>
        let items := (stage.received.get? name).getD []
        { stage with received := stage.received.insert name (items ++ [configuration]) }

/-- Deliver a configuration to all targets that are published under an identity when
the push begins. The answer is their number. -/
def push (identity : String) (configuration : Option Properties) : Play Nat := do
  let targets := (← Play.stage).host.targets identity
  if targets.isEmpty then out.note (Host.unreachedRecord identity)
  targets.forM (deliver out configuration)
  return targets.length

/-- Act on the host. -/
def performHost : HostAction → Play Answer
  | .push identity configuration => do return .count (← push out identity configuration)
  | .isPublished identity => do return .flag ((← Play.stage).host.isPublished identity)
  | .count => do
      let host := (← Play.stage).host
      return .endpoints host.endpoints.length host.described
  | .properties identity => do
      return orNothing .properties ((← Play.stage).host.properties? identity)
  | .publish identity properties receiver =>
      attempting .publication (out.publish identity properties (.receiver receiver))
  | .withdraw number => attempting (fun _ => .done) (out.withdraw ⟨number⟩)
  | .received receiver => do
      return .received (((← Play.stage).received.get? receiver).getD [])

/-- Act on the registry. -/
def performRegistry : RegistryAction → Play Answer
  | .register specifications properties factory =>
      attempting .registration (out.register specifications properties factory)
  | .unregister number => attempting (fun _ => .done) (out.unregister ⟨number⟩)
  | .update number properties => attempting (fun _ => .done) (out.update ⟨number⟩ properties)
  | .record number => do return .record ((← Play.stage).registry.record? ⟨number⟩)
  | .lookup specification => do
      return .records ((← Play.stage).registry.lookup specification)
  | .counters => do
      let registry := (← Play.stage).registry
      return .counters registry.records.length registry.registrations
        registry.unregistrations registry.updates

/-- Perform an action of a script that belongs to a component. -/
def perform (home : String) : Action → Play Answer
  | .create id descriptor methods handlers configuration =>
      create out (id.getD home) descriptor methods handlers configuration
  | .configure id handlers configuration => configure out (id.getD home) handlers configuration
  | .drop id => drop (id.getD home)
  | .component id action =>
      withComponent (id.getD home) fun r => performComponent out r action
  | .snapshot id => withActor (id.getD home) fun actor => do return .snapshot (← snapshot actor)
  | .handler id role action =>
      withActor (id.getD home) fun actor =>
        match actor.handler? role with
        | some handler => performHandler out actor handler action
        | none => return .noHandler
  | .provider id action =>
      withActor (id.getD home) fun actor =>
        match actor.provider? with
        | some r => performProvider out r action
        | none => return .noHandler
  | .configurator id action =>
      withActor (id.getD home) fun actor =>
        match actor.configurator? with
        | some r => performConfigurator out r action
        | none => return .noHandler
  | .ready id guest value =>
      withActor (id.getD home) fun actor =>
        doing (Play.change (Stage.setReady actor guest value))
  | .host action => performHost out action
  | .registry action => performRegistry out action
  | .service id action => performService out id action
  | .property id action => performProperty out id action
  | .holder id action => performHolder out id action
  | .surface id action => performSurface id action
  | .channel id action => performChannel out id action
  | .refused failure => return .failure failure
  | .fail _ => return .nothing
  | .panic _ => return .nothing

end Componentry.Scenario
