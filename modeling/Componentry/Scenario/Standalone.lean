import Componentry.Engine.Registering
import Componentry.Scenario.Stage

/-!
# Objects that stand by themselves

A scenario can also create services, properties, surfaces and channels that belong
to no component, and act on them under names. A service of this kind uses the same
registry as those of components.
-/

namespace Componentry.Scenario

variable (out : Collaborators Stage)

/-- The answer where something may be missing. -/
def orNothing {α : Type} (answer : α → Answer) : Option α → Answer
  | some a => answer a
  | none => .nothing

/-- Do something that may fail and answer how it ended. -/
def attempting {α : Type} (answer : α → Answer) (operation : Play (Except Failure α)) :
    Play Answer := do
  return .ofExcept answer (← operation)

/-- Act on a service that stands by itself. -/
def performService (id : String) (action : ServiceAction) : Play Answer := do
  match action, (← Play.stage).services.get? id with
  | .create declared, _ => do
      let (service, notes) := Service.create declared
      out.noteAll notes
      let r ← Run.addService service
      Play.change fun stage => { stage with services := stage.services.insert id r }
      return .service service
  | _, none => return .nothing
  | .view, some r => return .service (← Run.service r)
  | .register, some r => attempting .flag (Service.register out r)
  | .unregister, some r => attempting .flag (Service.unregister out r)
  | .write field value, some r => attempting .flag (Service.write out r field value)
  | .read field, some r => return .reading ((← Run.service r).field? field)
  | .hasField field, some r => return .flag ((← Run.service r).hasField field)
  | .extend entries, some r => attempting (fun _ => .done) (Service.extend out r entries)
  | .reduce entries, some r => attempting (fun _ => .done) (Service.reduce out r entries)
  | .configure configuration, some r => do
      let service := (← Run.service r).configured configuration
      Run.setService r service
      return .service service

/-- Act on a configurable property that stands by itself. -/
def performProperty (id : String) (action : PropertyAction) : Play Answer := do
  match action, (← Play.stage).properties.get? id with
  | .create name field initial typeName, _ => do
      let (property, notes) := ConfigurableProperty.create name field initial typeName
      out.noteAll notes
      let r ← Run.addProperty property
      Play.change fun stage => { stage with properties := stage.properties.insert id r }
      return .property property
  | _, none => return .nothing
  | .view, some r => return .property (← Run.property r)
  | .assign value, some r => do
      let property ← Run.property r
      match property.assign? value with
      | none => return .assigned false property
      | some changed => do
          Run.setProperty r changed
          return .assigned true changed
  | .coerce value, some r => do
      let (coerced, notes) := (← Run.property r).coerce value
      out.noteAll notes
      return .value coerced

/-- Act on a service property that stands by itself. -/
def performHolder (id : String) (action : HolderAction) : Play Answer := do
  match action, (← Play.stage).holders.get? id with
  | .create declared, _ => do
      let (holder, notes) := ServiceProperty.create declared
      out.noteAll notes
      keep holder
      return .holder holder
  | _, none => return .nothing
  | .view, some holder => return .holder holder
  | .assign value, some holder =>
      match holder.assign? value with
      | none => return .holderAssigned false holder
      | some changed => do
          keep changed
          return .holderAssigned true changed
where
  /-- Keep the property under its name. -/
  keep (holder : ServiceProperty) : Play Unit :=
    Play.change fun stage => { stage with holders := stage.holders.insert id holder }

/-- Act on a surface that stands by itself. -/
def performSurface (id : String) (action : SurfaceAction) : Play Answer := do
  match action, (← Play.stage).surfaces.get? id with
  | .create className, _ => keep (.ofClass className)
  | _, none => return .nothing
  | .addSpecification specification, some surface =>
      keep (surface.addSpecification specification)
  | .addProperty property, some surface => keep (surface.addProperty property)
  | .provides specification, some surface => return .flag (surface.provides specification)
  | .property name, some surface =>
      return orNothing .surfaceProperty (surface.property? name)
  | .text, some surface => return .text surface.toText
where
  /-- Keep the surface under its name and show it. -/
  keep (surface : Surface) : Play Answer := do
    Play.change fun stage => { stage with surfaces := stage.surfaces.insert id surface }
    return .surface surface

/-- The record of an event that nobody is subscribed to. -/
def unheardRecord : Log.Record := ⟨.trace, "No lifecycle event subscribers", []⟩

/-- Act on a channel that stands by itself. What a subscriber receives depends on it
alone, since it listens to one channel at a time. -/
def performChannel (id : String) (action : ChannelAction) : Play Answer := do
  match action, (← Play.stage).switchboard.channel? id with
  | .create capacity, _ => change (·.connect id capacity)
  | .receive subscriber, _ => do
      let (delivery, board) := (← Play.stage).switchboard.receive subscriber
      discard (change fun _ => board)
      return .delivery delivery
  | _, none => return .nothing
  | .subscribe subscriber, some _ => change (·.subscribe id subscriber)
  | .unsubscribe subscriber, some _ => change (·.unsubscribe subscriber)
  | .publish event, some channel => do
      if channel.subscribers = 0 then out.note unheardRecord
      change (·.send id event)
where
  /-- Change the switchboard and count the subscribers of the channel. -/
  change (f : Switchboard Event → Switchboard Event) : Play Answer := do
    Play.change fun stage => { stage with switchboard := f stage.switchboard }
    let channel := (← Play.stage).switchboard.channel? id
    return orNothing (fun channel => .count channel.subscribers) channel

end Componentry.Scenario
