import Componentry.Engine.Platform

/-!
# Running operations

An operation runs on the platform together with its surroundings, a state that the
library does not look into. It has no result when it was given up for being nested
too deeply; otherwise it always has one.

Everything outside is reached through the collaborators: the registry, the host, the
bodies of methods, the guests, the log and the event channel. A collaborator may
call back into the platform before it returns, and nothing is assumed about what it
does.
-/

namespace Componentry

/-- A platform and what is around it. -/
structure World (σ : Type) where
  platform : Platform
  surroundings : σ

/-- A computation on a world; it has no result if it was given up. -/
abbrev Run (σ α : Type) : Type := StateT (World σ) Option α

/-- What a guest is told. -/
inductive Notice
  | started
  | stopped
  | stateChanged (state : Validity)
  | fieldWritten (field : String) (value : Value)

/-- Everything outside that operations on a platform call. -/
structure Collaborators (σ : Type) where
  /-- Keep a log record. -/
  log : Log.Record → σ → σ
  /-- Announce an event. -/
  announce : Event → σ → σ
  register : List String → Properties → FactoryPolicy → Run σ (Except Failure Registration)
  unregister : Registration → Run σ (Except Failure Unit)
  update : Registration → Properties → Run σ (Except Failure Unit)
  publish : String → Properties → Target → Run σ (Except Failure Publication)
  withdraw : Publication → Run σ (Except Failure Unit)
  /-- Run the body of a method for a component. -/
  call : Nat → Ref .component → Run σ Ending
  /-- Configure a guest for a component. -/
  configure : Nat → Ref .component → ComponentDescriptor → Properties → Run σ Unit
  /-- Tell a guest something. -/
  notify : Nat → Notice → Run σ Unit
  /-- What a guest makes of the value of a field that is being read. -/
  read : Nat → String → Option Value → Run σ (Option Value)
  /-- Whether a guest lets its component be valid. -/
  ready : Nat → Run σ Bool
  /-- How often one call may send updates to the registry. -/
  rounds : Nat

namespace Run

variable {σ α : Type}

/-- Give up. -/
def giveUp : Run σ α := fun _ => none

/-- The platform. -/
def platform : Run σ Platform := do return (← get).platform

/-- Change the platform. -/
def changePlatform (f : Platform → Platform) : Run σ Unit :=
  modify fun world => { world with platform := f world.platform }

/-- The surroundings. -/
def surroundings : Run σ σ := do return (← get).surroundings

/-- Change the surroundings. -/
def changeSurroundings (f : σ → σ) : Run σ Unit :=
  modify fun world => { world with surroundings := f world.surroundings }

/-- The component of a reference. -/
def component (r : Ref .component) : Run σ Component := do return (← platform).components.get r

/-- Change the component of a reference. -/
def changeComponent (r : Ref .component) (f : Component → Component) : Run σ Unit :=
  changePlatform fun p => { p with components := p.components.modify r f }

/-- Keep a new component. -/
def addComponent (component : Component) : Run σ (Ref .component) := do
  let (r, components) := (← platform).components.add component
  changePlatform fun p => { p with components := components }
  return r

/-- The service of a reference. -/
def service (r : Ref .service) : Run σ Service := do return (← platform).services.get r

/-- Replace the service of a reference. -/
def setService (r : Ref .service) (service : Service) : Run σ Unit :=
  changePlatform fun p => { p with services := p.services.set r service }

/-- Keep a new service. -/
def addService (service : Service) : Run σ (Ref .service) := do
  let (r, services) := (← platform).services.add service
  changePlatform fun p => { p with services := services }
  return r

/-- The configurable property of a reference. -/
def property (r : Ref .property) : Run σ ConfigurableProperty := do
  return (← platform).properties.get r

/-- Replace the configurable property of a reference. -/
def setProperty (r : Ref .property) (property : ConfigurableProperty) : Run σ Unit :=
  changePlatform fun p => { p with properties := p.properties.set r property }

/-- Keep a new configurable property. -/
def addProperty (property : ConfigurableProperty) : Run σ (Ref .property) := do
  let (r, properties) := (← platform).properties.add property
  changePlatform fun p => { p with properties := properties }
  return r

/-- The provider of a reference. -/
def provider (r : Ref .provider) : Run σ Provider := do return (← platform).providers.get r

/-- Change the provider of a reference. -/
def changeProvider (r : Ref .provider) (f : Provider → Provider) : Run σ Unit :=
  changePlatform fun p => { p with providers := p.providers.modify r f }

/-- Keep a new provider. -/
def addProvider (provider : Provider) : Run σ (Ref .provider) := do
  let (r, providers) := (← platform).providers.add provider
  changePlatform fun p => { p with providers := providers }
  return r

/-- The configurator of a reference. -/
def configurator (r : Ref .configurator) : Run σ Configurator := do
  return (← platform).configurators.get r

/-- Change the configurator of a reference. -/
def changeConfigurator (r : Ref .configurator) (f : Configurator → Configurator) :
    Run σ Unit :=
  changePlatform fun p => { p with configurators := p.configurators.modify r f }

/-- Keep a new configurator. -/
def addConfigurator (configurator : Configurator) : Run σ (Ref .configurator) := do
  let (r, configurators) := (← platform).configurators.add configurator
  changePlatform fun p => { p with configurators := configurators }
  return r

/-- The caller of a reference. -/
def caller (r : Ref .caller) : Run σ Caller := do return (← platform).callers.get r

/-- Change the caller of a reference. -/
def changeCaller (r : Ref .caller) (f : Caller → Caller) : Run σ Unit :=
  changePlatform fun p => { p with callers := p.callers.modify r f }

/-- Keep a new caller. -/
def addCaller (caller : Caller) : Run σ (Ref .caller) := do
  let (r, callers) := (← platform).callers.add caller
  changePlatform fun p => { p with callers := callers }
  return r

/-- Run with the component held, so that it exists until the end. -/
def holding (r : Ref .component) (operation : Run σ α) : Run σ α := do
  changeComponent r fun c => { c with holds := c.holds + 1 }
  let result ← operation
  changeComponent r fun c => { c with holds := c.holds - 1 }
  return result

/-- Run with the component held if there is one and it still exists, and do nothing
otherwise. -/
def whileAlive (r : Option (Ref .component)) (operation : Ref .component → Run σ Unit) :
    Run σ Unit := do
  match r with
  | none => return
  | some r => if (← component r).isAlive then holding r (operation r) else return

end Run

namespace Collaborators

variable {σ : Type} (out : Collaborators σ)

/-- Log a record. -/
def note (record : Log.Record) : Run σ Unit := Run.changeSurroundings (out.log record)

/-- Log records in order. -/
def noteAll (records : List Log.Record) : Run σ Unit := records.forM out.note

/-- Announce an event. -/
def tell (event : Event) : Run σ Unit := Run.changeSurroundings (out.announce event)

/-- Log a failure that is not passed on. -/
def noteCaught (component operation : String) (failure : Failure) (context : Option String) :
    Run σ Unit :=
  out.note (Log.caught component operation failure.message context)

end Collaborators

end Componentry
