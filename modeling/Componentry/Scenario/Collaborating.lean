import Componentry.Scenario.Performing

/-!
# The collaborators of a scenario

The registry and the host of the stage with hooks around every call, the bodies of
methods, and the guests. All of these run scripts, and the actions of a script use
the collaborators again, one level further down. Levels are counted, and below the
last one everything is given up; an operation that ends uses only so many of them.
-/

namespace Componentry.Scenario

section Scripts

variable (out : Collaborators Stage)

/-- Whether an action is skipped in a run of its script. -/
def Cue.isSkipped {α : Type} (cue : Cue α) (run : Nat) : Bool := cue.first.any (· < run)

/-- Run a script of a component for the given time. -/
def runScript (home : String) (run : Nat) : Script → Play Ending
  | [] => return .returned
  | cue :: rest => do
      if cue.isSkipped run then runScript home run rest
      else
        match cue.action with
        | .fail message => return .failed message
        | .panic reason => return .panicked reason
        | action => do
            let answer ← perform out home action
            Play.enter (.did cue.label answer)
            runScript home run rest

/-- Run the scripts of hooks. The answer is the first failure that they ask for. -/
def runHooks (hooks : List Hook) : Play (Option String) := do
  let home := (← Play.stage).protagonist
  hooks.forM fun hook => discard (runScript out home 1 hook.script)
  return hooks.findSome? Hook.failure

/-- Make a call of a collaborator with the hooks around it. A hook before the call
can take its place, and one behind it can hide how it ended. -/
def hooked {α : Type} (call : Call) (inner : Play (Except Failure α)) :
    Play (Except Failure α) := do
  Play.change (Stage.count call)
  let stage ← Play.stage
  let number := stage.callsOf call
  match ← runHooks out (stage.hooksOn call false number) with
  | some reason => refuse false reason
  | none => do
      let result ← inner
      match ← runHooks out (stage.hooksOn call true number) with
      | some reason => refuse true reason
      | none => return result
where
  /-- Let the call fail. -/
  refuse (after : Bool) (reason : String) : Play (Except Failure α) := do
    Play.enter (.hooked call after reason)
    return .error (.registry (.refused reason))

/-- Call the registry or the host of the stage and enter how it went. -/
def calling {α β : Type} (call : Call) (result : Except Failure α)
    (succeed : α → Play β) : Play (Except Failure β) := do
  match result with
  | .ok a => return .ok (← succeed a)
  | .error failure => do
      Play.enter (.refused call failure)
      return .error failure

/-- Register a service with the registry of the stage. -/
def register (specifications : List String) (properties : Properties)
    (factory : FactoryPolicy) : Play (Except Failure Registration) := do
  let result := (← Play.stage).registry.register specifications properties factory
  calling .register result fun (handle, registry) => do
    Play.change fun stage => { stage with registry := registry }
    out.note (Registry.registeredRecord handle specifications)
    Play.enter (.registered handle specifications properties factory)
    return handle

/-- Take back a registration from the registry of the stage. -/
def unregister (handle : Registration) : Play (Except Failure Unit) := do
  calling .unregister ((← Play.stage).registry.unregister handle) fun registry => do
    Play.change fun stage => { stage with registry := registry }
    out.note (Registry.unregisteredRecord handle)
    Play.enter (.unregistered handle)

/-- Update a registration in the registry of the stage. -/
def update (handle : Registration) (properties : Properties) : Play (Except Failure Unit) := do
  calling .update ((← Play.stage).registry.update handle properties) fun registry => do
    Play.change fun stage => { stage with registry := registry }
    Play.enter (.updated handle properties)

/-- Publish an endpoint on the host of the stage. -/
def publish (identity : String) (properties : Properties) (target : Target) :
    Play (Except Failure Publication) := do
  let (handle, host) := (← Play.stage).host.publish identity properties target
  Play.change fun stage => { stage with host := host }
  out.note (Host.publishedRecord handle identity)
  Play.enter (.published handle identity properties)
  return .ok handle

/-- Withdraw an endpoint from the host of the stage. -/
def withdraw (handle : Publication) : Play (Except Failure Unit) := do
  calling .withdraw ((← Play.stage).host.withdraw handle) fun host => do
    Play.change fun stage => { stage with host := host }
    out.note (Host.withdrawnRecord handle)
    Play.enter (.withdrawn handle)

/-- Run the body of a method. -/
def call (number : Nat) : Play Ending := do
  match (← Play.stage).bodies[number]? with
  | none => return .returned
  | some body => do
      Play.enter (.called body.method)
      Play.change (Stage.changeBody number fun b => { b with runs := b.runs + 1 })
      runScript out body.owner (body.runs + 1) body.script

/-- Let a guest enter what it is told, unless it is silent. -/
def overhear (guest : Guest) (event : GuestEvent) : Play Unit :=
  if guest.plan.silent then return else Play.enter (.guest guest.plan.name event)

/-- Run the script of a guest for an occasion. -/
def runGuest (number : Nat) (guest : Guest) (occasion : Occasion) : Play Unit := do
  Play.change
    (Stage.changeGuest number fun g => { g with occasions := occasion :: g.occasions })
  let run := guest.occasions.count occasion + 1
  discard (runScript out guest.owner run (guest.plan.scripts.on occasion))

/-- Configure a guest. It registers first, if it does. -/
def configureGuest (number : Nat) (component : Ref .component) (configuration : Properties) :
    Play Unit := do
  match (← Play.stage).guests[number]? with
  | none => return
  | some guest => do
      overhear guest (.configured configuration)
      if guest.plan.registers then
        Component.attach out component (.guest guest.plan.name number)
          (guest.plan.fields.getD [])
      runGuest out number guest .configured

/-- The occasion of what a guest is told. -/
def occasionOf : Notice → Occasion
  | .started => .started
  | .stopped => .stopped
  | .stateChanged .valid => .valid
  | .stateChanged .invalid => .invalid
  | .fieldWritten _ _ => .written

/-- Tell a guest something. -/
def notifyGuest (number : Nat) (notice : Notice) : Play Unit := do
  match (← Play.stage).guests[number]? with
  | none => return
  | some guest => do
      overhear guest (.noticed notice)
      runGuest out number guest (occasionOf notice)

end Scripts

/-- What a guest makes of the value of a field. -/
def Reading.apply : Reading → Option Value → Option Value
  | .pass, value => value
  | .nothing, _ => none
  | .wrap, value =>
      some (.ofProperties (Dictionary.empty.insert "wrapped" (value.getD .null)))
  | .constant value, _ => some value

/-- Let a guest read a field. -/
def readGuest (number : Nat) (field : String) (value : Option Value) :
    Play (Option Value) := do
  match (← Play.stage).guests[number]? with
  | none => return value
  | some guest => do
      overhear guest (.read field value)
      return guest.plan.reading.apply value

/-- Whether a guest is ready. -/
def isGuestReady (number : Nat) : Play Bool := do
  return ((← Play.stage).guests[number]?).all Guest.ready

/-- The number of updates that one call may send. -/
def rounds : Nat := 1000000

/-- Announce an event to the audience. -/
def Stage.announce (event : Event) (stage : Stage) : Stage :=
  { stage with channel := stage.channel.send event }

/-- The collaborators with some levels below them. -/
def collaborators : (levels : Nat) → Collaborators Stage
  | 0 =>
    { log := fun record => Stage.enter (.log record)
      announce := Stage.announce
      register := fun _ _ _ => Run.giveUp
      unregister := fun _ => Run.giveUp
      update := fun _ _ => Run.giveUp
      publish := fun _ _ _ => Run.giveUp
      withdraw := fun _ => Run.giveUp
      call := fun _ _ => Run.giveUp
      configure := fun _ _ _ _ => Run.giveUp
      notify := fun _ _ => Run.giveUp
      read := readGuest
      ready := isGuestReady
      rounds := rounds }
  | levels + 1 =>
    { log := fun record => Stage.enter (.log record)
      announce := Stage.announce
      register := fun specifications properties factory =>
        let below := collaborators levels
        hooked below .register (register below specifications properties factory)
      unregister := fun handle =>
        let below := collaborators levels
        hooked below .unregister (unregister below handle)
      update := fun handle properties =>
        hooked (collaborators levels) .update (update handle properties)
      publish := fun identity properties target =>
        let below := collaborators levels
        hooked below .publish (publish below identity properties target)
      withdraw := fun handle =>
        let below := collaborators levels
        hooked below .withdraw (withdraw below handle)
      call := fun number _ => call (collaborators levels) number
      configure := fun number component _ configuration =>
        configureGuest (collaborators levels) number component configuration
      notify := fun number notice => notifyGuest (collaborators levels) number notice
      read := readGuest
      ready := isGuestReady
      rounds := rounds }

end Componentry.Scenario
