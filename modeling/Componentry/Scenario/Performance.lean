import Componentry.Scenario.Collaborating

/-!
# Scenarios

The steps of a scenario are performed in order on one platform. After each of them
it is seen what state a component has, what has been entered into the journal, and
which events the audience has received.
-/

namespace Componentry

/-- A step: an action, and the component whose state is watched if it is not the
protagonist. -/
structure Scenario.Step where
  watched : Option String
  action : Scenario.Action

/-- A scenario on a platform with some settings. -/
structure Scenario where
  settings : Settings
  /-- The component that is meant where none is named. -/
  protagonist : String
  hooks : List Scenario.Hook
  steps : List Scenario.Step

namespace Scenario

/-- What is seen of a step. -/
structure StepReport where
  answer : Answer
  state : Option Validity
  entries : List Entry
  events : Delivery Event

/-- What is seen of a performance. -/
structure Report where
  setUp : List Log.Record
  steps : List StepReport

/-- The number of levels of scripts. -/
def levels : Nat := 1000000

/-- The state of a component that has not been let go. -/
def watch (id : String) : Play (Option Validity) := do
  match ← Play.actor? id with
  | none => return none
  | some actor => do
      let component ← Run.component actor.component
      return if component.owned then some component.state else none

/-- Take what has happened since the step before. -/
def takeJournal : Play (List Entry) := do
  let entries := (← Play.stage).journal.reverse
  Play.change fun stage => { stage with journal := [] }
  return entries

/-- Take the events that the audience has not received yet. -/
def takeEvents : Play (Delivery Event) := do
  let (delivery, channel) := (← Play.stage).channel.receive Stage.audience
  Play.change fun stage => { stage with channel := channel }
  return delivery

/-- Perform a step. -/
def performStep (threshold : Log.Threshold) (step : Step) : Play StepReport := do
  let home := (← Play.stage).protagonist
  let answer ← perform (collaborators levels) home step.action
  return ⟨answer, ← watch (step.watched.getD home),
    (← takeJournal).filter (Entry.isShown threshold), ← takeEvents⟩

/-- The platform and the stage before the first step. -/
def start (scenario : Scenario) : World Stage :=
  ⟨.ofSettings scenario.settings,
    .initial scenario.settings scenario.protagonist scenario.hooks⟩

/-- Perform a scenario and report the log records that pass a threshold. There is no
report if a step was given up. -/
def perform? (scenario : Scenario) (threshold : Log.Threshold) : Option Report :=
  ((scenario.steps.mapM (performStep threshold)).run scenario.start).map fun (reports, _) =>
    ⟨(Platform.notes scenario.settings).filter fun note => threshold.passes note.level,
      reports⟩

end Scenario

end Componentry
