import Componentry.Engine.Living

/-!
# Applying configuration updates

An update is a dictionary. The entries under names of properties are brought to
their types and, where they change something, written: through the field if there is
one, so that every interested handler sees the write. All other entries are
propagated onto the services of the component, in place of those that the update
before has propagated.
-/

namespace Componentry.Configurator

variable {σ : Type} (out : Collaborators σ)

/-- The first property with a name among references. -/
def find? (name : String) : List (Ref .property) → Run σ (Option (Ref .property))
  | [] => return none
  | r :: rest => do if (← Run.property r).name = name then return some r else find? name rest

/-- Bring an entry to the type of its property, and write it if that changes the
property. -/
def applyEntry (component : Ref .component) (r : Ref .property) (incoming : Value) :
    Run σ Unit := do
  let property ← Run.property r
  let (value, notes) := property.coerce incoming
  out.noteAll notes
  if property.holds value then return
  match property.field with
  | some field => Component.setField out component field value
  | none => Run.setProperty r (property.assign value)

/-- The record of an entry without a property. -/
def propagatedEntry (className key : String) : Log.Record :=
  ⟨.info, "The property will be propagated to service registrations",
    [Log.shown "component" className, Log.shown "property" key]⟩

/-- Apply entries in order; those without a property are handed back. -/
def applyEntries (component : Ref .component) (className : String)
    (properties : List (Ref .property)) :
    List (String × Value) → Run σ (List (String × Value))
  | [] => return []
  | (key, incoming) :: rest => do
      match ← find? key properties with
      | some r =>
          applyEntry out component r incoming
          applyEntries component className properties rest
      | none =>
          out.note (propagatedEntry className key)
          return (key, incoming) :: (← applyEntries component className properties rest)

/-- Put entries onto the services of the component in place of those propagated
before. -/
def propagate (r : Ref .configurator) (component : Ref .component) (entries : Properties) :
    Run σ Unit := do
  let previous := (← Run.configurator r).propagated
  if entries.isEmpty && previous.isEmpty then return
  let holder ← Run.component component
  match holder.provider? with
  | none =>
      out.note
        (Component.report .debug "No provided services to propagate to" holder.className [])
  | some provider =>
      out.note
        (Component.report .info "Properties will be propagated" holder.className
          [("keys", .quotedList entries.keys)])
      if !previous.isEmpty then Provider.reduceAll out provider previous
      if !entries.isEmpty then Provider.extendAll out provider entries
      Run.changeConfigurator r fun c => { c with propagated := entries }

/-- The record of an update without a configuration. -/
def nullUpdate (className identity : String) : Log.Record :=
  ⟨.warn, "The pushed configuration is null",
    [Log.shown "component" className, Log.shown "identity" identity]⟩

/-- Apply an update. One without a configuration changes nothing. -/
def updated (r : Ref .configurator) (configuration : Option Properties) : Run σ Unit := do
  let before ← Run.configurator r
  Run.whileAlive before.component fun component => do
    let className := (← Run.component component).className
    match configuration with
    | none => out.note (nullUpdate className before.identity)
    | some configuration =>
        let unmatched ←
          applyEntries out component className before.properties configuration.entries
        propagate out r component (.ofList unmatched)

end Componentry.Configurator
