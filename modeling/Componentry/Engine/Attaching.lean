import Componentry.Engine.Run

/-!
# Attaching handlers

A handler takes part in the life of a component once it is registered. Registering
it again only adds to the fields that it is interested in.
-/

namespace Componentry.Component

variable {σ : Type} (out : Collaborators σ)

/-- The record of a new handler. -/
def registeredHandler (className : String) (handler : Handler) (fields : List String) :
    Log.Record :=
  ⟨.debug, "Handler registered",
    [Log.shown "component" className, ("handler", .quoted handler.name),
      ("fields", .quotedList fields)]⟩

/-- Register a handler with the fields that it is interested in. -/
def attach (r : Ref .component) (handler : Handler) (fields : List String) : Run σ Unit := do
  let component ← Run.component r
  if !component.isRegistered handler then
    out.note (registeredHandler component.className handler fields)
  Run.changeComponent r fun c =>
    { c with attachments := Attachment.register handler fields c.attachments }

/-- Change what others can see of the component. -/
def changeSurface (r : Ref .component) (f : Surface → Surface) : Run σ Unit :=
  Run.changeComponent r fun c => { c with surface := f c.surface }

end Componentry.Component
