import Componentry.Engine.Handling

/-!
# The life of a component

A component is configured, started and stopped, and drives its handlers through all
of it in the order of their registration. It is valid while all of them are ready.
Every write and read of a field passes through the handlers that are interested in
it.

A change of state is told to the handlers one after the other. A handler may change
the state again while it is told; then the handlers behind it are not told of the
older change unless the state has come back to what they would have been told.
-/

namespace Componentry.Component

variable {σ : Type} (out : Collaborators σ)

/-- The record of something that a component has done. -/
def report (level : Log.Level) (message className : String)
    (fields : List (String × Log.Content)) : Log.Record :=
  ⟨level, message, Log.shown "component" className :: fields⟩

/-- Configure handlers in order. Those that do not register stay out. -/
def configure (r : Ref .component) (candidates : List Handler) (configuration : Properties) :
    Run σ Unit :=
  Run.holding r do
    let descriptor := (← Run.component r).descriptor
    candidates.forM fun handler => handler.configure out r descriptor configuration
    out.note
      (report .info "Component configured" descriptor.className
        [("handlers", .quotedList (← Run.component r).handlerNames)])

/-- Tell handlers of a change of state, one by one while it still holds. -/
def dispatch (r : Ref .component) (state : Validity) : List Handler → Run σ Unit
  | [] => return
  | handler :: rest => do
      let component ← Run.component r
      if component.state ≠ state then
        out.note
          (report .debug "Transition superseded, remaining handlers skipped"
            component.className [Log.shown "to" state.name])
      else
        handler.stateChanged out state
        dispatch r state rest

/-- Record a state and tell the handlers, unless it is the state already. -/
def setState (r : Ref .component) (state : Validity) : Run σ Unit :=
  Run.holding r do
    let component ← Run.component r
    if component.state = state then return
    let transition : Transition := ⟨component.state, state⟩
    Run.changeComponent r fun c => { c with state := state }
    out.note
      (report .info "Component state changed" component.className
        [Log.shown "from" transition.source.name, Log.shown "to" transition.target.name])
    out.tell (.stateChanged component.className transition)
    dispatch out r state (← Run.component r).handlers

/-- Whether all handlers are ready; the first one that is not decides. -/
def allReady : List Handler → Run σ Bool
  | [] => return true
  | handler :: rest => do if ← handler.isReady out then allReady rest else return false

/-- Be valid exactly if all handlers are ready. -/
def checkValidity (r : Ref .component) : Run σ Unit :=
  Run.holding r do
    let ready ← allReady out (← Run.component r).handlers
    setState out r (.ofBool ready)

/-- Start the handlers in order, then look whether the component is valid. -/
def start (r : Ref .component) : Run σ Unit :=
  Run.holding r do
    let component ← Run.component r
    component.handlers.forM fun handler => handler.start out
    out.note (report .info "Component started" component.className [])
    checkValidity out r

/-- Stop the handlers in order. The component ends invalid, and no handler is told. -/
def stop (r : Ref .component) : Run σ Unit :=
  Run.holding r do
    let component ← Run.component r
    component.handlers.forM fun handler => handler.stop out
    Run.changeComponent r fun c => { c with state := .invalid }
    out.note (report .info "Component stopped" component.className [])

/-- Write a field: the interested handlers are told first, then the value is stored. -/
def setField (r : Ref .component) (field : String) (value : Value) : Run σ Unit :=
  Run.holding r do
    ((← Run.component r).interested field).forM fun handler =>
      handler.fieldWritten out field value
    Run.changeComponent r fun c => { c with fields := c.fields.insert field value }

/-- Read a field: the stored value as the interested handlers change it in turn. -/
def getField (r : Ref .component) (field : String) : Run σ (Option Value) :=
  Run.holding r do
    let component ← Run.component r
    (component.interested field).foldlM
      (fun value handler => handler.readField out field value) (component.fields.get? field)

end Componentry.Component
