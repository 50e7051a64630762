import Componentry.Engine.Attaching

/-!
# The caller

A caller calls the methods that callbacks declare for a change of state. It follows
the states on its own, so that a callback is called on the change that the caller
sees. Whether a method fails, is broken off or cannot be called concerns no other
callback.
-/

namespace Componentry

variable {σ : Type} (out : Collaborators σ)

/-- Call a method for a component. -/
def Method.invoke (method : Method) (component : Ref .component) (declaredStatic : Bool) :
    Run σ (Except CallbackFailure Unit) := do
  match method.obstacle? declaredStatic with
  | some failure => return .error failure
  | none => return method.result (← out.call method.body component)

/-- Call the method of a callback. -/
def Callback.invoke (callback : Callback) (component : Ref .component) :
    Run σ (Except CallbackFailure Unit) := do
  match callback.target with
  | none => return .error (.notFound callback.declared.method)
  | some method => method.invoke out component callback.declared.isStatic

namespace Caller

/-- Read the callbacks that elements declare, with a note for each one that is left
out or names no method. -/
def readCallbacks (className : String) (methods : Methods) :
    List Element → List Callback × List Log.Record
  | [] => ([], [])
  | e :: rest =>
      let (callbacks, notes) := readCallbacks className methods rest
      match CallbackDescriptor.ofElement e with
      | .error cause =>
          (callbacks,
            ⟨.error, "Ignoring malformed callback",
              [Log.shown "component" className,
                Log.shown "error" (Failure.descriptor cause).message]⟩ :: notes)
      | .ok declared =>
          let callback := Callback.bind declared methods
          let unbound :=
            if callback.target.isSome then []
            else
              [⟨.warn, "Callback method not found in the implementation",
                [Log.shown "component" className, Log.shown "method" declared.method]⟩]
          (callback :: callbacks, unbound ++ notes)

/-- Configure the caller for a component. It registers only if there is a callback. -/
def configure (r : Ref .caller) (component : Ref .component)
    (descriptor : ComponentDescriptor) : Run σ Unit := do
  let methods := (← Run.component component).methods
  let (callbacks, notes) :=
    readCallbacks descriptor.className methods (descriptor.root.childrenNamed "callback")
  out.noteAll notes
  Run.changeCaller r fun _ => ⟨some component, callbacks, .invalid⟩
  if callbacks.isEmpty then return
  Component.attach out component (.caller r) []
  out.note
    (Log.handlerOperation "configure" descriptor.className "lifecycle_callback" "registered"
      (some (String.ofList (Numeral.ofNat callbacks.length) ++ " callbacks")))

/-- Stop: the next change is seen from the invalid state. -/
def stop (r : Ref .caller) : Run σ Unit :=
  Run.changeCaller r fun c => { c with tracked := .invalid }

/-- The record of a callback that did not run to its end. -/
def failedCallback (className : String) : CallbackFailure → Log.Record
  | .notFound method =>
      ⟨.error, "Cannot call the callback: method not found",
        [Log.shown "component" className, Log.shown "method" method]⟩
  | .inaccessible method =>
      ⟨.error, "Cannot call the callback: method not accessible",
        [Log.shown "component" className, Log.shown "method" method]⟩
  | .failed method cause =>
      ⟨.error, "The callback failed",
        [Log.shown "component" className, Log.shown "method" method,
          Log.shown "error" cause]⟩

/-- Call a callback and log how it failed, if it did. -/
def run (className : String) (component : Ref .component) (callback : Callback) :
    Run σ Unit := do
  out.note
    ⟨.debug, "Calling lifecycle callback",
      [Log.shown "component" className, Log.shown "method" callback.declared.method]⟩
  match ← callback.invoke out component with
  | .ok () => return
  | .error failure => out.note (failedCallback className failure)

/-- Follow a change of state: the new state is tracked first, then the callbacks
declared for the change are called in order. -/
def stateChanged (r : Ref .caller) (state : Validity) : Run σ Unit := do
  let before ← Run.caller r
  let transition : Transition := ⟨before.tracked, state⟩
  Run.changeCaller r fun c => { c with tracked := state }
  Run.whileAlive before.component fun component => do
    let className := (← Run.component component).className
    (before.callbacks.filter fun callback => callback.declared.isFor transition).forM
      (run out className component)

end Caller

end Componentry
