import Componentry.Engine.Run

/-!
# Services and the registry

A service registers itself, takes its registration back, and tells the registry of
every change while it is registered. The registry may change the service while it is
being called. So after each update the service is looked at again: if it has lost
that registration there is nothing more to tell, and if it has a newer revision that
one is sent too.
-/

namespace Componentry.Service

variable {σ : Type} (out : Collaborators σ)

/-- Tell the registry of updates until it knows the newest revision. At most
`rounds` updates are sent. -/
def push (r : Ref .service) : (rounds : Nat) → Option Update → Run σ (Except Failure Unit)
  | _, none => return .ok ()
  | 0, some _ => Run.giveUp
  | rounds + 1, some update => do
      let pushed ← out.update update.handle update.properties
      let service ← Run.service r
      if service.registration ≠ some update.handle then return .ok ()
      match pushed with
      | .error failure => return .error failure
      | .ok () =>
          push r rounds
            (if service.revision ≠ update.revision then service.snapshot else none)

/-- Replace the service by a changed one and tell the registry. -/
def commit (r : Ref .service) (changed : Service) : Run σ (Except Failure Unit) := do
  Run.setService r changed
  push out r out.rounds changed.snapshot

/-- Write a field. The answer is whether that changed the service. -/
def write (r : Ref .service) (field : String) (value : Value) : Run σ (Except Failure Bool) := do
  match (← Run.service r).written? field value with
  | none => return .ok false
  | some changed => return (← commit out r changed).map fun _ => true

/-- Propagate entries onto the service. -/
def extend (r : Ref .service) (entries : Properties) : Run σ (Except Failure Unit) := do
  match (← Run.service r).extended? entries with
  | none => return .ok ()
  | some changed => commit out r changed

/-- Remove propagated entries by their keys. -/
def reduce (r : Ref .service) (entries : Properties) : Run σ (Except Failure Unit) := do
  match (← Run.service r).reduced? entries with
  | none => return .ok ()
  | some changed => commit out r changed

/-- Register the service unless it is registered. The answer is whether a new
registration was made. What changed while the registry was being called is sent
behind. -/
def register (r : Ref .service) : Run σ (Except Failure Bool) := do
  let service ← Run.service r
  if service.registration.isSome then return .ok false
  match ← out.register service.specifications service.visible service.declared.factory with
  | .error failure => return .error failure
  | .ok handle =>
      let registered := { ← Run.service r with registration := some handle }
      Run.setService r registered
      let pending :=
        if registered.revision ≠ service.revision then registered.snapshot else none
      return (← push out r out.rounds pending).map fun _ => true

/-- Take the registration back if there is one. The answer is whether one was
released. -/
def unregister (r : Ref .service) : Run σ (Except Failure Bool) := do
  let service ← Run.service r
  match service.registration with
  | none => return .ok false
  | some handle =>
      Run.setService r { service with registration := none }
      return (← out.unregister handle).map fun _ => true

end Componentry.Service
