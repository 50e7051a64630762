import Componentry.Failure
import Componentry.Log

/-!
# Configuration hosts

A host holds the endpoints through which components can be configured anew. An
endpoint is published under an identity for a target; what is pushed to an identity
goes to every target published under it.
-/

namespace Componentry

/-- A handle on a published endpoint. Handles are numbered in order of creation. -/
structure Publication where
  number : Nat
  deriving DecidableEq, Repr

/-- The text of a handle. -/
def Publication.text (handle : Publication) : String :=
  "publication:#" ++ String.ofList (Numeral.ofNat handle.number)

/-- A published endpoint. -/
structure Endpoint (τ : Type) where
  handle : Publication
  identity : String
  properties : Properties
  target : τ

/-- The published endpoints in order of their handles. -/
structure Host (τ : Type) where
  endpoints : List (Endpoint τ)
  published : Nat

namespace Host

variable {τ : Type}

/-- The host without endpoints. -/
def empty : Host τ := ⟨[], 0⟩

instance : Inhabited (Host τ) := ⟨empty⟩

/-- The endpoints of an identity. -/
def endpointsOf (host : Host τ) (identity : String) : List (Endpoint τ) :=
  host.endpoints.filter fun endpoint => endpoint.identity == identity

/-- Whether there is an endpoint of an identity. -/
def isPublished (host : Host τ) (identity : String) : Bool :=
  !(host.endpointsOf identity).isEmpty

/-- The properties that the first endpoint of an identity was published with. -/
def properties? (host : Host τ) (identity : String) : Option Properties :=
  ((host.endpointsOf identity).head?).map Endpoint.properties

/-- The targets that a push to an identity reaches. -/
def targets (host : Host τ) (identity : String) : List τ :=
  (host.endpointsOf identity).map Endpoint.target

/-- Publish an endpoint. -/
def publish (host : Host τ) (identity : String) (properties : Properties) (target : τ) :
    Publication × Host τ :=
  let handle : Publication := ⟨host.published + 1⟩
  (handle, ⟨host.endpoints ++ [⟨handle, identity, properties, target⟩], host.published + 1⟩)

/-- Withdraw an endpoint. -/
def withdraw (host : Host τ) (handle : Publication) : Except Failure (Host τ) :=
  if host.endpoints.any fun endpoint => endpoint.handle == handle then
    .ok { host with endpoints := host.endpoints.filter fun e => e.handle != handle }
  else .error (.unknownHandle handle.text)

/-- The record of a published endpoint. -/
def publishedRecord (handle : Publication) (identity : String) : Log.Record :=
  ⟨.debug, "Configuration endpoint published",
    [Log.shown "handle" handle.text, Log.shown "identity" identity]⟩

/-- The record of a withdrawn endpoint. -/
def withdrawnRecord (handle : Publication) : Log.Record :=
  ⟨.debug, "Configuration endpoint withdrawn", [Log.shown "handle" handle.text]⟩

/-- The record of a push that reaches no target. -/
def unreachedRecord (identity : String) : Log.Record :=
  ⟨.warn, "No configuration target published", [Log.shown "identity" identity]⟩

end Host

end Componentry
