/-!
# Validity of a component

A component is valid while every handler lets it be, and starts out invalid. A
callback declares the pair of states between which it is called.
-/

namespace Componentry

/-- Whether a component may offer its services. -/
inductive Validity
  | invalid
  | valid
  deriving DecidableEq, Repr, Inhabited

namespace Validity

/-- The name of a state. -/
def name : Validity → String
  | invalid => "INVALID"
  | valid => "VALID"

/-- The state with a name. -/
def ofName? (name : String) : Option Validity :=
  if name = "VALID" then some valid
  else if name = "INVALID" then some invalid
  else none

/-- The state that a declaration names; an unknown name means invalid. -/
def ofDeclaration (name : String) : Validity := (ofName? name).getD invalid

/-- What is said about a name of no state. -/
def unknownName (name : String) : String := "Invalid component state: " ++ name

/-- Valid exactly when the condition holds. -/
def ofBool (condition : Bool) : Validity := if condition then valid else invalid

end Validity

/-- A change from one state to another. -/
structure Transition where
  source : Validity
  target : Validity
  deriving DecidableEq, Repr

namespace Transition

/-- Whether the change is the one that a declaration names. -/
def isFrom (transition : Transition) (initial final : Validity) : Bool :=
  decide (transition.source = initial) && decide (transition.target = final)

end Transition

end Componentry
