import Componentry.Descriptor.Callback

/-!
# Component methods

The methods of an implementation by name. What a method does lies outside of the
library; here it has a visibility, belongs to the class or to an instance, and
refers to its body by a number. A callback is bound to the method that it names.
-/

namespace Componentry

/-- A method of a component implementation. -/
structure Method where
  name : String
  isPrivate : Bool
  isStatic : Bool
  /-- The number under which the body is known outside. -/
  body : Nat
  deriving DecidableEq, Repr

/-- How the body of a method ends. -/
inductive Ending
  | returned
  | failed (cause : String)
  /-- The body was broken off; the reason may have no text. -/
  | panicked (reason : Option String)
  deriving DecidableEq, Repr

/-- The methods of an implementation by name. -/
abbrev Methods := Dictionary Method

namespace Method

/-- Why a method cannot be called at all. A static declaration only finds a static
method. -/
def obstacle? (method : Method) (declaredStatic : Bool) : Option CallbackFailure :=
  if method.isPrivate then some (.inaccessible method.name)
  else if declaredStatic && !method.isStatic then some (.notFound method.name)
  else none

/-- What the end of the body means for the caller. -/
def result (method : Method) : Ending → Except CallbackFailure Unit
  | .returned => .ok ()
  | .failed cause => .error (.failed method.name cause)
  | .panicked reason =>
      .error (.failed method.name ("panicked: " ++ reason.getD "panic"))

end Method

/-- A declared callback with the method that it names. -/
structure Callback where
  declared : CallbackDescriptor
  target : Option Method
  deriving DecidableEq, Repr

namespace Callback

/-- Bind a declared callback to the method that it names, if there is one. -/
def bind (declared : CallbackDescriptor) (methods : Methods) : Callback :=
  ⟨declared, methods.get? declared.method⟩

end Callback

end Componentry
