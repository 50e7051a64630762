import Componentry.Descriptor.Element
import Componentry.Failure
import Componentry.Validity

/-!
# Declared callbacks

A `callback` element names a component method and the pair of states between which
it is called.
-/

namespace Componentry

/-- A declared callback. -/
structure CallbackDescriptor where
  initial : Validity
  final : Validity
  method : String
  isStatic : Bool
  deriving DecidableEq, Repr

namespace CallbackDescriptor

/-- The callback that an element declares. Names of no state mean invalid. -/
def ofElement (e : Element) : Except DescriptorFailure CallbackDescriptor :=
  match e.attribute? "method" with
  | none => .error .callbackWithoutMethod
  | some method =>
      .ok
        ⟨.ofDeclaration ((e.attribute? "initial").getD ""),
          .ofDeclaration ((e.attribute? "final").getD ""), method,
          e.attribute? "isStatic" == some "true"⟩

/-- Whether the callback is declared for a change of state. -/
def isFor (callback : CallbackDescriptor) (transition : Transition) : Bool :=
  transition.isFrom callback.initial callback.final

end CallbackDescriptor

end Componentry
