import Componentry.Descriptor.Element
import Componentry.Failure

/-!
# Declared properties

A `Property` element declares a property by its name, the field that backs it, its
type and a literal value; each may be missing, but a property without a name takes
that of its field.
-/

namespace Componentry

/-- The textual value that a declared property starts with: the text that the
configuration has under the property's name, else the declared literal, else the
text that it has under the field's name. Typed entries are passed over. -/
def initialText (name field declared : Option String) (configuration : Properties) :
    Option String :=
  let textual (key : Option String) : Option String :=
    key.bind fun key => (configuration.get? key).bind Value.text?
  (textual name).or (declared.or (textual field))

/-- The typed value that the configuration has for a property: that under its name,
else that under its field's name. -/
def typedEntry (name : String) (field : Option String) (configuration : Properties) :
    Option Value :=
  let typed (key : String) : Option Value :=
    (configuration.get? key).filter fun value => !value.isTextual
  (typed name).or (field.bind typed)

/-- A declared property of a provided service. -/
structure PropertyDescriptor where
  name : String
  field : Option String
  typeName : Option String
  value : Option String
  deriving DecidableEq, Repr

namespace PropertyDescriptor

/-- The descriptor of given parts; a name or a field is needed. -/
def make (name field typeName value : Option String) :
    Except DescriptorFailure PropertyDescriptor :=
  match name.or field with
  | some name => .ok ⟨name, field, typeName, value⟩
  | none => .error .unnamedProperty

/-- The descriptor that an element declares under a configuration. -/
def ofElement (e : Element) (configuration : Properties) :
    Except DescriptorFailure PropertyDescriptor :=
  let name := e.attribute? "name"
  let field := e.attribute? "field"
  make name field (e.attribute? "type")
    (initialText name field (e.attribute? "value") configuration)

/-- Whether the property has no field and so keeps its literal. -/
def isStatic (p : PropertyDescriptor) : Bool := p.field.isNone

end PropertyDescriptor

end Componentry
