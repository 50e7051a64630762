import Componentry.Descriptor.Element
import Componentry.Failure

/-!
# Component descriptors

The description of a component is its whole tree of elements, with the class that
the root names and what the first `Manipulation` element records of the
implementation: its fields with their types, and the interfaces it implements.
-/

namespace Componentry

/-- The description of a component. -/
structure ComponentDescriptor where
  className : String
  root : Element
  fields : Dictionary String
  interfaces : List String

namespace ComponentDescriptor

instance : Inhabited ComponentDescriptor := ⟨⟨"", default, .empty, []⟩⟩

/-- The fields with their types that an element records. An entry needs both a name
and a type, and of entries with one name the last counts. -/
def recordedFields (manipulation : Element) : Dictionary String :=
  .ofList ((manipulation.childrenNamed "Field").filterMap fun field =>
    (field.attribute? "name").bind fun name => (field.attribute? "type").map (name, ·))

/-- The interfaces that an element records. -/
def recordedInterfaces (manipulation : Element) : List String :=
  (manipulation.childrenNamed "Interface").filterMap (·.attribute? "name")

/-- The description of a class by a tree. -/
def assemble (className : String) (root : Element) : ComponentDescriptor :=
  match root.first? "Manipulation" with
  | some manipulation =>
      ⟨className, root, recordedFields manipulation, recordedInterfaces manipulation⟩
  | none => ⟨className, root, .empty, []⟩

/-- Read a description from its tree; the root must name the class. -/
def ofElement (root : Element) : Except DescriptorFailure ComponentDescriptor :=
  match root.attribute? "className" with
  | some className => .ok (assemble className root)
  | none => .error (.componentWithoutClass root.name)

/-- The element that records fields and interfaces. -/
def manipulation (fields : List (String × String)) (interfaces : List String) : Element :=
  let fieldElements := fields.map fun (name, type) =>
    ((Element.leaf "Field").withAttribute "name" name).withAttribute "type" type
  let interfaceElements := interfaces.map fun name =>
    (Element.leaf "Interface").withAttribute "name" name
  { Element.leaf "Manipulation" with children := fieldElements ++ interfaceElements }

/-- The description of a class with fields, interfaces and further elements; what is
recorded of the implementation stands behind the elements. -/
def build (className : String) (fields : List (String × String)) (interfaces : List String)
    (elements : List Element) : ComponentDescriptor :=
  let root := (Element.leaf "component").withAttribute "className" className
  assemble className { root with children := elements ++ [manipulation fields interfaces] }

/-- The recorded type of a field. -/
def fieldType? (c : ComponentDescriptor) (field : String) : Option String := c.fields.get? field

/-- Whether the implementation is recorded with an interface. -/
def implements (c : ComponentDescriptor) (specification : String) : Bool :=
  c.interfaces.contains specification

/-- Whether two descriptions are the same. -/
def same (c d : ComponentDescriptor) : Bool :=
  c.className == d.className && c.root.same d.root && decide (c.fields = d.fields) &&
    c.interfaces == d.interfaces

end ComponentDescriptor

end Componentry
