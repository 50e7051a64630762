import Componentry.Json.Writer

/-!
# The surface of a component

What others can see of a component: its class, the specifications that it provides,
and a description of its properties.
-/

namespace Componentry

/-- The description of a property. -/
structure SurfaceProperty where
  name : String
  typeName : Option String
  value : String
  deriving DecidableEq, Repr

/-- What others can see of a component. -/
structure Surface where
  className : String
  specifications : List String
  properties : List SurfaceProperty
  deriving DecidableEq, Repr, Inhabited

namespace SurfaceProperty

/-- The document of a described property. -/
def toJson (property : SurfaceProperty) : Json :=
  .object
    [("name", .string property.name), ("type", .ofString? property.typeName),
      ("value", .string property.value)]

end SurfaceProperty

namespace Surface

/-- The surface of a class that shows nothing else yet. -/
def ofClass (className : String) : Surface := ⟨className, [], []⟩

/-- Whether a specification is provided. -/
def provides (surface : Surface) (specification : String) : Bool :=
  surface.specifications.contains specification

/-- Add a specification, unless it is provided already. -/
def addSpecification (surface : Surface) (specification : String) : Surface :=
  if surface.provides specification then surface
  else { surface with specifications := surface.specifications ++ [specification] }

/-- Add the description of a property; descriptions may share a name. -/
def addProperty (surface : Surface) (property : SurfaceProperty) : Surface :=
  { surface with properties := surface.properties ++ [property] }

/-- The first described property with a name. -/
def property? (surface : Surface) (name : String) : Option SurfaceProperty :=
  surface.properties.find? fun property => property.name == name

/-- The document of a surface. -/
def toJson (surface : Surface) : Json :=
  .object
    [("class_name", .string surface.className),
      ("provided_service_specifications", .array (surface.specifications.map .string)),
      ("properties", .array (surface.properties.map SurfaceProperty.toJson))]

/-- The indented JSON text of a surface. -/
def toText (surface : Surface) : String := surface.toJson.indented

end Surface

end Componentry
