import Componentry.Text.Blank
import Componentry.Value.Render

/-!
# Bringing text to a type

A type name is a base name with any number of `[]` behind it, and blanks around it
and before each `[]` do not count. The literal of an array type is a list of item
literals between braces with commas between them; a base type has the literals of
its scalar. A base name that names no scalar keeps the text as it is.
-/

namespace Componentry

/-- A type name as it is written, level by level: every array type keeps its own
trimmed text. -/
inductive TypeName
  | base (name : String)
  | array (name : String) (item : TypeName)
  deriving DecidableEq, Repr

namespace TypeName

/-- The type name whose text, without leading blanks, is the reverse of `letters`. -/
def ofReversed : List Char → TypeName
  | ']' :: '[' :: rest => array (String.ofList (']' :: '[' :: rest).reverse) (ofReversed rest)
  | c :: rest =>
      if Text.isBlank c then ofReversed rest else base (String.ofList (c :: rest).reverse)
  | [] => base ""

/-- Read a type name. -/
def read (name : String) : TypeName := ofReversed (Text.trimLeft name.toList).reverse

end TypeName

/-- The types whose literals are not kept as they are. -/
inductive Scalar
  | signed
  | unsigned
  | double
  | boolean
  | character
  deriving DecidableEq, Repr

namespace Scalar

/-- The names of the scalar types. -/
def names : Scalar → List String
  | signed =>
      ["int", "long", "short", "byte", "i8", "i16", "i32", "i64", "isize",
        "java.lang.Integer", "java.lang.Long", "java.lang.Short", "java.lang.Byte"]
  | unsigned => ["u8", "u16", "u32", "u64", "usize"]
  | double => ["float", "double", "f32", "f64", "java.lang.Float", "java.lang.Double"]
  | boolean => ["boolean", "bool", "java.lang.Boolean"]
  | character => ["char", "java.lang.Character"]

/-- The scalar type with a name. -/
def ofName? (name : String) : Option Scalar :=
  [signed, unsigned, double, boolean, character].find? fun scalar => scalar.names.contains name

/-- The value of a trimmed literal. -/
def read? (scalar : Scalar) (literal : List Char) : Option Value :=
  match scalar with
  | signed => (Numeral.readSigned literal).toOption.map .integer
  | unsigned => (Numeral.readUnsigned literal).toOption.map fun n => .integer (Int.ofNat n)
  | double => (Double.read? literal).map .double
  | boolean =>
      if Text.lowerAscii literal = "true".toList then some (.boolean true)
      else if Text.lowerAscii literal = "false".toList then some (.boolean false)
      else none
  | character =>
      match literal with
      | [c] => some (.text (String.singleton c))
      | _ => none

end Scalar

/-- A text that is no literal of a type. -/
structure ConversionFailure where
  value : String
  target : String
  deriving DecidableEq, Repr

namespace Value

/-- The text between the braces of a list literal. -/
def unbraced? (literal : List Char) : Option (List Char) :=
  match literal with
  | c :: rest =>
      if c = openBrace && rest.getLast? = some closeBrace then some rest.dropLast else none
  | [] => none

/-- The value of a text at a type. -/
def ofChars (raw : List Char) : TypeName → Except ConversionFailure Value
  | .base name =>
      match Scalar.ofName? name with
      | none => .ok (text (String.ofList raw))
      | some scalar =>
          match scalar.read? (Text.trim raw) with
          | some value => .ok value
          | none => .error ⟨String.ofList raw, name⟩
  | .array name item =>
      match unbraced? (Text.trim raw) with
      | none => .error ⟨String.ofList raw, name⟩
      | some inner =>
          if inner.all Text.isBlank then .ok (list [])
          else
            ((Text.split ',' inner).mapM fun piece => ofChars (Text.trim piece) item).map list

/-- Convert a text to the type of a name. -/
def convert (typeName raw : String) : Except ConversionFailure Value :=
  ofChars raw.toList (TypeName.read typeName)

end Value

end Componentry
