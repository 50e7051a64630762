import Componentry.Dictionary
import Componentry.Number.Double

/-!
# Configuration values

A value is what a configuration or a service property holds. Text is what a
descriptor or a configuration file wrote, and has yet to be brought to its type;
every other value is typed already. Integers and doubles are different kinds and
never equal.
-/

namespace Componentry

/-- A configuration value. The entries of an object are listed by increasing key. -/
inductive Value
  | null
  | boolean (b : Bool)
  | integer (n : Int)
  | double (x : Double)
  | text (s : String)
  | list (items : List Value)
  | object (entries : List (String × Value))
  deriving Inhabited

/-- Values under property names. -/
abbrev Properties := Dictionary Value

namespace Value

mutual

/-- Equality of values: doubles are equal as numbers, and all else is equal when it
is the same. -/
def equal : Value → Value → Bool
  | null, null => true
  | boolean a, boolean b => a == b
  | integer a, integer b => a == b
  | double a, double b => a.equal b
  | text a, text b => a == b
  | list a, list b => equalItems a b
  | object a, object b => equalEntries a b
  | _, _ => false

/-- Equality of lists, item by item. -/
def equalItems : List Value → List Value → Bool
  | [], [] => true
  | a :: as, b :: bs => equal a b && equalItems as bs
  | _, _ => false

/-- Equality of entries, key by key. -/
def equalEntries : List (String × Value) → List (String × Value) → Bool
  | [], [] => true
  | (k, a) :: as, (l, b) :: bs => k == l && equal a b && equalEntries as bs
  | _, _ => false

end

instance : BEq Value := ⟨equal⟩

/-- The object with the entries of a dictionary. -/
def ofProperties (properties : Properties) : Value := object properties.entries

/-- Whether the value is text that has yet to be converted. -/
def isTextual : Value → Bool
  | text _ => true
  | _ => false

/-- The text of a textual value. -/
def text? : Value → Option String
  | text s => some s
  | _ => none

/-- The name of the type that a value carries by itself. -/
def typeName : Value → String
  | null => "null"
  | boolean _ => "boolean"
  | integer _ => "long"
  | double _ => "double"
  | text _ => "java.lang.String"
  | list _ => "array"
  | object _ => "object"

/-- The type of values whose type is not declared. -/
def textTypeName : String := "java.lang.String"

end Value

/-- Whether two optional values are both missing or equal. -/
def Value.sameOption : Option Value → Option Value → Bool
  | none, none => true
  | some a, some b => a.equal b
  | _, _ => false

end Componentry
