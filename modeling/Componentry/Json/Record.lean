import Componentry.Failure
import Componentry.Json.Reader

/-!
# Records in JSON

A record is an object with a member for each of its fields, or an array of its
fields in their order. Members with other names are passed over, a field must not
be given twice, and an array must not be longer than the record. What a missing
field means depends on the field.
-/

namespace Componentry.Json

/-- What a document gives for a field of a record. -/
inductive Slot
  | given (document : Json)
  /-- An object has no member for the field. -/
  | omitted
  /-- An array ends before the field. -/
  | cut

namespace Slot

/-- Read a field that must be given. -/
def required {α : Type} (slot : Slot) (read : Json → Option α) : Option α :=
  match slot with
  | given document => read document
  | _ => none

/-- Read a field that has a default. -/
def defaulted {α : Type} (slot : Slot) (default : α) (read : Json → Option α) : Option α :=
  match slot with
  | given document => read document
  | _ => some default

end Slot

/-- The slot of a name among the members of an object, unless it is given twice. -/
def memberSlot? (members : List (String × Json)) (name : String) : Option Slot :=
  match members.filter fun member => member.1 == name with
  | [] => some .omitted
  | [(_, document)] => some (.given document)
  | _ => none

/-- The slots of names along the items of an array, unless it has too many. -/
def itemSlots? : List String → List Json → Option (List Slot)
  | [], [] => some []
  | [], _ :: _ => none
  | names, [] => some (names.map fun _ => .cut)
  | _ :: names, item :: items => (itemSlots? names items).map (.given item :: ·)

/-- The slots of a record with the given fields. -/
def slots? (names : List String) : Json → Option (List Slot)
  | object members => names.mapM (memberSlot? members)
  | array items => itemSlots? names items
  | _ => none

/-- Read a string. -/
def string? : Json → Option String
  | string s => some s
  | _ => none

/-- Read a truth value. -/
def boolean? : Json → Option Bool
  | boolean b => some b
  | _ => none

/-- Read an unsigned integer of 64 bits. -/
def unsigned? : Json → Option Nat
  | integer n => if 0 ≤ n && n ≤ Int.ofNat Numeral.maxUnsigned then some n.toNat else none
  | _ => none

/-- Read a string or null. -/
def nullable? : Json → Option (Option String)
  | null => some none
  | string s => some (some s)
  | _ => none

/-- Read an array item by item. -/
def list? {α : Type} (read : Json → Option α) : Json → Option (List α)
  | array items => items.mapM read
  | _ => none

/-- Read a dictionary of strings; of members with one name the last counts. -/
def strings? : Json → Option (Dictionary String)
  | object members =>
      (members.mapM fun member => (string? member.2).map (member.1, ·)).map .ofList
  | _ => none

/-- Read a constant by its name, which may also be the one member of an object with
the value null. -/
def constant? {α : Type} (ofName : String → Option α) : Json → Option α
  | string name => ofName name
  | object [(name, null)] => ofName name
  | _ => none

namespace Slot

/-- Read an optional string without a default: null or missing in an object means
that there is none. -/
def optionalString : Slot → Option (Option String)
  | given document => nullable? document
  | omitted => some none
  | cut => none

end Slot

/-- How the values of a type are written and read. -/
structure Codec (α : Type) where
  encode : α → Json
  decode? : Json → Option α

namespace Codec

variable {α : Type}

/-- Read a document. -/
def decode (codec : Codec α) (document : Json) : Except Failure α :=
  match codec.decode? document with
  | some a => .ok a
  | none => .error .malformed

/-- Read a JSON text. -/
def read (codec : Codec α) (text : String) : Except Failure α :=
  match parse? text with
  | some document => codec.decode document
  | none => .error .malformed

/-- The compact JSON text of a value. -/
def write (codec : Codec α) (a : α) : String := (codec.encode a).compact

/-- Read a JSON text and write what was read as a document. -/
def normalize (codec : Codec α) (text : String) : Except Failure Json :=
  (codec.read text).map codec.encode

end Codec

end Componentry.Json
