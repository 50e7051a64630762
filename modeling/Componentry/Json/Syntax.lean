import Componentry.Value

/-!
# JSON documents

The tree of a JSON text. The members of an object keep their order and may repeat
a name. A string that is no sequence of characters and a number beyond the doubles
are well-formed but stand for no value; they are kept as `unusable`, since a reader
may pass over them.
-/

namespace Componentry

/-- The tree of a JSON text. -/
inductive Json
  | null
  | boolean (b : Bool)
  | integer (n : Int)
  | double (x : Double)
  | string (s : String)
  | array (items : List Json)
  | object (members : List (String × Json))
  | unusable
  deriving Inhabited

namespace Json

mutual

/-- The number of arrays and objects around the innermost token. -/
def depth : Json → Nat
  | array items => depthItems items + 1
  | object members => depthMembers members + 1
  | _ => 0

def depthItems : List Json → Nat
  | [] => 0
  | item :: rest => max (depth item) (depthItems rest)

def depthMembers : List (String × Json) → Nat
  | [] => 0
  | (_, member) :: rest => max (depth member) (depthMembers rest)

end

mutual

/-- The document of a value. -/
def ofValue : Value → Json
  | .null => null
  | .boolean b => boolean b
  | .integer n => integer n
  | .double x => double x
  | .text s => string s
  | .list items => array (ofItems items)
  | .object entries => object (ofEntries entries)

def ofItems : List Value → List Json
  | [] => []
  | item :: rest => ofValue item :: ofItems rest

def ofEntries : List (String × Value) → List (String × Json)
  | [] => []
  | (key, value) :: rest => (key, ofValue value) :: ofEntries rest

end

mutual

/-- The value of a document; of members with one name the last counts. -/
def toValue? : Json → Option Value
  | null => some .null
  | boolean b => some (.boolean b)
  | integer n => some (.integer n)
  | double x => some (.double x)
  | string s => some (.text s)
  | array items => (toItems? items).map .list
  | object members => (toEntries? members).map fun entries =>
      .object (Dictionary.ofList entries).entries
  | unusable => none

def toItems? : List Json → Option (List Value)
  | [] => some []
  | item :: rest => (toValue? item).bind fun value => (toItems? rest).map (value :: ·)

def toEntries? : List (String × Json) → Option (List (String × Value))
  | [] => some []
  | (name, member) :: rest =>
      (toValue? member).bind fun value => (toEntries? rest).map ((name, value) :: ·)

end

/-- The document of an optional string: the string or null. -/
def ofString? : Option String → Json
  | some s => string s
  | none => null

end Json

end Componentry
