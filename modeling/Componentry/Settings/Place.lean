import Componentry.Number.Numeral

/-!
# Places in the table of settings

A key of the table spells a place: the name of an entry, then steps into the entry,
each of them a name behind a point or a number between square brackets. A key that
breaks these rules is the name of an entry as it stands.
-/

namespace Componentry.Settings

/-- Where the reading of a key stands. -/
inductive KeyReading
  /-- A name must begin. -/
  | nameStart
  /-- Inside a name. -/
  | name
  /-- Before the number of a bracket. -/
  | numberStart
  /-- Behind the sign of the number. -/
  | sign
  /-- Behind a digit of the number. -/
  | digits (negative : Bool) (size : Nat)
  /-- Before the closing bracket. -/
  | numberEnd
  /-- Behind the closing bracket. -/
  | closed
  deriving DecidableEq, Repr

namespace KeyReading

/-- Whether a character can stand in a name: ASCII letters and digits, the blank, the
underscore and the hyphen. -/
def isNameChar (c : Char) : Bool := c.isAlphanum || c = ' ' || c = '_' || c = '-'

/-- Whether a character can stand around the number of a bracket. -/
def isPadding (c : Char) : Bool := c = ' ' || c = '\t'

/-- Whether a number is one of 64 bits with a sign. -/
def fits (negative : Bool) (size : Nat) : Bool :=
  size ≤ Numeral.maxSigned + if negative then 1 else 0

/-- Behind a name or a bracket a further step may begin. -/
def furtherStep? (c : Char) : Option KeyReading :=
  if c = '.' then some nameStart else if c = '[' then some numberStart else none

/-- Read one character of a key. -/
def read? (reading : KeyReading) (c : Char) : Option KeyReading :=
  match reading with
  | nameStart => if isNameChar c then some name else none
  | name => if isNameChar c then some name else furtherStep? c
  | numberStart =>
      if isPadding c then some numberStart
      else if c = '-' then some sign
      else if c.isDigit then some (digits false (Numeral.digitValue c))
      else none
  | sign => if c.isDigit then some (digits true (Numeral.digitValue c)) else none
  | digits negative size =>
      if c.isDigit then some (digits negative (size * 10 + Numeral.digitValue c))
      else if !fits negative size then none
      else if isPadding c then some numberEnd
      else if c = ']' then some closed
      else none
  | numberEnd => if isPadding c then some numberEnd else if c = ']' then some closed else none
  | closed => furtherStep? c

/-- Whether a key may end here. -/
def isEnd : KeyReading → Bool
  | name => true
  | closed => true
  | _ => false

end KeyReading

/-- Whether a key follows the rules of places. -/
def followsRules (key : List Char) : Bool :=
  ((key.foldlM KeyReading.read? .nameStart).map KeyReading.isEnd).getD false

/-- What a key concerns: an entry, or something inside of an entry, which the key makes
an object or an array. -/
inductive Place
  | entry (name : String)
  | member (entry : String)
  | item (entry : String)
  deriving DecidableEq, Repr

/-- The place that a key spells. -/
def Place.ofKey (key : String) : Place :=
  if followsRules key.toList then
    let name := String.ofList (key.toList.takeWhile KeyReading.isNameChar)
    match key.toList.dropWhile KeyReading.isNameChar with
    | '.' :: _ => .member name
    | '[' :: _ => .item name
    | _ => .entry name
  else .entry key

/-- A key that breaks the rules is the name of an entry. -/
theorem Place.ofKey_of_not_followsRules {key : String} (hrules : followsRules key.toList = false) :
    ofKey key = .entry key := by
  simp [ofKey, hrules]

end Componentry.Settings
