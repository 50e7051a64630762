import Componentry.Json.Writer

/-!
# The text of a value

A value is shown as the literal that a descriptor writes for it: text as it is, a
list between braces, and everything else as compact JSON.
-/

namespace Componentry.Value

/-- The brace that opens a list literal. -/
def openBrace : Char := '\x7b'

/-- The brace that closes a list literal. -/
def closeBrace : Char := '\x7d'

mutual

/-- The characters of a value's text. -/
def chars : Value → List Char
  | text s => s.toList
  | list items => openBrace :: itemChars items ++ [closeBrace]
  | value => Json.compactChars (.ofValue value)

/-- The characters of list items, with a comma and a blank between two of them. -/
def itemChars : List Value → List Char
  | [] => []
  | [item] => chars item
  | item :: rest => chars item ++ ',' :: ' ' :: itemChars rest

end

/-- The text of a value. -/
def render (value : Value) : String := String.ofList (chars value)

/-- The text of an optional value; a missing one has the empty text. -/
def renderOption : Option Value → String
  | some value => value.render
  | none => ""

end Componentry.Value
