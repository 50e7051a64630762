import Componentry.Json.Syntax
import Componentry.Number.Shortest

/-!
# Writing JSON

The compact form has no white space. The indented form puts every item and member
on a line of its own, two blanks deeper than the bracket; empty brackets stay
together. Strings escape the quote, the backslash and the control characters, and
keep all else.
-/

namespace Componentry.Json

/-- A digit of base sixteen, in lower case. -/
def hexDigit (n : Nat) : Char := Nat.digitChar n

/-- A character inside a string. -/
def escape (c : Char) : List Char :=
  match c with
  | '"' => ['\\', '"']
  | '\\' => ['\\', '\\']
  | '\x08' => ['\\', 'b']
  | '\x0c' => ['\\', 'f']
  | '\n' => ['\\', 'n']
  | '\r' => ['\\', 'r']
  | '\t' => ['\\', 't']
  | c =>
      if c.toNat < 0x20 then
        ['\\', 'u', '0', '0', hexDigit (c.toNat / 16), hexDigit (c.toNat % 16)]
      else [c]

/-- A string with its quotes. -/
def quote (s : String) : List Char := '"' :: s.toList.flatMap escape ++ ['"']

/-- The text of a scalar document; the brackets of the others are empty. -/
def scalarText : Json → List Char
  | null => "null".toList
  | boolean true => "true".toList
  | boolean false => "false".toList
  | integer n => Numeral.ofInt n
  | double x => x.text .json
  | string s => quote s
  | array _ => ['[', ']']
  | object _ => ['\x7b', '\x7d']
  | unusable => "null".toList

mutual

/-- The compact text of a document. -/
def compactChars : Json → List Char
  | array items => '[' :: compactItems items ++ [']']
  | object members => '\x7b' :: compactMembers members ++ ['\x7d']
  | document => scalarText document

def compactItems : List Json → List Char
  | [] => []
  | [item] => compactChars item
  | item :: rest => compactChars item ++ ',' :: compactItems rest

def compactMembers : List (String × Json) → List Char
  | [] => []
  | [(name, member)] => quote name ++ ':' :: compactChars member
  | (name, member) :: rest =>
      quote name ++ ':' :: compactChars member ++ ',' :: compactMembers rest

end

/-- A new line at a depth of indentation. -/
def newLine (indent : Nat) : List Char := '\n' :: List.replicate (2 * indent) ' '

mutual

/-- The indented text of a document that stands at a depth of indentation. -/
def indentedChars (indent : Nat) : Json → List Char
  | array (item :: rest) =>
      '[' :: indentedItems (indent + 1) (item :: rest) ++ newLine indent ++ [']']
  | object (member :: rest) =>
      '\x7b' :: indentedMembers (indent + 1) (member :: rest) ++ newLine indent ++ ['\x7d']
  | document => scalarText document

def indentedItems (indent : Nat) : List Json → List Char
  | [] => []
  | [item] => newLine indent ++ indentedChars indent item
  | item :: rest =>
      newLine indent ++ indentedChars indent item ++ ',' :: indentedItems indent rest

def indentedMembers (indent : Nat) : List (String × Json) → List Char
  | [] => []
  | [(name, member)] =>
      newLine indent ++ quote name ++ ':' :: ' ' :: indentedChars indent member
  | (name, member) :: rest =>
      newLine indent ++ quote name ++ ':' :: ' ' :: indentedChars indent member ++
        ',' :: indentedMembers indent rest

end

/-- The compact text of a document. -/
def compact (document : Json) : String := String.ofList (compactChars document)

/-- The indented text of a document. -/
def indented (document : Json) : String := String.ofList (indentedChars 0 document)

end Componentry.Json
