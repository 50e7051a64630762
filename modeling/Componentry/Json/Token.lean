import Componentry.Json.Number

/-!
# Tokens of a JSON text

A text is cut into tokens by one pass over its characters. The pass keeps a mode
that says which token it is in; a number or a word ends before the first character
that cannot belong to it, and that character starts the next token.
-/

namespace Componentry.Json

/-- A token of a JSON text. A string is missing where its escapes spell half of a
surrogate pair. -/
inductive Token
  | openArray
  | closeArray
  | openObject
  | closeObject
  | comma
  | colon
  | string (content : Option String)
  | scalar (document : Json)

/-- A part of a string: a character, or the code unit of an escape. -/
inductive Piece
  | char (c : Char)
  | unit (n : Nat)

namespace Piece

/-- The character of a pair of code units, if they form a surrogate pair. -/
def pair? (high low : Nat) : Option Char :=
  if 0xD800 ≤ high && high < 0xDC00 && 0xDC00 ≤ low && low < 0xE000 then
    some (Char.ofNat (0x10000 + (high - 0xD800) * 0x400 + (low - 0xDC00)))
  else none

/-- The character of a code unit that is no surrogate. -/
def single? (n : Nat) : Option Char :=
  if 0xD800 ≤ n && n < 0xE000 then none else some (Char.ofNat n)

/-- The characters that the parts of a string spell. -/
def join? : List Piece → Option (List Char)
  | [] => some []
  | char c :: rest => (join? rest).map (c :: ·)
  | unit high :: unit low :: rest =>
      match pair? high low with
      | some c => (join? rest).map (c :: ·)
      | none => (single? high).bind fun c => (join? (unit low :: rest)).map (c :: ·)
  | unit n :: rest => (single? n).bind fun c => (join? rest).map (c :: ·)

end Piece

/-- Where the pass over the text stands. What a token has so far is kept in reverse. -/
inductive Mode
  | between
  | word (letters : List Char)
  | number (characters : List Char)
  | string (pieces : List Piece)
  | escape (pieces : List Piece)
  | unit (pieces : List Piece) (missing : Nat) (value : Nat)

/-- Whether a character can stand in a number. -/
def isNumberChar (c : Char) : Bool :=
  c.isDigit || c = '-' || c = '+' || c = '.' || c = 'e' || c = 'E'

/-- The value of a digit of base sixteen. -/
def hexValue? (c : Char) : Option Nat :=
  if c.isDigit then some (c.toNat - 48)
  else if 'a' ≤ c && c ≤ 'f' then some (c.toNat - 87)
  else if 'A' ≤ c && c ≤ 'F' then some (c.toNat - 55)
  else none

/-- The character of a short escape. -/
def escaped? : Char → Option Char
  | '"' => some '"'
  | '\\' => some '\\'
  | '/' => some '/'
  | 'b' => some '\x08'
  | 'f' => some '\x0c'
  | 'n' => some '\n'
  | 'r' => some '\r'
  | 't' => some '\t'
  | _ => none

/-- The document of a word. -/
def ofWord? (letters : List Char) : Option Json :=
  if letters = "null".toList then some null
  else if letters = "true".toList then some (boolean true)
  else if letters = "false".toList then some (boolean false)
  else none

/-- What a character does between tokens: the token that it is, if it is one, and
the mode behind it. -/
def begin? (c : Char) : Option (List Token × Mode) :=
  match c with
  | ' ' | '\t' | '\n' | '\r' => some ([], .between)
  | '[' => some ([.openArray], .between)
  | ']' => some ([.closeArray], .between)
  | '\x7b' => some ([.openObject], .between)
  | '\x7d' => some ([.closeObject], .between)
  | ',' => some ([.comma], .between)
  | ':' => some ([.colon], .between)
  | '"' => some ([], .string [])
  | '-' => some ([], .number ['-'])
  | c =>
      if c.isDigit then some ([], .number [c])
      else if c.isLower then some ([], .word [c])
      else none

/-- The tokens that a character completes, and the mode behind it. -/
def advance? (mode : Mode) (c : Char) : Option (List Token × Mode) :=
  match mode with
  | .between => begin? c
  | .word letters =>
      if c.isLower then some ([], .word (c :: letters))
      else do
        let document ← ofWord? letters.reverse
        let (tokens, next) ← begin? c
        pure (.scalar document :: tokens, next)
  | .number characters =>
      if isNumberChar c then some ([], .number (c :: characters))
      else do
        let document ← ofNumber? characters.reverse
        let (tokens, next) ← begin? c
        pure (.scalar document :: tokens, next)
  | .string pieces =>
      if c = '"' then
        some ([.string ((Piece.join? pieces.reverse).map String.ofList)], .between)
      else if c = '\\' then some ([], .escape pieces)
      else if c.toNat < 0x20 then none
      else some ([], .string (.char c :: pieces))
  | .escape pieces =>
      if c = 'u' then some ([], .unit pieces 4 0)
      else (escaped? c).map fun c => ([], .string (.char c :: pieces))
  | .unit pieces missing value =>
      (hexValue? c).map fun digit =>
        let value := value * 16 + digit
        if missing ≤ 1 then ([], .string (.unit value :: pieces))
        else ([], .unit pieces (missing - 1) value)

/-- The tokens that the end of the text completes. -/
def finish? : Mode → Option (List Token)
  | .between => some []
  | .word letters => (ofWord? letters.reverse).map fun document => [.scalar document]
  | .number characters =>
      (ofNumber? characters.reverse).map fun document => [.scalar document]
  | _ => none

/-- The tokens of a text that starts in a mode. -/
def tokens? : Mode → List Char → Option (List Token)
  | mode, [] => finish? mode
  | mode, c :: rest => do
      let (completed, next) ← advance? mode c
      let behind ← tokens? next rest
      pure (completed ++ behind)

end Componentry.Json
