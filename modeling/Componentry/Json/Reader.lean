import Componentry.Json.Token

/-!
# Reading JSON

The tokens of a text are put together by a machine with a stack of the arrays and
objects that are still open. The grammar is strict: one document, nothing behind
it but white space, no comma before a closing bracket.
-/

namespace Componentry.Json

/-- An array or object that is still open, with what it has so far in reverse. An
object is sound while all its names are usable. -/
inductive Frame
  | items (done : List Json)
  | members (done : List (String × Json)) (sound : Bool)
  | named (done : List (String × Json)) (sound : Bool) (name : Option String)

/-- What may come next, below the open arrays and objects. -/
inductive Reading
  /-- A document. -/
  | document (outer : List Frame)
  /-- A document, or the end of the array that has just been opened. -/
  | firstItem (outer : List Frame)
  /-- A name, or the end of the object that has just been opened. -/
  | firstName (outer : List Frame)
  /-- A name. -/
  | name (done : List (String × Json)) (sound : Bool) (outer : List Frame)
  /-- The colon behind a name. -/
  | colon (done : List (String × Json)) (sound : Bool) (name : Option String)
      (outer : List Frame)
  /-- A comma or a closing bracket. -/
  | separator (outer : List Frame)
  /-- Nothing. -/
  | finished (document : Json)

/-- The state behind a complete document. -/
def complete (document : Json) : List Frame → Reading
  | [] => .finished document
  | .items done :: outer => .separator (.items (document :: done) :: outer)
  | .members done sound :: outer => .separator (.members done sound :: outer)
  | .named done sound (some name) :: outer =>
      .separator (.members ((name, document) :: done) sound :: outer)
  | .named done _ none :: outer => .separator (.members done false :: outer)

/-- The state behind the first token of a document. -/
def start? (token : Token) (outer : List Frame) : Option Reading :=
  match token with
  | .openArray => some (.firstItem outer)
  | .openObject => some (.firstName outer)
  | .string (some s) => some (complete (string s) outer)
  | .string none => some (complete unusable outer)
  | .scalar document => some (complete document outer)
  | _ => none

/-- The state behind a token. -/
def read? (reading : Reading) (token : Token) : Option Reading :=
  match reading with
  | .document outer => start? token outer
  | .firstItem outer =>
      match token with
      | .closeArray => some (complete (array []) outer)
      | token => start? token (.items [] :: outer)
  | .firstName outer =>
      match token with
      | .closeObject => some (complete (object []) outer)
      | .string name => some (.colon [] true name outer)
      | _ => none
  | .name done sound outer =>
      match token with
      | .string name => some (.colon done sound name outer)
      | _ => none
  | .colon done sound name outer =>
      match token with
      | .colon => some (.document (.named done sound name :: outer))
      | _ => none
  | .separator (.items done :: outer) =>
      match token with
      | .comma => some (.document (.items done :: outer))
      | .closeArray => some (complete (array done.reverse) outer)
      | _ => none
  | .separator (.members done sound :: outer) =>
      match token with
      | .comma => some (.name done sound outer)
      | .closeObject =>
          some (complete (if sound then object done.reverse else unusable) outer)
      | _ => none
  | .separator _ => none
  | .finished _ => none

/-- The document of a reading that has come to its end. -/
def finished? : Reading → Option Json
  | .finished document => some document
  | _ => none

/-- The document of a sequence of tokens. -/
def ofTokens? (tokens : List Token) : Option Json :=
  (tokens.foldlM read? (.document [])).bind finished?

/-- The document of a text. -/
def parse? (text : String) : Option Json :=
  (tokens? .between text.toList).bind ofTokens?

end Componentry.Json
