import Componentry.Text.Quoted

/-!
# Log records

A record has a level, a message and named fields in a fixed order. The three
operations on handlers, on collaborators and on errors have records of a common
shape.
-/

namespace Componentry.Log

/-- The levels, from the most severe one on. -/
inductive Level
  | error
  | warn
  | info
  | debug
  | trace
  deriving DecidableEq, Repr

namespace Level

/-- The name of a level, as it is written in an answer. -/
def name : Level → String
  | error => "ERROR"
  | warn => "WARN"
  | info => "INFO"
  | debug => "DEBUG"
  | trace => "TRACE"

/-- The place in the order of severity. -/
def rank : Level → Nat
  | error => 1
  | warn => 2
  | info => 3
  | debug => 4
  | trace => 5

/-- The level of a setting; letters of either case are allowed. -/
def ofSetting? (setting : String) : Option Level :=
  [error, warn, info, debug, trace].find? fun level =>
    Text.lowerAscii level.name.toList == Text.lowerAscii setting.toList

end Level

/-- The least severe level that passes; nothing passes where there is none. -/
abbrev Threshold := Option Level

/-- Whether a level passes a threshold. -/
def Threshold.passes (threshold : Threshold) (level : Level) : Bool :=
  match threshold with
  | some least => level.rank ≤ least.rank
  | none => false

/-- What a field holds. -/
inductive Content
  /-- A text that is shown as it is. -/
  | shown (text : String)
  /-- A text that is quoted in the text format. -/
  | quoted (text : String)
  /-- A list of texts, which is always quoted. -/
  | quotedList (texts : List String)
  deriving DecidableEq, Repr

namespace Content

/-- The text of a field as a value of its own. -/
def plain : Content → String
  | shown text => text
  | quoted text => text
  | quotedList texts => Text.quotedList texts

/-- The text of a field in a line of the text format. -/
def inLine : Content → String
  | shown text => text
  | quoted text => Text.quoted text
  | quotedList texts => Text.quotedList texts

end Content

/-- A log record. -/
structure Record where
  level : Level
  message : String
  fields : List (String × Content)
  deriving DecidableEq, Repr

/-- A field with a text that is shown as it is. -/
def shown (name text : String) : String × Content := (name, .shown text)

/-- A field that is present only if there is a text. -/
def optional (name : String) : Option String → List (String × Content)
  | some text => [(name, .quoted text)]
  | none => []

/-- The record of something that a handler did. -/
def handlerOperation (operation component handler status : String)
    (details : Option String) : Record :=
  ⟨.info, "HANDLER_OPERATION",
    [shown "operation" operation, shown "component" component, shown "handler" handler,
      shown "status" status] ++ optional "details" details⟩

/-- The record of something that the service registry did. -/
def registryOperation (operation component : String) (specifications : List String)
    (status : String) (details : Option String) : Record :=
  ⟨.info, "REGISTRY_OPERATION",
    [shown "operation" operation, shown "component" component,
      ("specifications", .quotedList specifications), shown "status" status] ++
      optional "details" details⟩

/-- The record of a failure that was caught. -/
def caught (component operation error : String) (context : Option String) : Record :=
  ⟨.error, "ERROR",
    [shown "component" component, shown "operation" operation, shown "error" error] ++
      optional "context" context⟩

end Componentry.Log
