import Componentry.Dictionary
import Componentry.Log

/-!
# The console of a process

A process starts without a console. Setting it up, which counts only once, chooses
the format by the environment and the level by an explicit setting, by environment
variables or by the environment. A capture that was installed before stays and
takes every record.
-/

namespace Componentry.Log

/-- Environment variables by name. -/
abbrev Variables := Dictionary String

/-- The threshold of a setting. An empty setting passes errors; one that names no
level concerns other parts of the process and passes nothing. -/
def Threshold.ofSetting (setting : String) : Threshold :=
  if setting.isEmpty then some .error else Level.ofSetting? setting

/-- Where the records of a process go. -/
inductive Sink
  | nowhere
  | capture
  | text (threshold : Threshold)
  | json (threshold : Threshold)
  deriving DecidableEq, Repr

/-- What a process has written for a record. -/
inductive Line
  | captured (record : Record)
  | json (record : Record)
  | text (level : Level) (line : String)
  deriving DecidableEq, Repr

/-- The console of a process. -/
structure Console where
  vars : Variables
  sink : Sink
  ready : Bool
  lines : List Line

namespace Console

/-- The console of a process that has just started. -/
def start (vars : Variables) : Console := ⟨vars, .nowhere, false, []⟩

/-- Words that differ from run to run and are left out of text lines. -/
def isVolatile (word : List Char) : Bool :=
  "timestamp=".toList.isPrefixOf word || "pid=".toList.isPrefixOf word

/-- The line of a record in the text format: the message and the fields, with one
blank between two words. -/
def textLine (record : Record) : String :=
  let fields := record.fields.map fun (name, content) => name ++ "=" ++ content.inLine
  let line := String.intercalate " " (record.message :: fields)
  String.intercalate " "
    (((Text.words line.toList).filter (!isVolatile ·)).map String.ofList)

/-- What a sink writes for a record. -/
def linesFor (sink : Sink) (record : Record) : List Line :=
  match sink with
  | .nowhere => []
  | .capture => [.captured record]
  | .text threshold =>
      if threshold.passes record.level then [.text record.level (textLine record)] else []
  | .json threshold => if threshold.passes record.level then [.json record] else []

/-- Write a record. -/
def write (console : Console) (record : Record) : Console :=
  { console with lines := console.lines ++ linesFor console.sink record }

/-- The environment that the process runs in. -/
def environment (console : Console) : String :=
  ((console.vars.get? "LIFECYCLE_ENV").or (console.vars.get? "APP_ENV")).getD
    "development"

/-- The level that an environment has by itself. -/
def levelOf (environment : String) : String :=
  if environment = "production" then "info" else "debug"

/-- The level of the console: the explicit one, else that of the variables, else
that of the environment. -/
def levelSetting (console : Console) (explicit : Option String) : String :=
  ((explicit.or (console.vars.get? "RUST_LOG")).or
    (console.vars.get? "LIFECYCLE_LOG_LEVEL")).getD (levelOf console.environment)

/-- The version that a console reports. -/
def version : String := "0.1.0"

/-- The record that the console is set up. -/
def readyRecord (environment level : String) : Record :=
  ⟨.info, "STRUCTURED LOGGING: Initialized",
    [("version", .quoted version), shown "environment" environment,
      shown "log_level" level]⟩

/-- The record that another console is kept. -/
def keptRecord : Record :=
  ⟨.debug, "Global tracing subscriber already initialized, keeping it", []⟩

/-- Install a capture of every record. -/
def capture (console : Console) : Console := { console with sink := .capture }

/-- Set up the console, unless it has been before. -/
def setUp (console : Console) (explicit : Option String) : Console :=
  if console.ready then console
  else
    let level := console.levelSetting explicit
    let threshold := Threshold.ofSetting level
    let opened :=
      match console.sink with
      | .nowhere =>
          { console with
            ready := true
            sink := if console.environment = "production" then .json threshold
              else .text threshold }
      | _ => { console with ready := true }.write keptRecord
    opened.write (readyRecord console.environment level)

end Console

end Componentry.Log
