import Componentry.Json.Reader
import Componentry.Number.Shortest
import Componentry.Settings
import Componentry.Settings.Place

/-!
# Sources of settings

Settings come from environment variables alone, read one by one, or from a file
below environment variables, where both are entries of one table and every entry is
brought to the kind that its setting wants. In the table neither the case of a key
nor the kind of a scalar matters, and a key may reach into an entry.
-/

namespace Componentry.Settings

/-- Environment variables by name. -/
abbrev Variables := Dictionary String

/-- The settings that variables give, each read under its exact name. -/
def fromVariables (vars : Variables) : Except SettingsFailure Settings := do
  let capacity ←
    match vars.get? "LIFECYCLE_EVENT_CHANNEL_CAPACITY" with
    | none => .ok standard.eventCapacity
    | some text =>
        match Numeral.readUnsigned text.toList with
        | .ok n => .ok n
        | .error fault => .error (.invalidCapacity fault)
  validate
    ⟨(vars.get? "LIFECYCLE_MANAGED_SERVICE_SPECIFICATION").getD
        standard.endpointSpecification,
      (vars.get? "LIFECYCLE_PID_PROPERTY").getD standard.pidProperty,
      (vars.get? "LIFECYCLE_IDENTITY_KEY").getD standard.identityKey, capacity,
      (vars.get? "LIFECYCLE_LOG_LEVEL").or standard.logLevel⟩

/-- Lower case of a letter as far as it concerns keys: the ASCII letters, and the
sign of the kelvin, whose lower case is an ASCII letter too. -/
def lowerKeyChar (c : Char) : Char := if c = '\u212a' then 'k' else c.toLower

/-- A key without regard to case. -/
def lowerKey (key : String) : String := String.ofList (key.toList.map lowerKeyChar)

/-- The entries of a table by their names in lower case. -/
abbrev Table := Properties

/-- Set a place of the table. An object is merged into an entry member by member, so
that an empty one changes nothing where there is an entry. Of an entry that becomes an
object or an array no more is kept than that it is one, since no setting is either. -/
def Table.set (table : Table) (key : String) (value : Value) : Table :=
  match Place.ofKey key, value with
  | .entry name, .object [] => table.insert name ((table.get? name).getD value)
  | .entry name, _ => table.insert name value
  | .member name, _ => table.insert name (.object [])
  | .item name, _ => table.insert name (.list [])

/-- Set places one after the other; later ones count. -/
def Table.setAll (table : Table) (settings : List (String × Value)) : Table :=
  settings.foldl (fun table setting => table.set setting.1 setting.2) table

/-- The start of the names of variables that set places of the table. -/
def variableStart : List Char := "lifecycle_".toList

/-- The key and the value that a variable sets. -/
def variableEntry? (name text : String) : Option (String × Value) :=
  let key := (lowerKey name).toList
  if variableStart.isPrefixOf key then
    some (String.ofList (key.drop variableStart.length), .text text)
  else none

/-- The keys and values that variables set. -/
def variableEntries (vars : Variables) : List (String × Value) :=
  vars.entries.filterMap fun entry => variableEntry? entry.1 entry.2

/-- The largest number of arrays and objects around a token of a file. -/
def depthLimit : Nat := 127

/-- The keys and values of a JSON file, which must be an object. -/
def fileEntries? (text : String) : Option (List (String × Value)) :=
  match Json.parse? text with
  | some document =>
      if document.depth ≤ depthLimit then
        match document.toValue? with
        | some (.object entries) =>
            some (entries.map fun entry => (lowerKey entry.1, entry.2))
        | _ => none
      else none
  | none => none

/-- A number as the table keeps it: an integer of 64 bits with a sign, or a double. -/
def tableDouble? (n : Int) : Option Double :=
  if n ≤ Int.ofNat Numeral.maxSigned then none
  else Double.ofDecimal? ⟨false, n.toNat, 0⟩

/-- The text of an entry. -/
def entryText? : Value → Option String
  | .text s => some s
  | .boolean b => some (if b then "true" else "false")
  | .integer n =>
      match tableDouble? n with
      | some x => some (String.ofList (x.text .plain))
      | none => some (String.ofList (Numeral.ofInt n))
  | .double x => some (String.ofList (x.text .plain))
  | _ => none

/-- The words that stand for one and for zero. -/
def wordCount? (text : String) : Option Nat :=
  let word := lowerKey text
  if ["true", "on", "yes"].contains word then some 1
  else if ["false", "off", "no"].contains word then some 0
  else none

/-- The unsigned number nearest to a double. -/
def clampedCount (x : Double) : Nat :=
  if x.negative then 0 else min x.roundedMagnitude Numeral.maxUnsigned

/-- The unsigned number of an entry. -/
def entryCount? : Value → Option Nat
  | .text s => (wordCount? s).or (Numeral.readUnsigned s.toList).toOption
  | .boolean b => some (if b then 1 else 0)
  | .integer n =>
      if n < 0 then none
      else
        match tableDouble? n with
        | some x => some (clampedCount x)
        | none => some n.toNat
  | .double x => some (clampedCount x)
  | _ => none

/-- The optional text of an entry; null means that there is none. -/
def entryOption? : Value → Option (Option String)
  | .null => some none
  | value => (entryText? value).map some

/-- Read an entry if it is there, and keep the standard otherwise. -/
def entryOr {α : Type} (table : Table) (key : String) (standard : α)
    (read : Value → Option α) : Except SettingsFailure α :=
  match table.get? key with
  | none => .ok standard
  | some value =>
      match read value with
      | some a => .ok a
      | none => .error .unreadable

/-- The settings of a table. -/
def fromTable (table : Table) : Except SettingsFailure Settings := do
  let specification ← entryOr table specificationKey standard.endpointSpecification entryText?
  let pid ← entryOr table pidKey standard.pidProperty entryText?
  let identity ← entryOr table identityKeyKey standard.identityKey entryText?
  let capacity ← entryOr table capacityKey standard.eventCapacity entryCount?
  let level ← entryOr table logLevelKey standard.logLevel entryOption?
  pure ⟨specification, pid, identity, capacity, level⟩

/-- A file that settings are loaded from. -/
inductive Source
  | none
  | missing
  | file (name text : String)

namespace Source

/-- The part of a file's name behind the last point that does not begin it. -/
def extension (name : String) : String :=
  match (Text.split '.' name.toList).reverse with
  | [_] => ""
  | [_, []] => ""
  | last :: _ => String.ofList last
  | [] => ""

/-- The keys and values of a source. Only JSON files that exist can be read. -/
def entries? : Source → Option (List (String × Value))
  | none => some []
  | missing => Option.none
  | file name text => if extension name = "json" then fileEntries? text else Option.none

end Source

/-- Load settings from a source below variables. -/
def load (source : Source) (vars : Variables) : Except SettingsFailure Settings := do
  match source.entries? with
  | none => .error .unreadable
  | some entries =>
      let table : Table := Dictionary.empty
      validate (← fromTable ((table.setAll entries).setAll (variableEntries vars)))

end Componentry.Settings
