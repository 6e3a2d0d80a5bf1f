import CatalogBrowser.Connection
import CatalogBrowser.Text.Blank
import CatalogBrowser.Trace
import CatalogBrowser.Yaml.Document

/-!
# Configuration

The settings of the program, read from a file. Everything has a default, but the file must not be
blank.

## Main definitions

* `Configuration`, with its parts `Logging` and `Reporting`.
* `Configuration.ofText`, `Configuration.ofBytes` - read the settings from a file's contents.
-/

namespace CatalogBrowser

/-- How log lines are laid out. -/
inductive LogFormat where
  /-- As suits the terminal. -/
  | auto
  | pretty
  | simplified
  | json
deriving DecidableEq, Repr

namespace LogFormat

def code : LogFormat → String
  | .auto => "auto"
  | .pretty => "pretty"
  | .simplified => "simplified"
  | .json => "json"

def ofCode? (code : String) : Option LogFormat :=
  [.auto, .pretty, .simplified, .json].find? (·.code = code)

theorem ofCode?_code (format : LogFormat) : ofCode? format.code = some format := by
  cases format <;> decide

end LogFormat

namespace LogLevel

/-- The name of a limit in a document, where nothing may be logged at all. -/
def limitCode : Option LogLevel → String
  | none => "off"
  | some .error => "error"
  | some .warn => "warn"
  | some .info => "info"
  | some .debug => "debug"
  | some .trace => "trace"

def limitOfCode? (code : String) : Option (Option LogLevel) :=
  [none, some .error, some .warn, some .info, some .debug, some .trace].find?
    (limitCode · = code)

theorem limitOfCode?_limitCode (limit : Option LogLevel) :
    limitOfCode? (limitCode limit) = some limit := by
  rcases limit with _ | _ | _ <;> decide

end LogLevel

/-- What is logged, and how. -/
structure Logging where
  /-- The most verbose level that is logged, if any is. -/
  limit : Option LogLevel := some .warn
  format : LogFormat := .auto
  backtraces : Bool := false
deriving DecidableEq, Repr

/-- Where metrics are reported to, and what they are marked with. -/
structure Reporting where
  /-- The address of the server, if metrics are reported. -/
  statsd : Option String := none
  /-- The common root of the metrics' names. -/
  root : String := "dbmeta"
  /-- The tag that gives the name of the host. -/
  hostTag : Option String := none
  /-- Further tags, by name. -/
  tags : List (String × String) := []
deriving DecidableEq, Repr

/-- The settings of the program. -/
structure Configuration where
  logging : Logging := {}
  reporting : Reporting := {}
  /-- The file that describes the server. -/
  catalog : Option String := none
  connection : Connection := {}
  /-- How many levels of the tree are read right after connecting. -/
  preloadDepth : Nat := 0
deriving DecidableEq, Repr

/-- Why there are no settings. -/
inductive ConfigurationError where
  | blank
  | notText
  | malformed
deriving DecidableEq, Repr

def ConfigurationError.message : ConfigurationError → String
  | .blank => "config file empty"
  | .notText => "failed reading config file"
  | .malformed => "failed to parse config YAML"

open Value in
def Logging.ofValue? (v : Value) : Option Logging := do
  let fields ← v.fields? ["level", "format", "enable_backtraces"] false
  let limit := fun (v : Value) => v.text?.bind LogLevel.limitOfCode?
  let format := fun (v : Value) => (v.choice? false).bind LogFormat.ofCode?
  return {
    limit := ← fields.get "level" limit (some .warn)
    format := ← fields.get "format" format .auto
    backtraces := ← fields.get "enable_backtraces" bool? false }

/-- Reads tags, sorted by name; of several tags with one name the last one counts. -/
def Reporting.tags? (v : Value) : Option (List (String × String)) := do
  let entries ← (← v.entries?).mapM fun (name, value) => value.text?.map (name, ·)
  let names := (entries.map (·.1)).eraseDups.mergeSort
  return names.filterMap fun name => (entries.reverse.lookup name).map (name, ·)

open Value in
def Reporting.ofValue? (v : Value) : Option Reporting := do
  let fields ← v.fields? ["statsd", "prefix", "hostname_tag", "custom_tags"] false
  return {
    statsd := ← fields.get "statsd" (optional? text?) none
    root := ← fields.get "prefix" text? "dbmeta"
    hostTag := ← fields.get "hostname_tag" (optional? text?) none
    tags := ← fields.get "custom_tags" tags? [] }

namespace Configuration

open Value in
def ofValue? (v : Value) : Option Configuration := do
  let fields ← v.fields? ["logging", "metrics", "catalog", "connection", "preload_depth"] false
  return {
    logging := ← fields.get "logging" Logging.ofValue? {}
    reporting := ← fields.get "metrics" Reporting.ofValue? {}
    catalog := ← fields.get "catalog" (optional? text?) none
    connection := ← fields.get "connection" (Connection.ofValue? false) {}
    preloadDepth := ← fields.get "preload_depth" (natural? (Nat.pow 2 32)) 0 }

def ofText (text : String) : Except ConfigurationError Configuration :=
  if Text.isBlank text then .error .blank
  else match (Value.ofYaml? text).bind ofValue? with
    | some configuration => .ok configuration
    | none => .error .malformed

/-- Reads the settings from the bytes of a file, which are a text in UTF-8. -/
def ofBytes (bytes : ByteArray) : Except ConfigurationError Configuration :=
  match String.fromUTF8? bytes with
  | some text => ofText text
  | none => .error .notText

end Configuration

end CatalogBrowser
