import CatalogBrowser.CommandLine.Arguments
import CatalogBrowser.CommandLine.Endpoint
import CatalogBrowser.DataSource.Routine
import CatalogBrowser.Report.Listing

/-!
# Commands

What a command prints, given the configuration and the document that describes the server. A command
runs one routine after the other. As nothing else uses the data source, a routine that has to wait
waits for the server, so the clock moves on until the queries are answered.

## Main definitions

* `CommandError`, `CommandError.chain` - why a command fails, and how that is told.
* `Context.perform` - runs a routine to its end.
* `Command.perform` - the text that a command prints.
* `Arguments.run` - the same from files.
-/

namespace CatalogBrowser

/-- Why a file's contents are not known. -/
inductive FileError where
  | notOpened (reason : String)
  | notRead (reason : String)
deriving DecidableEq, Repr

def FileError.reason : FileError → String
  | .notOpened reason => reason
  | .notRead reason => reason

/-- Why a command fails. -/
inductive CommandError where
  | configFile (error : FileError)
  | configuration (error : ConfigurationError)
  | reporting (error : EndpointError)
  | noCatalog
  | catalogFile (path : String) (error : FileError)
  | catalogNotText (path : String)
  | catalogMalformed (path : String)
  | opening (error : DataSourceError)
  | preload (error : DataSourceError)
  | settings (error : DataSourceError)
  | tree (error : DataSourceError)
  | noDefault (error : DataSourceError)
  | unknownSetting (name : String)
deriving DecidableEq, Repr

namespace CommandError

/-- What is said about a text that is not in UTF-8. -/
def notText : String := "stream did not contain valid UTF-8"

/-- Stands for what is wrong with a YAML text. -/
def malformedYaml : String := "<yaml>"

/-- The texts of an error and its causes, the outermost first. -/
def chain : CommandError → List String
  | .configFile (.notOpened reason) =>
    ["failed loading config", "failed to open configuration file", reason]
  | .configFile (.notRead reason) =>
    ["failed loading config", ConfigurationError.notText.message, reason]
  | .configuration error =>
    let cause := match error with
      | .blank => []
      | .notText => [notText]
      | .malformed => [malformedYaml]
    "failed loading config" :: error.message :: cause
  | .reporting error => ["failed to configure statsd", error.message]
  | .noCatalog => ["no catalog snapshot given, pass --catalog or set \x60catalog\x60 in the config"]
  | .catalogFile path error => ["failed to load catalog snapshot " ++ path, error.reason]
  | .catalogNotText path => ["failed to load catalog snapshot " ++ path, notText]
  | .catalogMalformed path => ["failed to load catalog snapshot " ++ path, malformedYaml]
  | .opening error => "failed to initialize the data source" :: error.chain
  | .preload error => "failed to preload metadata" :: error.chain
  | .settings error => "failed to read settings" :: error.chain
  | .tree error => "failed to read the metadata tree" :: error.chain
  | .noDefault error => error.chain
  | .unknownSetting name => ["unrecognized configuration parameter \"" ++ name ++ "\""]

end CommandError

namespace Context

/-- Runs a routine until it finishes, at most so many times. It waits for the server in between. -/
def finish (ctx : Context) (monitor : Monitor) (routine : Routine) : Nat → Ran
  | 0 => (ctx, .waiting routine)
  | runs + 1 =>
    match ctx.run monitor routine with
    | (ctx, .waiting routine) => ctx.pause.finish monitor routine runs
    | ran => ran

/-- Runs a routine to its end. None waits more than three times: to open a data source, for the
databases, for the current one and for the settings, and to read the tree, once at each level. -/
def perform (ctx : Context) (routine : Routine) (failed : DataSourceError → CommandError) :
    Except CommandError (Context × Answer) :=
  let (monitors, monitor) := ctx.monitors.fresh
  match { ctx with monitors }.finish monitor routine 4 with
  | (ctx, .finished (.ok answer)) => .ok (ctx, answer)
  | (_, .finished (.error (.operation error))) => .error (failed error)
  | (_, .finished (.error (.query error))) => .error (failed (.connection error))
  | (_, .waiting _) => .error (failed (.cache .cancelled))

end Context

namespace Command

/-- A data source with a server that a document describes, before anything is read. -/
def context (connection : Connection) (document : Document) : Context where
  source := DataSource.ofConnection connection
  server := { document }

/-- Connects, and reads as many levels as the configuration says. -/
def connect (configuration : Configuration) (document : Document) :
    Except CommandError Context := do
  let ctx := context configuration.connection document
  let (ctx, _) ← ctx.perform (.opening .start) .opening
  if configuration.preloadDepth = 0 then return ctx
  else
    let (ctx, _) ← ctx.perform (.preload (DatabaseWalk.ofDepth configuration.preloadDepth)) .preload
    return ctx

def text (ctx : Context) : Command → Except CommandError String
  | .databases => do
    let ds := ctx.source
    match ds.defaultInstance with
    | .error error => .error (.noDefault error)
    | .ok current =>
      let active := ((ds.database? current).map (·.name)).getD ds.activeName
      let databases := ds.databases.cachedObjects.filterMap ds.database?
      return (Report.databaseGrid databases active).render
  | .settings (some name) => do
    let (ctx, answer) ← ctx.perform (.settings { request := .one (.name name) }) .settings
    match answer with
    | .settings (.object found) =>
      match found.bind ctx.source.settings.object? with
      | some setting => return (Report.settingDetails setting).render
      | none => .error (.unknownSetting name)
    | _ => .error (.unknownSetting name)
  | .settings none => do
    let (ctx, answer) ← ctx.perform (.settings { request := .all }) .settings
    match answer with
    | .settings reply =>
      return (Report.settingGrid (reply.refs.filterMap ctx.source.settings.object?)).render
    | _ => return (Report.settingGrid []).render
  | .tree depth => do
    let (ctx, _) ← ctx.perform (.preload (DatabaseWalk.ofDepth depth)) .tree
    let ds := ctx.source
    return Report.tree (ds.databases.cachedObjects.filterMap ds.database?)

def perform (command : Command) (configuration : Configuration) (document : Document) :
    Except CommandError String := do
  command.text (← connect configuration document)

end Command

namespace Arguments

variable {m : Type → Type} [Monad m]

/-- Reads the configuration that the arguments name; without one, everything has its default. -/
def configuration (read : String → m (Except FileError ByteArray)) (arguments : Arguments) :
    ExceptT CommandError m Configuration :=
  match arguments.config with
  | none => return {}
  | some path => do
    match ← read path with
    | .error error => throw (.configFile error)
    | .ok bytes =>
      match Configuration.ofBytes bytes with
      | .ok configuration => return configuration
      | .error error => throw (.configuration error)

def document (read : String → m (Except FileError ByteArray)) (path : String) :
    ExceptT CommandError m Document := do
  match ← read path with
  | .error error => throw (.catalogFile path error)
  | .ok bytes =>
    match String.fromUTF8? bytes with
    | none => throw (.catalogNotText path)
    | some text =>
      match (Value.ofYaml? text).bind (Document.ofValue? false) with
      | some document => return document
      | none => throw (.catalogMalformed path)

/-- What the program prints, where `read` gives the contents of files. -/
def run (read : String → m (Except FileError ByteArray)) (arguments : Arguments) :
    ExceptT CommandError m String := do
  let configuration ← arguments.configuration read
  if let .error error := configuration.reporting.check then throw (.reporting error)
  let some path := arguments.catalog.or configuration.catalog | throw .noCatalog
  let document ← document read path
  match arguments.command.perform configuration document with
  | .ok text => return text
  | .error error => throw error

end Arguments

end CatalogBrowser
