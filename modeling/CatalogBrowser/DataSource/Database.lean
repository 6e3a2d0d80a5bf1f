import CatalogBrowser.DataSource.Schema

/-!
# Databases

A database is identified by its name and owns the cache of its schemas. Dropping a database clears
its schemas and their tables, and so does finding it with another oid, unless its oid was not known.
-/

namespace CatalogBrowser

/-- A database of the server. -/
structure Database where
  name : String
  oid : Nat
  owner : Option String
  encoding : Option String
  isTemplate : Bool
  allowConnections : Bool
  schemas : Cache Schema

namespace Database

def ofRecord (record : DatabaseRecord) : Database where
  name := record.name
  oid := record.oid
  owner := record.owner
  encoding := record.encoding
  isTemplate := record.isTemplate
  allowConnections := record.allowConnections
  schemas := { config := { name := "schemas of " ++ record.name } }

/-- The record of a database of which only the name is known. -/
def placeholder (name : String) : DatabaseRecord :=
  { name }

def cleared (database : Database) : Database :=
  { database with schemas := (database.schemas.clear (Schema.source database.name)).1 }

/-- Whether a database is another one than before, under the same name. -/
def wasRecreated (existing fresh : Database) : Bool :=
  existing.oid ≠ 0 && existing.oid ≠ fresh.oid

def merge (existing fresh : Database) : Database :=
  { fresh with
    name := existing.name
    schemas := (if existing.wasRecreated fresh then existing.cleared else existing).schemas }

def source : Source DatabaseRecord Database where
  construct record := some (ofRecord record)
  identity database := .name database.name
  isPersisted _ := true
  merge := merge
  evicted := cleared

/-- A query for the databases of the server, or the assumption that there is just one. -/
inductive Query where
  | listed (pending : Pending) (filter : DatabaseFilter)
  | assumed (name : String)
deriving DecidableEq

/-- How the databases are read over a connection whose active database is given. -/
def remote (connection : Connection) (active : String) :
    Cache.Remote Server Query DatabaseRecord where
  list server :=
    if connection.readDatabaseList then
      let (server, pending) := server.ask
      (server, .listed pending connection.databaseFilter)
    else (server, .assumed active)
  lookup server _ := (server, .assumed active)
  listing? server
    | .listed pending filter =>
      server.answer? pending fun document => .ok (document.listDatabases filter)
    | .assumed name => some (.ok [placeholder name])
  found? _ _ := some (.ok none)

def clearedLines (database : Database) : List LogLine :=
  (database.schemas.clear (Schema.source database.name)).2.flatMap Schema.eventLines

def line (level : LogLevel) (message database : String) : LogLine :=
  { level, message, fields := [("database", database)] }

/-- The log lines of an event: those of the cache itself, what is cleared below databases that are
dropped or were recreated, and which databases appear and disappear. -/
def eventLines : Cache.Event Database → List LogLine
  | .log line => [line]
  | .merged _ existing fresh =>
    if existing.wasRecreated fresh then
      line .debug "Database was recreated" existing.name :: existing.clearedLines
    else []
  | .evicted _ database => database.clearedLines
  | .notified changes _ objects =>
    let named := fun (message : String) (refs : List Ref) =>
      (refs.filterMap (objects[·]?)).map fun database => line .debug message database.name
    named "Database appeared" changes.added ++ named "Database disappeared" changes.removed
  | _ => []

/-- The schema of a name, once all schemas are loaded. -/
def schema? (database : Database) (name : String) : Option Ref :=
  database.schemas.cachedObjects.find? fun ref =>
    (database.schemas.object? ref).any (·.name = name)

def summary (database : Database) : String :=
  "Database \x7b name: " ++ Text.quote database.name ++ ", info: DatabaseInfo \x7b oid: " ++
    toString database.oid ++ ", owner: " ++ Text.showOption Text.quote database.owner ++
    ", encoding: " ++ Text.showOption Text.quote database.encoding ++ ", is_template: " ++
    toString database.isTemplate ++ ", allow_connections: " ++
    toString database.allowConnections ++ " \x7d, schemas: " ++ database.schemas.summary ++ " \x7d"

end Database

end CatalogBrowser
