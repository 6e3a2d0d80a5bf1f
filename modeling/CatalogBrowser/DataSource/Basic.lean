import CatalogBrowser.DataSource.Database
import CatalogBrowser.DataSource.Setting

/-!
# The data source

A data source holds the caches of a server's databases and settings, and knows which database is
active. The instances below are addressed by references: a database by its number in the database
cache, a schema by the number of its database and its own, and so on.

## Main definitions

* `DataSource` - the state, `DataSource.ofConnection` a new one.
* `DataSource.activeName`, `DataSource.defaultInstance` - the active database and what stands in
  for it.
* `DataSource.setActive?` - switches the active database.
-/

namespace CatalogBrowser

/-- The caches of a server and its active database. -/
structure DataSource where
  connection : Connection
  active : Option String
  databases : Cache Database
  settings : Cache Setting

namespace DataSource

def ofConnection (connection : Connection) : DataSource where
  connection := connection
  active := connection.configuredDatabase
  databases := { config := { name := "databases" } }
  settings := { config := { name := "settings", keyPolicy := .lowercase } }

def activeName (ds : DataSource) : String :=
  ds.active.getD defaultDatabase

/-- The instance of a database. -/
def database? (ds : DataSource) (db : Ref) : Option Database :=
  ds.databases.object? db

def schema? (ds : DataSource) (db schema : Ref) : Option Schema := do
  (← ds.database? db).schemas.object? schema

def putSchemas (ds : DataSource) (db : Ref) (schemas : Cache Schema) : DataSource :=
  { ds with databases := ds.databases.modifyObject db ({ · with schemas }) }

def putTables (ds : DataSource) (db schema : Ref) (tables : Cache Table) : DataSource :=
  match ds.database? db with
  | some database => ds.putSchemas db (database.schemas.modifyObject schema ({ · with tables }))
  | none => ds

def databaseNamed? (ds : DataSource) (name : String) : Option Ref :=
  ds.databases.cachedObject? (.name name)

/-- The database to use where none is chosen: the active one, or else the default database, or
else the first of the list. -/
def defaultInstance (ds : DataSource) : Except DataSourceError Ref :=
  if ds.databases.isFullyCached then
    match (ds.databaseNamed? ds.activeName).or <|
        (ds.databaseNamed? defaultDatabase).or ds.databases.cachedObjects.head? with
    | some db => .ok db
    | none => .error .noDatabases
  else .error .notConnected

def isDefault (ds : DataSource) (db : Ref) : Bool :=
  match ds.defaultInstance with
  | .ok current => current == db
  | .error _ => false

/-- Makes a database the active one, unless it is the default instance already. Gives the data
source and the log lines of the switch, or nothing if there is none. -/
def setActive? (ds : DataSource) (db : Ref) : Option (DataSource × List LogLine) := do
  let database ← ds.database? db
  if ds.isDefault db then none
  else
    let line := Database.line .info "Switching active database" database.name
    return ({ ds with active := some database.name }, [line])

def summary (ds : DataSource) : String :=
  let c := ds.connection
  "PgDataSource \x7b config: ConnectionConfig \x7b url: " ++ Text.showOption Text.quote c.url ++
    ", database: " ++ Text.showOption Text.quote c.database ++ ", read_database_list: " ++
    toString c.readDatabaseList ++ ", show_templates: " ++ toString c.showTemplates ++
    ", show_unavailable: " ++ toString c.showUnavailable ++ " \x7d, active: " ++
    Text.showOption Text.quote ds.active ++ ", databases: " ++ ds.databases.summary ++
    ", settings: " ++ ds.settings.summary ++ " \x7d"

theorem schema?_eq_some_iff {ds : DataSource} {db schema : Ref} {owner : Schema} :
    ds.schema? db schema = some owner ↔ ∃ database, ds.database? db = some database ∧
      database.schemas.object? schema = some owner := by
  rw [schema?]
  exact Option.bind_eq_some_iff

/-- Only the schemas of the one database change. -/
theorem database?_putSchemas_self {ds : DataSource} {db : Ref} {database : Database}
    (h : ds.database? db = some database) (schemas : Cache Schema) :
    (ds.putSchemas db schemas).database? db = some { database with schemas } :=
  Cache.object?_modifyObject_self _ h

theorem putSchemas_self {ds : DataSource} {db : Ref} {database : Database}
    (h : ds.database? db = some database) : ds.putSchemas db database.schemas = ds := by
  rw [putSchemas, Cache.modifyObject_of_eq]
  rintro object hobject
  obtain rfl : database = object := Option.some.inj (h.symm.trans hobject)
  rfl

end DataSource

end CatalogBrowser
