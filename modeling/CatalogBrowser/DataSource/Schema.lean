import CatalogBrowser.DataSource.Table

/-!
# Schemas

A schema is identified by its oid, so it may be renamed. It owns the cache of its tables, which are
queried by the name that the schema was last seen under. Dropping a schema clears its tables.
-/

namespace CatalogBrowser

/-- A schema of a database. -/
structure Schema where
  oid : Nat
  database : String
  name : String
  owner : Option String
  tables : Cache Table

namespace Schema

def ofRecord (database : String) (record : SchemaRecord) : Schema where
  oid := record.oid
  database := database
  name := record.name
  owner := record.owner
  tables := { config := { name := s!"tables of schema {record.oid} in {database}" } }

def cleared (schema : Schema) : Schema :=
  { schema with tables := (schema.tables.clear Table.source).1 }

def source (database : String) : Source SchemaRecord Schema where
  construct record := some (ofRecord database record)
  identity schema := .id schema.oid
  isPersisted _ := true
  merge existing fresh := { existing with name := fresh.name, owner := fresh.owner }
  evicted := cleared

/-- A query for the schemas of a database. -/
structure Query where
  pending : Pending
  database : String
deriving DecidableEq

def remote (database : String) : Cache.Remote Server Query SchemaRecord where
  list server :=
    let (server, pending) := server.ask
    (server, { pending, database })
  lookup server _ := (server, { pending := { due := server.now }, database })
  listing? server query :=
    server.answer? query.pending fun document => document.listSchemas query.database
  found? _ _ := some (.ok none)

def clearedLines (schema : Schema) : List LogLine :=
  (schema.tables.clear Table.source).2.flatMap Table.eventLines

/-- The log lines of an event: those of the cache itself, renames, and what is cleared with a
schema that is dropped. -/
def eventLines : Cache.Event Schema → List LogLine
  | .log line => [line]
  | .merged _ existing fresh =>
    if existing.name = fresh.name then []
    else [{
      level := .debug
      message := "Schema was renamed"
      fields := [("schema", toString existing.oid), ("name", fresh.name)] }]
  | .evicted _ schema => schema.clearedLines
  | _ => []

end Schema

end CatalogBrowser
