import CatalogBrowser.Cache.Load
import CatalogBrowser.Catalog.Server

/-!
# Tables

The relations of a schema, identified by their names. A refresh updates the row estimate of a table
that it finds again, and nothing else of it.
-/

namespace CatalogBrowser

/-- A relation of a schema. -/
structure Table where
  oid : Nat
  name : String
  kind : RelationKind
  rows : Option Nat
deriving DecidableEq, Repr

namespace Table

def ofRecord (record : TableRecord) : Table :=
  { oid := record.oid, name := record.name, kind := record.kind, rows := record.rows }

def source : Source TableRecord Table where
  construct record := some (ofRecord record)
  identity table := .name table.name
  isPersisted _ := true
  merge existing fresh := { existing with rows := fresh.rows }
  evicted table := table

/-- A query for the tables of a schema. -/
structure Query where
  pending : Pending
  database : String
  schema : String
deriving DecidableEq

def remote (database schema : String) : Cache.Remote Server Query TableRecord where
  list server :=
    let (server, pending) := server.ask
    (server, { pending, database, schema })
  lookup server _ := (server, { pending := { due := server.now }, database, schema })
  listing? server query :=
    server.answer? query.pending fun document => document.listTables query.database query.schema
  found? _ _ := some (.ok none)

def eventLines : Cache.Event Table → List LogLine
  | .log line => [line]
  | _ => []

def describe (table : Table) : String :=
  match table.rows with
  | some rows => s!"{table.name} ({table.kind.title}, ~{rows} rows)"
  | none => s!"{table.name} ({table.kind.title})"

end Table

end CatalogBrowser
