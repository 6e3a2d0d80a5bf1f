import CatalogBrowser.Catalog.Record
import CatalogBrowser.Duration
import CatalogBrowser.Error

/-!
# Catalog documents

A document describes a whole server: its databases with their schemas and tables, its settings, the
database that a session is connected to, and how long a query takes.

The fields of a database or schema row stand beside the list of what it holds. Since they cannot be
told apart from other fields before all are read, they are typed by their own meaning, while the
fields of tables and settings are typed by what is asked of them.
-/

namespace CatalogBrowser

/-- A schema with its tables. -/
structure SchemaEntry where
  record : SchemaRecord := {}
  tables : List TableRecord := []
deriving DecidableEq, Repr

/-- A database with its schemas. -/
structure DatabaseEntry where
  record : DatabaseRecord := {}
  schemas : List SchemaEntry := []
deriving DecidableEq, Repr

/-- A description of a server. -/
structure Document where
  currentDatabase : Option String := none
  /-- How long the server takes to answer a query. -/
  latency : Option Duration := none
  databases : List DatabaseEntry := []
  settings : List SettingRecord := []
deriving DecidableEq, Repr

/-- Splits a table into the value of one field, if it occurs, and a typed table of all others.
Fails if the field occurs twice, or if another field is nested too deep in a document where the
table itself lies at a level. -/
def Value.splitField? (name : String) (level : Nat) (v : Value) :
    Option (Option Value × Value) := do
  let entries ← v.entries?
  let (chosen, others) := entries.partition (·.1 = name)
  guard (others.all fun (_, value) => level + value.depth ≤ depthLimit)
  let others ← others.mapM fun (key, value) =>
    value.typed?.map fun value => (Value.scalar (.text key), value)
  match chosen with
  | [] => return (none, .table others)
  | [(_, value)] => return (some value, .table others)
  | _ => none

def Value.listOrNone? {α : Type} (read : Value → Option α) : Option Value → Option (List α)
  | some v => v.list? read
  | none => some []

def SchemaEntry.ofValue? (positional : Bool) (v : Value) : Option SchemaEntry := do
  let (tables, row) ← v.splitField? "tables" 5
  return {
    tables := ← Value.listOrNone? (TableRecord.ofValue? positional) tables
    record := ← SchemaRecord.ofValue? false row }

def DatabaseEntry.ofValue? (positional : Bool) (v : Value) : Option DatabaseEntry := do
  let (schemas, row) ← v.splitField? "schemas" 3
  return {
    schemas := ← Value.listOrNone? (SchemaEntry.ofValue? positional) schemas
    record := ← DatabaseRecord.ofValue? false row }

namespace Document

open Value in
def ofValue? (positional : Bool) (v : Value) : Option Document := do
  let fields ← v.fields? ["current_database", "latency", "databases", "settings"] positional
  return {
    currentDatabase := ← fields.get "current_database" (optional? text?) none
    latency := ← fields.get "latency" (optional? fun v => v.text?.bind Duration.ofText?) none
    databases := ← fields.get "databases" (list? (DatabaseEntry.ofValue? positional)) []
    settings := ← fields.get "settings" (list? (SettingRecord.ofValue? positional)) [] }

/-- The first database of a name. -/
def database? (document : Document) (name : String) : Except ConnectionError DatabaseEntry :=
  match document.databases.find? (·.record.name = name) with
  | some entry => .ok entry
  | none => .error (.queryFailed ("database \"" ++ name ++ "\" does not exist"))

/-- The databases that a filter shows, by name. -/
def listDatabases (document : Document) (filter : DatabaseFilter) : List DatabaseRecord :=
  ((document.databases.map (·.record)).filter filter.shows).mergeSort (·.name ≤ ·.name)

def listSettings (document : Document) : List SettingRecord :=
  document.settings.mergeSort (·.name ≤ ·.name)

/-- The first setting whose name is equal up to the case of ASCII letters. -/
def setting? (document : Document) (name : String) : Option SettingRecord :=
  document.settings.find? (·.name.toLower = name.toLower)

/-- The schemas of the first database of a name, by name. -/
def listSchemas (document : Document) (database : String) :
    Except ConnectionError (List SchemaRecord) := do
  let entry ← document.database? database
  return (entry.schemas.map (·.record)).mergeSort (·.name ≤ ·.name)

/-- The tables of the first schema of a name in the first database of a name, by name. There are
none if there is no such schema. -/
def listTables (document : Document) (database schema : String) :
    Except ConnectionError (List TableRecord) := do
  let entry ← document.database? database
  let tables := ((entry.schemas.find? (·.record.name = schema)).map (·.tables)).getD []
  return tables.mergeSort (·.name ≤ ·.name)

end Document

end CatalogBrowser
