import CatalogBrowser.Connection

/-!
# Catalog records

The rows that a server's catalog returns: databases, settings, schemas and tables. All fields are
optional in a document, and take the defaults given here.
-/

namespace CatalogBrowser

/-- A row of the list of databases. -/
structure DatabaseRecord where
  oid : Nat := 0
  name : String := ""
  owner : Option String := none
  encoding : Option String := none
  isTemplate : Bool := false
  allowConnections : Bool := true
deriving DecidableEq, Repr

/-- A row of the server settings. -/
structure SettingRecord where
  name : String := ""
  setting : String := ""
  unit : Option String := none
  category : Option String := none
  description : Option String := none
deriving DecidableEq, Repr

/-- A row of the schemas of a database. -/
structure SchemaRecord where
  oid : Nat := 0
  name : String := ""
  owner : Option String := none
deriving DecidableEq, Repr

/-- The kinds of relations that a schema holds. -/
inductive RelationKind where
  | table
  | view
  | materializedView
  | foreignTable
  | partitionedTable
deriving DecidableEq, Repr

def RelationKind.code : RelationKind → String
  | .table => "table"
  | .view => "view"
  | .materializedView => "materialized_view"
  | .foreignTable => "foreign_table"
  | .partitionedTable => "partitioned_table"

def RelationKind.title : RelationKind → String
  | .table => "table"
  | .view => "view"
  | .materializedView => "materialized view"
  | .foreignTable => "foreign table"
  | .partitionedTable => "partitioned table"

/-- Kinds are told apart by their titles. -/
theorem RelationKind.title_inj {kind kind' : RelationKind} :
    kind.title = kind'.title ↔ kind = kind' := by
  cases kind <;> cases kind' <;> decide

def RelationKind.ofCode? (code : String) : Option RelationKind :=
  [.table, .view, .materializedView, .foreignTable, .partitionedTable].find? (·.code = code)

theorem RelationKind.ofCode?_code (kind : RelationKind) : ofCode? kind.code = some kind := by
  cases kind <;> decide

/-- A row of the relations of a schema. -/
structure TableRecord where
  oid : Nat := 0
  name : String := ""
  kind : RelationKind := .table
  rows : Option Nat := none
deriving DecidableEq, Repr

open Value in
def DatabaseRecord.ofValue? (positional : Bool) (v : Value) : Option DatabaseRecord := do
  let fields ← v.fields?
    ["oid", "name", "owner", "encoding", "is_template", "allow_connections"] positional
  return {
    oid := ← fields.get "oid" word? 0
    name := ← fields.get "name" text? ""
    owner := ← fields.get "owner" (optional? text?) none
    encoding := ← fields.get "encoding" (optional? text?) none
    isTemplate := ← fields.get "is_template" bool? false
    allowConnections := ← fields.get "allow_connections" bool? true }

open Value in
def SettingRecord.ofValue? (positional : Bool) (v : Value) : Option SettingRecord := do
  let fields ← v.fields? ["name", "setting", "unit", "category", "description"] positional
  return {
    name := ← fields.get "name" text? ""
    setting := ← fields.get "setting" text? ""
    unit := ← fields.get "unit" (optional? text?) none
    category := ← fields.get "category" (optional? text?) none
    description := ← fields.get "description" (optional? text?) none }

open Value in
def SchemaRecord.ofValue? (positional : Bool) (v : Value) : Option SchemaRecord := do
  let fields ← v.fields? ["oid", "name", "owner"] positional
  return {
    oid := ← fields.get "oid" word? 0
    name := ← fields.get "name" text? ""
    owner := ← fields.get "owner" (optional? text?) none }

open Value in
def TableRecord.ofValue? (positional : Bool) (v : Value) : Option TableRecord := do
  let fields ← v.fields? ["oid", "name", "kind", "rows"] positional
  return {
    oid := ← fields.get "oid" word? 0
    name := ← fields.get "name" text? ""
    kind := ← fields.get "kind" (fun v => (v.choice? positional).bind RelationKind.ofCode?) .table
    rows := ← fields.get "rows" (optional? word?) none }

/-- Which databases a listing shows. -/
structure DatabaseFilter where
  showTemplates : Bool := false
  showUnavailable : Bool := false
  /-- A database that is shown even if it is a template. -/
  include? : Option String := none
deriving DecidableEq, Repr

/-- Whether a database is shown: it has to accept connections unless unavailable ones are shown,
and must not be a template unless templates are shown or it is the one to include. -/
def DatabaseFilter.shows (filter : DatabaseFilter) (record : DatabaseRecord) : Bool :=
  (filter.showUnavailable || record.allowConnections) &&
    (filter.showTemplates || !record.isTemplate || filter.include? == some record.name)

def Connection.databaseFilter (c : Connection) : DatabaseFilter where
  showTemplates := c.showTemplates
  showUnavailable := c.showUnavailable
  include? := c.namedDatabase

/-- The database that a connection names is shown if it accepts connections. -/
theorem DatabaseFilter.shows_namedDatabase {c : Connection} {record : DatabaseRecord}
    (named : c.namedDatabase = some record.name) (available : record.allowConnections = true) :
    c.databaseFilter.shows record = true := by
  simp [shows, Connection.databaseFilter, named, available]

end CatalogBrowser
