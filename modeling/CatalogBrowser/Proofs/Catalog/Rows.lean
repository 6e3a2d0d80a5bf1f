import CatalogBrowser.Catalog.Document
import CatalogBrowser.Proofs.Cache.Reconciliation

/-!
# The rows of a document

What there is to see of a document: its databases, the schemas of a database and the tables of a
schema, each sorted by name. Of several rows that cannot be told apart, only the first is seen:
databases and tables are told apart by their names, schemas by their oids.

## Main definitions

* `Document.databaseRows` - the databases that match the filter of a connection.
* `Document.visibleRows`, `Document.databaseNames` - the databases that a connection shows.
* `DatabaseEntry.schemaRows`, `DatabaseEntry.tableRows` - what is seen below a database.
* `Document.schemaRows`, `Document.tableRows` - what is seen below the first database of a name.

## Main statements

* `Document.databaseRows_eq`, `Document.schemaRows_of_listSchemas`,
  `Document.tableRows_of_listTables` - what the server lists, without the rows that are not seen.
-/

namespace CatalogBrowser

open Cache (firstOfEach)

namespace DatabaseEntry

/-- The schemas of a database by name, and of those with one oid the first. -/
def schemaRows (entry : DatabaseEntry) : List SchemaRecord :=
  firstOfEach (fun row => .id row.oid)
    ((entry.schemas.map (·.record)).mergeSort (·.name ≤ ·.name))

/-- The tables of the first schema of a name by name, and of those with one name the first. -/
def tableRows (entry : DatabaseEntry) (schema : String) : List TableRecord :=
  firstOfEach (fun row => .name row.name)
    ((((entry.schemas.find? (·.record.name = schema)).map (·.tables)).getD []).mergeSort
      (·.name ≤ ·.name))

end DatabaseEntry

namespace Document

variable {document : Document} {connection : Connection} {database : String}

/-- The databases that match the filter of a connection by name, and of those with one name the
first. -/
def databaseRows (document : Document) (connection : Connection) : List DatabaseRecord :=
  firstOfEach (fun row => .name row.name)
    (((document.databases.map (·.record)).filter connection.databaseFilter.shows).mergeSort
      (·.name ≤ ·.name))

/-- The databases that a connection shows: those that match its filter; or the active one alone,
whether or not there is such a database, if the list is not to be read. -/
def visibleRows (document : Document) (connection : Connection) : List DatabaseRecord :=
  if connection.readDatabaseList then document.databaseRows connection
  else [{ name := connection.configuredDatabase.getD defaultDatabase }]

/-- The names of the databases that a connection shows. -/
def databaseNames (document : Document) (connection : Connection) : List String :=
  (document.visibleRows connection).map (·.name)

/-- The schemas of the first database of a name. -/
def schemaRows (document : Document) (database : String) :
    Except ConnectionError (List SchemaRecord) :=
  (document.database? database).map (·.schemaRows)

/-- The tables of a schema of the first database of a name. -/
def tableRows (document : Document) (database schema : String) :
    Except ConnectionError (List TableRecord) :=
  (document.database? database).map (·.tableRows schema)

theorem databaseRows_eq (document : Document) (connection : Connection) :
    document.databaseRows connection = firstOfEach (fun row => .name row.name)
      (document.listDatabases connection.databaseFilter) :=
  rfl

theorem databaseNames_of_not_list (hlist : ¬ connection.readDatabaseList = true) :
    document.databaseNames connection = [connection.configuredDatabase.getD defaultDatabase] := by
  rw [databaseNames, visibleRows, if_neg hlist]
  rfl

theorem database?_eq_ok_iff {entry : DatabaseEntry} :
    document.database? database = .ok entry ↔
      document.databases.find? (·.record.name = database) = some entry := by
  rw [database?]
  cases document.databases.find? (·.record.name = database) <;> simp

theorem listSchemas_of_database? {entry : DatabaseEntry}
    (h : document.database? database = .ok entry) : document.listSchemas database =
      .ok ((entry.schemas.map (·.record)).mergeSort (·.name ≤ ·.name)) := by
  rw [listSchemas, h]
  rfl

theorem listTables_of_database? {entry : DatabaseEntry}
    (h : document.database? database = .ok entry) (schema : String) :
    document.listTables database schema = .ok
      ((((entry.schemas.find? (·.record.name = schema)).map (·.tables)).getD []).mergeSort
        (·.name ≤ ·.name)) := by
  rw [listTables, h]
  rfl

/-- What is seen of the schemas that the server lists. -/
theorem schemaRows_of_listSchemas {records : List SchemaRecord}
    (h : document.listSchemas database = .ok records) :
    document.schemaRows database = .ok (firstOfEach (fun row => .id row.oid) records) := by
  rw [listSchemas] at h
  rw [schemaRows]
  cases hdatabase : document.database? database with
  | error error =>
    rw [hdatabase] at h
    cases h
  | ok entry =>
    rw [hdatabase] at h
    obtain rfl := Except.ok.inj h
    rfl

/-- What is seen of the tables that the server lists. -/
theorem tableRows_of_listTables {schema : String} {records : List TableRecord}
    (h : document.listTables database schema = .ok records) :
    document.tableRows database schema =
      .ok (firstOfEach (fun row => .name row.name) records) := by
  rw [listTables] at h
  rw [tableRows]
  cases hdatabase : document.database? database with
  | error error =>
    rw [hdatabase] at h
    cases h
  | ok entry =>
    rw [hdatabase] at h
    obtain rfl := Except.ok.inj h
    rfl

/-- Databases that are shown have different names. -/
theorem nodup_databaseNames (document : Document) (connection : Connection) :
    (document.databaseNames connection).Nodup := by
  rw [databaseNames, visibleRows]
  split
  · have hkeys : (((document.databaseRows connection).map (·.name)).map Key.name).Nodup := by
      rw [List.map_map]
      exact Cache.nodup_firstOfEach _
    exact hkeys.of_map
  · exact List.nodup_singleton _

end Document

end CatalogBrowser
