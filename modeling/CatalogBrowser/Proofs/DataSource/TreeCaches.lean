import CatalogBrowser.Proofs.Cache.PendingLoads
import CatalogBrowser.Proofs.DataSource.Descent

/-!
# The caches of the tree

The databases of a data source, the schemas of each of them, and the tables of each of those are
held by caches. Seen one by one, each with its objects apart from what these own, the caches are
independent: whoever works on one of them leaves the others as they are, but for those that belong
to objects that it makes, merges or drops.

## Main definitions

* `Row` - an object apart from what it owns.
* `Site` - where a cache of the tree is, `DataSource.site?` the cache there.
* `DataSource.Unfolds` - what may become of all caches but one.

## Main statements

* `DataSource.unfolds_databases`, `DataSource.unfolds_putSchemas`, `DataSource.unfolds_putTables` -
  one cache changes.
-/

namespace CatalogBrowser

open Cache (Develops)

/-- An object of the tree, apart from what it owns. -/
inductive Row where
  | database (database : Database)
  | schema (schema : Schema)
  | table (table : Table)

/-- What an object is cached under. -/
def Row.identity : Row → Identity
  | .database row => .name row.name
  | .schema row => .id row.oid
  | .table row => .name row.name

def Database.row (database : Database) : Row :=
  .database { database with schemas := { config := {} } }

def Schema.row (schema : Schema) : Row :=
  .schema { schema with tables := { config := {} } }

def Table.row (table : Table) : Row :=
  .table table

/-- A database of which nothing was read yet. -/
def Database.Pristine (database : Database) : Prop :=
  database.schemas.Pristine

/-- A schema of which nothing was read yet. -/
def Schema.Pristine (schema : Schema) : Prop :=
  schema.tables.Pristine

theorem Database.pristine_ofRecord (record : DatabaseRecord) : (ofRecord record).Pristine := rfl

theorem Schema.pristine_ofRecord (database : String) (record : SchemaRecord) :
    (ofRecord database record).Pristine := rfl

theorem Database.Pristine.objects {database : Database} (h : database.Pristine) :
    database.schemas.objects = #[] := by
  rw [show database.schemas = _ from h]

theorem Database.Pristine.founded {database : Database} (h : database.Pristine) :
    database.Founded := by
  rw [Founded, show database.schemas = _ from h]
  simp [Cache.Founded, Cache.Snapshot.refs]

/-- Where a cache of the tree is: that of the databases, or one below a database. -/
abbrev Site := Option Branch

/-- The cache at a site. -/
def DataSource.site? (ds : DataSource) : Site → Option (Cache Row)
  | none => some (ds.databases.map Database.row)
  | some (.schemas db) => (ds.database? db).map (·.schemas.map Schema.row)
  | some (.tables db schema) => (ds.schema? db schema).map (·.tables.map Table.row)

section Follows

variable (R : Cache Row → Cache Row → Prop)

/-- The tables of a schema are related to what they were. -/
def Schema.Follows (schema schema' : Schema) : Prop :=
  R (schema.tables.map Table.row) (schema'.tables.map Table.row)

/-- So are the schemas of a database, and the tables of each of them. -/
structure Database.Follows (database database' : Database) : Prop where
  schemas : R (database.schemas.map Schema.row) (database'.schemas.map Schema.row)
  below : Develops (Schema.Follows R) Schema.Pristine database.schemas.objects
    database'.schemas.objects

/-- All caches but that at a site are related to what they were. Those that are new come out of
pristine ones. -/
structure DataSource.Unfolds (site : Site) (ds ds' : DataSource) : Prop where
  self : ds'.site? site = none → ds.site? site = none
  old : ∀ other c, other ≠ site → ds.site? other = some c →
    ∃ c', ds'.site? other = some c' ∧ R c c'
  new : ∀ other c', ds.site? other = none → ds'.site? other = some c' →
    ∃ c, c.Pristine ∧ R c c'

end Follows

namespace DataSource

variable {R : Cache Row → Cache Row → Prop} {ds ds' : DataSource} {db schema : Ref}
  {database : Database} {owner : Schema} {site : Site}

theorem site?_schemas (hdatabase : ds.database? db = some database) :
    ds.site? (some (.schemas db)) = some (database.schemas.map Schema.row) := by
  rw [site?, hdatabase, Option.map_some]

theorem site?_tables (howner : ds.schema? db schema = some owner) :
    ds.site? (some (.tables db schema)) = some (owner.tables.map Table.row) := by
  rw [site?, howner, Option.map_some]

theorem exists_of_site?_schemas {c : Cache Row} (h : ds.site? (some (.schemas db)) = some c) :
    ∃ database, ds.database? db = some database ∧ database.schemas.map Schema.row = c :=
  Option.map_eq_some_iff.1 h

theorem exists_of_site?_tables {c : Cache Row} (h : ds.site? (some (.tables db schema)) = some c) :
    ∃ owner, ds.schema? db schema = some owner ∧ owner.tables.map Table.row = c :=
  Option.map_eq_some_iff.1 h

/-- A cache exists if its owner does. -/
theorem site?_schemas_eq_none_iff :
    ds.site? (some (.schemas db)) = none ↔ ds.database? db = none :=
  Option.map_eq_none_iff

theorem site?_tables_eq_none_iff :
    ds.site? (some (.tables db schema)) = none ↔ ds.schema? db schema = none :=
  Option.map_eq_none_iff

/-- Only the databases matter. -/
theorem site?_congr (h : ds'.databases = ds.databases) (site : Site) :
    ds'.site? site = ds.site? site := by
  have hdatabase : ∀ db, ds'.database? db = ds.database? db := fun db => by
    rw [database?, database?, h]
  have hschema : ∀ db schema, ds'.schema? db schema = ds.schema? db schema := fun db schema => by
    rw [schema?, schema?, hdatabase]
  obtain _ | ⟨db⟩ | ⟨db, schema⟩ := site
  · rw [site?, site?, h]
  · rw [site?, site?, hdatabase]
  · rw [site?, site?, hschema]

theorem site?_eq_none_iff_cache? {branch : Branch} :
    ds.site? (some branch) = none ↔ ds.cache? branch = none := by
  cases branch with
  | schemas db => exact site?_schemas_eq_none_iff.trans Option.map_eq_none_iff.symm
  | tables db schema => exact site?_tables_eq_none_iff.trans Option.map_eq_none_iff.symm

theorem Unfolds.refl (hrefl : ∀ c, R c c) (site : Site) (ds : DataSource) :
    ds.Unfolds R site ds where
  self := id
  old _ c _ hc := ⟨c, hc, hrefl c⟩
  new _ c' hnone hc' := by
    rw [hnone] at hc'
    cases hc'

/-- No cache goes away. -/
theorem Unfolds.absent (h : ds.Unfolds R site ds') {other : Site} (hnone : ds'.site? other = none) :
    ds.site? other = none := by
  by_cases hother : other = site
  · subst hother
    exact h.self hnone
  · cases hc : ds.site? other with
    | none => rfl
    | some c =>
      obtain ⟨c', hc', -⟩ := h.old other c hother hc
      rw [hnone] at hc'
      cases hc'

/-- The databases change, each with what it owns. -/
theorem unfolds_databases {databases : Cache Database}
    (h : Develops (Database.Follows R) Database.Pristine ds.databases.objects databases.objects) :
    ds.Unfolds R none { ds with databases } where
  self hnone := by cases hnone
  old other c hother hc := by
    obtain _ | ⟨db⟩ | ⟨db, schema⟩ := other
    · exact absurd rfl hother
    · obtain ⟨database, hdatabase, rfl⟩ := exists_of_site?_schemas hc
      obtain ⟨database', hdatabase', hfollows⟩ := h.old db database hdatabase
      exact ⟨_, site?_schemas hdatabase', hfollows.schemas⟩
    · obtain ⟨owner, howner, rfl⟩ := exists_of_site?_tables hc
      obtain ⟨database, hdatabase, hschema⟩ := schema?_eq_some_iff.1 howner
      obtain ⟨database', hdatabase', hfollows⟩ := h.old db database hdatabase
      obtain ⟨owner', hschema', htables⟩ := hfollows.below.old schema owner hschema
      exact ⟨_, site?_tables (schema?_eq_some_iff.2 ⟨database', hdatabase', hschema'⟩), htables⟩
  new other c' hnone hc' := by
    obtain _ | ⟨db⟩ | ⟨db, schema⟩ := other
    · cases hnone
    · obtain ⟨database', hdatabase', rfl⟩ := exists_of_site?_schemas hc'
      have hsize := Array.getElem?_eq_none_iff.1 (site?_schemas_eq_none_iff.1 hnone)
      obtain ⟨database, hpristine, hfollows⟩ := h.new db database' hsize hdatabase'
      exact ⟨_, hpristine.map _, hfollows.schemas⟩
    · obtain ⟨owner', howner', rfl⟩ := exists_of_site?_tables hc'
      obtain ⟨database', hdatabase', hschema'⟩ := schema?_eq_some_iff.1 howner'
      -- the schema is new with its database, or in one that was there
      have hsource : ∃ database : Database, database.Follows R database' ∧
          database.schemas.objects.size ≤ schema := by
        cases hdatabase : ds.database? db with
        | none =>
          obtain ⟨database, hpristine, hfollows⟩ :=
            h.new db database' (Array.getElem?_eq_none_iff.1 hdatabase) hdatabase'
          exact ⟨database, hfollows, by simp [hpristine.objects]⟩
        | some database =>
          obtain ⟨other, hother, hfollows⟩ := h.old db database hdatabase
          obtain rfl := Option.some.inj (hother.symm.trans hdatabase')
          refine ⟨database, hfollows, Array.getElem?_eq_none_iff.1 ?_⟩
          cases hschema : database.schemas.objects[schema]? with
          | none => rfl
          | some owner =>
            rw [site?, schema?_eq_some_iff.2 ⟨database, hdatabase, hschema⟩] at hnone
            cases hnone
      obtain ⟨database, hfollows, hsize⟩ := hsource
      obtain ⟨owner, hpristine, htables⟩ := hfollows.below.new schema owner' hsize hschema'
      exact ⟨_, hpristine.map _, htables⟩

theorem site?_none_putSchemas (ds : DataSource) (db : Ref) (schemas : Cache Schema) :
    (ds.putSchemas db schemas).site? none = ds.site? none :=
  congrArg some (Cache.map_modifyObject (f := Database.row) (g := ({ · with schemas }))
    (fun _ => rfl) ds.databases db)

theorem site?_putSchemas_self (hdatabase : ds.database? db = some database)
    (schemas : Cache Schema) :
    (ds.putSchemas db schemas).site? (some (.schemas db)) = some (schemas.map Schema.row) :=
  site?_schemas (database?_putSchemas_self hdatabase schemas)

theorem database?_putSchemas_of_ne {other : Ref} (h : other ≠ db) (ds : DataSource)
    (schemas : Cache Schema) : (ds.putSchemas db schemas).database? other = ds.database? other :=
  Cache.object?_modifyObject_of_ne ds.databases h _

theorem schema?_putSchemas_self (hdatabase : ds.database? db = some database)
    (schemas : Cache Schema) (schema : Ref) :
    (ds.putSchemas db schemas).schema? db schema = schemas.object? schema := by
  rw [schema?, database?_putSchemas_self hdatabase]
  rfl

theorem schema?_putSchemas_of_ne {other : Ref} (h : other ≠ db) (ds : DataSource)
    (schemas : Cache Schema) (schema : Ref) :
    (ds.putSchemas db schemas).schema? other schema = ds.schema? other schema := by
  rw [schema?, schema?, database?_putSchemas_of_ne h]

/-- The schemas of a database change, each with what it owns. -/
theorem unfolds_putSchemas (hrefl : ∀ c, R c c) (hdatabase : ds.database? db = some database)
    {schemas : Cache Schema}
    (h : Develops (Schema.Follows R) Schema.Pristine database.schemas.objects schemas.objects) :
    ds.Unfolds R (some (.schemas db)) (ds.putSchemas db schemas) where
  self hnone := by
    rw [site?_putSchemas_self hdatabase] at hnone
    cases hnone
  old other c hother hc := by
    obtain _ | ⟨db'⟩ | ⟨db', schema⟩ := other
    · exact ⟨c, (site?_none_putSchemas ds db schemas).trans hc, hrefl c⟩
    · have hne : db' ≠ db := by
        rintro rfl
        exact hother rfl
      refine ⟨c, ?_, hrefl c⟩
      rwa [site?, database?_putSchemas_of_ne hne]
    · by_cases hsame : db' = db
      · subst db'
        obtain ⟨owner, howner, rfl⟩ := exists_of_site?_tables hc
        obtain ⟨database', hdatabase', hschema⟩ := schema?_eq_some_iff.1 howner
        obtain rfl := Option.some.inj (hdatabase.symm.trans hdatabase')
        obtain ⟨owner', hschema', hfollows⟩ := h.old schema owner hschema
        exact ⟨_, site?_tables ((schema?_putSchemas_self hdatabase schemas schema).trans hschema'),
          hfollows⟩
      · refine ⟨c, ?_, hrefl c⟩
        rwa [site?, schema?_putSchemas_of_ne hsame]
  new other c' hnone hc' := by
    obtain _ | ⟨db'⟩ | ⟨db', schema⟩ := other
    · cases hnone
    · obtain ⟨database', hdatabase', -⟩ := exists_of_site?_schemas hc'
      rw [site?_schemas_eq_none_iff] at hnone
      by_cases hsame : db' = db
      · subst db'
        rw [hdatabase] at hnone
        cases hnone
      · rw [database?_putSchemas_of_ne hsame, hnone] at hdatabase'
        cases hdatabase'
    · obtain ⟨owner', howner', rfl⟩ := exists_of_site?_tables hc'
      rw [site?_tables_eq_none_iff] at hnone
      by_cases hsame : db' = db
      · subst db'
        rw [schema?_putSchemas_self hdatabase] at howner'
        have hsize : database.schemas.objects.size ≤ schema := by
          refine Array.getElem?_eq_none_iff.1 ?_
          cases hschema : database.schemas.objects[schema]? with
          | none => rfl
          | some owner =>
            rw [schema?_eq_some_iff.2 ⟨database, hdatabase, hschema⟩] at hnone
            cases hnone
        obtain ⟨owner, hpristine, hfollows⟩ := h.new schema owner' hsize howner'
        exact ⟨_, hpristine.map _, hfollows⟩
      · rw [schema?_putSchemas_of_ne hsame, hnone] at howner'
        cases howner'

/-- The tables of a schema change, and nothing else. -/
theorem site?_putTables_of_ne (howner : ds.schema? db schema = some owner)
    (hsite : site ≠ some (.tables db schema)) (tables : Cache Table) :
    (ds.putTables db schema tables).site? site = ds.site? site := by
  obtain ⟨database, hdatabase, hschema⟩ := schema?_eq_some_iff.1 howner
  rw [putTables_eq hdatabase]
  obtain _ | ⟨db'⟩ | ⟨db', schema'⟩ := site
  · exact site?_none_putSchemas ds db _
  · by_cases hsame : db' = db
    · subst db'
      rw [site?_putSchemas_self hdatabase, site?_schemas hdatabase]
      exact congrArg some (Cache.map_modifyObject (f := Schema.row) (g := ({ · with tables }))
        (fun _ => rfl) database.schemas schema)
    · rw [site?, site?, database?_putSchemas_of_ne hsame]
  · by_cases hsame : db' = db
    · subst db'
      have hne : schema' ≠ schema := by
        rintro rfl
        exact hsite rfl
      rw [site?, site?, schema?_putSchemas_self hdatabase,
        Cache.object?_modifyObject_of_ne _ hne, schema?, hdatabase]
      rfl
    · rw [site?, site?, schema?_putSchemas_of_ne hsame]

theorem schema?_putTables_self (howner : ds.schema? db schema = some owner)
    (tables : Cache Table) :
    (ds.putTables db schema tables).schema? db schema = some { owner with tables } := by
  obtain ⟨database, hdatabase, hschema⟩ := schema?_eq_some_iff.1 howner
  rw [putTables_eq hdatabase, schema?_putSchemas_self hdatabase]
  exact Cache.object?_modifyObject_self _ hschema

theorem site?_putTables_self (howner : ds.schema? db schema = some owner) (tables : Cache Table) :
    (ds.putTables db schema tables).site? (some (.tables db schema)) =
      some (tables.map Table.row) :=
  site?_tables (schema?_putTables_self howner tables)

theorem unfolds_putTables (hrefl : ∀ c, R c c) (howner : ds.schema? db schema = some owner)
    (tables : Cache Table) :
    ds.Unfolds R (some (.tables db schema)) (ds.putTables db schema tables) where
  self hnone := by
    rw [site?_putTables_self howner tables] at hnone
    cases hnone
  old other c hother hc := ⟨c, (site?_putTables_of_ne howner hother tables).trans hc, hrefl c⟩
  new other c' hnone hc' := by
    have hother : other ≠ some (.tables db schema) := by
      rintro rfl
      rw [site?_tables howner] at hnone
      cases hnone
    rw [site?_putTables_of_ne howner hother, hnone] at hc'
    cases hc'

end DataSource

end CatalogBrowser
