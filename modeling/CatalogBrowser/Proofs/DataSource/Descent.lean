import CatalogBrowser.DataSource.Context
import CatalogBrowser.Proofs.Cache.Reading
import CatalogBrowser.Proofs.Cache.Retention

/-!
# Caches below a database

A database owns the cache of its schemas, and each of these owns the cache of its tables. Nobody
replaces a cache that is owned: it can only be cleared and filled again, also where its owner is not
cached any more. So what holds of the later states of a cache holds of all caches below a database.

## Main definitions

* `Branch` - where a cache below a database is, `DataSource.cache?` the cache there.
* `Schema.Descends`, `Database.Descends`, `DataSource.Descends` - what came out of an earlier state.

## Main statements

* `DataSource.Descends.cache?` - the caches below a database came out of what they were.
* `DataSource.descends_putSchemas`, `DataSource.descends_putTables` - one of them changes.
-/

namespace CatalogBrowser

open Cache (Develops Upkeep)

/-- A schema that came out of an earlier state. -/
def Schema.Descends (schema schema' : Schema) : Prop :=
  schema.tables.Descends schema'.tables

/-- A database that came out of an earlier state. -/
structure Database.Descends (database database' : Database) : Prop where
  name : database'.name = database.name
  schemas : database.schemas.Descends database'.schemas
  below : Develops Schema.Descends (fun _ => True)
    database.schemas.objects database'.schemas.objects

/-- A database whose schemas all exist. -/
def Database.Founded (database : Database) : Prop :=
  database.schemas.Founded

/-- A data source that came out of an earlier state. -/
structure DataSource.Descends (ds ds' : DataSource) : Prop where
  databases : ds.databases.Descends ds'.databases
  below : Develops Database.Descends Database.Founded ds.databases.objects ds'.databases.objects

section Upkeep

theorem Schema.Descends.refl (schema : Schema) : schema.Descends schema :=
  Cache.Descends.refl schema.tables

/-- Dropping a schema clears its tables, and a refresh leaves them alone. -/
theorem Schema.upkeep (database : String) : Upkeep (Schema.source database) Schema.Descends where
  refl := Schema.Descends.refl
  trans := Cache.Descends.trans
  merge existing _ := Cache.Descends.refl existing.tables
  evicted schema := Cache.descends_edit Table.source schema.tables .clear

theorem Database.Descends.refl (database : Database) : database.Descends database :=
  ⟨rfl, .refl _, Cache.develops_refl Schema.Descends.refl _⟩

theorem Database.Descends.trans {a b c : Database} (h : a.Descends b) (h' : b.Descends c) :
    a.Descends c :=
  ⟨h'.name.trans h.name, h.schemas.trans h'.schemas, h.below.trans Cache.Descends.trans h'.below⟩

theorem Database.descends_cleared (database : Database) : database.Descends database.cleared where
  name := rfl
  schemas := Cache.descends_edit (Schema.source database.name) database.schemas .clear
  below :=
    have hclear : (.clear : Cache.Edit Schema).Respects Schema.Descends fun _ => True := trivial
    Cache.develops_edit (Schema.upkeep database.name) hclear

/-- Dropping a database clears its schemas, and so does a refresh that finds another one. -/
theorem Database.upkeep : Upkeep Database.source Database.Descends where
  refl := Database.Descends.refl
  trans := Database.Descends.trans
  merge existing fresh := by
    by_cases h : existing.wasRecreated fresh = true
    · have hmerged : (existing.merge fresh).schemas = existing.cleared.schemas := by
        simp only [Database.merge, if_pos h]
      exact ⟨rfl, hmerged ▸ existing.descends_cleared.schemas,
        hmerged ▸ existing.descends_cleared.below⟩
    · have hmerged : (existing.merge fresh).schemas = existing.schemas := by
        simp only [Database.merge, if_neg h]
      exact ⟨rfl, hmerged ▸ (Database.Descends.refl existing).schemas,
        hmerged ▸ (Database.Descends.refl existing).below⟩
  evicted := Database.descends_cleared

/-- A merge keeps the name. -/
theorem Database.keepsKeys_merge (databases : Cache Database) :
    Cache.KeepsKeys (databases.objectKey Database.source) Database.merge := fun _ _ _ => rfl

theorem Database.founded_ofRecord (record : DatabaseRecord) : (ofRecord record).Founded := by
  simp [Founded, Cache.Founded, ofRecord, Cache.Snapshot.refs]

theorem DataSource.Descends.refl (ds : DataSource) : ds.Descends ds :=
  ⟨.refl _, Cache.develops_refl Database.Descends.refl _⟩

theorem DataSource.Descends.trans {a b c : DataSource} (h : a.Descends b) (h' : b.Descends c) :
    a.Descends c :=
  ⟨h.databases.trans h'.databases, h.below.trans Database.Descends.trans h'.below⟩

end Upkeep

/-- A cache below a database: that of its schemas, or that of the tables of one of them. -/
inductive Branch where
  | schemas (db : Ref)
  | tables (db schema : Ref)
deriving DecidableEq

namespace DataSource

variable {ds ds' : DataSource} {db schema : Ref} {database : Database} {owner : Schema}

/-- The cache at a branch. -/
def cache? (ds : DataSource) : Branch → Option (Cache (Schema ⊕ Table))
  | .schemas db => (ds.database? db).map (·.schemas.map .inl)
  | .tables db schema => (ds.schema? db schema).map (·.tables.map .inr)

/-- The caches below a database came out of what they were. -/
theorem Descends.cache? (h : ds.Descends ds') {branch : Branch} {c : Cache (Schema ⊕ Table)}
    (hcache : ds.cache? branch = some c) :
    ∃ c', ds'.cache? branch = some c' ∧ c.Descends c' := by
  cases branch with
  | schemas db =>
    obtain ⟨database, hdatabase, rfl⟩ := Option.map_eq_some_iff.1 hcache
    obtain ⟨database', hdatabase', hdescends⟩ := h.below.old db database hdatabase
    refine ⟨_, ?_, hdescends.schemas.map _⟩
    exact Option.map_eq_some_iff.2 ⟨database', hdatabase', rfl⟩
  | tables db schema =>
    obtain ⟨owner, howner, rfl⟩ := Option.map_eq_some_iff.1 hcache
    obtain ⟨database, hdatabase, hschema⟩ := schema?_eq_some_iff.1 howner
    obtain ⟨database', hdatabase', hdescends⟩ := h.below.old db database hdatabase
    obtain ⟨owner', hschema', htables⟩ := hdescends.below.old schema owner hschema
    refine ⟨_, ?_, Cache.Descends.map htables _⟩
    exact Option.map_eq_some_iff.2
      ⟨owner', schema?_eq_some_iff.2 ⟨database', hdatabase', hschema'⟩, rfl⟩

/-- The schemas of a database change. -/
theorem descends_putSchemas (hdatabase : ds.database? db = some database) {schemas : Cache Schema}
    (hschemas : database.schemas.Descends schemas)
    (hbelow : Develops Schema.Descends (fun _ => True) database.schemas.objects schemas.objects) :
    ds.Descends (ds.putSchemas db schemas) where
  databases := Cache.descends_modifyObject ds.databases db _
  below := by
    have hput : ∀ other, ds.databases.objects[db]? = some other →
        other.Descends { other with schemas } := by
      intro other hother
      obtain rfl : database = other := Option.some.inj (hdatabase.symm.trans hother)
      exact ⟨rfl, hschemas, hbelow⟩
    exact Cache.develops_modify Database.Descends.refl hput

theorem putTables_eq (hdatabase : ds.database? db = some database) (tables : Cache Table) :
    ds.putTables db schema tables =
      ds.putSchemas db (database.schemas.modifyObject schema ({ · with tables })) := by
  rw [putTables, hdatabase]

theorem putTables_self (howner : ds.schema? db schema = some owner) :
    ds.putTables db schema owner.tables = ds := by
  obtain ⟨database, hdatabase, hschema⟩ := schema?_eq_some_iff.1 howner
  rw [putTables_eq hdatabase, Cache.modifyObject_of_eq, putSchemas_self hdatabase]
  intro other hother
  obtain rfl : owner = other := Option.some.inj (hschema.symm.trans hother)
  rfl

/-- The tables of a schema change. -/
theorem descends_putTables (howner : ds.schema? db schema = some owner) {tables : Cache Table}
    (htables : owner.tables.Descends tables) : ds.Descends (ds.putTables db schema tables) := by
  obtain ⟨database, hdatabase, hschema⟩ := schema?_eq_some_iff.1 howner
  have hput : ∀ other, database.schemas.objects[schema]? = some other →
      other.Descends { other with tables } := by
    intro other hother
    obtain rfl : owner = other := Option.some.inj (hschema.symm.trans hother)
    exact htables
  rw [putTables_eq hdatabase]
  exact descends_putSchemas hdatabase (Cache.descends_modifyObject _ _ _)
    (Cache.develops_modify Schema.Descends.refl hput)

/-- The schemas of a database may change without its name. -/
theorem indexed_putSchemas (h : ds.databases.Indexed Database.source) (db : Ref)
    (schemas : Cache Schema) : (ds.putSchemas db schemas).databases.Indexed Database.source := by
  have hkeeps : Cache.KeepsIdentity Database.source { cache := ds.databases }
      (.edit (.change db ({ · with schemas }))) := fun _ _ _ => rfl
  exact Cache.indexed_edit h hkeeps

/-- So may the tables of a schema. -/
theorem indexed_putTables (h : ds.databases.Indexed Database.source) (db schema : Ref)
    (tables : Cache Table) :
    (ds.putTables db schema tables).databases.Indexed Database.source := by
  rw [putTables]
  cases ds.database? db with
  | none => exact h
  | some database => exact indexed_putSchemas h db _

theorem snapshot_putTables (ds : DataSource) (db schema : Ref) (tables : Cache Table) :
    (ds.putTables db schema tables).databases.snapshot = ds.databases.snapshot := by
  rw [putTables]
  cases ds.database? db <;> rfl

theorem cache?_putSchemas (hdatabase : ds.database? db = some database) (schemas : Cache Schema) :
    (ds.putSchemas db schemas).cache? (.schemas db) = some (schemas.map .inl) := by
  rw [DataSource.cache?, database?_putSchemas_self hdatabase]
  rfl

theorem cache?_putTables (howner : ds.schema? db schema = some owner) (tables : Cache Table) :
    (ds.putTables db schema tables).cache? (.tables db schema) = some (tables.map .inr) := by
  obtain ⟨database, hdatabase, hschema⟩ := schema?_eq_some_iff.1 howner
  have hput : (ds.putTables db schema tables).schema? db schema = some { owner with tables } := by
    rw [putTables_eq hdatabase]
    exact schema?_eq_some_iff.2
      ⟨_, database?_putSchemas_self hdatabase _, Cache.object?_modifyObject_self _ hschema⟩
  rw [DataSource.cache?, hput]
  rfl

end DataSource

end CatalogBrowser
