import CatalogBrowser.Proofs.DataSource.Attempt

/-!
# What a data source shows

The users of a data source see its databases with their attributes, which of them is active, which
one stands in where none is chosen, and the settings. Of a data source that is initialised, all of
this follows from the connection and from what the server lists, whatever happened before.

## Main definitions

* `DataSource.overview` - what a data source shows.
* `Document.overview` - what the server and a connection make of it.

## Main statements

* `DataSource.Opened.overview_eq` - an initialised data source shows what it should.
-/

namespace CatalogBrowser

namespace Cache

variable {ρ α : Type} {source : Source ρ α} {c : Cache α} {stock : List α}
  {wanted wanted' : Option α} {found found' : Option Ref}

/-- All objects in order, once the whole collection is loaded. -/
def loaded? (c : Cache α) : Option (List α) :=
  if c.isFullyCached then some (c.cachedObjects.filterMap c.object?) else none

theorem Stocked.loaded?_eq (h : c.Stocked source stock) : c.loaded? = some stock := by
  rw [loaded?, isFullyCached, if_pos h.holds.complete, h.objects]

theorem Stocked.tells_head? (h : c.Stocked source stock) :
    c.Tells stock.head? c.cachedObjects.head? := by
  rw [Tells, ← List.head?_map, ← List.head?_map, cachedObjects, if_pos h.holds.complete,
    h.map_object?]

theorem Tells.or (h : c.Tells wanted found) (h' : c.Tells wanted' found') :
    c.Tells (wanted.or wanted') (found.or found') := by
  rw [Tells] at h h' ⊢
  rw [Option.map_or, Option.map_or, h, h']

end Cache

/-- What a user sees of a database. -/
def Database.info (database : Database) : DatabaseRecord where
  oid := database.oid
  name := database.name
  owner := database.owner
  encoding := database.encoding
  isTemplate := database.isTemplate
  allowConnections := database.allowConnections

/-- What a user sees of a data source. -/
structure Overview where
  databases : Option (List DatabaseRecord)
  active : String
  /-- The name of the database to use where none is chosen, or why there is none. -/
  defaultInstance : Except DataSourceError (Option String)
  settings : Option (List Setting)
deriving DecidableEq

def DataSource.overview (ds : DataSource) : Overview where
  databases := ds.databases.loaded?.map (·.map Database.info)
  active := ds.activeName
  defaultInstance := ds.defaultInstance.map fun db => (ds.database? db).map (·.name)
  settings := ds.settings.loaded?

/-- The database to use where none is chosen. -/
def Database.standIn? (active : String) (databases : List Database) : Option Database :=
  (databases.find? (·.name = active)).or <|
    (databases.find? (·.name = defaultDatabase)).or databases.head?

/-- What the user of a connection is to see once all is loaded. -/
def Document.overview (document : Document) (connection : Connection) : Overview :=
  let databases := document.databaseStock connection
  let active := document.activeOver connection
  { databases := some (databases.map Database.info)
    active
    defaultInstance :=
      match Database.standIn? active databases with
      | some database => .ok (some database.name)
      | none => .error .noDatabases
    settings := some document.settingStock }

namespace DataSource

variable {connection : Connection} {document : Document} {ds : DataSource} {stock : List Database}

/-- A database is found by its name. -/
theorem tells_databaseNamed? (hconfig : ds.databases.config = Database.cacheConfig)
    (hstocked : ds.databases.Stocked Database.source stock) (name : String) :
    ds.databases.Tells (stock.find? (·.name = name)) (ds.databaseNamed? name) := by
  have hkey : ∀ database : Database, ds.databases.objectKey Database.source database =
      ds.databases.key (.name name) ↔ database.name = name := by
    intro database
    simp [Cache.objectKey, Cache.key, hconfig, Database.cacheConfig, Database.source,
      KeyPolicy.fold]
  have htells := hstocked.tells (.name name)
  simp only [hkey] at htells
  exact htells

/-- The default instance of a data source that knows all databases. -/
theorem defaultInstance_of_stocked (hconfig : ds.databases.config = Database.cacheConfig)
    (hstocked : ds.databases.Stocked Database.source stock) :
    ds.defaultInstance.map (fun db => (ds.database? db).map (·.name)) =
      match Database.standIn? ds.activeName stock with
      | some database => .ok (some database.name)
      | none => .error .noDatabases := by
  have htells : ds.databases.Tells (Database.standIn? ds.activeName stock)
      ((ds.databaseNamed? ds.activeName).or <|
        (ds.databaseNamed? defaultDatabase).or ds.databases.cachedObjects.head?) :=
    (tells_databaseNamed? hconfig hstocked _).or <|
      (tells_databaseNamed? hconfig hstocked _).or hstocked.tells_head?
  rw [defaultInstance, Cache.isFullyCached, if_pos hstocked.holds.complete]
  generalize Database.standIn? ds.activeName stock = wanted at htells ⊢
  generalize (ds.databaseNamed? ds.activeName).or _ = found at htells ⊢
  cases found with
  | none =>
    cases wanted with
    | none => rfl
    | some database => cases htells
  | some db =>
    cases wanted with
    | none => cases htells
    | some database =>
      have hdb : ds.database? db = some database := Option.some.inj htells
      simp [Except.map, hdb]

/-- A data source that is initialised shows what there is on the server, but for settings that were
not read. -/
theorem Opened.overview_eq (h : ds.Opened connection document) :
    ds.overview = { document.overview connection with settings := ds.settings.loaded? } := by
  have hname : ds.activeName = document.activeOver connection := by
    rw [activeName, h.active, Option.getD_some]
  have hstocked := h.databases.stocked
  have hdefault := defaultInstance_of_stocked h.databases.config hstocked
  rw [hname] at hdefault
  rw [overview, hname, hdefault, hstocked.loaded?_eq]
  rfl

theorem Opened.overview_of_stocked (h : ds.Opened connection document)
    (hsettings : ds.settings.Stocked Setting.source document.settingStock) :
    ds.overview = document.overview connection := by
  rw [h.overview_eq, hsettings.loaded?_eq]
  rfl

end DataSource

end CatalogBrowser
