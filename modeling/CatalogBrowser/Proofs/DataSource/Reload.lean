import CatalogBrowser.Proofs.DataSource.Solitude

/-!
# Refreshing and loading anew

A refresh keeps the instances that it finds again and merges the fresh rows into them. For databases
and schemas, everything that a user sees of an instance is taken from the fresh row, but for what it
is found by, and that is the same in both. So once a refresh succeeded, it cannot be seen that there
was anything before: a new data source that reads the same document shows the same.

## Main definitions

* `Directory` - a collection as a user sees it, in order and by name.
* `DataSource.directory`, `Database.directory` - the databases of a server, and the schemas of a
  database.

## Main statements

* `Session.refresh_eq_reload` - a refresh and a new load show the same.
-/

namespace CatalogBrowser

open Cache (Load Request firstOfEach)

/-- A collection as a user sees it: all of it in order, once it is loaded, and what is found by a
name. -/
structure Directory (ρ : Type) where
  all : Option (List ρ)
  named : String → Option ρ

/-- The directory of some rows, in which a name finds the first row that has it. -/
def Directory.ofRows {ρ : Type} (name : ρ → String) (rows : List ρ) : Directory ρ where
  all := some rows
  named wanted := rows.find? (name · = wanted)

/-- What a user sees of a schema. -/
def Schema.info (schema : Schema) : SchemaRecord where
  oid := schema.oid
  name := schema.name
  owner := schema.owner

/-- What a user sees of the databases. -/
def DataSource.directory (ds : DataSource) : Directory DatabaseRecord where
  all := ds.databases.loaded?.map (·.map Database.info)
  named name := ((ds.databaseNamed? name).bind ds.database?).map Database.info

/-- What a user sees of the schemas of a database. -/
def Database.directory (database : Database) : Directory SchemaRecord where
  all := database.schemas.loaded?.map (·.map Schema.info)
  named name := ((database.schema? name).bind database.schemas.object?).map Schema.info

section Info

variable {document : Document} {ds ds' : DataSource} {database : Database} {stock : List Database}
  {schemas : Cache Schema}

theorem Database.info_ofRecord (record : DatabaseRecord) : (ofRecord record).info = record := rfl

theorem Schema.info_ofRecord (database : String) (record : SchemaRecord) :
    (ofRecord database record).info = record := rfl

/-- Nothing but the record is seen of a database that was merged into another one of its name. -/
theorem Database.info_renewal {databases : Cache Database}
    (hconfig : databases.config = Database.cacheConfig)
    (hindexed : databases.Indexed Database.source) (database : Database) :
    (databases.renewal Database.source database).info = database.info := by
  rw [Cache.renewal]
  cases hexisting : databases.namesake? Database.source database with
  | none => rfl
  | some existing =>
    have hkey := hindexed.objectKey_of_namesake? hexisting
    have hname : existing.name = database.name := by
      simpa [Cache.objectKey, Cache.key, hconfig, Database.cacheConfig, Database.source,
        KeyPolicy.fold] using hkey
    simp only [Option.elim_some, Database.source, Database.merge, Database.info, hname]

/-- Nothing but the record is seen of a schema that was merged into another one of its oid. -/
theorem Schema.info_renewal {name : String} (hindexed : schemas.Indexed (Schema.source name))
    (schema : Schema) : (schemas.renewal (Schema.source name) schema).info = schema.info := by
  rw [Cache.renewal]
  cases hexisting : schemas.namesake? (Schema.source name) schema with
  | none => rfl
  | some existing =>
    have hkey := hindexed.objectKey_of_namesake? hexisting
    have hoid : existing.oid = schema.oid := by
      simpa [Cache.objectKey, Cache.key, Schema.source] using hkey
    simp only [Option.elim_some, Schema.source, Schema.info, hoid]

/-- The databases are seen as they are stocked. -/
theorem DataSource.directory_of_stocked (hconfig : ds.databases.config = Database.cacheConfig)
    (hstocked : ds.databases.Stocked Database.source stock) :
    ds.directory = .ofRows (·.name) (stock.map Database.info) := by
  have hnamed : ∀ name, ((ds.databaseNamed? name).bind ds.database?).map Database.info =
      (stock.map Database.info).find? (·.name = name) := by
    intro name
    have htells := (tells_databaseNamed? hconfig hstocked name).bind_object?
    rw [show (ds.databaseNamed? name).bind ds.database? = _ from htells, List.find?_map]
    rfl
  rw [directory, hstocked.loaded?_eq, Directory.ofRows, Option.map_some, funext hnamed]

theorem Database.directory_of_stocked {name : String} {stock : List Schema}
    (hstocked : database.schemas.Stocked (Schema.source name) stock) :
    database.directory = .ofRows (·.name) (stock.map Schema.info) := by
  have hnamed : ∀ wanted,
      ((database.schema? wanted).bind database.schemas.object?).map Schema.info =
        (stock.map Schema.info).find? (·.name = wanted) := by
    intro wanted
    rw [Database.schema?, hstocked.find?_object, List.find?_map]
    rfl
  rw [directory, hstocked.loaded?_eq, Directory.ofRows, Option.map_some, funext hnamed]

/-- A data source that has read the list of databases shows what the server lists. -/
theorem DataSource.directory_of_renewed (hconfig : ds.databases.config = Database.cacheConfig)
    (hindexed : ds.databases.Indexed Database.source) {connection : Connection}
    (hrenewed : ds.databases.Renewed Database.source
      (document.listDatabases connection.databaseFilter) ds'.databases) :
    ds'.directory = .ofRows (·.name) (document.databaseRows connection) := by
  rw [directory_of_stocked (hrenewed.config.trans hconfig) hrenewed.stocked,
    Cache.map_renewal (Database.info_renewal hconfig hindexed) Database.construct_eq
      Database.info_ofRecord]
  have hkey : ds.databases.objectKey Database.source ∘ Database.ofRecord =
      fun row => .name row.name := by
    rw [Cache.objectKey_of_config hconfig]
    rfl
  rw [hkey, Document.databaseRows_eq]

/-- The databases that a connection reads or takes on trust are those that it shows. -/
theorem Document.info_databaseStock (document : Document) (connection : Connection) :
    (document.databaseStock connection).map Database.info = document.visibleRows connection := by
  rw [databaseStock, List.map_map]
  exact List.map_id'' Database.info_ofRecord _

/-- So does one that was initialised. -/
theorem DataSource.Opened.directory_eq {connection : Connection}
    (hlist : connection.readDatabaseList = true) (h : ds.Opened connection document) :
    ds.directory = .ofRows (·.name) (document.databaseRows connection) := by
  rw [directory_of_stocked h.databases.config h.databases.stocked, document.info_databaseStock,
    Document.visibleRows, if_pos hlist]

/-- A database whose schemas were read shows what the server lists. -/
theorem Database.directory_of_renewed {name : String} {records : List SchemaRecord}
    (hindexed : schemas.Indexed (Schema.source name))
    (hrenewed : schemas.Renewed (Schema.source name) records database.schemas) :
    database.directory = .ofRows (·.name) (firstOfEach (fun row => .id row.oid) records) := by
  rw [directory_of_stocked hrenewed.stocked, Cache.map_renewal (Schema.info_renewal hindexed) rfl
    (Schema.info_ofRecord name), Schema.objectKey_ofRecord]

end Info

namespace Session

variable {connection : Connection} {document : Document} {s s' t t' : Session} {answer : Answer}
  {server : Server} {db : Ref} {database : Database} {request : Request}

/-- The only call that was made on a new data source has read its databases. -/
inductive Loads (connection : Connection) (document : Document) (t : Session) : Prop
  | opening {server : Server} :
      (opened connection server).Completes document (.opening .start) (.ok .done) t →
      Loads connection document t
  | databases {server : Server} {answer : Answer} :
      (opened connection server).Completes document (.databases { request := .all }) (.ok answer)
        t → Loads connection document t

/-- A new data source shows what the server lists. -/
theorem Loads.directory_eq (h : t.Loads connection document)
    (hlist : connection.readDatabaseList = true) :
    t.source.directory = .ofRows (·.name) (document.databaseRows connection) := by
  cases h with
  | @opening server hcompletes =>
    obtain ⟨server', name, monitor, actions, hserves, hcalm, hcourse⟩ := hcompletes.course
    have hattempted : t.Attempted connection document :=
      ⟨{ server' with queries := server.queries }, [], name, monitor, actions, hserves, by simp,
        hcalm, hcourse⟩
    exact (hattempted.opened hcompletes.result).directory_eq hlist
  | @databases server answer hcompletes =>
    have hopened := reachable_opened connection server
    obtain ⟨-, outcome, hresult, hlisted⟩ := hcompletes.databases hopened hlist
    obtain ⟨records, hrecords, hrenewed⟩ := renewed_of_brings hlisted.brings hresult fun _ => rfl
    obtain rfl := Except.ok.inj hrecords
    exact DataSource.directory_of_renewed rfl hopened.orderly.indexed hrenewed

/-- A data source that was refreshed shows what the server lists. -/
theorem Completes.directory_refresh (hs : s.Reachable)
    (hlist : s.source.connection.readDatabaseList = true)
    (h : s.Completes document (.refresh false { request := .refresh }) (.ok answer) s') :
    s'.source.directory = .ofRows (·.name) (document.databaseRows s.source.connection) := by
  obtain ⟨-, outcome, hresult, hlisted⟩ := h.refresh hs hlist
  obtain ⟨records, hrecords, hrenewed⟩ := renewed_of_brings hlisted.brings hresult nofun
  obtain rfl := Except.ok.inj hrecords
  exact DataSource.directory_of_renewed hs.orderly.config hs.orderly.indexed hrenewed

/-- A database whose schemas were read or refreshed shows what the server lists. -/
theorem Completes.directory_schemas (hs : s.Reachable)
    (hdatabase : s.source.database? db = some database) (hbulk : request.Bulk)
    (hmissing : request = .all → database.schemas.isFullyCached = false)
    (h : s.Completes document (.schemas db { request }) (.ok answer) s') :
    ∃ rows after, document.schemaRows database.name = .ok rows ∧
      s'.source.database? db = some after ∧ after.directory = .ofRows (·.name) rows := by
  obtain ⟨-, schemas, outcome, hresult, hsource, hbrings⟩ := h.schemas hs hbulk hdatabase
  obtain ⟨records, hrecords, hrenewed⟩ := renewed_of_brings hbrings hresult hmissing
  refine ⟨firstOfEach (fun row => .id row.oid) records, { database with schemas },
    Document.schemaRows_of_listSchemas hrecords, ?_, ?_⟩
  · rw [hsource]
    exact DataSource.database?_putSchemas_self hdatabase schemas
  · exact Database.directory_of_renewed (hs.orderly.of_database? hdatabase).indexed hrenewed

/-- Whatever was read before and from whichever documents, a data source that is refreshed shows the
databases that the server lists now, just as a new one does that reads them. The same is true of the
schemas of a database. -/
theorem refresh_eq_reload (document : Document) :
    (∀ {s s' : Session} {answer : Answer}, s.Reachable →
      s.source.connection.readDatabaseList = true →
      s.Completes document (.refresh false { request := .refresh }) (.ok answer) s' →
      s'.source.directory = .ofRows (·.name) (document.databaseRows s.source.connection) ∧
        ∀ t : Session, t.Loads s.source.connection document →
          t.source.directory = s'.source.directory) ∧
    ∀ {s s' : Session} {answer : Answer} {db : Ref} {database : Database}, s.Reachable →
      s.source.database? db = some database →
      s.Completes document (.schemas db { request := .refresh }) (.ok answer) s' →
      ∃ rows refreshed, document.schemaRows database.name = .ok rows ∧
        s'.source.database? db = some refreshed ∧ refreshed.directory = .ofRows (·.name) rows ∧
        ∀ {t t' : Session} {answer : Answer} {db' : Ref} {unread : Database}, t.Reachable →
          t.source.database? db' = some unread → unread.name = database.name →
          unread.schemas.isFullyCached = false →
          t.Completes document (.schemas db' { request := .all }) (.ok answer) t' →
          ∃ loaded, t'.source.database? db' = some loaded ∧
            loaded.directory = refreshed.directory := by
  constructor
  · intro s s' answer hs hlist hrefresh
    have hrefreshed := hrefresh.directory_refresh hs hlist
    exact ⟨hrefreshed, fun t hloads => (hloads.directory_eq hlist).trans hrefreshed.symm⟩
  · intro s s' answer db database hs hdatabase hrefresh
    have hrefreshes : Request.Bulk .refresh := trivial
    have hloads : Request.Bulk .all := trivial
    obtain ⟨rows, refreshed, hrows, hafter, hdirectory⟩ :=
      hrefresh.directory_schemas hs hdatabase hrefreshes fun hall => by cases hall
    refine ⟨rows, refreshed, hrows, hafter, hdirectory, ?_⟩
    intro t t' answer db' unread ht hunread hname hmissing hload
    obtain ⟨rows', loaded, hrows', hloaded, hshown⟩ :=
      hload.directory_schemas ht hunread hloads fun _ => hmissing
    obtain rfl : rows' = rows := by
      rw [hname, hrows] at hrows'
      exact (Except.ok.inj hrows').symm
    exact ⟨loaded, hloaded, hshown.trans hdirectory.symm⟩

/-- A database is dropped and created again with another owner, and a schema is renamed. -/
theorem refresh_eq_reload_recreated :
    let connection : Connection := { readDatabaseList := true }
    let earlier : Server := { document := { databases := [{
      record := { oid := 1, name := "app" }
      schemas := [{ record := { oid := 11, name := "a" } }] }] } }
    let later : Server := { document := { databases := [{
      record := { oid := 2, name := "app", owner := some "me" }
      schemas := [{ record := { oid := 11, name := "b" } }] }] } }
    let listed := (opened connection earlier).call earlier (.databases { request := .all })
    let s := listed.call earlier (.schemas 0 { request := .all })
    let refreshed := s.call later (.refresh false { request := .refresh })
    let anew := (opened connection later).call later (.databases { request := .all })
    let renamed := s.call later (.schemas 0 { request := .refresh })
    let loaded := anew.call later (.schemas 0 { request := .all })
    anew.source.directory = refreshed.source.directory ∧
      refreshed.source.directory.all = some [{ oid := 2, name := "app", owner := some "me" }] ∧
      (loaded.source.database? 0).map Database.directory =
        (renamed.source.database? 0).map Database.directory ∧
      (renamed.source.database? 0).bind (·.directory.all) = some [{ oid := 11, name := "b" }] := by
  intro connection earlier later listed s refreshed anew renamed loaded
  have hidle : listed.tasks = [] ∧ s.tasks = [] ∧ anew.tasks = [] := by decide +kernel
  have hlisted : (opened connection earlier).Completes earlier.document
      (.databases { request := .all }) (.ok (.databases (.objects [0]))) listed :=
    completes_call rfl (by decide +kernel)
  have hread : listed.Completes earlier.document (.schemas 0 { request := .all })
      (.ok (.schemas 0 (.objects [0]))) s := completes_call hidle.1 (by decide +kernel)
  have hrefreshed : s.Completes later.document (.refresh false { request := .refresh })
      (.ok (.databases (.changes { updated := [0] }))) refreshed :=
    completes_call hidle.2.1 (by decide +kernel)
  have hanew : (opened connection later).Completes later.document
      (.databases { request := .all }) (.ok (.databases (.objects [0]))) anew :=
    completes_call rfl (by decide +kernel)
  have hrenamed : s.Completes later.document (.schemas 0 { request := .refresh })
      (.ok (.schemas 0 (.changes { updated := [0] }))) renamed :=
    completes_call hidle.2.1 (by decide +kernel)
  have hloaded : anew.Completes later.document (.schemas 0 { request := .all })
      (.ok (.schemas 0 (.objects [0]))) loaded := completes_call hidle.2.2 (by decide +kernel)
  have hs : s.Reachable :=
    hread.reachable (hlisted.reachable (reachable_opened connection earlier) rfl) rfl
  obtain ⟨hdatabases, hschemas⟩ := refresh_eq_reload later.document
  have hconnection : s.source.connection = connection := by decide +kernel
  obtain ⟨-, hreloads⟩ := hdatabases hs (by rw [hconnection]) hrefreshed
  have hnames : (s.source.database? 0).map (·.name) = some "app" ∧
      (anew.source.database? 0).map (fun database =>
        (database.name, database.schemas.isFullyCached)) = some ("app", false) := by decide +kernel
  obtain ⟨database, hdatabase, hname⟩ := Option.map_eq_some_iff.1 hnames.1
  obtain ⟨unread, hunread, hfresh⟩ := Option.map_eq_some_iff.1 hnames.2
  obtain ⟨hunreadName, hmissing⟩ := Prod.mk.inj hfresh
  obtain ⟨rows, after, hrows, hafter, hdirectory, hagree⟩ := hschemas hs hdatabase hrenamed
  obtain ⟨reloaded, hreloaded, hsame⟩ :=
    hagree (hanew.reachable (reachable_opened connection later) rfl) hunread
      (hunreadName.trans hname.symm) hmissing hloaded
  refine ⟨hreloads anew (hconnection ▸ .databases hanew), by decide +kernel, ?_, by decide +kernel⟩
  rw [hafter, hreloaded, Option.map_some, Option.map_some, hsame]

end Session

end CatalogBrowser
