import CatalogBrowser.Proofs.Catalog.Rows
import CatalogBrowser.Proofs.DataSource.Waiting

/-!
# Walking down the tree

What a walk leaves in the caches of databases, schemas and tables, where the server is online and
nothing is cancelled. A walk that is deeper than all walks before reads what is missing, and one
that is not changes nothing, so the depth that is reached is the greatest of all.

## Main definitions

* `Schema.Shown`, `Database.Shown` - a schema and a database that are read down to a depth.

## Main statements

* `Context.ends_walkSchemas`, `Context.ends_walkDatabases` - how deep the tree is read in the end.
* `Context.ends_walkDatabases_missing` - the database below which a walk reads does not exist.
-/

namespace CatalogBrowser

open Cache (Load)

/-- A schema of a database of the document, whose tables are read unless the depth is zero. -/
def Schema.Shown (document : Document) (entry : DatabaseEntry) (depth : Nat) (schema : Schema)
    (row : SchemaRecord) : Prop :=
  schema.name = row.name ∧ document.database? schema.database = .ok entry ∧
    match depth with
    | 0 => schema.tables.Pristine ∧ schema.tables.config.keyPolicy = .exact
    | _ + 1 => schema.tables.Holds (fun _ table row => table = Table.ofRecord row)
        (entry.tableRows row.name)

/-- A database of a name, below which so many levels are read: the schemas, and their tables. -/
def Database.Shown (document : Document) (depth : Nat) (database : Database) (name : String) :
    Prop :=
  database.name = name ∧
    match depth with
    | 0 => database.schemas.Pristine ∧ database.schemas.name = "schemas of " ++ name
    | depth + 1 => ∃ entry, document.database? name = .ok entry ∧
        database.schemas.Holds (fun _ => Schema.Shown document entry depth) entry.schemaRows

/-- Tables are told apart by their names. -/
theorem Table.objectKey_ofRecord {tables : Cache Table}
    (hpolicy : tables.config.keyPolicy = .exact) :
    tables.objectKey Table.source ∘ Table.ofRecord = fun row => .name row.name := by
  funext row
  simp [Cache.objectKey, Cache.key, hpolicy, KeyPolicy.fold, Table.source, Table.ofRecord]

/-- Schemas are told apart by their oids. -/
theorem Schema.objectKey_ofRecord (schemas : Cache Schema) (database : String) :
    schemas.objectKey (Schema.source database) ∘ Schema.ofRecord database =
      fun row => .id row.oid :=
  rfl

def Schema.queries (database : String) :
    Context.Queries (Schema.remote database) (·.listSchemas database) where
  query pending := { pending, database }
  list _ := rfl
  listing? _ _ := rfl

def Table.queries (database schema : String) :
    Context.Queries (Table.remote database schema) (·.listTables database schema) where
  query pending := { pending, database, schema }
  list _ := rfl
  listing? _ _ := rfl

namespace Context

variable {document : Document} {monitor : Monitor} {now : Nat}

section Schemas

variable {db : Ref} {database : Database} {entry : DatabaseEntry} {depth : Nat}

theorem runsLoads_tables (monitor : Monitor) (db ref : Ref) (schema : Schema) :
    RunsLoads monitor Table.source (Table.remote schema.database schema.name) Table.eventLines
      (Place.schema db ref) ({ schema with tables := · }) (runTables · monitor db ref) := by
  intro ctx tables load hget
  rw [Place.get?_schema] at hget
  simp only [runTables, hget, source_runLoad, ← Place.put_schema hget]

theorem runsLoads_schemas (monitor : Monitor) (db : Ref) (database : Database) :
    RunsLoads monitor (Schema.source database.name) (Schema.remote database.name) Schema.eventLines
      (Place.database db) ({ database with schemas := · }) (runSchemas · monitor db) := by
  intro ctx schemas load hget
  have hdatabase : ctx.source.database? db = some { database with schemas } := hget
  simp only [runSchemas, hdatabase, source_runLoad, ← Place.put_database hdatabase]

/-- The tables of a schema are read, unless they were read before. -/
theorem ends_runTables (monitor : Monitor) (db ref : Ref) {schema : Schema} {row : SchemaRecord}
    (hshown : schema.Shown document entry depth row) :
    Ends document (runTables · monitor db ref) (Place.schema db ref)
      (fun schema result => (∃ reply, result = .ok reply) ∧ schema.Shown document entry 1 row) 2 now
      schema (runTables · monitor db ref { request := .all }) := by
  obtain ⟨hname, hentry, hdepth⟩ := hshown
  have hruns := runsLoads_tables monitor db ref schema
  cases depth with
  | zero =>
    obtain ⟨hpristine, hpolicy⟩ := hdepth
    refine (ends_load_of_ok hruns (Table.queries schema.database schema.name) hpristine.vacant
      (Document.listTables_of_database? hentry schema.name) Table.ofRecord
      (fun row => .name row.name) rfl (Table.objectKey_ofRecord hpolicy)).mono (Nat.le_refl 2) ?_
    rintro _ _ ⟨tables, rfl, rfl, hholds⟩
    rw [hname] at hholds
    exact ⟨⟨_, rfl⟩, hname, hentry, hholds⟩
  | succ depth =>
    refine (ends_load_of_complete hruns hdepth.complete).mono (Nat.le_succ 1) ?_
    rintro _ _ ⟨rfl, rfl⟩
    exact ⟨⟨_, rfl⟩, hname, hentry, hdepth⟩

theorem walkTables_eq (ctx : Context) (ref : Ref) (load : Load Table.Query) :
    ctx.walkTables monitor db { schema := ref, load } =
      Poll.andThen (ctx.runTables monitor db ref load) (fun load => { schema := ref, load })
        fun ctx result => (ctx, .finished (result.map fun _ => ())) := by
  simp only [walkTables]
  rcases ctx.runTables monitor db ref load with ⟨ctx, _ | _⟩ <;> rfl

/-- A walk into a schema stays there. -/
theorem schema_of_walkTables {ctx ctx' : Context} {walk walk' : TableWalk}
    (h : ctx.walkTables monitor db walk = (ctx', .waiting walk')) : walk'.schema = walk.schema := by
  rw [walkTables] at h
  split at h <;> cases h
  rfl

theorem ends_walkTables (monitor : Monitor) (db ref : Ref) {schema : Schema} {row : SchemaRecord}
    (hshown : schema.Shown document entry depth row) :
    Ends document (walkTables monitor db) (Place.schema db ref)
      (fun schema result => result = .ok () ∧ schema.Shown document entry 1 row) 2 now schema
      (walkTables monitor db · { schema := ref }) := by
  simp only [walkTables_eq]
  refine Ends.bind (n := 0) (fun ctx load => walkTables_eq ctx ref load)
    (ends_runTables monitor db ref hshown) ?_
  rintro now schema' _ ⟨⟨reply, rfl⟩, hshown'⟩
  exact ends_pure ⟨rfl, hshown'⟩

theorem walkSchemas_descending (ctx : Context) (walks : List TableWalk) :
    ctx.walkSchemas monitor db (.descending walks) =
      ctx.runSiblings (walkTables monitor db) (abandonTableWalk db) .descending walks :=
  rfl

/-- The tables of all schemas of a database are read. -/
theorem ends_walkEachSchema (monitor : Monitor) (db : Ref) (database : Database)
    {rows : List SchemaRecord}
    (hholds : database.schemas.Holds (fun _ => Schema.Shown document entry depth) rows) :
    Ends document (walkSchemas monitor db) (Place.database db)
      (fun database' result => ∃ schemas, database' = { database with schemas } ∧
        result = .ok () ∧ schemas.Holds (fun _ => Schema.Shown document entry 1) rows) 2 now
      database (walkEachSchema monitor db ·
        (database.schemas.snapshot.entries.map fun schema => { schema })) := by
  have hwalks : Siblings
      (Deals document (walkTables monitor db) (·.schema) ((Place.database db).trans .schemas)
        (Schema.Shown document entry 1) 2 now) (Schema.Shown document entry 1) (·.schema)
      database.schemas (database.schemas.snapshot.entries.map fun schema => { schema })
      database.schemas.snapshot.entries rows :=
    Siblings.of_holds hholds (fun _ => rfl) fun ref schema row _ hshown =>
      ends_walkTables monitor db ref hshown
  exact (ends_siblings walkSchemas_descending (fun _ _ _ _ => schema_of_walkTables) hwalks
    hholds.complete hholds.nodup).widen rfl

/-- The schemas of a database are read, unless they were read before. -/
theorem ends_runSchemas (monitor : Monitor) (db : Ref)
    (hentry : document.database? database.name = .ok entry)
    (hshown : database.Shown document depth database.name) :
    Ends document (runSchemas · monitor db) (Place.database db)
      (fun database' result => ∃ schemas, database' = { database with schemas } ∧
        result = .ok (.objects schemas.snapshot.entries) ∧
        schemas.Holds (fun _ => Schema.Shown document entry (depth - 1)) entry.schemaRows) 2 now
      database (runSchemas · monitor db { request := .all }) := by
  obtain ⟨-, hdepth⟩ := hshown
  have hruns := runsLoads_schemas monitor db database
  cases depth with
  | zero =>
    refine (ends_load_of_ok hruns (Schema.queries database.name) hdepth.1.vacant
      (Document.listSchemas_of_database? hentry) (Schema.ofRecord database.name)
      (fun row => .id row.oid) rfl (Schema.objectKey_ofRecord database.schemas database.name)).mono
      (Nat.le_refl 2) ?_
    rintro _ _ ⟨schemas, rfl, rfl, hholds⟩
    refine ⟨schemas, rfl, rfl, hholds.imp ?_⟩
    rintro ref schema row - - rfl
    exact ⟨rfl, hentry, rfl, rfl⟩
  | succ depth =>
    obtain ⟨entry', hentry', hholds⟩ := hdepth
    obtain rfl : entry' = entry := Except.ok.inj (hentry'.symm.trans hentry)
    refine (ends_load_of_complete hruns hholds.complete).mono (Nat.le_succ 1) ?_
    rintro _ _ ⟨rfl, rfl⟩
    exact ⟨database.schemas, rfl, rfl, hholds⟩

/-- A database that the server does not have cannot be read. -/
theorem ends_runSchemas_missing (monitor : Monitor) (db : Ref)
    (hpristine : database.schemas.Pristine) {error : ConnectionError}
    (hentry : document.database? database.name = .error error) :
    Ends document (runSchemas · monitor db) (Place.database db)
      (fun _ result => result = .error (.remoteFetch database.schemas.name error)) 2 now database
      (runSchemas · monitor db { request := .all }) := by
  have hlists : document.listSchemas database.name = .error error := by
    rw [Document.listSchemas, hentry]
    rfl
  exact ends_load_of_error (runsLoads_schemas monitor db database) (Schema.queries database.name)
    hpristine.vacant hlists

/-- A walk into a database goes on when the schemas are read. -/
def followSchemas (monitor : Monitor) (db : Ref) (levels : Nat) (ctx : Context)
    (result : Cache.Result) : Context × Poll SchemaWalk WalkResult :=
  match result with
  | .error error => (ctx, .finished (.error error))
  | .ok reply =>
    if levels = 0 then (ctx, .finished (.ok ()))
    else ctx.walkEachSchema monitor db (reply.refs.map fun schema => { schema })

theorem walkSchemas_succ (ctx : Context) (levels : Nat) (load : Load Schema.Query) :
    ctx.walkSchemas monitor db (.loading (levels + 1) load) =
      Poll.andThen (ctx.runSchemas monitor db load) (.loading (levels + 1))
        (followSchemas monitor db levels) := by
  rw [walkSchemas]
  rcases ctx.runSchemas monitor db load with ⟨ctx, _ | _ | _⟩ <;> rfl

/-- A walk into a database makes sure that so many levels are read. -/
theorem ends_walkSchemas (monitor : Monitor) (db : Ref) (levels : Nat)
    (hshown : database.Shown document depth database.name)
    (hentry : 1 ≤ levels → document.database? database.name = .ok entry) :
    Ends document (walkSchemas monitor db) (Place.database db)
      (fun database' result => result = .ok () ∧
        database'.Shown document (max depth levels) database.name) 3 now database
      (walkSchemas monitor db · (SchemaWalk.ofDepth levels)) := by
  cases levels with
  | zero => exact ends_pure ⟨rfl, by rwa [Nat.max_zero]⟩
  | succ levels =>
    have hfound := hentry (Nat.succ_pos levels)
    simp only [SchemaWalk.ofDepth, walkSchemas_succ]
    refine Ends.bind (n := 1) (fun ctx load => walkSchemas_succ ctx levels load)
      (ends_runSchemas monitor db hfound hshown) ?_
    rintro now _ _ ⟨schemas, rfl, rfl, hholds⟩
    cases levels with
    | zero =>
      refine ends_pure ⟨rfl, rfl, ?_⟩
      rw [show max depth (0 + 1) = depth - 1 + 1 by omega]
      exact ⟨entry, hfound, hholds⟩
    | succ levels =>
      refine (ends_walkEachSchema monitor db { database with schemas } hholds).mono
        (Nat.le_refl 2) ?_
      rintro _ _ ⟨schemas', rfl, rfl, hholds'⟩
      rw [show max depth (levels + 1 + 1) = max depth (levels + 2) - 2 + 1 + 1 by omega]
      exact ⟨rfl, rfl, entry, hfound, hholds'⟩

/-- A walk into a database that the server does not have fails. -/
theorem ends_walkSchemas_missing (monitor : Monitor) (db : Ref)
    (hpristine : database.schemas.Pristine) {levels : Nat} (hlevels : 1 ≤ levels)
    {error : ConnectionError}
    (hentry : document.database? database.name = .error error) :
    Ends document (walkSchemas monitor db) (Place.database db)
      (fun _ result => result = .error (.remoteFetch database.schemas.name error)) 2 now database
      (walkSchemas monitor db · (SchemaWalk.ofDepth levels)) := by
  obtain ⟨levels, rfl⟩ := Nat.exists_eq_add_of_le' hlevels
  simp only [SchemaWalk.ofDepth, walkSchemas_succ]
  refine Ends.bind (n := 0) (fun ctx load => walkSchemas_succ ctx levels load)
    (ends_runSchemas_missing monitor db hpristine hentry) ?_
  rintro now _ _ rfl
  exact ends_pure rfl

theorem walkBranch_eq (ctx : Context) (walk : SchemaWalk) :
    ctx.walkBranch monitor { db, walk } = Poll.andThen (ctx.walkSchemas monitor db walk)
      (fun walk => { db, walk }) fun ctx result => (ctx, .finished result) := by
  simp only [walkBranch]
  rcases ctx.walkSchemas monitor db walk with ⟨ctx, _ | _⟩ <;> rfl

/-- A walk into a database stays there. -/
theorem db_of_walkBranch {ctx ctx' : Context} {branch branch' : DatabaseBranch}
    (h : ctx.walkBranch monitor branch = (ctx', .waiting branch')) : branch'.db = branch.db := by
  rw [walkBranch] at h
  split at h <;> cases h
  rfl

end Schemas

section Databases

variable {depth levels : Nat} {names : List String} {ds : DataSource}

theorem runsLoads_databases (monitor : Monitor) (ds : DataSource) :
    RunsLoads monitor Database.source (Database.remote ds.connection ds.activeName)
      Database.eventLines Place.whole ({ ds with databases := · }) (runDatabases · monitor) := by
  intro ctx databases load hget
  have hsource : ctx.source = { ds with databases } := Option.some.inj hget
  simp only [runDatabases, hsource]
  rfl

/-- A walk over the databases goes on when these are read. -/
def followDatabases (monitor : Monitor) (levels : Nat) (ctx : Context) (result : Cache.Result) :
    Context × Poll DatabaseWalk WalkResult :=
  match result with
  | .error error => (ctx, .finished (.error error))
  | .ok reply =>
    if levels = 0 then (ctx, .finished (.ok ()))
    else ctx.walkEachDatabase monitor
      (reply.refs.map fun db => { db, walk := SchemaWalk.ofDepth levels })

theorem walkDatabases_succ (ctx : Context) (levels : Nat) (load : Load Database.Query) :
    ctx.walkDatabases monitor (.loading (levels + 1) load) =
      Poll.andThen (ctx.runDatabases monitor load) (.loading (levels + 1))
        (followDatabases monitor levels) := by
  rw [walkDatabases]
  rcases ctx.runDatabases monitor load with ⟨ctx, _ | _ | _⟩ <;> rfl

theorem walkDatabases_descending (ctx : Context) (branches : List DatabaseBranch) :
    ctx.walkDatabases monitor (.descending branches) =
      ctx.runSiblings (walkBranch monitor) abandonBranch .descending branches :=
  rfl

/-- A walk into each database makes sure that so many levels are read below. -/
theorem ends_walkEachDatabase (monitor : Monitor)
    (hholds : ds.databases.Holds (fun _ => Database.Shown document depth) names)
    (hentry : ∀ name ∈ names, ∃ entry, document.database? name = .ok entry) :
    Ends document (walkDatabases monitor) Place.whole
      (fun ds result => result = .ok () ∧
        ds.databases.Holds (fun _ => Database.Shown document (max depth levels)) names) 3 now ds
      (walkEachDatabase monitor · (ds.databases.snapshot.entries.map fun db =>
        { db, walk := SchemaWalk.ofDepth levels })) := by
  have hwalks : Siblings
      (Deals document (walkBranch monitor) (·.db) (Place.whole.trans .databases)
        (Database.Shown document (max depth levels)) 3 now)
      (Database.Shown document (max depth levels)) (·.db) ds.databases
      (ds.databases.snapshot.entries.map fun db => { db, walk := SchemaWalk.ofDepth levels })
      ds.databases.snapshot.entries names := by
    refine Siblings.of_holds hholds (fun _ => rfl) fun db database name hname hshown => ?_
    obtain ⟨entry, hentry⟩ := hentry name hname
    obtain rfl : database.name = name := hshown.1
    simp only [Deals, walkBranch_eq]
    refine Ends.bind (n := 0) (fun ctx walk => walkBranch_eq ctx walk)
      (ends_walkSchemas monitor db levels hshown fun _ => hentry) ?_
    rintro now database' _ ⟨rfl, hshown'⟩
    exact ends_pure ⟨rfl, hshown'⟩
  refine ((ends_siblings walkDatabases_descending (fun _ _ _ _ => db_of_walkBranch) hwalks
    hholds.complete hholds.nodup).widen rfl).mono (Nat.le_refl 3) ?_
  rintro _ _ ⟨databases, rfl, rfl, hholds'⟩
  exact ⟨rfl, hholds'⟩

/-- A walk over the databases makes sure that so many levels are read. -/
theorem ends_walkDatabases (monitor : Monitor)
    (hholds : ds.databases.Holds (fun _ => Database.Shown document depth) names)
    (hentry : 2 ≤ levels → ∀ name ∈ names, ∃ entry, document.database? name = .ok entry) :
    Ends document (walkDatabases monitor) Place.whole
      (fun ds result => result = .ok () ∧
        ds.databases.Holds (fun _ => Database.Shown document (max depth (levels - 1))) names) 3 now
      ds (walkDatabases monitor · (DatabaseWalk.ofDepth levels)) := by
  obtain _ | levels := levels
  · exact ends_pure ⟨rfl, by rwa [Nat.zero_sub, Nat.max_zero]⟩
  simp only [DatabaseWalk.ofDepth, walkDatabases_succ]
  refine Ends.bind (m := 1) (n := 2) (fun ctx load => walkDatabases_succ ctx levels load)
    (ends_load_of_complete (runsLoads_databases monitor ds) hholds.complete) ?_
  rintro now _ _ ⟨rfl, rfl⟩
  cases levels with
  | zero => exact ends_pure ⟨rfl, by rwa [Nat.zero_add, Nat.sub_self, Nat.max_zero]⟩
  | succ levels => exact ends_walkEachDatabase monitor hholds (hentry (Nat.le_add_left 2 levels))

/-- A walk into the one database is as good as a walk over all. -/
theorem walkEachDatabase_singleton (ctx : Context) (db : Ref) (walk : SchemaWalk) :
    ctx.walkEachDatabase monitor [{ db, walk }] = Poll.andThen (ctx.walkSchemas monitor db walk)
      (fun walk => .descending [{ db, walk }]) fun ctx result => (ctx, .finished result) := by
  rw [walkEachDatabase, runSiblings, runEach, walkBranch]
  rcases ctx.walkSchemas monitor db walk with ⟨ctx, _ | _ | _⟩ <;> rfl

/-- If the one database that is read does not exist, a walk fails. -/
theorem ends_walkDatabases_missing (monitor : Monitor) {name : String}
    (hholds : ds.databases.Holds (fun _ => Database.Shown document 0) [name])
    (hlevels : 2 ≤ levels) {error : ConnectionError}
    (hentry : document.database? name = .error error) :
    Ends document (walkDatabases monitor) Place.whole
      (fun _ result => result = .error (.remoteFetch ("schemas of " ++ name) error)) 3 now ds
      (walkDatabases monitor · (DatabaseWalk.ofDepth levels)) := by
  obtain ⟨levels, rfl⟩ := Nat.exists_eq_add_of_le' hlevels
  obtain ⟨db, rest, ⟨database, hdatabase, rfl, hpristine, hname⟩, hrest, hentries⟩ :=
    List.forall₂_cons_right_iff.1 hholds.stands
  obtain rfl : rest = [] := List.forall₂_nil_right_iff.1 hrest
  simp only [DatabaseWalk.ofDepth, walkDatabases_succ]
  refine Ends.bind (m := 1) (n := 2) (fun ctx load => walkDatabases_succ ctx (levels + 1) load)
    (ends_load_of_complete (runsLoads_databases monitor ds) hholds.complete) ?_
  rintro now _ _ ⟨rfl, rfl⟩
  have hfollow : ∀ ctx, followDatabases monitor (levels + 1) ctx
      (.ok (.objects ds.databases.snapshot.entries)) =
        Poll.andThen (ctx.walkSchemas monitor db (SchemaWalk.ofDepth (levels + 1)))
          (fun walk => .descending [{ db, walk }]) fun ctx result => (ctx, .finished result) := by
    intro ctx
    rw [← walkEachDatabase_singleton, hentries]
    rfl
  have hwalk : Ends document (walkSchemas monitor db) (Place.whole.trans (Place.database db))
      _ 2 now database (walkSchemas monitor db · (SchemaWalk.ofDepth (levels + 1))) :=
    ends_walkSchemas_missing monitor db hpristine (Nat.le_add_left 1 levels) hentry
  simp only [hfollow]
  refine (Ends.bind (n := 0) (fun ctx walk => walkEachDatabase_singleton ctx db walk)
    (hwalk.widen hdatabase) ?_).mono (Nat.le_succ 2) fun _ _ => id
  rintro now ds' _ ⟨database', rfl, rfl⟩
  exact ends_pure (by rw [hname])

end Databases

end Context

end CatalogBrowser
