import CatalogBrowser.DataSource.Routine
import CatalogBrowser.Proofs.Cache.LoadedCache
import CatalogBrowser.Proofs.DataSource.Walk

/-!
# Opening a data source

What the initialisation of a new data source leaves behind, where the server is online and nothing
is cancelled: the databases are known by name, and nothing is read below them. Whether it has to
wait for the databases, for the current one and for the settings makes no difference.

## Main statements

* `Context.ends_runInitialize` - the initialisation finishes within four runs.
-/

namespace CatalogBrowser

open Cache (Load)

/-- Databases are told apart by their names. -/
theorem Database.objectKey_ofRecord (connection : Connection) :
    (DataSource.ofConnection connection).databases.objectKey Database.source ∘ Database.ofRecord =
      fun row => .name row.name :=
  rfl

theorem Database.shown_ofRecord (document : Document) (row : DatabaseRecord) :
    (Database.ofRecord row).Shown document 0 row.name :=
  ⟨rfl, rfl, rfl⟩

def Setting.queries : Context.Queries Setting.remote (.ok ·.listSettings) where
  query := .all
  list _ := rfl
  listing? _ _ := rfl

def Database.queries {connection : Connection} (hlist : connection.readDatabaseList = true)
    (active : String) : Context.Queries (Database.remote connection active)
      (.ok <| ·.listDatabases connection.databaseFilter) where
  query pending := .listed pending connection.databaseFilter
  list _ := by simp [Database.remote, hlist]
  listing? _ _ := rfl

namespace Context

variable {document : Document} {monitor : Monitor} {connection : Connection} {now : Nat}
  {ds : DataSource}

theorem Ready.editDatabases {ctx : Context} (h : ctx.Ready document now)
    (edit : Cache.Edit Database) : (ctx.editDatabases edit).2.Ready document now :=
  ⟨h.serves, h.online, h.clock, h.active⟩

/-- What is left behind if the databases are left alone. -/
def Unaltered (ds ds' : DataSource) (result : Routine.Result) : Prop :=
  result = .ok .done ∧ ds'.databases = ds.databases

theorem runsLoads_settings (monitor : Monitor) (ds : DataSource) :
    RunsLoads monitor Setting.source Setting.remote Setting.eventLines Place.whole
      ({ ds with settings := · }) (runSettings · monitor) := by
  intro ctx settings load hget
  have hsource : ctx.source = { ds with settings } := Option.some.inj hget
  simp only [runSettings, hsource]
  rfl

theorem initializeSettings_eq (ctx : Context) (load : Load Setting.Query) :
    ctx.initializeSettings monitor load = Poll.andThen (ctx.runSettings monitor load)
      (fun load => .opening (.settings load)) initialized := by
  rw [initializeSettings]
  rcases ctx.runSettings monitor load with ⟨ctx, _ | _⟩ <;> rfl

/-- The settings are read, and the databases are left as they are. -/
theorem ends_initializeSettings (monitor : Monitor) (ds : DataSource)
    (hpristine : ds.settings.Pristine) :
    Ends document (run · monitor) Place.whole (Unaltered ds) 2 now ds
      (initializeSettings · monitor { request := .all }) := by
  simp only [initializeSettings_eq]
  refine Ends.bind (n := 0) (fun ctx load => initializeSettings_eq ctx load)
    (ends_load_of_ok (runsLoads_settings monitor ds) Setting.queries hpristine.vacant rfl
      Setting.ofRecord _ rfl rfl) ?_
  rintro now _ _ ⟨settings, rfl, rfl, -⟩
  exact (ends_pure ⟨rfl, rfl⟩).after fun ctx hready hget =>
    ⟨_, rfl, hready.say _, Option.some.inj hget⟩

theorem ends_initializeActive (monitor : Monitor) (ds : DataSource)
    (hpristine : ds.settings.Pristine) :
    Ends document (run · monitor) Place.whole (Unaltered ds) 2 now ds
      (initializeActive · monitor) := by
  refine (ends_initializeSettings monitor { ds with active := some ds.activeName }
    hpristine).after fun ctx hready hget => ⟨_, rfl, hready.withSource _, ?_⟩
  obtain rfl : ctx.source = ds := Option.some.inj hget
  rfl

/-- The server tells which database is active, once the answer is due. -/
theorem ends_initializeCurrent (monitor : Monitor) (ds : DataSource)
    (hpristine : ds.settings.Pristine)
    {pending : Pending} (hdue : pending.due ≤ now) :
    Ends document (run · monitor) Place.whole (Unaltered ds) 2 now ds
      (initializeCurrent · monitor pending) := by
  refine (ends_initializeActive monitor { ds with active := document.currentDatabase }
    hpristine).after fun ctx hready hget => ?_
  obtain rfl : ctx.source = ds := Option.some.inj hget
  simp only [initializeCurrent, hready.isCancelled, hready.answer?,
    if_neg (Nat.not_lt_of_le hdue), Bool.false_eq_true, if_false]
  exact ⟨_, rfl, (hready.withSource _).say _, rfl⟩

/-- The current database is asked for at once, and told at once or after one wait. -/
theorem ends_initializeName (monitor : Monitor) (ds : DataSource)
    (hpristine : ds.settings.Pristine) :
    Ends document (run · monitor) Place.whole (Unaltered ds) 3 now ds
      (initializeName · monitor) := by
  intro ctx hready hget
  obtain rfl : ctx.source = ds := Option.some.inj hget
  have hdue : ctx.server.ask.2.due = now + document.wait := congrArg Pending.due hready.due_ask
  simp only [initializeName, hready.isCancelled, Bool.false_eq_true, if_false]
  split
  · have hactive : Ends document (run · monitor) Place.whole (Unaltered ctx.source) 2 now
        ctx.source (initializeActive · monitor) := ends_initializeActive monitor _ hpristine
    exact hactive.mono (Nat.le_succ 2) (fun _ _ => id) ctx hready rfl
  by_cases hwait : now < now + document.wait
  · refine ⟨_, ctx.source, .waiting (.opening (.current ctx.server.ask.2)), ?_, hready.ask, rfl,
      ends_initializeCurrent monitor _ hpristine (Nat.le_of_eq hdue)⟩
    simp only [initializeCurrent, hready.ask.isCancelled, hready.ask.answer?, hdue, hwait,
      Bool.false_eq_true, if_false, if_true]
  · have hcurrent : Ends document (run · monitor) Place.whole (Unaltered ctx.source) 2 now
        ctx.source (initializeCurrent · monitor ctx.server.ask.2) :=
      ends_initializeCurrent monitor _ hpristine (hdue ▸ Nat.le_of_not_lt hwait)
    exact hcurrent.mono (Nat.le_succ 2) (fun _ _ => id) _ hready.ask rfl

/-- What the initialisation does when the databases are read. -/
theorem initializeDatabases_eq (ctx : Context) (load : Load Database.Query) :
    ctx.initializeDatabases monitor load = Poll.andThen (ctx.runDatabases monitor load)
      (fun load => .opening (.databases load)) fun ctx result =>
        match result with
        | .ok _ => ctx.initializeName monitor
        | .error error => (ctx, .finished (.error (.ofCache error))) := by
  rw [initializeDatabases]
  rcases ctx.runDatabases monitor load with ⟨ctx, _ | _ | _⟩ <;> rfl

/-- The server lists the databases. -/
theorem ends_initializeDatabases (monitor : Monitor) (connection : Connection)
    (hlist : connection.readDatabaseList = true) :
    Ends document (run · monitor) Place.whole
      (fun ds result => result = .ok .done ∧ ds.databases.Holds
        (fun _ => Database.Shown document 0) (document.databaseNames connection)) 4 now
      (DataSource.ofConnection connection)
      (initializeDatabases · monitor { request := .all }) := by
  have hpristine : (DataSource.ofConnection connection).databases.Pristine := rfl
  simp only [initializeDatabases_eq]
  refine Ends.bind (n := 2) (fun ctx load => initializeDatabases_eq ctx load)
    (ends_load_of_ok (runsLoads_databases monitor (.ofConnection connection))
      (Database.queries hlist _) hpristine.vacant rfl Database.ofRecord (fun row => .name row.name)
      rfl (Database.objectKey_ofRecord connection)) ?_
  rintro now _ _ ⟨databases, rfl, rfl, hholds⟩
  refine (ends_initializeName monitor { DataSource.ofConnection connection with databases }
    rfl).mono (Nat.le_refl 3) ?_
  rintro ds _ ⟨rfl, hdatabases⟩
  refine ⟨rfl, ?_⟩
  rw [hdatabases, Document.databaseNames, Document.visibleRows, if_pos hlist]
  refine Cache.holds_map_iff.2 (hholds.imp ?_)
  rintro ref database row - - rfl
  exact Database.shown_ofRecord document row

/-- Unless there is a list, the active database is taken on trust. -/
def assumed (connection : Connection) : DataSource :=
  let ds := DataSource.ofConnection connection
  let database := Database.ofRecord (Database.placeholder ds.activeName)
  { ds with databases := (ds.databases.set Database.source [database]).1 }

theorem holds_assumed (document : Document) (hlist : ¬ connection.readDatabaseList = true) :
    (assumed connection).databases.Holds (fun _ => Database.Shown document 0)
      (document.databaseNames connection) := by
  have hindexed : (DataSource.ofConnection connection).databases.Indexed Database.source :=
    Cache.indexed_empty _ _
  have hholds := (Cache.stocked_set hindexed [Database.ofRecord
    (Database.placeholder (DataSource.ofConnection connection).activeName)]).holds
  rw [Document.databaseNames_of_not_list hlist]
  refine Cache.Holds.imp
    (Cache.holds_map_iff (f := Database.ofRecord ∘ Database.placeholder).1 hholds) ?_
  rintro ref database name - - rfl
  exact Database.shown_ofRecord document (Database.placeholder name)

/-- The initialisation finds out which databases there are. -/
theorem ends_runInitialize (monitor : Monitor) (connection : Connection) :
    Ends document (run · monitor) Place.whole
      (fun ds result => result = .ok .done ∧ ds.databases.Holds
        (fun _ => Database.Shown document 0) (document.databaseNames connection)) 4 now
      (DataSource.ofConnection connection) (runInitialize · monitor .start) := by
  simp only [runInitialize]
  by_cases hlist : connection.readDatabaseList = true
  · refine (ends_initializeDatabases monitor connection hlist).after fun ctx hready hget => ?_
    obtain hsource : ctx.source = .ofConnection connection := Option.some.inj hget
    exact ⟨_, if_pos (hsource ▸ hlist), hready.say _, hsource⟩
  · have hactive : Ends document (run · monitor) Place.whole (Unaltered (assumed connection)) 2 now
        (assumed connection) (initializeActive · monitor) := ends_initializeActive monitor _ rfl
    refine (hactive.mono (Nat.le_add_right 2 2) ?_).after fun ctx hready hget => ?_
    · rintro ds _ ⟨rfl, hdatabases⟩
      exact ⟨rfl, hdatabases ▸ holds_assumed document hlist⟩
    · obtain hsource : ctx.source = .ofConnection connection := Option.some.inj hget
      refine ⟨_, if_neg (hsource ▸ hlist), (hready.say _).editDatabases _, ?_⟩
      simp only [editDatabases, say, hsource]
      rfl

end Context

end CatalogBrowser
