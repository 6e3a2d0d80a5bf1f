import CatalogBrowser.Proofs.CommandLine.Outline
import CatalogBrowser.Proofs.DataSource.Reload

/-!
# The databases that are printed

The command `databases` prints the databases that are shown over a connection, and marks one of
them: the active one if it is shown, or else the default one, or else the first. What is preloaded
below them makes no difference. The command fails if no database is shown, and if the configuration
asks to read below a database that does not exist.

## Main definitions

* `DatabaseRecord.marked?` - the one that is marked.
* `DataSource.Alike` - data sources whose databases look the same.

## Main statements

* `Context.opened_of_finish`, `Context.alike_finish` - opening a data source, and preloading.
* `Command.text_of_alike` - what is below the databases is not printed.
* `Command.perform_databases` - what the command prints, or how it fails.
-/

namespace CatalogBrowser

/-- The row that is marked: that of the active database, or of the default one, or the first. -/
def DatabaseRecord.marked? (active : String) (rows : List DatabaseRecord) : Option DatabaseRecord :=
  (rows.find? (·.name = active)).or <|
    (rows.find? (·.name = defaultDatabase)).or rows.head?

/-- The line of a database, with a mark. -/
def DatabaseRecord.line (mark : String) (row : DatabaseRecord) : List String :=
  let flags := (if row.isTemplate then ["template"] else []) ++
    (if row.allowConnections then [] else ["no connections"])
  [mark, row.name, row.owner.getD "-", row.encoding.getD "-", ", ".intercalate flags]

/-- The table of databases that has these lines below its title. -/
def Report.databaseTable (lines : List (List String)) : Report.Grid :=
  (["", "Name", "Owner", "Encoding", "Flags"] :: lines).map fun texts =>
    texts.map fun text => { text }

/-- Data sources whose databases look the same, whatever was read below them. -/
structure DataSource.Alike (ds ds' : DataSource) : Prop where
  active : ds'.activeName = ds.activeName
  databases : ds'.databases.map Database.info = ds.databases.map Database.info

theorem Database.info_standIn? (active : String) (databases : List Database) :
    (standIn? active databases).map info = DatabaseRecord.marked? active (databases.map info) := by
  rw [standIn?, DatabaseRecord.marked?, Option.map_or, Option.map_or, List.find?_map,
    List.find?_map, List.head?_map]
  rfl

namespace DatabaseRecord

variable {active : String} {rows before after : List DatabaseRecord} {marked : DatabaseRecord}

/-- One of the rows is marked unless there are none. -/
theorem marked?_eq_none_iff : marked? active rows = none ↔ rows = [] := by
  constructor
  · intro hnone
    rw [marked?, Option.or_eq_none_iff, Option.or_eq_none_iff] at hnone
    exact List.head?_eq_none_iff.1 hnone.2.2
  · rintro rfl
    rfl

theorem mem_of_marked? (h : marked? active rows = some marked) : marked ∈ rows := by
  rw [marked?, Option.or_eq_some_iff, Option.or_eq_some_iff] at h
  rcases h with hactive | ⟨-, hdefault | ⟨-, hhead⟩⟩
  · exact List.mem_of_find?_eq_some hactive
  · exact List.mem_of_find?_eq_some hdefault
  · exact List.mem_of_mem_head? hhead

/-- Where names differ, no row but the marked one has its name. -/
theorem map_line_eq (hnodup : ((before ++ marked :: after).map (·.name)).Nodup) :
    ((before ++ marked :: after).map fun row =>
      row.line (if row.name = marked.name then "*" else "")) =
        before.map (·.line "") ++ marked.line "*" :: after.map (·.line "") := by
  rw [List.map_append, List.map_cons, List.nodup_append, List.nodup_cons] at hnodup
  obtain ⟨-, ⟨hafter, -⟩, hbefore⟩ := hnodup
  have hunmarked : ∀ row : DatabaseRecord, row.name ≠ marked.name →
      row.line (if row.name = marked.name then "*" else "") = row.line "" := fun row hname => by
    rw [if_neg hname]
  have hfirst : before.map (fun row => row.line (if row.name = marked.name then "*" else "")) =
      before.map (·.line "") := List.map_congr_left fun row hrow => hunmarked row <|
    hbefore row.name (List.mem_map_of_mem hrow) marked.name List.mem_cons_self
  have hlast : after.map (fun row => row.line (if row.name = marked.name then "*" else "")) =
      after.map (·.line "") := List.map_congr_left fun row hrow => hunmarked row fun hname =>
    hafter (hname ▸ List.mem_map_of_mem hrow)
  rw [List.map_append, List.map_cons, if_pos rfl, hfirst, hlast]

end DatabaseRecord

namespace Document

variable {document : Document} {connection : Connection}

/-- A database that the connection names is shown if it accepts connections. -/
theorem exists_visible_of_namedDatabase {name : String}
    (hnamed : connection.namedDatabase = some name)
    (haccepts : connection.readDatabaseList = true → ∃ entry ∈ document.databases,
      entry.record.name = name ∧ entry.record.allowConnections = true) :
    ∃ row ∈ document.visibleRows connection, row.name = name := by
  rw [visibleRows]
  split
  next hlist =>
    obtain ⟨entry, hentry, hname, haccepts⟩ := haccepts hlist
    have hshows : connection.databaseFilter.shows entry.record = true :=
      DatabaseFilter.shows_namedDatabase (hname ▸ hnamed) haccepts
    have hlisted : entry.record ∈ document.listDatabases connection.databaseFilter := by
      rw [listDatabases, List.mem_mergeSort, List.mem_filter]
      exact ⟨List.mem_map_of_mem hentry, hshows⟩
    have hkey : Key.name name ∈ (document.databaseRows connection).map
        fun row => .name row.name := by
      rw [databaseRows_eq, Cache.key_mem_firstOfEach_iff]
      exact List.mem_map.2 ⟨entry.record, hlisted, congrArg Key.name hname⟩
    obtain ⟨row, hrow, hsame⟩ := List.mem_map.1 hkey
    exact ⟨row, hrow, Key.name.inj hsame⟩
  next =>
    refine ⟨_, List.mem_singleton_self _, ?_⟩
    rw [Connection.configuredDatabase_of_namedDatabase hnamed]
    rfl

/-- It is also the one that is marked. -/
theorem marked?_of_namedDatabase {name : String} (hnamed : connection.namedDatabase = some name)
    (haccepts : connection.readDatabaseList = true → ∃ entry ∈ document.databases,
      entry.record.name = name ∧ entry.record.allowConnections = true) :
    ∃ marked, DatabaseRecord.marked? (document.activeOver connection)
      (document.visibleRows connection) = some marked ∧ marked.name = name := by
  obtain ⟨row, hrow, hname⟩ := exists_visible_of_namedDatabase hnamed haccepts
  have hactive : document.activeOver connection = name := by
    rw [activeOver, Connection.configuredDatabase_of_namedDatabase hnamed, Option.some_or,
      ite_self, Option.getD_some]
  cases hfind : (document.visibleRows connection).find? (·.name = name) with
  | none =>
    have hmissing := List.find?_eq_none.1 hfind row hrow
    exact absurd hname (by simpa using hmissing)
  | some marked =>
    refine ⟨marked, ?_, by simpa using List.find?_some hfind⟩
    rw [DatabaseRecord.marked?, hactive, hfind, Option.some_or]

end Document

section Alike

variable {ds ds' ds'' : DataSource}

theorem DataSource.Alike.refl (ds : DataSource) : ds.Alike ds := ⟨rfl, rfl⟩

theorem DataSource.Alike.trans (h : ds.Alike ds') (h' : ds'.Alike ds'') : ds.Alike ds'' :=
  ⟨h'.active.trans h.active, h'.databases.trans h.databases⟩

theorem DataSource.alike_putSchemas (ds : DataSource) (db : Ref) (schemas : Cache Schema) :
    ds.Alike (ds.putSchemas db schemas) :=
  ⟨rfl, Cache.map_modifyObject (f := Database.info) (g := ({ · with schemas })) (fun _ => rfl)
    ds.databases db⟩

theorem DataSource.alike_putTables (ds : DataSource) (db schema : Ref) (tables : Cache Table) :
    ds.Alike (ds.putTables db schema tables) := by
  rw [putTables]
  cases ds.database? db with
  | none => exact .refl ds
  | some database => exact alike_putSchemas ds db _

theorem DataSource.Alike.snapshot (h : ds.Alike ds') :
    ds'.databases.snapshot = ds.databases.snapshot := by
  have hsnapshot := congrArg Cache.snapshot h.databases
  exact hsnapshot

theorem DataSource.Alike.config (h : ds.Alike ds') :
    ds'.databases.config = ds.databases.config := by
  have hconfig := congrArg Cache.config h.databases
  exact hconfig

theorem DataSource.Alike.info_database? (h : ds.Alike ds') (db : Ref) :
    (ds'.database? db).map Database.info = (ds.database? db).map Database.info := by
  have hobject := congrArg (·.object? db) h.databases
  simp only [Cache.object?_map] at hobject
  exact hobject

end Alike

/-- A walk that has not begun to load the databases, or is done with that. -/
def DatabaseWalk.Unread : DatabaseWalk → Prop
  | .loading _ load => load = { request := .all }
  | .descending _ => True

namespace Context

variable {ctx ctx' : Context} {monitor : Monitor}

/-- Loads below the databases do not show. -/
theorem keptBelow_alike : KeptBelow fun ctx ctx' => ctx.source.Alike ctx'.source where
  refl ctx := .refl ctx.source
  trans := DataSource.Alike.trans
  runSchemas ctx monitor db load := by
    rw [runSchemas]
    cases ctx.source.database? db with
    | none => exact .refl ctx.source
    | some database => exact ctx.source.alike_putSchemas db _
  runTables ctx monitor db schema load := by
    rw [runTables]
    cases ctx.source.schema? db schema with
    | none => exact .refl ctx.source
    | some owner => exact ctx.source.alike_putTables db schema _
  abandonSchemas ctx db load := by
    rw [abandonSchemas]
    cases ctx.source.database? db with
    | none => exact .refl ctx.source
    | some database => exact ctx.source.alike_putSchemas db _
  abandonTables ctx db schema load := by
    rw [abandonTables]
    cases ctx.source.schema? db schema with
    | none => exact .refl ctx.source
    | some owner => exact ctx.source.alike_putTables db schema _

/-- A walk finds the databases in memory, and goes on below them. -/
theorem alike_walkDatabases (monitor : Monitor)
    (hcomplete : ctx.source.databases.snapshot.complete = true) {walk : DatabaseWalk}
    (hwalk : walk.Unread) :
    ctx.source.Alike (ctx.walkDatabases monitor walk).1.source ∧
      ∀ walk', (ctx.walkDatabases monitor walk).2 = .waiting walk' → walk'.Unread := by
  have hbelow : ∀ (ctx : Context) branches,
      ctx.source.Alike (walkEachDatabase monitor ctx branches).1.source ∧
        ∀ walk', (walkEachDatabase monitor ctx branches).2 = .waiting walk' → walk'.Unread := by
    intro ctx branches
    refine ⟨keptBelow_alike.walkEachDatabase monitor ctx branches, fun walk' => ?_⟩
    rw [walkEachDatabase, runSiblings]
    rcases ctx.runEach (walkBranch monitor) branches with ⟨ctx', _ | ⟨branch, rest⟩, _ | error⟩
    all_goals rintro ⟨⟩
    trivial
  rcases walk with ⟨_ | depth, load⟩ | branches
  · exact ⟨.refl ctx.source, fun walk' hwaits => by cases hwaits⟩
  · obtain rfl : load = { request := .all } := hwalk
    obtain ⟨hworld, hcache, hpoll⟩ := Cache.Load.run_all_of_complete Database.source
      (Database.remote ctx.source.connection ctx.source.activeName) ctx.server hcomplete
      (ctx.isCancelled monitor)
    have hsource : (ctx.runDatabases monitor { request := .all }).1.source = ctx.source := by
      simp only [runDatabases, runLoad, hcache]
    have hfinished : (ctx.runDatabases monitor { request := .all }).2 =
        .finished (.ok (.objects ctx.source.databases.snapshot.entries)) := hpoll
    rw [walkDatabases]
    generalize ctx.runDatabases monitor { request := .all } = ran at hsource hfinished
    obtain ⟨ctx', poll⟩ := ran
    dsimp only at hsource hfinished
    subst hfinished
    rw [← hsource]
    dsimp only
    split
    · exact ⟨.refl ctx'.source, fun walk' hwaits => by cases hwaits⟩
    · exact hbelow ctx' _
  · exact hbelow ctx branches

/-- Preloading does not show. -/
theorem alike_finish (monitor : Monitor)
    (hcomplete : ctx.source.databases.snapshot.complete = true) {walk : DatabaseWalk}
    (hwalk : walk.Unread) (runs : Nat) :
    ctx.source.Alike (ctx.finish monitor (.preload walk) runs).1.source := by
  induction runs generalizing ctx walk with
  | zero => exact .refl ctx.source
  | succ runs ih =>
    have hrun := Command.run_preload ctx monitor walk
    obtain ⟨halike, hwaits⟩ := alike_walkDatabases monitor hcomplete hwalk
    rw [finish, hrun]
    generalize ctx.walkDatabases monitor walk = out at halike hwaits
    obtain ⟨ctx', walk' | result⟩ := out
    · have hcomplete' : ctx'.pause.source.databases.snapshot.complete = true :=
        (congrArg Cache.Snapshot.complete halike.snapshot).trans hcomplete
      exact halike.trans (ih hcomplete' (hwaits walk' rfl))
    · exact halike

section Opening

variable {connection : Connection} {document : Document} {stage : Initialization} {now : Nat}
  {routine : Routine} {answer : Answer} {failed : DataSourceError → CommandError}

/-- An initialisation that succeeds has opened the data source. -/
theorem opened_of_finish (h : ctx.At document now monitor True)
    (hstands : stage.Stands connection document ctx.source) {runs : Nat}
    (hfinish : ctx.finish monitor (.opening stage) runs = (ctx', .finished (.ok answer))) :
    ctx'.source.Opened connection document := by
  induction runs generalizing ctx stage now with
  | zero => cases hfinish
  | succ runs ih =>
    have hcomes := comesTo_runInitialize h hstands
    rw [finish, show ctx.run monitor (.opening stage) = ctx.runInitialize monitor stage from rfl]
      at hfinish
    generalize ctx.runInitialize monitor stage = ran at hcomes hfinish
    cases hcomes with
    | @waits ctx' stage' hat _ hstands' =>
      have hpaused : ctx'.pause.At document (ctx'.pause.server.now) monitor True :=
        ⟨hat.serves, rfl, fun _ => trivial⟩
      exact ih hpaused hstands' hfinish
    | succeeds hat hopened => cases hfinish; exact hopened
    | fails => cases hfinish

theorem finish_of_perform (h : ctx.perform routine failed = .ok (ctx', answer)) :
    { ctx with monitors := ctx.monitors.fresh.1 }.finish ctx.monitors.fresh.2 routine 4 =
      (ctx', .finished (.ok answer)) := by
  simp only [perform] at h
  generalize { ctx with monitors := ctx.monitors.fresh.1 }.finish ctx.monitors.fresh.2 routine 4 =
    ran at h
  rcases ran with ⟨ctx'', routine | ((_ | _) | answer)⟩
  all_goals cases h
  rfl

end Opening

end Context

namespace Command

open Context

variable {ctx ctx' : Context} {connection : Connection} {document : Document}

/-- What the command prints is read off a data source that was opened, but for what was read below
the databases. -/
theorem alike_connect {configuration : Configuration}
    (h : ¬ document.Lacks configuration.connection configuration.preloadDepth) :
    ∃ opened ctx : Context, connect configuration document = .ok ctx ∧
      opened.source.Opened configuration.connection document ∧
      opened.source.Alike ctx.source := by
  obtain ⟨opened, hopening, hbrowses⟩ := browses_context configuration.connection document
  have hbegins : { context configuration.connection document with
      monitors := (context configuration.connection document).monitors.fresh.1 }.At document 0
      (context configuration.connection document).monitors.fresh.2 True :=
    ⟨rfl, rfl, fun _ => trivial⟩
  have hopened := opened_of_finish hbegins
    (.start (DataSource.paused_ofConnection configuration.connection document))
    (finish_of_perform hopening)
  by_cases hdepth : configuration.preloadDepth = 0
  · refine ⟨opened, opened, ?_, hopened, .refl opened.source⟩
    simp only [connect, hopening, hdepth, if_pos]
    rfl
  · obtain ⟨ctx, hpreload, -⟩ := hbrowses.preload .preload
      (Document.exists_database?_of_not_lacks h)
    refine ⟨opened, ctx, ?_, hopened, ?_⟩
    · simp only [connect, hopening, bind, Except.bind, if_neg hdepth, hpreload]
      rfl
    · have hunread : (DatabaseWalk.ofDepth configuration.preloadDepth).Unread := rfl
      let begun : Context := { opened with monitors := opened.monitors.fresh.1 }
      have hcomplete : begun.source.databases.snapshot.complete = true :=
        hopened.databases.stocked.holds.complete
      have halike : begun.source.Alike (begun.finish opened.monitors.fresh.2
          (.preload (DatabaseWalk.ofDepth configuration.preloadDepth)) 4).1.source :=
        alike_finish opened.monitors.fresh.2 hcomplete hunread 4
      rw [finish_of_perform hpreload] at halike
      exact halike

theorem databaseGrid_eq (databases : List Database) (active : String) :
    Report.databaseGrid databases active = Report.databaseTable ((databases.map Database.info).map
      fun row => row.line (if row.name = active then "*" else "")) := by
  rw [Report.databaseGrid, Report.databaseTable, List.map_map]
  rfl

/-- What is below the databases is not printed. -/
theorem text_of_alike (h : ctx.source.Alike ctx'.source) :
    text ctx' .databases = text ctx .databases := by
  have hdefault : ctx'.source.defaultInstance = ctx.source.defaultInstance := by
    simp only [DataSource.defaultInstance, DataSource.databaseNamed?, Cache.isFullyCached,
      Cache.cachedObjects, Cache.cachedObject?, Cache.key, h.snapshot, h.active, h.config]
    rfl
  have hname : ∀ db, (ctx'.source.database? db).map (·.name) =
      (ctx.source.database? db).map (·.name) := by
    intro db
    have hinfo := congrArg (Option.map DatabaseRecord.name) (h.info_database? db)
    simp only [Option.map_map] at hinfo
    exact hinfo
  have hshown : (ctx'.source.databases.cachedObjects.filterMap ctx'.source.database?).map
      Database.info =
        (ctx.source.databases.cachedObjects.filterMap ctx.source.database?).map Database.info := by
    rw [List.map_filterMap, List.map_filterMap, funext h.info_database?, Cache.cachedObjects,
      Cache.cachedObjects, h.snapshot]
  simp only [text, hdefault, hname, h.active, databaseGrid_eq, hshown]

/-- What is printed of a data source that was opened. -/
theorem text_of_opened (h : ctx.source.Opened connection document) :
    let rows := document.visibleRows connection
    text ctx .databases = match DatabaseRecord.marked? (document.activeOver connection) rows with
      | none => .error (.noDefault .noDatabases)
      | some marked => .ok (Report.databaseTable (rows.map fun row =>
          row.line (if row.name = marked.name then "*" else ""))).render := by
  intro rows
  have hstocked := h.databases.stocked
  have hname : ctx.source.activeName = document.activeOver connection := by
    rw [DataSource.activeName, h.active, Option.getD_some]
  have hdefault := DataSource.defaultInstance_of_stocked h.databases.config hstocked
  have hinfo : (document.databaseStock connection).map Database.info = rows :=
    document.info_databaseStock connection
  have hmarked := Database.info_standIn? (document.activeOver connection)
    (document.databaseStock connection)
  rw [hinfo] at hmarked
  have hrows : (ctx.source.databases.cachedObjects.filterMap ctx.source.database?).map
      Database.info = rows :=
    (congrArg (List.map Database.info) hstocked.objects).trans hinfo
  simp only [text, databaseGrid_eq, hrows]
  rw [← hmarked]
  rw [hname] at hdefault
  cases hstandIn : Database.standIn? (document.activeOver connection)
      (document.databaseStock connection) with
  | none =>
    rw [hstandIn] at hdefault
    cases hinstance : ctx.source.defaultInstance with
    | ok current =>
      rw [hinstance] at hdefault
      cases hdefault
    | error error =>
      rw [hinstance] at hdefault
      cases hdefault
      rfl
  | some database =>
    rw [hstandIn] at hdefault
    cases hinstance : ctx.source.defaultInstance with
    | error error =>
      rw [hinstance] at hdefault
      cases hdefault
    | ok current =>
      rw [hinstance] at hdefault
      have hcurrent := Except.ok.inj hdefault
      simp only [hcurrent]
      rfl

/-- What the command prints, or how it fails. Whatever the document is, the databases that are shown
have different names, and exactly one of them is marked, unless there are none. A database that the
connection names is the one that is marked if it accepts connections, even if it is a template. -/
theorem perform_databases (configuration : Configuration) (document : Document) :
    let connection := configuration.connection
    let rows := document.visibleRows connection
    let marked? := DatabaseRecord.marked? (document.activeOver connection) rows
    let output := Command.databases.perform configuration document
    (rows.map (·.name)).Nodup ∧
      (if document.Lacks connection configuration.preloadDepth then
          output = .error (.preload (missing connection))
        else match marked? with
          | none => rows = [] ∧ output = .error (.noDefault .noDatabases)
          | some marked => ∃ before after, rows = before ++ marked :: after ∧
              output = .ok (Report.databaseTable
                (before.map (·.line "") ++ marked.line "*" :: after.map (·.line ""))).render) ∧
      ∀ name, connection.namedDatabase = some name →
        (connection.readDatabaseList = true → ∃ entry ∈ document.databases,
          entry.record.name = name ∧ entry.record.allowConnections = true) →
        ∃ marked, marked? = some marked ∧ marked.name = name := by
  intro connection rows marked? output
  have hnodup : (rows.map (·.name)).Nodup := document.nodup_databaseNames connection
  refine ⟨hnodup, ?_, fun name hnamed haccepts => document.marked?_of_namedDatabase hnamed haccepts⟩
  split
  next hlacks =>
    simp only [output, Command.perform, connect_of_lacks hlacks]
    rfl
  next hlacks =>
    obtain ⟨opened, ctx, hconnect, hopened, halike⟩ := alike_connect hlacks
    have houtput : output = match marked? with
        | none => .error (.noDefault .noDatabases)
        | some marked => .ok (Report.databaseTable (rows.map fun row =>
            row.line (if row.name = marked.name then "*" else ""))).render := by
      have hperform : output = text ctx .databases := by
        simp only [output, Command.perform, hconnect]
        rfl
      rw [hperform, text_of_alike halike]
      exact text_of_opened hopened
    rw [houtput]
    cases hmarked : marked? with
    | none => exact ⟨DatabaseRecord.marked?_eq_none_iff.1 hmarked, rfl⟩
    | some marked =>
      obtain ⟨before, after, hsplit⟩ :=
        List.append_of_mem (DatabaseRecord.mem_of_marked? hmarked)
      rw [hsplit] at hnodup
      refine ⟨before, after, hsplit, ?_⟩
      rw [← DatabaseRecord.map_line_eq hnodup, ← hsplit]

/-- Of the templates only the one is printed that the connection names, and of two databases of one
name the first. A database that accepts no connections is not printed either. -/
theorem perform_databases_template :
    let configuration : Configuration := {
      connection := { database := some "base", readDatabaseList := true } }
    let billing : DatabaseRecord := {
      oid := 1, name := "billing", owner := some "ann", encoding := some "UTF8" }
    let base : DatabaseRecord := { oid := 2, name := "base", isTemplate := true }
    let audit : DatabaseRecord := { oid := 3, name := "audit" }
    let document : Document := { databases := [{ record := billing }, { record := base },
      { record := { oid := 4, name := "blank", isTemplate := true } },
      { record := { oid := 5, name := "archive", allowConnections := false } },
      { record := { oid := 6, name := "billing", owner := some "bob" } }, { record := audit }] }
    document.visibleRows configuration.connection = [audit, base, billing] ∧
      Command.databases.perform configuration document = .ok (Report.databaseTable [
        ["", "audit", "-", "-", ""], ["*", "base", "-", "-", "template"],
        ["", "billing", "ann", "UTF8", ""]]).render := by
  intro configuration billing base audit document
  have hrows : document.visibleRows configuration.connection = [audit, base, billing] := by
    simp [document, configuration, billing, base, audit, Document.visibleRows,
      Document.databaseRows, Connection.databaseFilter, Connection.namedDatabase,
      DatabaseFilter.shows, List.mergeSort, Cache.firstOfEach, Cache.unseen]
  have hactive : document.activeOver configuration.connection = "base" := by decide +kernel
  have hlacks : ¬ document.Lacks configuration.connection configuration.preloadDepth := by
    decide +kernel
  have hmarked : DatabaseRecord.marked? "base" [audit, base, billing] = some base := by
    decide +kernel
  obtain ⟨-, hperform, hnamed⟩ := perform_databases configuration document
  obtain ⟨marked, hfound, -⟩ := hnamed "base" (by decide +kernel) fun _ =>
    ⟨{ record := base }, by decide +kernel, rfl, rfl⟩
  rw [hrows, hactive, hmarked] at hfound
  obtain rfl := Option.some.inj hfound
  rw [if_neg hlacks, hrows, hactive, hmarked] at hperform
  obtain ⟨before, after, hsplit, houtput⟩ := hperform
  -- the marked row stands where it stands in the list, since it is in there once
  obtain ⟨rfl, rfl⟩ : before = [audit] ∧ after = [billing] := by
    rcases before with _ | ⟨first, _ | ⟨second, _ | ⟨third, before⟩⟩⟩ <;>
      simp [audit, base, billing] at hsplit ⊢
    exact ⟨hsplit.1.symm, hsplit.2.symm⟩
  exact ⟨hrows, houtput⟩

end Command

end CatalogBrowser
