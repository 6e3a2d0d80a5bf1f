import CatalogBrowser.CommandLine.Browse
import CatalogBrowser.Proofs.DataSource.Opening

/-!
# The tree that is printed

The command `tree` prints an outline of the document. Its depth is the greatest of what the
configuration preloads and what the command asks for, and it has at least one level. Below each
database stand the schemas of the first database of that name in the document, and below each
schema the tables of the first schema of that name there.

The command fails if it has to read below a database that the document does not have. That happens
only to the active database, where the list of databases is not read. How long the server takes to
answer makes no difference.

## Main definitions

* `Document.outline` - the lines that are printed.
* `Document.Lacks` - the one reason to fail.

## Main statements

* `Context.Ends.exists_perform` - a routine that ends within four runs is done.
* `Command.perform_tree` - what the command prints, or how it fails.
-/

namespace CatalogBrowser

/-- A table is shown with its kind, and with its rows where they are known. -/
def TableRecord.outline (row : TableRecord) : String :=
  "    " ++ row.name ++ " (" ++ row.kind.title ++
    (match row.rows with
    | some rows => ", ~" ++ toString rows ++ " rows"
    | none => "") ++ ")"

/-- Tables that differ in their kinds only are shown differently. -/
theorem TableRecord.outline_inj_kind (row : TableRecord) (kind kind' : RelationKind) :
    outline { row with kind } = outline { row with kind := kind' } ↔ kind = kind' := by
  simp only [outline, String.append_left_inj, String.append_right_inj, RelationKind.title_inj]

/-- The lines of a schema of a database: its name, and from three levels on its tables. -/
def DatabaseEntry.outline (entry : DatabaseEntry) (levels : Nat) (row : SchemaRecord) :
    List String :=
  ("  " ++ row.name) ::
    if levels < 3 then [] else (entry.tableRows row.name).map TableRecord.outline

namespace Document

/-- The lines of a database: its name, and from two levels on the schemas of the first database of
that name. -/
def outlineOf (document : Document) (levels : Nat) (name : String) : List String :=
  name :: if levels < 2 then []
    else match document.databases.find? (·.record.name = name) with
    | some entry => entry.schemaRows.flatMap (entry.outline levels)
    | none => []

/-- The lines of all databases that a connection shows. -/
def outline (document : Document) (connection : Connection) (levels : Nat) : List String :=
  (document.databaseNames connection).flatMap (document.outlineOf levels)

/-- Whether there is no database of the active name, though it is needed. -/
def Lacks (document : Document) (connection : Connection) (levels : Nat) : Prop :=
  2 ≤ levels ∧ connection.readDatabaseList = false ∧
    connection.configuredDatabase.getD defaultDatabase ∉ document.databases.map (·.record.name)

instance (document : Document) (connection : Connection) (levels : Nat) :
    Decidable (document.Lacks connection levels) :=
  inferInstanceAs (Decidable (_ ∧ _))

end Document

/-- A database that the listing shows is one of the document. -/
theorem Document.mem_names_of_mem_databaseNames {document : Document} {connection : Connection}
    (hlist : connection.readDatabaseList = true) {name : String}
    (h : name ∈ document.databaseNames connection) :
    name ∈ document.databases.map (·.record.name) := by
  rw [databaseNames, visibleRows, if_pos hlist] at h
  obtain ⟨row, hrow, rfl⟩ := List.mem_map.1 h
  have hlisted := List.mem_mergeSort.1 ((Cache.unseen_sublist [] _).subset hrow)
  obtain ⟨entry, hentry, rfl⟩ := List.mem_map.1 (List.mem_filter.1 hlisted).1
  exact List.mem_map_of_mem hentry

theorem Document.exists_database?_of_mem {document : Document} {name : String}
    (h : name ∈ document.databases.map (·.record.name)) :
    ∃ entry, document.database? name = .ok entry := by
  obtain ⟨entry, hentry, rfl⟩ := List.mem_map.1 h
  cases hfind : document.databases.find? (·.record.name = entry.record.name) with
  | none => simpa using List.find?_eq_none.1 hfind entry hentry
  | some found => exact ⟨found, Document.database?_eq_ok_iff.2 hfind⟩

theorem Document.database?_of_not_mem {document : Document} {name : String}
    (h : name ∉ document.databases.map (·.record.name)) : document.database? name =
      .error (.queryFailed ("database \"" ++ name ++ "\" does not exist")) := by
  have hfind : document.databases.find? (·.record.name = name) = none := by
    simpa using h
  rw [Document.database?, hfind]

/-- Unless a database is lacking, all that are needed exist. -/
theorem Document.exists_database?_of_not_lacks {document : Document} {connection : Connection}
    {levels : Nat} (h : ¬ document.Lacks connection levels) (hlevels : 2 ≤ levels) :
    ∀ name ∈ document.databaseNames connection, ∃ entry, document.database? name = .ok entry := by
  intro name hname
  by_cases hlist : connection.readDatabaseList = true
  · exact exists_database?_of_mem (mem_names_of_mem_databaseNames hlist hname)
  · rw [databaseNames_of_not_list hlist, List.mem_singleton] at hname
    subst hname
    by_contra hmissing
    exact h ⟨hlevels, Bool.eq_false_iff.2 hlist,
      fun hmem => hmissing (exists_database?_of_mem hmem)⟩

section Report

variable {document : Document} {depth : Nat}

/-- Lists whose members are shown alike are shown alike. -/
theorem map_eq_of_forall₂ {α β γ : Type} {f : α → γ} {g : β → γ} {R : α → β → Prop}
    {xs : List α} {ys : List β} (h : List.Forall₂ R xs ys) (heq : ∀ x y, R x y → f x = g y) :
    xs.map f = ys.map g := by
  rw [← List.forall₂_eq_eq_eq, List.forall₂_map_left_iff, List.forall₂_map_right_iff]
  exact h.imp heq

/-- Nothing is seen in a cache that was not read. -/
theorem Cache.Pristine.cachedObjects {α : Type} {c : Cache α} (h : c.Pristine) :
    c.cachedObjects = [] := by
  rw [h]
  rfl

theorem Table.describe_ofRecord (row : TableRecord) :
    "    " ++ (Table.ofRecord row).describe = row.outline := by
  rw [Table.describe, Table.ofRecord, TableRecord.outline]
  cases row.rows <;> simp [String.append_assoc, toString]

theorem Schema.Shown.lines {entry : DatabaseEntry} {schema : Schema} {row : SchemaRecord}
    (h : schema.Shown document entry depth row) :
    Report.schemaLines schema = entry.outline (depth + 2) row := by
  obtain ⟨hname, -, hdepth⟩ := h
  rw [Report.schemaLines, DatabaseEntry.outline, hname]
  cases depth with
  | zero => simp [hdepth.1.cachedObjects]
  | succ depth =>
    rw [if_neg (by omega), map_eq_of_forall₂ hdepth.objects]
    rintro table row ⟨ref, rfl⟩
    exact Table.describe_ofRecord row

theorem Database.Shown.lines {database : Database} {name : String}
    (h : database.Shown document depth name) :
    Report.databaseLines database = document.outlineOf (depth + 1) name := by
  obtain ⟨hname, hdepth⟩ := h
  rw [Report.databaseLines, Document.outlineOf, hname]
  cases depth with
  | zero => simp [hdepth.1.cachedObjects]
  | succ depth =>
    obtain ⟨entry, hentry, hholds⟩ := hdepth
    have hfind := Document.database?_eq_ok_iff.1 hentry
    rw [if_neg (by omega), hfind]
    simp only [List.flatMap_def]
    rw [map_eq_of_forall₂ hholds.objects]
    rintro schema row ⟨ref, hshown⟩
    exact hshown.lines

end Report

namespace Context

variable {ctx : Context} {document : Document} {monitor : Monitor} {routine : Routine}
  {Q : DataSource → Routine.Result → Prop} {m n now : Nat}

/-- A routine that ends within so many runs is finished then. -/
theorem Ends.exists_finish (hready : ctx.Ready document now)
    (h : Ends document (run · monitor) Place.whole Q m now ctx.source (run · monitor routine))
    (hle : m ≤ n) :
    ∃ ctx' later result, ctx.finish monitor routine n = (ctx', .finished result) ∧
      ctx'.Ready document later ∧ Q ctx'.source result := by
  induction m generalizing ctx routine now n with
  | zero => exact h.elim
  | succ m ih =>
    obtain ⟨n, rfl⟩ : ∃ k, n = k + 1 := ⟨n - 1, by omega⟩
    obtain ⟨ctx₁, ds, out, hrun, hready₁, rfl, hout⟩ := h ctx hready rfl
    cases out with
    | finished result => exact ⟨ctx₁, now, result, by simp only [finish, hrun], hready₁, hout⟩
    | waiting routine' =>
      obtain ⟨ctx', later, result, hfinish, hdone⟩ :=
        ih hready₁.pause hout (Nat.le_of_succ_le_succ hle)
      exact ⟨ctx', later, result, by simpa only [finish, hrun] using hfinish, hdone⟩

/-- A routine that ends within four runs is done. -/
theorem Ends.exists_perform (hready : ctx.Ready document now)
    (h : ∀ monitor, Ends document (run · monitor) Place.whole Q 4 now ctx.source
      (run · monitor routine)) (failed : DataSourceError → CommandError) :
    ∃ ctx' later result, ctx'.Ready document later ∧ Q ctx'.source result ∧
      ctx.perform routine failed = match result with
        | .ok answer => .ok (ctx', answer)
        | .error (.operation error) => .error (failed error)
        | .error (.query error) => .error (failed (.connection error)) := by
  have hready' : { ctx with monitors := ctx.monitors.fresh.1 }.Ready document now :=
    ⟨hready.serves, hready.online, hready.clock, hready.active⟩
  obtain ⟨ctx', later, result, hfinish, hdone, hQ⟩ :=
    Ends.exists_finish hready' (h ctx.monitors.fresh.2) (Nat.le_refl 4)
  refine ⟨ctx', later, result, hdone, hQ, ?_⟩
  simp only [perform, hfinish]
  rcases result with ((_ | _) | _) <;> rfl

end Context

namespace Command

open Context

variable {ctx : Context} {document : Document} {connection : Connection} {depth levels : Nat}

/-- A server with a document is online, and its databases are read down to so many levels below
them. -/
def Browses (document : Document) (names : List String) (depth : Nat) (ctx : Context) : Prop :=
  (∃ now, ctx.Ready document now) ∧
    ctx.source.databases.Holds (fun _ => Database.Shown document depth) names

theorem browses_context (connection : Connection) (document : Document) :
    ∃ ctx, (context connection document).perform (.opening .start) .opening = .ok (ctx, .done) ∧
      Browses document (document.databaseNames connection) 0 ctx := by
  have hready : (context connection document).Ready document 0 := ⟨rfl, rfl, rfl, rfl⟩
  have hends : ∀ monitor, Ends document (Context.run · monitor) Place.whole _ 4 0
      (context connection document).source (Context.run · monitor (.opening .start)) :=
    fun monitor => ends_runInitialize monitor connection
  obtain ⟨ctx, later, _, hready', ⟨rfl, hholds⟩, hperform⟩ :=
    Ends.exists_perform hready hends .opening
  exact ⟨ctx, hperform, ⟨later, hready'⟩, hholds⟩

theorem run_preload (ctx : Context) (monitor : Monitor) (walk : DatabaseWalk) :
    ctx.run monitor (.preload walk) = Poll.andThen (ctx.walkDatabases monitor walk) .preload
      fun ctx result => (ctx, .finished (result.mapError .ofCache |>.map fun _ => .done)) := by
  rw [run]
  rcases ctx.walkDatabases monitor walk with ⟨ctx, _ | _ | _⟩ <;> rfl

/-- Preloading finishes when the walk does. -/
theorem ends_preload {P : DataSource → WalkResult → Prop} {now : Nat} {monitor : Monitor}
    {ds : DataSource} {walk : DatabaseWalk}
    (h : Ends document (walkDatabases monitor) Place.whole P 3 now ds
      (walkDatabases monitor · walk)) :
    Ends document (Context.run · monitor) Place.whole
      (fun ds result => ∃ walked, P ds walked ∧
        result = (walked.mapError .ofCache).map fun _ => .done) 4 now ds
      (Context.run · monitor (.preload walk)) := by
  simp only [run_preload]
  exact h.bind (n := 1) (fun ctx walk => run_preload ctx monitor walk) fun now ds walked hP =>
    ends_pure ⟨walked, hP, rfl⟩

theorem Browses.preload {names : List String} (h : Browses document names depth ctx)
    (failed : DataSourceError → CommandError)
    (hentry : 2 ≤ levels → ∀ name ∈ names, ∃ entry, document.database? name = .ok entry) :
    ∃ ctx', ctx.perform (.preload (DatabaseWalk.ofDepth levels)) failed = .ok (ctx', .done) ∧
      Browses document names (max depth (levels - 1)) ctx' := by
  obtain ⟨⟨now, hready⟩, hholds⟩ := h
  obtain ⟨ctx', later, _, hready', ⟨_, ⟨rfl, hholds'⟩, rfl⟩, hperform⟩ := Ends.exists_perform hready
    (fun monitor => ends_preload (ends_walkDatabases monitor hholds hentry)) failed
  exact ⟨ctx', hperform, ⟨later, hready'⟩, hholds'⟩

theorem Browses.preload_missing {name : String} (h : Browses document [name] 0 ctx)
    (failed : DataSourceError → CommandError) (hlevels : 2 ≤ levels) {error : ConnectionError}
    (hentry : document.database? name = .error error) :
    ctx.perform (.preload (DatabaseWalk.ofDepth levels)) failed =
      .error (failed (.cache (.remoteFetch ("schemas of " ++ name) error))) := by
  obtain ⟨⟨now, hready⟩, hholds⟩ := h
  obtain ⟨ctx', later, _, -, ⟨_, rfl, rfl⟩, hperform⟩ := Ends.exists_perform hready
    (fun monitor => ends_preload (ends_walkDatabases_missing monitor hholds hlevels hentry)) failed
  exact hperform

/-- How reading below a database fails that does not exist. -/
def missing (connection : Connection) : DataSourceError :=
  let name := connection.configuredDatabase.getD defaultDatabase
  .cache (.remoteFetch ("schemas of " ++ name)
    (.queryFailed ("database \"" ++ name ++ "\" does not exist")))

/-- What is printed of a session that browses the databases of a document. -/
theorem Browses.tree {names : List String} (h : Browses document names depth ctx) :
    Report.tree (ctx.source.databases.cachedObjects.filterMap ctx.source.database?) =
      "".intercalate ((names.flatMap (document.outlineOf (depth + 1))).map (· ++ "\n")) := by
  have hlines := map_eq_of_forall₂ h.2.objects fun database name ⟨_, hshown⟩ => hshown.lines
  rw [Report.tree, List.flatMap_def, List.flatMap_def, ← hlines]
  rfl

theorem connect_of_not_lacks {configuration : Configuration}
    (h : ¬ document.Lacks configuration.connection configuration.preloadDepth) :
    ∃ ctx, connect configuration document = .ok ctx ∧ Browses document
      (document.databaseNames configuration.connection) (configuration.preloadDepth - 1) ctx := by
  obtain ⟨ctx, hopening, hbrowses⟩ := browses_context configuration.connection document
  by_cases hdepth : configuration.preloadDepth = 0
  · rw [hdepth]
    refine ⟨ctx, ?_, hbrowses⟩
    simp only [connect, hopening, hdepth, if_pos]
    rfl
  · obtain ⟨ctx', hpreload, hbrowses'⟩ := hbrowses.preload .preload
      (Document.exists_database?_of_not_lacks h)
    rw [Nat.zero_max] at hbrowses'
    refine ⟨ctx', ?_, hbrowses'⟩
    simp only [connect, hopening, bind, Except.bind, if_neg hdepth, hpreload]
    rfl

/-- If a database is lacking, it is the only one that is shown, and cannot be read. -/
theorem Browses.preload_of_lacks (h : Browses document (document.databaseNames connection) 0 ctx)
    (hlacks : document.Lacks connection levels)
    (failed : DataSourceError → CommandError) :
    ctx.perform (.preload (DatabaseWalk.ofDepth levels)) failed =
      .error (failed (missing connection)) := by
  obtain ⟨hlevels, hlist, hname⟩ := hlacks
  rw [Document.databaseNames_of_not_list (Bool.eq_false_iff.1 hlist)] at h
  exact h.preload_missing failed hlevels (Document.database?_of_not_mem hname)

theorem connect_of_lacks {configuration : Configuration}
    (h : document.Lacks configuration.connection configuration.preloadDepth) :
    connect configuration document = .error (.preload (missing configuration.connection)) := by
  obtain ⟨ctx, hopening, hbrowses⟩ := browses_context configuration.connection document
  have hdepth : configuration.preloadDepth ≠ 0 := Nat.ne_of_gt (Nat.lt_of_succ_lt h.1)
  simp only [connect, hopening, bind, Except.bind, if_neg hdepth, hbrowses.preload_of_lacks h]

/-- What the command prints, or how it fails, whatever the document is and however long its server
takes to answer. -/
theorem perform_tree (configuration : Configuration) (document : Document) (depth : Nat) :
    let connection := configuration.connection
    let levels := max 1 (max configuration.preloadDepth depth)
    (Command.tree depth).perform configuration document =
      if document.Lacks connection levels then
        .error (if 2 ≤ configuration.preloadDepth then .preload (missing connection)
          else .tree (missing connection))
      else .ok ("".intercalate ((document.outline connection levels).map (· ++ "\n"))) := by
  intro connection levels
  by_cases hpreload : document.Lacks connection configuration.preloadDepth
  · -- the configuration asks for more than there is
    have hlacks : document.Lacks connection levels :=
      ⟨Nat.le_trans hpreload.1 (by omega), hpreload.2⟩
    rw [if_pos hlacks, if_pos hpreload.1, Command.perform, connect_of_lacks hpreload]
    rfl
  obtain ⟨ctx, hconnect, hbrowses⟩ := connect_of_not_lacks hpreload
  by_cases hlacks : document.Lacks connection levels
  · -- only the command does
    have hshallow : ¬ 2 ≤ configuration.preloadDepth := fun h => hpreload ⟨h, hlacks.2⟩
    have hdepth : document.Lacks connection depth := ⟨by have := hlacks.1; omega, hlacks.2⟩
    rw [show configuration.preloadDepth - 1 = 0 by omega] at hbrowses
    rw [if_pos hlacks, if_neg hshallow, Command.perform, hconnect]
    simp only [text, bind, Except.bind, hbrowses.preload_of_lacks hdepth]
    rfl
  · have hdepth : ¬ document.Lacks connection depth := fun h =>
      hlacks ⟨Nat.le_trans h.1 (by omega), h.2⟩
    obtain ⟨ctx', htree, hbrowses'⟩ := hbrowses.preload .tree
      (Document.exists_database?_of_not_lacks hdepth)
    have hlevels : max (configuration.preloadDepth - 1) (depth - 1) + 1 = levels := by omega
    rw [if_neg hlacks, Command.perform, hconnect]
    simp only [text, bind, Except.bind, htree, hbrowses'.tree, hlevels]
    rfl

/-- A template is left out, and of two databases of one name the second, whose schemas are not read
either. -/
theorem perform_tree_filtered :
    let configuration : Configuration := { connection := { readDatabaseList := true } }
    let orders : TableRecord := {
      oid := 21, name := "orders", kind := .materializedView, rows := some 3 }
    let items : TableRecord := { oid := 22, name := "items", kind := .foreignTable }
    let billing : DatabaseEntry := {
      record := { oid := 1, name := "billing" }
      schemas := [{ record := { oid := 11, name := "public" }, tables := [orders, items] }] }
    let document : Document := { databases := [
      { record := { oid := 2, name := "inventory" } }, billing,
      { record := { oid := 3, name := "base", isTemplate := true },
        schemas := [{ record := { oid := 12, name := "public" } }] },
      { record := { oid := 4, name := "billing" },
        schemas := [{ record := { oid := 13, name := "audit" } }] }] }
    (Command.tree 3).perform configuration document = .ok ("billing\n" ++
      "  public\n    items (foreign table)\n    orders (materialized view, ~3 rows)\n" ++
      "inventory\n") := by
  intro configuration orders items billing document
  have hlacks : ¬ document.Lacks configuration.connection 3 := by decide +kernel
  have hnames : document.databaseNames configuration.connection = ["billing", "inventory"] := by
    simp [document, billing, configuration, Document.databaseNames, Document.visibleRows,
      Document.databaseRows, Connection.databaseFilter, Connection.namedDatabase,
      DatabaseFilter.shows, List.mergeSort, Cache.firstOfEach, Cache.unseen]
  have htables : billing.tableRows "public" = [items, orders] := by
    simp [billing, orders, items, DatabaseEntry.tableRows, List.mergeSort, Cache.firstOfEach,
      Cache.unseen]
  have hschemas : billing.schemaRows = [{ oid := 11, name := "public" }] := by
    simp [billing, DatabaseEntry.schemaRows, Cache.firstOfEach, Cache.unseen]
  have hbilling : document.outlineOf 3 "billing" =
      "billing" :: billing.schemaRows.flatMap (billing.outline 3) := rfl
  have htree : (Command.tree 3).perform configuration document =
      .ok ("".intercalate ((document.outline configuration.connection 3).map (· ++ "\n"))) :=
    (perform_tree configuration document 3).trans (if_neg hlacks)
  rw [htree, Document.outline, hnames, List.flatMap_cons, hbilling, hschemas,
    List.flatMap_singleton, DatabaseEntry.outline, htables]
  exact congrArg Except.ok (by decide +kernel)

end Command

end CatalogBrowser
