import CatalogBrowser.Proofs.Cache.Filling
import CatalogBrowser.Proofs.DataSource.Rest

/-!
# Reading the tree

While nobody does anything else with a data source than to read its caches, each cache of the tree
stays as it was or is filled once, whatever the others do. Objects are made, but none is changed, so
that what is loaded stays.

## Main definitions

* `DataSource.Lists` - what a document holds for a cache of the tree.
* `DataSource.Advances` - what is there stays, and what is loaded stays loaded.
* `DataSource.Reading` - what the loads of a run have made of a data source that was at rest.

## Main statements

* `DataSource.Reading.ran` - a load of one of the caches leaves it so.
* `DataSource.Reading.abandoned` - so does a load that is dropped.
-/

namespace CatalogBrowser

open Cache (Filling Load Remote Result Stage)

namespace DataSource

/-- A document holds these rows for the cache at a site. -/
inductive Lists (ds : DataSource) (document : Document) : Site → List Row → Prop
  | databases : ds.connection.readDatabaseList = true →
      Lists ds document none ((document.listDatabases ds.connection.databaseFilter).map
        (Database.row ∘ Database.ofRecord))
  /-- The active database is taken on trust. -/
  | assumed : ds.connection.readDatabaseList = false →
      Lists ds document none
        ([Database.placeholder ds.activeName].map (Database.row ∘ Database.ofRecord))
  | schemas {db : Ref} {database : Database} {records : List SchemaRecord} :
      ds.database? db = some database → document.listSchemas database.name = .ok records →
      Lists ds document (some (.schemas db))
        (records.map (Schema.row ∘ Schema.ofRecord database.name))
  | tables {db schema : Ref} {owner : Schema} {records : List TableRecord} :
      ds.schema? db schema = some owner →
      document.listTables owner.database owner.name = .ok records →
      Lists ds document (some (.tables db schema)) (records.map (Table.row ∘ Table.ofRecord))

/-- One of the documents that were heard of holds these rows. -/
def Listing (ds : DataSource) (heard : Document → Prop) (site : Site) (rows : List Row) : Prop :=
  ∃ document, heard document ∧ ds.Lists document site rows

/-- What is there stays, apart from what it owns, and what is loaded stays loaded. -/
structure Advances (ds ds' : DataSource) : Prop where
  connection : ds'.connection = ds.connection
  active : ds'.active = ds.active
  databases : ∀ db database, ds.database? db = some database →
    ∃ database', ds'.database? db = some database' ∧ database'.row = database.row
  schemas : ∀ db schema owner, ds.schema? db schema = some owner →
    ∃ owner', ds'.schema? db schema = some owner' ∧ owner'.row = owner.row
  loaded : ∀ site c, ds.site? site = some c → c.snapshot.complete = true →
    ∃ c', ds'.site? site = some c' ∧ c'.snapshot = c.snapshot

/-- What a cache of the tree was before: what is new was pristine. -/
def Origin (base : DataSource) (site : Site) (b : Cache Row) : Prop :=
  base.site? site = some b ∨ base.site? site = none ∧ b.Pristine

end DataSource

/-- A job reads a cache, with a query of its own. -/
def Job.Asks (ds : DataSource) : Job → Prop
  | .databases load => load.Asked (Database.remote ds.connection ds.activeName)
  | .schemas db load => load.Plain ∧ ∀ database, ds.database? db = some database →
      load.Asked (Schema.remote database.name)
  | .tables db schema load => load.Plain ∧ ∀ owner, ds.schema? db schema = some owner →
      load.Asked (Table.remote owner.database owner.name)

/-- What the jobs of a run have made of a data source that was at rest. -/
structure DataSource.Reading (base : DataSource) (heard : Document → Prop) (reach : Site → Prop)
    (fails : Prop) (ds : DataSource) (jobs : List Job) : Prop where
  new : ∀ site, ds.site? site = none → base.site? site = none
  sites : ∀ site c, ds.site? site = some c → ∃ b, base.Origin site b ∧
    Filling Row.identity (reach site) fails (ds.Listing heard site) b (stagesAt site jobs) c
  absent : ∀ job ∈ jobs, ds.site? job.branch? = none → job.stage = .start
  asks : ∀ job ∈ jobs, job.Asks ds

namespace DataSource

variable {base ds ds' ds'' : DataSource} {heard : Document → Prop} {reach : Site → Prop}
  {fails fails' : Prop} {site : Site} {jobs jobs' before behind : List Job}

section Advances

theorem Advances.refl (ds : DataSource) : ds.Advances ds :=
  ⟨rfl, rfl, fun _ database h => ⟨database, h, rfl⟩, fun _ _ owner h => ⟨owner, h, rfl⟩,
    fun _ c h _ => ⟨c, h, rfl⟩⟩

theorem Advances.trans (h : ds.Advances ds') (h' : ds'.Advances ds'') : ds.Advances ds'' where
  connection := h'.connection.trans h.connection
  active := h'.active.trans h.active
  databases db database hdatabase := by
    obtain ⟨database', hdatabase', hrow⟩ := h.databases db database hdatabase
    obtain ⟨database'', hdatabase'', hrow'⟩ := h'.databases db database' hdatabase'
    exact ⟨database'', hdatabase'', hrow'.trans hrow⟩
  schemas db schema owner howner := by
    obtain ⟨owner', howner', hrow⟩ := h.schemas db schema owner howner
    obtain ⟨owner'', howner'', hrow'⟩ := h'.schemas db schema owner' howner'
    exact ⟨owner'', howner'', hrow'.trans hrow⟩
  loaded site c hc hcomplete := by
    obtain ⟨c', hc', hsnapshot⟩ := h.loaded site c hc hcomplete
    obtain ⟨c'', hc'', hsnapshot'⟩ := h'.loaded site c' hc' (hsnapshot ▸ hcomplete)
    exact ⟨c'', hc'', hsnapshot'.trans hsnapshot⟩

theorem name_of_row {database database' : Database} (h : database'.row = database.row) :
    database'.name = database.name := by
  simp only [Database.row, Row.database.injEq, Database.mk.injEq] at h
  exact h.1

theorem names_of_row {owner owner' : Schema} (h : owner'.row = owner.row) :
    owner'.database = owner.database ∧ owner'.name = owner.name := by
  simp only [Schema.row, Row.schema.injEq, Schema.mk.injEq] at h
  exact ⟨h.2.1, h.2.2.1⟩

/-- What a document holds for a cache stays so. -/
theorem Advances.lists (h : ds.Advances ds') {document : Document} {rows : List Row}
    (hlists : ds.Lists document site rows) : ds'.Lists document site rows := by
  have hactive : ds'.activeName = ds.activeName := by rw [activeName, activeName, h.active]
  cases hlists with
  | databases hreads =>
    rw [← h.connection] at hreads ⊢
    exact .databases hreads
  | assumed hreads =>
    rw [← h.connection] at hreads
    rw [← hactive]
    exact .assumed hreads
  | schemas hdatabase hrecords =>
    obtain ⟨database', hdatabase', hrow⟩ := h.databases _ _ hdatabase
    rw [← name_of_row hrow] at hrecords ⊢
    exact .schemas hdatabase' hrecords
  | tables howner hrecords =>
    obtain ⟨owner', howner', hrow⟩ := h.schemas _ _ _ howner
    obtain ⟨hdatabase, hname⟩ := names_of_row hrow
    rw [← hdatabase, ← hname] at hrecords
    exact .tables howner' hrecords

/-- What is there stays if all caches but one stay, and that one keeps what it has loaded. -/
theorem advances_of_unfolds (hunfolds : ds.Unfolds Eq site ds')
    (hconnection : ds'.connection = ds.connection) (hactive : ds'.active = ds.active)
    (hdatabases : ∀ db database, ds.database? db = some database →
      ∃ database', ds'.database? db = some database' ∧ database'.row = database.row)
    (hschemas : ∀ db schema owner, ds.schema? db schema = some owner →
      ∃ owner', ds'.schema? db schema = some owner' ∧ owner'.row = owner.row)
    (hself : ∀ c, ds.site? site = some c → c.snapshot.complete = true →
      ∃ c', ds'.site? site = some c' ∧ c'.snapshot = c.snapshot) : ds.Advances ds' where
  connection := hconnection
  active := hactive
  databases := hdatabases
  schemas := hschemas
  loaded other c hc hcomplete := by
    by_cases hother : other = site
    · subst hother
      exact hself c hc hcomplete
    · obtain ⟨c', hc', rfl⟩ := hunfolds.old other c hother hc
      exact ⟨c, hc', rfl⟩

/-- The schemas of a database grow. -/
theorem advances_putSchemas {db : Ref} {database : Database} {schemas : Cache Schema}
    (hunfolds : ds.Unfolds Eq (some (.schemas db)) (ds.putSchemas db schemas))
    (hdatabase : ds.database? db = some database)
    (hobjects : ∀ schema owner, database.schemas.object? schema = some owner →
      schemas.object? schema = some owner)
    (hstays : database.schemas.snapshot.complete = true →
      schemas.snapshot = database.schemas.snapshot) : ds.Advances (ds.putSchemas db schemas) := by
  refine advances_of_unfolds hunfolds rfl rfl (fun db' database' hdatabase' => ?_)
    (fun db' schema owner howner => ?_) fun c hc hcomplete => ?_
  · by_cases hsame : db' = db
    · subst db'
      obtain rfl := Option.some.inj (hdatabase.symm.trans hdatabase')
      exact ⟨_, database?_putSchemas_self hdatabase schemas, rfl⟩
    · exact ⟨database', (database?_putSchemas_of_ne hsame ds schemas).trans hdatabase', rfl⟩
  · by_cases hsame : db' = db
    · subst db'
      obtain ⟨database', hdatabase', hschema⟩ := schema?_eq_some_iff.1 howner
      obtain rfl := Option.some.inj (hdatabase.symm.trans hdatabase')
      exact ⟨owner, (schema?_putSchemas_self hdatabase schemas schema).trans
        (hobjects schema owner hschema), rfl⟩
    · exact ⟨owner, (schema?_putSchemas_of_ne hsame ds schemas schema).trans howner, rfl⟩
  · obtain rfl := Option.some.inj ((site?_schemas hdatabase).symm.trans hc)
    exact ⟨_, site?_putSchemas_self hdatabase schemas, hstays hcomplete⟩

/-- The tables of a schema are read. -/
theorem advances_putTables {db schema : Ref} {owner : Schema} {tables : Cache Table}
    (howner : ds.schema? db schema = some owner)
    (hstays : owner.tables.snapshot.complete = true →
      tables.snapshot = owner.tables.snapshot) : ds.Advances (ds.putTables db schema tables) := by
  obtain ⟨database, hdatabase, hschema⟩ := schema?_eq_some_iff.1 howner
  have hunfolds : ds.Unfolds Eq (some (.tables db schema)) (ds.putTables db schema tables) :=
    unfolds_putTables (fun _ => rfl) howner tables
  have hputs : ds.putTables db schema tables = _ := putTables_eq hdatabase tables
  refine advances_of_unfolds hunfolds (by rw [hputs]; rfl) (by rw [hputs]; rfl)
    (fun db' database' hdatabase' => ?_) (fun db' schema' owner' howner' => ?_)
    fun c hc hcomplete => ?_
  · rw [hputs]
    by_cases hsame : db' = db
    · subst db'
      obtain rfl := Option.some.inj (hdatabase.symm.trans hdatabase')
      exact ⟨_, database?_putSchemas_self hdatabase _, rfl⟩
    · exact ⟨database', (database?_putSchemas_of_ne hsame ds _).trans hdatabase', rfl⟩
  · rw [hputs]
    by_cases hsame : db' = db
    · subst db'
      rw [schema?_putSchemas_self hdatabase]
      obtain ⟨database', hdatabase', hschema'⟩ := schema?_eq_some_iff.1 howner'
      obtain rfl := Option.some.inj (hdatabase.symm.trans hdatabase')
      by_cases hsame' : schema' = schema
      · subst schema'
        exact ⟨_, Cache.object?_modifyObject_self _ hschema', rfl⟩
      · exact ⟨owner', (Cache.object?_modifyObject_of_ne _ hsame' _).trans hschema', rfl⟩
    · exact ⟨owner', (schema?_putSchemas_of_ne hsame ds _ schema').trans howner', rfl⟩
  · obtain rfl := Option.some.inj ((site?_tables howner).symm.trans hc)
    exact ⟨_, site?_putTables_self howner tables, hstays hcomplete⟩

end Advances

section Asks

variable {job : Job}

theorem asked_unrun {ω κ ρ : Type} (remote : Remote ω κ ρ) : (Load.unrun : Load κ).Asked remote :=
  ⟨.inl .unrun, fun query hquery => by cases hquery⟩

/-- A job that has not begun asks for nothing yet. -/
theorem asked_of_start {ω κ ρ : Type} (remote : Remote ω κ ρ) {load : Load κ} (hplain : load.Plain)
    (hstart : load.stage = .start) : load.Asked remote := by
  rcases hplain with hbulk | hsingle
  · cases hbulk with
    | unrun => exact asked_unrun remote
    | joined | leading => cases hstart
  · exact hsingle.asked remote

theorem Advances.asks (h : ds.Advances ds') (hasks : job.Asks ds)
    (habsent : ds.site? job.branch? = none → job.stage = .start) : job.Asks ds' := by
  cases job with
  | databases load =>
    have hactive : ds'.activeName = ds.activeName := by rw [activeName, activeName, h.active]
    rw [Job.Asks, h.connection, hactive]
    exact hasks
  | schemas db load =>
    refine ⟨hasks.1, fun database' hdatabase' => ?_⟩
    cases hdatabase : ds.database? db with
    | none =>
      exact asked_of_start _ hasks.1 (habsent (site?_schemas_eq_none_iff.2 hdatabase))
    | some database =>
      obtain ⟨other, hother, hrow⟩ := h.databases db database hdatabase
      obtain rfl := Option.some.inj (hother.symm.trans hdatabase')
      rw [name_of_row hrow]
      exact hasks.2 database hdatabase
  | tables db schema load =>
    refine ⟨hasks.1, fun owner' howner' => ?_⟩
    cases howner : ds.schema? db schema with
    | none =>
      exact asked_of_start _ hasks.1 (habsent (site?_tables_eq_none_iff.2 howner))
    | some owner =>
      obtain ⟨other, hother, hrow⟩ := h.schemas db schema owner howner
      obtain rfl := Option.some.inj (hother.symm.trans howner')
      obtain ⟨hdatabase, hname⟩ := names_of_row hrow
      rw [hdatabase, hname]
      exact hasks.2 owner howner

end Asks

section Lists

variable {server₀ server : Server}

/-- What the server answers to a listing of the databases. -/
theorem lists_databases {records : List DatabaseRecord}
    (h : (Database.remote ds.connection ds.activeName).listing? server
      ((Database.remote ds.connection ds.activeName).list server₀).2 = some (.ok records)) :
    ds.Lists server.document none (records.map (Database.row ∘ Database.ofRecord)) := by
  simp only [Database.remote] at h
  cases hreads : ds.connection.readDatabaseList with
  | true =>
    simp only [hreads, if_true, Server.answer?] at h
    split at h
    · cases h
    · split at h
      · cases h
      · obtain rfl := Except.ok.inj (Option.some.inj h)
        exact .databases hreads
  | false =>
    simp only [hreads, Bool.false_eq_true, if_false] at h
    obtain rfl := Except.ok.inj (Option.some.inj h)
    exact .assumed hreads

theorem answer_of_ok {β : Type} {pending : Pending}
    {read : Document → Except ConnectionError β} {answer : β}
    (h : server.answer? pending read = some (.ok answer)) : read server.document = .ok answer := by
  rw [Server.answer?] at h
  split at h
  · cases h
  · split at h
    · cases h
    · exact Option.some.inj h

theorem lists_schemas {db : Ref} {database : Database} {records : List SchemaRecord}
    (hdatabase : ds.database? db = some database)
    (h : (Schema.remote database.name).listing? server
      ((Schema.remote database.name).list server₀).2 = some (.ok records)) :
    ds.Lists server.document (some (.schemas db))
      (records.map (Schema.row ∘ Schema.ofRecord database.name)) := by
  have hanswer : server.answer? _ (·.listSchemas database.name) = some (.ok records) := h
  exact .schemas hdatabase (answer_of_ok hanswer)

theorem lists_tables {db schema : Ref} {owner : Schema} {records : List TableRecord}
    (howner : ds.schema? db schema = some owner)
    (h : (Table.remote owner.database owner.name).listing? server
      ((Table.remote owner.database owner.name).list server₀).2 = some (.ok records)) :
    ds.Lists server.document (some (.tables db schema))
      (records.map (Table.row ∘ Table.ofRecord)) := by
  have hanswer : server.answer? _ (·.listTables owner.database owner.name) = some (.ok records) := h
  exact .tables howner (answer_of_ok hanswer)

end Lists

section Reading

/-- What a cache was before was at rest. -/
theorem Origin.rests {b : Cache Row} (h : base.Origin site b)
    (hbase : ∀ site b, base.site? site = some b → b.Resting) : b.Resting :=
  h.elim (hbase site b) fun hnew => hnew.2.rests

/-- One cache of the tree changes. -/
theorem Reading.unfold (h : base.Reading heard reach fails ds jobs)
    (hunfolds : ds.Unfolds Eq site ds') (hadvances : ds.Advances ds') (hfails : fails → fails')
    (hothers : ∀ other, other ≠ site → stagesAt other jobs' = stagesAt other jobs)
    (hself : ∀ c', ds'.site? site = some c' → ∃ b, base.Origin site b ∧
      Filling Row.identity (reach site) fails' (ds.Listing heard site) b (stagesAt site jobs') c')
    (hjobs : ∀ job ∈ jobs', job ∈ jobs ∨ ds'.site? job.branch? ≠ none ∧ job.Asks ds') :
    base.Reading heard reach fails' ds' jobs' where
  new other hnone := h.new other (hunfolds.absent hnone)
  sites other c' hc' := by
    have hlists : ∀ rows, ds.Listing heard other rows → ds'.Listing heard other rows := by
      rintro rows ⟨document, hheard, hlists⟩
      exact ⟨document, hheard, hadvances.lists hlists⟩
    by_cases hother : other = site
    · subst hother
      obtain ⟨b, horigin, hfilling⟩ := hself c' hc'
      exact ⟨b, horigin, hfilling.imp id hlists⟩
    rw [hothers other hother]
    cases hc : ds.site? other with
    | some c =>
      obtain ⟨c'', hc'', rfl⟩ := hunfolds.old other c hother hc
      obtain rfl := Option.some.inj (hc''.symm.trans hc')
      obtain ⟨b, horigin, hfilling⟩ := h.sites other c hc
      exact ⟨b, horigin, hfilling.imp hfails hlists⟩
    | none =>
      -- a cache that is new has no jobs but those that have not begun
      obtain ⟨c, hpristine, rfl⟩ := hunfolds.new other c' hc hc'
      refine ⟨c, .inr ⟨h.new other hc, hpristine⟩, Filling.refl _ _ _ _ _ fun stage hstage => ?_⟩
      obtain ⟨job, hjob, rfl, rfl⟩ := mem_stagesAt_iff.1 hstage
      exact h.absent job hjob hc
  absent job hjob hnone := by
    rcases hjobs job hjob with hold | ⟨hexists, -⟩
    · exact h.absent job hold (hunfolds.absent hnone)
    · exact absurd hnone hexists
  asks job hjob := by
    rcases hjobs job hjob with hold | ⟨-, hasks⟩
    · exact hadvances.asks (h.asks job hold) (h.absent job hold)
    · exact hasks

theorem Reading.mono (h : base.Reading heard reach fails ds jobs) (hfails : fails → fails') :
    base.Reading heard reach fails' ds jobs :=
  h.unfold (.refl (fun _ => rfl) none ds) (.refl ds) hfails (fun _ _ => rfl)
    (fun c hc => by
      obtain ⟨b, horigin, hfilling⟩ := h.sites none c hc
      exact ⟨b, horigin, hfilling.mono hfails⟩)
    fun _ hjob => .inl hjob

/-- Jobs that have not begun may come and go. -/
theorem Reading.of_jobs (h : base.Reading heard reach fails ds jobs)
    (hjobs : ∀ job ∈ jobs', job ∈ jobs ∨ job.stage = .start ∧ job.Asks ds)
    (hleads : ∀ site, (stagesAt site jobs').filterMap Stage.fetchLead? =
      (stagesAt site jobs).filterMap Stage.fetchLead?) :
    base.Reading heard reach fails ds jobs' where
  new := h.new
  sites site c hc := by
    obtain ⟨b, horigin, hfilling⟩ := h.sites site c hc
    refine ⟨b, horigin, hfilling.of_stages (hleads site) fun promise current hmem => .inl ?_⟩
    obtain ⟨job, hjob, hbranch, hstage⟩ := mem_stagesAt_iff.1 hmem
    rcases hjobs job hjob with hold | ⟨hstart, -⟩
    · exact mem_stagesAt_iff.2 ⟨job, hold, hbranch, hstage⟩
    · rw [hstart] at hstage
      cases hstage
  absent job hjob hnone := (hjobs job hjob).elim (fun hold => h.absent job hold hnone) fun hnew =>
    hnew.1
  asks job hjob := (hjobs job hjob).elim (h.asks job) fun hnew => hnew.2

/-- Jobs at the start lead nothing. -/
theorem leads_of_start {new : List Job} (hstart : ∀ job ∈ new, job.stage = .start) (site : Site) :
    (stagesAt site new).filterMap Stage.fetchLead? = [] := by
  refine List.filterMap_eq_nil_iff.2 fun stage hstage => ?_
  obtain ⟨job, hjob, -, rfl⟩ := mem_stagesAt_iff.1 hstage
  rw [hstart job hjob]
  rfl

theorem Reading.begin (h : base.Reading heard reach fails ds (before ++ behind)) {new : List Job}
    (hnew : ∀ job ∈ new, job.stage = .start ∧ job.Asks ds) :
    base.Reading heard reach fails ds (before ++ new ++ behind) := by
  refine h.of_jobs (fun job hjob => ?_) fun site => ?_
  · simp only [List.mem_append] at hjob ⊢
    have := hnew job
    tauto
  · simp only [stagesAt_append, List.filterMap_append,
      leads_of_start fun job hjob => (hnew job hjob).1, List.append_nil]

theorem Reading.leave {gone : List Job}
    (h : base.Reading heard reach fails ds (before ++ gone ++ behind))
    (hstart : ∀ job ∈ gone, job.stage = .start) :
    base.Reading heard reach fails ds (before ++ behind) := by
  refine h.of_jobs (fun job hjob => .inl ?_) fun site => ?_
  · simp only [List.mem_append] at hjob ⊢
    tauto
  · simp only [stagesAt_append, List.filterMap_append, leads_of_start hstart, List.append_nil]

section Ran

variable {ρ α κ : Type} {row : α → Row} {make : ρ → α} {c c' : Cache α} {load : Load κ}
  {poll : Poll (Load κ) Result} {f : Load κ → Job} {b : Cache Row}

theorem stagesAt_jobs (hbranch : ∀ load, (f load).branch? = site)
    (hstage : ∀ load, (f load).stage = load.stage) (poll : Poll (Load κ) Result) (other : Site) :
    stagesAt other (poll.jobs fun load => [f load]) =
      if site = other then (poll.pending?.map (·.stage)).toList else [] := by
  cases poll with
  | finished =>
    rw [Poll.jobs]
    split <;> rfl
  | waiting load =>
    rw [Poll.jobs]
    split
    next hsite => rw [← hsite, ← hbranch load, stagesAt_self, hstage]; rfl
    next hsite => exact stagesAt_of_ne (hbranch load ▸ hsite)

/-- A job runs a load of its cache. -/
theorem Reading.ran (h : base.Reading heard reach fails ds (before ++ [f load] ++ behind))
    (hbranch : ∀ load, (f load).branch? = site) (hstage : ∀ load, (f load).stage = load.stage)
    (hc' : ds'.site? site = some (c'.map row)) (hunfolds : ds.Unfolds Eq site ds')
    (hadvances : ds.Advances ds') (horigin : base.Origin site b)
    (hleaves : Filling.Leaves Row.identity (reach site) fails (ds.Listing heard site) b row make
      (stagesAt site before) (stagesAt site behind) c c' poll)
    (hasks : ∀ load', poll = .waiting load' → (f load').Asks ds') :
    base.Reading heard reach (fails ∨ poll.Fails) ds'
      (before ++ (poll.jobs fun load => [f load]) ++ behind) := by
  have hstages : ∀ other, stagesAt other (before ++ (poll.jobs fun load => [f load]) ++ behind) =
      stagesAt other before ++
        (if site = other then (poll.pending?.map (·.stage)).toList else []) ++
        stagesAt other behind := fun other => by
    rw [stagesAt_append, stagesAt_append, stagesAt_jobs hbranch hstage]
  refine h.unfold hunfolds hadvances .inl (fun other hother => ?_) (fun c'' hc'' => ?_) ?_
  · rw [hstages, if_neg hother.symm, stagesAt_append, stagesAt_append,
      stagesAt_of_ne (hbranch load ▸ hother.symm)]
  · obtain rfl := Option.some.inj (hc'.symm.trans hc'')
    refine ⟨b, horigin, ?_⟩
    rw [hstages, if_pos rfl]
    exact hleaves.filling
  · intro job hjob
    rcases List.mem_append.1 hjob with hfront | hbehind
    · rcases List.mem_append.1 hfront with hbefore | hleft
      · exact .inl (by simp [hbefore])
      · cases poll with
        | finished => cases hleft
        | waiting load' =>
          obtain rfl := List.mem_singleton.1 hleft
          refine .inr ⟨?_, hasks load' rfl⟩
          rw [hbranch, hc']
          exact Option.some_ne_none _
    · exact .inl (by simp [hbehind])

/-- A job is dropped. -/
theorem Reading.abandoned (hbase : ∀ site b, base.site? site = some b → b.Resting)
    (h : base.Reading heard reach fails ds (before ++ [f load] ++ behind))
    (hbranch : ∀ load, (f load).branch? = site) (hstage : ∀ load, (f load).stage = load.stage)
    (hplain : load.Plain) (hc : ds.site? site = some (c.map row))
    (hc' : ds'.site? site = some ((c.abandon load.stage).map row))
    (hunfolds : ds.Unfolds Eq site ds') (hadvances : ds.Advances ds') :
    base.Reading heard reach True ds' (before ++ behind) := by
  have hstages : ∀ other, stagesAt other (before ++ [f load] ++ behind) = stagesAt other before ++
      (if site = other then [load.stage] else []) ++ stagesAt other behind := fun other => by
    rw [List.append_assoc, List.singleton_append, stagesAt_split, hbranch, hstage]
  refine h.unfold hunfolds hadvances (fun _ => trivial) (fun other hother => ?_)
    (fun c'' hc'' => ?_) fun job hjob => .inl ?_
  · rw [hstages, if_neg hother.symm, stagesAt_append, List.append_nil]
  · obtain rfl := Option.some.inj (hc'.symm.trans hc'')
    obtain ⟨b, horigin, hfilling⟩ := h.sites site _ hc
    rw [hstages, if_pos rfl] at hfilling
    refine ⟨b, horigin, ?_⟩
    rw [stagesAt_append, Cache.map_abandon]
    exact hfilling.abandon hplain (horigin.rests hbase)
  · simp only [List.mem_append] at hjob ⊢
    tauto

end Ran

end Reading

end DataSource

end CatalogBrowser
