import CatalogBrowser.Proofs.DataSource.Reading

/-!
# Loads of the caches of the tree

While nobody does anything else with a data source than to read its caches, a load of one of them
fails, or goes on waiting, or ends with all that the cache holds then. Whatever comes of it, it only
adds to the data source.

## Main definitions

* `Context.Reads` - what a turn of a reader makes of a data source.
* `Context.Forgoes` - what a reader that is dropped makes of it.

## Main statements

* `Context.reads_runDatabases`, `Context.reads_runSchemas`, `Context.reads_runTables` - the loads.
* `Context.forgoes_abandon` - a load that is dropped.
-/

namespace CatalogBrowser

open Cache (Develops Filling Load Remote Result Stage)

/-- A reply is what the cache at a site holds, which is all of it. -/
def DataSource.Replies (ds : DataSource) (site : Site) (reply : Cache.Reply) : Prop :=
  ∃ c, ds.site? site = some c ∧ c.snapshot.complete = true ∧ reply = .objects c.snapshot.entries

/-- What a turn of a reader makes of a data source, and of the jobs in its place. -/
structure Context.Reads {σ ε β : Type} (base : DataSource) (heard : Document → Prop)
    (reach : Site → Prop) (fails : Prop) (before behind : List Job) (f : σ → List Job)
    (ctx : Context) (out : Context × Poll σ (Except ε β)) : Prop where
  reading : base.Reading heard reach (fails ∨ out.2.Fails) out.1.source
    (before ++ out.2.jobs f ++ behind)
  advances : ctx.source.Advances out.1.source
  document : out.1.server.document = ctx.server.document

namespace Context

open DataSource (Advances)

/-- What a reader makes of a data source does not depend on what it makes of the result. -/
theorem Reads.reports {σ σ' ε ε' β β' : Type} {base : DataSource} {heard : Document → Prop}
    {reach : Site → Prop} {fails : Prop} {before behind : List Job} {ctx : Context}
    {f : σ → List Job} {f' : σ' → List Job} {out : Context × Poll σ (Except ε β)}
    {out' : Context × Poll σ' (Except ε' β')}
    (h : Reads base heard reach fails before behind f ctx out) (hcontext : out'.1 = out.1)
    (hjobs : out'.2.jobs f' = out.2.jobs f) (hfails : out.2.Fails → out'.2.Fails) :
    Reads base heard reach fails before behind f' ctx out' where
  reading := by
    rw [hcontext, hjobs]
    exact h.reading.mono (Or.imp_right hfails)
  advances := hcontext ▸ h.advances
  document := hcontext ▸ h.document

variable {base : DataSource} {heard : Document → Prop} {reach : Site → Prop} {fails : Prop}
  {before behind : List Job} {ctx : Context}

/-- Objects are made of records, and none is changed. -/
theorem getElem?_of_made {ρ α : Type} {objects after : Array α} {make : ρ → α}
    (h : ∃ records : List ρ, after = objects ++ (records.map make).toArray) {ref : Ref} {object : α}
    (hobject : objects[ref]? = some object) : after[ref]? = some object := by
  obtain ⟨records, rfl⟩ := h
  rw [Array.getElem?_append_left (Array.getElem?_eq_some_iff.1 hobject).1, hobject]

theorem develops_of_made {ρ α : Type} {R : α → α → Prop} {New : α → Prop} {objects after : Array α}
    {make : ρ → α} (hrefl : ∀ object, R object object) (hnew : ∀ record, New (make record))
    (h : ∃ records : List ρ, after = objects ++ (records.map make).toArray) :
    Develops R New objects after where
  old ref object hobject := ⟨object, getElem?_of_made h hobject, hrefl object⟩
  new ref object hsize hobject := by
    obtain ⟨records, rfl⟩ := h
    rw [Array.getElem?_append_right hsize] at hobject
    simp only [List.getElem?_toArray, List.getElem?_map] at hobject
    obtain ⟨record, -, rfl⟩ := Option.map_eq_some_iff.1 hobject
    exact ⟨make record, hnew record, hrefl _⟩

theorem Schema.follows_refl (schema : Schema) : schema.Follows Eq schema := rfl

theorem Database.follows_refl (database : Database) : database.Follows Eq database :=
  ⟨rfl, Cache.develops_refl Schema.follows_refl _⟩

/-- A load of a whole collection goes on as one, or ends with all that the cache holds. -/
structure Gathers {κ : Type} (site : Site) (out : Context × Poll (Load κ) Result) : Prop where
  waits : ∀ load, out.2 = .waiting load → load.Bulk
  replies : ∀ reply, out.2 = .finished (.ok reply) → out.1.source.Replies site reply

section Leaves

variable {ρ α κ : Type} {source : Source ρ α} {remote : Remote Server κ ρ} {row : α → Row}
  {make : ρ → α} {c : Cache α} {load : Load κ} {f : Load κ → Job} {site : Site} {ds : DataSource}

/-- What a turn of a job leaves of its cache. -/
theorem exists_passes (hbase : ∀ site b, base.site? site = some b → b.Resting)
    (h : base.Reading heard reach fails ds (before ++ [f load] ++ behind))
    (hbranch : ∀ load, (f load).branch? = site) (hstage : ∀ load, (f load).stage = load.stage)
    (hc : ds.site? site = some (c.map row)) (hasked : load.Asked remote) (hnone : remote.HasNone)
    (hmake : source.construct = some ∘ make)
    (hidentity : ∀ object, (row object).identity = source.identity object)
    (hlists : ∀ server₀ server records,
      remote.listing? server (remote.list server₀).2 = some (.ok records) →
      ds.Lists server.document site (records.map (row ∘ make)))
    (hdocument : ∀ server, (remote.list server).1.document = server.document)
    (hreach : reach site) {server : Server} (hheard : heard server.document) (cancelled : Bool) :
    ∃ b, base.Origin site b ∧ Filling.Passes Row.identity (reach site) fails
      (ds.Listing heard site) b row make (stagesAt site before) (stagesAt site behind) remote server
      c load (load.run source remote server c cancelled) := by
  obtain ⟨b, horigin, hfilling⟩ := h.sites site _ hc
  have hself : stagesAt site [f load] = [load.stage] := by
    rw [← hbranch load, stagesAt_self, hstage]
  rw [stagesAt_append, stagesAt_append, hself] at hfilling
  refine ⟨b, horigin,
    hfilling.read (horigin.rests hbase) hreach hasked hnone hmake hidentity ?_ cancelled⟩
  intro records hanswered
  obtain ⟨server₀, server', hanswer, rfl | rfl⟩ := hasked.answered hanswered
  · exact ⟨_, hheard, hlists _ _ _ hanswer⟩
  · refine ⟨_, ?_, hlists _ _ _ hanswer⟩
    rwa [hdocument]

/-- A load does not change what the server holds. -/
theorem document_of_passes {reach fails : Prop} {Listed : List Row → Prop} {b : Cache Row}
    {before behind : List Stage} {server : Server} {turn : Cache.LoadTurn Server κ α}
    (h : Filling.Passes Row.identity reach fails Listed b row make before behind remote server c
      load turn)
    (hdocument : ∀ server, (remote.list server).1.document = server.document) :
    turn.world.document = server.document := by
  rcases h.world with hsame | hasked
  · rw [hsame]
  · rw [hasked, hdocument]

/-- A turn of a load is a turn of a reader of the tree, once its cache is put back in its place. -/
theorem reads_of_passes {out : Context × Poll (Load κ) Result} {b : Cache Row}
    {turn : Cache.LoadTurn Server κ α}
    (h : base.Reading heard reach fails ctx.source (before ++ [f load] ++ behind))
    (hbranch : ∀ load, (f load).branch? = site) (hstage : ∀ load, (f load).stage = load.stage)
    (horigin : base.Origin site b)
    (hpasses : Filling.Passes Row.identity (reach site) fails (ctx.source.Listing heard site) b row
      make (stagesAt site before) (stagesAt site behind) remote ctx.server c load turn)
    (hdocument : ∀ server, (remote.list server).1.document = server.document)
    (hserver : out.1.server = turn.world) (hpoll : out.2 = turn.poll)
    (hself : out.1.source.site? site = some (turn.cache.map row))
    (hunfolds : ctx.source.Unfolds Eq site out.1.source)
    (hadvances : ctx.source.Advances out.1.source)
    (hasks : ∀ load', turn.poll = .waiting load' → (f load').Asks out.1.source) :
    Reads base heard reach fails before behind (fun load => [f load]) ctx out ∧
      (load.Bulk → Gathers site out) := by
  refine ⟨⟨?_, hadvances, ?_⟩, fun hbulk => ⟨fun load' hwaits => ?_, fun reply hreply => ?_⟩⟩
  · rw [hpoll]
    exact h.ran hbranch hstage hself hunfolds hadvances horigin hpasses.toLeaves hasks
  · rw [hserver]
    exact document_of_passes hpasses hdocument
  · exact hpasses.bulk hbulk load' (hpoll ▸ hwaits)
  · obtain ⟨hcomplete, rfl⟩ := hpasses.reply hbulk reply (hpoll ▸ hreply)
    exact ⟨_, hself, hcomplete, rfl⟩

end Leaves

theorem Database.hasNone (connection : Connection) (active : String) :
    (Database.remote connection active).HasNone :=
  fun _ _ => ⟨rfl, rfl⟩

theorem Schema.hasNone (database : String) : (Schema.remote database).HasNone :=
  fun _ _ => ⟨rfl, rfl⟩

theorem Table.hasNone (database schema : String) : (Table.remote database schema).HasNone :=
  fun _ _ => ⟨rfl, rfl⟩

theorem reads_runDatabases (hbase : ∀ site b, base.site? site = some b → b.Resting)
    {load : Load Database.Query}
    (h : base.Reading heard reach fails ctx.source (before ++ [.databases load] ++ behind))
    (hreach : reach none) (hheard : heard ctx.server.document) (monitor : Monitor) :
    Reads base heard reach fails before behind (fun load => [.databases load]) ctx
        (ctx.runDatabases monitor load) ∧
      (load.Bulk → Gathers none (ctx.runDatabases monitor load)) := by
  have hasked : load.Asked (Database.remote ctx.source.connection ctx.source.activeName) :=
    h.asks (.databases load) (by simp)
  have hdocument : ∀ server, ((Database.remote ctx.source.connection
      ctx.source.activeName).list server).1.document = server.document := by
    intro server
    simp only [Database.remote]
    split <;> rfl
  have hmake : Database.source.construct = some ∘ Database.ofRecord := rfl
  obtain ⟨b, horigin, hpasses⟩ := exists_passes hbase h (fun _ => rfl) (fun _ => rfl)
    (show ctx.source.site? none = some (ctx.source.databases.map Database.row) from rfl) hasked
    (Database.hasNone _ _) hmake (fun _ => rfl) (fun _ _ _ => DataSource.lists_databases)
    hdocument hreach hheard (ctx.isCancelled monitor)
  have hunfolds : ctx.source.Unfolds Eq none (ctx.runDatabases monitor load).1.source :=
    DataSource.unfolds_databases
      (develops_of_made Database.follows_refl Database.pristine_ofRecord hpasses.objects)
  have hadvances := DataSource.advances_of_unfolds hunfolds rfl rfl
    (fun db database hdatabase => ⟨database, getElem?_of_made hpasses.objects hdatabase, rfl⟩)
    (fun db schema owner howner => by
      obtain ⟨database, hdatabase, hschema⟩ := DataSource.schema?_eq_some_iff.1 howner
      exact ⟨owner, DataSource.schema?_eq_some_iff.2
        ⟨database, getElem?_of_made hpasses.objects hdatabase, hschema⟩, rfl⟩)
    (fun c hc hcomplete => by
      obtain rfl := Option.some.inj hc
      exact ⟨_, rfl, hpasses.stays hcomplete⟩)
  exact reads_of_passes h (fun _ => rfl) (fun _ => rfl) horigin hpasses hdocument rfl rfl rfl
    hunfolds hadvances hpasses.asked

/-- A job of a cache that does not exist fails. -/
theorem reads_nowhere {κ : Type} {load : Load κ} {f : Load κ → Job}
    (h : base.Reading heard reach fails ctx.source (before ++ [f load] ++ behind))
    (hnone : ctx.source.site? (f load).branch? = none) :
    Reads base heard reach fails before behind (fun load => [f load]) ctx
      (ctx.nowhere : Context × Poll (Load κ) Result) := by
  have hstart := h.absent (f load) (by simp) hnone
  have hleft := (h.leave (List.forall_mem_singleton.2 hstart)).mono (.inl : fails → fails ∨
    (ctx.nowhere : Context × Poll (Load κ) Result).2.Fails)
  rw [← List.append_nil before] at hleft
  exact ⟨hleft, .refl _, rfl⟩

theorem gathers_nowhere {κ : Type} (ctx : Context) (site : Site) :
    Gathers site (ctx.nowhere : Context × Poll (Load κ) Result) := by
  constructor
  · intro load hwaits
    cases hwaits
  · intro reply hends
    cases hends

theorem reads_runSchemas (hbase : ∀ site b, base.site? site = some b → b.Resting) {db : Ref}
    {load : Load Schema.Query}
    (h : base.Reading heard reach fails ctx.source (before ++ [.schemas db load] ++ behind))
    (hreach : reach (some (.schemas db))) (hheard : heard ctx.server.document)
    (monitor : Monitor) :
    Reads base heard reach fails before behind (fun load => [.schemas db load]) ctx
        (ctx.runSchemas monitor db load) ∧
      (load.Bulk → Gathers (some (.schemas db)) (ctx.runSchemas monitor db load)) := by
  cases hdatabase : ctx.source.database? db with
  | none =>
    have hruns : ctx.runSchemas monitor db load = ctx.nowhere := by rw [runSchemas, hdatabase]
    rw [hruns]
    exact ⟨reads_nowhere h (DataSource.site?_schemas_eq_none_iff.2 hdatabase), fun _ =>
      gathers_nowhere ctx _⟩
  | some database =>
    have hasked : load.Asked (Schema.remote database.name) :=
      (h.asks (.schemas db load) (by simp)).2 database hdatabase
    have hmake : (Schema.source database.name).construct = some ∘ Schema.ofRecord database.name :=
      rfl
    obtain ⟨b, horigin, hpasses⟩ := exists_passes hbase h (fun _ => rfl) (fun _ => rfl)
      (DataSource.site?_schemas hdatabase) hasked (Schema.hasNone _) hmake (fun _ => rfl)
      (fun _ _ _ => DataSource.lists_schemas hdatabase) (fun _ => rfl) hreach hheard
      (ctx.isCancelled monitor)
    let turn := load.run (Schema.source database.name) (Schema.remote database.name) ctx.server
      database.schemas (ctx.isCancelled monitor)
    have hruns : (ctx.runSchemas monitor db load).1.source = ctx.source.putSchemas db turn.cache ∧
        (ctx.runSchemas monitor db load).1.server = turn.world ∧
        (ctx.runSchemas monitor db load).2 = turn.poll := by
      simp only [runSchemas, hdatabase]
      exact ⟨rfl, rfl, rfl⟩
    obtain ⟨hsource, hserver, hpoll⟩ := hruns
    have hself : (ctx.runSchemas monitor db load).1.source.site? (some (.schemas db)) =
        some (turn.cache.map Schema.row) := by
      rw [hsource]
      exact DataSource.site?_putSchemas_self hdatabase turn.cache
    have hunfolds : ctx.source.Unfolds Eq (some (.schemas db))
        (ctx.runSchemas monitor db load).1.source := by
      rw [hsource]
      exact DataSource.unfolds_putSchemas (fun _ => rfl) hdatabase (develops_of_made
        Schema.follows_refl (Schema.pristine_ofRecord database.name) hpasses.objects)
    have hadvances : ctx.source.Advances (ctx.runSchemas monitor db load).1.source := by
      rw [hsource] at hunfolds ⊢
      exact DataSource.advances_putSchemas hunfolds hdatabase
        (fun _ _ => getElem?_of_made hpasses.objects) hpasses.stays
    refine reads_of_passes h (fun _ => rfl) (fun _ => rfl) horigin hpasses (fun _ => rfl) hserver
      hpoll hself hunfolds hadvances ?_
    intro load' hwaits
    refine ⟨(hpasses.asked load' hwaits).1, fun database' hdatabase' => ?_⟩
    rw [hsource, DataSource.database?_putSchemas_self hdatabase] at hdatabase'
    obtain rfl := Option.some.inj hdatabase'
    exact hpasses.asked load' hwaits

theorem reads_runTables (hbase : ∀ site b, base.site? site = some b → b.Resting) {db schema : Ref}
    {load : Load Table.Query}
    (h : base.Reading heard reach fails ctx.source (before ++ [.tables db schema load] ++ behind))
    (hreach : reach (some (.tables db schema))) (hheard : heard ctx.server.document)
    (monitor : Monitor) :
    Reads base heard reach fails before behind (fun load => [.tables db schema load]) ctx
        (ctx.runTables monitor db schema load) ∧
      (load.Bulk →
        Gathers (some (.tables db schema)) (ctx.runTables monitor db schema load)) := by
  cases howner : ctx.source.schema? db schema with
  | none =>
    have hruns : ctx.runTables monitor db schema load = ctx.nowhere := by rw [runTables, howner]
    rw [hruns]
    exact ⟨reads_nowhere h (DataSource.site?_tables_eq_none_iff.2 howner), fun _ =>
      gathers_nowhere ctx _⟩
  | some owner =>
    have hasked : load.Asked (Table.remote owner.database owner.name) :=
      (h.asks (.tables db schema load) (by simp)).2 owner howner
    have hmake : Table.source.construct = some ∘ Table.ofRecord := rfl
    obtain ⟨b, horigin, hpasses⟩ := exists_passes hbase h (fun _ => rfl) (fun _ => rfl)
      (DataSource.site?_tables howner) hasked (Table.hasNone _ _) hmake (fun _ => rfl)
      (fun _ _ _ => DataSource.lists_tables howner) (fun _ => rfl) hreach hheard
      (ctx.isCancelled monitor)
    let turn := load.run Table.source (Table.remote owner.database owner.name) ctx.server
      owner.tables (ctx.isCancelled monitor)
    have hruns :
        (ctx.runTables monitor db schema load).1.source =
            ctx.source.putTables db schema turn.cache ∧
          (ctx.runTables monitor db schema load).1.server = turn.world ∧
          (ctx.runTables monitor db schema load).2 = turn.poll := by
      simp only [runTables, howner]
      exact ⟨rfl, rfl, rfl⟩
    obtain ⟨hsource, hserver, hpoll⟩ := hruns
    have hself : (ctx.runTables monitor db schema load).1.source.site?
        (some (.tables db schema)) = some (turn.cache.map Table.row) := by
      rw [hsource]
      exact DataSource.site?_putTables_self howner turn.cache
    have hunfolds : ctx.source.Unfolds Eq (some (.tables db schema))
        (ctx.runTables monitor db schema load).1.source := by
      rw [hsource]
      exact DataSource.unfolds_putTables (fun _ => rfl) howner turn.cache
    have hadvances : ctx.source.Advances (ctx.runTables monitor db schema load).1.source := by
      rw [hsource]
      exact DataSource.advances_putTables howner hpasses.stays
    refine reads_of_passes h (fun _ => rfl) (fun _ => rfl) horigin hpasses (fun _ => rfl) hserver
      hpoll hself hunfolds hadvances ?_
    intro load' hwaits
    refine ⟨(hpasses.asked load' hwaits).1, fun owner' howner' => ?_⟩
    rw [hsource, DataSource.schema?_putTables_self howner] at howner'
    obtain rfl := Option.some.inj howner'
    exact hpasses.asked load' hwaits

/-- What a reader that is dropped makes of a data source. -/
structure Forgoes (base : DataSource) (heard : Document → Prop) (reach : Site → Prop)
    (jobs : List Job) (ctx ctx' : Context) : Prop where
  reading : base.Reading heard reach True ctx'.source jobs
  advances : ctx.source.Advances ctx'.source
  server : ctx'.server = ctx.server

/-- A job is dropped. -/
theorem forgoes_abandon (hbase : ∀ site b, base.site? site = some b → b.Resting) {job : Job}
    (h : base.Reading heard reach fails ctx.source (before ++ [job] ++ behind)) :
    Forgoes base heard reach (before ++ behind) ctx (job.abandon ctx) := by
  -- a job whose cache does not exist has not begun, and just goes away
  have hnowhere : ctx.source.site? job.branch? = none →
      base.Reading heard reach True ctx.source (before ++ behind) := fun hnone =>
    (h.leave (List.forall_mem_singleton.2 (h.absent job (by simp) hnone))).mono fun _ => trivial
  cases job with
  | databases load =>
    have hasked : load.Asked _ := h.asks (.databases load) (by simp)
    have hobjects := Cache.objects_abandon ctx.source.databases load.stage
    have hunfolds : ctx.source.Unfolds Eq none (ctx.abandonDatabases load).source :=
      DataSource.unfolds_databases (hobjects ▸ Cache.develops_refl Database.follows_refl _)
    have hadvances : ctx.source.Advances (ctx.abandonDatabases load).source := by
      refine DataSource.advances_of_unfolds hunfolds rfl rfl (fun db database hdatabase => ?_)
        (fun db schema owner howner => ?_) fun c hc _ => ?_
      · exact ⟨database, (congrArg (·[db]?) hobjects).trans hdatabase, rfl⟩
      · obtain ⟨database, hdatabase, hschema⟩ := DataSource.schema?_eq_some_iff.1 howner
        exact ⟨owner, DataSource.schema?_eq_some_iff.2
          ⟨database, (congrArg (·[db]?) hobjects).trans hdatabase, hschema⟩, rfl⟩
      · obtain rfl := Option.some.inj hc
        exact ⟨_, rfl, Cache.snapshot_abandon ctx.source.databases load.stage⟩
    have hsite : ctx.source.site? none = some (ctx.source.databases.map Database.row) := rfl
    exact ⟨h.abandoned hbase (fun _ => rfl) (fun _ => rfl) hasked.1 hsite rfl hunfolds hadvances,
      hadvances, rfl⟩
  | schemas db load =>
    have hplain : load.Plain := (h.asks (.schemas db load) (by simp)).1
    cases hdatabase : ctx.source.database? db with
    | none =>
      rw [Job.abandon, abandonSchemas, hdatabase]
      exact ⟨hnowhere (DataSource.site?_schemas_eq_none_iff.2 hdatabase), .refl _, rfl⟩
    | some database =>
      rw [Job.abandon, abandonSchemas, hdatabase]
      have hobjects := Cache.objects_abandon database.schemas load.stage
      have hunfolds : ctx.source.Unfolds Eq (some (.schemas db))
          (ctx.source.putSchemas db (database.schemas.abandon load.stage)) :=
        DataSource.unfolds_putSchemas (fun _ => rfl) hdatabase
          (hobjects ▸ Cache.develops_refl Schema.follows_refl _)
      have hadvances := DataSource.advances_putSchemas hunfolds hdatabase
        (fun schema owner howner => (congrArg (·[schema]?) hobjects).trans howner)
        fun _ => Cache.snapshot_abandon database.schemas load.stage
      exact ⟨h.abandoned hbase (fun _ => rfl) (fun _ => rfl) hplain
        (DataSource.site?_schemas hdatabase) (DataSource.site?_putSchemas_self hdatabase _)
        hunfolds hadvances, hadvances, rfl⟩
  | tables db schema load =>
    have hplain : load.Plain := (h.asks (.tables db schema load) (by simp)).1
    cases howner : ctx.source.schema? db schema with
    | none =>
      rw [Job.abandon, abandonTables, howner]
      exact ⟨hnowhere (DataSource.site?_tables_eq_none_iff.2 howner), .refl _, rfl⟩
    | some owner =>
      rw [Job.abandon, abandonTables, howner]
      have hadvances : ctx.source.Advances
          (ctx.source.putTables db schema (owner.tables.abandon load.stage)) :=
        DataSource.advances_putTables howner fun _ =>
          Cache.snapshot_abandon owner.tables load.stage
      exact ⟨h.abandoned hbase (fun _ => rfl) (fun _ => rfl) hplain
        (DataSource.site?_tables howner) (DataSource.site?_putTables_self howner _)
        (DataSource.unfolds_putTables (fun _ => rfl) howner _) hadvances, hadvances, rfl⟩

end Context

end CatalogBrowser
