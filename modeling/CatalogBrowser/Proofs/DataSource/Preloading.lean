import CatalogBrowser.DataSource.Preload
import CatalogBrowser.Proofs.DataSource.Reader
import CatalogBrowser.Proofs.DataSource.Walk

/-!
# Walks over the tree

A walk loads a cache and then all caches below it, down to a depth. Whoever else reads the tree
meanwhile, it goes on until one of its loads fails, or all that it came for is loaded.

## Main definitions

* `DataSource.LoadedTo`, `DataSource.LoadedBelow` - all caches are loaded down to a depth.
* `DatabaseWalk.Heads`, `SchemaWalk.Heads` - what a walk has yet to load is ahead of it.
* `Context.Walks` - a turn of a walk.

## Main statements

* `Context.SideBySide.walks` - siblings that each go for a part go for the whole.
* `Context.walks_walkDatabases`, `Context.walks_walkSchemas` - a walk that ends has loaded all.
* `Context.forgoes_abandonDatabaseWalk` - a walk that is dropped.
-/

namespace CatalogBrowser

open Cache (Load)

namespace DataSource

/-- The cache at a site is loaded. -/
def Full (ds : DataSource) (site : Site) : Prop :=
  ∃ c, ds.site? site = some c ∧ c.snapshot.complete = true

/-- What the cache at a site holds. -/
def members (ds : DataSource) (site : Site) : List Ref :=
  ((ds.site? site).map (·.snapshot.entries)).getD []

/-- Everything below a database is loaded, down to a depth. -/
structure LoadedBelow (ds : DataSource) (db : Ref) (depth : Nat) : Prop where
  schemas : 1 ≤ depth → ds.Full (some (.schemas db))
  tables : 2 ≤ depth → ∀ schema ∈ ds.members (some (.schemas db)),
    ds.Full (some (.tables db schema))

/-- Everything is loaded, down to a depth: the databases, the schemas of every cached database, and
the tables of every cached schema. -/
structure LoadedTo (ds : DataSource) (depth : Nat) : Prop where
  databases : 1 ≤ depth → ds.Full none
  schemas : 2 ≤ depth → ∀ db ∈ ds.members none, ds.Full (some (.schemas db))
  tables : 3 ≤ depth → ∀ db ∈ ds.members none, ∀ schema ∈ ds.members (some (.schemas db)),
    ds.Full (some (.tables db schema))

variable {ds ds' : DataSource} {site : Site} {db : Ref} {depth : Nat}

theorem loadedTo_succ (hfull : ds.Full none)
    (hbelow : ∀ db ∈ ds.members none, ds.LoadedBelow db depth) : ds.LoadedTo (depth + 1) where
  databases _ := hfull
  schemas hle db hdb := (hbelow db hdb).schemas (by omega)
  tables hle db hdb := (hbelow db hdb).tables (by omega)

theorem Replies.full {reply : Cache.Reply} (h : ds.Replies site reply) :
    ds.Full site ∧ reply.refs = ds.members site := by
  obtain ⟨c, hc, hcomplete, rfl⟩ := h
  exact ⟨⟨c, hc, hcomplete⟩, by rw [members, hc]; rfl⟩

theorem Advances.full (h : ds.Advances ds') (hfull : ds.Full site) : ds'.Full site := by
  obtain ⟨c, hc, hcomplete⟩ := hfull
  obtain ⟨c', hc', hsnapshot⟩ := h.loaded site c hc hcomplete
  exact ⟨c', hc', hsnapshot ▸ hcomplete⟩

/-- What is loaded holds the same later. -/
theorem Advances.members (h : ds.Advances ds') (hfull : ds.Full site) :
    ds'.members site = ds.members site := by
  obtain ⟨c, hc, hcomplete⟩ := hfull
  obtain ⟨c', hc', hsnapshot⟩ := h.loaded site c hc hcomplete
  rw [DataSource.members, DataSource.members, hc, hc', Option.map_some, Option.map_some, hsnapshot]

theorem Advances.loadedBelow (h : ds.Advances ds') (hbelow : ds.LoadedBelow db depth) :
    ds'.LoadedBelow db depth where
  schemas hle := h.full (hbelow.schemas hle)
  tables hle := by
    rw [h.members (hbelow.schemas (by omega))]
    exact fun schema hschema => h.full (hbelow.tables hle schema hschema)

theorem Advances.loadedTo (h : ds.Advances ds') (hloaded : ds.LoadedTo depth) :
    ds'.LoadedTo depth where
  databases hle := h.full (hloaded.databases hle)
  schemas hle := by
    rw [h.members (hloaded.databases (by omega))]
    exact fun db hdb => h.full (hloaded.schemas hle db hdb)
  tables hle := by
    rw [h.members (hloaded.databases (by omega))]
    intro db hdb
    rw [h.members (hloaded.schemas (by omega) db hdb)]
    exact fun schema hschema => h.full (hloaded.tables hle db hdb schema hschema)

end DataSource

/-- The caches below a database are in reach, down to a depth. -/
structure ReachesBelow (reach : Site → Prop) (db : Ref) (depth : Nat) : Prop where
  schemas : 1 ≤ depth → reach (some (.schemas db))
  tables : 2 ≤ depth → ∀ schema, reach (some (.tables db schema))

/-- All caches are in reach, down to a depth. -/
structure ReachesTo (reach : Site → Prop) (depth : Nat) : Prop where
  databases : 1 ≤ depth → reach none
  below : ∀ db, ReachesBelow reach db (depth - 1)

/-- What a walk into a database has yet to load is ahead of it. -/
def SchemaWalk.Heads (ds : DataSource) (db : Ref) (depth : Nat) : SchemaWalk → Prop
  | .loading ahead load => ahead = depth ∧ load.Bulk ∧ (depth = 0 → load.stage = .start)
  | .descending walks => 2 ≤ depth ∧ ds.Full (some (.schemas db)) ∧
    (∀ walk ∈ walks, walk.load.Bulk) ∧
    ∀ schema ∈ ds.members (some (.schemas db)),
      (∃ walk ∈ walks, walk.schema = schema) ∨ ds.Full (some (.tables db schema))

/-- What a walk over the databases has yet to load is ahead of it. -/
def DatabaseWalk.Heads (ds : DataSource) (depth : Nat) : DatabaseWalk → Prop
  | .loading ahead load => ahead = depth ∧ load.Bulk ∧ (depth = 0 → load.stage = .start)
  | .descending branches => 2 ≤ depth ∧ ds.Full none ∧
    (∀ branch ∈ branches, branch.walk.Heads ds branch.db (depth - 1)) ∧
    ∀ db ∈ ds.members none,
      (∃ branch ∈ branches, branch.db = db) ∨ ds.LoadedBelow db (depth - 1)

theorem DataSource.Advances.schemaWalk {ds ds' : DataSource} (h : ds.Advances ds') {db : Ref}
    {depth : Nat} {walk : SchemaWalk} (hheads : walk.Heads ds db depth) :
    walk.Heads ds' db depth := by
  cases walk with
  | loading => exact hheads
  | descending walks =>
    obtain ⟨hdepth, hfull, hbulk, hahead⟩ := hheads
    refine ⟨hdepth, h.full hfull, hbulk, ?_⟩
    rw [h.members hfull]
    exact fun schema hschema => (hahead schema hschema).imp_right h.full

theorem DataSource.Advances.databaseWalk {ds ds' : DataSource} (h : ds.Advances ds') {depth : Nat}
    {walk : DatabaseWalk} (hheads : walk.Heads ds depth) : walk.Heads ds' depth := by
  cases walk with
  | loading => exact hheads
  | descending branches =>
    obtain ⟨hdepth, hfull, hbranches, hahead⟩ := hheads
    refine ⟨hdepth, h.full hfull, fun branch hbranch => h.schemaWalk (hbranches branch hbranch), ?_⟩
    rw [h.members hfull]
    exact fun db hdb => (hahead db hdb).imp_right h.loadedBelow

namespace Context

variable {base : DataSource} {heard : Document → Prop} {reach : Site → Prop} {fails : Prop}
  {before behind : List Job} {ctx : Context}

section Reads

variable {σ β : Type} {f : σ → List Job} {ctx' : Context}

/-- A reader that waits has not failed. -/
theorem Reads.waits {state : σ} (h : Reads base heard reach fails before behind f ctx
    (ctx', (.waiting state : Poll σ (Except CacheError β)))) :
    base.Reading heard reach fails ctx'.source (before ++ f state ++ behind) := by
  exact h.reading.mono fun hfails => hfails.resolve_right (Poll.not_fails_waiting state)

/-- A reader that succeeds has not failed. -/
theorem Reads.ended {result : β} (h : Reads base heard reach fails before behind f ctx
    (ctx', (.finished (.ok result) : Poll σ (Except CacheError β)))) :
    base.Reading heard reach fails ctx'.source (before ++ behind) := by
  have hreading := h.reading
  rw [Poll.jobs, List.append_nil] at hreading
  exact hreading.mono fun hfails => hfails.resolve_right (Poll.not_fails_ok result)

end Reads

/-- A turn of a walk: it waits with the rest ahead of it, or ends with what it came for. -/
structure Walks {σ : Type} (base : DataSource) (heard : Document → Prop) (reach : Site → Prop)
    (fails : Prop) (before behind : List Job) (f : σ → List Job) (Heads : DataSource → σ → Prop)
    (Done : DataSource → Prop) (ctx : Context) (out : Context × Poll σ WalkResult) : Prop
    extends Reads base heard reach fails before behind f ctx out where
  heads : ∀ state, out.2 = .waiting state → Heads out.1.source state
  done : out.2 = .finished (.ok ()) → Done out.1.source

section Siblings

variable {σ τ : Type} {run : Context → τ → Context × Poll τ WalkResult}
  {abandon : Context → τ → Context} {g : τ → List Job} {key : τ → Ref}
  {Heads : DataSource → τ → Prop} {Done : DataSource → Ref → Prop}

/-- Walks that may run side by side, each into an object of its own. -/
structure SideBySide (base : DataSource) (heard : Document → Prop) (reach : Site → Prop)
    (run : Context → τ → Context × Poll τ WalkResult) (abandon : Context → τ → Context)
    (g : τ → List Job) (key : τ → Ref) (Heads : DataSource → τ → Prop)
    (Done : DataSource → Ref → Prop) : Prop where
  runs : ∀ {fails : Prop} {before behind : List Job} {ctx : Context} {task : τ},
    base.Reading heard reach fails ctx.source (before ++ g task ++ behind) →
    heard ctx.server.document → Heads ctx.source task →
    Walks base heard reach fails before behind g
      (fun ds left => Heads ds left ∧ key left = key task) (Done · (key task)) ctx (run ctx task)
  abandons : ∀ {fails : Prop} {before behind : List Job} {ctx : Context} {task : τ},
    base.Reading heard reach fails ctx.source (before ++ g task ++ behind) →
    Forgoes base heard reach (before ++ behind) ctx (abandon ctx task)
  heads : ∀ {ds ds' : DataSource} {task : τ}, ds.Advances ds' → Heads ds task → Heads ds' task
  done : ∀ {ds ds' : DataSource} {ref : Ref}, ds.Advances ds' → Done ds ref → Done ds' ref

/-- What runs of siblings leave behind. -/
structure RunsEach (base : DataSource) (heard : Document → Prop) (reach : Site → Prop)
    (fails : Prop) (before behind : List Job) (g : τ → List Job) (key : τ → Ref)
    (Heads : DataSource → τ → Prop) (Done : DataSource → Ref → Prop) (tasks : List τ)
    (ctx : Context) (out : Context × List τ × Option CacheError) : Prop where
  reading : base.Reading heard reach (fails ∨ out.2.2 ≠ none) out.1.source
    (before ++ out.2.1.flatMap g ++ behind)
  advances : ctx.source.Advances out.1.source
  document : out.1.server.document = ctx.server.document
  heads : ∀ task ∈ out.2.1, Heads out.1.source task
  done : out.2.2 = none → ∀ task ∈ tasks,
    (∃ left ∈ out.2.1, key left = key task) ∨ Done out.1.source (key task)

theorem flatMap_cons_place (g : τ → List Job) (task : τ) (rest : List τ)
    (before behind : List Job) : before ++ (task :: rest).flatMap g ++ behind =
      before ++ g task ++ (rest.flatMap g ++ behind) := by
  simp only [List.flatMap_cons, List.append_assoc]

/-- Siblings run in turn. Those that wait are left. -/
theorem SideBySide.runsEach (hside : SideBySide base heard reach run abandon g key Heads Done)
    {tasks : List τ}
    (h : base.Reading heard reach fails ctx.source (before ++ tasks.flatMap g ++ behind))
    (hheard : heard ctx.server.document) (htasks : ∀ task ∈ tasks, Heads ctx.source task) :
    RunsEach base heard reach fails before behind g key Heads Done tasks ctx
      (runEach run ctx tasks) := by
  -- each task runs with the jobs of those that wait in front of it and of the rest behind it
  induction tasks generalizing ctx fails before with
  | nil =>
    refine ⟨h.mono .inl, .refl _, rfl, ?_, ?_⟩
    · intro task htask
      cases htask
    · intro _ task htask
      cases htask
  | cons task rest ih =>
    obtain ⟨htask, hrest⟩ := List.forall_mem_cons.1 htasks
    rw [flatMap_cons_place] at h
    have hfirst := hside.runs h hheard htask
    rw [runEach]
    generalize run ctx task = out at hfirst
    obtain ⟨ctx', left | (error | ⟨⟩)⟩ := out
    · have hreading := hfirst.waits
      rw [← List.append_assoc] at hreading
      have hlater := ih hreading (hfirst.document.symm ▸ hheard) fun task htask =>
        hside.heads hfirst.advances (hrest task htask)
      dsimp only
      generalize runEach run ctx' rest = out at hlater
      obtain ⟨ctx'', others, failure⟩ := out
      obtain ⟨hleft, hkey⟩ := hfirst.heads left rfl
      refine ⟨?_, hfirst.advances.trans hlater.advances,
        hlater.document.trans hfirst.document, ?_, ?_⟩
      · rw [flatMap_cons_place, ← List.append_assoc]
        exact hlater.reading
      · exact List.forall_mem_cons.2 ⟨hside.heads hlater.advances hleft, hlater.heads⟩
      · intro hnone
        refine List.forall_mem_cons.2 ⟨.inl ⟨left, List.mem_cons_self, hkey⟩, ?_⟩
        intro other hother
        rcases hlater.done hnone other hother with ⟨waits, hwaits, hsame⟩ | hloaded
        · exact .inl ⟨waits, List.mem_cons_of_mem _ hwaits, hsame⟩
        · exact .inr hloaded
    · have hreading := hfirst.reading
      rw [Poll.jobs, List.append_nil, ← List.append_assoc] at hreading
      refine ⟨hreading.mono (Or.imp_right fun _ => Option.some_ne_none error), hfirst.advances,
        hfirst.document, fun other hother => ?_, fun hnone => ?_⟩
      · exact hside.heads hfirst.advances (hrest other hother)
      · cases hnone
    · have hreading := hfirst.ended
      rw [← List.append_assoc] at hreading
      have hlater := ih hreading (hfirst.document.symm ▸ hheard) fun task htask =>
        hside.heads hfirst.advances (hrest task htask)
      refine ⟨hlater.reading, hfirst.advances.trans hlater.advances,
        hlater.document.trans hfirst.document, hlater.heads, fun hnone => ?_⟩
      refine List.forall_mem_cons.2 ⟨.inr ?_, hlater.done hnone⟩
      exact hside.done hlater.advances (hfirst.done rfl)

/-- Siblings are dropped, one after the other. -/
theorem forgoes_foldl
    (habandon : ∀ {fails : Prop} {before behind : List Job} {ctx : Context} {task : τ},
      base.Reading heard reach fails ctx.source (before ++ g task ++ behind) →
      Forgoes base heard reach (before ++ behind) ctx (abandon ctx task))
    {tasks : List τ}
    (h : base.Reading heard reach fails ctx.source (before ++ tasks.flatMap g ++ behind)) :
    Forgoes base heard reach (before ++ behind) ctx (tasks.foldl abandon ctx) := by
  induction tasks generalizing ctx fails with
  | nil =>
    rw [List.flatMap_nil, List.append_nil] at h
    exact ⟨h.mono fun _ => trivial, .refl _, rfl⟩
  | cons task rest ih =>
    rw [flatMap_cons_place] at h
    have hfirst : Forgoes base heard reach _ ctx (abandon ctx task) := habandon h
    have hreading := hfirst.reading
    rw [← List.append_assoc] at hreading
    have hlater := ih hreading
    exact ⟨hlater.reading, hfirst.advances.trans hlater.advances,
      hlater.server.trans hfirst.server⟩

/-- Siblings that each go for a part go for the whole. -/
theorem SideBySide.walks (hside : SideBySide base heard reach run abandon g key Heads Done)
    {f : σ → List Job} {state : List τ → σ} {Heads' : DataSource → σ → Prop}
    {Done' : DataSource → Prop} (hstate : ∀ tasks, f (state tasks) = tasks.flatMap g)
    {tasks : List τ}
    (h : base.Reading heard reach fails ctx.source (before ++ tasks.flatMap g ++ behind))
    (hheard : heard ctx.server.document) (htasks : ∀ task ∈ tasks, Heads ctx.source task)
    (hwaits : ∀ ds left, ctx.source.Advances ds → (∀ task ∈ left, Heads ds task) →
      (∀ task ∈ tasks, (∃ other ∈ left, key other = key task) ∨ Done ds (key task)) →
      Heads' ds (state left))
    (hends : ∀ ds, ctx.source.Advances ds → (∀ task ∈ tasks, Done ds (key task)) → Done' ds) :
    Walks base heard reach fails before behind f Heads' Done' ctx
      (ctx.runSiblings run abandon state tasks) := by
  have hruns := hside.runsEach h hheard htasks
  rw [runSiblings]
  generalize runEach run ctx tasks = out at hruns
  obtain ⟨ctx', left, _ | error⟩ := out
  · cases left with
    | nil =>
      refine ⟨⟨?_, hruns.advances, hruns.document⟩, fun _ hleft => ?_, fun _ => ?_⟩
      · exact hruns.reading.mono (Or.imp_right fun hfailure => absurd rfl hfailure)
      · cases hleft
      · refine hends _ hruns.advances fun task htask => ?_
        rcases hruns.done rfl task htask with ⟨_, hother, -⟩ | hloaded
        · cases hother
        · exact hloaded
    | cons task rest =>
      refine ⟨⟨?_, hruns.advances, hruns.document⟩, fun left hleft => ?_, fun hend => ?_⟩
      · rw [Poll.jobs, hstate]
        exact hruns.reading.mono (Or.imp_right fun hfailure => absurd rfl hfailure)
      · obtain rfl := Poll.waiting.inj hleft
        exact hwaits _ _ hruns.advances hruns.heads (hruns.done rfl)
      · cases hend
  -- the first failure drops whoever is left
  · have hforgoes : Forgoes base heard reach _ ctx' (left.foldl abandon ctx') :=
      forgoes_foldl hside.abandons hruns.reading
    refine ⟨⟨?_, hruns.advances.trans hforgoes.advances, ?_⟩, fun _ hleft => ?_, fun hend => ?_⟩
    · rw [Poll.jobs, List.append_nil]
      exact hforgoes.reading.mono fun _ => .inr ⟨error, rfl⟩
    · exact (congrArg Server.document hforgoes.server).trans hruns.document
    · cases hleft
    · cases hend

end Siblings

section Walks

variable {σ τ : Type} {f : σ → List Job} {Heads : DataSource → σ → Prop}
  {Done : DataSource → Prop} {db : Ref} {depth : Nat}

/-- A turn comes after something else. -/
theorem Walks.after {ctx' : Context} {out : Context × Poll σ WalkResult}
    (hadvances : ctx.source.Advances ctx'.source)
    (hdocument : ctx'.server.document = ctx.server.document)
    (h : Walks base heard reach fails before behind f Heads Done ctx' out) :
    Walks base heard reach fails before behind f Heads Done ctx out :=
  ⟨⟨h.reading, hadvances.trans h.advances, h.document.trans hdocument⟩, h.heads, h.done⟩

/-- A walk ends where it is. -/
theorem walks_ended (h : base.Reading heard reach fails ctx.source (before ++ behind))
    (hdone : Done ctx.source) :
    Walks base heard reach fails before behind f Heads Done ctx (ctx, .finished (.ok ())) := by
  refine ⟨⟨?_, .refl _, rfl⟩, fun _ hleft => ?_, fun _ => hdone⟩
  · rw [Poll.jobs, List.append_nil]
    exact h.mono .inl
  · cases hleft

/-- A walk goes on where a part of it ended, and fails where a part of it fails. -/
theorem walks_andThen {g : τ → List Job} {β : Type} {first : Context × Poll τ (Except CacheError β)}
    {lift : τ → σ} {next : Context → Except CacheError β → Context × Poll σ WalkResult}
    (h : Reads base heard reach fails before behind g ctx first)
    (hjobs : ∀ state, f (lift state) = g state)
    (hfails : ∀ ctx' error, next ctx' (.error error) = (ctx', .finished (.error error)))
    (hheads : ∀ state, first.2 = .waiting state → Heads first.1.source (lift state))
    (hnext : ∀ result, first.2 = .finished (.ok result) →
      base.Reading heard reach fails first.1.source (before ++ behind) →
      Walks base heard reach fails before behind f Heads Done first.1
        (next first.1 (.ok result))) :
    Walks base heard reach fails before behind f Heads Done ctx (Poll.andThen first lift next) := by
  obtain ⟨ctx', state | (error | result)⟩ := first
  · refine ⟨⟨?_, h.advances, h.document⟩, fun left hleft => ?_, fun hend => ?_⟩
    · rw [Poll.andThen, Poll.jobs, hjobs]
      exact h.waits.mono .inl
    · obtain rfl := Poll.waiting.inj hleft
      exact hheads state rfl
    · cases hend
  · rw [Poll.andThen, hfails]
    refine ⟨⟨?_, h.advances, h.document⟩, fun _ hleft => ?_, fun hend => ?_⟩
    · exact h.reading.mono (Or.imp_right fun _ => ⟨error, rfl⟩)
    · cases hleft
    · cases hend
  · exact (hnext result rfl h.ended).after h.advances h.document

variable (hbase : ∀ site b, base.site? site = some b → b.Resting)
include hbase

theorem walks_walkTables {walk : TableWalk}
    (h : base.Reading heard reach fails ctx.source (before ++ walk.jobs db ++ behind))
    (hreach : reach (some (.tables db walk.schema))) (hheard : heard ctx.server.document)
    (hbulk : walk.load.Bulk) (monitor : Monitor) :
    Walks base heard reach fails before behind (TableWalk.jobs db)
      (fun _ left => left.load.Bulk ∧ left.schema = walk.schema)
      (·.Full (some (.tables db walk.schema))) ctx
      (ctx.walkTables monitor db walk) := by
  obtain ⟨hreads, hgathers⟩ := reads_runTables hbase h hreach hheard monitor
  rw [walkTables_eq]
  refine walks_andThen hreads (fun _ => rfl) (fun _ _ => rfl) (fun load hwaits => ?_)
    fun reply hends hended => ?_
  · exact ⟨(hgathers hbulk).waits load hwaits, rfl⟩
  · exact walks_ended hended ((hgathers hbulk).replies reply hends).full.1

/-- A walk goes on below the schemas. -/
theorem walks_walkEachSchema {walks : List TableWalk}
    (h : base.Reading heard reach fails ctx.source
      (before ++ walks.flatMap (TableWalk.jobs db) ++ behind))
    (hreach : ReachesBelow reach db depth) (hheard : heard ctx.server.document)
    (hheads : (SchemaWalk.descending walks).Heads ctx.source db depth) (monitor : Monitor) :
    Walks base heard reach fails before behind (SchemaWalk.jobs db)
      (fun ds walk => walk.Heads ds db depth) (·.LoadedBelow db depth) ctx
      (ctx.walkEachSchema monitor db walks) := by
  obtain ⟨hdepth, hfull, hbulks, hahead⟩ := hheads
  have hside : SideBySide base heard reach (walkTables monitor db) (abandonTableWalk db)
      (TableWalk.jobs db) (·.schema) (fun _ walk => walk.load.Bulk)
      (fun ds schema => ds.Full (some (.tables db schema))) := by
    refine ⟨fun {_ _ _ _ walk} h hheard hbulk => ?_, fun {_ _ _ _ walk} h => ?_, fun _ => id,
      fun hadvances => hadvances.full⟩
    · exact walks_walkTables hbase h (hreach.tables hdepth walk.schema) hheard hbulk monitor
    · rw [TableWalk.jobs] at h
      exact forgoes_abandon hbase h
  -- the schemas are loaded, so those that are cached later are the ones that the walk has met
  have hloaded : ∀ {ds} {P : Ref → Prop}, ctx.source.Advances ds →
      (∀ walk ∈ walks, P walk.schema ∨ ds.Full (some (.tables db walk.schema))) →
      ∀ schema ∈ ds.members (some (.schemas db)),
        P schema ∨ ds.Full (some (.tables db schema)) := by
    intro ds P hadvances hdone schema hschema
    rw [hadvances.members hfull] at hschema
    rcases hahead schema hschema with ⟨walk, hwalk, rfl⟩ | hbefore
    · exact hdone walk hwalk
    · exact .inr (hadvances.full hbefore)
  rw [walkEachSchema]
  refine hside.walks (f := SchemaWalk.jobs db) (fun _ => rfl) h hheard hbulks ?_ ?_
  · intro ds left hadvances hleft hdone
    exact ⟨hdepth, hadvances.full hfull, hleft, hloaded hadvances hdone⟩
  · intro ds hadvances hdone
    have hall := hloaded (P := fun _ => False) hadvances fun walk hwalk => .inr (hdone walk hwalk)
    exact ⟨fun _ => hadvances.full hfull, fun _ schema hschema =>
      (hall schema hschema).resolve_left id⟩

/-- The schemas are loaded, and the walk goes on below them. -/
theorem walks_followSchemas {reply : Cache.Reply}
    (h : base.Reading heard reach fails ctx.source (before ++ behind))
    (hreach : ReachesBelow reach db (depth + 1)) (hheard : heard ctx.server.document)
    (hreplies : ctx.source.Replies (some (.schemas db)) reply) (monitor : Monitor) :
    Walks base heard reach fails before behind (SchemaWalk.jobs db)
      (fun ds walk => walk.Heads ds db (depth + 1)) (·.LoadedBelow db (depth + 1)) ctx
      (followSchemas monitor db depth ctx (.ok reply)) := by
  obtain ⟨hfull, hrefs⟩ := hreplies.full
  rw [followSchemas]
  split
  next hzero =>
    subst hzero
    exact walks_ended h ⟨fun _ => hfull, fun hdepth => by omega⟩
  next hdepth =>
    refine walks_walkEachSchema hbase (h.begin fun job hjob => ?_) hreach hheard
      ⟨by omega, hfull, fun walk hwalk => ?_, fun schema hschema => .inl ?_⟩ monitor
    · obtain ⟨walk, hwalk, hjob⟩ := List.mem_flatMap.1 hjob
      obtain ⟨schema, -, rfl⟩ := List.mem_map.1 hwalk
      obtain rfl := List.mem_singleton.1 hjob
      exact ⟨rfl, .inl .unrun, fun _ _ => DataSource.asked_unrun _⟩
    · obtain ⟨schema, -, rfl⟩ := List.mem_map.1 hwalk
      exact .unrun
    · rw [hrefs]
      exact ⟨_, List.mem_map_of_mem hschema, rfl⟩

/-- A walk into a database that ends has loaded all that is below it. -/
theorem walks_walkSchemas {walk : SchemaWalk}
    (h : base.Reading heard reach fails ctx.source (before ++ walk.jobs db ++ behind))
    (hreach : ReachesBelow reach db depth) (hheard : heard ctx.server.document)
    (hheads : walk.Heads ctx.source db depth) (monitor : Monitor) :
    Walks base heard reach fails before behind (SchemaWalk.jobs db)
      (fun ds walk => walk.Heads ds db depth) (·.LoadedBelow db depth) ctx
      (ctx.walkSchemas monitor db walk) := by
  cases walk with
  | descending walks => exact walks_walkEachSchema hbase h hreach hheard hheads monitor
  | loading ahead load =>
    obtain ⟨rfl, hbulk, hstart⟩ := hheads
    cases ahead with
    | zero =>
      refine walks_ended (h.leave (List.forall_mem_singleton.2 (hstart rfl))) ⟨?_, ?_⟩
      all_goals
        intro hdepth
        omega
    | succ depth =>
      obtain ⟨hreads, hgathers⟩ :=
        reads_runSchemas hbase h (hreach.schemas (Nat.le_add_left 1 depth)) hheard monitor
      rw [walkSchemas_succ]
      refine walks_andThen hreads (fun _ => rfl) (fun _ _ => rfl) (fun load hwaits => ?_)
        fun reply hends hended => ?_
      · refine ⟨rfl, (hgathers hbulk).waits load hwaits, fun hzero => ?_⟩
        cases hzero
      · exact walks_followSchemas hbase hended hreach (hreads.document.symm ▸ hheard)
          ((hgathers hbulk).replies reply hends) monitor

/-- A walk into a database is dropped. -/
theorem forgoes_abandonSchemaWalk {walk : SchemaWalk}
    (h : base.Reading heard reach fails ctx.source (before ++ walk.jobs db ++ behind)) :
    Forgoes base heard reach (before ++ behind) ctx (abandonSchemaWalk db ctx walk) := by
  cases walk with
  | loading ahead load => exact forgoes_abandon hbase h
  | descending walks =>
    refine forgoes_foldl (fun {_ _ _ _ walk} h => ?_) h
    rw [TableWalk.jobs] at h
    exact forgoes_abandon hbase h

/-- A walk goes on below the databases. -/
theorem walks_walkEachDatabase {branches : List DatabaseBranch}
    (h : base.Reading heard reach fails ctx.source
      (before ++ branches.flatMap DatabaseBranch.jobs ++ behind))
    (hreach : ReachesTo reach depth) (hheard : heard ctx.server.document)
    (hheads : (DatabaseWalk.descending branches).Heads ctx.source depth) (monitor : Monitor) :
    Walks base heard reach fails before behind DatabaseWalk.jobs
      (fun ds walk => walk.Heads ds depth) (·.LoadedTo depth) ctx
      (ctx.walkEachDatabase monitor branches) := by
  obtain ⟨hdepth, hfull, hbranches, hahead⟩ := hheads
  have hside : SideBySide base heard reach (walkBranch monitor) abandonBranch DatabaseBranch.jobs
      (·.db) (fun ds branch => branch.walk.Heads ds branch.db (depth - 1))
      (fun ds db => ds.LoadedBelow db (depth - 1)) := by
    refine ⟨fun {_ _ _ ctx branch} h hheard hheads => ?_, fun {_ _ _ _ branch} h => ?_,
      fun hadvances => hadvances.schemaWalk, fun hadvances => hadvances.loadedBelow⟩
    · have hwalks := walks_walkSchemas hbase h (hreach.below branch.db) hheard hheads monitor
      rw [walkBranch_eq]
      refine walks_andThen hwalks.toReads (fun _ => rfl) (fun _ _ => rfl) (fun walk hwaits => ?_)
        fun _ hends hended => ?_
      · exact ⟨hwalks.heads walk hwaits, rfl⟩
      · exact walks_ended hended (hwalks.done hends)
    · exact forgoes_abandonSchemaWalk hbase h
  have hloaded : ∀ {ds} {P : Ref → Prop}, ctx.source.Advances ds →
      (∀ branch ∈ branches, P branch.db ∨ ds.LoadedBelow branch.db (depth - 1)) →
      ∀ db ∈ ds.members none, P db ∨ ds.LoadedBelow db (depth - 1) := by
    intro ds P hadvances hdone db hdb
    rw [hadvances.members hfull] at hdb
    rcases hahead db hdb with ⟨branch, hbranch, rfl⟩ | hbefore
    · exact hdone branch hbranch
    · exact .inr (hadvances.loadedBelow hbefore)
  rw [walkEachDatabase]
  refine hside.walks (f := DatabaseWalk.jobs) (fun _ => rfl) h hheard hbranches ?_ ?_
  · intro ds left hadvances hleft hdone
    exact ⟨hdepth, hadvances.full hfull, hleft, hloaded hadvances hdone⟩
  · intro ds hadvances hdone
    have hall := hloaded (P := fun _ => False) hadvances fun branch hbranch =>
      .inr (hdone branch hbranch)
    rw [show depth = depth - 1 + 1 by omega]
    exact DataSource.loadedTo_succ (hadvances.full hfull) fun db hdb =>
      (hall db hdb).resolve_left id

/-- The databases are loaded, and the walk goes on below them. -/
theorem walks_followDatabases {reply : Cache.Reply}
    (h : base.Reading heard reach fails ctx.source (before ++ behind))
    (hreach : ReachesTo reach (depth + 1)) (hheard : heard ctx.server.document)
    (hreplies : ctx.source.Replies none reply) (monitor : Monitor) :
    Walks base heard reach fails before behind DatabaseWalk.jobs
      (fun ds walk => walk.Heads ds (depth + 1)) (·.LoadedTo (depth + 1)) ctx
      (followDatabases monitor depth ctx (.ok reply)) := by
  obtain ⟨hfull, hrefs⟩ := hreplies.full
  rw [followDatabases]
  split
  next hzero =>
    subst hzero
    refine walks_ended h (DataSource.loadedTo_succ hfull fun db _ => ⟨?_, ?_⟩)
    all_goals
      intro hdepth
      omega
  next hdepth =>
    refine walks_walkEachDatabase hbase (h.begin fun job hjob => ?_) hreach hheard
      ⟨by omega, hfull, fun branch hbranch => ?_, fun db hdb => .inl ?_⟩ monitor
    · obtain ⟨branch, hbranch, hjob⟩ := List.mem_flatMap.1 hjob
      obtain ⟨db, -, rfl⟩ := List.mem_map.1 hbranch
      obtain rfl := List.mem_singleton.1 hjob
      exact ⟨rfl, .inl .unrun, fun _ _ => DataSource.asked_unrun _⟩
    · obtain ⟨db, -, rfl⟩ := List.mem_map.1 hbranch
      exact ⟨rfl, .unrun, fun _ => rfl⟩
    · rw [hrefs]
      exact ⟨_, List.mem_map_of_mem hdb, rfl⟩

/-- A walk over the databases that ends has loaded all, down to its depth. -/
theorem walks_walkDatabases {walk : DatabaseWalk}
    (h : base.Reading heard reach fails ctx.source (before ++ walk.jobs ++ behind))
    (hreach : ReachesTo reach depth) (hheard : heard ctx.server.document)
    (hheads : walk.Heads ctx.source depth) (monitor : Monitor) :
    Walks base heard reach fails before behind DatabaseWalk.jobs
      (fun ds walk => walk.Heads ds depth) (·.LoadedTo depth) ctx
      (ctx.walkDatabases monitor walk) := by
  cases walk with
  | descending branches => exact walks_walkEachDatabase hbase h hreach hheard hheads monitor
  | loading ahead load =>
    obtain ⟨rfl, hbulk, hstart⟩ := hheads
    cases ahead with
    | zero =>
      refine walks_ended (h.leave (List.forall_mem_singleton.2 (hstart rfl))) ⟨?_, ?_, ?_⟩
      all_goals
        intro hdepth
        omega
    | succ depth =>
      obtain ⟨hreads, hgathers⟩ :=
        reads_runDatabases hbase h (hreach.databases (Nat.le_add_left 1 depth)) hheard monitor
      rw [walkDatabases_succ]
      refine walks_andThen hreads (fun _ => rfl) (fun _ _ => rfl) (fun load hwaits => ?_)
        fun reply hends hended => ?_
      · refine ⟨rfl, (hgathers hbulk).waits load hwaits, fun hzero => ?_⟩
        cases hzero
      · exact walks_followDatabases hbase hended hreach (hreads.document.symm ▸ hheard)
          ((hgathers hbulk).replies reply hends) monitor

/-- A walk over the databases is dropped. -/
theorem forgoes_abandonDatabaseWalk {walk : DatabaseWalk}
    (h : base.Reading heard reach fails ctx.source (before ++ walk.jobs ++ behind)) :
    Forgoes base heard reach (before ++ behind) ctx (ctx.abandonDatabaseWalk walk) := by
  cases walk with
  | loading ahead load => exact forgoes_abandon hbase h
  | descending branches =>
    refine forgoes_foldl (fun {_ _ _ _ branch} h => ?_) h
    rw [DatabaseBranch.jobs] at h
    exact forgoes_abandonSchemaWalk hbase h

end Walks

section Rests

variable {monitor : Monitor} {depth : Nat} {db : Ref}

/-- A task ends at once, and leaves the data source and the server as they were. -/
structure Rests {σ β : Type} (ctx : Context) (out : Context × Poll σ (Except CacheError β))
    (result : β) : Prop where
  source : out.1.source = ctx.source
  server : out.1.server = ctx.server
  ends : out.2 = .finished (.ok result)

theorem Rests.after {σ β : Type} {ctx' : Context} {out : Context × Poll σ (Except CacheError β)}
    {result : β} (hsource : ctx'.source = ctx.source) (hserver : ctx'.server = ctx.server)
    (h : Rests ctx' out result) : Rests ctx out result :=
  ⟨h.source.trans hsource, h.server.trans hserver, h.ends⟩

/-- A walk goes on where a load of it ended. -/
theorem Rests.andThen {σ τ β γ : Type} {first : Context × Poll τ (Except CacheError β)}
    {out : Context × Poll σ (Except CacheError γ)} {result : β} {result' : γ}
    (h : Rests ctx first result)
    (hnext : ∀ ctx', ctx'.source = ctx.source → first = (ctx', .finished (.ok result)) →
      Rests ctx' out result') : Rests ctx out result' :=
  .after h.source h.server (hnext first.1 h.source (Prod.ext rfl h.ends))

end Rests

end Context

end CatalogBrowser
