import CatalogBrowser.DataSource.Routine

/-!
# What work on the databases leaves alone

A load of the databases, or of a cache below one of them, changes no more than these caches: it may
start queries and count work, but the active database, the settings, what the server answers, and
who is cancelled all stay as they are. So do walks over several of these caches, however far they
come.

## Main definitions

* `Server.Asked` - at most queries were started.
* `Context.Frame` - only the databases changed, and what is below them.
* `Context.KeptBelow` - a relation that all work below the databases keeps.

## Main statements

* `Cache.Load.asked_run` - loads only start queries.
* `Context.keeps_runSiblings` - what every sibling keeps is kept by all of them.
* `Context.KeptBelow.walkEachDatabase` - what all work below the databases keeps, walks keep.
* `Context.frame_walkDatabases`, `Context.frame_abandonDatabaseWalk` - walks over the whole tree.
-/

namespace CatalogBrowser

open Cache (Load)

/-- At most queries were started. -/
def Server.Asked (server server' : Server) : Prop :=
  server' = { server with queries := server'.queries }

theorem Server.Asked.refl (server : Server) : server.Asked server := rfl

theorem Server.Asked.trans {a b c : Server} (h : a.Asked b) (h' : b.Asked c) : a.Asked c := by
  rw [Asked] at h h' ⊢
  rw [h', h]

theorem Server.asked_ask (server : Server) : server.Asked server.ask.1 := rfl

theorem Server.Asked.answer? {server server' : Server} (h : server.Asked server') {β : Type}
    (pending : Pending) (read : Document → Except ConnectionError β) :
    server'.answer? pending read = server.answer? pending read := by
  rw [Asked] at h
  rw [h]
  rfl

namespace Cache

variable {κ ρ α : Type}

/-- Asking the remote side starts queries and does nothing else. -/
structure Remote.Asks (remote : Remote Server κ ρ) : Prop where
  list : ∀ server : Server, server.Asked (remote.list server).1
  lookup : ∀ (server : Server) identity, server.Asked (remote.lookup server identity).1

/-- Loads only start queries. -/
theorem Load.asked_run {remote : Remote Server κ ρ} (hasks : remote.Asks) (source : Source ρ α)
    (server : Server) (c : Cache α) (load : Load κ) (cancelled : Bool) :
    server.Asked (load.run source remote server c cancelled).world := by
  have hask : ∀ load : Load κ, server.Asked (Load.ask remote server load).1 := by
    intro load
    rw [Load.ask]
    split
    · exact hasks.list server
    · exact hasks.lookup server _
    · exact .refl server
  cases hprogress : (c.poll load.request load.stage cancelled).progress with
  | finished result => simp only [Load.run, hprogress, Server.Asked.refl]
  | waiting stage =>
    have hasked := hask { load with stage }
    cases htake : Load.take? source remote (Load.ask remote server { load with stage }).1
        (c.poll load.request load.stage cancelled).cache
        (Load.ask remote server { load with stage }).2 with
    | none => simpa only [Load.run, hprogress, htake] using hasked
    | some answered => simpa only [Load.run, hprogress, htake] using hasked

end Cache

theorem Database.remote_asks (connection : Connection) (active : String) :
    (Database.remote connection active).Asks where
  list server := by
    simp only [Database.remote]
    split <;> rfl
  lookup _ _ := rfl

theorem Schema.remote_asks (database : String) : (Schema.remote database).Asks :=
  ⟨fun _ => rfl, fun _ _ => rfl⟩

theorem Table.remote_asks (database schema : String) : (Table.remote database schema).Asks :=
  ⟨fun _ => rfl, fun _ _ => rfl⟩

theorem Setting.remote_asks : Setting.remote.Asks where
  list _ := rfl
  lookup _ identity := by cases identity <;> rfl

namespace Context

/-- Only the databases changed, and what is below them. -/
structure Frame (ctx ctx' : Context) : Prop where
  connection : ctx'.source.connection = ctx.source.connection
  active : ctx'.source.active = ctx.source.active
  settings : ctx'.source.settings = ctx.source.settings
  server : ctx.server.Asked ctx'.server
  cancelled : ctx'.monitors.cancelled = ctx.monitors.cancelled

variable {ctx ctx' ctx'' : Context}

theorem Frame.refl (ctx : Context) : ctx.Frame ctx :=
  ⟨rfl, rfl, rfl, .refl _, rfl⟩

theorem Frame.trans (h : ctx.Frame ctx') (h' : ctx'.Frame ctx'') : ctx.Frame ctx'' where
  connection := h'.connection.trans h.connection
  active := h'.active.trans h.active
  settings := h'.settings.trans h.settings
  server := h.server.trans h'.server
  cancelled := h'.cancelled.trans h.cancelled

theorem Frame.isCancelled (h : ctx.Frame ctx') (monitor : Monitor) :
    ctx'.isCancelled monitor = ctx.isCancelled monitor := by
  simp only [Context.isCancelled, Monitors.isCancelled, h.cancelled]

section Loads

variable (ctx : Context) (monitor : Monitor)

/-- A load leaves the data source to its caller. -/
theorem frame_runLoad {κ ρ α : Type} (source : Source ρ α) {remote : Cache.Remote Server κ ρ}
    (hasks : remote.Asks) (lines : Cache.Event α → List LogLine) (cache : Cache α)
    (load : Load κ) : ctx.Frame (ctx.runLoad monitor source remote lines cache load).1 :=
  ⟨rfl, rfl, rfl, Load.asked_run hasks source ctx.server cache load _, rfl⟩

theorem frame_putSchemas (db : Ref) (schemas : Cache Schema) :
    ctx.Frame { ctx with source := ctx.source.putSchemas db schemas } :=
  ⟨rfl, rfl, rfl, .refl _, rfl⟩

theorem frame_putTables (db schema : Ref) (tables : Cache Table) :
    ctx.Frame { ctx with source := ctx.source.putTables db schema tables } := by
  rw [DataSource.putTables]
  cases ctx.source.database? db <;> exact ⟨rfl, rfl, rfl, .refl _, rfl⟩

theorem frame_runDatabases (load : Load Database.Query) :
    ctx.Frame (ctx.runDatabases monitor load).1 :=
  (ctx.frame_runLoad monitor Database.source (Database.remote_asks _ _) Database.eventLines _
    load).trans ⟨rfl, rfl, rfl, .refl _, rfl⟩

theorem frame_runSchemas (db : Ref) (load : Load Schema.Query) :
    ctx.Frame (ctx.runSchemas monitor db load).1 := by
  rw [runSchemas]
  cases ctx.source.database? db with
  | none => exact .refl ctx
  | some database =>
    exact (ctx.frame_runLoad monitor _ (Schema.remote_asks _) Schema.eventLines _ load).trans
      (frame_putSchemas _ db _)

theorem frame_runTables (db schema : Ref) (load : Load Table.Query) :
    ctx.Frame (ctx.runTables monitor db schema load).1 := by
  rw [runTables]
  cases ctx.source.schema? db schema with
  | none => exact .refl ctx
  | some owner =>
    exact (ctx.frame_runLoad monitor _ (Table.remote_asks _ _) Table.eventLines _ load).trans
      (frame_putTables _ db schema _)

theorem frame_abandonDatabases (load : Load Database.Query) :
    ctx.Frame (ctx.abandonDatabases load) :=
  ⟨rfl, rfl, rfl, .refl _, rfl⟩

theorem frame_abandonSchemas (db : Ref) (load : Load Schema.Query) :
    ctx.Frame (ctx.abandonSchemas db load) := by
  rw [abandonSchemas]
  cases ctx.source.database? db with
  | none => exact .refl ctx
  | some database => exact ctx.frame_putSchemas db _

theorem frame_abandonTables (db schema : Ref) (load : Load Table.Query) :
    ctx.Frame (ctx.abandonTables db schema load) := by
  rw [abandonTables]
  cases ctx.source.schema? db schema with
  | none => exact .refl ctx
  | some owner => exact ctx.frame_putTables db schema _

end Loads

section Siblings

variable {σ τ : Type} {R : Context → Context → Prop}
  {run : Context → τ → Context × Poll τ WalkResult} {abandon : Context → τ → Context}

theorem keeps_runEach (hrefl : ∀ ctx, R ctx ctx)
    (htrans : ∀ {a b c}, R a b → R b c → R a c) (hrun : ∀ ctx task, R ctx (run ctx task).1)
    (ctx : Context) (tasks : List τ) : R ctx (runEach run ctx tasks).1 := by
  induction tasks generalizing ctx with
  | nil => exact hrefl ctx
  | cons task rest ih =>
    have hfirst := hrun ctx task
    rw [runEach]
    rcases hout : run ctx task with ⟨ctx', state | (error | ⟨⟩)⟩
    · rw [hout] at hfirst
      exact htrans hfirst (ih ctx')
    · rw [hout] at hfirst
      exact hfirst
    · rw [hout] at hfirst
      exact htrans hfirst (ih ctx')

theorem keeps_abandonEach (hrefl : ∀ ctx, R ctx ctx)
    (htrans : ∀ {a b c}, R a b → R b c → R a c) (habandon : ∀ ctx task, R ctx (abandon ctx task))
    (ctx : Context) (tasks : List τ) : R ctx (tasks.foldl abandon ctx) := by
  induction tasks generalizing ctx with
  | nil => exact hrefl ctx
  | cons task rest ih => exact htrans (habandon ctx task) (ih _)

/-- What every sibling keeps, when it runs and when it is dropped, is kept by all of them. -/
theorem keeps_runSiblings (hrefl : ∀ ctx, R ctx ctx)
    (htrans : ∀ {a b c}, R a b → R b c → R a c) (hrun : ∀ ctx task, R ctx (run ctx task).1)
    (habandon : ∀ ctx task, R ctx (abandon ctx task)) (state : List τ → σ) (ctx : Context)
    (tasks : List τ) : R ctx (ctx.runSiblings run abandon state tasks).1 := by
  have heach := keeps_runEach hrefl htrans hrun ctx tasks
  rw [runSiblings]
  rcases hout : runEach run ctx tasks with ⟨ctx', rest, _ | error⟩
  · rw [hout] at heach
    cases rest <;> exact heach
  · rw [hout] at heach
    exact htrans heach (keeps_abandonEach hrefl htrans habandon ctx' rest)

end Siblings

section Walks

variable {R : Context → Context → Prop}

/-- A relation between the contexts before and after that all work below the databases keeps. -/
structure KeptBelow (R : Context → Context → Prop) : Prop where
  refl : ∀ ctx, R ctx ctx
  trans : ∀ {a b c}, R a b → R b c → R a c
  runSchemas : ∀ (ctx : Context) monitor db load, R ctx (ctx.runSchemas monitor db load).1
  runTables : ∀ (ctx : Context) monitor db schema load,
    R ctx (ctx.runTables monitor db schema load).1
  abandonSchemas : ∀ (ctx : Context) db load, R ctx (ctx.abandonSchemas db load)
  abandonTables : ∀ (ctx : Context) db schema load, R ctx (ctx.abandonTables db schema load)

theorem KeptBelow.walkTables (h : KeptBelow R) (monitor : Monitor) (ctx : Context)
    (db : Ref) (walk : TableWalk) : R ctx (Context.walkTables monitor db ctx walk).1 := by
  have hrun := h.runTables ctx monitor db walk.schema walk.load
  rw [Context.walkTables]
  rcases hout : ctx.runTables monitor db walk.schema walk.load with ⟨ctx', load | result⟩
  · rw [hout] at hrun
    exact hrun
  · rw [hout] at hrun
    exact hrun

theorem KeptBelow.walkEachSchema (h : KeptBelow R) (monitor : Monitor) (ctx : Context)
    (db : Ref) (walks : List TableWalk) : R ctx (Context.walkEachSchema monitor db ctx walks).1 :=
  keeps_runSiblings h.refl h.trans (h.walkTables monitor · db)
    (fun ctx walk => h.abandonTables ctx db walk.schema walk.load) SchemaWalk.descending ctx walks

theorem KeptBelow.walkSchemas (h : KeptBelow R) (monitor : Monitor) (ctx : Context)
    (db : Ref) (walk : SchemaWalk) : R ctx (Context.walkSchemas monitor db ctx walk).1 := by
  rcases walk with ⟨_ | depth, load⟩ | walks
  · exact h.refl ctx
  · have hrun := h.runSchemas ctx monitor db load
    rw [Context.walkSchemas]
    rcases hout : ctx.runSchemas monitor db load with ⟨ctx', load' | (error | reply)⟩
    · rw [hout] at hrun
      exact hrun
    · rw [hout] at hrun
      exact hrun
    · rw [hout] at hrun
      dsimp only
      split
      · exact hrun
      · exact h.trans hrun (h.walkEachSchema monitor ctx' db _)
  · exact h.walkEachSchema monitor ctx db walks

theorem KeptBelow.abandonSchemaWalk (h : KeptBelow R) (ctx : Context) (db : Ref)
    (walk : SchemaWalk) : R ctx (Context.abandonSchemaWalk db ctx walk) := by
  cases walk with
  | loading _ load => exact h.abandonSchemas ctx db load
  | descending walks =>
    exact keeps_abandonEach h.refl h.trans
      (fun ctx walk => h.abandonTables ctx db walk.schema walk.load) ctx walks

theorem KeptBelow.walkBranch (h : KeptBelow R) (monitor : Monitor) (ctx : Context)
    (branch : DatabaseBranch) : R ctx (Context.walkBranch monitor ctx branch).1 := by
  have hwalk := h.walkSchemas monitor ctx branch.db branch.walk
  rw [Context.walkBranch]
  rcases hout : Context.walkSchemas monitor branch.db ctx branch.walk with ⟨ctx', walk | result⟩
  · rw [hout] at hwalk
    exact hwalk
  · rw [hout] at hwalk
    exact hwalk

/-- What all work below the databases keeps is kept by a walk into each of them. -/
theorem KeptBelow.walkEachDatabase (h : KeptBelow R) (monitor : Monitor) (ctx : Context)
    (walks : List DatabaseBranch) : R ctx (Context.walkEachDatabase monitor ctx walks).1 :=
  keeps_runSiblings h.refl h.trans (h.walkBranch monitor)
    (fun ctx branch => h.abandonSchemaWalk ctx branch.db branch.walk)
    DatabaseWalk.descending ctx walks

theorem keptBelow_frame : KeptBelow Frame where
  refl := Frame.refl
  trans := Frame.trans
  runSchemas := frame_runSchemas
  runTables := frame_runTables
  abandonSchemas := frame_abandonSchemas
  abandonTables := frame_abandonTables

theorem frame_walkSchemas (monitor : Monitor) (ctx : Context) (db : Ref) (walk : SchemaWalk) :
    ctx.Frame (Context.walkSchemas monitor db ctx walk).1 :=
  keptBelow_frame.walkSchemas monitor ctx db walk

/-- A walk over the whole tree, however far it comes. -/
theorem frame_walkDatabases (monitor : Monitor) (ctx : Context) (walk : DatabaseWalk) :
    ctx.Frame (ctx.walkDatabases monitor walk).1 := by
  rcases walk with ⟨_ | depth, load⟩ | walks
  · exact .refl ctx
  · have h := ctx.frame_runDatabases monitor load
    rw [walkDatabases]
    rcases hout : ctx.runDatabases monitor load with ⟨ctx', load' | (error | reply)⟩
    · rw [hout] at h
      exact h
    · rw [hout] at h
      exact h
    · rw [hout] at h
      dsimp only
      split
      · exact h
      · exact h.trans (keptBelow_frame.walkEachDatabase monitor ctx' _)
  · exact keptBelow_frame.walkEachDatabase monitor ctx walks

theorem frame_abandonSchemaWalk (ctx : Context) (db : Ref) (walk : SchemaWalk) :
    ctx.Frame (abandonSchemaWalk db ctx walk) :=
  keptBelow_frame.abandonSchemaWalk ctx db walk

theorem frame_abandonDatabaseWalk (ctx : Context) (walk : DatabaseWalk) :
    ctx.Frame (ctx.abandonDatabaseWalk walk) := by
  cases walk with
  | loading _ load => exact ctx.frame_abandonDatabases load
  | descending walks =>
    exact keeps_abandonEach Frame.refl Frame.trans
      (fun ctx branch => frame_abandonSchemaWalk ctx branch.db branch.walk) ctx walks

end Walks

section Followed

variable {σ : Type}

theorem follow_context (out : Context × Poll σ Cache.Result) (state : σ → Routine)
    (answer : Cache.Reply → Answer) : (follow out state answer).1 = out.1 := by
  rcases out with ⟨ctx, load | (error | reply)⟩ <;> rfl

theorem followWalk_context (out : Context × Poll σ WalkResult) (state : σ → Routine) :
    (followWalk out state).1 = out.1 := by
  rcases out with ⟨ctx, walk | (error | ⟨⟩)⟩ <;> rfl

end Followed

end Context

end CatalogBrowser
