import CatalogBrowser.Proofs.DataSource.Descent

/-!
# A data source in use

A `Scene` is a data source with all that is in flight on its caches. It moves by loads that begin,
run and are dropped, by edits of its caches, and by anything that leaves the databases alone. Any
sequence of moves is a run, so the scene covers every way in which loads of several caches can be
interleaved, also of caches whose owner is not cached any more.

## Main definitions

* `Job` - a load with the cache that it is for.
* `Scene`, `Move`, `Scene.step`, `Scene.run` - the moves of a scene, and sequences of them.
* `Move.Proper` - what is edited into the databases and schemas comes out of what was there.
* `Job.Ran` - what a job makes of a data source.
* `Scene.Sound` - what is true of every scene in a run.

## Main statements

* `Scene.step_descends`, `Scene.run_descends` - nothing in a data source goes back.
* `Scene.Sound.step`, `Scene.sound_run` - every scene in a run is sound.
-/

namespace CatalogBrowser

open Cache (Develops Edit FetchLead Load Stage)

/-- A load of the databases, or of a cache below one of them. -/
inductive Job where
  | databases (load : Load Database.Query)
  | schemas (db : Ref) (load : Load Schema.Query)
  | tables (db schema : Ref) (load : Load Table.Query)
deriving DecidableEq

namespace Job

/-- The branch that a job loads, if it is below a database. -/
def branch? : Job → Option Branch
  | .databases _ => none
  | .schemas db _ => some (.schemas db)
  | .tables db schema _ => some (.tables db schema)

def stage : Job → Stage
  | .databases load => load.stage
  | .schemas _ load => load.stage
  | .tables _ _ load => load.stage

/-- The listing of a branch that a job leads. -/
def listing? (branch : Branch) (job : Job) : Option FetchLead :=
  if job.branch? = some branch then job.stage.fetchLead? else none

theorem listing?_eq_some_iff {branch : Branch} {job : Job} {lead : FetchLead} :
    job.listing? branch = some lead ↔ job.branch? = some branch ∧ job.stage = .listing lead := by
  rw [listing?]
  split
  next h => simp only [h, Cache.Stage.fetchLead?_eq_some_iff, true_and]
  next h => simp only [h, false_and, reduceCtorEq]

/-- Runs a job, and gives what is left of it unless it finished. -/
def run (ctx : Context) (monitor : Monitor) : Job → Context × Option Job
  | .databases load =>
    let (ctx, poll) := ctx.runDatabases monitor load
    (ctx, poll.pending?.map .databases)
  | .schemas db load =>
    let (ctx, poll) := ctx.runSchemas monitor db load
    (ctx, poll.pending?.map (.schemas db))
  | .tables db schema load =>
    let (ctx, poll) := ctx.runTables monitor db schema load
    (ctx, poll.pending?.map (.tables db schema))

def abandon (ctx : Context) : Job → Context
  | .databases load => ctx.abandonDatabases load
  | .schemas db load => ctx.abandonSchemas db load
  | .tables db schema load => ctx.abandonTables db schema load

end Job

/-- The first monitor that is made. -/
def Monitor.first : Monitor where
  scope := 0
  ancestors := []
  counter := 0

/-- A data source in use, with the loads that are in flight. -/
structure Scene where
  context : Context
  jobs : List Job := []

/-- A move of a scene. Loads in flight are given by their positions. -/
inductive Move where
  /-- A load begins, in front of the one at a position. -/
  | begin (n : Nat) (job : Job)
  | poll (n : Nat) (monitor : Monitor)
  | drop (n : Nat)
  | editDatabases (edit : Edit Database)
  | editSchemas (db : Ref) (edit : Edit Schema)
  | editTables (db schema : Ref) (edit : Edit Table)
  /-- Everything but the databases becomes as it is in a context: the settings, the active database,
  the server, the monitors, the log. -/
  | aside (elsewhere : Context)

/-- A program changes the caches below a database or a schema only by the operations of caches, so
that what it merges into an object leaves them descended from what they were. -/
def Move.Proper : Move → Prop
  | .begin _ job => job.stage = .start
  | .editDatabases edit => edit.Respects Database.Descends Database.Founded
  | .editSchemas _ edit => edit.Respects Schema.Descends fun _ => True
  | _ => True

namespace Scene

def source (s : Scene) : DataSource :=
  s.context.source

/-- The databases that are cached. -/
def entries (s : Scene) : List Ref :=
  s.source.databases.snapshot.entries

/-- The listings of a branch that are in flight. -/
def listings (s : Scene) (branch : Branch) : List FetchLead :=
  s.jobs.filterMap (Job.listing? branch)

/-- Puts in place of a job what is left of it. -/
def replace (s : Scene) (n : Nat) (context : Context) (left : Option Job) : Scene where
  context := context
  jobs := s.jobs.take n ++ left.toList ++ s.jobs.drop (n + 1)

def step (s : Scene) : Move → Scene
  | .begin n job => { s with jobs := s.jobs.take n ++ job :: s.jobs.drop n }
  | .poll n monitor =>
    match s.jobs[n]? with
    | none => s
    | some job => s.replace n (job.run s.context monitor).1 (job.run s.context monitor).2
  | .drop n =>
    match s.jobs[n]? with
    | none => s
    | some job => s.replace n (job.abandon s.context) none
  | .editDatabases edit => { s with context := (s.context.editDatabases edit).2 }
  | .editSchemas db edit => { s with context := (s.context.editSchemas db edit).2 }
  | .editTables db schema edit => { s with context := (s.context.editTables db schema edit).2 }
  | .aside elsewhere =>
    { s with context := { elsewhere with
        source := { elsewhere.source with databases := s.source.databases } } }

def run (s : Scene) (moves : List Move) : Scene :=
  moves.foldl step s

/-- A data source that nobody has used yet. -/
def opened (connection : Connection) (server : Server) : Scene where
  context := { source := .ofConnection connection, server }

end Scene

/-- The job that a move runs or drops. -/
def Move.job? (s : Scene) : Move → Option Job
  | .poll n _ | .drop n => s.jobs[n]?
  | _ => none

/-- What a job, when it runs or is dropped, makes of a data source, and what is left of it. -/
inductive Job.Ran (ds : DataSource) : Job → DataSource → Option Job → Prop
  | databases {load : Load Database.Query} {databases : Cache Database}
      {left : Option (Load Database.Query)} :
      Load.Ran Database.source ds.databases load databases (left.map (·.stage)) →
      Ran ds (.databases load) { ds with databases } (left.map .databases)
  | schemas {db : Ref} {load : Load Schema.Query} {database : Database} {schemas : Cache Schema}
      {left : Option (Load Schema.Query)} : ds.database? db = some database →
      Load.Ran (Schema.source database.name) database.schemas load schemas
        (left.map (·.stage)) →
      Ran ds (.schemas db load) (ds.putSchemas db schemas) (left.map (.schemas db))
  | tables {db schema : Ref} {load : Load Table.Query} {owner : Schema} {tables : Cache Table}
      {left : Option (Load Table.Query)} : ds.schema? db schema = some owner →
      Load.Ran Table.source owner.tables load tables (left.map (·.stage)) →
      Ran ds (.tables db schema load) (ds.putTables db schema tables) (left.map (.tables db schema))
  /-- The cache does not exist. -/
  | nowhere {job : Job} {branch : Branch} : job.branch? = some branch →
      ds.cache? branch = none → Ran ds job ds none

namespace Job

variable {ds ds' : DataSource} {job : Job} {left : Option Job} {branch : Branch} {lead : FetchLead}

theorem ran_runLoad {κ ρ α : Type} (ctx : Context) (monitor : Monitor) (source : Source ρ α)
    (remote : Cache.Remote Server κ ρ) (lines : Cache.Event α → List LogLine) (cache : Cache α)
    (load : Load κ) :
    let out := ctx.runLoad monitor source remote lines cache load
    Load.Ran source cache load out.2.1 (out.2.2.pending?.map (·.stage)) :=
  Load.ran_run source remote ctx.server cache load (ctx.isCancelled monitor)

theorem ran_run (ctx : Context) (monitor : Monitor) (job : Job) :
    job.Ran ctx.source (job.run ctx monitor).1.source (job.run ctx monitor).2 := by
  cases job with
  | databases load => exact .databases (ran_runLoad ctx monitor _ _ Database.eventLines _ load)
  | schemas db load =>
    rw [run, Context.runSchemas]
    cases hdatabase : ctx.source.database? db with
    | none => exact .nowhere rfl (Option.map_eq_none_iff.2 hdatabase)
    | some database =>
      exact .schemas hdatabase (ran_runLoad ctx monitor _ _ Schema.eventLines _ load)
  | tables db schema load =>
    rw [run, Context.runTables]
    cases howner : ctx.source.schema? db schema with
    | none => exact .nowhere rfl (Option.map_eq_none_iff.2 howner)
    | some owner => exact .tables howner (ran_runLoad ctx monitor _ _ Table.eventLines _ load)

theorem ran_abandon (ctx : Context) (job : Job) :
    job.Ran ctx.source (job.abandon ctx).source none := by
  cases job with
  | databases load => exact .databases (Load.ran_abandon Database.source _ load)
  | schemas db load =>
    rw [abandon, Context.abandonSchemas]
    cases hdatabase : ctx.source.database? db with
    | none => exact .nowhere rfl (Option.map_eq_none_iff.2 hdatabase)
    | some database => exact .schemas hdatabase (Load.ran_abandon _ database.schemas load)
  | tables db schema load =>
    rw [abandon, Context.abandonTables]
    cases howner : ctx.source.schema? db schema with
    | none => exact .nowhere rfl (Option.map_eq_none_iff.2 howner)
    | some owner => exact .tables howner (Load.ran_abandon _ owner.tables load)

/-- A job leaves a data source that came out of what it was. -/
theorem Ran.descends (h : job.Ran ds ds' left) : ds.Descends ds' := by
  cases h with
  | databases hload =>
    refine ⟨hload.descends, hload.develops Database.upkeep fun record database hconstruct => ?_⟩
    obtain rfl : Database.ofRecord record = database := Option.some.inj hconstruct
    exact Database.founded_ofRecord record
  | schemas hdatabase hload =>
    exact DataSource.descends_putSchemas hdatabase hload.descends
      (hload.develops (Schema.upkeep _) fun _ _ _ => trivial)
  | tables howner hload => exact DataSource.descends_putTables howner hload.descends
  | nowhere => exact .refl ds

theorem Ran.branch?_eq (h : job.Ran ds ds' left) {job' : Job} (hleft : left = some job') :
    job'.branch? = job.branch? := by
  cases h with
  | databases | schemas | tables =>
    obtain ⟨_, -, rfl⟩ := Option.map_eq_some_iff.1 hleft
    rfl
  | nowhere => cases hleft

/-- A job below a database runs a load on the cache at its branch, unless there is none. -/
theorem Ran.below (h : job.Ran ds ds' left) (hbranch : job.branch? = some branch) :
    (ds.cache? branch = none ∧ left = none) ∨
      ∃ (ρ α κ : Type) (source : Source ρ α) (f : α → Schema ⊕ Table) (c c' : Cache α)
        (load : Load κ), ds.cache? branch = some (c.map f) ∧ ds'.cache? branch = some (c'.map f) ∧
        load.stage = job.stage ∧ Load.Ran source c load c' (left.map stage) := by
  cases h with
  | databases => cases hbranch
  | @schemas db load database schemas rest hdatabase hload =>
    obtain rfl := Option.some.inj hbranch
    have hcache : ds.cache? (.schemas db) = some (database.schemas.map .inl) := by
      rw [DataSource.cache?, hdatabase]
      rfl
    refine .inr ⟨_, _, _, Schema.source database.name, .inl, database.schemas, schemas, load,
      hcache, DataSource.cache?_putSchemas hdatabase schemas, rfl, ?_⟩
    rw [Option.map_map]
    exact hload
  | @tables db schema load owner tables rest howner hload =>
    obtain rfl := Option.some.inj hbranch
    have hcache : ds.cache? (.tables db schema) = some (owner.tables.map .inr) := by
      rw [DataSource.cache?, howner]
      rfl
    refine .inr ⟨_, _, _, Table.source, .inr, owner.tables, tables, load, hcache,
      DataSource.cache?_putTables howner tables, rfl, ?_⟩
    rw [Option.map_map]
    exact hload
  | nowhere hother hnone =>
    obtain rfl := Option.some.inj (hother.symm.trans hbranch)
    exact .inl ⟨hnone, rfl⟩

/-- What is left of a job leads the listing that the job led, or one of the present generation. -/
theorem Ran.listing (h : job.Ran ds ds' left) {job' : Job} (hleft : left = some job')
    (hlisting : job'.listing? branch = some lead) :
    job.listing? branch = some lead ∨
      ∃ c, ds'.cache? branch = some c ∧ lead.generation ≤ c.generation := by
  obtain ⟨hbranch', hstage'⟩ := listing?_eq_some_iff.1 hlisting
  have hbranch : job.branch? = some branch := (h.branch?_eq hleft).symm.trans hbranch'
  rcases h.below hbranch with
    ⟨-, hnone⟩ | ⟨_, _, _, _, f, _, c', load, -, hcache', hstage, hload⟩
  · rw [hnone] at hleft
    cases hleft
  · rw [hleft] at hload
    rcases hload.listing (congrArg some hstage') with hold | hnew
    · exact .inl (listing?_eq_some_iff.2 ⟨hbranch, hstage.symm.trans hold⟩)
    · exact .inr ⟨c'.map f, hcache', hnew⟩

/-- A job that leads a listing of an older generation changes nothing that is seen. -/
theorem Ran.unseen (h : job.Ran ds ds' left) (hlisting : job.listing? branch = some lead)
    {c : Cache (Schema ⊕ Table)} (hcache : ds.cache? branch = some c)
    (houtdated : lead.generation ≠ c.generation) :
    ∃ c', ds'.cache? branch = some c' ∧ c.Unseen c' := by
  obtain ⟨hbranch, hstage⟩ := listing?_eq_some_iff.1 hlisting
  rcases h.below hbranch with
    ⟨hnone, -⟩ | ⟨_, _, _, _, f, _, c', load, hbefore, hcache', hsame, hload⟩
  · rw [hnone] at hcache
    cases hcache
  · obtain rfl := Option.some.inj (hbefore.symm.trans hcache)
    exact ⟨c'.map f, hcache', (hload.unseen (hsame.trans hstage) houtdated).map f⟩

/-- A job keeps the view of the databases indexed. -/
theorem Ran.indexed (h : job.Ran ds ds' left) (hindexed : ds.databases.Indexed Database.source) :
    ds'.databases.Indexed Database.source := by
  cases h with
  | databases hload => exact hload.indexed hindexed (Database.keepsKeys_merge _)
  | schemas => exact DataSource.indexed_putSchemas hindexed _ _
  | tables => exact DataSource.indexed_putTables hindexed _ _ _
  | nowhere => exact hindexed

end Job

namespace Scene

variable {s s' : Scene} {move : Move} {moves : List Move} {branch : Branch} {lead : FetchLead}

theorem mem_listings_iff :
    lead ∈ s.listings branch ↔ ∃ job ∈ s.jobs, job.listing? branch = some lead :=
  List.mem_filterMap

/-- What one move can do: it runs or drops a job, or edits the databases, or does neither. -/
inductive Stepped (s : Scene) (move : Move) (s' : Scene) : Prop
  | job {job : Job} {left : Option Job} {before behind : List Job}
      (concerns : move.job? s = some job) (ran : job.Ran s.source s'.source left)
      (jobs : s.jobs = before ++ job :: behind) (jobs' : s'.jobs = before ++ left.toList ++ behind)
  | edit (edit : Edit Database) (respects : edit.Respects Database.Descends Database.Founded)
      (concerns : move.job? s = none)
      (source : s'.source = { s.source with
        databases := (edit.apply Database.source s.source.databases).2.1 })
      (listings : ∀ branch, s'.listings branch = s.listings branch)
  | below (concerns : move.job? s = none) (descends : s.source.Descends s'.source)
      (indexed : s.source.databases.Indexed Database.source →
        s'.source.databases.Indexed Database.source)
      (entries : s'.entries = s.entries)
      (listings : ∀ branch, s'.listings branch = s.listings branch)

/-- A job that begins leads no listing. -/
theorem listings_begin (n : Nat) {job : Job} (hstart : job.stage = .start) (branch : Branch) :
    (s.step (.begin n job)).listings branch = s.listings branch := by
  have hnone : job.listing? branch = none := by
    rw [Job.listing?, hstart]
    exact ite_self none
  rw [listings, listings, step, List.filterMap_append, List.filterMap_cons_none hnone,
    ← List.filterMap_append, List.take_append_drop]

theorem stepped_replace {n : Nat} {job : Job} {left : Option Job} {context : Context}
    (hjob : s.jobs[n]? = some job) (hconcerns : move.job? s = some job)
    (hran : job.Ran s.source context.source left) : Stepped s move (s.replace n context left) := by
  have hlt := (List.getElem?_eq_some_iff.1 hjob).1
  have hjobs : s.jobs = s.jobs.take n ++ job :: s.jobs.drop (n + 1) := by
    rw [← (List.getElem?_eq_some_iff.1 hjob).2, List.getElem_cons_drop hlt, List.take_append_drop]
  exact .job hconcerns hran hjobs rfl

/-- A move has no other effects. -/
theorem stepped (s : Scene) (hmove : move.Proper) : Stepped s move (s.step move) := by
  cases move with
  | begin n job => exact .below rfl (.refl _) id rfl (listings_begin n hmove)
  | poll n monitor =>
    rw [step]
    cases hjob : s.jobs[n]? with
    | none => exact .below hjob (.refl _) id rfl fun _ => rfl
    | some job => exact stepped_replace hjob hjob (job.ran_run s.context monitor)
  | drop n =>
    rw [step]
    cases hjob : s.jobs[n]? with
    | none => exact .below hjob (.refl _) id rfl fun _ => rfl
    | some job => exact stepped_replace hjob hjob (job.ran_abandon s.context)
  | editDatabases edit => exact .edit edit hmove rfl rfl fun _ => rfl
  | editSchemas db edit =>
    rw [step, Context.editSchemas]
    cases hdatabase : s.context.source.database? db with
    | none => exact .below rfl (.refl _) id rfl fun _ => rfl
    | some database =>
      have hdescends := DataSource.descends_putSchemas hdatabase
        (Cache.descends_edit (Schema.source database.name) database.schemas edit)
        (Cache.develops_edit (Schema.upkeep database.name) hmove)
      exact .below rfl hdescends (DataSource.indexed_putSchemas · db _) rfl fun _ => rfl
  | editTables db schema edit =>
    rw [step, Context.editTables]
    cases howner : s.context.source.schema? db schema with
    | none => exact .below rfl (.refl _) id rfl fun _ => rfl
    | some owner =>
      have hdescends := DataSource.descends_putTables howner
        (Cache.descends_edit Table.source owner.tables edit)
      exact .below rfl hdescends (DataSource.indexed_putTables · db schema _)
        (congrArg Cache.Snapshot.entries (s.source.snapshot_putTables db schema _)) fun _ => rfl
  | aside elsewhere =>
    exact .below rfl ⟨.refl _, Cache.develops_refl Database.Descends.refl _⟩ id rfl fun _ => rfl

/-- Nothing in a data source goes back. -/
theorem Stepped.descends (h : Stepped s move s') : s.source.Descends s'.source := by
  cases h with
  | job _ ran => exact ran.descends
  | edit edit respects _ source =>
    rw [source]
    exact ⟨Cache.descends_edit _ _ edit, Cache.develops_edit Database.upkeep respects⟩
  | below _ descends => exact descends

/-- An edit that respects what comes out of a database keeps its name. -/
theorem keepsIdentity_of_respects {databases : Cache Database} {edit : Edit Database}
    (h : edit.Respects Database.Descends Database.Founded) :
    Cache.KeepsIdentity Database.source { cache := databases } (.edit edit) := by
  cases edit with
  | reconcile merge fresh =>
    intro existing fresh _
    exact congrArg (fun name => databases.key (.name name)) (h.1 existing fresh).name
  | change ref f =>
    intro _ object _
    exact congrArg (fun name => databases.key (.name name)) (h object).name
  | _ => trivial

theorem Stepped.indexed (h : Stepped s move s')
    (hindexed : s.source.databases.Indexed Database.source) :
    s'.source.databases.Indexed Database.source := by
  cases h with
  | job _ ran => exact ran.indexed hindexed
  | edit edit respects _ source =>
    rw [source]
    exact Cache.indexed_edit hindexed (keepsIdentity_of_respects respects)
  | below _ _ indexed => exact indexed hindexed

/-- A listing that is in flight was in flight before, or was begun in the present generation. -/
theorem Stepped.listings (h : Stepped s move s') (hlead : lead ∈ s'.listings branch) :
    lead ∈ s.listings branch ∨
      ∃ c, s'.source.cache? branch = some c ∧ lead.generation ≤ c.generation := by
  cases h with
  | @job job left before behind _ ran jobs jobs' =>
    obtain ⟨job', hjob', hlisting⟩ := mem_listings_iff.1 hlead
    have hold : job' ∈ s.jobs ∨ left = some job' := by
      rw [jobs'] at hjob'
      rw [jobs]
      rcases List.mem_append.1 hjob' with hfront | hbehind
      · rcases List.mem_append.1 hfront with hbefore | hleft
        · exact .inl (List.mem_append_left _ hbefore)
        · exact .inr (Option.mem_toList.1 hleft)
      · exact .inl (List.mem_append_right _ (List.mem_cons_of_mem _ hbehind))
    rcases hold with hmem | hleft
    · exact .inl (mem_listings_iff.2 ⟨job', hmem, hlisting⟩)
    · rcases ran.listing hleft hlisting with hsame | hnew
      · exact .inl (mem_listings_iff.2 ⟨job, by simp [jobs], hsame⟩)
      · exact .inr hnew
  | edit _ _ _ _ listings | below _ _ _ _ listings => exact .inl (listings branch ▸ hlead)

/-- What is true of every scene in a run. -/
structure Sound (s : Scene) : Prop where
  indexed : s.source.databases.Indexed Database.source
  founded : ∀ db database, s.source.database? db = some database → database.Founded
  /-- A listing in flight is not newer than the cache that it is for. -/
  dated : ∀ branch, ∀ lead ∈ s.listings branch,
    ∃ c, s.source.cache? branch = some c ∧ lead.generation ≤ c.generation

theorem Sound.step (h : s.Sound) (hmove : move.Proper) : (s.step move).Sound where
  indexed := (stepped s hmove).indexed h.indexed
  founded db database' hdatabase' := by
    have hbelow := (stepped s hmove).descends.below
    cases hdatabase : s.source.database? db with
    | none =>
      obtain ⟨database, hfounded, hdescends⟩ :=
        hbelow.new db database' (Array.getElem?_eq_none_iff.1 hdatabase) hdatabase'
      exact hdescends.schemas.founded hfounded
    | some database =>
      obtain ⟨other, hother, hdescends⟩ := hbelow.old db database hdatabase
      obtain rfl := Option.some.inj (hother.symm.trans hdatabase')
      exact hdescends.schemas.founded (h.founded db database hdatabase)
  dated branch lead hlead := by
    rcases (stepped s hmove).listings hlead with hold | hnew
    · obtain ⟨c, hcache, hle⟩ := h.dated branch lead hold
      obtain ⟨c', hcache', hdescends⟩ := (stepped s hmove).descends.cache? hcache
      exact ⟨c', hcache', Nat.le_trans hle hdescends.generation⟩
    · exact hnew

theorem sound_opened (connection : Connection) (server : Server) :
    (opened connection server).Sound where
  indexed := Cache.indexed_empty _ _
  founded _ _ hdatabase := by cases hdatabase
  dated _ _ hlead := by cases hlead

theorem Sound.run (h : s.Sound) (hmoves : ∀ move ∈ moves, move.Proper) : (s.run moves).Sound := by
  induction moves generalizing s with
  | nil => exact h
  | cons move rest ih =>
    obtain ⟨hmove, hrest⟩ := List.forall_mem_cons.1 hmoves
    exact ih (h.step hmove) hrest

theorem run_descends (s : Scene) (hmoves : ∀ move ∈ moves, move.Proper) :
    s.source.Descends (s.run moves).source := by
  induction moves generalizing s with
  | nil => exact .refl _
  | cons move rest ih =>
    obtain ⟨hmove, hrest⟩ := List.forall_mem_cons.1 hmoves
    exact (stepped s hmove).descends.trans (ih (s.step move) hrest)

end Scene

end CatalogBrowser
