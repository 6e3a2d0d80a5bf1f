import CatalogBrowser.DataSource.Routine
import CatalogBrowser.Proofs.Cache.PendingLoads
import CatalogBrowser.Proofs.DataSource.Scene
import CatalogBrowser.Proofs.DataSource.TreeCaches

/-!
# Tasks as moves of a scene

A task may run several loads in one turn, and do other work besides: it walks down the tree, clears
the settings, switches the active database. All of it is a sequence of moves of a scene, in which
the loads that the task has under way stand in one place.

## Main definitions

* `Move.Ordinary` - the moves that tasks and those who edit caches make.
* `Scene.Reaches` - some moves lead from one scene to another.
* `Scene.Covers` - moves that work on jobs in one place, whatever else is in flight.
* `Routine.jobs` - the loads that a task has under way.
* `Routine.Fit` - a walk that reads nothing has not begun to.

## Main statements

* `Context.turns_run`, `Context.covers_abandon` - a turn of a task, or dropping it, is a sequence of
  moves.
-/

namespace CatalogBrowser

open Cache (Edit Load)

/-- Dropping a job that has not begun changes nothing. -/
theorem Job.abandon_of_start (ctx : Context) {job : Job} (hstart : job.stage = .start) :
    job.abandon ctx = ctx := by
  cases job with
  | databases load =>
    rw [abandon, Context.abandonDatabases, show load.stage = .start from hstart]
    rfl
  | schemas db load =>
    rw [abandon, Context.abandonSchemas, show load.stage = .start from hstart]
    cases hdatabase : ctx.source.database? db with
    | none => rfl
    | some database => simp only [Cache.abandon, DataSource.putSchemas_self hdatabase]
  | tables db schema load =>
    rw [abandon, Context.abandonTables, show load.stage = .start from hstart]
    cases howner : ctx.source.schema? db schema with
    | none => rfl
    | some owner => simp only [Cache.abandon, DataSource.putTables_self howner]

/-- Loads begin at the start, and nobody brings objects into a cache, but for the one database that
is taken on trust. -/
def Move.Ordinary : Move → Prop
  | .begin _ job => job.stage = .start
  | .editDatabases edit => edit.Plain Database.Pristine
  | .editSchemas _ edit => edit.Withdraws
  | .editTables _ _ edit => edit.Withdraws
  | _ => True

theorem Move.Ordinary.proper {move : Move} (h : move.Ordinary) : move.Proper := by
  cases move with
  | begin | poll | drop | editTables | aside => first | exact h | trivial
  | editDatabases edit => exact h.respects fun _ => Database.Pristine.founded
  | editSchemas db edit => exact Edit.Withdraws.respects h

namespace Scene

variable {s s' s'' : Scene} {ctx ctx' ctx'' : Context} {jobs jobs' jobs'' : List Job}

/-- Some moves lead from one scene to another. -/
def Reaches (s s' : Scene) : Prop :=
  ∃ moves : List Move, (∀ move ∈ moves, move.Ordinary) ∧ s.run moves = s'

theorem Reaches.refl (s : Scene) : s.Reaches s :=
  ⟨[], by simp, rfl⟩

theorem Reaches.trans (h : s.Reaches s') (h' : s'.Reaches s'') : s.Reaches s'' := by
  obtain ⟨moves, hmoves, rfl⟩ := h
  obtain ⟨later, hlater, rfl⟩ := h'
  refine ⟨moves ++ later, ?_, List.foldl_append⟩
  intro move hmove
  rcases List.mem_append.1 hmove with h | h
  · exact hmoves move h
  · exact hlater move h

theorem reaches_step (move : Move) (hmove : move.Ordinary) (h : s.step move = s') : s.Reaches s' :=
  ⟨[move], by simpa using hmove, h⟩

/-- Whatever else is in flight, some moves change the context and put jobs in the place of
others. -/
def Covers (ctx ctx' : Context) (jobs jobs' : List Job) : Prop :=
  ∀ before behind, Reaches ⟨ctx, before ++ jobs ++ behind⟩ ⟨ctx', before ++ jobs' ++ behind⟩

theorem Covers.refl (ctx : Context) (jobs : List Job) : Covers ctx ctx jobs jobs :=
  fun _ _ => .refl _

theorem Covers.trans (h : Covers ctx ctx' jobs jobs') (h' : Covers ctx' ctx'' jobs' jobs'') :
    Covers ctx ctx'' jobs jobs'' :=
  fun before behind => (h before behind).trans (h' before behind)

theorem Covers.reaches (h : Covers ctx ctx' jobs jobs') : Reaches ⟨ctx, jobs⟩ ⟨ctx', jobs'⟩ := by
  simpa only [List.nil_append, List.append_nil] using h [] []

/-- One after the other. -/
theorem Covers.append {rest rest' : List Job} (h : Covers ctx ctx' jobs jobs')
    (h' : Covers ctx' ctx'' rest rest') : Covers ctx ctx'' (jobs ++ rest) (jobs' ++ rest') := by
  intro before behind
  have hfirst := h before (rest ++ behind)
  have hsecond := h' (before ++ jobs') behind
  simp only [List.append_assoc] at hfirst hsecond ⊢
  exact hfirst.trans hsecond

theorem covers_run (ctx : Context) (monitor : Monitor) (job : Job) :
    Covers ctx (job.run ctx monitor).1 [job] (job.run ctx monitor).2.toList := by
  intro before behind
  refine reaches_step (.poll before.length monitor) trivial ?_
  simp [step, replace]

theorem covers_drop (ctx : Context) (job : Job) : Covers ctx (job.abandon ctx) [job] [] := by
  intro before behind
  refine reaches_step (.drop before.length) trivial ?_
  simp [step, replace]

theorem covers_begin (ctx : Context) (job : Job) (hstart : job.stage = .start) :
    Covers ctx ctx [] [job] := by
  intro before behind
  refine reaches_step (.begin before.length job) hstart ?_
  simp [step]

theorem covers_beginAll (ctx : Context) (hstart : ∀ job ∈ jobs, job.stage = .start) :
    Covers ctx ctx [] jobs := by
  induction jobs with
  | nil => exact .refl ctx []
  | cons job rest ih =>
    obtain ⟨hjob, hrest⟩ := List.forall_mem_cons.1 hstart
    exact (covers_begin ctx job hjob).append (ih hrest)

/-- Nothing below the databases is touched. -/
theorem covers_aside (h : ctx'.source.databases = ctx.source.databases) (jobs : List Job) :
    Covers ctx ctx' jobs jobs := by
  intro before behind
  refine reaches_step (.aside ctx') trivial ?_
  have hsource : { ctx'.source with databases := ctx.source.databases } = ctx'.source := by
    rw [← h]
  simp only [step, source, hsource]

theorem covers_editDatabases (ctx : Context) (edit : Edit Database)
    (hedit : edit.Plain Database.Pristine) (jobs : List Job) :
    Covers ctx (ctx.editDatabases edit).2 jobs jobs :=
  fun _ _ => reaches_step (.editDatabases edit) hedit rfl

/-- A job that has not begun can be dropped without a trace. -/
theorem covers_unbegun (ctx : Context) (job : Job) (hstart : job.stage = .start) :
    Covers ctx ctx [job] [] := by
  have h := covers_drop ctx job
  rwa [Job.abandon_of_start ctx hstart] at h

end Scene

section Jobs

/-- The jobs of what waits. -/
def Poll.jobs {σ β : Type} (f : σ → List Job) : Poll σ β → List Job
  | .waiting state => f state
  | .finished _ => []

/-- What waits has a property. -/
def Poll.All {σ β : Type} (P : σ → Prop) : Poll σ β → Prop
  | .waiting state => P state
  | .finished _ => True

theorem Poll.toList_pending {σ β : Type} (f : σ → Job) (poll : Poll σ β) :
    (poll.pending?.map f).toList = poll.jobs fun state => [f state] := by
  cases poll <;> rfl

def TableWalk.jobs (db : Ref) (walk : TableWalk) : List Job :=
  [.tables db walk.schema walk.load]

def SchemaWalk.jobs (db : Ref) : SchemaWalk → List Job
  | .loading _ load => [.schemas db load]
  | .descending walks => walks.flatMap (TableWalk.jobs db)

def DatabaseBranch.jobs (branch : DatabaseBranch) : List Job :=
  branch.walk.jobs branch.db

def DatabaseWalk.jobs : DatabaseWalk → List Job
  | .loading _ load => [.databases load]
  | .descending walks => walks.flatMap DatabaseBranch.jobs

/-- The loads of the databases and of caches below them that a task has under way. -/
def Routine.jobs : Routine → List Job
  | .opening (.databases load) | .refresh _ load | .databases load => [.databases load]
  | .opening _ | .settings _ | .query _ _ => []
  | .schemas db load => [.schemas db load]
  | .tables db schema load | .preloadSchema db schema _ load => [.tables db schema load]
  | .preload walk => walk.jobs
  | .preloadDatabase db walk => walk.jobs db

/-- A walk of depth zero has not begun its load. -/
def SchemaWalk.Fit : SchemaWalk → Prop
  | .loading 0 load => load.stage = .start
  | _ => True

def DatabaseBranch.Fit (branch : DatabaseBranch) : Prop :=
  branch.walk.Fit

def DatabaseWalk.Fit : DatabaseWalk → Prop
  | .loading 0 load => load.stage = .start
  | .loading _ _ => True
  | .descending walks => ∀ branch ∈ walks, branch.Fit

def Routine.Fit : Routine → Prop
  | .preload walk => walk.Fit
  | .preloadDatabase _ walk => walk.Fit
  | .preloadSchema _ _ 0 load => load.stage = .start
  | _ => True

end Jobs

namespace Context

open Scene (Covers)

variable {σ τ β : Type} {f : σ → List Job} {Fit : σ → Prop} {ctx ctx' : Context}
  {jobs jobs' : List Job}

/-- A turn of what has some jobs under way is a sequence of moves, and what is left is fit. -/
structure Turns (f : σ → List Job) (Fit : σ → Prop) (ctx : Context) (jobs : List Job)
    (out : Context × Poll σ β) : Prop where
  covers : Covers ctx out.1 jobs (out.2.jobs f)
  fit : out.2.All Fit

theorem Turns.after {out : Context × Poll σ β} (h : Turns f Fit ctx' jobs' out)
    (hbefore : Covers ctx ctx' jobs jobs') : Turns f Fit ctx jobs out :=
  ⟨hbefore.trans h.covers, h.fit⟩

/-- A turn at the end of which nothing is left. -/
theorem turns_finished (h : Covers ctx ctx' jobs []) (result : β) :
    Turns f Fit ctx jobs (ctx', .finished result) :=
  ⟨h, trivial⟩

section Loads

theorem covers_runDatabases (ctx : Context) (monitor : Monitor) (load : Load Database.Query) :
    Covers ctx (ctx.runDatabases monitor load).1 [.databases load]
      ((ctx.runDatabases monitor load).2.jobs fun load => [.databases load]) := by
  have h := Scene.covers_run ctx monitor (.databases load)
  rwa [Job.run, Poll.toList_pending] at h

theorem covers_runSchemas (ctx : Context) (monitor : Monitor) (db : Ref)
    (load : Load Schema.Query) :
    Covers ctx (ctx.runSchemas monitor db load).1 [.schemas db load]
      ((ctx.runSchemas monitor db load).2.jobs fun load => [.schemas db load]) := by
  have h := Scene.covers_run ctx monitor (.schemas db load)
  rwa [Job.run, Poll.toList_pending] at h

theorem covers_runTables (ctx : Context) (monitor : Monitor) (db schema : Ref)
    (load : Load Table.Query) :
    Covers ctx (ctx.runTables monitor db schema load).1 [.tables db schema load]
      ((ctx.runTables monitor db schema load).2.jobs fun load => [.tables db schema load]) := by
  have h := Scene.covers_run ctx monitor (.tables db schema load)
  rwa [Job.run, Poll.toList_pending] at h

theorem covers_say (ctx : Context) (lines : List LogLine) (jobs : List Job) :
    Covers ctx (ctx.say lines) jobs jobs :=
  Scene.covers_aside (by rfl) jobs

end Loads

section Siblings

variable {run : Context → τ → Context × Poll τ WalkResult} {abandon : Context → τ → Context}
  {g : τ → List Job} {FitEach : τ → Prop}

/-- Siblings run one after the other, each in its place. -/
theorem covers_runEach (hrun : ∀ ctx task, FitEach task →
      Turns g FitEach ctx (g task) (run ctx task))
    {tasks : List τ} (hfit : ∀ task ∈ tasks, FitEach task) (ctx : Context) :
    Covers ctx (runEach run ctx tasks).1 (tasks.flatMap g)
        ((runEach run ctx tasks).2.1.flatMap g) ∧
      ∀ task ∈ (runEach run ctx tasks).2.1, FitEach task := by
  induction tasks generalizing ctx with
  | nil => exact ⟨.refl ctx [], hfit⟩
  | cons task rest ih =>
    obtain ⟨htask, hrest⟩ := List.forall_mem_cons.1 hfit
    have hfirst := hrun ctx task htask
    rw [runEach]
    rcases hout : run ctx task with ⟨ctx', state | (error | ⟨⟩)⟩
    · rw [hout] at hfirst
      obtain ⟨hcovers, hleft⟩ := ih hrest ctx'
      exact ⟨hfirst.covers.append hcovers, List.forall_mem_cons.2 ⟨hfirst.fit, hleft⟩⟩
    · rw [hout] at hfirst
      exact ⟨hfirst.covers.append (.refl ctx' _), hrest⟩
    · rw [hout] at hfirst
      obtain ⟨hcovers, hleft⟩ := ih hrest ctx'
      exact ⟨hfirst.covers.append hcovers, hleft⟩

theorem covers_abandonEach (habandon : ∀ ctx task, Covers ctx (abandon ctx task) (g task) [])
    (tasks : List τ) (ctx : Context) :
    Covers ctx (tasks.foldl abandon ctx) (tasks.flatMap g) [] := by
  induction tasks generalizing ctx with
  | nil => exact .refl ctx []
  | cons task rest ih => exact (habandon ctx task).append (ih _)

/-- If one of them fails, the others are dropped. -/
theorem turns_runSiblings (state : List τ → σ)
    (hrun : ∀ ctx task, FitEach task → Turns g FitEach ctx (g task) (run ctx task))
    (habandon : ∀ ctx task, Covers ctx (abandon ctx task) (g task) [])
    (hjobs : ∀ tasks, f (state tasks) = tasks.flatMap g)
    (hstate : ∀ tasks, (∀ task ∈ tasks, FitEach task) → Fit (state tasks))
    {tasks : List τ} (hfit : ∀ task ∈ tasks, FitEach task) (ctx : Context) :
    Turns f Fit ctx (tasks.flatMap g) (ctx.runSiblings run abandon state tasks) := by
  obtain ⟨hcovers, hleft⟩ := covers_runEach hrun hfit ctx
  rw [runSiblings]
  rcases hout : runEach run ctx tasks with ⟨ctx', rest, _ | error⟩
  · rw [hout] at hcovers hleft
    cases rest with
    | nil => exact turns_finished hcovers _
    | cons first rest =>
      refine ⟨?_, hstate _ hleft⟩
      show Covers ctx ctx' (tasks.flatMap g) (f (state (first :: rest)))
      rw [hjobs]
      exact hcovers
  · rw [hout] at hcovers
    exact turns_finished (hcovers.trans (covers_abandonEach habandon rest ctx')) _

end Siblings

section Walks

theorem turns_walkTables (monitor : Monitor) (db : Ref) (ctx : Context) (walk : TableWalk) :
    Turns (TableWalk.jobs db) (fun _ => True) ctx (walk.jobs db)
      (walkTables monitor db ctx walk) := by
  have h := covers_runTables ctx monitor db walk.schema walk.load
  rw [walkTables]
  rcases hout : ctx.runTables monitor db walk.schema walk.load with ⟨ctx', load | result⟩
  · rw [hout] at h
    exact ⟨h, trivial⟩
  · rw [hout] at h
    exact turns_finished h _

theorem covers_abandonTableWalk (db : Ref) (ctx : Context) (walk : TableWalk) :
    Covers ctx (abandonTableWalk db ctx walk) (walk.jobs db) [] :=
  Scene.covers_drop ctx (.tables db walk.schema walk.load)

theorem turns_walkEachSchema (monitor : Monitor) (db : Ref) (ctx : Context)
    (walks : List TableWalk) :
    Turns (SchemaWalk.jobs db) SchemaWalk.Fit ctx (walks.flatMap (TableWalk.jobs db))
      (walkEachSchema monitor db ctx walks) :=
  turns_runSiblings SchemaWalk.descending (fun ctx walk _ => turns_walkTables monitor db ctx walk)
    (covers_abandonTableWalk db) (fun _ => rfl) (fun _ _ => trivial) (fun _ _ => trivial) ctx

theorem turns_walkSchemas (monitor : Monitor) (db : Ref) (ctx : Context) {walk : SchemaWalk}
    (hfit : walk.Fit) :
    Turns (SchemaWalk.jobs db) SchemaWalk.Fit ctx (walk.jobs db)
      (walkSchemas monitor db ctx walk) := by
  cases walk with
  | descending walks => exact turns_walkEachSchema monitor db ctx walks
  | loading depth load =>
    cases depth with
    | zero => exact turns_finished (Scene.covers_unbegun ctx (.schemas db load) hfit) _
    | succ depth =>
      have h := covers_runSchemas ctx monitor db load
      rw [walkSchemas]
      rcases hout : ctx.runSchemas monitor db load with ⟨ctx', load' | (error | reply)⟩
      · rw [hout] at h
        exact ⟨h, trivial⟩
      · rw [hout] at h
        exact turns_finished h _
      · rw [hout] at h
        dsimp only
        split
        · exact turns_finished h _
        · have hchildren : ∀ job ∈ (reply.refs.map fun schema => ({ schema } : TableWalk)).flatMap
              (TableWalk.jobs db), job.stage = .start := by
            intro job hjob
            obtain ⟨walk, hwalk, hjob⟩ := List.mem_flatMap.1 hjob
            obtain ⟨schema, -, rfl⟩ := List.mem_map.1 hwalk
            rw [List.mem_singleton.1 hjob]
            rfl
          exact (turns_walkEachSchema monitor db ctx' _).after
            (h.trans (Scene.covers_beginAll ctx' hchildren))

theorem covers_abandonSchemaWalk (db : Ref) (ctx : Context) (walk : SchemaWalk) :
    Covers ctx (abandonSchemaWalk db ctx walk) (walk.jobs db) [] := by
  cases walk with
  | loading _ load => exact Scene.covers_drop ctx (.schemas db load)
  | descending walks => exact covers_abandonEach (covers_abandonTableWalk db) walks ctx

theorem turns_walkBranch (monitor : Monitor) (ctx : Context) (branch : DatabaseBranch)
    (hfit : branch.Fit) :
    Turns DatabaseBranch.jobs DatabaseBranch.Fit ctx branch.jobs
      (walkBranch monitor ctx branch) := by
  have h := turns_walkSchemas monitor branch.db ctx hfit
  rw [walkBranch]
  rcases hout : walkSchemas monitor branch.db ctx branch.walk with ⟨ctx', walk | result⟩
  · rw [hout] at h
    exact ⟨h.covers, h.fit⟩
  · rw [hout] at h
    exact turns_finished h.covers _

theorem covers_abandonBranch (ctx : Context) (branch : DatabaseBranch) :
    Covers ctx (abandonBranch ctx branch) branch.jobs [] :=
  covers_abandonSchemaWalk branch.db ctx branch.walk

theorem turns_walkEachDatabase (monitor : Monitor) (ctx : Context) {walks : List DatabaseBranch}
    (hfit : ∀ branch ∈ walks, branch.Fit) :
    Turns DatabaseWalk.jobs DatabaseWalk.Fit ctx (walks.flatMap DatabaseBranch.jobs)
      (walkEachDatabase monitor ctx walks) :=
  turns_runSiblings DatabaseWalk.descending (turns_walkBranch monitor) covers_abandonBranch
    (fun _ => rfl) (fun _ h => h) hfit ctx

theorem turns_walkDatabases (monitor : Monitor) (ctx : Context) {walk : DatabaseWalk}
    (hfit : walk.Fit) :
    Turns DatabaseWalk.jobs DatabaseWalk.Fit ctx walk.jobs
      (walkDatabases monitor ctx walk) := by
  cases walk with
  | descending walks => exact turns_walkEachDatabase monitor ctx hfit
  | loading depth load =>
    cases depth with
    | zero => exact turns_finished (Scene.covers_unbegun ctx (.databases load) hfit) _
    | succ depth =>
      have h := covers_runDatabases ctx monitor load
      rw [walkDatabases]
      rcases hout : ctx.runDatabases monitor load with ⟨ctx', load' | (error | reply)⟩
      · rw [hout] at h
        exact ⟨h, trivial⟩
      · rw [hout] at h
        exact turns_finished h _
      · rw [hout] at h
        dsimp only
        split
        · exact turns_finished h _
        next hdepth =>
          obtain ⟨rest, rfl⟩ := Nat.exists_eq_succ_of_ne_zero hdepth
          have hfit : ∀ branch ∈ reply.refs.map fun db =>
              ({ db, walk := .ofDepth (rest + 1) } : DatabaseBranch), branch.Fit := by
            intro branch hbranch
            obtain ⟨db, -, rfl⟩ := List.mem_map.1 hbranch
            trivial
          have hchildren : ∀ job ∈ (reply.refs.map fun db =>
              ({ db, walk := .ofDepth (rest + 1) } : DatabaseBranch)).flatMap DatabaseBranch.jobs,
              job.stage = .start := by
            intro job hjob
            obtain ⟨branch, hbranch, hjob⟩ := List.mem_flatMap.1 hjob
            obtain ⟨db, -, rfl⟩ := List.mem_map.1 hbranch
            rw [List.mem_singleton.1 hjob]
            rfl
          exact (turns_walkEachDatabase monitor ctx' hfit).after
            (h.trans (Scene.covers_beginAll ctx' hchildren))

theorem covers_abandonDatabaseWalk (ctx : Context) (walk : DatabaseWalk) :
    Covers ctx (ctx.abandonDatabaseWalk walk) walk.jobs [] := by
  cases walk with
  | loading _ load => exact Scene.covers_drop ctx (.databases load)
  | descending walks => exact covers_abandonEach covers_abandonBranch walks ctx

end Walks

section Routines

variable {monitor : Monitor}

theorem turns_follow {out : Context × Poll σ Cache.Result} (state : σ → Routine)
    (answer : Cache.Reply → Answer) (h : Covers ctx out.1 jobs (out.2.jobs f))
    (hjobs : ∀ load, (state load).jobs = f load) (hfit : ∀ load, (state load).Fit) :
    Turns Routine.jobs Routine.Fit ctx jobs (follow out state answer) := by
  rcases out with ⟨ctx', load | (error | reply)⟩
  · refine ⟨?_, hfit load⟩
    rw [Poll.jobs, ← hjobs] at h
    exact h
  · exact turns_finished h _
  · exact turns_finished h _

theorem turns_followWalk {out : Context × Poll σ WalkResult} (state : σ → Routine)
    (h : Turns f Fit ctx jobs out) (hjobs : ∀ walk, (state walk).jobs = f walk)
    (hfit : ∀ walk, Fit walk → (state walk).Fit) :
    Turns Routine.jobs Routine.Fit ctx jobs (followWalk out state) := by
  rcases out with ⟨ctx', walk | (error | ⟨⟩)⟩
  · refine ⟨?_, hfit walk h.fit⟩
    have hcovers := h.covers
    rw [Poll.jobs, ← hjobs] at hcovers
    exact hcovers
  · exact turns_finished h.covers _
  · exact turns_finished h.covers _

theorem turns_initializeSettings (ctx : Context) (monitor : Monitor)
    (load : Load Setting.Query) :
    Turns Routine.jobs Routine.Fit ctx [] (ctx.initializeSettings monitor load) := by
  have h : Covers ctx (ctx.runSettings monitor load).1 [] [] := Scene.covers_aside (by rfl) []
  rw [initializeSettings]
  rcases hout : ctx.runSettings monitor load with ⟨ctx', load' | (error | reply)⟩
  · rw [hout] at h
    exact ⟨h, trivial⟩
  · rw [hout] at h
    simp only [initialized]
    split
    · exact turns_finished h _
    · exact turns_finished (h.trans (covers_say ctx' _ [])) _
  · rw [hout] at h
    exact turns_finished (h.trans (covers_say ctx' _ [])) _

theorem turns_initializeActive (ctx : Context) (monitor : Monitor) :
    Turns Routine.jobs Routine.Fit ctx [] (ctx.initializeActive monitor) :=
  (turns_initializeSettings _ monitor _).after (Scene.covers_aside (by rfl) [])

theorem turns_initializeCurrent (ctx : Context) (monitor : Monitor) (pending : Pending) :
    Turns Routine.jobs Routine.Fit ctx [] (ctx.initializeCurrent monitor pending) := by
  rw [initializeCurrent]
  split
  · exact turns_finished (.refl ctx []) _
  · split
    · exact ⟨.refl ctx [], trivial⟩
    · exact turns_finished (.refl ctx []) _
    · exact (turns_initializeActive _ monitor).after (Scene.covers_aside (by rfl) [])

theorem turns_initializeName (ctx : Context) (monitor : Monitor) :
    Turns Routine.jobs Routine.Fit ctx [] (ctx.initializeName monitor) := by
  rw [initializeName]
  split
  · exact turns_initializeActive ctx monitor
  · split
    · exact turns_finished (.refl ctx []) _
    · exact (turns_initializeCurrent _ monitor _).after (Scene.covers_aside (by rfl) [])

theorem turns_initializeDatabases (ctx : Context) (monitor : Monitor)
    (load : Load Database.Query) :
    Turns Routine.jobs Routine.Fit ctx [.databases load]
      (ctx.initializeDatabases monitor load) := by
  have h := covers_runDatabases ctx monitor load
  rw [initializeDatabases]
  rcases hout : ctx.runDatabases monitor load with ⟨ctx', load' | (error | reply)⟩
  · rw [hout] at h
    exact ⟨h, trivial⟩
  · rw [hout] at h
    exact turns_finished h _
  · rw [hout] at h
    exact (turns_initializeName ctx' monitor).after h

theorem turns_runInitialize (ctx : Context) (monitor : Monitor) (stage : Initialization) :
    Turns Routine.jobs Routine.Fit ctx (Routine.opening stage).jobs
      (ctx.runInitialize monitor stage) := by
  cases stage with
  | databases load => exact turns_initializeDatabases ctx monitor load
  | current pending => exact turns_initializeCurrent ctx monitor pending
  | settings load => exact turns_initializeSettings ctx monitor load
  | start =>
    rw [runInitialize]
    split
    · -- the load begins in this turn
      exact (turns_initializeDatabases _ monitor _).after ((covers_say ctx _ []).trans
        (Scene.covers_begin _ (.databases { request := .all }) rfl))
    · have hassumed : Edit.Plain Database.Pristine
          (.set [Database.ofRecord (Database.placeholder ctx.source.activeName)]) :=
        .inr ⟨_, rfl, List.forall_mem_singleton.2 (Database.pristine_ofRecord _)⟩
      exact (turns_initializeActive _ monitor).after ((covers_say ctx _ []).trans
        (Scene.covers_editDatabases _ _ hassumed []))

theorem turns_runRefresh (ctx : Context) (monitor : Monitor) (begun : Bool)
    (load : Load Database.Query) :
    Turns Routine.jobs Routine.Fit ctx [.databases load] (ctx.runRefresh monitor begun load) := by
  have hcleared : Covers ctx (if begun then ctx else (ctx.editSettings .clear).2)
      [.databases load] [.databases load] := by
    refine Scene.covers_aside ?_ _
    split <;> rfl
  simp only [runRefresh]
  generalize (if begun then ctx else (ctx.editSettings .clear).2) = cleared at hcleared ⊢
  have hrun := (turns_follow (.refresh true) .databases (covers_runDatabases cleared monitor load)
    (fun _ => rfl) fun _ => trivial).after hcleared
  rcases hout : follow (cleared.runDatabases monitor load) (.refresh true) .databases with
    ⟨ctx', routine | (error | answer)⟩
  · rwa [hout] at hrun
  · rwa [hout] at hrun
  · rw [hout] at hrun
    exact turns_finished (hrun.covers.trans (covers_say ctx' _ [])) _

theorem turns_runQuery (ctx : Context) (query : DirectQuery) (pending : Option Pending) :
    Turns Routine.jobs Routine.Fit ctx [] (ctx.runQuery query pending) := by
  have haside : ∀ server, Covers ctx { ctx with server } [] [] := fun _ =>
    Scene.covers_aside (by rfl) []
  unfold runQuery
  cases pending with
  | none =>
    dsimp only
    split
    · exact ⟨haside _, trivial⟩
    · exact turns_finished (haside _) _
  | some pending =>
    dsimp only
    split
    · exact ⟨.refl ctx [], trivial⟩
    · exact turns_finished (.refl ctx []) _

/-- A turn of a task is a sequence of moves. -/
theorem turns_run (ctx : Context) (monitor : Monitor) {routine : Routine} (hfit : routine.Fit) :
    Turns Routine.jobs Routine.Fit ctx routine.jobs (ctx.run monitor routine) := by
  cases routine with
  | opening stage => exact turns_runInitialize ctx monitor stage
  | refresh begun load => exact turns_runRefresh ctx monitor begun load
  | databases load =>
    exact turns_follow .databases _ (covers_runDatabases ctx monitor load) (fun _ => rfl)
      fun _ => trivial
  | settings load =>
    have haside : Covers ctx (ctx.runSettings monitor load).1 []
        ((ctx.runSettings monitor load).2.jobs fun _ => []) := by
      cases (ctx.runSettings monitor load).2 <;> exact Scene.covers_aside (by rfl) []
    exact turns_follow .settings _ haside (fun _ => rfl) fun _ => trivial
  | schemas db load =>
    exact turns_follow (.schemas db) _ (covers_runSchemas ctx monitor db load) (fun _ => rfl)
      fun _ => trivial
  | tables db schema load =>
    exact turns_follow (.tables db schema) _ (covers_runTables ctx monitor db schema load)
      (fun _ => rfl) fun _ => trivial
  | preload walk =>
    exact turns_followWalk .preload (turns_walkDatabases monitor ctx hfit) (fun _ => rfl)
      fun _ h => h
  | preloadDatabase db walk =>
    exact turns_followWalk (.preloadDatabase db) (turns_walkSchemas monitor db ctx hfit)
      (fun _ => rfl) fun _ h => h
  | preloadSchema db schema depth load =>
    cases depth with
    | zero => exact turns_finished (Scene.covers_unbegun ctx (.tables db schema load) hfit) _
    | succ depth =>
      exact turns_follow (.preloadSchema db schema (depth + 1)) _
        (covers_runTables ctx monitor db schema load) (fun _ => rfl) fun _ => trivial
  | query query pending => exact turns_runQuery ctx query pending

/-- So is what happens when a task is dropped. -/
theorem covers_abandon (ctx : Context) (routine : Routine) :
    Covers ctx (ctx.abandon routine) routine.jobs [] := by
  cases routine with
  | opening stage =>
    cases stage with
    | databases load => exact Scene.covers_drop ctx (.databases load)
    | settings load => exact Scene.covers_aside (by rfl) []
    | start | current => exact .refl ctx []
  | refresh _ load | databases load => exact Scene.covers_drop ctx (.databases load)
  | settings load => exact Scene.covers_aside (by rfl) []
  | query => exact .refl ctx []
  | schemas db load => exact Scene.covers_drop ctx (.schemas db load)
  | tables db schema load | preloadSchema db schema _ load =>
    exact Scene.covers_drop ctx (.tables db schema load)
  | preload walk => exact covers_abandonDatabaseWalk ctx walk
  | preloadDatabase db walk => exact covers_abandonSchemaWalk db ctx walk

end Routines

end Context

end CatalogBrowser
