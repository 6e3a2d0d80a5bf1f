import CatalogBrowser.Proofs.DataSource.Preloading

/-!
# Sessions of readers

Calls that read the databases, schemas and tables, and calls that preload them, run on a data source
that nothing was going on in, in any order and side by side, while the server changes. They may
fail, be cancelled or be dropped at any point. Whatever becomes of them, each cache is as it was or
was filled once, and a preload that ends well has loaded all that it went for.

## Main definitions

* `Routine.Reads`, `Session.Action.Reads` - the calls, and what else may happen.
* `Routine.Reaches` - the caches that a call may read.
* `Session.Heard`, `Session.Fails` - what the server had, and whether a call came to a bad end.
* `Session.Readership` - what the calls have made of the data source.

## Main statements

* `Context.reads_run` - a turn of a call.
* `Session.readership_acts` - any sequence of actions.
-/

namespace CatalogBrowser

open Cache (Load)

/-- How deep a cache is in the tree. -/
def Site.level : Site → Nat
  | none => 0
  | some (.schemas _) => 1
  | some (.tables _ _) => 2

/-- A load of a collection or of one object that was not run yet. -/
def Cache.Load.Reads {κ : Type} (load : Load κ) : Prop :=
  load = .unrun ∨ ∃ identity, load = .sought identity

/-- A call that reads the tree: one of its caches, or all of them down to a depth. -/
def Routine.Reads : Routine → Prop
  | .databases load => load.Reads
  | .schemas _ load => load.Reads
  | .tables _ _ load => load.Reads
  | .preload walk => ∃ depth, walk = .ofDepth depth
  | _ => False

/-- The caches that a call may read. -/
def Routine.Reaches (site : Site) : Routine → Prop
  | .databases _ => site = none
  | .schemas db _ => site = some (.schemas db)
  | .tables db schema _ => site = some (.tables db schema)
  | .preload walk => ∃ depth, walk = .ofDepth depth ∧ site.level < depth
  | _ => False

/-- What a call has yet to read is in reach. -/
def Routine.Heads (reach : Site → Prop) (ds : DataSource) : Routine → Prop
  | .databases _ => reach none
  | .schemas db _ => reach (some (.schemas db))
  | .tables db schema _ => reach (some (.tables db schema))
  | .preload walk => ∃ depth, ReachesTo reach depth ∧ walk.Heads ds depth
  | _ => False

section Load

variable {κ : Type} {load : Load κ}

theorem Cache.Load.Reads.plain (h : load.Reads) : load.Plain := by
  rcases h with rfl | ⟨identity, rfl⟩
  · exact .inl .unrun
  · exact .inr (.sought identity)

theorem Cache.Load.Reads.stage (h : load.Reads) : load.stage = .start := by
  rcases h with rfl | ⟨identity, rfl⟩ <;> rfl

end Load

/-- The loads of a call that was not run yet. -/
theorem Routine.Reads.jobs {routine : Routine} (h : routine.Reads) (ds : DataSource) :
    ∀ job ∈ routine.jobs, job.stage = .start ∧ job.Asks ds := by
  cases routine with
  | databases load =>
    have hload : load.Reads := h
    exact List.forall_mem_singleton.2
      ⟨hload.stage, DataSource.asked_of_start _ hload.plain hload.stage⟩
  | schemas db load =>
    have hload : load.Reads := h
    exact List.forall_mem_singleton.2
      ⟨hload.stage, hload.plain, fun _ _ => DataSource.asked_of_start _ hload.plain hload.stage⟩
  | tables db schema load =>
    have hload : load.Reads := h
    exact List.forall_mem_singleton.2
      ⟨hload.stage, hload.plain, fun _ _ => DataSource.asked_of_start _ hload.plain hload.stage⟩
  | preload walk =>
    obtain ⟨depth, rfl⟩ := h
    exact List.forall_mem_singleton.2 ⟨rfl, DataSource.asked_unrun _⟩
  | _ => exact h.elim

theorem DataSource.Advances.routine {ds ds' : DataSource} (h : ds.Advances ds')
    {reach : Site → Prop} {routine : Routine} (hheads : routine.Heads reach ds) :
    routine.Heads reach ds' := by
  cases routine with
  | preload walk =>
    obtain ⟨depth, hreach, hwalk⟩ := hheads
    exact ⟨depth, hreach, h.databaseWalk hwalk⟩
  | _ => exact hheads

namespace Context

variable {base : DataSource} {heard : Document → Prop} {reach : Site → Prop} {fails : Prop}
  {before behind : List Job} {ctx : Context}

section Follow

variable {σ : Type} {f : σ → List Job} {state : σ → Routine}

/-- A call that follows a load reads what the load reads. -/
theorem Reads.follow {out : Context × Poll σ Cache.Result}
    (h : Reads base heard reach fails before behind f ctx out)
    (hjobs : ∀ load, (state load).jobs = f load) (answer : Cache.Reply → Answer) :
    Reads base heard reach fails before behind Routine.jobs ctx
      (Context.follow out state answer) := by
  obtain ⟨ctx', load | (error | reply)⟩ := out
  · exact h.reports rfl (hjobs load) fun hfails => absurd hfails (Poll.not_fails_waiting load)
  · exact h.reports rfl rfl fun _ => ⟨_, rfl⟩
  · exact h.reports rfl rfl fun hfails => absurd hfails (Poll.not_fails_ok reply)

theorem exists_of_follow {out : Context × Poll σ Cache.Result} {answer : Cache.Reply → Answer}
    {left : Routine} (h : (Context.follow out state answer).2 = .waiting left) :
    ∃ load, left = state load := by
  obtain ⟨ctx', load | (error | reply)⟩ := out
  · exact ⟨load, (Poll.waiting.inj h).symm⟩
  · cases h
  · cases h

theorem Reads.followWalk {out : Context × Poll σ WalkResult}
    (h : Reads base heard reach fails before behind f ctx out)
    (hjobs : ∀ walk, (state walk).jobs = f walk) :
    Reads base heard reach fails before behind Routine.jobs ctx
      (Context.followWalk out state) := by
  obtain ⟨ctx', walk | (error | ⟨⟩)⟩ := out
  · exact h.reports rfl (hjobs walk) fun hfails => absurd hfails (Poll.not_fails_waiting walk)
  · exact h.reports rfl rfl fun _ => ⟨_, rfl⟩
  · exact h.reports rfl rfl fun hfails => absurd hfails (Poll.not_fails_ok ())

end Follow

variable {routine : Routine} {monitor : Monitor}

theorem loadedTo_run {walk : DatabaseWalk} {depth : Nat}
    (h : Walks base heard reach fails before behind DatabaseWalk.jobs
      (fun ds walk => walk.Heads ds depth) (·.LoadedTo depth) ctx
      (ctx.walkDatabases monitor walk)) :
    (∀ left, (ctx.run monitor (.preload walk)).2 = .waiting left → ∃ walk', left = .preload walk' ∧
        walk'.Heads (ctx.run monitor (.preload walk)).1.source depth) ∧
      ∀ answer, (ctx.run monitor (.preload walk)).2 = .finished (.ok answer) →
        (ctx.run monitor (.preload walk)).1.source.LoadedTo depth := by
  rw [run]
  generalize ctx.walkDatabases monitor walk = out at h
  obtain ⟨ctx', walk' | (error | ⟨⟩)⟩ := out
  · refine ⟨fun left hleft => ?_, fun answer hanswer => ?_⟩
    · obtain rfl := Poll.waiting.inj hleft
      exact ⟨walk', rfl, h.heads walk' rfl⟩
    · cases hanswer
  · refine ⟨fun left hleft => ?_, fun answer hanswer => ?_⟩
    · cases hleft
    · cases hanswer
  · refine ⟨fun left hleft => ?_, fun answer hanswer => h.done rfl⟩
    cases hleft

variable (hbase : ∀ site b, base.site? site = some b → b.Resting)
include hbase

/-- A turn of a call reads, and leaves the call with what it has yet to read ahead of it. -/
theorem reads_run
    (h : base.Reading heard reach fails ctx.source (before ++ routine.jobs ++ behind))
    (hheard : heard ctx.server.document) (hheads : routine.Heads reach ctx.source)
    (monitor : Monitor) :
    Reads base heard reach fails before behind Routine.jobs ctx (ctx.run monitor routine) ∧
      ∀ left, (ctx.run monitor routine).2 = .waiting left →
        left.Heads reach (ctx.run monitor routine).1.source := by
  cases routine with
  | databases load =>
    obtain ⟨hreads, -⟩ := reads_runDatabases hbase h hheads hheard monitor
    refine ⟨hreads.follow (fun _ => rfl) .databases, fun left hleft => ?_⟩
    obtain ⟨load', rfl⟩ := exists_of_follow hleft
    exact hheads
  | schemas db load =>
    obtain ⟨hreads, -⟩ := reads_runSchemas hbase h hheads hheard monitor
    refine ⟨hreads.follow (fun _ => rfl) (.schemas db), fun left hleft => ?_⟩
    obtain ⟨load', rfl⟩ := exists_of_follow hleft
    exact hheads
  | tables db schema load =>
    obtain ⟨hreads, -⟩ := reads_runTables hbase h hheads hheard monitor
    refine ⟨hreads.follow (fun _ => rfl) (.tables db schema), fun left hleft => ?_⟩
    obtain ⟨load', rfl⟩ := exists_of_follow hleft
    exact hheads
  | preload walk =>
    obtain ⟨depth, hreach, hwalk⟩ := hheads
    have hwalks := walks_walkDatabases hbase h hreach hheard hwalk monitor
    refine ⟨hwalks.toReads.followWalk fun _ => rfl, fun left hleft => ?_⟩
    obtain ⟨walk', rfl, hheads'⟩ := (loadedTo_run hwalks).1 left hleft
    exact ⟨depth, hreach, hheads'⟩
  | _ => exact hheads.elim

/-- A call is dropped. -/
theorem forgoes_abandonRoutine
    (h : base.Reading heard reach fails ctx.source (before ++ routine.jobs ++ behind))
    (hheads : routine.Heads reach ctx.source) :
    Forgoes base heard reach (before ++ behind) ctx (ctx.abandon routine) := by
  cases routine with
  | databases load => exact forgoes_abandon hbase h
  | schemas db load => exact forgoes_abandon hbase h
  | tables db schema load => exact forgoes_abandon hbase h
  | preload walk => exact forgoes_abandonDatabaseWalk hbase h
  | _ => exact hheads.elim

end Context

namespace Session

/-- What may happen to a session of readers. -/
def Action.Reads : Action → Prop
  | .start _ routine _ => routine.Reads
  | .poll _ | .drop _ | .cancel _ | .adopt _ _ | .serve _ => True
  | _ => False

/-- A document that the server had at some point. -/
def Heard (s : Session) (actions : List Action) (document : Document) : Prop :=
  ∃ before, before <+: actions ∧ (s.acts before).context.server.document = document

/-- A cache that one of the calls may read. -/
def Reached (actions : List Action) (site : Site) : Prop :=
  ∃ name routine monitor, .start name routine monitor ∈ actions ∧ routine.Reaches site

/-- A call failed or was dropped. -/
def Fails (s : Session) (actions : List Action) : Prop :=
  (∃ id, .drop id ∈ actions) ∨ ∃ id name error, s.started ≤ id ∧
    (id, name, .error error) ∈ (s.acts actions).finished

/-- A preload to some depth is one of the calls. -/
def Preloads (actions : List Action) (depth : Nat) : Prop :=
  ∃ name monitor, .start name (.preload (.ofDepth depth)) monitor ∈ actions

/-- What calls have made of a data source that nothing was going on in. Some of them go for all
caches down to a depth. -/
structure Readership (s : Session) (heard : Document → Prop) (reach : Site → Prop)
    (fails : Prop) (goals : Nat → Prop) (s' : Session) : Prop where
  reading : s.source.Reading heard reach fails s'.source s'.scene.jobs
  advances : s.source.Advances s'.source
  since : ∀ task ∈ s'.tasks, s.started ≤ task.id
  heads : ∀ task ∈ s'.tasks, task.routine.Heads reach s'.source
  reaches : ∀ depth, goals depth → ReachesTo reach depth
  goals : ∀ depth, goals depth → fails ∨ s'.source.LoadedTo depth ∨
    ∃ task ∈ s'.tasks, ∃ walk, task.routine = .preload walk ∧ walk.Heads s'.source depth

variable {s s' : Session} {actions : List Action} {action : Action} {heard : Document → Prop}
  {reach : Site → Prop} {fails fails' : Prop} {goals goals' : Nat → Prop}

/-- Nothing that matters to the calls happens. -/
theorem Readership.congr {s'' : Session} (h : s.Readership heard reach fails goals s')
    (hsource : s''.source = s'.source) (htasks : s''.tasks = s'.tasks) :
    s.Readership heard reach fails goals s'' where
  reading := by
    rw [scene, htasks, hsource]
    exact h.reading
  advances := hsource ▸ h.advances
  since := htasks ▸ h.since
  heads := by
    rw [htasks, hsource]
    exact h.heads
  reaches := h.reaches
  goals := by
    rw [htasks, hsource]
    exact h.goals

theorem Readership.mono (h : s.Readership heard reach fails goals s') (hfails : fails → fails')
    (hgoals : ∀ depth, goals' depth → goals depth) : s.Readership heard reach fails' goals' s' where
  reading := h.reading.mono hfails
  advances := h.advances
  since := h.since
  heads := h.heads
  reaches depth hgoal := h.reaches depth (hgoals depth hgoal)
  goals depth hgoal := (h.goals depth (hgoals depth hgoal)).imp_left hfails

/-- A call begins. -/
theorem Readership.start (h : s.Readership heard reach fails goals s') {routine : Routine}
    (hroutine : routine.Reads) (hheads : routine.Heads reach s'.source)
    (hreaches : ∀ depth, routine = .preload (.ofDepth depth) → ReachesTo reach depth)
    (hstarted : s.started ≤ s'.started) (name : String) (monitor : Option String) :
    s.Readership heard reach fails
      (fun depth => goals depth ∨ routine = .preload (.ofDepth depth))
      (s'.start name routine monitor) := by
  rw [Session.start]
  rcases s'.monitors.resolveOrFresh s'.context.monitors monitor with ⟨names, monitors, own⟩
  have hreading := h.reading
  rw [← List.append_nil s'.scene.jobs] at hreading
  have hbegun := hreading.begin (hroutine.jobs s'.source)
  refine ⟨?_, h.advances, ?_, ?_, fun depth hgoal => hgoal.elim (h.reaches depth) (hreaches depth),
    fun depth hgoal => ?_⟩
  · rw [scene, List.flatMap_append, List.flatMap_singleton, ← List.append_nil (_ ++ _)]
    exact hbegun
  · intro task htask
    rcases List.mem_append.1 htask with hold | hnew
    · exact h.since task hold
    · obtain rfl := List.mem_singleton.1 hnew
      exact hstarted
  · intro task htask
    rcases List.mem_append.1 htask with hold | hnew
    · exact h.heads task hold
    · obtain rfl := List.mem_singleton.1 hnew
      exact hheads
  · rcases hgoal with hgoal | rfl
    · rcases h.goals depth hgoal with hfails | hloaded | ⟨task, htask, hwalk⟩
      · exact .inl hfails
      · exact .inr (.inl hloaded)
      · exact .inr (.inr ⟨task, List.mem_append_left _ htask, hwalk⟩)
    · exact .inr (.inr ⟨_, List.mem_append_right _ (List.mem_singleton_self _), _, rfl, rfl, .unrun,
        fun _ => rfl⟩)

/-- What is left of a call takes its place. -/
theorem Readership.replaced (h : s.Readership heard reach fails goals s') {s'' : Session}
    {task : Task} {left before behind : List Task} (htasks : s'.tasks = before ++ task :: behind)
    (htasks' : s''.tasks = before ++ left ++ behind)
    (hreading : s.source.Reading heard reach fails' s''.source
      (before.flatMap (·.routine.jobs) ++ left.flatMap (·.routine.jobs) ++
        behind.flatMap (·.routine.jobs)))
    (hadvances : s'.source.Advances s''.source) (hfails : fails → fails')
    (hids : ∀ other ∈ left, other.id = task.id)
    (hheads : ∀ other ∈ left, other.routine.Heads reach s''.source)
    (hgoal : ∀ depth walk, goals depth → task.routine = .preload walk →
      walk.Heads s'.source depth → fails' ∨ s''.source.LoadedTo depth ∨
        ∃ other ∈ left, ∃ walk', other.routine = .preload walk' ∧
          walk'.Heads s''.source depth) :
    s.Readership heard reach fails' goals s'' := by
  -- the other calls stay, and what is loaded stays loaded for them
  have hmem : ∀ {other}, other ∈ s'.tasks ↔ other = task ∨ other ∈ before ∨ other ∈ behind := by
    intro other
    rw [htasks]
    simp only [List.mem_append, List.mem_cons]
    tauto
  have hmem' : ∀ {other}, other ∈ s''.tasks ↔ other ∈ left ∨ other ∈ before ∨ other ∈ behind := by
    intro other
    rw [htasks']
    simp only [List.mem_append]
    tauto
  refine ⟨?_, h.advances.trans hadvances, fun other hother => ?_, fun other hother => ?_, h.reaches,
    fun depth hdepth => ?_⟩
  · rw [scene, htasks', List.flatMap_append, List.flatMap_append]
    exact hreading
  · rcases hmem'.1 hother with hleft | hstays
    · rw [hids other hleft]
      exact h.since task (hmem.2 (.inl rfl))
    · exact h.since other (hmem.2 (.inr hstays))
  · rcases hmem'.1 hother with hleft | hstays
    · exact hheads other hleft
    · exact hadvances.routine (h.heads other (hmem.2 (.inr hstays)))
  · rcases h.goals depth hdepth with hfailed | hloaded | ⟨other, hother, walk, hroutine, hwalk⟩
    · exact .inl (hfails hfailed)
    · exact .inr (.inl (hadvances.loadedTo hloaded))
    · rcases hmem.1 hother with rfl | hstays
      · rcases hgoal depth walk hdepth hroutine hwalk with hfailed | hloaded | ⟨left', hleft, hnew⟩
        · exact .inl hfailed
        · exact .inr (.inl hloaded)
        · exact .inr (.inr ⟨left', hmem'.2 (.inl hleft), hnew⟩)
      · exact .inr (.inr ⟨other, hmem'.2 (.inr hstays), walk, hroutine,
          hadvances.databaseWalk hwalk⟩)

/-- A call has its turn. -/
theorem Readership.poll (h : s.Readership heard reach fails goals s')
    (hbase : ∀ site b, s.source.site? site = some b → b.Resting) (hregular : s'.Regular)
    {task : Task} (hmem : task ∈ s'.tasks) (hheard : heard s'.context.server.document) :
    s.Readership heard reach
      (fails ∨ (s'.context.run task.monitor task.routine).2.Fails) goals (s'.poll task) := by
  obtain ⟨before, behind, htasks, hothers⟩ := hregular.split hmem
  have hreading := h.reading
  rw [scene, htasks, List.flatMap_append, List.flatMap_cons, ← List.append_assoc] at hreading
  obtain ⟨hreads, hheads⟩ :=
    Context.reads_run hbase hreading hheard (h.heads task hmem) task.monitor
  -- a preload goes on with its goal ahead, or has reached it
  have hgoal : ∀ depth walk, goals depth → task.routine = .preload walk →
      walk.Heads s'.source depth →
      (∀ left, (s'.context.run task.monitor task.routine).2 = .waiting left →
        ∃ walk', left = .preload walk' ∧
          walk'.Heads (s'.context.run task.monitor task.routine).1.source depth) ∧
        ∀ answer, (s'.context.run task.monitor task.routine).2 = .finished (.ok answer) →
          (s'.context.run task.monitor task.routine).1.source.LoadedTo depth := by
    intro depth walk hgoal hroutine hwalk
    rw [hroutine] at hreading ⊢
    exact Context.loadedTo_run (Context.walks_walkDatabases hbase hreading
      (h.reaches depth hgoal) hheard hwalk task.monitor)
  rw [Session.poll]
  generalize s'.context.run task.monitor task.routine = out at hreads hheads hgoal
  obtain ⟨context, left | result⟩ := out
  · have hleft := map_split htasks hothers left
    rw [← List.singleton_append, ← List.append_assoc] at hleft
    refine h.replaced htasks hleft ?_ hreads.advances .inl (List.forall_mem_singleton.2 rfl)
      (List.forall_mem_singleton.2 (hheads left rfl)) ?_
    · rw [List.flatMap_singleton]
      exact hreads.reading
    · intro depth walk hdepth hroutine hwalk
      obtain ⟨walk', rfl, hwalk'⟩ := (hgoal depth walk hdepth hroutine hwalk).1 left rfl
      exact .inr (.inr ⟨_, List.mem_singleton_self _, walk', rfl, hwalk'⟩)
  · have hleft := filter_split htasks hothers
    rw [← List.append_nil before] at hleft
    refine h.replaced htasks hleft hreads.reading hreads.advances .inl (List.forall_mem_nil _)
      (List.forall_mem_nil _) ?_
    intro depth walk hdepth hroutine hwalk
    cases result with
    | error error => exact .inl (.inr ⟨error, rfl⟩)
    | ok answer => exact .inr (.inl ((hgoal depth walk hdepth hroutine hwalk).2 answer rfl))

/-- A call is dropped. -/
theorem Readership.drop (h : s.Readership heard reach fails goals s')
    (hbase : ∀ site b, s.source.site? site = some b → b.Resting) (hregular : s'.Regular)
    {task : Task} (hmem : task ∈ s'.tasks) :
    s.Readership heard reach True goals (s'.drop task) := by
  obtain ⟨before, behind, htasks, hothers⟩ := hregular.split hmem
  have hreading := h.reading
  rw [scene, htasks, List.flatMap_append, List.flatMap_cons, ← List.append_assoc] at hreading
  have hforgoes := Context.forgoes_abandonRoutine hbase hreading (h.heads task hmem)
  have hleft : (s'.drop task).tasks = before ++ [] ++ behind := by
    rw [List.append_nil]
    exact filter_split htasks hothers
  refine h.replaced htasks hleft ?_ hforgoes.advances (fun _ => trivial) (List.forall_mem_nil _)
    (List.forall_mem_nil _) fun _ _ _ _ _ => .inl trivial
  rw [List.flatMap_nil, List.append_nil]
  exact hforgoes.reading

theorem Action.Reads.proper (h : action.Reads) : action.Proper := by
  cases action with
  | start name routine monitor =>
    cases routine with
    | databases load | schemas db load | tables db schema load =>
      rcases h with rfl | ⟨identity, rfl⟩ <;> rfl
    | preload walk => exact h
    | _ => exact h.elim
  | poll | drop | cancel | adopt | serve => trivial
  | _ => exact h.elim

/-- What finished stays finished. -/
theorem mem_finished_act {entry : Nat × String × Routine.Result} (h : entry ∈ s.finished) :
    entry ∈ (s.act action).finished := by
  cases action with
  | poll id =>
    rw [act]
    cases s.task? id with
    | none => exact h
    | some task =>
      rw [Option.elim_some, Session.poll]
      split
      · exact h
      · exact List.mem_append_left _ h
  | drop id =>
    rw [act]
    cases s.task? id <;> exact h
  | activate db =>
    rw [act, activate]
    split <;> exact h
  | start | cancel | adopt | serve | editDatabases | editSettings | editSchemas | editTables =>
    exact h

theorem Fails.concat (h : s.Fails actions) : s.Fails (actions ++ [action]) := by
  rcases h with ⟨id, hid⟩ | ⟨id, name, error, hid, hmem⟩
  · exact .inl ⟨id, List.mem_append_left _ hid⟩
  · rw [Fails, acts_concat]
    exact .inr ⟨id, name, error, hid, mem_finished_act hmem⟩

/-- A call that fails in its turn. -/
theorem mem_finished_poll {task : Task} {error : Failure}
    (h : (s.context.run task.monitor task.routine).2 = .finished (.error error)) :
    (task.id, task.name, .error error) ∈ (s.poll task).finished := by
  rw [Session.poll]
  generalize s.context.run task.monitor task.routine = out at h
  obtain ⟨context, poll⟩ := out
  obtain rfl := h
  exact List.mem_append_right _ (List.mem_singleton_self _)

theorem preloads_concat_iff {depth : Nat} : Preloads (actions ++ [action]) depth ↔
    Preloads actions depth ∨
      ∃ name monitor, action = .start name (.preload (.ofDepth depth)) monitor := by
  simp only [Preloads, List.mem_append, List.mem_singleton, exists_or, eq_comm]

theorem reachesTo_of_mem {name : String} {depth : Nat} {monitor : Option String}
    (hmem : .start name (.preload (.ofDepth depth)) monitor ∈ actions) :
    ReachesTo (Reached actions) depth where
  databases hdepth := ⟨name, _, monitor, hmem, depth, rfl, hdepth⟩
  below db :=
    { schemas := fun hdepth => ⟨name, _, monitor, hmem, depth, rfl, by
        rw [Site.level]
        omega⟩
      tables := fun hdepth schema => ⟨name, _, monitor, hmem, depth, rfl, by
        rw [Site.level]
        omega⟩ }

/-- A call that begins has all that it goes for ahead of it. -/
theorem heads_of_mem {name : String} {routine : Routine} {monitor : Option String}
    (hmem : .start name routine monitor ∈ actions) (hreads : routine.Reads) (ds : DataSource) :
    routine.Heads (Reached actions) ds := by
  cases routine with
  | databases load => exact ⟨name, _, monitor, hmem, rfl⟩
  | schemas db load => exact ⟨name, _, monitor, hmem, rfl⟩
  | tables db schema load => exact ⟨name, _, monitor, hmem, rfl⟩
  | preload walk =>
    obtain ⟨depth, rfl⟩ := hreads
    exact ⟨depth, reachesTo_of_mem hmem, rfl, .unrun, fun _ => rfl⟩
  | _ => exact hreads.elim

theorem started_le_acts (s : Session) (actions : List Action) :
    s.started ≤ (s.acts actions).started := by
  induction actions generalizing s with
  | nil => exact Nat.le_refl _
  | cons action rest ih => exact Nat.le_trans (s.started_le_act action) (ih (s.act action))

/-- The next action of a reader only reads. -/
theorem Readership.act {before : List Action} (hs : s.Reachable) (hidle : s.tasks = [])
    (hactions : ∀ action ∈ actions, action.Reads) (hbefore : before ++ [action] <+: actions)
    (h : s.Readership (s.Heard actions) (Reached actions) (s.Fails before) (Preloads before)
      (s.acts before)) :
    s.Readership (s.Heard actions) (Reached actions) (s.Fails (before ++ [action]))
      (Preloads (before ++ [action])) (s.acts (before ++ [action])) := by
  have hbegun : before <+: actions := (List.prefix_append before [action]).trans hbefore
  have haction : action ∈ actions := hbefore.subset (by simp)
  have hregular : (s.acts before).Regular :=
    (hs.acts fun other hother => (hactions other (hbegun.subset hother)).proper).regular
  have hbase : ∀ site b, s.source.site? site = some b → b.Resting := fun site b => hs.rests hidle
  -- only a call that begins brings a new goal
  have hquiet : (∀ name routine monitor, action ≠ .start name routine monitor) →
      ∀ depth, Preloads (before ++ [action]) depth → Preloads before depth := by
    intro hstart depth hdepth
    rcases preloads_concat_iff.1 hdepth with hold | ⟨name, monitor, rfl⟩
    · exact hold
    · exact absurd rfl (hstart _ _ _)
  rw [acts_concat]
  cases action with
  | start name routine monitor =>
    have hroutine : routine.Reads := hactions _ haction
    have hreaches : ∀ depth, routine = .preload (.ofDepth depth) →
        ReachesTo (Reached actions) depth := by
      rintro depth rfl
      exact reachesTo_of_mem haction
    refine (h.start hroutine (heads_of_mem haction hroutine _) hreaches
      (s.started_le_acts before) name monitor).mono .concat fun depth hdepth => ?_
    rcases preloads_concat_iff.1 hdepth with hold | ⟨_, _, hsame⟩
    · exact .inl hold
    · exact .inr (Action.start.inj hsame).2.1
  | poll id =>
    have hquiet := hquiet fun _ _ _ hsame => by cases hsame
    rw [Session.act]
    cases htask : (s.acts before).task? id with
    | none => exact h.mono .concat hquiet
    | some task =>
      obtain ⟨hpending, rfl⟩ := task?_eq_some htask
      refine (h.poll hbase hregular hpending ⟨before, hbegun, rfl⟩).mono ?_ hquiet
      rintro (hfails | ⟨error, herror⟩)
      · exact hfails.concat
      · refine .inr ⟨task.id, task.name, error, h.since task hpending, ?_⟩
        rw [acts_concat, Session.act, htask]
        exact mem_finished_poll herror
  | drop id =>
    have hquiet := hquiet fun _ _ _ hsame => by cases hsame
    rw [Session.act]
    cases htask : (s.acts before).task? id with
    | none => exact h.mono .concat hquiet
    | some task =>
      refine (h.drop hbase hregular (task?_eq_some htask).1).mono (fun _ => ?_) hquiet
      exact .inl ⟨id, by simp⟩
  | cancel | adopt | serve =>
    have hquiet := hquiet fun _ _ _ hsame => by cases hsame
    refine Readership.mono ?_ Fails.concat hquiet
    exact h.congr rfl rfl
  | _ => exact (hactions _ haction).elim

end Session

end CatalogBrowser
