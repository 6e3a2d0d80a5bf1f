import CatalogBrowser.Proofs.DataSource.Action
import CatalogBrowser.Proofs.DataSource.Frame

/-!
# The database that is active

The active database is chosen by the connection, by the user, or by the initialisation, which asks
the server for the current one if none is known by then. It does not look again when the answer
comes, so it overrules a choice that was made while it waited. Nothing else takes a choice back.
And what is the default instance without being active, as the database that stands in for it, is
not made active by choosing it.

## Main definitions

* `Session.Chosen` - a database is active, and only some tasks may still overrule it.
* `Context.Learns` - a task has its answer.
* `Session.Overruled` - one of these tasks overrules the choice.

## Main statements

* `Session.chosen_acts`, `Session.Overruled.active` - a choice holds unless it is overruled, and not
  otherwise.
* `Session.defaultInstance_of_chosen` - what is active is the default instance, if it is cached.
* `Session.defaultInstance_activate` - the database that was chosen remains the default instance.
-/

namespace CatalogBrowser

/-- The query for the current database that a task waits for. -/
def Routine.current? : Routine → Option Pending
  | .opening (.current pending) => some pending
  | _ => none

theorem Routine.current?_eq_some_iff {routine : Routine} {pending : Pending} :
    routine.current? = some pending ↔ routine = .opening (.current pending) := by
  rcases routine with (_ | _ | _ | _) | _ <;> simp [current?]

/-- A task that was not run yet waits for nothing. -/
theorem Routine.Called.current? {routine : Routine} (h : routine.Called) :
    routine.current? = none := by
  cases routine with
  | opening stage =>
    obtain rfl := h
    rfl
  | _ => rfl

/-- The database that is the current one on the server, or else the default database. -/
def Document.active (document : Document) : String :=
  document.currentDatabase.getD defaultDatabase

namespace Context

variable {ctx : Context} {monitor : Monitor} {name : String}

/-- A database is active after a turn, and the task does not wait for the current one. -/
def Leaves (name : String) (out : Context × Poll Routine Routine.Result) : Prop :=
  out.1.source.active = some name ∧ ∀ left, out.2 = .waiting left → left.current? = none

theorem leaves_finished (h : ctx.source.active = some name) (result : Routine.Result) :
    Leaves name (ctx, .finished result) :=
  ⟨h, fun _ hleft => by cases hleft⟩

theorem leaves_waiting (h : ctx.source.active = some name) {routine : Routine}
    (hcurrent : routine.current? = none) : Leaves name (ctx, .waiting routine) := by
  refine ⟨h, fun left hleft => ?_⟩
  obtain rfl := Poll.waiting.inj hleft
  exact hcurrent

theorem active_runSettings (ctx : Context) (monitor : Monitor)
    (load : Cache.Load Setting.Query) :
    (ctx.runSettings monitor load).1.source.active = ctx.source.active := rfl

theorem leaves_initializeSettings (h : ctx.source.active = some name)
    (load : Cache.Load Setting.Query) : Leaves name (ctx.initializeSettings monitor load) := by
  have hrun := (ctx.active_runSettings monitor load).trans h
  rw [initializeSettings]
  rcases hout : ctx.runSettings monitor load with ⟨ctx', load' | (error | reply)⟩
  · rw [hout] at hrun
    exact leaves_waiting hrun rfl
  · rw [hout] at hrun
    simp only [initialized]
    split
    · exact leaves_finished hrun _
    · exact leaves_finished hrun _
  · rw [hout] at hrun
    exact leaves_finished hrun _

/-- What stands for the active database becomes active. -/
theorem leaves_initializeActive (ctx : Context) (monitor : Monitor) :
    Leaves ctx.source.activeName (ctx.initializeActive monitor) :=
  leaves_initializeSettings rfl _

theorem leaves_initializeActive_of_active (h : ctx.source.active = some name) :
    Leaves name (ctx.initializeActive monitor) := by
  have hactive := ctx.leaves_initializeActive monitor
  rwa [DataSource.activeName, h, Option.getD_some] at hactive

theorem leaves_initializeDatabases (h : ctx.source.active = some name)
    (load : Cache.Load Database.Query) : Leaves name (ctx.initializeDatabases monitor load) := by
  have hrun := (ctx.frame_runDatabases monitor load).active.trans h
  rw [initializeDatabases]
  rcases hout : ctx.runDatabases monitor load with ⟨ctx', load' | (error | reply)⟩
  · rw [hout] at hrun
    exact leaves_waiting hrun rfl
  · rw [hout] at hrun
    exact leaves_finished hrun _
  · rw [hout] at hrun
    dsimp only
    rw [initializeName, hrun]
    exact leaves_initializeActive_of_active hrun

/-- What waits is a load, and what a load changes does not matter. -/
theorem leaves_follow {σ : Type} {out : Context × Poll σ Cache.Result} {state : σ → Routine}
    {answer : Cache.Reply → Answer} (h : out.1.source.active = some name)
    (hstate : ∀ load, (state load).current? = none) : Leaves name (follow out state answer) := by
  rcases out with ⟨ctx', load | (error | reply)⟩
  · exact leaves_waiting h (hstate load)
  · exact leaves_finished h _
  · exact leaves_finished h _

theorem leaves_followWalk {σ : Type} {out : Context × Poll σ WalkResult} {state : σ → Routine}
    (h : out.1.source.active = some name) (hstate : ∀ walk, (state walk).current? = none) :
    Leaves name (followWalk out state) := by
  rcases out with ⟨ctx', walk | (error | ⟨⟩)⟩
  · exact leaves_waiting h (hstate walk)
  · exact leaves_finished h _
  · exact leaves_finished h _

theorem leaves_runInitialize (h : ctx.source.active = some name) {stage : Initialization}
    (hcurrent : (Routine.opening stage).current? = none) :
    Leaves name (ctx.runInitialize monitor stage) := by
  cases stage with
  | start =>
    rw [runInitialize]
    dsimp only
    generalize hsaid : ctx.say _ = said
    have hactive : said.source.active = some name := hsaid ▸ h
    split
    · exact leaves_initializeDatabases hactive _
    · exact leaves_initializeActive_of_active hactive
  | databases load => exact leaves_initializeDatabases h load
  | current pending => cases hcurrent
  | settings load => exact leaves_initializeSettings h load

theorem leaves_runRefresh (h : ctx.source.active = some name) (begun : Bool)
    (load : Cache.Load Database.Query) : Leaves name (ctx.runRefresh monitor begun load) := by
  have hcleared : (if begun then ctx else (ctx.editSettings .clear).2).source.active =
      some name := by
    split
    · exact h
    · exact h
  simp only [runRefresh]
  generalize (if begun then ctx else (ctx.editSettings .clear).2) = cleared at hcleared ⊢
  have hrun : Leaves name (follow (cleared.runDatabases monitor load) (.refresh true)
      .databases) :=
    leaves_follow ((cleared.frame_runDatabases monitor load).active.trans hcleared) fun _ => rfl
  rcases hout : follow (cleared.runDatabases monitor load) (.refresh true) .databases with
    ⟨ctx', left | (error | answer)⟩
  · rwa [hout] at hrun
  · rwa [hout] at hrun
  · rw [hout] at hrun
    exact leaves_finished hrun.1 _

theorem leaves_runQuery (h : ctx.source.active = some name) (query : DirectQuery)
    (pending : Option Pending) : Leaves name (ctx.runQuery query pending) := by
  unfold runQuery
  cases pending with
  | none =>
    dsimp only
    split
    · exact leaves_waiting h rfl
    · exact leaves_finished h _
  | some pending =>
    dsimp only
    split
    · exact leaves_waiting h rfl
    · exact leaves_finished h _

/-- A task that does not wait for the current database leaves the choice as it is. -/
theorem leaves_run (h : ctx.source.active = some name) {routine : Routine}
    (hcurrent : routine.current? = none) : Leaves name (ctx.run monitor routine) := by
  cases routine with
  | opening stage => exact leaves_runInitialize h hcurrent
  | refresh begun load => exact leaves_runRefresh h begun load
  | databases load =>
    exact leaves_follow ((ctx.frame_runDatabases monitor load).active.trans h) fun _ => rfl
  | settings load =>
    exact leaves_follow ((ctx.active_runSettings monitor load).trans h) fun _ => rfl
  | schemas db load =>
    exact leaves_follow ((ctx.frame_runSchemas monitor db load).active.trans h) fun _ => rfl
  | tables db schema load =>
    exact leaves_follow ((ctx.frame_runTables monitor db schema load).active.trans h) fun _ => rfl
  | preload walk =>
    exact leaves_followWalk ((frame_walkDatabases monitor ctx walk).active.trans h) fun _ => rfl
  | preloadDatabase db walk =>
    exact leaves_followWalk ((frame_walkSchemas monitor ctx db walk).active.trans h) fun _ => rfl
  | preloadSchema db schema depth load =>
    cases depth with
    | zero => exact leaves_finished h _
    | succ depth =>
      exact leaves_follow ((ctx.frame_runTables monitor db schema load).active.trans h)
        fun _ => rfl
  | query query pending => exact leaves_runQuery h query pending

/-- A task learns from the server what it has asked for: it is not cancelled, and the server has had
the time to answer and can be reached. -/
structure Learns (ctx : Context) (monitor : Monitor) (pending : Pending) : Prop where
  live : ctx.isCancelled monitor = false
  due : pending.due ≤ ctx.server.now
  online : ctx.server.offline = none

theorem Learns.answer?_eq {β : Type} {pending : Pending} (h : ctx.Learns monitor pending)
    (read : Document → Except ConnectionError β) :
    ctx.server.answer? pending read = some (read ctx.server.document) := by
  rw [Server.answer?, if_neg (Nat.not_lt.2 h.due), h.online]

/-- A task that learns which database is the current one makes it active. -/
theorem leaves_run_current {pending : Pending} (h : ctx.Learns monitor pending) :
    Leaves ctx.server.document.active (ctx.run monitor (.opening (.current pending))) := by
  simp only [run, runInitialize, initializeCurrent, h.live, h.answer?_eq]
  exact leaves_initializeActive _ monitor

/-- Otherwise it goes on waiting or fails. -/
theorem run_current_of_not_learns {pending : Pending} (h : ¬ ctx.Learns monitor pending) :
    ctx.run monitor (.opening (.current pending)) = (ctx, .waiting (.opening (.current pending))) ∨
      ∃ failure, ctx.run monitor (.opening (.current pending)) =
        (ctx, .finished (.error failure)) := by
  rw [run, runInitialize, initializeCurrent]
  cases hlive : ctx.isCancelled monitor with
  | true => exact .inr ⟨_, rfl⟩
  | false =>
    by_cases hdue : pending.due ≤ ctx.server.now
    · cases honline : ctx.server.offline with
      | none => exact absurd ⟨hlive, hdue, honline⟩ h
      | some reason =>
        simp only [Server.answer?, if_neg (Nat.not_lt.2 hdue), honline]
        exact .inr ⟨_, rfl⟩
    · simp only [Server.answer?, if_pos (Nat.lt_of_not_le hdue)]
      exact .inl rfl

theorem active_abandon (ctx : Context) (routine : Routine) :
    (ctx.abandon routine).source.active = ctx.source.active := by
  cases routine with
  | opening stage => cases stage <;> rfl
  | refresh _ load | databases load => exact (ctx.frame_abandonDatabases load).active
  | settings | query => rfl
  | schemas db load => exact (ctx.frame_abandonSchemas db load).active
  | tables db schema load | preloadSchema db schema _ load =>
    exact (ctx.frame_abandonTables db schema load).active
  | preload walk => exact (frame_abandonDatabaseWalk ctx walk).active
  | preloadDatabase db walk => exact (frame_abandonSchemaWalk ctx db walk).active

end Context

namespace Session

variable {s t : Session} {name : String} {action : Action} {later : List Action} {db : Ref}
  {database : Database}

/-- A database is active, and no task that was not pending in an earlier session waits to learn the
current one. -/
structure Chosen (s : Session) (name : String) (t : Session) : Prop where
  active : t.source.active = some name
  asked : ∀ task ∈ t.tasks, task.routine.current? ≠ none → task ∈ s.tasks

/-- A task that has waited for the current database since an earlier session runs, and learns that
it is another one. -/
def Overruled (s : Session) (name : String) (t : Session) (action : Action) : Prop :=
  ∃ task ∈ s.tasks, task ∈ t.tasks ∧ action = .poll task.id ∧
    ∃ pending, task.routine = .opening (.current pending) ∧
      t.context.Learns task.monitor pending ∧ t.context.server.document.active ≠ name

theorem Chosen.poll (h : s.Chosen name t) {task : Task}
    (hleaves : Context.Leaves name (t.context.run task.monitor task.routine)) :
    s.Chosen name (t.poll task) := by
  obtain ⟨hactive, hleft⟩ := hleaves
  rw [Session.poll]
  rcases hout : t.context.run task.monitor task.routine with ⟨ctx', routine | result⟩
  · rw [hout] at hactive hleft
    refine ⟨hactive, fun other hother hasks => ?_⟩
    obtain ⟨old, hold, rfl⟩ := List.mem_map.1 hother
    split at hasks
    · exact absurd (hleft routine rfl) hasks
    next hne =>
      rw [if_neg hne]
      exact h.asked old hold hasks
  · rw [hout] at hactive
    exact ⟨hactive, fun other hother => h.asked other (List.mem_of_mem_filter hother)⟩

/-- A task that does not learn the current database changes nothing. -/
theorem Chosen.poll_current (h : s.Chosen name t) (ht : t.Regular) {task : Task} {pending : Pending}
    (hmem : task ∈ t.tasks) (hroutine : task.routine = .opening (.current pending))
    (hlearns : ¬ t.context.Learns task.monitor pending) : s.Chosen name (t.poll task) := by
  have hrun := Context.run_current_of_not_learns hlearns
  rw [← hroutine] at hrun
  rcases hrun with hwaits | ⟨failure, hfails⟩
  · obtain ⟨before, behind, htasks, hothers⟩ := ht.split hmem
    have hsame : (t.poll task).tasks = t.tasks := by
      rw [Session.poll, hwaits]
      exact (map_split htasks hothers task.routine).trans htasks.symm
    refine ⟨?_, fun other hother => h.asked other (hsame ▸ hother)⟩
    rw [Session.poll, hwaits]
    exact h.active
  · rw [Session.poll, hfails]
    exact ⟨h.active, fun other hother => h.asked other (List.mem_of_mem_filter hother)⟩

/-- Overruling a choice makes another database active. -/
theorem Overruled.active (h : s.Overruled name t action) (ht : t.Regular) :
    ∃ other ≠ name, (t.act action).source.active = some other := by
  obtain ⟨task, -, hmem, rfl, pending, hroutine, hlearns, hother⟩ := h
  refine ⟨_, hother, ?_⟩
  have hleaves := (Context.leaves_run_current hlearns).1
  rw [← hroutine] at hleaves
  rw [Session.act, ht.task?_of_mem hmem, Option.elim_some, source, Session.poll]
  split
  next hout =>
    rw [hout] at hleaves
    exact hleaves
  next hout =>
    rw [hout] at hleaves
    exact hleaves

/-- A choice holds after the next action, unless it is overruled or there is another one. -/
theorem Chosen.act (h : s.Chosen name t) (ht : t.Regular) (haction : action.Proper)
    (hother : ∀ db, action ≠ .activate db) :
    s.Chosen name (t.act action) ∨ s.Overruled name t action := by
  cases action with
  | start title routine monitor =>
    refine .inl ⟨h.active, fun task htask hasks => ?_⟩
    rcases List.mem_append.1 htask with hold | hnew
    · exact h.asked task hold hasks
    · obtain rfl := List.mem_singleton.1 hnew
      exact absurd haction.current? hasks
  | poll id =>
    rw [Session.act]
    cases htask : t.task? id with
    | none => exact .inl h
    | some task =>
      obtain ⟨hmem, rfl⟩ := task?_eq_some htask
      cases hcurrent : task.routine.current? with
      | none => exact .inl (h.poll (Context.leaves_run h.active hcurrent))
      | some pending =>
        have hroutine := Routine.current?_eq_some_iff.1 hcurrent
        by_cases hlearns : t.context.Learns task.monitor pending
        · -- the choice is only lost if the server names another database
          by_cases hactive : t.context.server.document.active = name
          · refine .inl (h.poll ?_)
            rw [hroutine, ← hactive]
            exact Context.leaves_run_current hlearns
          · have hasks : task.routine.current? ≠ none := by simp [hcurrent]
            exact .inr ⟨task, h.asked task hmem hasks, hmem, rfl, pending, hroutine, hlearns,
              hactive⟩
        · exact .inl (h.poll_current ht hmem hroutine hlearns)
  | drop id =>
    rw [Session.act]
    cases htask : t.task? id with
    | none => exact .inl h
    | some task =>
      exact .inl ⟨(t.context.active_abandon task.routine).trans h.active,
        fun other hother => h.asked other (List.mem_of_mem_filter hother)⟩
  | activate db => exact absurd rfl (hother db)
  | editSchemas db edit =>
    refine .inl ⟨?_, h.asked⟩
    rw [source, Session.act, Context.editSchemas]
    cases t.context.source.database? db <;> exact h.active
  | editTables db schema edit =>
    refine .inl ⟨?_, h.asked⟩
    rw [source, Session.act, Context.editTables]
    cases t.context.source.schema? db schema with
    | none => exact h.active
    | some owner => exact (t.context.frame_putTables db schema _).active.trans h.active
  | cancel | adopt | serve | editDatabases | editSettings => exact .inl ⟨h.active, h.asked⟩

/-- A choice holds until another one is made, unless it is overruled on the way. -/
theorem chosen_acts (h : s.Chosen name t) (ht : t.Reachable)
    (hlater : ∀ action ∈ later, action.Proper ∧ ∀ db, action ≠ .activate db) :
    s.Chosen name (t.acts later) ∨ ∃ before action behind, later = before ++ action :: behind ∧
      s.Overruled name (t.acts before) action := by
  induction later generalizing t with
  | nil => exact .inl h
  | cons action rest ih =>
    obtain ⟨⟨haction, hother⟩, hrest⟩ := List.forall_mem_cons.1 hlater
    rcases h.act ht.regular haction hother with hnext | hoverruled
    · rcases ih hnext (ht.act haction) hrest with hend | ⟨before, other, behind, rfl, hover⟩
      · exact .inl hend
      · exact .inr ⟨action :: before, other, behind, rfl, hover⟩
    · exact .inr ⟨[], action, rest, rfl, hoverruled⟩

/-- What is active is the default instance, if it is cached and all databases are known. -/
theorem defaultInstance_of_chosen (hs : s.Reachable)
    (hactive : s.source.active = some database.name)
    (hcomplete : s.source.databases.isFullyCached = true)
    (hcached : db ∈ s.source.databases.snapshot.entries)
    (hdatabase : s.source.database? db = some database) :
    s.source.defaultInstance = .ok db := by
  have hnamed : s.source.databaseNamed? database.name = some db := by
    refine hs.sound.indexed.find?_eq_some_iff.2 ⟨hcached, ?_⟩
    exact Option.map_eq_some_iff.2 ⟨database, hdatabase, rfl⟩
  rw [DataSource.defaultInstance, if_pos hcomplete, DataSource.activeName, hactive,
    Option.getD_some, hnamed, Option.some_or]

/-- The database that was chosen is active, or it already was the default instance. -/
theorem chosen_activate (s : Session) (hdatabase : s.source.database? db = some database) :
    s.Chosen database.name (s.activate db) ∨
      (s.source.isDefault db = true ∧ s.source.active ≠ some database.name) := by
  rw [activate, DataSource.setActive?, hdatabase]
  cases hdefault : s.source.isDefault db with
  | false => exact .inl ⟨rfl, fun _ htask _ => htask⟩
  | true =>
    by_cases hactive : s.source.active = some database.name
    · exact .inl ⟨hactive, fun _ htask _ => htask⟩
    · exact .inr ⟨rfl, hactive⟩

/-- After a database was chosen, and until another one is, it is the default instance whenever it is
cached and all databases are known. There are two exceptions: it only stood in for the active
database when it was chosen, so that the choice had no effect; or an initialisation that was already
waiting to learn the current database gets the answer that it is another one. -/
theorem defaultInstance_activate (hs : s.Reachable)
    (hdatabase : s.source.database? db = some database)
    (hlater : ∀ action ∈ later, action.Proper ∧ ∀ other, action ≠ .activate other) :
    let t := (s.act (.activate db)).acts later
    (t.source.databases.isFullyCached = true → db ∈ t.source.databases.snapshot.entries →
        t.source.defaultInstance = .ok db) ∨
      (s.source.isDefault db = true ∧ s.source.active ≠ some database.name) ∨
      ∃ before action behind, later = before ++ action :: behind ∧
        s.Overruled database.name ((s.act (.activate db)).acts before) action := by
  intro t
  have hproper : Action.Proper (.activate db) := trivial
  rcases s.chosen_activate hdatabase with hchosen | hstandsIn
  · rcases chosen_acts hchosen (hs.act hproper) hlater with hend | hoverruled
    · refine .inl fun hcomplete hcached => ?_
      -- the instance keeps its name
      have hdescends : s.source.Descends t.source :=
        hs.descends (List.forall_mem_cons.2 ⟨hproper, fun action h => (hlater action h).1⟩)
      obtain ⟨database', hdatabase', hlast⟩ := hdescends.below.old db database hdatabase
      have ht : t.Reachable := (hs.act hproper).acts fun action h => (hlater action h).1
      exact defaultInstance_of_chosen ht (hlast.name ▸ hend.active) hcomplete hcached hdatabase'
    · exact .inr (.inr hoverruled)
  · exact .inr (.inl hstandsIn)

section Overruling

/-- A server that takes a second for a query. -/
def slowServer (now : Nat) (offline : Option String := none) : Server where
  document := {
    currentDatabase := some "billing"
    latency := some { secs := 1, nanos := 0 }
    databases := [{ record := { name := "billing" } }, { record := { name := "inventory" } }] }
  offline := offline
  now := now

def serverConnection : Connection :=
  { readDatabaseList := true }

/-- The load of the databases that waits for the slow server. -/
def slowLoad : Cache.Load Database.Query where
  request := .all
  stage := .listing { promise := 0, generation := 0, prior := .empty }
  query := some (.listed { due := 1000 } serverConnection.databaseFilter)

/-- An initialisation waits for the list of databases, which has arrived. -/
def listingSession : Session :=
  (opened serverConnection (slowServer 0)).acts
    [.start "opening" (.opening .start) none, .poll 0, .serve (slowServer 1000)]

/-- It has taken the list, and waits to learn the current database. -/
def askingSession : Session :=
  listingSession.act (.poll 0)

theorem reachable_askingSession : askingSession.Reachable := by
  have hlisting : listingSession.Reachable := by
    refine (reachable_opened _ _).acts ?_
    simp [Action.Proper, Routine.Called]
  exact hlisting.act trivial

/-- What the list makes of the session. -/
def listedSession : Session :=
  let known := listingSession.context.takeDatabases .first
    { promise := 0, generation := 0, prior := .empty }
    [{ name := "billing" }, { name := "inventory" }]
  match known.initializeName .first with
  | (context, .waiting routine) =>
    { listingSession with context, tasks := [⟨0, "opening", .first, routine⟩] }
  | (context, .finished _) => { listingSession with context }

theorem askingSession_eq : askingSession = listedSession := by
  have hrows : (slowServer 1000).document.listDatabases serverConnection.databaseFilter =
      [{ name := "billing" }, { name := "inventory" }] := by
    simp [Document.listDatabases, slowServer, serverConnection, Connection.databaseFilter,
      DatabaseFilter.shows, List.mergeSort]
  have hanswers : (Database.remote serverConnection "postgres").listing?
      listingSession.context.server (.listed { due := 1000 } serverConnection.databaseFilter) =
        some (.ok [{ name := "billing" }, { name := "inventory" }]) :=
    congrArg (some ∘ Except.ok) hrows
  have htask : listingSession.task? 0 =
      some ⟨0, "opening", .first, .opening (.databases slowLoad)⟩ := by
    decide +kernel
  have hlive : listingSession.context.isCancelled .first = false := by decide +kernel
  have hrun := Context.runDatabases_listing { promise := 0, generation := 0, prior := .empty } hlive
    hanswers
  rw [askingSession, act, htask, Option.elim_some, Session.poll]
  simp only [Context.run, Context.runInitialize, Context.initializeDatabases, slowLoad]
  rw [hrun]
  rfl

/-- A choice that is made once the server has told the current database holds through a refresh
that fails. -/
theorem defaultInstance_activate_refreshed :
    let s := askingSession.acts
      [.serve (slowServer 2000), .poll 0, .serve (slowServer 3000), .poll 0]
    let later : List Action := [.start "refresh" (.refresh false { request := .refresh }) none,
      .poll 1, .serve (slowServer 4000 (some "server closed")), .poll 1]
    let t := (s.act (.activate 1)).acts later
    s.source.defaultInstance = .ok 0 ∧ t.source.databases.isFullyCached = true ∧
      1 ∈ t.source.databases.snapshot.entries ∧ t.source.defaultInstance = .ok 1 := by
  intro s later t
  have hreachable : s.Reachable := by
    refine reachable_askingSession.acts ?_
    simp [Action.Proper]
  have hlater : ∀ action ∈ later, action.Proper ∧ ∀ other, action ≠ .activate other := by
    simp [later, Action.Proper, Routine.Called]
  have hs : s = listedSession.acts
      [.serve (slowServer 2000), .poll 0, .serve (slowServer 3000), .poll 0] := by
    rw [← askingSession_eq]
  obtain ⟨database, hdatabase⟩ : ∃ database, s.source.database? 1 = some database := by
    refine Option.isSome_iff_exists.1 ?_
    rw [hs]
    decide +kernel
  have hbefore : s.source.defaultInstance = .ok 0 ∧ s.tasks = [] := by
    rw [hs]
    decide +kernel
  have hafter : t.source.databases.isFullyCached = true ∧
      1 ∈ t.source.databases.snapshot.entries := by
    simp only [t, later, hs]
    decide +kernel
  refine ⟨hbefore.1, hafter.1, hafter.2, ?_⟩
  rcases defaultInstance_activate hreachable hdatabase hlater with
    hend | ⟨hdefault, -⟩ | ⟨_, _, _, -, task, htask, -⟩
  · exact hend hafter.1 hafter.2
  · rw [DataSource.isDefault, hbefore.1] at hdefault
    cases hdefault
  · rw [hbefore.2] at htask
    cases htask

/-- A choice that is made before that is lost, although the database remains. -/
theorem defaultInstance_activate_overruled :
    let s := askingSession.act (.activate 1)
    let t := s.acts [.serve (slowServer 2000), .poll 0]
    askingSession.source.databases.isFullyCached = true ∧
      1 ∈ askingSession.source.databases.snapshot.entries ∧ s.source.defaultInstance = .ok 1 ∧
      t.source.databases.isFullyCached = true ∧ 1 ∈ t.source.databases.snapshot.entries ∧
      t.source.defaultInstance = .ok 0 := by
  rw [askingSession_eq]
  decide +kernel

end Overruling

end Session

end CatalogBrowser
