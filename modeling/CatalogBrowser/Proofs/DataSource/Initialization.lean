import CatalogBrowser.Proofs.Cache.CollectionLoad
import CatalogBrowser.Proofs.DataSource.Attendance

/-!
# How the initialisation ends

The initialisation preloads the settings, but it does not need them: if they cannot be read, it
succeeds all the same. Yet it fails when it finds that the listing was cancelled. If the listing is
its own, then it was cancelled itself; but it may wait for the listing of another task, and then it
fails because that one was cancelled or dropped.

## Main definitions

* `Initialization.Fails` - why an initialisation fails that is not cancelled.
* `Session.Fails` - why a task fails that is an initialisation.

## Main statements

* `Context.outcome_runInitialize` - there are no other ways to fail.
* `Session.initialize_succeeds` - the initialisation succeeds but in these cases.
-/

namespace CatalogBrowser

open Cache (Load)

/-- The load of the databases that an initialisation runs next, if it runs one. -/
def Initialization.database? (ds : DataSource) : Initialization → Option (Load Database.Query)
  | .start => if ds.connection.readDatabaseList then some .unrun else none
  | .databases load => some load
  | _ => none

/-- The query for the current database that an initialisation still needs the answer of. It is not
started if the active database is known. -/
def Initialization.current? (ctx : Context) : Initialization → Option Pending
  | .start | .databases _ => if ctx.source.active.isSome then none else some ctx.server.ask.2
  | .current pending => some pending
  | .settings _ => none

/-- Why an initialisation fails: it is cancelled, or the databases cannot be read, or the name of
the current one cannot. -/
inductive Initialization.Fails (ctx : Context) (monitor : Monitor) (stage : Initialization) :
    DataSourceError → Prop
  | cancelled : ctx.isCancelled monitor = true → Fails ctx monitor stage (.cache .cancelled)
  | databases {load : Load Database.Query} {error : CacheError} :
      stage.database? ctx.source = some load →
      (load.run Database.source
        (Database.remote ctx.source.connection ctx.source.activeName) ctx.server
        ctx.source.databases (ctx.isCancelled monitor)).poll = .finished (.error error) →
      Fails ctx monitor stage (.cache error)
  | current {pending : Pending} {error : ConnectionError} :
      stage.current? ctx = some pending →
      ctx.server.answer? pending (fun document => .ok document.currentDatabase) =
        some (.error error) →
      Fails ctx monitor stage (.connection error)

/-- An initialisation, as it is between its runs: it reads all settings. -/
def Initialization.Bulk : Initialization → Prop
  | .settings load => load.Bulk
  | _ => True

/-- What a run of an initialisation leads to. -/
inductive Initialization.Outcome (ctx : Context) (monitor : Monitor) (stage : Initialization) :
    Poll Routine Routine.Result → Prop
  | waits {stage' : Initialization} : stage'.Bulk →
      Outcome ctx monitor stage (.waiting (.opening stage'))
  | succeeds : Outcome ctx monitor stage (.finished (.ok .done))
  | fails {error : DataSourceError} : stage.Fails ctx monitor error →
      Outcome ctx monitor stage (.finished (.error (.operation error)))
  /-- The listing of the settings that it waited for was given up. -/
  | forsaken {promise : Nat} : stage = .settings (.joined promise true) →
      ctx.source.settings.Forsaken promise →
      Outcome ctx monitor stage (.finished (.error (.ofCache .cancelled)))

namespace Context

variable {ctx ctx' : Context} {monitor : Monitor} {stage : Initialization}

/-- The initialisation needs the settings only so far as their listing must not be given up. -/
theorem outcome_initializeSettings (ctx' : Context)
    (hcancelled : ctx'.isCancelled monitor = ctx.isCancelled monitor) {load : Load Setting.Query}
    (hbulk : load.Bulk)
    (hjoined : ∀ promise, load = .joined promise true →
      stage = .settings load ∧ ctx'.source.settings = ctx.source.settings) :
    stage.Outcome ctx monitor (ctx'.initializeSettings monitor load).2 := by
  have hrun : (ctx'.runSettings monitor load).2 = (load.run Setting.source Setting.remote
      ctx'.server ctx'.source.settings (ctx.isCancelled monitor)).poll := by
    rw [← hcancelled]
    rfl
  rw [initializeSettings]
  rcases hout : ctx'.runSettings monitor load with ⟨after, load' | (error | reply)⟩
  · rw [hout] at hrun
    exact .waits (hbulk.run hrun.symm)
  · rw [hout] at hrun
    dsimp only [initialized]
    split
    next herror =>
      -- the error says that somebody was cancelled, not who
      obtain rfl := CacheError.isCancelled_iff.1 herror
      cases hmonitor : ctx.isCancelled monitor with
      | true => exact .fails (.cancelled hmonitor)
      | false =>
        rw [hmonitor] at hrun
        obtain ⟨promise, hload, hforsaken⟩ := Load.cancelled_run hbulk hrun.symm
        obtain ⟨hstage, hsettings⟩ := hjoined promise hload
        exact .forsaken (hload ▸ hstage) (hsettings ▸ hforsaken)
    next => exact .succeeds
  · exact .succeeds

theorem outcome_initializeActive (ctx' : Context)
    (hcancelled : ctx'.isCancelled monitor = ctx.isCancelled monitor) :
    stage.Outcome ctx monitor (ctx'.initializeActive monitor).2 :=
  outcome_initializeSettings
    { ctx' with source := { ctx'.source with active := some ctx'.source.activeName } } hcancelled
    .unrun (fun _ hload => by cases hload)

theorem outcome_initializeCurrent (ctx' : Context)
    (hcancelled : ctx'.isCancelled monitor = ctx.isCancelled monitor) {pending : Pending}
    (hcurrent : stage.current? ctx = some pending) (hserver : ctx.server.Asked ctx'.server) :
    stage.Outcome ctx monitor (ctx'.initializeCurrent monitor pending).2 := by
  rw [initializeCurrent]
  split
  next hmonitor => exact .fails (.cancelled (hcancelled.symm.trans hmonitor))
  split
  · exact .waits trivial
  next error hanswer =>
    rw [hserver.answer?] at hanswer
    exact .fails (.current hcurrent hanswer)
  next current hanswer =>
    exact outcome_initializeActive (Context.say { ctx' with source := _ } _) hcancelled

theorem outcome_initializeName (ctx' : Context)
    (hcancelled : ctx'.isCancelled monitor = ctx.isCancelled monitor)
    (hcurrent : stage.current? ctx = if ctx.source.active.isSome then none else
      some ctx.server.ask.2)
    (hframe : ctx.Frame ctx') : stage.Outcome ctx monitor (ctx'.initializeName monitor).2 := by
  rw [initializeName, hframe.active]
  split
  next => exact outcome_initializeActive ctx' hcancelled
  next hactive =>
    split
    next hmonitor => exact .fails (.cancelled (hcancelled.symm.trans hmonitor))
    refine outcome_initializeCurrent { ctx' with server := ctx'.server.ask.1 } hcancelled ?_
      (hframe.server.trans (Server.asked_ask _))
    have hasked : ctx'.server.ask.2 = ctx.server.ask.2 := by
      rw [hframe.server]
      rfl
    rw [hcurrent, if_neg hactive]
    exact congrArg some hasked.symm

theorem outcome_initializeDatabases (ctx ctx' : Context)
    (hcancelled : ctx'.isCancelled monitor = ctx.isCancelled monitor)
    (hsource : ctx'.source = ctx.source) (hserver : ctx'.server = ctx.server)
    (hbegun : ctx.Frame ctx') {load : Load Database.Query}
    (hload : stage.database? ctx.source = some load)
    (hcurrent : stage.current? ctx = if ctx.source.active.isSome then none else
      some ctx.server.ask.2) :
    stage.Outcome ctx monitor (ctx'.initializeDatabases monitor load).2 := by
  have hframe := ctx'.frame_runDatabases monitor load
  have hrun : (ctx'.runDatabases monitor load).2 = (load.run Database.source
      (Database.remote ctx.source.connection ctx.source.activeName) ctx.server
      ctx.source.databases (ctx.isCancelled monitor)).poll := by
    rw [← hcancelled, ← hsource, ← hserver]
    rfl
  rw [initializeDatabases]
  rcases hout : ctx'.runDatabases monitor load with ⟨after, load' | (error | reply)⟩
  all_goals rw [hout] at hrun hframe
  · exact .waits trivial
  · exact .fails (.databases hload hrun.symm)
  · exact outcome_initializeName after ((hframe.isCancelled monitor).trans hcancelled) hcurrent
      (hbegun.trans hframe)

/-- There are no other ways for an initialisation to fail. -/
theorem outcome_runInitialize (ctx : Context) (monitor : Monitor) (hbulk : stage.Bulk) :
    stage.Outcome ctx monitor (ctx.runInitialize monitor stage).2 := by
  cases stage with
  | start =>
    rw [runInitialize]
    dsimp only
    split
    next hlist =>
      have hload : Initialization.start.database? ctx.source = some .unrun := if_pos hlist
      exact outcome_initializeDatabases ctx (ctx.say _) rfl rfl rfl ⟨rfl, rfl, rfl, rfl, rfl⟩
        hload rfl
    next => exact outcome_initializeActive _ rfl
  | databases load => exact outcome_initializeDatabases ctx ctx rfl rfl rfl (.refl ctx) rfl rfl
  | current pending => exact outcome_initializeCurrent ctx rfl rfl (.refl _)
  | settings load => exact outcome_initializeSettings ctx rfl hbulk fun _ _ => ⟨rfl, rfl⟩

end Context

namespace Session

variable {s : Session} {action : Action} {actions : List Action} {id : Nat} {task : Task}
  {promise : Nat}

/-- The task of an id is an initialisation, as long as it is pending. -/
structure Opens (s : Session) (id : Nat) : Prop where
  lt : id < s.started
  bulk : ∀ task ∈ s.tasks, task.id = id → ∃ stage, task.routine = .opening stage ∧ stage.Bulk

/-- An initialisation remains one. -/
theorem Opens.act (h : s.Opens id) (hs : s.Regular) (action : Action) :
    (s.act action).Opens id where
  lt := Nat.lt_of_lt_of_le h.lt (s.started_le_act action)
  bulk task htask hid := by
    cases stems_of_mem_tasks hs htask with
    | stays hmem => exact h.bulk task hmem hid
    | begins _ hnew => exact absurd h.lt (by omega)
    | @waits old hmem _ hwaits htask =>
      obtain ⟨stage, hroutine, hbulk⟩ := h.bulk old hmem (by rw [← hid, htask])
      have houtcome : stage.Outcome _ old.monitor (s.context.run old.monitor (.opening stage)).2 :=
        s.context.outcome_runInitialize old.monitor hbulk
      rw [← hroutine, hwaits] at houtcome
      generalize task.routine = routine at houtcome
      cases houtcome with
      | waits hbulk' => exact ⟨_, rfl, hbulk'⟩

/-- Why the initialisation that a task is fails when it runs at the end of some actions: for a
reason of its own, or because another task gave up the listing of the settings that it waits
for. -/
def Foiled (s : Session) (actions : List Action) (task : Task) (error : DataSourceError) : Prop :=
  ∃ stage, task.routine = .opening stage ∧
    (stage.Fails (s.acts actions).context task.monitor error ∨
      error = .cache .cancelled ∧ ∃ promise, stage = .settings (.joined promise true) ∧
        s.LeftAlone actions task promise)

/-- The begin of an initialisation opens a task. -/
theorem opens_start (hs : s.Regular) (name : String) (monitor : Option String) :
    (s.act (.start name (.opening .start) monitor)).Opens s.started where
  lt := Nat.lt_succ_self s.started
  bulk task htask hid := by
    rcases List.mem_append.1 htask with hold | hnew
    · exact absurd hid (Nat.ne_of_lt (hs.lt task hold))
    · obtain rfl := List.mem_singleton.1 hnew
      exact ⟨.start, rfl, trivial⟩

theorem Opens.acts (h : s.Opens id) (hs : s.Reachable)
    (hactions : ∀ action ∈ actions, action.Proper) : (s.acts actions).Opens id := by
  induction actions generalizing s with
  | nil => exact h
  | cons action rest ih =>
    obtain ⟨haction, hrest⟩ := List.forall_mem_cons.1 hactions
    exact ih (h.act hs.regular action) (hs.act haction) hrest

/-- An initialisation that ends when it runs has succeeded or is foiled. -/
theorem foiled_of_finished (connection : Connection) (server : Server)
    (hactions : ∀ action ∈ actions, action.Proper)
    (hopens : ((opened connection server).acts actions).Opens id)
    (htask : task ∈ ((opened connection server).acts actions).tasks) (hid : task.id = id)
    {result : Routine.Result}
    (hresult : (((opened connection server).acts actions).context.run task.monitor
      task.routine).2 = .finished result) :
    result = .ok .done ∨ ∃ error, result = .error (.operation error) ∧
      (opened connection server).Foiled actions task error := by
  obtain ⟨stage, hroutine, hbulk⟩ := hopens.bulk task htask hid
  have houtcome : stage.Outcome _ task.monitor (Context.run _ task.monitor (.opening stage)).2 :=
    Context.outcome_runInitialize ((opened connection server).acts actions).context task.monitor
      hbulk
  rw [← hroutine, hresult] at houtcome
  cases houtcome with
  | succeeds => exact .inl rfl
  | fails hfails => exact .inr ⟨_, rfl, stage, hroutine, .inl hfails⟩
  | @forsaken promise hstage hforsaken =>
    have hawaits : task.routine.Awaits promise := by
      rw [hroutine, hstage]
      exact ⟨.joined promise true, true, rfl, rfl⟩
    exact .inr ⟨_, rfl, stage, hroutine, .inr ⟨rfl, promise, hstage,
      leftAlone_of_forsaken connection server hactions htask hawaits hforsaken⟩⟩

/-- However it is interleaved with whatever else happens, an initialisation that ends succeeds, also
if the settings could not be read, unless it is foiled when it runs. -/
theorem initialize_succeeds (connection : Connection) (server : Server)
    {before behind : List Action} {name label : String} {monitor : Option String}
    {result : Routine.Result}
    (hactions : ∀ action ∈ before ++ .start name (.opening .start) monitor :: behind,
      action.Proper)
    (hfinished : (((opened connection server).acts before).started, label, result) ∈
      ((opened connection server).acts
        (before ++ .start name (.opening .start) monitor :: behind)).finished) :
    result = .ok .done ∨ ∃ earlier later task error,
      behind = earlier ++ .poll task.id :: later ∧
      task.id = ((opened connection server).acts before).started ∧
      task ∈ ((opened connection server).acts
        (before ++ .start name (.opening .start) monitor :: earlier)).tasks ∧
      result = .error (.operation error) ∧
      (opened connection server).Foiled
        (before ++ .start name (.opening .start) monitor :: earlier) task error := by
  set begun : List Action := before ++ [.start name (.opening .start) monitor] with hbegun
  have hsplit : ∀ rest, before ++ .start name (.opening .start) monitor :: rest = begun ++ rest :=
    fun rest => by simp [hbegun]
  simp only [hsplit] at hactions hfinished ⊢
  obtain ⟨hbegins, hbehind⟩ := List.forall_mem_append.1 hactions
  have hbefore := (reachable_opened connection server).acts
    (fun action haction => hbegins action (List.mem_append_left _ haction))
  have hopens : ((opened connection server).acts begun).Opens
      ((opened connection server).acts before).started := by
    rw [hbegun, acts_concat]
    exact opens_start hbefore.regular name monitor
  -- the last action ends the task, or it has ended before
  clear hactions
  induction behind using List.reverseRecOn with
  | nil =>
    rw [List.append_nil, hbegun, acts_concat] at hfinished
    exact absurd (hbefore.lt_of_mem_finished _ hfinished) (Nat.lt_irrefl _)
  | append_singleton earlier action ih =>
    obtain ⟨hearlier, -⟩ := List.forall_mem_append.1 hbehind
    rw [← List.append_assoc, acts_concat] at hfinished
    rcases exists_run_of_mem_finished hfinished with hold | ⟨task, hmem, hid, rfl, hresult⟩
    · rcases ih hold hearlier with hok | ⟨earlier', later, task, error, rfl, hrest⟩
      · exact .inl hok
      · exact .inr ⟨earlier', later ++ [action], task, error, by simp, hrest⟩
    · have hruns := hopens.acts ((reachable_opened connection server).acts hbegins) hearlier
      rw [← acts_append] at hruns
      rcases foiled_of_finished connection server (List.forall_mem_append.2 ⟨hbegins, hearlier⟩)
        hruns hmem hid hresult with hok | ⟨error, herror, hfoiled⟩
      · exact .inl hok
      · exact .inr ⟨earlier, [], task, error, by rw [hid], hid, hmem, herror, hfoiled⟩

/-- A server that has one setting, and takes a second for a query. -/
def settingsServer (now : Nat) (offline : Option String := none) : Server where
  document := {
    latency := some { secs := 1, nanos := 0 }
    settings := [{ name := "search_path" }] }
  offline := offline
  now := now

/-- Somebody reads the settings, -/
def readingActions : List Action :=
  [.start "reading" (.settings { request := .all }) none, .poll 0]

/-- and an initialisation waits for that. -/
def joiningActions : List Action :=
  readingActions ++ [.start "opening" (.opening .start) none, .poll 1]

/-- The initialisation succeeds if the settings cannot be read. -/
example : ((opened {} (settingsServer 0)).acts (joiningActions ++
    [.serve (settingsServer 1000 (some "server closed")), .poll 0, .poll 1])).finished =
    [(0, "reading", .error (.ofCache (.remoteFetch "settings" (.connectionLost "server closed")))),
      (1, "opening", .ok .done)] := rfl

/-- If the reader is dropped, the initialisation is foiled. -/
theorem initialize_succeeds_dropped :
    let behind : List Action := [.poll 1, .drop 0, .poll 1]
    let actions : List Action :=
      readingActions ++ .start "opening" (.opening .start) none :: behind
    (1, "opening", .error (.ofCache .cancelled)) ∈
        ((opened {} (settingsServer 0)).acts actions).finished ∧
      ∃ earlier task, earlier <+: behind ∧ (opened {} (settingsServer 0)).Foiled
        (readingActions ++ .start "opening" (.opening .start) none :: earlier) task
        (.cache .cancelled) := by
  intro behind actions
  have hactions : ∀ action ∈ actions, action.Proper := by
    simp [actions, behind, readingActions, Action.Proper, Routine.Called, Load.Unrun]
  have hfinished : (1, "opening", .error (.ofCache .cancelled)) ∈
      ((opened {} (settingsServer 0)).acts actions).finished := List.mem_singleton.2 rfl
  refine ⟨hfinished, ?_⟩
  rcases initialize_succeeds {} (settingsServer 0) hactions hfinished with
    hok | ⟨earlier, later, task, error, hbehind, -, -, herror, hfoiled⟩
  · cases hok
  · obtain rfl := Failure.operation.inj (Except.error.inj herror)
    exact ⟨earlier, task, hbehind ▸ List.prefix_append earlier _, hfoiled⟩

/-- It fails then although nothing was cancelled, and it need not read anything else. -/
theorem initialize_succeeds_foiled :
    let s := (opened {} (settingsServer 0)).acts (joiningActions ++ [.drop 0])
    s.source.connection.readDatabaseList = false ∧ s.context.monitors.cancelled = [] ∧
      (s.act (.poll 1)).finished = [(1, "opening", .error (.ofCache .cancelled))] :=
  ⟨rfl, rfl, rfl⟩

end Session

end CatalogBrowser
