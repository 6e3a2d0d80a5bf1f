import CatalogBrowser.Proofs.DataSource.Schedule
import Mathlib.Data.List.Induction

/-!
# Everything that happens to a session

A session moves by actions: a call is made, a task runs or is dropped, a monitor is cancelled, the
server changes, another database becomes the active one, a cache is edited. Any sequence of actions
is a run, so all interleavings of calls with each other and with a changing server are covered, also
those that the rounds of a session leave out.

In the runs that are looked at, databases, schemas and tables are made by the caches that hold them,
and by nobody else: an edit of these caches can take objects away and put them in order, but it
cannot bring any in. A program that uses the data source could do that too. It might then put one
instance into two caches, or tables that were read elsewhere below a schema, and the tree would not
be one of the server.

## Main definitions

* `Session.Action`, `Session.act`, `Session.acts` - the actions, and sequences of them.
* `Session.Action.Proper` - tasks begin with a call, and edits make no databases.
* `Session.Reachable` - the sessions that there can be.
* `Context.takeDatabases` - the list of databases arrives.

## Main statements

* `Session.reaches_act` - every action is a sequence of moves of the scene.
* `Session.Reachable.settle`, `Session.Reachable.abort` - the rounds of a session are turns of
  tasks, one after the other, and a task that is given up is dropped.
* `Session.Reachable.sound`, `Session.Reachable.regular` - what is true of every session.
-/

namespace CatalogBrowser

open Cache (Edit Load)

/-- A load that was not run yet. -/
def Cache.Load.Unrun {κ : Type} (load : Load κ) : Prop :=
  load = { request := load.request }

/-- A call of the data source that was not run yet. -/
def Routine.Called : Routine → Prop
  | .opening stage => stage = .start
  | .refresh begun load => begun = false ∧ load = { request := .refresh }
  | .databases load => load.Unrun
  | .settings load => load.Unrun
  | .schemas _ load => load.Unrun
  | .tables _ _ load => load.Unrun
  | .preload walk => ∃ depth, walk = .ofDepth depth
  | .preloadDatabase _ walk => ∃ depth, walk = .ofDepth depth
  | .preloadSchema _ _ _ load => load = { request := .all }
  | .query _ pending => pending = none

theorem Routine.Called.fresh {routine : Routine} (h : routine.Called) : routine.Fresh := by
  have hunrun : ∀ {κ : Type} {load : Load κ}, load.Unrun → load.stage = .start := by
    intro κ load hload
    rw [hload]
  cases routine with
  | opening stage =>
    obtain rfl := h
    exact fun _ hjob => absurd hjob List.not_mem_nil
  | refresh begun load =>
    obtain ⟨-, rfl⟩ := h
    exact List.forall_mem_singleton.2 rfl
  | databases load => exact List.forall_mem_singleton.2 (hunrun h)
  | schemas db load => exact List.forall_mem_singleton.2 (hunrun h)
  | tables db schema load => exact List.forall_mem_singleton.2 (hunrun h)
  | preload walk =>
    obtain ⟨depth, rfl⟩ := h
    exact List.forall_mem_singleton.2 rfl
  | preloadDatabase db walk =>
    obtain ⟨depth, rfl⟩ := h
    exact List.forall_mem_singleton.2 rfl
  | preloadSchema db schema depth load =>
    obtain rfl := h
    exact List.forall_mem_singleton.2 rfl
  | settings | query => exact fun _ hjob => absurd hjob List.not_mem_nil

namespace Context

/-- What becomes of a context when a task takes the list of databases that it has asked for. -/
def takeDatabases (ctx : Context) (monitor : Monitor) (lead : Cache.FetchLead)
    (rows : List DatabaseRecord) : Context :=
  let turn := ctx.source.databases.acceptListing Database.source .all lead (.ok rows)
  let taken := { ctx with
    source := { ctx.source with databases := turn.cache }
    monitors := ctx.monitors.worked monitor (Cache.workUnits turn.events) }
  taken.say (turn.events.flatMap Database.eventLines)

theorem runDatabases_listing {ctx : Context} {monitor : Monitor} (lead : Cache.FetchLead)
    {query : Database.Query} {rows : List DatabaseRecord} (hlive : ctx.isCancelled monitor = false)
    (hanswer : (Database.remote ctx.source.connection ctx.source.activeName).listing? ctx.server
      query = some (.ok rows)) :
    ctx.runDatabases monitor { request := .all, stage := .listing lead, query := some query } =
      (ctx.takeDatabases monitor lead rows,
        match
          (ctx.source.databases.acceptListing Database.source .all lead (.ok rows)).progress with
        | .finished result => .finished result
        | .waiting stage => .waiting { request := .all, stage, query := some query }) := by
  have hrun := Load.run_listing Database.source ctx.source.databases .all lead hanswer
  rw [← hlive] at hrun
  simp only [runDatabases, runLoad]
  rw [hrun]
  rfl

end Context

namespace Session

/-- Something that happens to a session. Tasks are given by their ids. -/
inductive Action where
  | start (name : String) (routine : Routine) (monitor : Option String)
  | poll (id : Nat)
  | drop (id : Nat)
  | cancel (monitor : String)
  | adopt (name parent : String)
  /-- The server becomes another one, which goes on counting queries. -/
  | serve (server : Server)
  /-- A database becomes the active one. -/
  | activate (db : Ref)
  | editDatabases (edit : Edit Database)
  | editSettings (edit : Edit Setting)
  | editSchemas (db : Ref) (edit : Edit Schema)
  | editTables (db schema : Ref) (edit : Edit Table)

/-- Tasks begin with a call, and databases, schemas and tables are only made by reading them. This
leaves out that a program sets or reconciles one of their caches, or adds an object to it, which
would be possible too. The settings may be edited in any way. -/
def Action.Proper : Action → Prop
  | .start _ routine _ => routine.Called
  | .editDatabases edit => edit.Withdraws
  | .editSchemas _ edit => edit.Withdraws
  | .editTables _ _ edit => edit.Withdraws
  | _ => True

/-- A session on a data source that nobody has used yet. -/
def opened (connection : Connection) (server : Server) : Session where
  context := { source := .ofConnection connection, server }

def source (s : Session) : DataSource :=
  s.context.source

def task? (s : Session) (id : Nat) : Option Task :=
  s.tasks.find? (·.id = id)

/-- Drops a pending task. -/
def drop (s : Session) (task : Task) : Session :=
  { s with
    context := s.context.abandon task.routine
    tasks := s.tasks.filter (·.id ≠ task.id) }

/-- Makes a database the active one, unless it is the default instance already. -/
def activate (s : Session) (db : Ref) : Session :=
  match s.source.setActive? db with
  | some (source, lines) => { s with context := { s.context with source }.say lines }
  | none => s

def act (s : Session) : Action → Session
  | .start name routine monitor => s.start name routine monitor
  | .poll id => (s.task? id).elim s s.poll
  | .drop id => (s.task? id).elim s s.drop
  | .cancel name =>
    let (s, monitor) := s.monitor name
    { s with context := { s.context with monitors := s.context.monitors.cancel monitor } }
  | .adopt name parent => s.adopt name parent
  | .serve server =>
    { s with context := { s.context with
        server := { server with queries := s.context.server.queries } } }
  | .activate db => s.activate db
  | .editDatabases edit => { s with context := (s.context.editDatabases edit).2 }
  | .editSettings edit => { s with context := (s.context.editSettings edit).2 }
  | .editSchemas db edit => { s with context := (s.context.editSchemas db edit).2 }
  | .editTables db schema edit => { s with context := (s.context.editTables db schema edit).2 }

def acts (s : Session) (actions : List Action) : Session :=
  actions.foldl act s

variable {s : Session} {action : Action} {actions : List Action}

@[simp] theorem acts_nil (s : Session) : s.acts [] = s := rfl

@[simp] theorem acts_cons (s : Session) (action : Action) (rest : List Action) :
    s.acts (action :: rest) = (s.act action).acts rest := rfl

theorem acts_append (s : Session) (before behind : List Action) :
    s.acts (before ++ behind) = (s.acts before).acts behind :=
  List.foldl_append

theorem acts_concat (s : Session) (before : List Action) (action : Action) :
    s.acts (before ++ [action]) = (s.acts before).act action :=
  acts_append s before [action]

/-- Some proper actions lead to this session from one on a new data source. -/
def Reachable (s : Session) : Prop :=
  ∃ connection server actions, (∀ action ∈ actions, action.Proper) ∧
    (opened connection server).acts actions = s

theorem reachable_opened (connection : Connection) (server : Server) :
    (opened connection server).Reachable :=
  ⟨connection, server, [], by simp, rfl⟩

theorem Reachable.acts (h : s.Reachable) (hactions : ∀ action ∈ actions, action.Proper) :
    (s.acts actions).Reachable := by
  obtain ⟨connection, server, before, hbefore, rfl⟩ := h
  exact ⟨connection, server, before ++ actions, List.forall_mem_append.2 ⟨hbefore, hactions⟩,
    acts_append _ before actions⟩

theorem Reachable.act (h : s.Reachable) (haction : action.Proper) : (s.act action).Reachable :=
  h.acts (List.forall_mem_singleton.2 haction)

/-- What holds at first, and whatever happens, holds of every session. -/
theorem Reachable.induct {P : Session → Prop}
    (hopened : ∀ connection server, P (opened connection server))
    (hact : ∀ s action, s.Reachable → P s → Action.Proper action → P (s.act action))
    (h : s.Reachable) : P s := by
  obtain ⟨connection, server, actions, hactions, rfl⟩ := h
  induction actions using List.reverseRecOn with
  | nil => exact hopened connection server
  | append_singleton before action ih =>
    obtain ⟨hbefore, haction⟩ := List.forall_mem_append.1 hactions
    rw [acts_concat]
    exact hact _ action ((reachable_opened connection server).acts hbefore) (ih hbefore)
      (haction action (List.mem_singleton_self action))

theorem task?_eq_some {id : Nat} {task : Task} (h : s.task? id = some task) :
    task ∈ s.tasks ∧ task.id = id :=
  ⟨List.mem_of_find?_eq_some h, by simpa using List.find?_some h⟩

/-- Tasks of one id are the same. -/
theorem Regular.eq_of_id (h : s.Regular) {task other : Task} (hmem : task ∈ s.tasks)
    (hother : other ∈ s.tasks) (hid : task.id = other.id) : task = other :=
  List.inj_on_of_nodup_map h.nodup hmem hother hid

theorem Regular.task?_of_mem (h : s.Regular) {task : Task} (hmem : task ∈ s.tasks) :
    s.task? task.id = some task := by
  cases hfind : s.task? task.id with
  | none => simpa using List.find?_eq_none.1 hfind task hmem
  | some other =>
    obtain ⟨hother, hid⟩ := task?_eq_some hfind
    rw [h.eq_of_id hother hmem hid]

section Reaches

/-- What leaves the databases and the tasks alone is a move. -/
theorem reaches_aside (h : s.Regular) {s' : Session} (htasks : s'.tasks = s.tasks)
    (hstarted : s'.started = s.started) (hdatabases : s'.source.databases = s.source.databases) :
    s.scene.Reaches s'.scene ∧ s'.Regular := by
  have haside : Scene.Covers s.context s'.context s.scene.jobs s.scene.jobs :=
    Scene.covers_aside hdatabases _
  refine ⟨?_, htasks ▸ h.nodup, ?_, htasks ▸ h.fit⟩
  · rw [scene, scene, htasks]
    exact haside.reaches
  · rw [htasks, hstarted]
    exact h.lt

/-- An edit is a move. -/
theorem reaches_edit (h : s.Regular) (move : Move) (hmove : move.Ordinary) {context : Context}
    (hstep : s.scene.step move = { s with context }.scene) :
    s.scene.Reaches { s with context }.scene ∧ { s with context }.Regular :=
  ⟨Scene.reaches_step move hmove hstep, ⟨h.nodup, h.lt, h.fit⟩⟩

theorem databases_activate (s : Session) (db : Ref) :
    (s.activate db).source.databases = s.source.databases := by
  rw [activate, DataSource.setActive?]
  cases s.source.database? db with
  | none => rfl
  | some database => cases hdefault : s.source.isDefault db <;> rfl

theorem tasks_activate (s : Session) (db : Ref) :
    (s.activate db).tasks = s.tasks ∧ (s.activate db).started = s.started := by
  rw [activate]
  split <;> exact ⟨rfl, rfl⟩

/-- Every action is a sequence of moves. -/
theorem reaches_act (h : s.Regular) (haction : action.Proper) :
    s.scene.Reaches (s.act action).scene ∧ (s.act action).Regular := by
  cases action with
  | start name routine monitor => exact reaches_start h name haction.fresh monitor
  | poll id =>
    rw [act]
    cases htask : s.task? id with
    | none => exact ⟨.refl _, h⟩
    | some task =>
      obtain ⟨hreaches, hregular, -⟩ := reaches_poll h (task?_eq_some htask).1
      exact ⟨hreaches, hregular⟩
  | drop id =>
    rw [act]
    cases htask : s.task? id with
    | none => exact ⟨.refl _, h⟩
    | some task => exact reaches_without h (task?_eq_some htask).1 rfl rfl rfl
  | cancel name => exact reaches_aside h rfl rfl rfl
  | adopt name parent => exact reaches_aside h rfl rfl rfl
  | serve server => exact reaches_aside h rfl rfl rfl
  | activate db =>
    obtain ⟨htasks, hstarted⟩ := s.tasks_activate db
    exact reaches_aside h htasks hstarted (s.databases_activate db)
  | editDatabases edit =>
    exact reaches_edit h (.editDatabases edit) (.inl haction) rfl
  | editSettings edit => exact reaches_aside h rfl rfl rfl
  | editSchemas db edit =>
    exact reaches_edit h (.editSchemas db edit) haction rfl
  | editTables db schema edit => exact reaches_edit h (.editTables db schema edit) haction rfl

end Reaches

section Tasks

/-- Where a task that is pending after an action comes from. -/
inductive Stems (s : Session) (action : Action) (task : Task) : Prop
  | stays : task ∈ s.tasks → Stems s action task
  | begins {name : String} {monitor : Option String} : action = .start name task.routine monitor →
      task.id = s.started → Stems s action task
  | waits {old : Task} : old ∈ s.tasks → action = .poll old.id →
      (s.context.run old.monitor old.routine).2 = .waiting task.routine →
      task = { old with routine := task.routine } → Stems s action task

/-- A task stays pending, or begins, or ran and still waits. -/
theorem stems_of_mem_tasks (hs : s.Regular) {task : Task} (h : task ∈ (s.act action).tasks) :
    s.Stems action task := by
  cases action with
  | start name routine monitor =>
    rcases List.mem_append.1 h with hold | hnew
    · exact .stays hold
    · obtain rfl := List.mem_singleton.1 hnew
      exact .begins rfl rfl
  | poll id =>
    rw [act] at h
    cases htask : s.task? id with
    | none =>
      rw [htask] at h
      exact .stays h
    | some old =>
      obtain ⟨hmem, rfl⟩ := task?_eq_some htask
      rw [htask, Option.elim_some, poll] at h
      rcases hout : s.context.run old.monitor old.routine with ⟨context, routine | result⟩
      · rw [hout] at h
        obtain ⟨other, hother, rfl⟩ := List.mem_map.1 h
        split
        next hid =>
          obtain rfl := hs.eq_of_id hother hmem hid
          exact .waits hmem rfl (congrArg Prod.snd hout) rfl
        next => exact .stays hother
      · rw [hout] at h
        exact .stays (List.mem_of_mem_filter h)
  | drop id =>
    rw [act] at h
    cases htask : s.task? id with
    | none =>
      rw [htask] at h
      exact .stays h
    | some old =>
      rw [htask] at h
      exact .stays (List.mem_of_mem_filter h)
  | activate db => exact .stays ((s.tasks_activate db).1 ▸ h)
  | cancel | adopt | serve | editDatabases | editSettings | editSchemas | editTables =>
    exact .stays h

/-- A task finishes by running. -/
theorem exists_run_of_mem_finished {id : Nat} {name : String} {result : Routine.Result}
    (h : (id, name, result) ∈ (s.act action).finished) : (id, name, result) ∈ s.finished ∨
      ∃ task ∈ s.tasks, task.id = id ∧ action = .poll id ∧
        (s.context.run task.monitor task.routine).2 = .finished result := by
  cases action with
  | poll id' =>
    rw [act] at h
    cases htask : s.task? id' with
    | none =>
      rw [htask] at h
      exact .inl h
    | some task =>
      obtain ⟨hmem, rfl⟩ := task?_eq_some htask
      rw [htask, Option.elim_some, poll] at h
      rcases hout : s.context.run task.monitor task.routine with ⟨context, routine | result'⟩
      · rw [hout] at h
        exact .inl h
      · rw [hout] at h
        refine (List.mem_append.1 h).imp_right fun hnew => ?_
        obtain ⟨rfl, rfl, rfl⟩ := List.mem_singleton.1 hnew
        exact ⟨task, hmem, rfl, rfl, congrArg Prod.snd hout⟩
  | drop id' =>
    rw [act] at h
    cases htask : s.task? id' with
    | none =>
      rw [htask] at h
      exact .inl h
    | some task =>
      rw [htask] at h
      exact .inl h
  | activate db =>
    rw [act, activate] at h
    split at h <;> exact .inl h
  | start | cancel | adopt | serve | editDatabases | editSettings | editSchemas | editTables =>
    exact .inl h

theorem started_le_act (s : Session) (action : Action) : s.started ≤ (s.act action).started := by
  cases action with
  | start => exact Nat.le_succ s.started
  | poll id =>
    rw [act]
    cases s.task? id with
    | none => exact Nat.le_refl _
    | some task =>
      rw [Option.elim_some, poll]
      split <;> exact Nat.le_refl _
  | drop id =>
    rw [act]
    cases s.task? id <;> exact Nat.le_refl _
  | activate db => exact Nat.le_of_eq (s.tasks_activate db).2.symm
  | cancel | adopt | serve | editDatabases | editSettings | editSchemas | editTables =>
    exact Nat.le_refl _

/-- A task that is started and run at once runs in a session where it is the last one. -/
theorem Regular.exists_begun (h : s.Regular) (name : String) (routine : Routine)
    (monitor : Option String) : ∃ (begun : Session) (own : Monitor),
      begun.source = s.source ∧ begun.context.server = s.context.server ∧
      begun.finished = s.finished ∧ begun.started = s.started + 1 ∧
      begun.tasks = s.tasks ++ [⟨s.started, name, own, routine⟩] ∧
      s.acts [.start name routine monitor, .poll s.started] =
        begun.poll ⟨s.started, name, own, routine⟩ := by
  rcases hresolve : s.monitors.resolveOrFresh s.context.monitors monitor with ⟨names, monitors, own⟩
  let task : Task := ⟨s.started, name, own, routine⟩
  let begun : Session := { s with
    context := { s.context with monitors }
    monitors := names
    started := s.started + 1
    tasks := s.tasks ++ [task] }
  have hbegun : s.start name routine monitor = begun := by
    rw [start, hresolve]
    rfl
  have hfind : begun.task? s.started = some task := by
    have hothers : ∀ other ∈ s.tasks, ¬other.id = s.started := fun other hother =>
      Nat.ne_of_lt (h.lt other hother)
    rw [task?, List.find?_append, List.find?_eq_none.2 (by simpa using hothers)]
    simp [task]
  refine ⟨begun, own, rfl, rfl, rfl, rfl, rfl, ?_⟩
  simp only [acts_cons, acts_nil, act, hbegun, hfind, Option.elim_some, task]

end Tasks

theorem Reachable.regular (h : s.Reachable) : s.Regular :=
  h.induct (P := Regular) (fun connection server => (regular_opened connection server).1)
    fun _ _ _ hregular haction => (reaches_act hregular haction).2

/-- The scene of a session is one that some moves lead to. -/
theorem Reachable.scene (h : s.Reachable) :
    ∃ connection server, (Scene.opened connection server).Reaches s.scene := by
  refine h.induct (P := fun s => ∃ connection server,
    (Scene.opened connection server).Reaches s.scene) ?_ ?_
  · intro connection server
    exact ⟨connection, server, .refl _⟩
  · rintro s action hs ⟨connection, server, hreaches⟩ haction
    exact ⟨connection, server, hreaches.trans (reaches_act hs.regular haction).1⟩

/-- Tasks that finished were started. -/
theorem Reachable.lt_of_mem_finished (h : s.Reachable) :
    ∀ entry ∈ s.finished, entry.1 < s.started := by
  refine h.induct (P := fun s => ∀ entry ∈ s.finished, entry.1 < s.started) ?_ ?_
  · intro connection server entry hentry
    cases hentry
  · intro s action hs ih _ entry hentry
    refine Nat.lt_of_lt_of_le ?_ (s.started_le_act action)
    rcases exists_run_of_mem_finished hentry with hold | ⟨task, hmem, hid, -⟩
    · exact ih entry hold
    · exact hid ▸ hs.regular.lt task hmem

theorem Reachable.sound (h : s.Reachable) : s.scene.Sound := by
  obtain ⟨connection, server, moves, hmoves, hrun⟩ := h.scene
  exact hrun ▸ (Scene.sound_opened connection server).run fun move hmove =>
    (hmoves move hmove).proper

/-- Turns of different tasks, one after the other, are actions. -/
theorem foldl_poll_eq_acts (h : s.Regular) {tasks : List Task}
    (hmem : ∀ task ∈ tasks, task ∈ s.tasks) (hnodup : (tasks.map (·.id)).Nodup) :
    tasks.foldl poll s = s.acts ((tasks.map (·.id)).map .poll) ∧ (tasks.foldl poll s).Regular := by
  induction tasks generalizing s with
  | nil => exact ⟨rfl, h⟩
  | cons task rest ih =>
    obtain ⟨htask, hrest⟩ := List.forall_mem_cons.1 hmem
    obtain ⟨hid, hids⟩ := List.nodup_cons.1 hnodup
    obtain ⟨-, hregular, hstays⟩ := reaches_poll h htask
    have hothers : ∀ other ∈ rest, other ∈ (s.poll task).tasks := fun other hother =>
      hstays other (hrest other hother) fun hsame =>
        hid (List.mem_map.2 ⟨other, hother, hsame⟩)
    have hact : s.act (.poll task.id) = s.poll task := by
      rw [act, h.task?_of_mem htask, Option.elim_some]
    obtain ⟨hlater, hend⟩ := ih hregular hothers hids
    refine ⟨?_, hend⟩
    rw [List.foldl_cons, hlater, List.map_cons, List.map_cons, acts_cons, hact]

theorem exists_rounds_eq_acts (h : s.Regular) (n : Nat) :
    ∃ ids : List Nat, s.rounds n = s.acts (ids.map .poll) := by
  induction n generalizing s with
  | zero => exact ⟨[], rfl⟩
  | succ n ih =>
    obtain ⟨hround, hregular⟩ := foldl_poll_eq_acts h (fun _ h => h) h.nodup
    rw [rounds]
    split
    · exact ⟨_, hround⟩
    · obtain ⟨ids, hids⟩ := ih hregular
      refine ⟨s.tasks.map (·.id) ++ ids, ?_⟩
      rw [List.map_append, acts_append, ← hround]
      exact hids

/-- What tasks do until all of them wait is a sequence of actions. -/
theorem Reachable.settle (h : s.Reachable) : s.settle.Reachable := by
  rw [Session.settle]
  obtain ⟨ids, hids⟩ := exists_rounds_eq_acts h.regular
    ((s.tasks.length + 1) * (s.tasks.length + 2) * (s.breadth + 2) * (s.breadth + 2))
  rw [hids]
  exact h.acts (by simp [Action.Proper])

/-- To give a task up is to drop it. -/
theorem Reachable.abort (h : s.Reachable) {name : String} {s' : Session}
    (habort : s.abort name = some s') : s'.Reachable := by
  obtain ⟨task, hfind, rfl⟩ := Option.map_eq_some_iff.1 habort
  have htask := h.regular.task?_of_mem (List.mem_of_find?_eq_some hfind)
  have hact : s.act (.drop task.id) = s.drop task := by
    rw [Session.act, htask, Option.elim_some]
  have hdropped : (s.act (.drop task.id)).Reachable := h.act trivial
  rw [hact] at hdropped
  exact hdropped

/-- Nothing in the data source goes back. -/
theorem Reachable.descends (h : s.Reachable) (hactions : ∀ action ∈ actions, action.Proper) :
    s.source.Descends (s.acts actions).source := by
  induction actions generalizing s with
  | nil => exact .refl _
  | cons action rest ih =>
    obtain ⟨haction, hrest⟩ := List.forall_mem_cons.1 hactions
    obtain ⟨moves, hmoves, hrun⟩ := (reaches_act h.regular haction).1
    have hfirst : s.source.Descends (s.act action).source := by
      have hdescends := Scene.run_descends s.scene fun move hmove => (hmoves move hmove).proper
      rw [hrun] at hdescends
      exact hdescends
    exact hfirst.trans (ih (h.act haction) hrest)

end Session

end CatalogBrowser
