import CatalogBrowser.Proofs.Cache.CancelledListing
import CatalogBrowser.Proofs.DataSource.Action
import CatalogBrowser.Proofs.DataSource.Frame

/-!
# Who attends to the settings

In a turn, a task leaves the settings alone, or clears them, or runs its one load of them. So a
listing of the settings is given up only by the task that leads it: it is dropped, or it runs
although it is cancelled. Nobody begins to wait for a listing after that.

## Main definitions

* `Routine.Attends` - what a turn of a task makes of the settings.
* `Session.Attended` - what an action makes of them.
* `Session.Forsakes`, `Session.LeftAlone` - a task gives up the listing that it leads, and that
  another one waits for.

## Main statements

* `Context.attendsTo_run`, `Session.attended_act` - there is nothing else that turns and actions do.
* `Session.leftAlone_of_forsaken` - who waits for a listing that was given up waits for another
  task.
-/

namespace CatalogBrowser

open Cache (Load Stage)

/-- The load of the settings that a task has under way. -/
def Routine.setting? : Routine → Option (Load Setting.Query)
  | .opening (.settings load) | .settings load => some load
  | _ => none

/-- A task that was not run yet has not begun to read the settings. -/
theorem Routine.Called.setting?_stage {routine : Routine} (h : routine.Called)
    {load : Load Setting.Query} (hload : routine.setting? = some load) : load.stage = .start := by
  cases routine with
  | opening stage =>
    obtain rfl := h
    cases hload
  | settings load' =>
    obtain rfl := Option.some.inj hload
    rw [show load' = _ from h]
  | _ => cases hload

/-- What a turn of a task makes of the settings, and what it has under way then. The task leaves
them alone, or clears them, or runs one load. -/
inductive Routine.Attends (settings : Cache Setting) (cancelled : Bool) (routine : Routine) :
    Cache Setting → Option (Load Setting.Query) → Prop
  | apart : routine.setting? = none → Attends settings cancelled routine settings none
  | clears : routine.setting? = none →
      Attends settings cancelled routine (settings.clear Setting.source).1 none
  | runs {load : Load Setting.Query} (server : Server) :
      routine.setting? = some load ∨ routine.setting? = none ∧ load = { request := .all } →
      Attends settings cancelled routine
        (load.run Setting.source Setting.remote server settings cancelled).cache
        (load.run Setting.source Setting.remote server settings cancelled).poll.pending?

namespace Context

variable {ctx ctx' : Context} {monitor : Monitor} {routine : Routine}

/-- What a task makes of the settings in a turn. -/
def AttendsTo (ctx : Context) (monitor : Monitor) (routine : Routine) (out : Ran) : Prop :=
  routine.Attends ctx.source.settings (ctx.isCancelled monitor) out.1.source.settings
    (out.2.pending?.bind Routine.setting?)

/-- The settings are the same, and who is cancelled. -/
structure Alike (ctx ctx' : Context) : Prop where
  settings : ctx'.source.settings = ctx.source.settings
  isCancelled : ∀ monitor, ctx'.isCancelled monitor = ctx.isCancelled monitor

theorem Frame.alike (h : ctx.Frame ctx') : ctx.Alike ctx' :=
  ⟨h.settings, h.isCancelled⟩

theorem AttendsTo.after (halike : ctx.Alike ctx') {out : Ran}
    (h : ctx'.AttendsTo monitor routine out) : ctx.AttendsTo monitor routine out := by
  rwa [AttendsTo, halike.settings, halike.isCancelled monitor] at h

/-- The settings stay as they are. -/
theorem attendsTo_of_alike (halike : ctx.Alike ctx') (hrest : routine.setting? = none)
    {out : Poll Routine Routine.Result} (hleft : out.pending?.bind Routine.setting? = none) :
    ctx.AttendsTo monitor routine (ctx', out) := by
  rw [AttendsTo, halike.settings, hleft]
  exact .apart hrest

/-- The settings are read, and it does not matter what becomes of the result. -/
theorem attendsTo_runSettings {load : Load Setting.Query}
    (hload : routine.setting? = some load ∨ routine.setting? = none ∧ load = { request := .all })
    {out : Ran} (hsettings : out.1.source.settings =
      (ctx.runSettings monitor load).1.source.settings)
    (hleft : out.2.pending?.bind Routine.setting? = (ctx.runSettings monitor load).2.pending?) :
    ctx.AttendsTo monitor routine out := by
  rw [AttendsTo, hsettings, hleft]
  exact .runs ctx.server hload

theorem attendsTo_initializeSettings {load : Load Setting.Query}
    (hload : routine.setting? = some load ∨ routine.setting? = none ∧ load = { request := .all }) :
    ctx.AttendsTo monitor routine (ctx.initializeSettings monitor load) := by
  refine attendsTo_runSettings hload ?_ ?_
  all_goals
    rw [initializeSettings]
    rcases ctx.runSettings monitor load with ⟨ctx', load' | (error | reply)⟩
  · rfl
  · simp only [initialized]
    split <;> rfl
  · rfl
  · rfl
  · simp only [initialized]
    split <;> rfl
  · rfl

section Opening

variable (hrest : routine.setting? = none)
include hrest

theorem attendsTo_initializeActive (ctx : Context) (monitor : Monitor) :
    ctx.AttendsTo monitor routine (ctx.initializeActive monitor) := by
  refine AttendsTo.after ?_ (attendsTo_initializeSettings (.inr ⟨hrest, rfl⟩))
  exact ⟨rfl, fun _ => rfl⟩

theorem attendsTo_initializeCurrent (ctx : Context) (monitor : Monitor) (pending : Pending) :
    ctx.AttendsTo monitor routine (ctx.initializeCurrent monitor pending) := by
  rw [initializeCurrent]
  split
  · exact attendsTo_of_alike ⟨rfl, fun _ => rfl⟩ hrest rfl
  · split
    · exact attendsTo_of_alike ⟨rfl, fun _ => rfl⟩ hrest rfl
    · exact attendsTo_of_alike ⟨rfl, fun _ => rfl⟩ hrest rfl
    · refine AttendsTo.after ?_ (attendsTo_initializeActive hrest _ monitor)
      exact ⟨rfl, fun _ => rfl⟩

theorem attendsTo_initializeName (ctx : Context) (monitor : Monitor) :
    ctx.AttendsTo monitor routine (ctx.initializeName monitor) := by
  rw [initializeName]
  split
  · exact attendsTo_initializeActive hrest ctx monitor
  · split
    · exact attendsTo_of_alike ⟨rfl, fun _ => rfl⟩ hrest rfl
    · refine AttendsTo.after ?_ (attendsTo_initializeCurrent hrest _ monitor _)
      exact ⟨rfl, fun _ => rfl⟩

theorem attendsTo_initializeDatabases (ctx : Context) (monitor : Monitor)
    (load : Load Database.Query) :
    ctx.AttendsTo monitor routine (ctx.initializeDatabases monitor load) := by
  have halike := (ctx.frame_runDatabases monitor load).alike
  rw [initializeDatabases]
  rcases hout : ctx.runDatabases monitor load with ⟨ctx', load' | (error | reply)⟩
  · rw [hout] at halike
    exact attendsTo_of_alike halike hrest rfl
  · rw [hout] at halike
    exact attendsTo_of_alike halike hrest rfl
  · rw [hout] at halike
    exact (attendsTo_initializeName hrest ctx' monitor).after halike

end Opening

theorem attendsTo_runInitialize (ctx : Context) (monitor : Monitor) (stage : Initialization) :
    ctx.AttendsTo monitor (.opening stage) (ctx.runInitialize monitor stage) := by
  cases stage with
  | start =>
    rw [runInitialize]
    dsimp only
    split
    · refine AttendsTo.after ?_ (attendsTo_initializeDatabases (by rfl) _ monitor _)
      exact ⟨rfl, fun _ => rfl⟩
    · refine AttendsTo.after ?_ (attendsTo_initializeActive (by rfl) _ monitor)
      exact ⟨rfl, fun _ => rfl⟩
  | databases load => exact attendsTo_initializeDatabases rfl ctx monitor load
  | current pending => exact attendsTo_initializeCurrent rfl ctx monitor pending
  | settings load => exact attendsTo_initializeSettings (.inl rfl)

theorem pending?_follow {σ : Type} (out : Context × Poll σ Cache.Result) (state : σ → Routine)
    (answer : Cache.Reply → Answer) :
    (follow out state answer).2.pending? = out.2.pending?.map state := by
  rcases out with ⟨ctx, load | (error | reply)⟩ <;> rfl

theorem pending?_followWalk {σ : Type} (out : Context × Poll σ WalkResult) (state : σ → Routine) :
    (followWalk out state).2.pending? = out.2.pending?.map state := by
  rcases out with ⟨ctx, walk | (error | ⟨⟩)⟩ <;> rfl

/-- What waits after a load or a walk has no load of the settings. -/
theorem bind_map_setting? {σ : Type} {state : σ → Routine}
    (hstate : ∀ load, (state load).setting? = none) (left : Option σ) :
    (left.map state).bind Routine.setting? = none := by
  cases left with
  | none => rfl
  | some load => exact hstate load

/-- A refresh that has begun leaves the settings alone. -/
theorem settings_runRefresh (ctx : Context) (monitor : Monitor) (load : Load Database.Query) :
    (ctx.runRefresh monitor true load).1.source.settings = ctx.source.settings ∧
      (ctx.runRefresh monitor true load).2.pending?.bind Routine.setting? = none := by
  have hsettings := (ctx.frame_runDatabases monitor load).settings
  simp only [runRefresh, if_true]
  rcases hout : ctx.runDatabases monitor load with ⟨ctx', load' | (error | reply)⟩
  all_goals
    rw [hout] at hsettings
    exact ⟨hsettings, rfl⟩

theorem attendsTo_runRefresh (ctx : Context) (monitor : Monitor) (begun : Bool)
    (load : Load Database.Query) :
    ctx.AttendsTo monitor (.refresh begun load) (ctx.runRefresh monitor begun load) := by
  cases begun with
  | true =>
    obtain ⟨hsettings, hleft⟩ := ctx.settings_runRefresh monitor load
    rw [AttendsTo, hsettings, hleft]
    exact .apart rfl
  | false =>
    -- from there on it is as if it had begun
    obtain ⟨hsettings, hleft⟩ := (ctx.editSettings .clear).2.settings_runRefresh monitor load
    have hbegun : ctx.runRefresh monitor false load =
        (ctx.editSettings .clear).2.runRefresh monitor true load := rfl
    rw [AttendsTo, hbegun, hsettings, hleft]
    exact .clears rfl

theorem attendsTo_follow {σ : Type} {out : Context × Poll σ Cache.Result} {state : σ → Routine}
    {answer : Cache.Reply → Answer} (hrest : routine.setting? = none) (hframe : ctx.Frame out.1)
    (hstate : ∀ load, (state load).setting? = none) :
    ctx.AttendsTo monitor routine (follow out state answer) := by
  rw [← Prod.eta (follow out state answer), follow_context]
  refine attendsTo_of_alike hframe.alike hrest ?_
  rw [pending?_follow, bind_map_setting? hstate]

theorem attendsTo_followWalk {σ : Type} {out : Context × Poll σ WalkResult} {state : σ → Routine}
    (hrest : routine.setting? = none) (hframe : ctx.Frame out.1)
    (hstate : ∀ walk, (state walk).setting? = none) :
    ctx.AttendsTo monitor routine (followWalk out state) := by
  rw [← Prod.eta (followWalk out state), followWalk_context]
  refine attendsTo_of_alike hframe.alike hrest ?_
  rw [pending?_followWalk, bind_map_setting? hstate]

theorem attendsTo_runQuery (ctx : Context) (monitor : Monitor) (query : DirectQuery)
    (pending : Option Pending) :
    ctx.AttendsTo monitor (.query query pending) (ctx.runQuery query pending) := by
  unfold runQuery
  cases pending with
  | none =>
    dsimp only
    split <;> exact attendsTo_of_alike ⟨rfl, fun _ => rfl⟩ rfl rfl
  | some pending =>
    dsimp only
    split <;> exact attendsTo_of_alike ⟨rfl, fun _ => rfl⟩ rfl rfl

/-- In a turn, a task leaves the settings alone, clears them, or runs one load. -/
theorem attendsTo_run (ctx : Context) (monitor : Monitor) (routine : Routine) :
    ctx.AttendsTo monitor routine (ctx.run monitor routine) := by
  cases routine with
  | opening stage => exact attendsTo_runInitialize ctx monitor stage
  | refresh begun load => exact attendsTo_runRefresh ctx monitor begun load
  | databases load =>
    exact attendsTo_follow rfl (ctx.frame_runDatabases monitor load) fun _ => rfl
  | settings load =>
    refine attendsTo_runSettings (.inl rfl) ?_ ?_
    · rw [run, follow_context]
    · rw [run, pending?_follow]
      cases (ctx.runSettings monitor load).2 <;> rfl
  | schemas db load =>
    exact attendsTo_follow rfl (ctx.frame_runSchemas monitor db load) fun _ => rfl
  | tables db schema load =>
    exact attendsTo_follow rfl (ctx.frame_runTables monitor db schema load) fun _ => rfl
  | preload walk =>
    exact attendsTo_followWalk rfl (frame_walkDatabases monitor ctx walk) fun _ => rfl
  | preloadDatabase db walk =>
    exact attendsTo_followWalk rfl (frame_walkSchemas monitor ctx db walk) fun _ => rfl
  | preloadSchema db schema depth load =>
    cases depth with
    | zero => exact attendsTo_of_alike ⟨rfl, fun _ => rfl⟩ rfl rfl
    | succ depth =>
      exact attendsTo_follow rfl (ctx.frame_runTables monitor db schema load) fun _ => rfl
  | query query pending => exact attendsTo_runQuery ctx monitor query pending

/-- A task that is dropped gives up its load of the settings, if it has one. -/
theorem settings_abandon (ctx : Context) (routine : Routine) :
    (ctx.abandon routine).source.settings =
      match routine.setting? with
      | some load => ctx.source.settings.abandon load.stage
      | none => ctx.source.settings := by
  cases routine with
  | opening stage => cases stage <;> rfl
  | refresh _ load | databases load => rfl
  | settings | query => rfl
  | schemas db load => exact (ctx.frame_abandonSchemas db load).settings
  | tables db schema load | preloadSchema db schema _ load =>
    exact (ctx.frame_abandonTables db schema load).settings
  | preload walk => exact (frame_abandonDatabaseWalk ctx walk).settings
  | preloadDatabase db walk => exact (frame_abandonSchemaWalk ctx db walk).settings

end Context

section Attends

variable {settings settings' : Cache Setting} {cancelled : Bool} {routine : Routine}
  {left : Option (Load Setting.Query)} {promise : Nat}

/-- A task that waits for a listing of the settings by another task. -/
def Routine.Awaits (routine : Routine) (promise : Nat) : Prop :=
  ∃ load current, routine.setting? = some load ∧ load.stage = .awaitingFetch promise current

/-- A task that leads a listing of the settings. -/
def Routine.Lists (routine : Routine) (promise : Nat) : Prop :=
  ∃ load lead, routine.setting? = some load ∧ load.stage = .listing lead ∧ lead.promise = promise

theorem Routine.Awaits.not_lists {other : Nat} (h : routine.Awaits promise) :
    ¬routine.Lists other := by
  obtain ⟨load, current, hload, hstage⟩ := h
  rintro ⟨load', lead, hload', hstage', -⟩
  obtain rfl := Option.some.inj (hload.symm.trans hload')
  rw [hstage] at hstage'
  cases hstage'

theorem Routine.Attends.unresolved (h : routine.Attends settings cancelled settings' left)
    (hsettings : settings.Unresolved) : settings'.Unresolved := by
  cases h with
  | apart => exact hsettings
  | clears => exact Cache.unresolved_edit Setting.source hsettings .clear
  | runs server => exact (Load.ran_run ..).unresolved hsettings

/-- A task gives up the listing that it leads, and only if it is cancelled. -/
theorem Routine.Attends.forsaken (h : routine.Attends settings cancelled settings' left)
    (hmade : promise < settings.fetchResults.size) (hforsaken : settings'.Forsaken promise) :
    settings.Forsaken promise ∨ cancelled = true ∧ routine.Lists promise := by
  cases h with
  | apart => exact .inl hforsaken
  | clears => exact .inl hforsaken
  | @runs load server hload =>
    refine (Load.forsaken_run hmade hforsaken).imp_right ?_
    rintro ⟨hcancelled, lead, hstage, rfl⟩
    rcases hload with hload | ⟨-, rfl⟩
    · exact ⟨hcancelled, load, lead, hload, hstage, rfl⟩
    · cases hstage

/-- A task begins to wait for a listing that has no result. -/
theorem Routine.Attends.awaits (h : routine.Attends settings cancelled settings' left)
    (hsettings : settings.Unresolved) {load : Load Setting.Query} {current : Bool}
    (hleft : left = some load) (hstage : load.stage = .awaitingFetch promise current) :
    routine.Awaits promise ∨ settings'.fetchResults.Open promise := by
  cases h with
  | apart | clears => cases hleft
  | @runs first server hload =>
    have hwaits := congrArg (Option.map Load.stage) hleft
    rw [Option.map_some, hstage] at hwaits
    rcases (Load.ran_run ..).awaits hsettings hwaits with hold | hopen
    · rcases hload with hload | ⟨-, rfl⟩
      · exact .inl ⟨first, current, hload, hold⟩
      · cases hold
    · exact .inr hopen

theorem Routine.Attends.size_le (h : routine.Attends settings cancelled settings' left) :
    settings.fetchResults.size ≤ settings'.fetchResults.size := by
  cases h with
  | apart | clears => exact Nat.le_refl _
  | runs server => exact (Load.ran_run ..).descends.fetchResults

end Attends

namespace Session

variable {s : Session} {action : Action} {actions : List Action} {promise : Nat}

/-- What an action makes of the settings, and of the tasks that are pending. -/
inductive Attended (s : Session) : Action → Session → Prop
  /-- A task runs. -/
  | turn {task : Task} {s' : Session} {left : Option (Load Setting.Query)} : task ∈ s.tasks →
      task.routine.Attends s.source.settings (s.context.isCancelled task.monitor)
        s'.source.settings left →
      (∀ other ∈ s'.tasks, other ∈ s.tasks ∨
        other.id = task.id ∧ other.routine.setting? = left) →
      Attended s (.poll task.id) s'
  /-- A task is dropped. -/
  | drop {task : Task} {s' : Session} : task ∈ s.tasks →
      (s'.source.settings = s.source.settings ∨ ∃ load, task.routine.setting? = some load ∧
        s'.source.settings = s.source.settings.abandon load.stage) →
      (∀ other ∈ s'.tasks, other ∈ s.tasks) → Attended s (.drop task.id) s'
  /-- At most the settings are edited, or a task begins. -/
  | aside {action : Action} {s' : Session} :
      (s'.source.settings = s.source.settings ∨ ∃ edit : Cache.Edit Setting,
        s'.source.settings = (edit.apply Setting.source s.source.settings).2.1) →
      (∀ other ∈ s'.tasks, other ∈ s.tasks ∨ other.routine.Called) → Attended s action s'

theorem attended_aside {s' : Session} (hsettings : s'.source.settings = s.source.settings)
    (htasks : s'.tasks = s.tasks) : Attended s action s' :=
  .aside (.inl hsettings) fun _ hother => .inl (htasks ▸ hother)

theorem attended_poll (s : Session) {task : Task} (hmem : task ∈ s.tasks) :
    Attended s (.poll task.id) (s.poll task) := by
  have hattends := s.context.attendsTo_run task.monitor task.routine
  rw [Context.AttendsTo] at hattends
  rw [poll]
  rcases hout : s.context.run task.monitor task.routine with ⟨ctx', routine | result⟩
  · rw [hout] at hattends
    refine .turn hmem hattends fun other hother => ?_
    obtain ⟨old, hold, rfl⟩ := List.mem_map.1 hother
    split
    next hid => exact .inr ⟨hid, rfl⟩
    next => exact .inl hold
  · rw [hout] at hattends
    exact .turn hmem hattends fun other hother => .inl (List.mem_of_mem_filter hother)

/-- Whether an action may change the settings: a task runs or is dropped, or they are edited. -/
def Action.Unsettles : Action → Prop
  | .poll _ | .drop _ | .editSettings _ => True
  | _ => False

theorem settings_act (s : Session) (haction : ¬action.Unsettles) :
    (s.act action).source.settings = s.source.settings := by
  cases action with
  | poll | drop | editSettings => exact absurd trivial haction
  | activate db =>
    rw [act, activate, DataSource.setActive?]
    cases s.source.database? db with
    | none => rfl
    | some database => cases hdefault : s.source.isDefault db <;> rfl
  | editSchemas db edit =>
    rw [source, act, Context.editSchemas]
    cases s.context.source.database? db <;> rfl
  | editTables db schema edit =>
    rw [source, act, Context.editTables]
    cases s.context.source.schema? db schema with
    | none => rfl
    | some owner => exact (s.context.frame_putTables db schema _).settings
  | start | cancel | adopt | serve | editDatabases => rfl

theorem attended_act (s : Session) (haction : action.Proper) :
    Attended s action (s.act action) := by
  cases action with
  | start name routine monitor =>
    refine .aside (.inl rfl) fun other hother => ?_
    rcases List.mem_append.1 hother with hold | hnew
    · exact .inl hold
    · obtain rfl := List.mem_singleton.1 hnew
      exact .inr haction
  | poll id =>
    rw [act]
    cases htask : s.task? id with
    | none => exact attended_aside rfl rfl
    | some task =>
      obtain ⟨hmem, rfl⟩ := task?_eq_some htask
      exact s.attended_poll hmem
  | drop id =>
    rw [act]
    cases htask : s.task? id with
    | none => exact attended_aside rfl rfl
    | some task =>
      obtain ⟨hmem, rfl⟩ := task?_eq_some htask
      refine .drop hmem ?_ fun other hother => List.mem_of_mem_filter hother
      have hsettings := s.context.settings_abandon task.routine
      cases hload : task.routine.setting? with
      | none =>
        rw [hload] at hsettings
        exact .inl hsettings
      | some load =>
        rw [hload] at hsettings
        exact .inr ⟨load, rfl, hsettings⟩
  | editSettings edit => exact .aside (.inr ⟨edit, rfl⟩) fun _ hother => .inl hother
  | activate db => exact attended_aside (s.settings_act id) (s.tasks_activate db).1
  | cancel | adopt | serve | editDatabases | editSchemas | editTables =>
    exact attended_aside (s.settings_act id) rfl

theorem Attended.unresolved {s' : Session} (h : Attended s action s')
    (hs : s.source.settings.Unresolved) : s'.source.settings.Unresolved := by
  cases h with
  | turn _ attends => exact attends.unresolved hs
  | drop _ settings =>
    rcases settings with hsame | ⟨load, -, hsettings⟩
    · exact hsame ▸ hs
    · rw [hsettings]
      exact (Load.ran_abandon Setting.source s.source.settings load).unresolved hs
  | aside settings =>
    rcases settings with hsame | ⟨edit, hsettings⟩
    · exact hsame ▸ hs
    · rw [hsettings]
      exact Cache.unresolved_edit Setting.source hs edit

/-- Nobody was told anything of the listing of the settings that is in flight. -/
theorem Reachable.unresolved (h : s.Reachable) : s.source.settings.Unresolved :=
  h.induct (P := fun s => s.source.settings.Unresolved) (fun _ _ _ hflight => by cases hflight)
    fun s _ _ hs haction => (s.attended_act haction).unresolved hs

/-- With an action, a task gives up the listing of the settings that it leads: it is dropped, or it
runs although it is cancelled. -/
def Forsakes (s : Session) (leader : Task) (promise : Nat) (action : Action) : Prop :=
  leader ∈ s.tasks ∧ leader.routine.Lists promise ∧
    (action = .drop leader.id ∨
      action = .poll leader.id ∧ s.context.isCancelled leader.monitor = true)

/-- A listing of the settings is given up by the task that leads it. -/
theorem Attended.forsaken {s' : Session} (h : Attended s action s')
    (hmade : promise < s.source.settings.fetchResults.size)
    (hforsaken : s'.source.settings.Forsaken promise) :
    s.source.settings.Forsaken promise ∨ ∃ leader, s.Forsakes leader promise action := by
  cases h with
  | @turn task _ _ hmem attends =>
    rcases attends.forsaken hmade hforsaken with hbefore | ⟨hcancelled, hlists⟩
    · exact .inl hbefore
    · exact .inr ⟨task, hmem, hlists, .inr ⟨rfl, hcancelled⟩⟩
  | @drop task _ hmem settings =>
    rcases settings with hsame | ⟨load, hload, hsettings⟩
    · exact .inl (hsame ▸ hforsaken)
    · rw [hsettings] at hforsaken
      rcases (Load.ran_abandon Setting.source _ load).forsaken hmade hforsaken with
        hbefore | ⟨lead, hstage, hlead⟩
      · exact .inl hbefore
      · exact .inr ⟨task, hmem, ⟨load, lead, hload, hstage, hlead⟩, .inl rfl⟩
  | aside settings =>
    rcases settings with hsame | ⟨edit, hsettings⟩
    · exact .inl (hsame ▸ hforsaken)
    · rw [Cache.Forsaken, hsettings,
        (Cache.sameFlights_edit Setting.source _ edit).fetchResults] at hforsaken
      exact .inl hforsaken

theorem Attended.size_le {s' : Session} (h : Attended s action s') :
    s.source.settings.fetchResults.size ≤ s'.source.settings.fetchResults.size := by
  cases h with
  | turn _ attends => exact attends.size_le
  | drop _ settings =>
    rcases settings with hsame | ⟨load, -, hsettings⟩
    · exact Nat.le_of_eq (by rw [hsame])
    · rw [hsettings]
      exact (Load.ran_abandon Setting.source s.source.settings load).descends.fetchResults
  | aside settings =>
    rcases settings with hsame | ⟨edit, hsettings⟩
    · exact Nat.le_of_eq (by rw [hsame])
    · rw [hsettings]
      exact (Cache.descends_edit Setting.source s.source.settings edit).fetchResults

/-- A task begins to wait for a listing that has no result. -/
theorem Attended.awaits {s' : Session} (h : Attended s action s')
    (hs : s.source.settings.Unresolved) {task : Task} (htask : task ∈ s'.tasks)
    (hawaits : task.routine.Awaits promise) :
    (∃ earlier ∈ s.tasks, earlier.id = task.id ∧ earlier.routine.Awaits promise) ∨
      s'.source.settings.fetchResults.Open promise := by
  cases h with
  | @turn other _ left hmem attends tasks =>
    rcases tasks task htask with hold | ⟨hid, hleft⟩
    · exact .inl ⟨task, hold, rfl, hawaits⟩
    · obtain ⟨load, current, hload, hstage⟩ := hawaits
      exact (attends.awaits hs (hleft.symm.trans hload) hstage).imp_left fun hwaited =>
        ⟨other, hmem, hid.symm, hwaited⟩
  | drop _ _ tasks => exact .inl ⟨task, tasks task htask, rfl, hawaits⟩
  | aside _ tasks =>
    rcases tasks task htask with hold | hcalled
    · exact .inl ⟨task, hold, rfl, hawaits⟩
    · obtain ⟨load, current, hload, hstage⟩ := hawaits
      rw [hcalled.setting?_stage hload] at hstage
      cases hstage

/-- What a task waits for was begun. -/
theorem Reachable.made (h : s.Reachable) :
    ∀ task ∈ s.tasks, ∀ promise, task.routine.Awaits promise →
      promise < s.source.settings.fetchResults.size := by
  refine h.induct (P := fun s => ∀ task ∈ s.tasks, ∀ promise, task.routine.Awaits promise →
    promise < s.source.settings.fetchResults.size) ?_ ?_
  · intro connection server task htask
    cases htask
  · intro s action hs ih haction task htask promise hawaits
    have hattended := s.attended_act haction
    rcases hattended.awaits hs.unresolved htask hawaits with
      ⟨earlier, hearlier, -, hwaited⟩ | hopen
    · exact Nat.lt_of_lt_of_le (ih earlier hearlier promise hwaited) hattended.size_le
    · exact hopen.1

/-- In a run, another task gives up the listing of the settings that a task waits for. -/
def LeftAlone (s : Session) (actions : List Action) (task : Task) (promise : Nat) : Prop :=
  ∃ before action behind leader, actions = before ++ action :: behind ∧ leader.id ≠ task.id ∧
    (s.acts before).Forsakes leader promise action

/-- A task that waits for a listing of the settings that was given up was left alone with it. -/
theorem leftAlone_of_forsaken (connection : Connection) (server : Server)
    (hactions : ∀ action ∈ actions, action.Proper) {task : Task}
    (htask : task ∈ ((opened connection server).acts actions).tasks)
    (hawaits : task.routine.Awaits promise)
    (hforsaken : ((opened connection server).acts actions).source.settings.Forsaken promise) :
    (opened connection server).LeftAlone actions task promise := by
  -- the listing was given up before the last action, or by it
  induction actions using List.reverseRecOn generalizing task with
  | nil => cases htask
  | append_singleton before action ih =>
    obtain ⟨hbefore, haction⟩ := List.forall_mem_append.1 hactions
    have hs := (reachable_opened connection server).acts hbefore
    rw [acts_concat] at htask hforsaken
    have hattended := ((opened connection server).acts before).attended_act
      (haction action (List.mem_singleton_self action))
    obtain ⟨earlier, hearlier, hid, hwaited⟩ :=
      (hattended.awaits hs.unresolved htask hawaits).resolve_right fun hopen =>
        Cache.not_forsaken_of_open hopen hforsaken
    rcases hattended.forsaken (hs.made earlier hearlier promise hwaited) hforsaken with
      hold | ⟨leader, hleader⟩
    · obtain ⟨before', action', behind, leader, rfl, hne, hleader⟩ :=
        ih hbefore hearlier hwaited hold
      exact ⟨before', action', behind ++ [action], leader, by simp, hid ▸ hne, hleader⟩
    · -- whoever waits for a listing does not lead one
      refine ⟨before, action, [], leader, rfl, fun hsame => ?_, hleader⟩
      obtain rfl := hs.regular.eq_of_id hleader.1 hearlier (hsame.trans hid.symm)
      exact hwaited.not_lists hleader.2.1

end Session

end CatalogBrowser
