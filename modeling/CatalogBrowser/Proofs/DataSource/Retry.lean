import CatalogBrowser.Proofs.DataSource.Action
import CatalogBrowser.Proofs.DataSource.Overview

/-!
# Trying to initialise again

A data source is to be initialised, and the attempt fails, or is cancelled or dropped, however far
it came. Another attempt then runs while the server is online and nothing is cancelled. It cannot
fail, it ends after a few queries, and what the data source shows in the end is what it would show
if the first attempt had never been made.

## Main definitions

* `Session.Action.Calm` - the actions that call nothing and leave the document alone.
* `Session.Attempted` - a session in which one attempt was made.
* `Session.Undisturbed` - actions among which nothing fails, is cancelled or is dropped.
* `Session.Initialized` - what a successful attempt leads to.
* `Session.Prevails` - an attempt that has succeeded, or is going to.

## Main statements

* `Session.Tries.act` - what an attempt maintains.
* `Session.Pends.over_visits` - an attempt that is run often enough ends.
* `Session.initialized_once`, `Session.initialized_retry` - the first attempt, and one after it.
-/

namespace CatalogBrowser

theorem Initialization.rank_le (stage : Initialization) : stage.rank ≤ 3 := by
  cases stage with
  | start => exact Nat.zero_le 3
  | databases load => exact Nat.le_trans (rank_databases_le load) (Nat.le_add_left 1 2)
  | current => exact Nat.le_succ 2
  | settings load =>
    rw [rank]
    split
    · exact Nat.le_refl 3
    · exact Nat.le_succ 2

namespace Session

variable {connection : Connection} {document : Document} {s s' : Session} {action : Action}
  {actions : List Action} {task : Task} {stage : Initialization} {id now : Nat} {foul : Prop}

/-- The results of the task of an id. -/
def resultsOf (s : Session) (id : Nat) : List Routine.Result :=
  (s.finished.filter (·.1 = id)).map (·.2.2)

section Calm

/-- An action that calls nothing and leaves the document of the server alone. -/
def Action.Calm (document : Document) : Action → Prop
  | .poll _ | .drop _ | .cancel _ | .adopt _ _ => True
  | .serve server => server.document = document
  | _ => False

instance (document : Document) (action : Action) : Decidable (action.Calm document) :=
  match action with
  | .serve server => inferInstanceAs (Decidable (server.document = document))
  | .poll _ | .drop _ | .cancel _ | .adopt _ _ => inferInstanceAs (Decidable True)
  | .start .. | .activate _ | .editDatabases _ | .editSettings _ | .editSchemas .. |
    .editTables .. => inferInstanceAs (Decidable False)

theorem Action.Calm.proper (h : action.Calm document) : action.Proper := by
  cases action <;> first | exact h.elim | trivial

/-- Only the server and the monitors have changed, and not the document. -/
structure Aside (document : Document) (s s' : Session) : Prop where
  tasks : s'.tasks = s.tasks
  finished : s'.finished = s.finished
  source : s'.source = s.source
  started : s'.started = s.started
  serves : s.context.server.document = document → s'.context.server.document = document

theorem Aside.refl (s : Session) : s.Aside document s :=
  ⟨rfl, rfl, rfl, rfl, fun hserves => hserves⟩

theorem Aside.trans {s'' : Session} (h : s.Aside document s') (h' : s'.Aside document s'') :
    s.Aside document s'' :=
  ⟨h'.tasks.trans h.tasks, h'.finished.trans h.finished, h'.source.trans h.source,
    h'.started.trans h.started, fun hserves => h'.serves (h.serves hserves)⟩

/-- What calm actions do. -/
inductive Calms (document : Document) (s : Session) : Action → Session → Prop
  | aside {action : Action} {s' : Session} : s.Aside document s' → Calms document s action s'
  | polls {task : Task} : task ∈ s.tasks → Calms document s (.poll task.id) (s.poll task)
  | drops {task : Task} : task ∈ s.tasks → Calms document s (.drop task.id) (s.drop task)

theorem calms_act (s : Session) (h : action.Calm document) :
    s.Calms document action (s.act action) := by
  cases action with
  | poll id =>
    rw [act]
    cases htask : s.task? id with
    | none => exact .aside (.refl s)
    | some task =>
      obtain ⟨hmem, rfl⟩ := task?_eq_some htask
      exact .polls hmem
  | drop id =>
    rw [act]
    cases htask : s.task? id with
    | none => exact .aside (.refl s)
    | some task =>
      obtain ⟨hmem, rfl⟩ := task?_eq_some htask
      exact .drops hmem
  | cancel | adopt => exact .aside ⟨rfl, rfl, rfl, rfl, fun hserves => hserves⟩
  | serve server => exact .aside ⟨rfl, rfl, rfl, rfl, fun _ => h⟩
  | start | activate | editDatabases | editSettings | editSchemas | editTables => exact h.elim

/-- Where no task is pending, only the server and the monitors change. -/
theorem aside_acts (hidle : s.tasks = []) (h : ∀ action ∈ actions, action.Calm document) :
    s.Aside document (s.acts actions) := by
  induction actions generalizing s with
  | nil => exact .refl s
  | cons action rest ih =>
    obtain ⟨haction, hrest⟩ := List.forall_mem_cons.1 h
    have hcalms := s.calms_act haction
    rw [acts_cons]
    generalize s.act action = s' at hcalms
    cases hcalms with
    | aside haside =>
      exact haside.trans (ih (haside.tasks.trans hidle) hrest)
    | polls hmem | drops hmem =>
      rw [hidle] at hmem
      cases hmem

end Calm

section Undisturbed

/-- The server is online, and no pending task is cancelled. -/
def Smooth (s : Session) : Prop :=
  s.context.server.offline = none ∧
    ∀ task ∈ s.tasks, s.context.isCancelled task.monitor = false

instance (s : Session) : Decidable s.Smooth :=
  inferInstanceAs (Decidable (_ ∧ _))

/-- Tasks run smoothly, and are not dropped. -/
def Lets (s : Session) : Action → Prop
  | .poll _ => s.Smooth
  | .drop _ => False
  | _ => True

instance (s : Session) (action : Action) : Decidable (s.Lets action) :=
  match action with
  | .poll _ => inferInstanceAs (Decidable s.Smooth)
  | .drop _ => inferInstanceAs (Decidable False)
  | .start .. | .cancel _ | .adopt .. | .serve _ | .activate _ | .editDatabases _ |
    .editSettings _ | .editSchemas .. | .editTables .. => inferInstanceAs (Decidable True)

/-- Whenever a task runs in the course of some actions, it runs smoothly, and none is dropped. -/
def Undisturbed (s : Session) : List Action → Prop
  | [] => True
  | action :: rest => s.Lets action ∧ (s.act action).Undisturbed rest

instance decidableUndisturbed (s : Session) (actions : List Action) :
    Decidable (s.Undisturbed actions) :=
  match actions with
  | [] => inferInstanceAs (Decidable True)
  | action :: rest =>
    have := decidableUndisturbed (s.act action) rest
    inferInstanceAs (Decidable (_ ∧ _))

end Undisturbed

section Attempt

/-- The only pending task is an attempt that has come to some stage. -/
structure Pends (connection : Connection) (document : Document) (task : Task)
    (stage : Initialization) (s : Session) : Prop where
  tasks : s.tasks = [task]
  routine : task.routine = .opening stage
  serves : s.context.server.document = document
  stands : stage.Stands connection document s.source
  results : s.resultsOf task.id = []

/-- An attempt is over. It succeeded, unless something was foul. -/
structure Over (connection : Connection) (document : Document) (foul : Prop) (id : Nat)
    (s : Session) : Prop where
  tasks : s.tasks = []
  serves : s.context.server.document = document
  paused : s.source.Paused connection document
  verdict : foul ∧ .ok .done ∉ s.resultsOf id ∨
    s.resultsOf id = [.ok .done] ∧ s.source.Opened connection document ∧
      (foul ∨ s.source.settings.Stocked Setting.source document.settingStock)

/-- An attempt is made under an id, and nothing else. -/
inductive Tries (connection : Connection) (document : Document) (foul : Prop) (id : Nat)
    (s : Session) : Prop
  | pends {task : Task} {stage : Initialization} : s.Pends connection document task stage →
      task.id = id → Tries connection document foul id s
  | ends : s.Over connection document foul id → Tries connection document foul id s

/-- What comes of an attempt that runs. -/
inductive Runs (connection : Connection) (document : Document) (now : Nat) (foul : Prop)
    (task : Task) (stage : Initialization) (s : Session) : Prop
  | waits {stage' : Initialization} :
      s.Pends connection document { task with routine := .opening stage' } stage' →
      s.context.At document now task.monitor foul → stage.Proceeds document now stage' →
      Runs connection document now foul task stage s
  | ends : s.Over connection document foul task.id →
      Runs connection document now foul task stage s

theorem Pends.poll (h : s.Pends connection document task stage)
    (hat : s.context.At document now task.monitor foul) :
    (s.poll task).Runs connection document now foul task stage := by
  have hresults := h.results
  have hcomes := Context.comesTo_runInitialize hat h.stands
  have hrun : s.context.run task.monitor task.routine =
      s.context.runInitialize task.monitor stage := by
    rw [h.routine]
    rfl
  rw [resultsOf, List.map_eq_nil_iff] at hresults
  rw [Session.poll, hrun]
  generalize s.context.runInitialize task.monitor stage = ran at hcomes
  cases hcomes with
  | waits hat' hproceeds hstands =>
    exact .waits ⟨by simp [h.tasks], rfl, hat'.serves, hstands, h.results⟩ hat' hproceeds
  | succeeds hat' hopened hsettings =>
    refine .ends ⟨by simp [h.tasks], hat'.serves, hopened.paused, .inr ⟨?_, hopened, hsettings⟩⟩
    simp [resultsOf, hresults]
  | fails hat' hfoul hpaused =>
    refine .ends ⟨by simp [h.tasks], hat'.serves, hpaused, .inl ⟨hfoul, ?_⟩⟩
    simp [resultsOf, hresults]

/-- If a task runs smoothly, then nothing is foul. -/
theorem Pends.at_now (h : s.Pends connection document task stage) (hsmooth : foul ∨ s.Smooth) :
    s.context.At document s.context.server.now task.monitor foul := by
  refine ⟨h.serves, rfl, fun htrouble => hsmooth.resolve_right ?_⟩
  rintro ⟨honline, hactive⟩
  have hmonitor := hactive task (h.tasks ▸ List.mem_singleton_self task)
  simp [honline, hmonitor] at htrouble

theorem Pends.aside (h : s.Pends connection document task stage) (haside : s.Aside document s') :
    s'.Pends connection document task stage := by
  refine ⟨haside.tasks.trans h.tasks, h.routine, haside.serves h.serves, ?_, ?_⟩
  · rw [haside.source]
    exact h.stands
  · rw [resultsOf, haside.finished]
    exact h.results

theorem Over.aside (h : s.Over connection document foul id) (haside : s.Aside document s') :
    s'.Over connection document foul id := by
  refine ⟨haside.tasks.trans h.tasks, haside.serves h.serves, ?_, ?_⟩
  · rw [haside.source]
    exact h.paused
  · rw [resultsOf, haside.finished, haside.source]
    exact h.verdict

/-- An attempt that is dropped is over. -/
theorem Pends.drop (h : s.Pends connection document task stage) (hfoul : foul) :
    (s.drop task).Over connection document foul task.id := by
  have habandoned : (s.drop task).source = (s.context.abandon (.opening stage)).source := by
    rw [← h.routine]
    rfl
  have hserver : (s.drop task).context.server = s.context.server := by
    rw [Session.drop, h.routine]
    cases stage <;> rfl
  refine ⟨?_, ?_, ?_, .inl ⟨hfoul, ?_⟩⟩
  · simp [Session.drop, h.tasks]
  · rw [hserver]
    exact h.serves
  · rw [habandoned]
    exact h.stands.abandon
  · have hresults : (s.drop task).resultsOf task.id = [] := h.results
    simp [hresults]

/-- An attempt goes on or ends, and can only fail if something is foul. -/
theorem Tries.act (h : s.Tries connection document foul id) (hcalm : action.Calm document)
    (hlets : foul ∨ s.Lets action) : (s.act action).Tries connection document foul id := by
  have hcalms := s.calms_act hcalm
  cases h with
  | pends hpends hid =>
    subst hid
    generalize s.act action = s' at hcalms
    cases hcalms with
    | aside haside => exact .pends (hpends.aside haside) rfl
    | polls hmem =>
      -- there is only one task that can run
      rw [hpends.tasks] at hmem
      obtain rfl := List.mem_singleton.1 hmem
      cases hpends.poll (hpends.at_now hlets) with
      | waits hpends' => exact .pends hpends' rfl
      | ends hover => exact .ends hover
    | drops hmem =>
      rw [hpends.tasks] at hmem
      obtain rfl := List.mem_singleton.1 hmem
      exact .ends (hpends.drop (hlets.resolve_right fun hdropped => hdropped))
  | ends hover =>
    exact .ends (hover.aside (aside_acts hover.tasks (List.forall_mem_singleton.2 hcalm)))

theorem Tries.acts (h : s.Tries connection document foul id)
    (hcalm : ∀ action ∈ actions, action.Calm document) (hlets : foul ∨ s.Undisturbed actions) :
    (s.acts actions).Tries connection document foul id := by
  induction actions generalizing s with
  | nil => exact h
  | cons action rest ih =>
    obtain ⟨haction, hrest⟩ := List.forall_mem_cons.1 hcalm
    exact ih (h.act haction (hlets.imp_right And.left)) hrest (hlets.imp_right And.right)

/-- A data source between two attempts allows another one. -/
theorem tries_start (hidle : s.tasks = []) (hpaused : s.source.Paused connection document)
    (hserves : s.context.server.document = document) (hresults : s.resultsOf s.started = [])
    (name : String) (monitor : Option String) :
    (s.start name (.opening .start) monitor).Tries connection document foul s.started := by
  rw [start]
  rcases s.monitors.resolveOrFresh s.context.monitors monitor with ⟨names, monitors, own⟩
  let task : Task := ⟨s.started, name, own, .opening .start⟩
  have htasks : s.tasks ++ [task] = [task] := by rw [hidle, List.nil_append]
  have hstands : Initialization.start.Stands connection document s.source := .start hpaused
  exact .pends ⟨htasks, rfl, hserves, hstands, hresults⟩ rfl

end Attempt

section Patience

/-- Servers that are online and are seen one after the other, each of them when the queries are due
that were asked when the last one was seen. -/
def Patient (document : Document) : Nat → List Server → Prop
  | _, [] => True
  | due, server :: rest =>
    server.document = document ∧ server.offline = none ∧ due ≤ server.now ∧
      Patient document (server.now + document.wait) rest

/-- A task runs once with each server. -/
def visits (id : Nat) (servers : List Server) : List Action :=
  servers.flatMap fun server => [.serve server, .poll id]

theorem calm_visits {due : Nat} {servers : List Server} (h : Patient document due servers) :
    ∀ action ∈ visits id servers, action.Calm document := by
  induction servers generalizing due with
  | nil => exact fun _ haction => absurd haction List.not_mem_nil
  | cons server rest ih =>
    obtain ⟨hserves, -, -, hrest⟩ := h
    exact List.forall_mem_append.2
      ⟨List.forall_mem_cons.2 ⟨hserves, List.forall_mem_singleton.2 trivial⟩, ih hrest⟩

/-- A task whose monitor is not cancelled runs while the server is online. -/
theorem Pends.visit (h : s.Pends connection document task stage)
    (hactive : s.context.isCancelled task.monitor = false) {server : Server}
    (hserves : server.document = document) (honline : server.offline = none) :
    (s.acts [.serve server, .poll task.id]).Runs connection document server.now False task
      stage := by
  let served := s.act (.serve server)
  have hpends : served.Pends connection document task stage :=
    h.aside ⟨rfl, rfl, rfl, rfl, fun _ => hserves⟩
  have hat : served.context.At document server.now task.monitor False := by
    refine ⟨hserves, rfl, ?_⟩
    rintro (hcancelled | hoffline)
    · exact Bool.false_ne_true (hactive.symm.trans hcancelled)
    · have hnone : served.context.server.offline = none := honline
      rw [hnone] at hoffline
      cases hoffline
  have hpoll : served.act (.poll task.id) = served.poll task := by
    have htask : served.task? task.id = some task := by simp [task?, hpends.tasks]
    rw [act, htask, Option.elim_some]
  have hvisit := hpends.poll hat
  rwa [← hpoll] at hvisit

/-- An attempt that runs often enough is over. In each run it answers a query, and there are only
three. -/
theorem Pends.over_visits (h : s.Pends connection document task stage)
    (hactive : s.context.isCancelled task.monitor = false) {due : Nat} (hdue : stage.due ≤ due)
    {servers : List Server} (hpatient : Patient document due servers)
    (hmany : 3 < stage.rank + servers.length) :
    (s.acts (visits task.id servers)).Over connection document False task.id := by
  -- each visit is late enough for the stage that waits, so it leads to a stage of higher rank
  induction servers generalizing s task stage due with
  | nil => exact absurd hmany (Nat.not_lt.2 stage.rank_le)
  | cons server rest ih =>
    obtain ⟨hserves, honline, hseen, hrest⟩ := hpatient
    have hvisits : visits task.id (server :: rest) =
        [.serve server, .poll task.id] ++ visits task.id rest := List.flatMap_cons
    rw [hvisits, acts_append]
    cases h.visit hactive hserves honline with
    | waits hpends hat hproceeds =>
      have hactive' := Bool.eq_false_iff.2 fun hcancelled => hat.trouble (.inl hcancelled)
      rcases hproceeds with ⟨hrank, hasked⟩ | ⟨-, hwaits⟩
      · rw [List.length_cons] at hmany
        have hover := ih hpends hactive' (Nat.le_of_eq hasked) hrest (by omega)
        exact hover
      · exact absurd (Nat.lt_of_lt_of_le hwaits (Nat.le_trans hdue hseen)) (Nat.lt_irrefl _)
    | ends hover => exact hover.aside (aside_acts hover.tasks (calm_visits hrest))

end Patience

section Retry

/-- A session on a new data source, in which it was called only once, to initialise it. -/
def Attempted (connection : Connection) (document : Document) (s : Session) : Prop :=
  ∃ server before name monitor behind, server.document = document ∧
    (∀ action ∈ before, Action.Calm document action) ∧
    (∀ action ∈ behind, Action.Calm document action) ∧
    (opened connection server).acts (before ++ .start name (.opening .start) monitor :: behind) = s

theorem Attempted.reachable (h : s.Attempted connection document) : s.Reachable := by
  obtain ⟨server, before, name, monitor, behind, -, hbefore, hbehind, rfl⟩ := h
  refine (reachable_opened connection server).acts (List.forall_mem_append.2 ⟨?_, ?_⟩)
  · exact fun action haction => (hbefore action haction).proper
  · exact List.forall_mem_cons.2 ⟨rfl, fun action haction => (hbehind action haction).proper⟩

theorem Attempted.tries (h : s.Attempted connection document) :
    s.Tries connection document True 0 := by
  obtain ⟨server, before, name, monitor, behind, hserves, hbefore, hbehind, rfl⟩ := h
  have haside := aside_acts (s := opened connection server) rfl hbefore
  rw [acts_append, acts_cons]
  generalize (opened connection server).acts before = s at haside
  have hbegun : (s.start name (.opening .start) monitor).Tries connection document True
      s.started := by
    -- what happened before the call did not touch the data source
    refine tries_start haside.tasks ?_ (haside.serves hserves) ?_ name monitor
    · rw [haside.source]
      exact DataSource.paused_ofConnection connection document
    · rw [resultsOf, haside.finished]
      rfl
  rw [haside.started] at hbegun
  exact hbegun.acts hbehind (.inl trivial)

/-- The task of an id initialised the data source, which shows what it should. -/
structure Initialized (connection : Connection) (document : Document) (id : Nat) (s : Session) :
    Prop where
  results : s.resultsOf id = [.ok .done]
  shows : s.source.overview = document.overview connection
  /-- A new data source whose only call succeeded shows the same, but for settings that could not be
  read there. -/
  agrees : ∀ once : Session, once.Attempted connection document →
    once.resultsOf 0 = [.ok .done] →
    once.source.overview = { s.source.overview with settings := once.source.settings.loaded? } ∧
      (once.source.settings.isFullyCached = true → once.source.overview = s.source.overview)

theorem Attempted.ended (h : s.Attempted connection document) (hidle : s.tasks = []) :
    s.Over connection document True 0 := by
  cases h.tries with
  | pends hpends =>
    rw [hpends.tasks] at hidle
    cases hidle
  | ends hover => exact hover

/-- The only attempt of a session succeeded. -/
theorem Attempted.opened (h : s.Attempted connection document)
    (hresult : s.resultsOf 0 = [.ok .done]) : s.source.Opened connection document := by
  cases h.tries with
  | pends hpends hid =>
    have hresults := hpends.results
    rw [hid, hresult] at hresults
    cases hresults
  | ends hover =>
    rcases hover.verdict with ⟨-, hfailed⟩ | ⟨-, hopened, -⟩
    · rw [hresult] at hfailed
      exact absurd (List.mem_singleton_self _) hfailed
    · exact hopened

theorem Over.initialized (h : s.Over connection document False id) :
    s.Initialized connection document id := by
  obtain ⟨hresults, hopened, hsettings⟩ := h.verdict.resolve_left And.left
  have hshows := hopened.overview_of_stocked (hsettings.resolve_left fun hfalse => hfalse)
  refine ⟨hresults, hshows, fun once honce hresult => ?_⟩
  have honly := honce.opened hresult
  rw [hshows]
  refine ⟨honly.overview_eq, fun hloaded => ?_⟩
  exact honly.overview_of_stocked (honly.settings.inFull hloaded).stocked

/-- The task of an id is pending, without a result, or it has initialised the data source. If it is
pending, then it does so once the server has answered its queries. -/
structure Prevails (connection : Connection) (document : Document) (id : Nat) (s : Session) :
    Prop where
  outcome : s.Initialized connection document id ∨
    s.resultsOf id = [] ∧ ∃ task, s.tasks = [task] ∧ task.id = id
  later : (∀ task ∈ s.tasks, s.context.isCancelled task.monitor = false) →
    ∃ due, ∀ servers, Patient document due servers → 3 < servers.length →
      (s.acts (visits id servers)).Initialized connection document id

theorem Tries.prevails (h : s.Tries connection document False id) :
    s.Prevails connection document id := by
  cases h with
  | @pends task stage hpends hid =>
    subst hid
    refine ⟨.inr ⟨hpends.results, task, hpends.tasks, rfl⟩, fun hactive => ⟨stage.due, ?_⟩⟩
    intro servers hpatient hmany
    have hmonitor := hactive task (hpends.tasks ▸ List.mem_singleton_self task)
    exact (hpends.over_visits hmonitor (Nat.le_refl _) hpatient (by omega)).initialized
  | ends hover =>
    refine ⟨.inl hover.initialized, fun _ => ⟨0, fun servers hpatient _ => ?_⟩⟩
    exact (hover.aside (aside_acts hover.tasks (calm_visits hpatient))).initialized

/-- The first attempt to initialise a new data source prevails if nothing disturbs it. -/
theorem initialized_once {server : Server} (hserves : server.document = document) (name : String)
    (monitor : Option String) (hcalm : ∀ action ∈ actions, action.Calm document)
    (hsmooth : ((opened connection server).start name (.opening .start) monitor).Undisturbed
      actions) :
    (((opened connection server).start name (.opening .start) monitor).acts actions).Prevails
      connection document 0 := by
  have hbegun : ((opened connection server).start name (.opening .start) monitor).Tries connection
      document False 0 :=
    tries_start (s := opened connection server) rfl
      (DataSource.paused_ofConnection connection document) hserves rfl name monitor
  exact (hbegun.acts hcalm (.inr hsmooth)).prevails

/-- After an attempt to initialise a data source, however it ended, another one prevails if nothing
disturbs it, and the data source shows what it would if there had been no other. -/
theorem initialized_retry (h : s.Attempted connection document) (hidle : s.tasks = [])
    (again : String) (monitor : Option String)
    (hcalm : ∀ action ∈ actions, action.Calm document)
    (hsmooth : (s.start again (.opening .start) monitor).Undisturbed actions) :
    ((s.start again (.opening .start) monitor).acts actions).Prevails connection document
      s.started := by
  have hover := h.ended hidle
  have hresults : s.resultsOf s.started = [] := by
    rw [resultsOf, List.map_eq_nil_iff, List.filter_eq_nil_iff]
    intro entry hentry
    simpa using Nat.ne_of_lt (h.reachable.lt_of_mem_finished entry hentry)
  have hbegun : (s.start again (.opening .start) monitor).Tries connection document False
      s.started := tries_start hidle hover.paused hover.serves hresults again monitor
  exact (hbegun.acts hcalm (.inr hsmooth)).prevails

/-- A server with one database and one setting, where a query takes a millisecond. -/
def appServer : Server where
  document := {
    currentDatabase := some "app"
    latency := some { secs := 0, nanos := 1000000 }
    databases := [{ record := { oid := 7, name := "app" } }]
    settings := [{ name := "port", setting := "5432" }] }

/-- The server goes away after it listed the databases, before it tells which one is active. The
next attempt finds the databases in memory. -/
theorem initialized_retry_offline :
    let connection : Connection := { readDatabaseList := true }
    let document := appServer.document
    let seenAt (now : Nat) : Action := .serve { appServer with now }
    let failing : List Action := [.poll 0, seenAt 1, .poll 0,
      .serve { appServer with now := 2, offline := some "gone" }, .poll 0]
    let retrying : List Action := [seenAt 3, .poll 1, seenAt 4, .poll 1, seenAt 5, .poll 1]
    let failed := (opened connection appServer).acts
      (.start "first" (.opening .start) none :: failing)
    let retried := (failed.start "again" (.opening .start) none).acts retrying
    failed.Attempted connection document ∧ failed.tasks = [] ∧
      failed.resultsOf 0 = [.error (.operation (.connection (.connectionLost "gone")))] ∧
      failed.source.databases.isFullyCached = true ∧
      (∀ action ∈ retrying, action.Calm document) ∧
      (failed.start "again" (.opening .start) none).Undisturbed retrying ∧
      retried.Initialized connection document 1 ∧
      retried.source.overview = {
        databases := some [{ oid := 7, name := "app" }]
        active := "app"
        defaultInstance := .ok (some "app")
        settings := some [.ofRecord { name := "port", setting := "5432" }] } := by
  intro connection document seenAt failing retrying failed retried
  have hattempted : failed.Attempted connection document :=
    ⟨appServer, [], "first", none, failing, rfl, by simp, by decide +kernel, rfl⟩
  have hcalm : ∀ action ∈ retrying, action.Calm document := by decide +kernel
  have hsmooth : (failed.start "again" (.opening .start) none).Undisturbed retrying := by
    decide +kernel
  have hfailed : failed.tasks = [] ∧ failed.started = 1 ∧
      failed.resultsOf 0 = [.error (.operation (.connection (.connectionLost "gone")))] ∧
      failed.source.databases.isFullyCached = true ∧ retried.resultsOf 1 = [.ok .done] := by
    decide +kernel
  obtain ⟨hidle, hstarted, hresults, hcached, hdone⟩ := hfailed
  have hprevails := initialized_retry hattempted hidle "again" none hcalm hsmooth
  rw [hstarted] at hprevails
  have hinitialized : retried.Initialized connection document 1 := by
    refine hprevails.outcome.resolve_right ?_
    rintro ⟨hnone, -⟩
    rw [hdone] at hnone
    cases hnone
  refine ⟨hattempted, hidle, hresults, hcached, hcalm, hsmooth, hinitialized, ?_⟩
  decide +kernel

end Retry

end Session

end CatalogBrowser
