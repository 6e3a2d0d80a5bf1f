import CatalogBrowser.DataSource.Routine

/-!
# Sessions on a data source

Several tasks that use one data source at a time. A session runs them in turns: in a round every
pending task runs once, in the order in which the tasks were started, and rounds are repeated until
one moves no task. Tasks and monitors have names.

## Main definitions

* `Session` - the shared context, the pending tasks, and the results of those that finished.
* `Session.settle` - lets the tasks run until all of them wait.
-/

namespace CatalogBrowser

/-- A task that is not finished. -/
structure Task where
  id : Nat
  name : String
  monitor : Monitor
  routine : Routine
deriving DecidableEq

/-- A data source with its tasks. -/
structure Session where
  context : Context
  /-- How many tasks were started. -/
  started : Nat := 0
  /-- The pending tasks in the order in which they were started. -/
  tasks : List Task := []
  monitors : MonitorNames := []
  /-- The tasks that finished, by id, with their names. -/
  finished : List (Nat × String × Routine.Result) := []

namespace Session

/-- Puts back the monitors with their names. -/
def withMonitors (s : Session) (names : MonitorNames) (monitors : Monitors) : Session :=
  { s with context := { s.context with monitors }, monitors := names }

def monitor (s : Session) (name : String) : Session × Monitor :=
  let (names, monitors, monitor) := s.monitors.resolve s.context.monitors name
  (s.withMonitors names monitors, monitor)

/-- Makes a name stand for a child of another name's monitor. -/
def adopt (s : Session) (name parent : String) : Session :=
  let (names, monitors) := s.monitors.adopt s.context.monitors name parent
  s.withMonitors names monitors

/-- Starts a task, with a named monitor or one of its own. -/
def start (s : Session) (name : String) (routine : Routine) (monitor : Option String) : Session :=
  let (names, monitors, monitor) := s.monitors.resolveOrFresh s.context.monitors monitor
  let s := s.withMonitors names monitors
  { s with
    started := s.started + 1
    tasks := s.tasks ++ [{ id := s.started, name, monitor, routine }] }

/-- Drops the first pending task of a name, if there is one. -/
def abort (s : Session) (name : String) : Option Session :=
  (s.tasks.find? (·.name = name)).map fun task =>
    { s with
      context := s.context.abandon task.routine
      tasks := s.tasks.filter (·.id ≠ task.id) }

/-- Runs a pending task until it finishes or has to wait. -/
def poll (s : Session) (task : Task) : Session :=
  match s.context.run task.monitor task.routine with
  | (context, .waiting routine) =>
    { s with
      context
      tasks := s.tasks.map fun t => if t.id = task.id then { t with routine } else t }
  | (context, .finished result) =>
    { s with
      context
      tasks := s.tasks.filter (·.id ≠ task.id)
      finished := s.finished ++ [(task.id, task.name, result)] }

/-- Runs every pending task once, in the order in which they were started. -/
def round (s : Session) : Session :=
  s.tasks.foldl poll s

/-- Runs rounds until one moves no task, or the number of rounds is used up. -/
def rounds (s : Session) : Nat → Session
  | 0 => s
  | n + 1 =>
    let after := s.round
    if after.tasks = s.tasks then after else after.rounds n

/-- A bound on the number of objects that a task may walk into: the databases and schemas that are
known, and those that the server may list. -/
def breadth (s : Session) : Nat :=
  let ds := s.context.source
  let document := s.context.server.document
  let known := ds.databases.objects.foldl (fun n database => n + database.schemas.objects.size) 0
  let listed := document.databases.foldl (fun n entry => n + entry.schemas.length) 0
  ds.databases.objects.size + known + document.databases.length + listed + 2

/-- Lets the tasks run until all of them wait. Each of `n` tasks has at most one load for each
object that it walks into and a few of its own, and waits at most `n + 1` times for each load that
another task leads, which bounds the number of rounds. -/
def settle (s : Session) : Session :=
  let n := s.tasks.length
  s.rounds ((n + 1) * (n + 2) * (s.breadth + 2) * (s.breadth + 2))

/-- The results of the tasks that finished, in the order in which they were started. -/
def results (s : Session) : List (String × Routine.Result) :=
  (s.finished.mergeSort (·.1 ≤ ·.1)).map (·.2)

/-- The names of the pending tasks, in the order in which they were started. -/
def pending (s : Session) : List String :=
  s.tasks.map (·.name)

def flushed (s : Session) : Session :=
  { s with context := { s.context with log := #[] }, finished := [] }

end Session

end CatalogBrowser
