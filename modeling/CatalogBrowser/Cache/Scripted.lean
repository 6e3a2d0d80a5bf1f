import CatalogBrowser.Cache.Machine

/-!
# A cache over a scripted remote side

A remote side whose answers are set by hand, and a cache of plain items over it. It shows how the
cache behaves under every interleaving that a test wants: gates hold back the answers to listings
and lookups, a failure can be switched on, and tasks are named.

## Main definitions

* `Item`, `Item.source` - plain objects with a name, perhaps an id, and a value.
* `Remote` - the script: the records, aliases for lookups, the failure, and the gates.
* `Session` - a machine over the script; `Session.settle` lets the tasks run until all of them wait.

## Design notes

A call that is made while a gate is closed waits until that closing ends. A gate that is opened and
closed again lets the earlier calls through and holds the later ones, so each closing has a number.
-/

namespace CatalogBrowser.Cache.Scripted

/-- A plain object; it is its own record. -/
structure Item where
  name : String
  id : Option Nat := none
  value : Int := 0
  persisted : Bool := true
  /-- How often the object was dropped from its cache. -/
  evictions : Nat := 0
deriving DecidableEq, Repr

namespace Item

def identity (item : Item) : Identity :=
  match item.id with
  | some id => .id id
  | none => .name item.name

/-- Takes over the value of a fresh object, and its name where the id identifies the object. -/
def merge (existing fresh : Item) : Item :=
  { existing with
    name := if existing.id.isSome then fresh.name else existing.name
    value := fresh.value }

/-- Items as objects of a cache; records without a name are skipped. -/
def source (merge : Item → Item → Item) : Source Item Item where
  construct record := if record.name.isEmpty then none else some record
  identity := identity
  isPersisted := persisted
  merge := merge
  evicted item := { item with evictions := item.evictions + 1 }

/-- Merging never changes what identifies an item. -/
theorem identity_merge (existing fresh : Item) :
    (existing.merge fresh).identity = existing.identity := by
  cases h : existing.id <;> simp [merge, identity, h]

end Item

/-- A gate: the number of its present closing, and how many closings there were. -/
structure Gate where
  closing : Option Nat := none
  closings : Nat := 0
deriving DecidableEq, Repr

namespace Gate

def close (gate : Gate) : Gate :=
  match gate.closing with
  | some _ => gate
  | none => { closing := some gate.closings, closings := gate.closings + 1 }

def opened (gate : Gate) : Gate :=
  { gate with closing := none }

/-- Whether a call that arrived at a closing, or at the open gate, may pass by now. -/
def lets (gate : Gate) (arrival : Option Nat) : Bool :=
  arrival.isNone || arrival ≠ gate.closing

end Gate

/-- The script of the remote side. -/
structure Remote where
  records : List Item := []
  /-- Answers to lookups by the text of the identity, the newest first. -/
  aliases : List (String × Item) := []
  failure : Option ConnectionError := none
  listGate : Gate := {}
  lookupGate : Gate := {}
  /-- How many listings and lookups were asked for. -/
  lists : Nat := 0
  lookups : Nat := 0

namespace Remote

def listing (remote : Remote) : Except ConnectionError (List Item) :=
  match remote.failure with
  | some error => .error error
  | none => .ok remote.records

/-- The record that a lookup finds: an alias, or else the first record with that id, or with that
name and no id. -/
def record? (remote : Remote) (identity : Identity) : Option Item :=
  match remote.aliases.lookup identity.display with
  | some item => some item
  | none => match identity with
    | .id id => remote.records.find? (·.id = some id)
    | .name name => remote.records.find? fun item => item.id.isNone && item.name = name

def lookup (remote : Remote) (identity : Identity) : Except ConnectionError (Option Item) :=
  match remote.failure with
  | some error => .error error
  | none => .ok (remote.record? identity)

end Remote

/-- A machine over a script, with the names of its tasks and of its monitors. -/
structure Session where
  machine : Machine Item
  remote : Remote := {}
  /-- Whether the source merges; otherwise a cached object is kept as it is. -/
  merges : Bool := true
  /-- Whether somebody listens to changes. -/
  listens : Bool := false
  /-- The names of the tasks, by call. -/
  names : List (Nat × String) := []
  monitors : MonitorNames := []
  /-- Where the calls that wait for the remote side arrived at its gate. -/
  arrivals : List (Nat × Option Nat) := []
  /-- What was reported so far. -/
  events : Array (Event Item) := #[]
  /-- The tasks that finished, by call. -/
  finished : List (Nat × Result) := []

namespace Session

def source (s : Session) : Source Item Item :=
  Item.source (if s.merges then Item.merge else fun existing _ => existing)

/-- Whether an event concerns anyone, where `merges` says whether merges do. -/
def isShown (s : Session) (merges : Bool) : Event Item → Bool
  | .merged .. => merges
  | .notified .. => s.listens
  | _ => true

def report (s : Session) (events : List (Event Item)) (merges : Bool) : Session :=
  { s with events := s.events ++ (events.filter (s.isShown merges)).toArray }

def move (s : Session) (action : Action Item Item) : Session :=
  let moved := s.machine.step s.source action
  ({ s with machine := moved.machine, finished := s.finished ++ moved.finished }).report
    moved.events s.merges

/-- Puts back the monitors with their names. -/
def withMonitors (s : Session) (names : MonitorNames) (monitors : Monitors) : Session :=
  { s with machine := { s.machine with monitors }, monitors := names }

def monitor (s : Session) (name : String) : Session × Monitor :=
  let (names, monitors, monitor) := s.monitors.resolve s.machine.monitors name
  (s.withMonitors names monitors, monitor)

/-- Makes a name stand for a child of another name's monitor. -/
def adopt (s : Session) (name parent : String) : Session :=
  let (names, monitors) := s.monitors.adopt s.machine.monitors name parent
  s.withMonitors names monitors

/-- Starts a task, with a named monitor or one of its own. -/
def start (s : Session) (task : String) (request : Request) (monitor : Option String) : Session :=
  let (names, monitors, monitor) := s.monitors.resolveOrFresh s.machine.monitors monitor
  let s := s.withMonitors names monitors
  let named := { s with names := (s.machine.started, task) :: s.names }
  named.move (.start request monitor)

def taskName (s : Session) (call : Nat) : String :=
  (s.names.lookup call).getD ""

/-- Drops the first pending task of a name, if there is one. -/
def abort (s : Session) (task : String) : Option Session :=
  (s.machine.calls.find? (s.taskName ·.id = task)).map fun call => s.move (.abort call.id)

/-- Performs an edit, and tells whether its merges are to be reported. -/
def edit (s : Session) (edit : Edit Item) (merges : Bool := true) : EditReply × Session :=
  let (reply, cache, events) := edit.apply s.source s.machine.cache
  (reply, ({ s with machine := { s.machine with cache } }).report events merges)

/-- Lets a call arrive at the remote side, unless it is there. -/
def arrive (s : Session) (call : Call) : Session :=
  if (s.arrivals.lookup call.id).isSome then s
  else match call.stage with
    | .listing _ => { s with
        remote := { s.remote with lists := s.remote.lists + 1 }
        arrivals := (call.id, s.remote.listGate.closing) :: s.arrivals }
    | .lookingUp _ => { s with
        remote := { s.remote with lookups := s.remote.lookups + 1 }
        arrivals := (call.id, s.remote.lookupGate.closing) :: s.arrivals }
    | _ => s

def answer (s : Session) (call : Call) : Session :=
  let arrival := (s.arrivals.lookup call.id).join
  match call.stage, call.request with
  | .listing _, _ =>
    if s.remote.listGate.lets arrival then s.move (.listed call.id s.remote.listing) else s
  | .lookingUp _, .one identity =>
    if s.remote.lookupGate.lets arrival then
      s.move (.found call.id (s.remote.lookup identity))
    else s
  | _, _ => s

def poll (s : Session) (id : Nat) : Session :=
  let s := s.move (.poll id)
  match s.machine.call? id with
  | some call => (s.arrive call).answer call
  | none => s

/-- Runs every pending task once, in the order in which they were started. -/
def round (s : Session) : Session :=
  (s.machine.calls.map (·.id)).foldl poll s

/-- Runs rounds until one moves no task, or the number of rounds is used up. -/
def rounds (s : Session) : Nat → Session
  | 0 => s
  | n + 1 =>
    let after := s.round
    if after.machine.calls = s.machine.calls then after else after.rounds n

/-- Lets the tasks run until all of them wait. Each of `n` tasks leads at most one fetch or lookup,
so it waits at most `n + 1` times, which bounds the number of rounds. -/
def settle (s : Session) : Session :=
  let n := s.machine.calls.length
  s.rounds ((n + 1) * (n + 2))

/-- The results of the tasks that finished, in the order in which they were started. -/
def results (s : Session) : List (String × Result) :=
  (s.finished.mergeSort (·.1 ≤ ·.1)).map fun (call, result) => (s.taskName call, result)

/-- The names of the pending tasks, in the order in which they were started. -/
def pending (s : Session) : List String :=
  s.machine.calls.map (s.taskName ·.id)

def flushed (s : Session) : Session :=
  { s with events := #[], finished := [] }

end Session

end CatalogBrowser.Cache.Scripted
