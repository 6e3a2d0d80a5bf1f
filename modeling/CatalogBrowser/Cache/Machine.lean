import CatalogBrowser.Cache.Call
import CatalogBrowser.Monitor

/-!
# A cache and its pending calls

A `Machine` is a cache together with the calls that are pending on it and the monitors that drive
them. It moves by actions: a call is started, runs, gets an answer of the remote side, or is
dropped; a monitor is cancelled; the cache is edited. Any sequence of actions is a run, so the
machine covers every interleaving of calls, with answers that arrive in any order or never.

## Main definitions

* `Action`, `Machine.step`, `Machine.run` - the moves of the machine, and sequences of them.

## Design notes

The remote side answers a call only while the call waits for it and is not cancelled. Any other
answer is ignored, as is every action on a call that is not pending.
-/

namespace CatalogBrowser.Cache

variable {ρ α : Type}

/-- A pending call. -/
structure Call where
  id : Nat
  monitor : Monitor
  request : Request
  stage : Stage := .start
deriving DecidableEq, Repr

/-- A cache, its pending calls in the order in which they were started, and the monitors. -/
structure Machine (α : Type) where
  cache : Cache α
  monitors : Monitors := {}
  calls : List Call := []
  started : Nat := 0

/-- A move of the machine. -/
inductive Action (ρ α : Type) where
  | start (request : Request) (monitor : Monitor)
  | poll (call : Nat)
  /-- The remote side answers the listing that a call asked for. -/
  | listed (call : Nat) (answer : Except ConnectionError (List ρ))
  /-- The remote side answers the lookup that a call asked for. -/
  | found (call : Nat) (answer : Except ConnectionError (Option ρ))
  | abort (call : Nat)
  | cancel (monitor : Monitor)
  | edit (edit : Edit α)

/-- The machine after a move, what was reported, and the results of calls that finished. -/
structure Moved (α : Type) where
  machine : Machine α
  events : List (Event α) := []
  finished : List (Nat × Result) := []

namespace Machine

def call? (m : Machine α) (id : Nat) : Option Call :=
  m.calls.find? (·.id = id)

/-- Whether cancellation of a call was requested. -/
def isCancelled (m : Machine α) (call : Call) : Bool :=
  m.monitors.isCancelled call.monitor

def forget (m : Machine α) (call : Call) : Machine α :=
  { m with calls := m.calls.filter (·.id ≠ call.id) }

def place (m : Machine α) (call : Call) (stage : Stage) : Machine α :=
  { m with calls := m.calls.map fun c => if c.id = call.id then { c with stage } else c }

/-- The machine after a turn of a call. -/
def take (m : Machine α) (call : Call) (turn : Turn α) : Moved α :=
  let m := { m with
    cache := turn.cache
    monitors := m.monitors.worked call.monitor (workUnits turn.events) }
  match turn.progress with
  | .waiting stage => { machine := m.place call stage, events := turn.events }
  | .finished result =>
    { machine := m.forget call, events := turn.events, finished := [(call.id, result)] }

/-- One move. -/
def step (source : Source ρ α) (m : Machine α) : Action ρ α → Moved α
  | .start request monitor =>
    { machine := { m with
        calls := m.calls ++ [{ id := m.started, monitor, request }]
        started := m.started + 1 } }
  | .poll id =>
    match m.call? id with
    | some call => m.take call (m.cache.poll call.request call.stage (m.isCancelled call))
    | none => { machine := m }
  | .listed id answer =>
    match m.call? id with
    | some call =>
      match call.stage, m.isCancelled call with
      | .listing lead, false =>
        m.take call (m.cache.acceptListing source call.request lead answer)
      | _, _ => { machine := m }
    | none => { machine := m }
  | .found id answer =>
    match m.call? id with
    | some call =>
      match call.stage, m.isCancelled call with
      | .lookingUp lead, false => m.take call (m.cache.acceptLookup source lead answer)
      | _, _ => { machine := m }
    | none => { machine := m }
  | .abort id =>
    match m.call? id with
    | some call => { machine := { m with cache := m.cache.abandon call.stage }.forget call }
    | none => { machine := m }
  | .cancel monitor => { machine := { m with monitors := m.monitors.cancel monitor } }
  | .edit edit =>
    let (_, cache, events) := edit.apply source m.cache
    { machine := { m with cache }, events }

/-- A sequence of moves. -/
def run (source : Source ρ α) (m : Machine α) : List (Action ρ α) → Moved α
  | [] => { machine := m }
  | action :: rest =>
    let first := m.step source action
    let later := first.machine.run source rest
    { machine := later.machine
      events := first.events ++ later.events
      finished := first.finished ++ later.finished }

@[simp] theorem run_nil (source : Source ρ α) (m : Machine α) :
    m.run source [] = { machine := m } := rfl

theorem run_cons_machine (source : Source ρ α) (m : Machine α) (action : Action ρ α)
    (rest : List (Action ρ α)) : (m.run source (action :: rest)).machine =
      ((m.step source action).machine.run source rest).machine := rfl

/-- A run continues where the first moves left off. -/
theorem run_append_machine (source : Source ρ α) (m : Machine α) (xs ys : List (Action ρ α)) :
    (m.run source (xs ++ ys)).machine = ((m.run source xs).machine.run source ys).machine := by
  induction xs generalizing m with
  | nil => rfl
  | cons action rest ih => simp only [List.cons_append, run, ih]

/-- Acting on a call that is not pending changes nothing. -/
theorem step_poll_of_call?_eq_none (source : Source ρ α) {m : Machine α} {id : Nat}
    (h : m.call? id = none) : m.step source (.poll id) = { machine := m } := by
  simp [step, h]

end Machine

end CatalogBrowser.Cache
