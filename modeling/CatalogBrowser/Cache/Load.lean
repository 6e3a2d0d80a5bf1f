import CatalogBrowser.Cache.Call

/-!
# Calls with their queries

A `Load` is a call on a cache together with the query that it has under way, if it leads. The remote
side is given by a `Remote`: how to start a query, and how to read its answer once it has one.
Running a load moves the call as far as the remote side allows, which includes asking a query and
taking its answer in one go.
-/

namespace CatalogBrowser

/-- What became of a task that ran: it waits in some state, or it finished. -/
inductive Poll (σ β : Type) where
  | waiting (state : σ)
  | finished (result : β)

namespace Cache

variable {ω κ ρ α : Type}

/-- How a cache reaches the remote side, of type `ω`. Queries under way have type `κ`. -/
structure Remote (ω κ ρ : Type) where
  /-- Asks for all records. -/
  list : ω → ω × κ
  /-- Asks for the record of an identity. -/
  lookup : ω → Identity → ω × κ
  /-- The answer to a listing, if there is one by now. -/
  listing? : ω → κ → Option (Except ConnectionError (List ρ))
  /-- The answer to a lookup, if there is one by now. -/
  found? : ω → κ → Option (Except ConnectionError (Option ρ))

/-- A call with its query. -/
structure Load (κ : Type) where
  request : Request
  stage : Stage := .start
  query : Option κ := none
deriving DecidableEq

/-- What a load leaves behind after it ran. -/
structure LoadTurn (ω κ α : Type) where
  world : ω
  cache : Cache α
  poll : Poll (Load κ) Result
  events : List (Event α)

namespace Load

def identity (load : Load κ) : Identity :=
  match load.request with
  | .one identity => identity
  | _ => .name ""

/-- Asks the query that the stage calls for, unless it is under way. -/
def ask (remote : Remote ω κ ρ) (world : ω) (load : Load κ) : ω × Load κ :=
  match load.query, load.stage with
  | none, .listing _ =>
    let (world, query) := remote.list world
    (world, { load with query := some query })
  | none, .lookingUp _ =>
    let (world, query) := remote.lookup world load.identity
    (world, { load with query := some query })
  | _, _ => (world, load)

/-- The turn in which a load takes the answer to its query, if there is one. -/
def take? (source : Source ρ α) (remote : Remote ω κ ρ) (world : ω) (c : Cache α)
    (load : Load κ) : Option (Turn α) := do
  let query ← load.query
  match load.stage with
  | .listing lead =>
    let answer ← remote.listing? world query
    return c.acceptListing source load.request lead answer
  | .lookingUp lead =>
    let answer ← remote.found? world query
    return c.acceptLookup source lead answer
  | _ => none

/-- Runs a load until it finishes or has to wait. -/
def run (source : Source ρ α) (remote : Remote ω κ ρ) (world : ω) (c : Cache α) (load : Load κ)
    (cancelled : Bool) : LoadTurn ω κ α :=
  let turn := c.poll load.request load.stage cancelled
  match turn.progress with
  | .finished result =>
    { world, cache := turn.cache, poll := .finished result, events := turn.events }
  | .waiting stage =>
    let (world, load) := ask remote world { load with stage }
    match take? source remote world turn.cache load with
    | none => { world, cache := turn.cache, poll := .waiting load, events := turn.events }
    | some answered =>
      let poll := match answered.progress with
        | .finished result => .finished result
        | .waiting stage => .waiting { load with stage }
      { world, cache := answered.cache, poll, events := turn.events ++ answered.events }

end Load

end Cache

end CatalogBrowser
