import CatalogBrowser.Cache.Edit

/-!
# Calls on a cache

A call asks for all objects, for a refresh, or for one object. It may have to wait: for the remote
side if it *leads* a fetch or a lookup, and for the promise of the leader otherwise. `Stage` says
where a call stands between two moments at which it runs, and three functions move it on.

## Main definitions

* `poll` - runs a call until it finishes, waits for a promise, or has asked the remote side.
* `acceptListing`, `acceptLookup` - hand the remote side's answer to the call that asked.
* `abandon` - what happens to the cache when a call is dropped where it stands.

## Design notes

At most one fetch is in flight. A call that finds one of the present generation takes its result; a
call that finds one of an older generation only waits for the slot to become free and then starts
over, since that result predates the last invalidation. On every way out, a leader first frees its
slot and then resolves its promise.

A cancelled call fails wherever it would otherwise wait, but is still served from memory.
-/

namespace CatalogBrowser.Cache

variable {ρ α : Type}

/-- What a call asks for. -/
inductive Request where
  /-- The full collection, fetched if it is not in memory. -/
  | all
  /-- The full collection, fetched in any case, and the changes since. -/
  | refresh
  /-- One object, looked up if it is not in memory. -/
  | one (identity : Identity)
deriving DecidableEq, Repr

/-- What a call answers. -/
inductive Reply where
  | objects (refs : List Ref)
  | changes (changes : ChangeSet)
  | object (ref : Option Ref)
deriving DecidableEq, Repr

abbrev Result := Except CacheError Reply

/-- What the leader of a fetch remembers: its promise, the generation it started in, and the
freshness to return to if it fails. -/
structure FetchLead where
  promise : Nat
  generation : Nat
  prior : Freshness
deriving DecidableEq, Repr

/-- What the leader of a lookup remembers. -/
structure LookupLead where
  promise : Nat
  generation : Nat
  key : Key
deriving DecidableEq, Repr

/-- Where a call stands. -/
inductive Stage where
  /-- It has not run yet. -/
  | start
  /-- It waits for another call's fetch, whose result it takes if the fetch is `current`. -/
  | awaitingFetch (promise : Nat) (current : Bool)
  /-- It waits for another call's lookup, whose result it takes if the lookup is `current`. -/
  | awaitingLookup (promise : Nat) (current : Bool)
  /-- It leads a fetch and waits for the remote side. -/
  | listing (lead : FetchLead)
  /-- It leads a lookup and waits for the remote side. -/
  | lookingUp (lead : LookupLead)
deriving DecidableEq, Repr

/-- Whether a call at this stage waits for the remote side. -/
def Stage.isRemote : Stage → Bool
  | .listing _ | .lookingUp _ => true
  | _ => false

/-- What became of a call that ran: it waits at a stage, or it finished. -/
inductive Progress where
  | waiting (stage : Stage)
  | finished (result : Result)

/-- The cache after a call ran, what became of the call, and what was reported on the way. -/
structure Turn (α : Type) where
  cache : Cache α
  progress : Progress
  events : List (Event α) := []

def Turn.after (turn : Turn α) (events : List (Event α)) : Turn α :=
  { turn with events := events ++ turn.events }

def Request.mode : Request → String
  | .refresh => "Refresh"
  | _ => "Load"

/-- The answer to a request from a snapshot that another call delivered. -/
def Request.replyFrom (request : Request) (c : Cache α) (snapshot : Snapshot) : Reply :=
  match request with
  | .one identity => .object (snapshot.find? (c.key identity))
  | _ => .objects snapshot.entries

section Leading

/-- Frees the fetch slot after a fetch that failed or was abandoned. -/
def abortFetch (c : Cache α) (lead : FetchLead) : Cache α :=
  { c with
    fetch := none
    freshness := if c.generation = lead.generation then lead.prior else c.freshness }

def releaseLookup (c : Cache α) (key : Key) : Cache α :=
  { c with lookups := c.lookups.filter (·.1 ≠ key) }

def resolveFetch (c : Cache α) (promise : Nat) (result : FetchResult) : Cache α :=
  { c with fetchResults := c.fetchResults.resolve promise result }

def resolveLookup (c : Cache α) (promise : Nat) (result : LookupResult) : Cache α :=
  { c with lookupResults := c.lookupResults.resolve promise result }

def fetchDuration (c : Cache α) : Event α :=
  .metric { name := "caches.fetch.duration", cache := c.name, measurement := .duration }

def failFetch (c : Cache α) (lead : FetchLead) (error : CacheError) : Turn α where
  cache := (c.abortFetch lead).resolveFetch lead.promise (.error error)
  progress := .finished (.error error)
  events :=
    (if error.isCancelled then [] else [c.counted "caches.fetch.failed"]) ++
      [c.logLine .debug "Fetching objects failed" [("error", error.message)]]

def failLookup (c : Cache α) (lead : LookupLead) (error : CacheError) : Turn α where
  cache := (c.releaseLookup lead.key).resolveLookup lead.promise (.error error)
  progress := .finished (.error error)

/-- Takes the free fetch slot and asks the remote side for a listing. -/
def leadFetch (c : Cache α) (request : Request) (cancelled : Bool) : Turn α :=
  let (promises, promise) := c.fetchResults.make
  let lead : FetchLead := { promise, generation := c.generation, prior := c.freshness }
  let c := { c with
    fetchResults := promises
    fetch := some { generation := c.generation, promise }
    freshness := if c.freshness = .empty then .loading else c.freshness }
  let begun : List (Event α) := [
    .log { level := .debug, message := "begin task", fields := [("task", "Load " ++ c.name)] },
    c.counted "caches.fetch",
    c.logLine .debug "Fetching all objects" [("mode", request.mode)]]
  if cancelled then
    (c.failFetch lead .cancelled).after (begun ++ [c.fetchDuration])
  else
    { cache := c, progress := .waiting (.listing lead), events := begun ++ [.listing] }

/-- Takes the free lookup slot of a key and asks the remote side for its object. -/
def leadLookup (c : Cache α) (identity : Identity) (cancelled : Bool) : Turn α :=
  let (promises, promise) := c.lookupResults.make
  let key := c.key identity
  let lead : LookupLead := { promise, generation := c.generation, key }
  let c := { c with
    lookupResults := promises
    lookups := (key, { generation := c.generation, promise }) :: c.lookups }
  let begun : List (Event α) := [
    c.counted "caches.lookup",
    c.logLine .debug "Looking up single object" [("identity", identity.display)]]
  if cancelled then
    (c.failLookup lead .cancelled).after begun
  else
    { cache := c, progress := .waiting (.lookingUp lead), events := begun ++ [.lookup identity] }

end Leading

section Waiting

/-- Lets a call wait at a stage, or fail at once if it is cancelled. -/
def waitAt (c : Cache α) (stage : Stage) (cancelled : Bool) (events : List (Event α)) : Turn α :=
  if cancelled then { cache := c, progress := .finished (.error .cancelled), events }
  else { cache := c, progress := .waiting stage, events }

def joinFetch (c : Cache α) (request : Request) (flight : InFlight) (cancelled : Bool) : Turn α :=
  let coalesced := c.counted "caches.fetch.coalesced"
  if flight.generation = c.generation then
    let notice := match request with
      | .one identity => [c.logLine .trace "Waiting for bulk fetch to resolve object"
          [("key", (c.key identity).display)]]
      | _ => []
    c.waitAt (.awaitingFetch flight.promise true) cancelled (notice ++ [coalesced])
  else
    c.waitAt (.awaitingFetch flight.promise false) cancelled
      [c.logLine .trace "Waiting for an outdated fetch to finish", coalesced]

def joinLookup (c : Cache α) (flight : InFlight) (cancelled : Bool) : Turn α :=
  c.waitAt (.awaitingLookup flight.promise (flight.generation = c.generation)) cancelled
    [c.counted "caches.lookup.coalesced"]

/-- Waits for the fetch in flight, or leads a new one. -/
def fetchOrJoin (c : Cache α) (request : Request) (cancelled : Bool) : Turn α :=
  match c.fetch with
  | some flight => c.joinFetch request flight cancelled
  | none => c.leadFetch request cancelled

/-- Runs a call that does not wait for anything: on its first run, and whenever it starts over. -/
def enter (c : Cache α) (request : Request) (cancelled first : Bool) : Turn α :=
  let hit := c.counted "caches.memory.hit"
  match request with
  | .all =>
    let accessed := if first then [c.counted "caches.access"] else []
    if c.snapshot.complete then
      { cache := c
        progress := .finished (.ok (.objects c.snapshot.entries))
        events := accessed ++ [hit, c.logLine .trace "Serving objects from memory"] }
    else
      (c.fetchOrJoin request cancelled).after accessed
  | .refresh => c.fetchOrJoin request cancelled
  | .one identity =>
    match c.cachedObject? identity with
    | some ref =>
      { cache := c
        progress := .finished (.ok (.object (some ref)))
        events := if first then [hit] else [] }
    | none =>
      if c.snapshot.complete then
        { cache := c, progress := .finished (.ok (.object none)) }
      else
        match c.fetch, c.lookups.lookup (c.key identity) with
        | some flight, _ => c.joinFetch request flight cancelled
        | none, some flight => c.joinLookup flight cancelled
        | none, none => c.leadLookup identity cancelled

end Waiting

/-- Runs a call until it finishes or has to wait. Cancellation is seen before anything else that a
waiting call could learn. -/
def poll (c : Cache α) (request : Request) (stage : Stage) (cancelled : Bool) : Turn α :=
  match stage with
  | .start => c.enter request cancelled true
  | .awaitingFetch promise current =>
    if cancelled then
      { cache := c, progress := .finished (.error .cancelled) }
    else
      match c.fetchResults.result? promise with
      | none => { cache := c, progress := .waiting stage }
      | some result =>
        if current then
          match request, result with
          | _, .error error => { cache := c, progress := .finished (.error error) }
          | .refresh, .ok _ => c.enter request cancelled false
          | _, .ok snapshot =>
            { cache := c, progress := .finished (.ok (request.replyFrom c snapshot)) }
        else c.enter request cancelled false
  | .awaitingLookup promise current =>
    if cancelled then
      { cache := c, progress := .finished (.error .cancelled) }
    else
      match c.lookupResults.result? promise with
      | none => { cache := c, progress := .waiting stage }
      | some result =>
        if current then { cache := c, progress := .finished (result.map .object) }
        else c.enter request cancelled false
  | .listing lead =>
    if cancelled then (c.failFetch lead .cancelled).after [c.fetchDuration]
    else { cache := c, progress := .waiting stage }
  | .lookingUp lead =>
    if cancelled then c.failLookup lead .cancelled
    else { cache := c, progress := .waiting stage }

/-- Commits a listing, unless the cache was invalidated since the fetch started. In that case the
callers still get the listing, as a snapshot that is not published. -/
def commitFetch (source : Source ρ α) (c : Cache α) (request : Request) (lead : FetchLead)
    (fresh : List α) : Turn α :=
  let c := { c with fetch := none }
  let reply := fun (snapshot : Snapshot) (changes : ChangeSet) =>
    match request with
    | .refresh => Reply.changes changes
    | _ => Reply.objects snapshot.entries
  if c.generation = lead.generation then
    let out := reconcile (c.objectKey source) source.isPersisted source.merge c.objects
      c.snapshot.entries fresh
    let committed := ({ c with objects := out.objects, freshness := .loaded }).publish source
      out.entries true
    let (after, evictions) :=
      (committed.resolveFetch lead.promise (.ok committed.snapshot)).evictAll source
        out.changes.removed
    let line := c.logLine .debug "Committing objects"
      [("objects", toString out.entries.length), ("changes", out.changes.summary)]
    let gauge := Event.metric {
      name := "caches.objects", cache := c.name, measurement := .gauge out.entries.length }
    let notice := match request with
      | .refresh => [after.notification out.changes]
      | _ => []
    { cache := after
      progress := .finished (.ok (reply committed.snapshot out.changes))
      events := out.events ++ [line, gauge] ++ evictions ++ notice }
  else
    let out := instantiate (c.objectKey source) c.objects fresh
    let c := { c with objects := out.objects }
    let snapshot := c.snapshotOf source out.entries false
    { cache := c.resolveFetch lead.promise (.ok snapshot)
      progress := .finished (.ok (reply snapshot {}))
      events := [c.counted "caches.fetch.discarded",
        c.logLine .warn "Discarding objects of an outdated fetch"] ++ out.events }

/-- Hands the answer of the remote side to the call that leads a fetch. -/
def acceptListing (source : Source ρ α) (c : Cache α) (request : Request) (lead : FetchLead)
    (answer : Except ConnectionError (List ρ)) : Turn α :=
  match answer with
  | .error error =>
    (c.failFetch lead (.remoteFetch c.name error)).after [c.fetchDuration]
  | .ok records =>
    let fresh := records.filterMap source.construct
    (c.commitFetch source request lead fresh).after [c.fetchDuration, .worked fresh.length]

/-- Commits the object that a lookup found. An object that is cached under the same key takes its
place. The object is handed out without being cached if the cache was invalidated since, or if it
was loaded in full meanwhile and lacks the object. -/
def commitLookup (source : Source ρ α) (c : Cache α) (lead : LookupLead) (object : α) :
    Ref × Cache α × List (Event α) :=
  let key := c.objectKey source object
  match c.snapshot.find? key with
  | some existing => (existing, c, [])
  | none =>
    let ref := c.objects.size
    let grown := { c with objects := c.objects.push object }
    let fields := [("key", key.display)]
    if c.generation ≠ lead.generation then
      (ref, grown, [c.logLine .debug "Not caching object of an outdated lookup" fields])
    else if c.snapshot.complete then
      (ref, grown, [c.logLine .debug "Not caching object missing from the listing" fields])
    else
      (ref, grown.publish source (c.snapshot.entries ++ [ref]) false, [])

/-- Hands the answer of the remote side to the call that leads a lookup. -/
def acceptLookup (source : Source ρ α) (c : Cache α) (lead : LookupLead)
    (answer : Except ConnectionError (Option ρ)) : Turn α :=
  match answer with
  | .error error => c.failLookup lead (.remoteFetch c.name error)
  | .ok record =>
    let c := c.releaseLookup lead.key
    let (found, c, events) := match record.bind source.construct with
      | none => (none, c, [])
      | some object =>
        let (ref, c, events) := c.commitLookup source lead object
        (some ref, c, events)
    { cache := c.resolveLookup lead.promise (.ok found)
      progress := .finished (.ok (.object found))
      events }

/-- Drops a call. A leader frees its slot and resolves its promise as cancelled. -/
def abandon (c : Cache α) : Stage → Cache α
  | .listing lead => (c.abortFetch lead).resolveFetch lead.promise (.error .cancelled)
  | .lookingUp lead =>
    (c.releaseLookup lead.key).resolveLookup lead.promise (.error .cancelled)
  | _ => c

/-- Dropping a call that leads nothing leaves no trace. -/
theorem abandon_of_not_isRemote {c : Cache α} {stage : Stage} (h : stage.isRemote = false) :
    c.abandon stage = c := by
  cases stage <;> simp_all [Stage.isRemote, abandon]

end CatalogBrowser.Cache
