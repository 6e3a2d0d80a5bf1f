import CatalogBrowser.Cache.Machine

/-!
# What a turn of a call can do

A pending call moves when it runs, when the remote side answers it, and when it is dropped. `Turned`
lists all that can come of it, with the state of the cache that each case needs and the one that it
leaves behind. Facts about every turn are proved by cases on it, and nothing else has to look into
`poll`, `acceptListing`, `acceptLookup` and `abandon`.

## Main definitions

* `Event.isNote` - whether an event merely reports.
* `Recalls` - what the memory of a cache answers to a request.
* `Turned` - the turns of a call.

## Main statements

* `turned_poll`, `turned_acceptListing`, `turned_acceptLookup`, `turned_abandon` - there are no
  other turns.
-/

namespace CatalogBrowser.Cache

variable {ρ α : Type}

/-- Whether an event merely reports: it neither asks the remote side nor concerns an object. -/
def Event.isNote : Event α → Bool
  | .log _ | .metric _ | .worked _ => true
  | _ => false

@[simp] theorem isNote_logLine (c : Cache α) (level : LogLevel) (message : String)
    (fields : List (String × String)) : (c.logLine level message fields).isNote = true := rfl

@[simp] theorem isNote_counted (c : Cache α) (metric : String) :
    (c.counted metric).isNote = true := rfl

@[simp] theorem isNote_fetchDuration (c : Cache α) : c.fetchDuration.isNote = true := rfl

@[simp] theorem isNote_log (line : LogLine) : (Event.log line : Event α).isNote = true := rfl

@[simp] theorem isNote_metric (metric : Metric) : (Event.metric metric : Event α).isNote = true :=
  rfl

@[simp] theorem isNote_worked (units : Nat) : (Event.worked units : Event α).isNote = true := rfl

/-- Events that merely report. -/
def Notes (events : List (Event α)) : Prop :=
  ∀ event ∈ events, event.isNote = true

/-- What the memory of a cache answers to a request. -/
inductive Recalls (c : Cache α) : Request → Reply → Prop
  | all : c.snapshot.complete = true → Recalls c .all (.objects c.snapshot.entries)
  | one {identity : Identity} {ref : Ref} : c.cachedObject? identity = some ref →
      Recalls c (.one identity) (.object (some ref))
  | none {identity : Identity} : c.cachedObject? identity = none → c.snapshot.complete = true →
      Recalls c (.one identity) (.object none)

/-- The slot of the fetch that a lead stands for. -/
def FetchLead.flight (lead : FetchLead) : InFlight where
  generation := lead.generation
  promise := lead.promise

/-- The slot of the lookup that a lead stands for. -/
def LookupLead.flight (lead : LookupLead) : InFlight where
  generation := lead.generation
  promise := lead.promise

/-- The lead of a fetch that is asked for now. -/
def nextFetch (c : Cache α) : FetchLead where
  promise := c.fetchResults.size
  generation := c.generation
  prior := c.freshness

/-- The lead of a lookup that is asked for now. -/
def nextLookup (c : Cache α) (identity : Identity) : LookupLead where
  promise := c.lookupResults.size
  generation := c.generation
  key := c.key identity

/-- The cache once a fetch is asked for. -/
def withFetch (c : Cache α) : Cache α :=
  { c with
    fetchResults := c.fetchResults.push none
    fetch := some c.nextFetch.flight
    freshness := if c.freshness = .empty then .loading else c.freshness }

/-- The cache once a lookup is asked for. -/
def withLookup (c : Cache α) (identity : Identity) : Cache α :=
  { c with
    lookupResults := c.lookupResults.push none
    lookups := (c.key identity, (c.nextLookup identity).flight) :: c.lookups }

/-- The cache with a lookup ended, its slot free and its promise resolved. -/
def withFound (c : Cache α) (lead : LookupLead) (result : LookupResult) : Cache α :=
  (c.releaseLookup lead.key).resolveLookup lead.promise result

/-- All that can come of moving a call that is pending on a cache, by an action. -/
inductive Turned (source : Source ρ α) (c : Cache α) (call : Call) :
    Action ρ α → Turn α → Prop
  /-- It keeps waiting. -/
  | rest {action : Action ρ α} :
      Turned source c call action { cache := c, progress := .waiting call.stage }
  /-- It gives up without having led anything. -/
  | quit {action : Action ρ α} {events : List (Event α)} :
      call.stage.isRemote = false → Notes events →
      Turned source c call action
        { cache := c, progress := .finished (.error .cancelled), events }
  /-- It is answered from memory. -/
  | remember {action : Action ρ α} {reply : Reply} {events : List (Event α)} :
      call.stage.isRemote = false → Recalls c call.request reply → Notes events →
      Turned source c call action { cache := c, progress := .finished (.ok reply), events }
  /-- It takes the result of the fetch that it waited for. -/
  | learnFetch {action : Action ρ α} {promise : Nat} {result : FetchResult} :
      call.stage = .awaitingFetch promise true →
      c.fetchResults.result? promise = some result →
      (call.request = .refresh → ∀ snapshot, result ≠ .ok snapshot) →
      Turned source c call action
        { cache := c, progress := .finished (result.map (call.request.replyFrom c)) }
  /-- It takes the result of the lookup that it waited for. -/
  | learnLookup {action : Action ρ α} {promise : Nat} {result : LookupResult} :
      call.stage = .awaitingLookup promise true →
      c.lookupResults.result? promise = some result →
      Turned source c call action
        { cache := c, progress := .finished (result.map .object) }
  /-- It waits for the fetch in flight. -/
  | joinFetch {action : Action ρ α} {flight : InFlight} {events : List (Event α)} :
      call.stage.isRemote = false → c.fetch = some flight → Notes events →
      Turned source c call action
        { cache := c
          progress := .waiting (.awaitingFetch flight.promise (flight.generation = c.generation))
          events }
  /-- It waits for the lookup in flight of its key. -/
  | joinLookup {action : Action ρ α} {identity : Identity} {flight : InFlight}
      {events : List (Event α)} :
      call.stage.isRemote = false → call.request = .one identity → c.fetch = none →
      c.lookups.lookup (c.key identity) = some flight → Notes events →
      Turned source c call action
        { cache := c
          progress := .waiting (.awaitingLookup flight.promise (flight.generation = c.generation))
          events }
  /-- It asks for a listing. -/
  | leadFetch {action : Action ρ α} {events : List (Event α)} :
      call.stage.isRemote = false → (∀ identity, call.request ≠ .one identity) →
      c.fetch = none → (call.request = .all → c.snapshot.complete = false) → Notes events →
      Turned source c call action
        { cache := c.withFetch
          progress := .waiting (.listing c.nextFetch)
          events := events ++ [.listing] }
  /-- It asks for the record of its identity. -/
  | leadLookup {action : Action ρ α} {identity : Identity} {events : List (Event α)} :
      call.stage.isRemote = false → call.request = .one identity → c.fetch = none →
      c.lookups.lookup (c.key identity) = none → c.cachedObject? identity = none →
      c.snapshot.complete = false → Notes events →
      Turned source c call action
        { cache := c.withLookup identity
          progress := .waiting (.lookingUp (c.nextLookup identity))
          events := events ++ [.lookup identity] }
  /-- It takes the fetch slot, but is cancelled before it asks. -/
  | tryFetch {action : Action ρ α} {events : List (Event α)} :
      call.stage.isRemote = false → c.fetch = none → Notes events →
      Turned source c call action
        { cache := { c with fetchResults := c.fetchResults.push (some (.error .cancelled)) }
          progress := .finished (.error .cancelled)
          events }
  /-- It takes the slot of a lookup, but is cancelled before it asks. -/
  | tryLookup {action : Action ρ α} {events : List (Event α)} :
      call.stage.isRemote = false → c.fetch = none → Notes events →
      Turned source c call action
        { cache := { c with lookupResults := c.lookupResults.push (some (.error .cancelled)) }
          progress := .finished (.error .cancelled)
          events }
  /-- Its fetch fails, or it is cancelled or dropped while it leads one. -/
  | failFetch {action : Action ρ α} {lead : FetchLead} {error : CacheError}
      {events : List (Event α)} :
      call.stage = .listing lead → Notes events →
      Turned source c call action
        { cache := (c.abortFetch lead).resolveFetch lead.promise (.error error)
          progress := .finished (.error error)
          events }
  /-- Its lookup fails, or it is cancelled or dropped while it leads one. -/
  | failLookup {action : Action ρ α} {lead : LookupLead} {error : CacheError} :
      call.stage = .lookingUp lead →
      Turned source c call action
        { cache := c.withFound lead (.error error), progress := .finished (.error error) }
  /-- The remote side lists its records. -/
  | listed {lead : FetchLead} {records : List ρ} {events : List (Event α)} :
      call.stage = .listing lead → Notes events →
      Turned source c call (.listed call.id (.ok records))
        ((c.commitFetch source call.request lead (records.filterMap source.construct)).after
          events)
  /-- The remote side has no object. -/
  | absent {lead : LookupLead} {record : Option ρ} :
      call.stage = .lookingUp lead → record.bind source.construct = none →
      Turned source c call (.found call.id (.ok record))
        { cache := c.withFound lead (.ok none), progress := .finished (.ok (.object none)) }
  /-- The remote side finds an object whose key is cached. -/
  | present {lead : LookupLead} {record : Option ρ} {object : α} {ref : Ref} :
      call.stage = .lookingUp lead → record.bind source.construct = some object →
      c.snapshot.find? (c.objectKey source object) = some ref →
      Turned source c call (.found call.id (.ok record))
        { cache := c.withFound lead (.ok (some ref))
          progress := .finished (.ok (.object (some ref))) }
  /-- The remote side finds an object that the cache has no use for. -/
  | handOut {lead : LookupLead} {record : Option ρ} {object : α} {events : List (Event α)} :
      call.stage = .lookingUp lead → record.bind source.construct = some object →
      c.snapshot.find? (c.objectKey source object) = none →
      (c.generation ≠ lead.generation ∨ c.snapshot.complete = true) → Notes events →
      Turned source c call (.found call.id (.ok record))
        { cache := { c with objects := c.objects.push object }.withFound lead
            (.ok (some c.objects.size))
          progress := .finished (.ok (.object (some c.objects.size)))
          events }
  /-- The remote side finds an object that is cached from now on. -/
  | keep {lead : LookupLead} {record : Option ρ} {object : α} :
      call.stage = .lookingUp lead → record.bind source.construct = some object →
      c.snapshot.find? (c.objectKey source object) = none →
      c.generation = lead.generation → c.snapshot.complete = false →
      Turned source c call (.found call.id (.ok record))
        { cache := ({ c with objects := c.objects.push object }.publish source
            (c.snapshot.entries ++ [c.objects.size]) false).withFound lead
            (.ok (some c.objects.size))
          progress := .finished (.ok (.object (some c.objects.size))) }

section Leading

variable {source : Source ρ α} {c : Cache α} {call : Call} {action : Action ρ α}

/-- What a call reports before it asks for a listing. -/
def fetchNotes (c : Cache α) (request : Request) : List (Event α) :=
  [.log { level := .debug, message := "begin task", fields := [("task", "Load " ++ c.name)] },
    c.counted "caches.fetch",
    c.logLine .debug "Fetching all objects" [("mode", request.mode)]]

/-- What a call reports before it asks for a record. -/
def lookupNotes (c : Cache α) (identity : Identity) : List (Event α) :=
  [c.counted "caches.lookup",
    c.logLine .debug "Looking up single object" [("identity", identity.display)]]

theorem notes_nil : Notes ([] : List (Event α)) := by simp [Notes]

theorem Notes.append {xs ys : List (Event α)} (hx : Notes xs) (hy : Notes ys) :
    Notes (xs ++ ys) := by
  intro event h
  rcases List.mem_append.1 h with h | h
  · exact hx event h
  · exact hy event h

theorem notes_fetchNotes (c : Cache α) (request : Request) : Notes (c.fetchNotes request) := by
  simp [Notes, fetchNotes]

theorem notes_lookupNotes (c : Cache α) (identity : Identity) :
    Notes (c.lookupNotes identity) := by
  simp [Notes, lookupNotes]

theorem resolve_push {β : Type} (ps : Promises β) (result : β) :
    Promises.resolve (ps.push none) ps.size result = ps.push (some result) := by
  apply Array.ext
  · simp [Promises.resolve]
  · intro i hi _
    rw [Promises.resolve, Array.size_modify, Array.size_push] at hi
    by_cases h : i = ps.size
    · subst h
      simp [Promises.resolve, Array.getElem_modify]
    · have : i < ps.size := by omega
      simp [Promises.resolve, Array.getElem_modify, Array.getElem_push, this, Ne.symm h]

/-- A fetch that is cancelled before it asks leaves nothing but its promise. -/
theorem leadFetch_true_cache (h : c.fetch = none) (request : Request) :
    (c.leadFetch request true).cache =
      { c with fetchResults := c.fetchResults.push (some (.error .cancelled)) } := by
  simp only [leadFetch, Promises.make, if_true, Turn.after, failFetch, abortFetch, resolveFetch,
    resolve_push]
  rw [h]

theorem notes_failFetch (c : Cache α) (lead : FetchLead) (error : CacheError) :
    Notes (c.failFetch lead error).events := by
  intro event h
  simp only [failFetch, List.mem_append, List.mem_singleton] at h
  rcases h with h | rfl
  · split at h <;> simp_all
  · rfl

theorem notes_leadFetch_true (c : Cache α) (request : Request) :
    Notes (c.leadFetch request true).events := by
  refine Notes.append (Notes.append (notes_fetchNotes c request) ?_) (notes_failFetch _ _ _)
  simp [Notes]

theorem leadLookup_true (identity : Identity)
    (h : c.lookups.lookup (c.key identity) = none) :
    c.leadLookup identity true =
      { cache := { c with lookupResults := c.lookupResults.push (some (.error .cancelled)) }
        progress := .finished (.error .cancelled)
        events := c.lookupNotes identity } := by
  -- freeing the slot again takes no other one away
  have hfree : c.lookups.filter (·.1 ≠ c.key identity) = c.lookups := by
    rw [List.filter_eq_self]
    intro entry hmem
    rw [List.lookup_eq_none_iff] at h
    have hne : c.key identity ≠ entry.1 := by simpa using h entry hmem
    exact decide_eq_true hne.symm
  simp only [leadLookup, Promises.make, if_true, Turn.after, failLookup, releaseLookup,
    resolveLookup, resolve_push, List.append_nil, lookupNotes]
  rw [List.filter_cons_of_neg (by simp), hfree]
  rfl

end Leading

section Cases

variable {source : Source ρ α} {c : Cache α} {call : Call} {action : Action ρ α}

theorem Turn.after_nil (turn : Turn α) : turn.after [] = turn := rfl

theorem turned_waitAt {stage : Stage} {events notes : List (Event α)} {cancelled : Bool}
    (hstage : call.stage.isRemote = false) (hnotes : Notes (events ++ notes))
    (hwait : Turned source c call action
      { cache := c, progress := .waiting stage, events := events ++ notes }) :
    Turned source c call action ((c.waitAt stage cancelled notes).after events) := by
  cases cancelled with
  | true => exact .quit hstage hnotes
  | false => exact hwait

theorem turned_joinFetch {flight : InFlight} {events : List (Event α)} {cancelled : Bool}
    (hstage : call.stage.isRemote = false) (hfetch : c.fetch = some flight)
    (hevents : Notes events) :
    Turned source c call action ((c.joinFetch call.request flight cancelled).after events) := by
  -- what is reported depends on the request and the generation, where the call waits does not
  have key : ∀ notes, Notes notes → Turned source c call action
      ((c.waitAt (.awaitingFetch flight.promise (flight.generation = c.generation)) cancelled
        notes).after events) := by
    intro notes hnotes
    have hall := hevents.append hnotes
    exact turned_waitAt hstage hall (.joinFetch hstage hfetch hall)
  unfold joinFetch
  by_cases h : flight.generation = c.generation
  · simp only [h, decide_true, if_true] at key ⊢
    apply key
    cases call.request <;> simp [Notes]
  · simp only [h, decide_false, if_false] at key ⊢
    apply key
    simp [Notes]

theorem turned_leadFetch {events : List (Event α)} {cancelled : Bool}
    (hstage : call.stage.isRemote = false) (hrequest : ∀ identity, call.request ≠ .one identity)
    (hfetch : c.fetch = none) (hall : call.request = .all → c.snapshot.complete = false)
    (hevents : Notes events) :
    Turned source c call action ((c.leadFetch call.request cancelled).after events) := by
  cases cancelled with
  | true =>
    have h : Turned source c call action _ :=
      .tryFetch hstage hfetch (hevents.append (notes_leadFetch_true c call.request))
    rw [← leadFetch_true_cache hfetch call.request] at h
    exact h
  | false =>
    have h : Turned source c call action _ :=
      .leadFetch hstage hrequest hfetch hall (hevents.append (notes_fetchNotes c call.request))
    rw [List.append_assoc] at h
    exact h

theorem turned_fetchOrJoin {events : List (Event α)} {cancelled : Bool}
    (hstage : call.stage.isRemote = false) (hrequest : ∀ identity, call.request ≠ .one identity)
    (hall : call.request = .all → c.snapshot.complete = false) (hevents : Notes events) :
    Turned source c call action ((c.fetchOrJoin call.request cancelled).after events) := by
  unfold fetchOrJoin
  split
  next flight hfetch => exact turned_joinFetch hstage hfetch hevents
  next hfetch => exact turned_leadFetch hstage hrequest hfetch hall hevents

theorem turned_leadLookup {identity : Identity} {cancelled : Bool}
    (hstage : call.stage.isRemote = false) (hrequest : call.request = .one identity)
    (hfetch : c.fetch = none) (hlookup : c.lookups.lookup (c.key identity) = none)
    (hfind : c.cachedObject? identity = none) (hcomplete : c.snapshot.complete = false) :
    Turned source c call action (c.leadLookup identity cancelled) := by
  cases cancelled with
  | true =>
    rw [leadLookup_true identity hlookup]
    exact .tryLookup hstage hfetch (notes_lookupNotes c identity)
  | false =>
    exact .leadLookup hstage hrequest hfetch hlookup hfind hcomplete
      (notes_lookupNotes c identity)

/-- A call that waits for nothing is served from memory, waits, or leads. -/
theorem turned_enter (hstage : call.stage.isRemote = false) (cancelled first : Bool) :
    Turned source c call action (c.enter call.request cancelled first) := by
  unfold enter
  cases hrequest : call.request with
  | all =>
    dsimp only
    split
    next h =>
      refine .remember hstage (hrequest ▸ .all h) ?_
      cases first <;> simp [Notes]
    next h =>
      rw [← hrequest]
      refine turned_fetchOrJoin hstage (by simp [hrequest]) (fun _ => by simpa using h) ?_
      cases first <;> simp [Notes]
  | refresh =>
    dsimp only
    have h : Turned source c call action ((c.fetchOrJoin call.request cancelled).after []) :=
      turned_fetchOrJoin hstage (by simp [hrequest]) (by simp [hrequest]) notes_nil
    rw [hrequest, Turn.after_nil] at h
    exact h
  | one identity =>
    dsimp only
    split
    next ref h =>
      refine .remember hstage (hrequest ▸ .one h) ?_
      cases first <;> simp [Notes]
    next h =>
      split
      next hcomplete => exact .remember hstage (hrequest ▸ .none h hcomplete) notes_nil
      next hcomplete =>
        have hcomplete : c.snapshot.complete = false := by simpa using hcomplete
        split
        next flight _ hfetch =>
          rw [← hrequest]
          exact turned_joinFetch hstage hfetch notes_nil
        next flight hfetch hlookup =>
          have hnotes : Notes ([] ++ [c.counted "caches.lookup.coalesced"]) := by simp [Notes]
          exact turned_waitAt hstage hnotes
            (.joinLookup hstage hrequest hfetch hlookup hnotes)
        next hfetch hlookup =>
          exact turned_leadLookup hstage hrequest hfetch hlookup h hcomplete

/-- Running a call. -/
theorem turned_poll (source : Source ρ α) (c : Cache α) (call : Call) (action : Action ρ α)
    (cancelled : Bool) :
    Turned source c call action (c.poll call.request call.stage cancelled) := by
  cases hstage : call.stage with
  | start => exact turned_enter (by rw [hstage]; rfl) cancelled true
  | awaitingFetch promise current =>
    have hremote : call.stage.isRemote = false := by rw [hstage]; rfl
    have hrest : Turned source c call action { cache := c, progress := .waiting call.stage } :=
      .rest
    rw [hstage] at hrest
    unfold poll
    dsimp only
    split
    · exact .quit hremote notes_nil
    split
    next => exact hrest
    next result hresult =>
      split
      next hcurrent =>
        subst hcurrent
        have hlearn := @Turned.learnFetch ρ α source c call action _ _ hstage hresult
        split
        next error => exact hlearn (by simp)
        -- a refresh does not settle for a listing that somebody else asked for
        next => exact turned_enter hremote _ _
        next snapshot hrefresh => exact hlearn (fun h => absurd h hrefresh)
      -- the fetch was of an older generation, so the call starts over
      next => exact turned_enter hremote _ _
  | awaitingLookup promise current =>
    have hremote : call.stage.isRemote = false := by rw [hstage]; rfl
    have hrest : Turned source c call action { cache := c, progress := .waiting call.stage } :=
      .rest
    rw [hstage] at hrest
    unfold poll
    dsimp only
    split
    · exact .quit hremote notes_nil
    split
    next => exact hrest
    next result hresult =>
      split
      next hcurrent =>
        subst hcurrent
        exact .learnLookup hstage hresult
      next => exact turned_enter hremote _ _
  | listing lead =>
    unfold poll
    dsimp only
    split
    · refine .failFetch hstage (Notes.append ?_ (notes_failFetch c lead .cancelled))
      simp [Notes]
    · rw [← hstage]
      exact .rest
  | lookingUp lead =>
    unfold poll
    dsimp only
    split
    · exact .failLookup hstage
    · rw [← hstage]
      exact .rest

/-- Handing the remote side's listing to the call that asked for it. -/
theorem turned_acceptListing (source : Source ρ α) (c : Cache α) {call : Call} {lead : FetchLead}
    (hstage : call.stage = .listing lead) (answer : Except ConnectionError (List ρ)) :
    Turned source c call (.listed call.id answer)
      (c.acceptListing source call.request lead answer) := by
  cases answer with
  | error error =>
    refine .failFetch hstage (Notes.append ?_ (notes_failFetch c lead _))
    simp [Notes]
  | ok records => exact .listed hstage (by simp [Notes])

/-- Handing the remote side's record to the call that asked for it. -/
theorem turned_acceptLookup (source : Source ρ α) (c : Cache α) {call : Call} {lead : LookupLead}
    (hstage : call.stage = .lookingUp lead) (answer : Except ConnectionError (Option ρ)) :
    Turned source c call (.found call.id answer) (c.acceptLookup source lead answer) := by
  cases answer with
  | error error => exact .failLookup hstage
  | ok record =>
    unfold acceptLookup
    cases hobject : record.bind source.construct with
    | none =>
      simp only [hobject]
      exact .absent hstage hobject
    | some object =>
      simp only [hobject]
      unfold commitLookup
      dsimp only
      split
      next ref hfind => exact .present hstage hobject hfind
      next hfind =>
        split
        next hgeneration =>
          exact .handOut hstage hobject hfind (.inl hgeneration) (by simp [Notes])
        next hgeneration =>
          split
          next hcomplete =>
            exact .handOut hstage hobject hfind (.inr hcomplete) (by simp [Notes])
          next hcomplete =>
            exact .keep hstage hobject hfind (Decidable.not_not.1 hgeneration)
              (Bool.eq_false_iff.2 hcomplete)

/-- Dropping a call is a turn that fails as cancelled, and nobody is told. -/
theorem turned_abandon (source : Source ρ α) (c : Cache α) (call : Call) (action : Action ρ α) :
    Turned source c call action
      { cache := c.abandon call.stage, progress := .finished (.error .cancelled) } := by
  cases hstage : call.stage with
  | listing lead => exact .failFetch hstage notes_nil
  | lookingUp lead => exact .failLookup hstage
  | start | awaitingFetch | awaitingLookup =>
    exact .quit (by rw [hstage]; rfl) notes_nil

end Cases

end CatalogBrowser.Cache
