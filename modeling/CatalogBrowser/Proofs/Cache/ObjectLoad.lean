import CatalogBrowser.Proofs.Cache.CollectionLoad

/-!
# Loads of one object

Databases, schemas and tables cannot be looked up one by one: the remote side has no answer to that
but that there is no such object. So a load of one object is served from memory, or waits for the
listing in flight, or looks in vain, and it never changes what a cache holds.

## Main definitions

* `Remote.HasNone` - a remote side without single objects.
* `Load.Single` - a load of one object, as it is between its runs.
* `Load.Glanced` - the outcomes of running one.

## Main statements

* `Load.glanced_run` - there are no other outcomes.
-/

namespace CatalogBrowser.Cache

variable {ω κ ρ α : Type}

/-- The remote side has no objects to offer one by one, and says so at once. -/
def Remote.HasNone (remote : Remote ω κ ρ) : Prop :=
  ∀ world identity, (remote.lookup world identity).1 = world ∧
    remote.found? world (remote.lookup world identity).2 = some (.ok none)

namespace Load

variable {source : Source ρ α} {remote : Remote ω κ ρ} {world : ω} {c : Cache α}
  {load load' : Load κ} {cancelled : Bool}

/-- A load of one object that has not run yet. -/
def sought (identity : Identity) : Load κ where
  request := .one identity

/-- One that waits for another load's listing. -/
def seeking (identity : Identity) (promise : Nat) : Load κ where
  request := .one identity
  stage := .awaitingFetch promise true

/-- A load of one object, as it is between its runs. -/
inductive Single : Load κ → Prop
  | sought (identity : Identity) : Single (sought identity)
  | seeking (identity : Identity) (promise : Nat) : Single (seeking identity promise)

theorem Single.isRemote (h : load.Single) : load.stage.isRemote = false := by
  cases h <;> rfl

/-- What comes of running a load of one object. -/
inductive Glanced (world : ω) (c : Cache α) (load : Load κ) (turn : LoadTurn ω κ α) : Prop
  /-- It ends, maybe after it looked in vain. -/
  | ends {lookupResults : Promises LookupResult} {result : Result} : turn.world = world →
      turn.cache = { c with lookupResults } → turn.poll = .finished result →
      Glanced world c load turn
  /-- It waits for the listing in flight. -/
  | waits {load' : Load κ} : turn.world = world → turn.cache = c → turn.poll = .waiting load' →
      load'.Single →
      load' = load ∨ (∃ flight, c.fetch = some flight ∧
        load'.stage = .awaitingFetch flight.promise true) → Glanced world c load turn

theorem glanced_ends (source : Source ρ α) (remote : Remote ω κ ρ) (world : ω)
    {lookupResults : Promises LookupResult} {result : Result}
    (hresult : (c.poll load.request load.stage cancelled).progress = .finished result)
    (hcache : (c.poll load.request load.stage cancelled).cache = { c with lookupResults }) :
    Glanced world c load (load.run source remote world c cancelled) := by
  obtain ⟨hworld, hsame, hends⟩ : (load.run source remote world c cancelled).world = world ∧ _ :=
    run_of_finished result hresult
  exact .ends hworld (hsame.trans hcache) hends

/-- A load of one object comes to wait for a listing. -/
theorem glanced_waits (source : Source ρ α) (remote : Remote ω κ ρ) (world : ω)
    {identity : Identity} {stage : Stage} {promise : Nat} {events : List (Event α)}
    (hpoll : c.poll (.one identity) stage cancelled =
      { cache := c, progress := .waiting (.awaitingFetch promise true), events })
    (hpromise : stage = .awaitingFetch promise true ∨
      ∃ flight, c.fetch = some flight ∧ flight.promise = promise) :
    Glanced world c { request := .one identity, stage }
      (run source remote world c { request := .one identity, stage } cancelled) := by
  have hruns : run source remote world c { request := .one identity, stage } cancelled =
      { world, cache := c, poll := .waiting (seeking identity promise), events } := by
    rw [run, hpoll]
    rfl
  rw [hruns]
  refine .waits rfl rfl rfl (.seeking identity promise) (hpromise.imp ?_ ?_)
  · rintro rfl
    rfl
  · rintro ⟨flight, hfetch, rfl⟩
    exact ⟨flight, hfetch, rfl⟩

/-- A load of one object looks in vain. -/
theorem glanced_misses (source : Source ρ α) (hnone : remote.HasNone) (world : ω)
    {identity : Identity} (hcached : c.cachedObject? identity = none)
    (hincomplete : c.snapshot.complete = false) (hfetch : c.fetch = none)
    (hlookups : c.lookups = []) (cancelled : Bool) :
    Glanced world c (sought identity) (run source remote world c (sought identity) cancelled) := by
  have hpoll : c.poll (.one identity) .start cancelled = c.leadLookup identity cancelled := by
    simp [poll, enter, hcached, hincomplete, hfetch, hlookups]
  cases cancelled with
  | true =>
    have hkept : (c.leadLookup identity true).cache =
        { c with lookupResults := (c.leadLookup identity true).cache.lookupResults } := by
      simp [leadLookup, Turn.after, failLookup, releaseLookup, resolveLookup, hlookups]
    exact glanced_ends source remote world (congrArg Turn.progress hpoll)
      ((congrArg Turn.cache hpoll).trans hkept)
  | false =>
    obtain ⟨hworld, hfound⟩ := hnone world identity
    rcases hquery : remote.lookup world identity with ⟨world', query⟩
    rw [hquery] at hworld hfound
    obtain rfl := hworld
    dsimp only at hfound
    generalize hturn : run source remote world' c (sought identity) false = turn
    have hkept : turn.cache = { c with lookupResults := turn.cache.lookupResults } := by
      rw [← hturn]
      simp [run, sought, hpoll, leadLookup, ask, Load.identity, hquery, take?, hfound, acceptLookup,
        releaseLookup, resolveLookup, hlookups]
    have hends : turn.world = world' ∧ turn.poll = .finished (.ok (.object none)) := by
      rw [← hturn]
      simp [run, sought, hpoll, leadLookup, ask, Load.identity, hquery, take?, hfound, acceptLookup]
    exact .ends hends.1 hkept hends.2

/-- A load of one object is answered at once. -/
theorem glanced_answered (source : Source ρ α) (remote : Remote ω κ ρ) (world : ω) {result : Result}
    {events : List (Event α)} (hpoll : c.poll load.request load.stage cancelled =
      { cache := c, progress := .finished result, events }) :
    Glanced world c load (load.run source remote world c cancelled) :=
  glanced_ends source remote world (congrArg Turn.progress hpoll) (congrArg Turn.cache hpoll)

theorem glanced_sought (source : Source ρ α) (hnone : remote.HasNone) (world : ω)
    (hlookups : c.lookups = [])
    (hcurrent : ∀ flight, c.fetch = some flight → flight.generation = c.generation)
    (identity : Identity) (cancelled : Bool) :
    Glanced world c (sought identity) ((sought identity).run source remote world c cancelled) := by
  cases hcached : c.cachedObject? identity with
  | some ref =>
    have hpoll : c.poll (.one identity) .start cancelled =
        { cache := c
          progress := .finished (.ok (.object (some ref)))
          events := [c.counted "caches.memory.hit"] } := by
      simp [poll, enter, hcached]
    exact glanced_answered source remote world hpoll
  | none =>
    cases hcomplete : c.snapshot.complete with
    | true =>
      have hpoll : c.poll (.one identity) .start cancelled =
          { cache := c, progress := .finished (.ok (.object none)) } := by
        simp [poll, enter, hcached, hcomplete]
      exact glanced_answered source remote world hpoll
    | false =>
      cases hfetch : c.fetch with
      | none =>
        exact glanced_misses source hnone world hcached hcomplete hfetch hlookups cancelled
      | some flight =>
        have hpoll : c.poll (.one identity) .start cancelled =
            c.joinFetch (.one identity) flight cancelled := by
          simp [poll, enter, hcached, hcomplete, hfetch]
        rw [joinFetch, if_pos (hcurrent flight hfetch)] at hpoll
        cases cancelled with
        | true => exact glanced_answered source remote world hpoll
        | false => exact glanced_waits source remote world hpoll (.inr ⟨flight, hfetch, rfl⟩)

theorem glanced_seeking (source : Source ρ α) (remote : Remote ω κ ρ) (world : ω)
    (identity : Identity) (promise : Nat) (cancelled : Bool) :
    Glanced world c (seeking identity promise)
      ((seeking identity promise).run source remote world c cancelled) := by
  cases cancelled with
  | true => exact glanced_answered source remote world rfl
  | false =>
    cases hresult : c.fetchResults.result? promise with
    | none =>
      have hpoll : c.poll (.one identity) (.awaitingFetch promise true) false =
          { cache := c, progress := .waiting (.awaitingFetch promise true) } := by
        simp [poll, hresult]
      exact glanced_waits source remote world hpoll (.inl rfl)
    | some result =>
      have hpoll : c.poll (.one identity) (.awaitingFetch promise true) false =
          { cache := c
            progress := .finished (result.map fun snapshot =>
              .object (snapshot.find? (c.key identity))) } := by
        cases result <;> simp [poll, hresult, Except.map, Request.replyFrom]
      exact glanced_answered source remote world hpoll

/-- All that can come of running a load of one object, where a listing in flight is current. -/
theorem glanced_run (source : Source ρ α) (hnone : remote.HasNone) (world : ω)
    (hsingle : load.Single) (hlookups : c.lookups = [])
    (hcurrent : ∀ flight, c.fetch = some flight → flight.generation = c.generation)
    (cancelled : Bool) :
    Glanced world c load (load.run source remote world c cancelled) := by
  cases hsingle with
  | sought identity =>
    exact glanced_sought source hnone world hlookups hcurrent identity cancelled
  | seeking identity promise =>
    exact glanced_seeking source remote world identity promise cancelled

end Load

end CatalogBrowser.Cache
