import CatalogBrowser.Proofs.Cache.CancelledListing
import CatalogBrowser.Proofs.Cache.Reading

/-!
# Loads of a whole collection

A load of the whole collection waits for nobody but another load of it, or for the remote side. Here
is all that can come of running one: it recalls what the cache holds, joins a listing in flight or
learns what became of one, or leads a listing of its own and takes the answer.

## Main definitions

* `Load.Bulk` - a load of the whole collection, as it is between its runs.
* `Load.Gathered` - the outcomes of running one.

## Main statements

* `Load.gathered_run` - there are no other outcomes.
* `Load.Bulk.run` - a load that still waits is one of the whole collection again.
* `Load.cancelled_run` - who is not cancelled fails with a cancellation only by joining a listing.
-/

namespace CatalogBrowser.Cache

variable {ω κ ρ α : Type} {source : Source ρ α} {remote : Remote ω κ ρ} {world world' : ω}
  {c c' : Cache α} {cancelled : Bool} {load load' : Load κ} {poll : Poll (Load κ) Result}

section Enter

/-- A request for the whole collection, be it in memory or not. -/
def Request.Bulk : Request → Prop
  | .all | .refresh => True
  | .one _ => False

theorem enter_all_of_complete (hcomplete : c.snapshot.complete = true) (cancelled first : Bool) :
    ∃ events, c.enter .all cancelled first =
      { cache := c, progress := .finished (.ok (.objects c.snapshot.entries)), events } := by
  rw [enter, if_pos hcomplete]
  exact ⟨_, rfl⟩

theorem enter_all_of_flight (hcomplete : c.snapshot.complete = false) {flight : InFlight}
    (hfetch : c.fetch = some flight) (cancelled first : Bool) :
    ∃ events, c.enter .all cancelled first = c.waitAt
      (.awaitingFetch flight.promise (flight.generation = c.generation)) cancelled events := by
  have hjoins : ∃ events, c.joinFetch .all flight cancelled = c.waitAt
      (.awaitingFetch flight.promise (flight.generation = c.generation)) cancelled events := by
    unfold joinFetch
    split
    next hcurrent => exact ⟨_, by simp only [hcurrent, decide_true]; rfl⟩
    next houtdated => exact ⟨_, by simp only [houtdated, decide_false]; rfl⟩
  obtain ⟨events, hjoins⟩ := hjoins
  rw [enter, if_neg (by simp [hcomplete]), fetchOrJoin, hfetch]
  dsimp only
  rw [hjoins]
  cases cancelled <;> exact ⟨_, rfl⟩

/-- Who takes the free fetch slot asks for a listing, or gives up at once if cancelled. -/
theorem exists_leadFetch (c : Cache α) (request : Request) (cancelled : Bool) :
    ∃ events, c.leadFetch request cancelled =
      if cancelled then (c.withFetch.failFetch c.nextFetch .cancelled).after events
      else { cache := c.withFetch, progress := .waiting (.listing c.nextFetch), events } := by
  cases cancelled <;> exact ⟨_, rfl⟩

/-- A call for all objects that are not in memory, or for a refresh, takes the free fetch slot. -/
theorem enter_of_free {request : Request} (hbulk : request.Bulk)
    (hmissing : request = .all → c.snapshot.complete = false) (hfetch : c.fetch = none)
    (cancelled first : Bool) :
    ∃ events, c.enter request cancelled first =
      if cancelled then (c.withFetch.failFetch c.nextFetch .cancelled).after events
      else { cache := c.withFetch, progress := .waiting (.listing c.nextFetch), events } := by
  obtain ⟨events, hleads⟩ := exists_leadFetch c request cancelled
  cases request with
  | all =>
    refine ⟨(if first then [c.counted "caches.access"] else []) ++ events, ?_⟩
    rw [enter, if_neg (by simp [hmissing rfl]), fetchOrJoin, hfetch]
    dsimp only
    rw [hleads]
    cases cancelled <;> simp [Turn.after]
  | refresh =>
    refine ⟨events, ?_⟩
    rw [enter, fetchOrJoin, hfetch]
    exact hleads
  | one identity => exact hbulk.elim

end Enter

namespace Load

/-- A load of the whole collection that has not run yet. -/
def unrun : Load κ where
  request := .all

/-- One that waits for another load's listing. -/
def joined (promise : Nat) (current : Bool) : Load κ where
  request := .all
  stage := .awaitingFetch promise current

/-- One that leads a listing. -/
def leading (lead : FetchLead) (query : κ) : Load κ where
  request := .all
  stage := .listing lead
  query := some query

/-- A load of the whole collection, as it is between its runs. -/
inductive Bulk : Load κ → Prop
  | unrun : Bulk unrun
  | joined (promise : Nat) (current : Bool) : Bulk (joined promise current)
  | leading (lead : FetchLead) (query : κ) : Bulk (leading lead query)

/-- A load that begins: it has not run yet, or the listing that it let pass is over. -/
inductive Enters (c : Cache α) : Load κ → Prop
  | unrun : Enters c unrun
  | joined {promise : Nat} {result : FetchResult} :
      c.fetchResults.result? promise = some result → Enters c (joined promise false)

theorem Enters.bulk (h : Enters c load) : load.Bulk := by
  cases h with
  | unrun => exact .unrun
  | joined => exact .joined _ _

/-- What comes of running a load of the whole collection: the remote side and the cache afterwards,
and what became of the load. -/
inductive Gathered (source : Source ρ α) (remote : Remote ω κ ρ) (world : ω) (c : Cache α)
    (cancelled : Bool) : Load κ → ω → Cache α → Poll (Load κ) Result → Prop
  /-- It keeps waiting for another listing. -/
  | rest {promise : Nat} {current : Bool} : cancelled = false →
      c.fetchResults.result? promise = none →
      Gathered source remote world c cancelled (joined promise current) world c
        (.waiting (joined promise current))
  /-- It gives up. -/
  | quit {load : Load κ} : cancelled = true → load.Bulk → load.stage.isRemote = false →
      Gathered source remote world c cancelled load world c (.finished (.error .cancelled))
  /-- It takes what the cache holds. -/
  | serve {load : Load κ} : load.Enters c → c.snapshot.complete = true →
      Gathered source remote world c cancelled load world c
        (.finished (.ok (.objects c.snapshot.entries)))
  /-- It takes the result of the listing that it waited for. -/
  | learn {promise : Nat} {result : FetchResult} : cancelled = false →
      c.fetchResults.result? promise = some result →
      Gathered source remote world c cancelled (joined promise true) world c
        (.finished (result.map fun snapshot => .objects snapshot.entries))
  /-- It joins the listing in flight. -/
  | join {load : Load κ} {flight : InFlight} : cancelled = false → load.Enters c →
      c.snapshot.complete = false → c.fetch = some flight →
      Gathered source remote world c cancelled load world c
        (.waiting (joined flight.promise (flight.generation = c.generation)))
  /-- It asks for a listing. -/
  | ask {load : Load κ} : cancelled = false → load.Enters c →
      c.snapshot.complete = false → c.fetch = none →
      remote.listing? (remote.list world).1 (remote.list world).2 = none →
      Gathered source remote world c cancelled load (remote.list world).1 c.withFetch
        (.waiting (leading c.nextFetch (remote.list world).2))
  /-- It asks for a listing and takes the answer at once. -/
  | fetch {load : Load κ} {answer : Except ConnectionError (List ρ)} {result : Result} :
      cancelled = false → load.Enters c → c.snapshot.complete = false → c.fetch = none →
      remote.listing? (remote.list world).1 (remote.list world).2 = some answer →
      (c.withFetch.acceptListing source .all c.nextFetch answer).progress = .finished result →
      Gathered source remote world c cancelled load (remote.list world).1
        (c.withFetch.acceptListing source .all c.nextFetch answer).cache (.finished result)
  /-- It would ask for a listing, but is cancelled. -/
  | attempt {load : Load κ} : cancelled = true → load.Enters c → c.snapshot.complete = false →
      c.fetch = none →
      Gathered source remote world c cancelled load world
        (c.withFetch.failFetch c.nextFetch .cancelled).cache (.finished (.error .cancelled))
  /-- It keeps waiting for the answer to its listing. -/
  | hold {lead : FetchLead} {query : κ} : cancelled = false → remote.listing? world query = none →
      Gathered source remote world c cancelled (leading lead query) world c
        (.waiting (leading lead query))
  /-- It takes the answer to its listing. -/
  | take {lead : FetchLead} {query : κ} {answer : Except ConnectionError (List ρ)}
      {result : Result} : cancelled = false → remote.listing? world query = some answer →
      (c.acceptListing source .all lead answer).progress = .finished result →
      Gathered source remote world c cancelled (leading lead query) world
        (c.acceptListing source .all lead answer).cache (.finished result)
  /-- It gives up the listing that it leads. -/
  | abort {lead : FetchLead} {query : κ} : cancelled = true →
      Gathered source remote world c cancelled (leading lead query) world
        (c.failFetch lead .cancelled).cache (.finished (.error .cancelled))

/-- A load whose call finishes is finished. -/
theorem run_of_finished (result : Result)
    (h : (c.poll load.request load.stage cancelled).progress = .finished result) :
    let turn := load.run source remote world c cancelled
    turn.world = world ∧ turn.cache = (c.poll load.request load.stage cancelled).cache ∧
      turn.poll = .finished result := by
  simp only [run, h, and_self]

/-- A load that waits for another one's listing asks nothing. -/
theorem run_of_joined {promise : Nat} {current : Bool} (hbulk : load.Bulk)
    (hremote : load.stage.isRemote = false)
    (h : (c.poll load.request load.stage cancelled).progress =
      .waiting (.awaitingFetch promise current)) :
    let turn := load.run source remote world c cancelled
    turn.world = world ∧ turn.cache = (c.poll load.request load.stage cancelled).cache ∧
      turn.poll = .waiting (joined promise current) := by
  have hquery : load = { request := .all, stage := load.stage } := by
    cases hbulk with
    | unrun | joined => rfl
    | leading => cases hremote
  have hask : ask remote world { load with stage := .awaitingFetch promise current } =
      (world, joined promise current) := by
    rw [hquery]
    rfl
  have htake : take? source remote world (c.poll load.request load.stage cancelled).cache
      (joined promise current) = none := rfl
  simp only [run, h, hask, htake, and_self]

/-- A load that leads a listing takes the answer if there is one. -/
theorem run_of_leading (source : Source ρ α) (load : Load κ) {request : Request} {lead : FetchLead}
    {query : κ} (h : (c.poll load.request load.stage cancelled).progress = .waiting (.listing lead))
    (hask : ask remote world { load with stage := .listing lead } =
      (world', { request, stage := .listing lead, query := some query })) :
    let turn := load.run source remote world c cancelled
    let asked := (c.poll load.request load.stage cancelled).cache
    turn.world = world' ∧
      ((remote.listing? world' query = none ∧ turn.cache = asked ∧
        turn.poll = .waiting { request, stage := .listing lead, query := some query }) ∨
      ∃ answer result, remote.listing? world' query = some answer ∧
        (asked.acceptListing source request lead answer).progress = .finished result ∧
        turn.cache = (asked.acceptListing source request lead answer).cache ∧
        turn.poll = .finished result) := by
  intro turn asked
  have htake : take? source remote world' asked
      { request, stage := .listing lead, query := some query } =
        (remote.listing? world' query).map (asked.acceptListing source request lead) := by
    rw [take?, Option.map_eq_bind]
    rfl
  cases hlisting : remote.listing? world' query with
  | none =>
    rw [hlisting, Option.map_none] at htake
    simp only [turn, asked, run, h, hask, htake, and_self, true_or]
  | some answer =>
    obtain ⟨result, hresult⟩ := finished_acceptListing source asked request lead answer
    rw [hlisting, Option.map_some] at htake
    simp only [turn, run, h, hask]
    simp only [asked] at htake hresult
    simp only [htake, hresult, true_and]
    exact .inr ⟨answer, result, rfl, hresult, rfl, rfl⟩

theorem Enters.isRemote (h : load.Enters c) : load.stage.isRemote = false := by
  cases h <;> rfl

theorem Enters.ask (h : load.Enters c) (remote : Remote ω κ ρ) (world : ω) (lead : FetchLead) :
    Load.ask remote world { load with stage := .listing lead } =
      ((remote.list world).1, leading lead (remote.list world).2) := by
  cases h <;> rfl

/-- What comes of a load that begins. -/
theorem gathered_enter (henters : load.Enters c) (first : Bool)
    (hpoll : c.poll load.request load.stage cancelled = c.enter .all cancelled first) :
    let turn := load.run source remote world c cancelled
    Gathered source remote world c cancelled load turn.world turn.cache turn.poll := by
  intro turn
  -- it is answered from memory, or joins the listing in flight, or asks for one
  cases hcomplete : c.snapshot.complete with
  | true =>
    obtain ⟨events, henter⟩ := enter_all_of_complete hcomplete cancelled first
    obtain ⟨hworld, hcache, hresult⟩ : turn.world = _ ∧ turn.cache = _ ∧ turn.poll = _ :=
      run_of_finished _ (by rw [hpoll, henter])
    rw [hworld, hcache, hresult, hpoll, henter]
    exact .serve henters hcomplete
  | false =>
    cases hfetch : c.fetch with
    | some flight =>
      obtain ⟨events, henter⟩ := enter_all_of_flight hcomplete hfetch cancelled first
      cases cancelled with
      | true =>
        obtain ⟨hworld, hcache, hresult⟩ : turn.world = _ ∧ turn.cache = _ ∧ turn.poll = _ :=
          run_of_finished (.error .cancelled) (by rw [hpoll, henter]; rfl)
        rw [hworld, hcache, hresult, hpoll, henter]
        exact .quit rfl henters.bulk henters.isRemote
      | false =>
        obtain ⟨hworld, hcache, hresult⟩ : turn.world = _ ∧ turn.cache = _ ∧ turn.poll = _ :=
          run_of_joined henters.bulk henters.isRemote (by rw [hpoll, henter]; rfl)
        rw [hworld, hcache, hresult, hpoll, henter]
        exact .join rfl henters hcomplete hfetch
    | none =>
      have hbulk : Request.Bulk .all := trivial
      obtain ⟨events, henter⟩ := enter_of_free hbulk (fun _ => hcomplete) hfetch cancelled first
      cases cancelled with
      | true =>
        obtain ⟨hworld, hcache, hresult⟩ : turn.world = _ ∧ turn.cache = _ ∧ turn.poll = _ :=
          run_of_finished (.error .cancelled) (by rw [hpoll, henter]; rfl)
        rw [hworld, hcache, hresult, hpoll, henter]
        exact .attempt rfl henters hcomplete hfetch
      | false =>
        have hcache : (c.poll load.request load.stage false).cache = c.withFetch := by
          rw [hpoll, henter]
          rfl
        have hleads : (c.poll load.request load.stage false).progress =
            .waiting (.listing c.nextFetch) := by
          rw [hpoll, henter]
          rfl
        obtain ⟨hworld, hasked⟩ :=
          run_of_leading source load hleads (henters.ask remote world c.nextFetch)
        rw [hcache] at hasked
        rw [hworld]
        rcases hasked with ⟨hnone, hcache, hwaits⟩ | ⟨answer, result, hsome, hresult, hcache, hends⟩
        · rw [hcache, hwaits]
          exact .ask rfl henters hcomplete hfetch hnone
        · rw [hcache, hends]
          exact .fetch rfl henters hcomplete hfetch hsome hresult

/-- All that can come of running a load of the whole collection. -/
theorem gathered_run (source : Source ρ α) (remote : Remote ω κ ρ) (world : ω) (c : Cache α)
    (hbulk : load.Bulk) (cancelled : Bool) :
    let turn := load.run source remote world c cancelled
    Gathered source remote world c cancelled load turn.world turn.cache turn.poll := by
  intro turn
  cases hbulk with
  | unrun => exact gathered_enter .unrun true rfl
  | joined promise current =>
    cases cancelled with
    | true =>
      obtain ⟨hworld, hcache, hresult⟩ : turn.world = _ ∧ turn.cache = _ ∧ turn.poll = _ :=
        run_of_finished (.error .cancelled) rfl
      rw [hworld, hcache, hresult]
      exact .quit rfl (.joined promise current) rfl
    | false =>
      cases hresult : c.fetchResults.result? promise with
      | none =>
        have hpoll : c.poll .all (.awaitingFetch promise current) false =
            { cache := c, progress := .waiting (.awaitingFetch promise current) } := by
          simp [poll, hresult]
        obtain ⟨hworld, hcache, hwaits⟩ : turn.world = _ ∧ turn.cache = _ ∧ turn.poll = _ :=
          run_of_joined (.joined promise current) rfl (congrArg Turn.progress hpoll)
        rw [hworld, hcache, hwaits]
        exact (congrArg Turn.cache hpoll) ▸ .rest rfl hresult
      | some result =>
        cases current with
        | false => exact gathered_enter (.joined hresult) false (by simp [joined, poll, hresult])
        | true =>
          have hpoll : c.poll .all (.awaitingFetch promise true) false =
              { cache := c
                progress := .finished (result.map fun snapshot => .objects snapshot.entries) } := by
            cases result <;> simp [poll, hresult, Except.map, Request.replyFrom]
          obtain ⟨hworld, hcache, hends⟩ : turn.world = _ ∧ turn.cache = _ ∧ turn.poll = _ :=
            run_of_finished _ (congrArg Turn.progress hpoll)
          rw [hworld, hcache, hends]
          exact (congrArg Turn.cache hpoll) ▸ .learn rfl hresult
  | leading lead query =>
    cases cancelled with
    | true =>
      obtain ⟨hworld, hcache, hresult⟩ : turn.world = _ ∧ turn.cache = _ ∧ turn.poll = _ :=
        run_of_finished (.error .cancelled) rfl
      rw [hworld, hcache, hresult]
      exact .abort rfl
    | false =>
      have hleads : (c.poll .all (.listing lead) false).progress = .waiting (.listing lead) := rfl
      have hask : ask remote world (leading lead query) = (world, leading lead query) := rfl
      obtain ⟨hworld, hasked⟩ := run_of_leading source (leading lead query) hleads hask
      rw [hworld]
      rcases hasked with ⟨hnone, hcache, hwaits⟩ | ⟨answer, result, hsome, hresult, hcache, hends⟩
      · rw [hcache, hwaits]
        exact .hold rfl hnone
      · rw [hcache, hends]
        exact .take rfl hsome hresult

/-- A load that still waits is one of the whole collection again. -/
theorem Gathered.bulk (h : Gathered source remote world c cancelled load world' c' poll)
    (hwaits : poll = .waiting load') : load'.Bulk := by
  cases h with
  | rest =>
    obtain rfl := Poll.waiting.inj hwaits
    exact .joined _ _
  | join =>
    obtain rfl := Poll.waiting.inj hwaits
    exact .joined _ _
  | ask =>
    obtain rfl := Poll.waiting.inj hwaits
    exact .leading _ _
  | hold =>
    obtain rfl := Poll.waiting.inj hwaits
    exact .leading _ _
  | quit | serve | learn | fetch | attempt | take | abort => cases hwaits

theorem Bulk.run (h : load.Bulk)
    (hwaits : (load.run source remote world c cancelled).poll = .waiting load') : load'.Bulk :=
  (gathered_run source remote world c h cancelled).bulk hwaits

/-- The leader of a listing does not learn from the answer that it was cancelled. -/
theorem acceptListing_ne_cancelled {request : Request} {lead : FetchLead}
    {answer : Except ConnectionError (List ρ)} :
    (c.acceptListing source request lead answer).progress ≠ .finished (.error .cancelled) := by
  intro h
  cases answer with
  | error error => cases h
  | ok records =>
    simp only [acceptListing, Turn.after, commitFetch] at h
    split at h <;> cases h

/-- Who is not cancelled fails with a cancellation only by joining a listing that was given up. -/
theorem cancelled_run (hbulk : load.Bulk)
    (h : (load.run source remote world c false).poll = .finished (.error .cancelled)) :
    ∃ promise, load = joined promise true ∧ c.Forsaken promise := by
  have hgathered := gathered_run source remote world c hbulk false
  generalize load.run source remote world c false = turn at h hgathered
  obtain ⟨world', c', poll, events⟩ := turn
  dsimp only at h hgathered
  cases hgathered with
  | @learn promise result _ hresult =>
    refine ⟨promise, rfl, ?_⟩
    cases result with
    | error error =>
      obtain rfl := Except.error.inj (Poll.finished.inj h)
      exact hresult
    | ok snapshot => cases h
  | fetch _ _ _ _ _ hresult =>
    obtain rfl := Poll.finished.inj h
    exact absurd hresult acceptListing_ne_cancelled
  | take _ _ hresult =>
    obtain rfl := Poll.finished.inj h
    exact absurd hresult acceptListing_ne_cancelled
  | rest | join | ask | hold | serve => cases h
  | quit hcancelled | attempt hcancelled | abort hcancelled => cases hcancelled

end Load

end CatalogBrowser.Cache
