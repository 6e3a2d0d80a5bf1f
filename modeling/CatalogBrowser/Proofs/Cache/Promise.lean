import CatalogBrowser.Proofs.Cache.Leadership

/-!
# Who owes a result

Calls that do not lead wait for a result that a leader gives through a channel: the promise of a
fetch or of a lookup. At any moment the channels without a result are exactly those that pending
leaders owe, one each. A leader gives its result as it goes away, on whichever way out, and a result
that was given never changes.

## Main definitions

* `Channel`, `Outcome` - through what a leader tells its result, and what it tells.
* `Stage.owes?`, `Stage.awaits?` - the channel that a call owes, and the one that it waits for.
* `Promised` - these are the channels without a result.
* `Machine.Accountable` - the invariant: pending leaders owe just these.
* `Machine.Ends` - an action with which a leader goes away.

## Main statements

* `Promised.turned` - a turn hands over what is owed along with the leads.
* `Machine.accountable_run` - the invariant holds in every run.
* `Machine.Accountable.outcome?_step`, `Machine.Accountable.outcome?_run` - results never change.
* `Machine.Accountable.exists_ends` - a leader that goes away gives a result.
-/

namespace CatalogBrowser.Cache

variable {ρ α : Type}

namespace Promises

variable {β : Type} {ps : Promises β} {promise other : Nat} {result : β}

/-- A promise that was made and has no result. -/
def Open (ps : Promises β) (promise : Nat) : Prop :=
  promise < ps.size ∧ ps.result? promise = none

theorem result?_push_of_lt (h : other < ps.size) (given : Option β) :
    Promises.result? (ps.push given) other = ps.result? other := by
  rw [result?, result?, Array.getD_eq_getD_getElem?, Array.getD_eq_getD_getElem?,
    getElem?_push_of_lt h]

theorem result?_push_self (ps : Promises β) (given : Option β) :
    Promises.result? (ps.push given) ps.size = given := by
  rw [result?, Array.getD_eq_getD_getElem?, Array.getElem?_push_size]
  rfl

theorem open_push_none : Open (ps.push none) other ↔ other = ps.size ∨ ps.Open other := by
  rw [Open, Open, Array.size_push, Nat.lt_succ_iff_lt_or_eq]
  constructor
  · rintro ⟨hlt | heq, hnone⟩
    · exact .inr ⟨hlt, (result?_push_of_lt hlt none).symm.trans hnone⟩
    · exact .inl heq
  · rintro (rfl | ⟨hlt, hnone⟩)
    · exact ⟨.inr rfl, result?_push_self ps none⟩
    · exact ⟨.inl hlt, (result?_push_of_lt hlt none).trans hnone⟩

theorem open_push_some : Open (ps.push (some result)) other ↔ ps.Open other := by
  rw [Open, Open, Array.size_push, Nat.lt_succ_iff_lt_or_eq]
  constructor
  · rintro ⟨hlt | rfl, hnone⟩
    · exact ⟨hlt, (result?_push_of_lt hlt _).symm.trans hnone⟩
    · rw [result?_push_self] at hnone
      cases hnone
  · rintro ⟨hlt, hnone⟩
    exact ⟨.inl hlt, (result?_push_of_lt hlt _).trans hnone⟩

theorem open_resolve : (ps.resolve promise result).Open other ↔
    ps.Open other ∧ other ≠ promise := by
  rw [Open, Open, size_resolve]
  by_cases heq : promise = other
  · subst heq
    constructor
    · rintro ⟨hlt, hnone⟩
      rw [result?_resolve_self hlt] at hnone
      cases hnone
    · rintro ⟨-, hne⟩
      exact absurd rfl hne
  · rw [result?_resolve_of_ne heq]
    exact ⟨fun h => ⟨h, Ne.symm heq⟩, And.left⟩

end Promises

/-- Through what a leader tells its result: the promise of a fetch or of a lookup. -/
inductive Channel where
  | fetch (promise : Nat)
  | lookup (promise : Nat)
deriving DecidableEq

/-- What a leader tells those who wait for it. -/
inductive Outcome where
  | fetched (result : FetchResult)
  | found (result : LookupResult)

section Channel

variable {c : Cache α} {channel : Channel} {outcome : Outcome}

/-- Whether a channel was made. -/
def Made (c : Cache α) : Channel → Prop
  | .fetch promise => promise < c.fetchResults.size
  | .lookup promise => promise < c.lookupResults.size

/-- What was told through a channel. -/
def outcome? (c : Cache α) : Channel → Option Outcome
  | .fetch promise => (c.fetchResults.result? promise).map .fetched
  | .lookup promise => (c.lookupResults.result? promise).map .found

/-- A channel that was made, and through which nothing was told so far. -/
def Open (c : Cache α) : Channel → Prop
  | .fetch promise => c.fetchResults.Open promise
  | .lookup promise => c.lookupResults.Open promise

theorem open_iff : c.Open channel ↔ c.Made channel ∧ c.outcome? channel = none := by
  cases channel <;> simp [Open, Promises.Open, Made, outcome?]

theorem made_of_outcome? (h : c.outcome? channel = some outcome) : c.Made channel := by
  cases channel with
  | fetch promise =>
    obtain ⟨result, hresult, -⟩ := Option.map_eq_some_iff.1 h
    exact lt_size_of_result? hresult
  | lookup promise =>
    obtain ⟨result, hresult, -⟩ := Option.map_eq_some_iff.1 h
    exact lt_size_of_result? hresult

theorem outcome?_of_resolveFetch {c' : Cache α} {promise : Nat} {result : FetchResult}
    (hmade : promise < c.fetchResults.size)
    (hresults : c'.fetchResults = c.fetchResults.resolve promise result) :
    c'.outcome? (.fetch promise) = some (.fetched result) := by
  rw [outcome?, hresults, result?_resolve_self hmade]
  rfl

theorem outcome?_of_resolveLookup {c' : Cache α} {promise : Nat} {result : LookupResult}
    (hmade : promise < c.lookupResults.size)
    (hresults : c'.lookupResults = c.lookupResults.resolve promise result) :
    c'.outcome? (.lookup promise) = some (.found result) := by
  rw [outcome?, hresults, result?_resolve_self hmade]
  rfl

end Channel

/-- The channel through which a call at this stage owes a result. -/
def Stage.owes? : Stage → Option Channel
  | .listing lead => some (.fetch lead.promise)
  | .lookingUp lead => some (.lookup lead.promise)
  | _ => none

/-- The channel that a call at this stage waits for. -/
def Stage.awaits? : Stage → Option Channel
  | .awaitingFetch promise _ => some (.fetch promise)
  | .awaitingLookup promise _ => some (.lookup promise)
  | _ => none

theorem Stage.owes?_of_not_isRemote {stage : Stage} (h : stage.isRemote = false) :
    stage.owes? = none := by
  cases stage <;> simp_all [owes?, isRemote]

theorem Stage.isRemote_of_owes? {stage : Stage} {channel : Channel}
    (h : stage.owes? = some channel) : stage.isRemote = true := by
  cases stage <;> simp_all [owes?, isRemote]

theorem Stage.channel_of_listing {stage : Stage} {lead : FetchLead} {channel : Channel}
    (hstage : stage = .listing lead) (howes : stage.owes? = some channel) :
    Channel.fetch lead.promise = channel := by
  rw [hstage] at howes
  exact Option.some.inj howes

theorem Stage.channel_of_lookingUp {stage : Stage} {lead : LookupLead} {channel : Channel}
    (hstage : stage = .lookingUp lead) (howes : stage.owes? = some channel) :
    Channel.lookup lead.promise = channel := by
  rw [hstage] at howes
  exact Option.some.inj howes

/-- What is owed by some calls. -/
def owed (calls : List Call) : List Channel :=
  calls.filterMap (·.stage.owes?)

theorem mem_owed_iff {calls : List Call} {channel : Channel} :
    channel ∈ owed calls ↔ ∃ call ∈ calls, call.stage.owes? = some channel := by
  simp [owed]

/-- These are the channels through which nothing was told so far, each of them once. -/
structure Promised (c : Cache α) (channels : List Channel) : Prop where
  nodup : channels.Nodup
  mem_iff : ∀ channel, channel ∈ channels ↔ c.Open channel

section Promised

variable {c c' : Cache α} {channels channels' : List Channel} {channel : Channel}

theorem perm_owing (channels channels' : List Channel) (channel : Channel) :
    (channels ++ [channel] ++ channels').Perm (channel :: (channels ++ channels')) := by
  rw [List.append_assoc]
  exact List.perm_middle

theorem Promised.congr (h : Promised c channels) (hopen : ∀ other, c'.Open other ↔ c.Open other) :
    Promised c' channels where
  nodup := h.nodup
  mem_iff other := (h.mem_iff other).trans (hopen other).symm

theorem Promised.close (h : Promised c (channels ++ [channel] ++ channels'))
    (hopen : ∀ other, c'.Open other ↔ c.Open other ∧ other ≠ channel) :
    Promised c' (channels ++ channels') := by
  have hperm := perm_owing channels channels' channel
  have hnodup := hperm.nodup_iff.1 h.nodup
  rw [List.nodup_cons] at hnodup
  refine ⟨hnodup.2, fun other => ?_⟩
  rw [hopen, ← h.mem_iff, hperm.mem_iff, List.mem_cons]
  constructor
  · intro hmem
    exact ⟨.inr hmem, fun heq => hnodup.1 (heq ▸ hmem)⟩
  · rintro ⟨hmem, hne⟩
    exact hmem.resolve_left hne

theorem Promised.make (h : Promised c (channels ++ channels')) (hnew : ¬ c.Open channel)
    (hopen : ∀ other, c'.Open other ↔ other = channel ∨ c.Open other) :
    Promised c' (channels ++ [channel] ++ channels') := by
  have hperm := perm_owing channels channels' channel
  refine ⟨hperm.nodup_iff.2 (List.nodup_cons.2 ⟨?_, h.nodup⟩), fun other => ?_⟩
  · rw [h.mem_iff]
    exact hnew
  · rw [hperm.mem_iff, List.mem_cons, h.mem_iff, hopen]

end Promised

section Turn

variable {source : Source ρ α} {c : Cache α} {call : Call} {action : Action ρ α} {turn : Turn α}

theorem open_resolveFetch {c' : Cache α} {promise : Nat} {result : FetchResult}
    (hfetches : c'.fetchResults = c.fetchResults.resolve promise result)
    (hlookups : c'.lookupResults = c.lookupResults) (other : Channel) :
    c'.Open other ↔ c.Open other ∧ other ≠ .fetch promise := by
  cases other with
  | fetch other => simp [Open, hfetches, Promises.open_resolve]
  | lookup other => simp [Open, hlookups]

theorem open_resolveLookup {c' : Cache α} {promise : Nat} {result : LookupResult}
    (hfetches : c'.fetchResults = c.fetchResults)
    (hlookups : c'.lookupResults = c.lookupResults.resolve promise result) (other : Channel) :
    c'.Open other ↔ c.Open other ∧ other ≠ .lookup promise := by
  cases other with
  | fetch other => simp [Open, hfetches]
  | lookup other => simp [Open, hlookups, Promises.open_resolve]

/-- A turn hands over what is owed along with the leads. -/
theorem Promised.turned {channels channels' : List Channel}
    (h : Promised c (channels ++ call.stage.owes?.toList ++ channels'))
    (hturn : Turned source c call action turn) :
    Promised turn.cache
      (channels ++ (turn.progress.stage?.bind Stage.owes?).toList ++ channels') := by
  have hnone : call.stage.isRemote = false → Promised c (channels ++ channels') := fun hstage => by
    simpa [Stage.owes?_of_not_isRemote hstage] using h
  have hlisting : ∀ lead, call.stage = .listing lead →
      Promised c (channels ++ [.fetch lead.promise] ++ channels') := fun lead hstage => by
    simpa [hstage, Stage.owes?] using h
  have hlookingUp : ∀ lead, call.stage = .lookingUp lead →
      Promised c (channels ++ [.lookup lead.promise] ++ channels') := fun lead hstage => by
    simpa [hstage, Stage.owes?] using h
  -- a call that finished, or waits for another one, owes nothing
  have hfinished : ∀ {c' : Cache α}, Promised c' (channels ++ channels') →
      Promised c' (channels ++ (none : Option Channel).toList ++ channels') := fun h => by
    simpa using h
  cases hturn with
  | rest => exact h
  | quit hstage | remember hstage => exact hfinished (hnone hstage)
  | learnFetch hstage | learnLookup hstage => exact hfinished (hnone (by rw [hstage]; rfl))
  | joinFetch hstage | joinLookup hstage => exact hfinished (hnone hstage)
  | tryFetch hstage =>
    refine hfinished ((hnone hstage).congr fun other => ?_)
    cases other with
    | fetch => exact Promises.open_push_some
    | lookup => exact Iff.rfl
  | tryLookup hstage =>
    refine hfinished ((hnone hstage).congr fun other => ?_)
    cases other with
    | fetch => exact Iff.rfl
    | lookup => exact Promises.open_push_some
  | leadFetch hstage =>
    have hnew : ¬ c.Open (.fetch c.nextFetch.promise) := fun hopen =>
      Nat.lt_irrefl _ hopen.1
    refine (hnone hstage).make hnew fun other => ?_
    cases other with
    | fetch => simpa [Open, withFetch, nextFetch] using Promises.open_push_none
    | lookup => simp [Open, withFetch]
  | @leadLookup _ identity _ hstage =>
    have hnew : ¬ c.Open (.lookup (c.nextLookup identity).promise) := fun hopen =>
      Nat.lt_irrefl _ hopen.1
    refine (hnone hstage).make hnew fun other => ?_
    cases other with
    | fetch => simp [Open, withLookup]
    | lookup => simpa [Open, withLookup, nextLookup] using Promises.open_push_none
  | failFetch hstage => exact hfinished ((hlisting _ hstage).close (open_resolveFetch rfl rfl))
  | @listed lead records _ hstage =>
    obtain ⟨hlookups, hfetches⟩ := commitFetch_results source c call.request lead
      (records.filterMap source.construct)
    rw [Turn.after, commitFetch_stage?]
    exact hfinished ((hlisting lead hstage).close (open_resolveFetch hfetches hlookups))
  | failLookup hstage | absent hstage | present hstage | handOut hstage | keep hstage =>
    exact hfinished ((hlookingUp _ hstage).close (open_resolveLookup rfl rfl))

/-- The two ways for a listing to end: without success, or accepted. -/
theorem Turned.listing_ended (hturn : Turned source c call action turn) {lead : FetchLead}
    (hstage : call.stage = .listing lead) (hgone : turn.progress ≠ .waiting call.stage) :
    (∃ error, turn.cache = (c.abortFetch lead).resolveFetch lead.promise (.error error) ∧
      turn.progress = .finished (.error error)) ∨
    ∃ records, action = .listed call.id (.ok records) ∧
      turn.cache = (c.commitFetch source call.request lead
        (records.filterMap source.construct)).cache ∧
      turn.progress = (c.commitFetch source call.request lead
        (records.filterMap source.construct)).progress := by
  have hremote : call.stage.isRemote ≠ false := by rw [hstage]; exact Bool.noConfusion
  cases hturn with
  | rest => exact absurd rfl hgone
  | @failFetch _ lead' error _ hstage' =>
    obtain rfl := Stage.listing.inj (hstage'.symm.trans hstage)
    exact .inl ⟨error, rfl, rfl⟩
  | @listed lead' records _ hstage' =>
    obtain rfl := Stage.listing.inj (hstage'.symm.trans hstage)
    exact .inr ⟨records, rfl, rfl, rfl⟩
  | quit hlocal | remember hlocal => exact absurd hlocal hremote
  | joinFetch hlocal | joinLookup hlocal => exact absurd hlocal hremote
  | leadFetch hlocal | leadLookup hlocal => exact absurd hlocal hremote
  | tryFetch hlocal | tryLookup hlocal => exact absurd hlocal hremote
  | learnFetch hother | learnLookup hother => rw [hstage] at hother; cases hother
  | failLookup hother | absent hother | present hother | handOut hother | keep hother =>
    rw [hstage] at hother
    cases hother

/-- A lookup ends with what the call answers. -/
theorem Turned.lookingUp_ended (hturn : Turned source c call action turn) {lead : LookupLead}
    (hstage : call.stage = .lookingUp lead) (hgone : turn.progress ≠ .waiting call.stage) :
    ∃ result, turn.cache.lookupResults = c.lookupResults.resolve lead.promise result ∧
      turn.progress = .finished (result.map .object) := by
  have hremote : call.stage.isRemote ≠ false := by rw [hstage]; exact Bool.noConfusion
  have hlead : ∀ {lead' : LookupLead}, call.stage = .lookingUp lead' → lead' = lead := fun h =>
    Stage.lookingUp.inj (h.symm.trans hstage)
  cases hturn with
  | rest => exact absurd rfl hgone
  | failLookup hstage' | absent hstage' | present hstage' | handOut hstage' | keep hstage' =>
    obtain rfl := hlead hstage'
    exact ⟨_, rfl, rfl⟩
  | quit hlocal | remember hlocal => exact absurd hlocal hremote
  | joinFetch hlocal | joinLookup hlocal => exact absurd hlocal hremote
  | leadFetch hlocal | leadLookup hlocal => exact absurd hlocal hremote
  | tryFetch hlocal | tryLookup hlocal => exact absurd hlocal hremote
  | learnFetch hother | learnLookup hother => rw [hstage] at hother; cases hother
  | failFetch hother | listed hother => rw [hstage] at hother; cases hother

/-- A turn leaves alone what the call does not owe. -/
theorem Turned.outcome?_eq (hturn : Turned source c call action turn) {channel : Channel}
    (hmade : c.Made channel) (hother : call.stage.owes? ≠ some channel) :
    turn.cache.outcome? channel = c.outcome? channel := by
  -- whatever becomes of the promise of a lead, the others stay
  have hfetch : ∀ {c' : Cache α} {lead : FetchLead} {result : FetchResult},
      call.stage = .listing lead → c'.lookupResults = c.lookupResults →
      c'.fetchResults = c.fetchResults.resolve lead.promise result →
      c'.outcome? channel = c.outcome? channel := by
    intro c' lead result hstage hlookups hfetches
    cases channel with
    | fetch promise =>
      have hne : lead.promise ≠ promise := fun heq => hother (by rw [hstage, ← heq]; rfl)
      rw [outcome?, outcome?, hfetches, result?_resolve_of_ne hne]
    | lookup promise => rw [outcome?, outcome?, hlookups]
  have hlookup : ∀ {c' : Cache α} {lead : LookupLead} {result : LookupResult},
      call.stage = .lookingUp lead → c'.fetchResults = c.fetchResults →
      c'.lookupResults = c.lookupResults.resolve lead.promise result →
      c'.outcome? channel = c.outcome? channel := by
    intro c' lead result hstage hfetches hlookups
    cases channel with
    | fetch promise => rw [outcome?, outcome?, hfetches]
    | lookup promise =>
      have hne : lead.promise ≠ promise := fun heq => hother (by rw [hstage, ← heq]; rfl)
      rw [outcome?, outcome?, hlookups, result?_resolve_of_ne hne]
  cases hturn with
  | leadFetch | tryFetch =>
    cases channel with
    | fetch promise =>
      exact congrArg (Option.map Outcome.fetched) (Promises.result?_push_of_lt hmade _)
    | lookup promise => rfl
  | leadLookup | tryLookup =>
    cases channel with
    | fetch promise => rfl
    | lookup promise =>
      exact congrArg (Option.map Outcome.found) (Promises.result?_push_of_lt hmade _)
  | failFetch hstage => exact hfetch hstage rfl rfl
  | @listed lead records _ hstage =>
    obtain ⟨hlookups, hfetches⟩ := commitFetch_results source c call.request lead
      (records.filterMap source.construct)
    exact hfetch hstage hlookups hfetches
  | failLookup hstage | absent hstage | present hstage | handOut hstage | keep hstage =>
    exact hlookup hstage rfl rfl
  | rest | quit | remember | learnFetch | learnLookup | joinFetch | joinLookup => rfl

end Turn

namespace Machine

variable {source : Source ρ α} {m : Machine α} {action : Action ρ α} {channel : Channel}

/-- The channels without a result are those that pending leaders owe, one each. -/
structure Accountable (m : Machine α) : Prop where
  led : m.Led
  promised : Promised m.cache (owed m.calls)

/-- An action with which a pending leader goes away, and what it tells those who wait for it. -/
structure Ends (source : Source ρ α) (m : Machine α) (action : Action ρ α) (leader : Call)
    (channel : Channel) (outcome : Outcome) : Prop where
  pending : leader ∈ m.calls
  owes : leader.stage.owes? = some channel
  left : leader ∉ (m.step source action).machine.calls
  outcome? : (m.step source action).machine.cache.outcome? channel = some outcome

theorem accountable_new (config : Config) (monitors : Monitors) :
    (new config monitors : Machine α).Accountable where
  led := led_new config monitors
  promised := by
    refine ⟨List.nodup_nil, fun channel => ?_⟩
    cases channel <;> simp [new, owed, Open, Promises.Open]

theorem Accountable.step (h : m.Accountable) (source : Source ρ α) (action : Action ρ α) :
    (m.step source action).machine.Accountable := by
  refine ⟨h.led.step source action, ?_⟩
  cases h.led.numbered.stepped source action with
  | idle cache calls =>
    rw [cache, calls]
    exact h.promised
  | start request monitor cache calls =>
    have howed := filterMap_stage_split Stage.owes? m.calls []
      { id := m.started, monitor, request }
    rw [cache, calls, owed, howed]
    simpa [Stage.owes?, owed] using h.promised
  | edit edit _ cache calls =>
    have hflights := sameFlights_edit source m.cache edit
    rw [cache, calls]
    refine h.promised.congr fun other => ?_
    cases other with
    | fetch => rw [Open, Open, hflights.fetchResults]
    | lookup => rw [Open, Open, hflights.lookupResults]
  | @turn call turn before behind _ turned pending cache calls =>
    have hpromised := h.promised
    rw [pending, owed, filterMap_stage_split] at hpromised
    rw [cache, calls, owed, filterMap_stage_moved]
    exact hpromised.turned turned

theorem Accountable.run (h : m.Accountable) (source : Source ρ α) (actions : List (Action ρ α)) :
    (m.run source actions).machine.Accountable :=
  run_preserves (fun _ action h => h.step source action) h actions

theorem accountable_run (source : Source ρ α) (config : Config) (monitors : Monitors)
    (actions : List (Action ρ α)) :
    ((new config monitors).run source actions).machine.Accountable :=
  (accountable_new config monitors).run source actions

theorem Accountable.open_of_owes (h : m.Accountable) {call : Call} (hcall : call ∈ m.calls)
    (howes : call.stage.owes? = some channel) : m.cache.Open channel :=
  (h.promised.mem_iff channel).1 (mem_owed_iff.2 ⟨call, hcall, howes⟩)

/-- Whoever waits for a channel without a result waits for a pending leader. -/
theorem Accountable.exists_owing (h : m.Accountable) (hopen : m.cache.Open channel) :
    ∃ leader ∈ m.calls, leader.stage.owes? = some channel :=
  mem_owed_iff.1 ((h.promised.mem_iff channel).2 hopen)

/-- The channel of the fetch slot has no result, so a slot is free before its channel has one. -/
theorem Accountable.open_of_fetch (h : m.Accountable) {flight : InFlight}
    (hflight : m.cache.fetch = some flight) : m.cache.Open (.fetch flight.promise) := by
  obtain ⟨leader, hleader, lead, hstage, rfl⟩ := h.led.fetch_eq_some_iff.1 hflight
  exact h.open_of_owes hleader (by rw [hstage]; rfl)

theorem Accountable.open_of_lookup (h : m.Accountable) {key : Key} {flight : InFlight}
    (hflight : m.cache.lookups.lookup key = some flight) :
    m.cache.Open (.lookup flight.promise) := by
  obtain ⟨leader, hleader, lead, hstage, -, rfl⟩ := h.led.lookup_eq_some_iff.1 hflight
  exact h.open_of_owes hleader (by rw [hstage]; rfl)

/-- A result that was given never changes. -/
theorem Accountable.outcome?_step (h : m.Accountable) {outcome : Outcome}
    (houtcome : m.cache.outcome? channel = some outcome) :
    (m.step source action).machine.cache.outcome? channel = some outcome := by
  cases h.led.numbered.stepped source action with
  | idle cache => rw [cache, houtcome]
  | start _ _ cache => rw [cache, houtcome]
  | edit edit _ cache =>
    have hflights := sameFlights_edit source m.cache edit
    rw [cache, ← houtcome]
    cases channel with
    | fetch => rw [Cache.outcome?, Cache.outcome?, hflights.fetchResults]
    | lookup => rw [Cache.outcome?, Cache.outcome?, hflights.lookupResults]
  | @turn call turn before behind _ turned pending cache =>
    have hcall : call ∈ m.calls := by rw [pending]; simp
    rw [cache, turned.outcome?_eq (made_of_outcome? houtcome), houtcome]
    -- what the call owes has no result
    intro howes
    have hopen := (open_iff.1 (h.open_of_owes hcall howes)).2
    rw [houtcome] at hopen
    cases hopen

theorem Accountable.outcome?_run (h : m.Accountable) {outcome : Outcome}
    (houtcome : m.cache.outcome? channel = some outcome) (actions : List (Action ρ α)) :
    (m.run source actions).machine.cache.outcome? channel = some outcome :=
  (run_preserves (P := fun m => m.Accountable ∧ m.cache.outcome? channel = some outcome)
    (fun _ action h => ⟨h.1.step source action, h.1.outcome?_step h.2⟩) ⟨h, houtcome⟩ actions).2

theorem Accountable.made_of_listing (h : m.Accountable) {leader : Call} {lead : FetchLead}
    (hleader : leader ∈ m.calls) (hstage : leader.stage = .listing lead) :
    lead.promise < m.cache.fetchResults.size :=
  ((h.led.sound leader hleader).listing hstage).1

/-- A leader that goes away tells a result. -/
theorem Accountable.exists_ends (h : m.Accountable) {leader : Call} (hleader : leader ∈ m.calls)
    (howes : leader.stage.owes? = some channel)
    (hleft : leader ∉ (m.step source action).machine.calls) :
    ∃ outcome, m.Ends source action leader channel outcome := by
  have hsound := h.led.sound leader hleader
  obtain ⟨turn, turned, hcache, hgone, -⟩ := h.led.numbered.turned_of_left hleader hleft
  suffices hresult : ∃ outcome, turn.cache.outcome? channel = some outcome by
    obtain ⟨outcome, houtcome⟩ := hresult
    exact ⟨outcome, hleader, howes, hleft, hcache ▸ houtcome⟩
  cases hstage : leader.stage with
  | listing lead =>
    have hmade := (hsound.listing hstage).1
    obtain rfl := Stage.channel_of_listing hstage howes
    rcases turned.listing_ended hstage hgone with ⟨error, hturn, -⟩ | ⟨records, -, hturn, -⟩
    · exact ⟨.fetched (.error error), outcome?_of_resolveFetch hmade (by rw [hturn]; rfl)⟩
    · have hresults := (commitFetch_results source m.cache leader.request lead
        (records.filterMap source.construct)).2
      exact ⟨_, outcome?_of_resolveFetch hmade (by rw [hturn, hresults])⟩
  | lookingUp lead =>
    obtain rfl := Stage.channel_of_lookingUp hstage howes
    obtain ⟨result, hturn, -⟩ := turned.lookingUp_ended hstage hgone
    exact ⟨_, outcome?_of_resolveLookup (hsound.lookingUp hstage).1 hturn⟩
  | start | awaitingFetch | awaitingLookup => rw [hstage] at howes; cases howes

/-- How the leader of a listing goes away, by what it tells. -/
theorem Accountable.ends_listing (h : m.Accountable) {leader : Call} {lead : FetchLead}
    {outcome : Outcome} (hstage : leader.stage = .listing lead)
    (hends : m.Ends source action leader (.fetch lead.promise) outcome) :
    (∃ error, outcome = .fetched (.error error) ∧ (m.step source action).machine.cache =
      (m.cache.abortFetch lead).resolveFetch lead.promise (.error error)) ∨
    ∃ view records, outcome = .fetched (.ok view) ∧ action = .listed leader.id (.ok records) ∧
      (m.step source action).machine.cache = (m.cache.commitFetch source leader.request lead
        (records.filterMap source.construct)).cache := by
  have hmade := h.made_of_listing hends.pending hstage
  obtain ⟨turn, turned, hcache, hgone, -⟩ := h.led.numbered.turned_of_left hends.pending hends.left
  have houtcome := hends.outcome?
  rcases turned.listing_ended hstage hgone with ⟨error, hturn, -⟩ | ⟨records, haction, hturn, -⟩
  · rw [hcache, hturn, outcome?_of_resolveFetch hmade rfl] at houtcome
    exact .inl ⟨error, (Option.some.inj houtcome).symm, hcache.trans hturn⟩
  · have hresults := (commitFetch_results source m.cache leader.request lead
      (records.filterMap source.construct)).2
    rw [hcache, hturn, outcome?_of_resolveFetch hmade hresults] at houtcome
    exact .inr ⟨_, records, (Option.some.inj houtcome).symm, haction, hcache.trans hturn⟩

end Machine

end CatalogBrowser.Cache
