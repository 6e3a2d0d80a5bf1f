import CatalogBrowser.Proofs.Cache.Index
import CatalogBrowser.Proofs.Cache.Liveness

/-!
# Shared results

A call that finds a fetch of the present generation in flight follows its leader, and so does one
that finds a lookup of its key. Whatever becomes of the cache in the meantime, it gets what the
leader tells when it goes away: the same instances, the same error, or that the leader was dropped.
A refresh takes over an error only, and starts over otherwise.

## Main definitions

* `Stage.follows?` - the channel of which a call takes the result for its own.
* `Request.share` - what a call makes of what it is told.
* `Machine.Told` - a leader went away in a run.
* `Machine.Tells`, `Machine.Fares` - what becomes of a leader, and of a call that follows it.

## Main statements

* `poll_of_follows` - a call that runs takes what was told through its channel.
* `Machine.Accountable.tells` - a leader is answered what it tells.
* `Machine.Accountable.fares` - a call that follows a leader has no other way to go.
* `Machine.run_shared` - results are shared in every run.
-/

namespace CatalogBrowser.Cache

variable {ρ α : Type} {source : Source ρ α}

/-- The channel of which a call at this stage takes the result for its own. -/
def Stage.follows? : Stage → Option Channel
  | .awaitingFetch promise true => some (.fetch promise)
  | .awaitingLookup promise true => some (.lookup promise)
  | _ => none

/-- What a call makes of an outcome that it follows. It takes over an error; and of a listing, who
asked for all objects takes the instances in their order, who asked for one takes the instance that
the listing has under its key, and a refresh takes nothing and starts over. -/
def Request.share (request : Request) (c : Cache α) : Outcome → Option Result
  | .fetched (.error error) => some (.error error)
  | .fetched (.ok view) =>
    match request with
    | .all => some (.ok (.objects view.entries))
    | .one identity => some (.ok (.object (view.find? (c.key identity))))
    | .refresh => none
  | .found (.error error) => some (.error error)
  | .found (.ok found) => some (.ok (.object found))

section Poll

variable {c c' : Cache α} {stage : Stage} {channel : Channel} {outcome : Outcome}

theorem Request.share_of_grown (h : Grown c c') (request : Request) (outcome : Outcome) :
    request.share c' outcome = request.share c outcome := by
  cases outcome with
  | found result => cases result <;> rfl
  | fetched result =>
    cases result with
    | error error => rfl
    | ok view =>
      cases request with
      | all | refresh => rfl
      | one identity => rw [Request.share, Request.share, key_eq_of_grown h]

theorem Stage.awaits?_of_follows? (h : stage.follows? = some channel) :
    stage.awaits? = some channel := by
  cases stage with
  | awaitingFetch promise current => cases current <;> first | exact h | cases h
  | awaitingLookup promise current => cases current <;> first | exact h | cases h
  | start | listing | lookingUp => cases h

/-- A call that runs takes what was told through the channel that it follows. -/
theorem poll_of_follows (hfollows : stage.follows? = some channel)
    (houtcome : c.outcome? channel = some outcome) (request : Request) :
    c.poll request stage false = match request.share c outcome with
      | some result => { cache := c, progress := .finished result }
      | none => c.enter request false false := by
  cases stage with
  | awaitingFetch promise current =>
    cases current with
    | false => cases hfollows
    | true =>
      obtain rfl := Option.some.inj hfollows
      obtain ⟨result, hresult, rfl⟩ := Option.map_eq_some_iff.1 houtcome
      simp only [poll, hresult]
      cases result with
      | error error => rfl
      | ok view => cases request <;> rfl
  | awaitingLookup promise current =>
    cases current with
    | false => cases hfollows
    | true =>
      obtain rfl := Option.some.inj hfollows
      obtain ⟨result, hresult, rfl⟩ := Option.map_eq_some_iff.1 houtcome
      simp only [poll, hresult]
      cases result <;> rfl
  | start | listing | lookingUp => cases hfollows

theorem poll_of_cancelled (hawaits : stage.awaits? = some channel) (request : Request) :
    c.poll request stage true = { cache := c, progress := .finished (.error .cancelled) } := by
  cases stage with
  | awaitingFetch | awaitingLookup => rfl
  | start | listing | lookingUp => cases hawaits

end Poll

/-- What a view finds under a key is an entry with that key, and if it finds nothing, there is
none. -/
theorem find?_snapshotOf (source : Source ρ α) (c : Cache α) (entries : List Ref) (complete : Bool)
    (key : Key) :
    (∀ ref, (c.snapshotOf source entries complete).find? key = some ref →
      ref ∈ entries ∧ keyAt (c.objectKey source) c.objects ref = some key) ∧
    ((c.snapshotOf source entries complete).find? key = none →
      ∀ ref ∈ entries, keyAt (c.objectKey source) c.objects ref ≠ some key) := by
  constructor
  · intro ref hfind
    have hkeyed : (key, ref) ∈ keyed (c.objectKey source) c.objects entries :=
      List.mem_reverse.1 (Association.mem_of_lookup hfind)
    exact mem_keyed_iff.1 hkeyed
  · intro hfind ref href hkey
    have hkeyed : (key, ref) ∈ keyed (c.objectKey source) c.objects entries :=
      mem_keyed_iff.2 ⟨href, hkey⟩
    exact Association.lookup_eq_none_iff_not_mem.1 hfind
      (List.mem_map.2 ⟨(key, ref), List.mem_reverse.2 hkeyed, rfl⟩)

namespace Machine

variable {m : Machine α} {action : Action ρ α} {waiter leader : Call} {channel : Channel}
  {outcome : Outcome}

/-- A call has just joined a fetch, or a lookup of its key, that is in flight. It takes its result
for its own just if that is of the present generation. -/
inductive Joins (m : Machine α) (call leader : Call) : Prop
  | fetch {lead : FetchLead} {current : Bool} (joined : call.stage = .awaitingFetch lead.promise
        current)
      (leads : leader.stage = .listing lead)
      (follows : current = true ↔ lead.generation = m.cache.generation)
  | lookup {lead : LookupLead} {identity : Identity} {current : Bool}
      (joined : call.stage = .awaitingLookup lead.promise current)
      (request : call.request = .one identity) (leads : leader.stage = .lookingUp lead)
      (same : lead.key = m.cache.key identity)
      (follows : current = true ↔ lead.generation = m.cache.generation)

/-- Running a call gives it the outcome that it follows, or lets it start over. -/
def Learns (source : Source ρ α) (m : Machine α) (waiter : Call) (outcome : Outcome) : Prop :=
  m.step source (.poll waiter.id) = m.take waiter
    (match waiter.request.share m.cache outcome with
    | some result => { cache := m.cache, progress := .finished result }
    | none => m.cache.enter waiter.request false false)

/-- A leader goes away in a run, and tells an outcome. -/
def Told (source : Source ρ α) (m : Machine α) (leader : Call) (channel : Channel)
    (outcome : Outcome) (actions : List (Action ρ α)) : Prop :=
  ∃ xs action ys, actions = xs ++ action :: ys ∧
    (m.run source xs).machine.Ends source action leader channel outcome

/-- What a leader that goes away is answered, for all that it may tell. -/
inductive Tells (source : Source ρ α) (m : Machine α) (action : Action ρ α) (leader : Call) :
    Outcome → Prop
  /-- It is dropped, and its result is that it was cancelled. -/
  | dropped {outcome : Outcome} (drop : action = .abort leader.id)
      (cancelled : outcome = .fetched (.error .cancelled) ∨ outcome = .found (.error .cancelled)) :
      Tells source m action leader outcome
  /-- Its fetch fails, or it is cancelled. -/
  | failed {error : CacheError}
      (finished : (m.step source action).finished = [(leader.id, .error error)]) :
      Tells source m action leader (.fetched (.error error))
  /-- The remote side lists its records. -/
  | listed {lead : FetchLead} {records : List ρ} {changes : ChangeSet}
      (leads : leader.stage = .listing lead) (answer : action = .listed leader.id (.ok records))
      (finished : (m.step source action).finished = [(leader.id, .ok (replyOf leader.request
        (m.cache.listingView source lead (records.filterMap source.construct)) changes))]) :
      Tells source m action leader
        (.fetched (.ok (m.cache.listingView source lead (records.filterMap source.construct))))
  /-- Its lookup ends in whatever way. -/
  | found {result : LookupResult}
      (finished : (m.step source action).finished = [(leader.id, result.map .object)]) :
      Tells source m action leader (.found result)

/-- How a call that follows a leader fares in a run that began while both were pending. -/
inductive Fares (source : Source ρ α) (m : Machine α) (waiter leader : Call) (channel : Channel)
    (actions : List (Action ρ α)) : Prop
  /-- It waits, and the leader has not told anything yet. -/
  | waits (pending : waiter ∈ (m.run source actions).machine.calls)
      (leads : leader ∈ (m.run source actions).machine.calls)
  /-- The leader has told an outcome, which the call takes as soon as it runs. -/
  | told {outcome : Outcome} (pending : waiter ∈ (m.run source actions).machine.calls)
      (told : m.Told source leader channel outcome actions)
      (learns : (m.run source actions).machine.isCancelled waiter = false →
        (m.run source actions).machine.Learns source waiter outcome)
  /-- It was dropped. -/
  | dropped {xs ys : List (Action ρ α)} (split : actions = xs ++ .abort waiter.id :: ys)
      (pending : waiter ∈ (m.run source xs).machine.calls)
  /-- It was cancelled, and gave up when it ran. -/
  | cancelled {xs ys : List (Action ρ α)} (split : actions = xs ++ .poll waiter.id :: ys)
      (pending : waiter ∈ (m.run source xs).machine.calls)
      (cancelled : (m.run source xs).machine.isCancelled waiter = true)
      (finished : ((m.run source xs).machine.step source (.poll waiter.id)).finished =
        [(waiter.id, .error .cancelled)])
  /-- It took the outcome when it ran. -/
  | learned {xs ys : List (Action ρ α)} {outcome : Outcome}
      (split : actions = xs ++ .poll waiter.id :: ys)
      (pending : waiter ∈ (m.run source xs).machine.calls)
      (told : m.Told source leader channel outcome xs)
      (learns : (m.run source xs).machine.Learns source waiter outcome)

/-- Whoever waits for another call's result waited for it before, or has just joined. -/
theorem Led.joins (h : m.Led) (source : Source ρ α) (action : Action ρ α) {call : Call}
    (hcall : call ∈ (m.step source action).machine.calls)
    (hawaits : call.stage.awaits? = some channel) :
    call ∈ m.calls ∨ ∃ leader ∈ m.calls, m.Joins call leader := by
  cases h.numbered.pends source action hcall with
  | stay pending => exact .inl pending
  | start => cases hawaits
  | @turn mover turn stage pending turned stage? =>
    cases stage with
    | awaitingFetch promise current =>
      rcases turned.joined_fetch stage? with hold | ⟨flight, hflight, rfl, hcurrent⟩
      · rw [← hold]
        exact .inl pending
      · obtain ⟨leader, hleader, lead, hlead, rfl⟩ := h.fetch_eq_some_iff.1 hflight
        exact .inr ⟨leader, hleader, .fetch rfl hlead hcurrent⟩
    | awaitingLookup promise current =>
      rcases turned.joined_lookup stage? with
        hold | ⟨identity, flight, hrequest, hflight, rfl, hcurrent⟩
      · rw [← hold]
        exact .inl pending
      · obtain ⟨leader, hleader, lead, hlead, hkey, rfl⟩ := h.lookup_eq_some_iff.1 hflight
        exact .inr ⟨leader, hleader, .lookup rfl hrequest hlead hkey hcurrent⟩
    | start | listing | lookingUp => cases hawaits

theorem Numbered.learns (h : m.Numbered) (hwaiter : waiter ∈ m.calls)
    (hfollows : waiter.stage.follows? = some channel)
    (houtcome : m.cache.outcome? channel = some outcome)
    (hactive : m.isCancelled waiter = false) : m.Learns source waiter outcome := by
  rw [Learns, h.step_poll source hwaiter, hactive, poll_of_follows hfollows houtcome]

theorem Numbered.take_of_cancelled (h : m.Numbered) (hwaiter : waiter ∈ m.calls)
    (hfollows : waiter.stage.follows? = some channel) (hcancelled : m.isCancelled waiter = true) :
    m.step source (.poll waiter.id) =
      m.take waiter { cache := m.cache, progress := .finished (.error .cancelled) } := by
  rw [h.step_poll source hwaiter, hcancelled,
    poll_of_cancelled (Stage.awaits?_of_follows? hfollows)]

/-- A call that waits for another one does nothing unless it runs or is dropped. -/
theorem Numbered.step_of_awaits (h : m.Numbered) (source : Source ρ α) (hwaiter : waiter ∈ m.calls)
    (hawaits : waiter.stage.awaits? = some channel)
    (hconcerns : action.call? = some waiter.id) :
    m.step source action = { machine := m } ∨ action = .abort waiter.id ∨
      action = .poll waiter.id := by
  cases action with
  | start | cancel | edit => cases hconcerns
  | poll id =>
    obtain rfl := Option.some.inj hconcerns
    exact .inr (.inr rfl)
  | abort id =>
    obtain rfl := Option.some.inj hconcerns
    exact .inr (.inl rfl)
  | listed id answer =>
    obtain rfl := Option.some.inj hconcerns
    refine .inl ?_
    simp only [Machine.step, h.call?_eq hwaiter]
    split
    next lead hstage _ => rw [hstage] at hawaits; cases hawaits
    next => rfl
  | found id answer =>
    obtain rfl := Option.some.inj hconcerns
    refine .inl ?_
    simp only [Machine.step, h.call?_eq hwaiter]
    split
    next lead hstage _ => rw [hstage] at hawaits; cases hawaits
    next => rfl

/-- At any point of a run, a leader still leads or has told an outcome, which stays. -/
theorem Accountable.leads_or_told (h : m.Accountable) (source : Source ρ α)
    (hleader : leader ∈ m.calls)
    (howes : leader.stage.owes? = some channel) (actions : List (Action ρ α)) :
    leader ∈ (m.run source actions).machine.calls ∨ ∃ outcome,
      m.Told source leader channel outcome actions ∧
      (m.run source actions).machine.cache.outcome? channel = some outcome := by
  refine or_iff_not_imp_left.2 fun hgone => ?_
  obtain ⟨xs, action, ys, rfl, hbefore, hafter⟩ :=
    exists_step_of_run (P := fun m => leader ∉ m.calls) (not_not.2 hleader) hgone
  have hthere := h.run source xs
  obtain ⟨outcome, hends⟩ := hthere.exists_ends (not_not.1 hbefore) howes hafter
  refine ⟨outcome, ⟨xs, action, ys, rfl, hends⟩, ?_⟩
  rw [run_append_machine, run_cons_machine]
  exact (hthere.step source action).outcome?_run hends.outcome? ys

/-- While the leader leads, a call that follows it and is not cancelled does nothing. -/
theorem Accountable.step_poll_of_leads (h : m.Accountable) (hwaiter : waiter ∈ m.calls)
    (hfollows : waiter.stage.follows? = some channel) (hleader : leader ∈ m.calls)
    (howes : leader.stage.owes? = some channel) (hactive : m.isCancelled waiter = false) :
    m.step source (.poll waiter.id) = { machine := m } := by
  have hnone := (open_iff.1 (h.open_of_owes hleader howes)).2
  have hwaits : m.cache.waits waiter.stage = true :=
    waits_iff.2 (.inr ⟨channel, Stage.awaits?_of_follows? hfollows, hnone⟩)
  exact h.led.numbered.step_poll_of_rests hwaiter (rests_iff.2 ⟨hwaits, hactive⟩)

/-- A call that follows a leader has no other way to go. -/
theorem Accountable.fares (h : m.Accountable) (source : Source ρ α) (hwaiter : waiter ∈ m.calls)
    (hfollows : waiter.stage.follows? = some channel) (hleader : leader ∈ m.calls)
    (howes : leader.stage.owes? = some channel) (actions : List (Action ρ α)) :
    Fares source m waiter leader channel actions := by
  by_cases hpending : waiter ∈ (m.run source actions).machine.calls
  · rcases h.leads_or_told source hleader howes actions with
      hleads | ⟨outcome, htold, houtcome⟩
    · exact .waits hpending hleads
    · exact .told hpending htold
        ((h.run source actions).led.numbered.learns hpending hfollows houtcome)
  · obtain ⟨xs, action, ys, rfl, hbefore, hafter⟩ :=
      exists_step_of_run (P := fun m => waiter ∉ m.calls) (not_not.2 hwaiter) hpending
    have hthere := h.run source xs
    have hnumbered := hthere.led.numbered
    have hbefore := not_not.1 hbefore
    have hconcerns : action.call? = some waiter.id := by
      by_contra hother
      exact hafter (hnumbered.stay source hbefore hother).1
    rcases hnumbered.step_of_awaits source hbefore
      (Stage.awaits?_of_follows? hfollows) hconcerns with hidle | rfl | rfl
    · rw [hidle] at hafter
      exact absurd hbefore hafter
    · exact .dropped rfl hbefore
    · cases hcancelled : (m.run source xs).machine.isCancelled waiter with
      | true =>
        refine .cancelled rfl hbefore hcancelled ?_
        rw [hnumbered.take_of_cancelled hbefore hfollows hcancelled, take_finished]
      | false =>
        rcases h.leads_or_told source hleader howes xs with
          hleads | ⟨outcome, htold, houtcome⟩
        · rw [hthere.step_poll_of_leads hbefore hfollows hleads howes hcancelled] at hafter
          exact absurd hbefore hafter
        · exact .learned rfl hbefore htold (hnumbered.learns hbefore hfollows houtcome hcancelled)

theorem Numbered.eq_of_id (h : m.Numbered) {call other : Call} (hcall : call ∈ m.calls)
    (hother : other ∈ m.calls) (hid : call.id = other.id) : call = other := by
  have hfound := h.call?_eq hcall
  rw [hid, h.call?_eq hother] at hfound
  exact (Option.some.inj hfound).symm

theorem Numbered.waits_elsewhere (h : m.Numbered) {call : Call} {turn : Turn α}
    (hcall : call ∈ m.calls) (hleft : call ∉ (m.take call turn).machine.calls) :
    turn.progress ≠ .waiting call.stage := by
  intro hprogress
  obtain ⟨before, behind, -, hcalls⟩ := h.take_calls hcall turn
  rw [hcalls, hprogress, Call.mem_moved_iff] at hleft
  exact hleft (.inr ⟨call.stage, rfl, rfl⟩)

/-- A leader that is dropped tells that it was cancelled. -/
theorem abandon_outcome? {c : Cache α} (hsound : leader.Sound c)
    (howes : leader.stage.owes? = some channel) :
    (c.abandon leader.stage).outcome? channel = some (.fetched (.error .cancelled)) ∨
      (c.abandon leader.stage).outcome? channel = some (.found (.error .cancelled)) := by
  cases hstage : leader.stage with
  | listing lead =>
    obtain rfl := Stage.channel_of_listing hstage howes
    exact .inl (outcome?_of_resolveFetch (hsound.listing hstage).1 rfl)
  | lookingUp lead =>
    obtain rfl := Stage.channel_of_lookingUp hstage howes
    exact .inr (outcome?_of_resolveLookup (hsound.lookingUp hstage).1 rfl)
  | start | awaitingFetch | awaitingLookup => rw [hstage] at howes; cases howes

/-- A leader that goes away in a turn is answered what it tells. -/
theorem tells_of_turned {turn : Turn α} (hsound : leader.Sound m.cache)
    (howes : leader.stage.owes? = some channel)
    (hturn : Turned source m.cache leader action turn)
    (hgone : turn.progress ≠ .waiting leader.stage)
    (hstep : m.step source action = m.take leader turn)
    (htold : turn.cache.outcome? channel = some outcome) :
    Tells source m action leader outcome := by
  have hanswer : ∀ {result : Result}, turn.progress = .finished result →
      (m.step source action).finished = [(leader.id, result)] := fun hprogress => by
    rw [hstep, take_finished, hprogress]
  cases hstage : leader.stage with
  | listing lead =>
    obtain rfl := Stage.channel_of_listing hstage howes
    have hmade := (hsound.listing hstage).1
    rcases hturn.listing_ended hstage hgone with
      ⟨error, hcache, hprogress⟩ | ⟨records, haction, hcache, hprogress⟩
    · rw [hcache, outcome?_of_resolveFetch hmade rfl] at htold
      obtain rfl := Option.some.inj htold
      exact .failed (hanswer hprogress)
    · have hresults := (commitFetch_results source m.cache leader.request lead
        (records.filterMap source.construct)).2
      obtain ⟨changes, hreply⟩ := commitFetch_progress source m.cache leader.request lead
        (records.filterMap source.construct)
      rw [hcache, outcome?_of_resolveFetch hmade hresults] at htold
      obtain rfl := Option.some.inj htold
      exact .listed hstage haction (hanswer (hprogress.trans hreply))
  | lookingUp lead =>
    obtain rfl := Stage.channel_of_lookingUp hstage howes
    obtain ⟨result, hresults, hprogress⟩ := hturn.lookingUp_ended hstage hgone
    rw [outcome?_of_resolveLookup (hsound.lookingUp hstage).1 hresults] at htold
    obtain rfl := Option.some.inj htold
    exact .found (hanswer hprogress)
  | start | awaitingFetch | awaitingLookup => rw [hstage] at howes; cases howes

/-- A leader is answered what it tells, unless it is dropped. -/
theorem Accountable.tells (h : m.Accountable)
    (hends : m.Ends source action leader channel outcome) :
    Tells source m action leader outcome := by
  have hnumbered := h.led.numbered
  obtain ⟨hleader, howes, hleft, htold⟩ := hends
  have hsound := h.led.sound leader hleader
  have hconcerns : action.call? = some leader.id := by
    by_contra hother
    exact hleft (hnumbered.stay source hleader hother).1
  rcases step_of_call? source m hconcerns with
    hidle | ⟨call, hcall, hid, ⟨hdrop, hstep⟩ | ⟨turn, hturn, hstep⟩⟩
  · rw [hidle] at hleft
    exact absurd hleader hleft
  · obtain rfl := hnumbered.eq_of_id hcall hleader hid
    refine .dropped hdrop ((abandon_outcome? hsound howes).imp ?_ ?_)
    · intro hcancelled
      rw [hstep] at htold
      exact Option.some.inj (htold.symm.trans hcancelled)
    · intro hcancelled
      rw [hstep] at htold
      exact Option.some.inj (htold.symm.trans hcancelled)
  · obtain rfl := hnumbered.eq_of_id hcall hleader hid
    rw [hstep] at hleft htold
    rw [take_cache] at htold
    exact tells_of_turned hsound howes hturn (hnumbered.waits_elsewhere hcall hleft) hstep htold

theorem Told.append {actions : List (Action ρ α)}
    (h : m.Told source leader channel outcome actions) (rest : List (Action ρ α)) :
    m.Told source leader channel outcome (actions ++ rest) := by
  obtain ⟨xs, action, ys, rfl, hends⟩ := h
  exact ⟨xs, action, ys ++ rest, by rw [List.append_assoc, List.cons_append], hends⟩

theorem Numbered.gone_take (h : m.Numbered) {call : Call} {turn : Turn α} (hcall : call ∈ m.calls)
    (hfinished : turn.progress.stage? = none) : (m.take call turn).machine.Gone call.id where
  lt_started := by
    rw [take_started]
    exact h.lt_started call hcall
  not_pending other hother := by
    obtain ⟨before, behind, hpending, hcalls⟩ := h.take_calls hcall turn
    obtain ⟨hbefore, hbehind⟩ := h.id_ne hpending
    rw [hcalls, hfinished, Call.mem_moved_iff] at hother
    rcases hother with (hother | hother) | ⟨_, hstage, -⟩
    · exact hbefore other hother
    · exact hbehind other hother
    · cases hstage

theorem Numbered.gone_abort (h : m.Numbered) {call : Call} (hcall : call ∈ m.calls) :
    (m.step source (.abort call.id)).machine.Gone call.id where
  lt_started := by
    simp only [Machine.step, h.call?_eq hcall, forget]
    exact h.lt_started call hcall
  not_pending other hother := by
    simp only [Machine.step, h.call?_eq hcall, forget] at hother
    exact of_decide_eq_true (List.mem_filter.1 hother).2

/-- A call that follows a leader is pending until it is gone, unless it starts over. -/
theorem Fares.pending_or_gone (h : m.Accountable) {actions : List (Action ρ α)}
    (hfares : Fares source m waiter leader channel actions) :
    waiter ∈ (m.run source actions).machine.calls ∨
      (m.run source actions).machine.Gone waiter.id ∨ ∃ outcome,
        m.Told source leader channel outcome actions ∧
        waiter.request.share m.cache outcome = none := by
  have hgone : ∀ {xs ys : List (Action ρ α)} {action : Action ρ α}, actions = xs ++ action :: ys →
      ((m.run source xs).machine.step source action).machine.Gone waiter.id →
      (m.run source actions).machine.Gone waiter.id := by
    rintro xs ys action rfl hthere
    rw [run_append_machine, run_cons_machine]
    exact (((h.run source xs).step source action).led.numbered.gone_run hthere source ys)
  cases hfares with
  | waits pending => exact .inl pending
  | told pending => exact .inl pending
  | dropped split pending =>
    exact .inr (.inl (hgone split ((h.run source _).led.numbered.gone_abort pending)))
  | @cancelled xs ys split pending cancelled finished =>
    refine .inr (.inl (hgone split ?_))
    have hnumbered := (h.run source xs).led.numbered
    rw [hnumbered.step_poll source pending] at finished ⊢
    refine hnumbered.gone_take pending ?_
    rw [take_finished] at finished
    split at finished
    next => cases finished
    next result hprogress => rw [hprogress, Progress.stage?]
  | @learned xs ys outcome split pending told learns =>
    cases hshare : waiter.request.share m.cache outcome with
    | none => exact .inr (.inr ⟨outcome, split ▸ told.append _, hshare⟩)
    | some result =>
      refine .inr (.inl (hgone split ?_))
      have hgrown := h.led.numbered.grown_run source xs
      rw [Learns, Request.share_of_grown hgrown, hshare] at learns
      rw [learns]
      exact (h.run source xs).led.numbered.gone_take pending rfl

/-- A call that follows a leader is answered what the leader tells, unless it is cancelled. -/
theorem Accountable.result_of_follows (h : m.Accountable) (hwaiter : waiter ∈ m.calls)
    (hfollows : waiter.stage.follows? = some channel) (hleader : leader ∈ m.calls)
    (howes : leader.stage.owes? = some channel) {actions : List (Action ρ α)} {result : Result}
    (hfinished : (waiter.id, result) ∈ (m.run source actions).finished) :
    (result = .error .cancelled ∧ ∃ xs ys, actions = xs ++ ys ∧
        (m.run source xs).machine.isCancelled waiter = true) ∨
      ∃ outcome, m.Told source leader channel outcome actions ∧
        ∀ given, waiter.request.share m.cache outcome = some given → result = given := by
  obtain ⟨xs, action, ys, rfl, hthere⟩ := exists_step_of_finished hfinished
  have hnumbered := (h.run source xs).led.numbered
  obtain ⟨hconcerns, call, hcall, hid⟩ := hnumbered.pending_of_finished hthere
  rcases (h.fares source hwaiter hfollows hleader howes xs).pending_or_gone h with
    hpending | hgone | ⟨outcome, htold, hshare⟩
  · rcases hnumbered.step_of_awaits source hpending
      (Stage.awaits?_of_follows? hfollows) hconcerns with hidle | rfl | rfl
    · rw [hidle] at hthere
      cases hthere
    · rw [step_abort_finished] at hthere
      cases hthere
    cases hcancelled : (m.run source xs).machine.isCancelled waiter with
    | true =>
      rw [hnumbered.take_of_cancelled hpending hfollows hcancelled, take_finished,
        List.mem_singleton] at hthere
      exact .inl ⟨congrArg Prod.snd hthere, xs, _, rfl, hcancelled⟩
    | false =>
      rcases h.leads_or_told source hleader howes xs with
        hleads | ⟨outcome, htold, houtcome⟩
      · rw [(h.run source xs).step_poll_of_leads hpending hfollows hleads howes hcancelled]
          at hthere
        cases hthere
      · refine .inr ⟨outcome, htold.append _, fun given hgiven => ?_⟩
        have hlearns : (m.run source xs).machine.Learns source waiter outcome :=
          hnumbered.learns hpending hfollows houtcome hcancelled
        have hgrown := h.led.numbered.grown_run source xs
        rw [Learns, Request.share_of_grown hgrown, hgiven] at hlearns
        rw [hlearns, take_finished, List.mem_singleton] at hthere
        exact congrArg Prod.snd hthere
  · exact absurd hid (hgone.not_pending call hcall)
  · refine .inr ⟨outcome, htold.append _, fun given hgiven => ?_⟩
    rw [hshare] at hgiven
    cases hgiven

/-- Results are shared: in the machine as it is, and in whatever comes next. -/
structure Shared (m : Machine α) (source : Source ρ α) : Prop where
  /-- Whoever waits for another call's result from now on joins a fetch in flight, or a lookup of
  its key, and follows it just if that is of the present generation. -/
  joins : ∀ action, ∀ call ∈ (m.step source action).machine.calls, ∀ channel,
    call.stage.awaits? = some channel →
    call ∈ m.calls ∨ ∃ leader ∈ m.calls, m.Joins call leader
  /-- A leader that goes away tells what it is answered itself. -/
  tells : ∀ action leader channel outcome, m.Ends source action leader channel outcome →
    Tells source m action leader outcome
  /-- A view finds under a key the entry of the listing with that key, if there is one. -/
  finds : ∀ lead fresh key,
    (∀ ref, (m.cache.listingView source lead fresh).find? key = some ref →
      ref ∈ (m.cache.listingView source lead fresh).entries ∧
      keyAt (m.cache.objectKey source) (m.cache.listingOf source lead fresh).objects ref =
        some key) ∧
    ((m.cache.listingView source lead fresh).find? key = none →
      ∀ ref ∈ (m.cache.listingView source lead fresh).entries,
        keyAt (m.cache.objectKey source) (m.cache.listingOf source lead fresh).objects ref ≠
          some key)
  /-- A call that follows a leader waits for it, and takes what it tells when it runs, unless it is
  cancelled or dropped. -/
  fares : ∀ waiter ∈ m.calls, ∀ leader ∈ m.calls, ∀ channel,
    waiter.stage.follows? = some channel → leader.stage.owes? = some channel →
    ∀ actions, Fares source m waiter leader channel actions
  /-- It is answered nothing else. -/
  results : ∀ waiter ∈ m.calls, ∀ leader ∈ m.calls, ∀ channel,
    waiter.stage.follows? = some channel → leader.stage.owes? = some channel →
    ∀ actions result, (waiter.id, result) ∈ (m.run source actions).finished →
      (result = .error .cancelled ∧ ∃ xs ys, actions = xs ++ ys ∧
        (m.run source xs).machine.isCancelled waiter = true) ∨
      ∃ outcome, m.Told source leader channel outcome actions ∧
        ∀ given, waiter.request.share m.cache outcome = some given → result = given

theorem Accountable.shared (h : m.Accountable) (source : Source ρ α) : m.Shared source where
  joins action _ hcall _ hawaits := h.led.joins source action hcall hawaits
  tells _ _ _ _ hends := h.tells hends
  finds _ _ key := find?_snapshotOf source _ _ _ key
  fares _ hwaiter _ hleader _ hfollows howes := h.fares source hwaiter hfollows hleader howes
  results _ hwaiter _ hleader _ hfollows howes _ _ :=
    h.result_of_follows hwaiter hfollows hleader howes

/-- In every run, all that follow a leader share its result. -/
theorem run_shared (source : Source ρ α) (config : Config) (monitors : Monitors)
    (actions : List (Action ρ α)) :
    ((new config monitors).run source actions).machine.Shared source :=
  (accountable_run source config monitors actions).shared source

end Machine

section Items

open Scripted Machine

/-- Three calls wait for the listing under way: one asks for all items, one for a single item, and
one for a refresh. -/
def attachedCalls : List (Action Item Item) :=
  listingUnderWay ++ [.start .all ⟨1, [], 0⟩, .poll 1, .start (.one (.id 2)) ⟨2, [], 0⟩, .poll 2,
    .start .refresh ⟨3, [], 0⟩, .poll 3]

/-- The cache is cleared before they learn what was listed. -/
def clearedMeanwhile : List (Action Item Item) :=
  [.listed 0 (.ok [.withId 1 5, .withId 2 6]), .edit .clear, .poll 1, .poll 2, .poll 3]

/-- The call that leads the listing. -/
def listingCall : Call :=
  { id := 0, monitor := ⟨0, [], 0⟩, request := .all, stage := .listing ⟨0, 0, .empty⟩ }

/-- The calls that wait are given the instances that were listed, though the cache has none of them
any more, and the refresh leads a listing of its own. -/
theorem run_shared_cleared :
    let m := ((new {}).run (Item.source Item.merge) attachedCalls).machine
    let later := m.run (Item.source Item.merge) clearedMeanwhile
    later.finished = [(0, .ok (.objects [0, 1])), (1, .ok (.objects [0, 1])),
        (2, .ok (.object (some 1)))] ∧
      later.machine.cache.snapshot.entries = [] ∧
      later.machine.calls.map (fun call => (call.id, call.stage)) =
        [(3, .listing ⟨1, 1, .empty⟩)] ∧
      m.calls.map (·.request) = [.all, .all, .one (.id 2), .refresh] ∧
      ∀ waiter ∈ m.calls.tail, Fares (Item.source Item.merge) m waiter listingCall (.fetch 0)
          clearedMeanwhile ∧
        ∀ reply, (waiter.id, .ok reply) ∈ later.finished → ∃ outcome,
          m.Told (Item.source Item.merge) listingCall (.fetch 0) outcome clearedMeanwhile ∧
            ∀ given, waiter.request.share m.cache outcome = some given → .ok reply = given := by
  intro m later
  have hshared : m.Shared (Item.source Item.merge) :=
    run_shared (Item.source Item.merge) {} {} attachedCalls
  have hleads : listingCall ∈ m.calls := by decide +kernel
  have hfollows : ∀ waiter ∈ m.calls.tail, waiter.stage.follows? = some (.fetch 0) := by
    decide +kernel
  refine ⟨by decide +kernel, by decide +kernel, by decide +kernel, by decide +kernel,
    fun waiter hwaiter => ⟨?_, fun reply hreply => ?_⟩⟩
  · exact hshared.fares waiter (List.mem_of_mem_tail hwaiter) listingCall hleads (.fetch 0)
      (hfollows waiter hwaiter) rfl clearedMeanwhile
  · exact (hshared.results waiter (List.mem_of_mem_tail hwaiter) listingCall hleads (.fetch 0)
      (hfollows waiter hwaiter) rfl clearedMeanwhile (.ok reply) hreply).resolve_left
        fun hcancelled => nomatch hcancelled.1

end Items

end CatalogBrowser.Cache
