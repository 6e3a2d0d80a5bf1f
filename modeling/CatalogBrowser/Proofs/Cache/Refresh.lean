import CatalogBrowser.Proofs.Cache.Invalidation
import CatalogBrowser.Proofs.Cache.Notification
import CatalogBrowser.Proofs.Cache.Sharing

/-!
# What a refresh does

A refresh never takes the listing of another call: it waits until the listing in flight has ended,
as often as it takes, and then asks for one of its own. If it succeeds, it asked just once. When the
answer arrives and the collection was not invalidated since the question, the answer is merged into
the entries of that moment, and everything that follows from it happens in the same step; otherwise
nobody notices the answer, and the refresh reports no changes.

## Main definitions

* `Action.Invalidates` - an action that starts a new generation.
* `Reconciled` - what accepting the listing of a refresh does to a cache.
* `Machine.asks` - what a call asks the remote side in a run.
* `Machine.Moves` - how a pending call can fare in an action.
* `Machine.Heads`, `Machine.Awaits` - how a refresh fares before and after it asks.
* `Machine.Accepted`, `Machine.Refreshed` - a listing that is accepted, a refresh that succeeds.

## Main statements

* `reconciled_commitFetch` - an accepted listing is published, evicts, and is told, in one step.
* `Machine.Led.heads`, `Machine.Led.awaits` - a refresh fares in no other way.
* `Machine.Led.leadsUntil` - a refresh that leads and succeeds has its listing accepted.
* `Machine.LeadsUntil.accepted` - the two ways in which that happens.
* `Machine.Led.refreshed` - how a refresh comes to succeed.
* `Machine.run_refreshed` - every refresh that succeeds, and everything that the listener is told.
-/

namespace CatalogBrowser.Cache

variable {ρ α : Type} {source : Source ρ α}

/-- An action that starts a new generation. -/
def Action.Invalidates : Action ρ α → Prop
  | .edit operation => operation.Invalidates
  | _ => False

/-- What accepting the listing of a refresh does to a cache `c`, between `c` and `c'` with `events`:
the listing is merged into the entries that `c` has, and after the evictions the listener is told,
when the outcome can be read from memory. -/
structure Reconciled (source : Source ρ α) (c : Cache α) (fresh : List α) (changes : ChangeSet)
    (c' : Cache α) (events : List (Event α)) : Prop where
  merged : changes = (c.merged source fresh).changes
  published : c'.snapshot = c.mergedView source fresh
  loaded : c'.freshness = .loaded
  cached : c'.cachedObjects = (c.merged source fresh).entries
  told : ∃ reports, events = reports ++ [.notified changes c'.cachedObjects c'.objects] ∧
    evictions reports = changes.removed ∧ notices reports = []

section Turn

variable {c : Cache α} {call : Call} {action : Action ρ α} {turn : Turn α}

/-- No turn starts a new generation. -/
theorem Turned.generation (hturn : Turned source c call action turn) :
    turn.cache.generation = c.generation := by
  cases hturn with
  | @listed lead records =>
    rw [Turn.after]
    by_cases hgeneration : c.generation = lead.generation
    · rw [commitFetch_of_current hgeneration]
    · rw [commitFetch_of_outdated hgeneration]
  | _ => rfl

theorem generation_of_not_invalidates {edit : Edit α} (h : ¬ edit.Invalidates) :
    (edit.apply source c).2.1.generation = c.generation := by
  cases edit with
  | set | clear => exact absurd trivial h
  | insert object =>
    simp only [Edit.apply, insert]
    cases c.snapshot.find? (c.objectKey source object) <;> rfl
  | remove identity =>
    simp only [Edit.apply, remove]
    cases c.cachedObject? identity <;> rfl
  | reconcile | sort | change => rfl

/-- What a reconciliation removes was made. -/
theorem Founded.evictions_removed (h : c.Founded) (fresh : List α) :
    evictions (evict source (c.merged source fresh).objects
      (c.merged source fresh).changes.removed).2 = (c.merged source fresh).changes.removed := by
  refine evictions_evict source fun ref href => ?_
  rcases mem_reconcile_changes (.inr (.inl href)) with hold | ⟨-, hnew⟩
  · exact Nat.lt_of_lt_of_le (h ref (mem_refs_of_mem_entries hold)) (reconcile_size ..)
  · exact hnew

/-- An accepted listing is published, evicts what it removes, and is told to the listener. -/
theorem reconciled_commitFetch (h : c.Founded) {lead : FetchLead}
    (hgeneration : c.generation = lead.generation) (fresh : List α) {events : List (Event α)}
    (hnotes : Notes events) :
    let turn := (c.commitFetch source .refresh lead fresh).after events
    Reconciled source c fresh (c.merged source fresh).changes turn.cache turn.events := by
  intro turn
  have hcache : turn.cache = _ := commitFetch_of_current hgeneration
  have hcached : turn.cache.cachedObjects = (c.merged source fresh).entries := by
    rw [hcache]
    rfl
  obtain ⟨reports, hevents, hnotices, hevictions⟩ :=
    commitFetch_events_of_refresh source fresh hgeneration
  refine ⟨rfl, by rw [hcache], by rw [hcache], hcached, events ++ reports, ?_, ?_, ?_⟩
  · show events ++ (c.commitFetch source .refresh lead fresh).events = _
    rw [hevents, List.append_assoc]
    rfl
  · rw [evictions_append, hnotes.evictions, List.nil_append, hevictions, h.evictions_removed]
  · rw [notices_append, hnotes.notices, hnotices]
    rfl

/-- A refresh that has not asked yet waits, asks for a listing while no fetch is in flight, or
fails. -/
theorem Turned.refresh (hturn : Turned source c call action turn) (hsound : call.Sound c)
    (hrequest : call.request = .refresh) (hearly : call.stage.isRemote = false) :
    (∃ stage, turn.progress = .waiting stage ∧ stage.isRemote = false ∧
      questions turn.events = []) ∨
    (turn.progress = .waiting (.listing c.nextFetch) ∧ c.fetch = none ∧
      turn.cache = c.withFetch ∧ questions turn.events = [.listing]) ∨
    ∃ error, turn.progress = .finished (.error error) ∧ questions turn.events = [] := by
  have hremote : ∀ {p : Prop}, call.stage.isRemote = true → p := fun hstage => by
    rw [hstage] at hearly
    cases hearly
  cases hturn with
  | rest => exact .inl ⟨_, rfl, hearly, rfl⟩
  | joinFetch _ _ hnotes => exact .inl ⟨_, rfl, rfl, hnotes.questions⟩
  | leadFetch _ _ hidle _ hnotes =>
    exact .inr (.inl ⟨rfl, hidle, rfl, hnotes.questions_append rfl⟩)
  | quit _ hnotes | tryFetch _ _ hnotes | tryLookup _ _ hnotes =>
    exact .inr (.inr ⟨_, rfl, hnotes.questions⟩)
  | @learnFetch _ promise result _ _ hlearns =>
    cases result with
    | error error => exact .inr (.inr ⟨error, rfl, rfl⟩)
    | ok view => exact absurd rfl (hlearns hrequest view)
  | remember _ hrecalls =>
    rw [hrequest] at hrecalls
    cases hrecalls
  | learnLookup hstage =>
    rw [Call.Sound, hstage] at hsound
    obtain ⟨-, identity, hone⟩ := hsound
    rw [hrequest] at hone
    cases hone
  | joinLookup _ hone | leadLookup _ hone =>
    rw [hrequest] at hone
    cases hone
  | failFetch hstage | listed hstage => exact hremote (by rw [hstage]; rfl)
  | failLookup hstage | absent hstage | present hstage => exact hremote (by rw [hstage]; rfl)
  | handOut hstage | keep hstage => exact hremote (by rw [hstage]; rfl)

/-- A refresh that leads keeps waiting, fails, or accepts its listing. -/
theorem Turned.led_refresh (hturn : Turned source c call action turn) {lead : FetchLead}
    (hstage : call.stage = .listing lead) :
    (turn.progress = .waiting call.stage ∧ questions turn.events = []) ∨
    (∃ error, turn.progress = .finished (.error error) ∧ questions turn.events = []) ∨
    ∃ records events, action = .listed call.id (.ok records) ∧ Notes events ∧
      turn = (c.commitFetch source call.request lead
        (records.filterMap source.construct)).after events := by
  have hlocal : ∀ {p : Prop}, call.stage.isRemote = false → p := fun hearly => by
    rw [hstage] at hearly
    cases hearly
  have hother : ∀ {p : Prop} {stage : Stage}, call.stage = stage → stage ≠ .listing lead → p :=
    fun heq hne => absurd (heq.symm.trans hstage) hne
  cases hturn with
  | rest => exact .inl ⟨rfl, rfl⟩
  | failFetch _ hnotes => exact .inr (.inl ⟨_, rfl, hnotes.questions⟩)
  | @listed lead' records events hstage' hnotes =>
    obtain rfl := Stage.listing.inj (hstage'.symm.trans hstage)
    exact .inr (.inr ⟨records, events, rfl, hnotes, rfl⟩)
  | quit hearly | remember hearly | joinFetch hearly | joinLookup hearly => exact hlocal hearly
  | leadFetch hearly | leadLookup hearly | tryFetch hearly | tryLookup hearly => exact hlocal hearly
  | learnFetch heq | learnLookup heq | failLookup heq | absent heq => exact hother heq nofun
  | present heq | handOut heq | keep heq => exact hother heq nofun

end Turn

namespace Machine

variable {m : Machine α} {action : Action ρ α} {id : Nat}

section Generations

theorem Numbered.generation_step (h : m.Numbered) (source : Source ρ α)
    (haction : ¬ action.Invalidates) :
    (m.step source action).machine.cache.generation = m.cache.generation := by
  cases h.stepped source action with
  | idle cache => rw [cache]
  | start _ _ cache => rw [cache]
  | turn _ turned _ cache => rw [cache, turned.generation]
  | edit edit same cache =>
    rw [cache]
    exact generation_of_not_invalidates fun hedit => haction (same ▸ hedit)

theorem Numbered.generation_run (h : m.Numbered) (source : Source ρ α)
    {actions : List (Action ρ α)} (hactions : ∀ action ∈ actions, ¬ action.Invalidates) :
    (m.run source actions).machine.cache.generation = m.cache.generation := by
  induction actions generalizing m with
  | nil => rfl
  | cons action rest ih =>
    obtain ⟨hfirst, hrest⟩ := List.forall_mem_cons.1 hactions
    exact (ih (h.step source action) hrest).trans (h.generation_step source hfirst)

/-- An invalidation is never taken back. -/
theorem Numbered.generation_lt_run (h : m.Numbered) (source : Source ρ α)
    {actions : List (Action ρ α)} (hactions : ∃ action ∈ actions, action.Invalidates) :
    m.cache.generation < (m.run source actions).machine.cache.generation := by
  obtain ⟨action, hmem, hinvalidates⟩ := hactions
  obtain ⟨xs, ys, rfl⟩ := List.append_of_mem hmem
  have hthere := numbered_run source h xs
  have hbefore := (h.grown_run source xs).generation
  have hafter := ((hthere.step source action).grown_run source ys).generation
  rw [run_append_machine, run_cons_machine]
  cases action with
  | edit edit =>
    have hnext : ((m.run source xs).machine.step source (.edit edit)).machine.cache.generation =
        (m.run source xs).machine.cache.generation + 1 := generation_of_invalidates hinvalidates
    omega
  | start | poll | listed | found | abort | cancel => exact hinvalidates.elim

end Generations

section Asks

/-- What an action asks the remote side on behalf of a call. -/
def asksFor (source : Source ρ α) (id : Nat) (m : Machine α) (action : Action ρ α) :
    List (Event α) :=
  if action.call? = some id then questions (m.step source action).events else []

/-- What a call asks the remote side in a run. -/
def asks (source : Source ρ α) (id : Nat) (m : Machine α) : List (Action ρ α) → List (Event α)
  | [] => []
  | action :: rest =>
    m.asksFor source id action ++ (m.step source action).machine.asks source id rest

theorem asksFor_eq_nil (h : action.call? = some id → questions (m.step source action).events = []) :
    m.asksFor source id action = [] := by
  rw [asksFor]
  split
  next hconcerns => exact h hconcerns
  next => rfl

/-- A call that is gone asks nothing, and is not answered. -/
theorem Gone.step (h : m.Gone id) (source : Source ρ α) (hconcerns : action.call? = some id) :
    m.step source action = { machine := m } := by
  rcases step_of_call? source m hconcerns with hidle | ⟨call, hcall, hid, -⟩
  · exact hidle
  · exact absurd hid (h.not_pending call hcall)

theorem Numbered.asks_of_gone (h : m.Numbered) (hgone : m.Gone id) (source : Source ρ α)
    (actions : List (Action ρ α)) : m.asks source id actions = [] := by
  induction actions generalizing m with
  | nil => rfl
  | cons action rest ih =>
    have hquiet : m.asksFor source id action = [] := asksFor_eq_nil fun hconcerns => by
      rw [hgone.step source hconcerns]
      rfl
    rw [asks, hquiet, ih (h.step source action) (h.gone_step source action hgone)]
    rfl

theorem Numbered.not_finished_of_gone (h : m.Numbered) (hgone : m.Gone id) (source : Source ρ α)
    (actions : List (Action ρ α)) (result : Result) :
    (id, result) ∉ (m.run source actions).finished := by
  intro hfinished
  obtain ⟨xs, action, ys, -, hthere⟩ := exists_step_of_finished hfinished
  have hnumbered := numbered_run source h xs
  obtain ⟨-, call, hcall, hid⟩ := hnumbered.pending_of_finished hthere
  exact (h.gone_run hgone source xs).not_pending call hcall hid

end Asks

section Fares

/-- How a pending call can fare in an action. -/
inductive Moves (source : Source ρ α) (m : Machine α) (action : Action ρ α) (call : Call) : Prop
  /-- Nothing happens to it. -/
  | stays (pending : call ∈ (m.step source action).machine.calls)
      (quiet : m.asksFor source call.id action = [])
      (unanswered : ∀ result, (call.id, result) ∉ (m.step source action).finished)
  /-- It is dropped. -/
  | dropped (gone : (m.step source action).machine.Gone call.id)
      (quiet : m.asksFor source call.id action = [])
      (unanswered : ∀ result, (call.id, result) ∉ (m.step source action).finished)
  /-- It has a turn. -/
  | turn {turn : Turn α} (concerns : action.call? = some call.id)
      (turned : Turned source m.cache call action turn)
      (taken : m.step source action = m.take call turn)

theorem Numbered.moves (h : m.Numbered) (source : Source ρ α) (action : Action ρ α) {call : Call}
    (hcall : call ∈ m.calls) : Moves source m action call := by
  by_cases hconcerns : action.call? = some call.id
  · rcases step_of_call? source m hconcerns with hidle | ⟨other, hother, hid, hmoved⟩
    · refine .stays (hidle ▸ hcall) (asksFor_eq_nil fun _ => ?_) ?_
      · rw [hidle]
        rfl
      · simp [hidle]
    · obtain rfl := h.eq_of_id hother hcall hid
      rcases hmoved with ⟨rfl, hdropped⟩ | ⟨turn, hturn, htaken⟩
      · refine .dropped (h.gone_abort hcall) (asksFor_eq_nil fun _ => ?_) ?_
        · rw [hdropped]
          rfl
        · simp [step_abort_finished]
      · exact .turn hconcerns hturn htaken
  · obtain ⟨hstays, hunanswered⟩ := h.stay source hcall hconcerns
    exact .stays hstays (if_neg hconcerns) hunanswered

variable {call : Call} {lead : FetchLead} {turn : Turn α}

theorem Numbered.mem_take (h : m.Numbered) (hcall : call ∈ m.calls) {stage : Stage}
    (hprogress : turn.progress = .waiting stage) :
    ({ call with stage } : Call) ∈ (m.take call turn).machine.calls := by
  obtain ⟨before, behind, -, hcalls⟩ := h.take_calls hcall turn
  rw [hcalls, Call.mem_moved_iff]
  exact .inr ⟨stage, by rw [hprogress, Progress.stage?], rfl⟩

theorem asksFor_of_taken (htaken : m.step source action = m.take call turn)
    (hquiet : questions turn.events = []) : m.asksFor source id action = [] :=
  asksFor_eq_nil fun _ => by rw [htaken, take_events, hquiet]

/-- How a refresh that has not asked yet can fare in an action. -/
inductive Heads (source : Source ρ α) (m : Machine α) (action : Action ρ α) (id : Nat) : Prop
  /-- It still has not asked. -/
  | waits {call : Call} (pending : call ∈ (m.step source action).machine.calls)
      (same : call.id = id) (request : call.request = .refresh)
      (early : call.stage.isRemote = false) (quiet : m.asksFor source id action = [])
      (unanswered : ∀ result, (id, result) ∉ (m.step source action).finished)
  /-- It asks for a listing, while no fetch is in flight. -/
  | asks {call : Call} {lead : FetchLead}
      (pending : call ∈ (m.step source action).machine.calls) (same : call.id = id)
      (request : call.request = .refresh) (stage : call.stage = .listing lead)
      (current : lead.generation = (m.step source action).machine.cache.generation)
      (concerns : action.call? = some id) (idle : m.cache.fetch = none)
      (asked : questions (m.step source action).events = [.listing])
      (unanswered : ∀ result, (id, result) ∉ (m.step source action).finished)
  /-- It goes away without success. -/
  | fails (gone : (m.step source action).machine.Gone id)
      (quiet : m.asksFor source id action = [])
      (failed : ∀ reply, (id, .ok reply) ∉ (m.step source action).finished)

/-- A refresh that has not asked yet fares in no other way. -/
theorem Led.heads (h : m.Led) (source : Source ρ α) (action : Action ρ α) (hcall : call ∈ m.calls)
    (hrequest : call.request = .refresh) (hearly : call.stage.isRemote = false) :
    Heads source m action call.id := by
  cases h.numbered.moves source action hcall with
  | stays pending quiet unanswered => exact .waits pending rfl hrequest hearly quiet unanswered
  | dropped gone quiet unanswered => exact .fails gone quiet fun reply => unanswered (.ok reply)
  | @turn turn concerns turned taken =>
    rcases turned.refresh (h.sound call hcall) hrequest hearly with
      ⟨stage, hprogress, hlocal, hquiet⟩ | ⟨hprogress, hidle, hcache, hasked⟩ |
      ⟨error, hprogress, hquiet⟩
    · have hpending := h.numbered.mem_take hcall hprogress
      rw [← taken] at hpending
      refine .waits hpending rfl hrequest hlocal (asksFor_of_taken taken hquiet) ?_
      simp [taken, take_finished, hprogress]
    · have hpending := h.numbered.mem_take hcall hprogress
      rw [← taken] at hpending
      refine .asks hpending rfl hrequest rfl ?_ concerns hidle ?_ ?_
      · rw [taken, take_cache, hcache]
        rfl
      · rw [taken, take_events, hasked]
      · simp [taken, take_finished, hprogress]
    · have hgone : (m.take call turn).machine.Gone call.id :=
        h.numbered.gone_take hcall (by rw [hprogress, Progress.stage?])
      refine .fails (taken ▸ hgone) (asksFor_of_taken taken hquiet) ?_
      simp [taken, take_finished, hprogress]

/-- How a refresh that leads can fare in an action. -/
inductive Awaits (source : Source ρ α) (m : Machine α) (action : Action ρ α) (call : Call)
    (lead : FetchLead) : Prop
  /-- It still leads. -/
  | leads (pending : call ∈ (m.step source action).machine.calls)
      (quiet : m.asksFor source call.id action = [])
      (unanswered : ∀ result, (call.id, result) ∉ (m.step source action).finished)
  /-- Its listing is accepted. -/
  | accepts {records : List ρ} {events : List (Event α)}
      (same : action = .listed call.id (.ok records)) (notes : Notes events)
      (taken : m.step source action = m.take call ((m.cache.commitFetch source call.request lead
        (records.filterMap source.construct)).after events))
  /-- It goes away without success. -/
  | fails (gone : (m.step source action).machine.Gone call.id)
      (quiet : m.asksFor source call.id action = [])
      (failed : ∀ reply, (call.id, .ok reply) ∉ (m.step source action).finished)

/-- A refresh that leads fares in no other way. -/
theorem Led.awaits (h : m.Led) (source : Source ρ α) (action : Action ρ α) (hcall : call ∈ m.calls)
    (hstage : call.stage = .listing lead) : Awaits source m action call lead := by
  cases h.numbered.moves source action hcall with
  | stays pending quiet unanswered => exact .leads pending quiet unanswered
  | dropped gone quiet unanswered => exact .fails gone quiet fun reply => unanswered (.ok reply)
  | @turn turn concerns turned taken =>
    rcases turned.led_refresh hstage with
      ⟨hprogress, hquiet⟩ | ⟨error, hprogress, hquiet⟩ | ⟨records, events, rfl, hnotes, rfl⟩
    · have hpending := h.numbered.mem_take hcall hprogress
      rw [← taken] at hpending
      refine .leads hpending (asksFor_of_taken taken hquiet) ?_
      simp [taken, take_finished, hprogress]
    · have hgone : (m.take call turn).machine.Gone call.id :=
        h.numbered.gone_take hcall (by rw [hprogress, Progress.stage?])
      refine .fails (taken ▸ hgone) (asksFor_of_taken taken hquiet) ?_
      simp [taken, take_finished, hprogress]
    · exact .accepts rfl hnotes taken

end Fares

/-- A call leads a fetch until its listing is accepted, after `between`. -/
structure LeadsUntil (source : Source ρ α) (m : Machine α) (call : Call) (lead : FetchLead)
    (between : List (Action ρ α)) (records : List ρ) : Prop where
  pending : ∀ zs ws, between = zs ++ ws → call ∈ (m.run source zs).machine.calls
  taken : ∃ events, Notes events ∧
    (m.run source between).machine.step source (.listed call.id (.ok records)) =
      (m.run source between).machine.take call
        (((m.run source between).machine.cache.commitFetch source call.request lead
          (records.filterMap source.construct)).after events)

/-- A refresh that leads and succeeds has its listing accepted, and asks nothing more. -/
theorem Led.leadsUntil (h : m.Led) {call : Call} {lead : FetchLead} (hcall : call ∈ m.calls)
    (hstage : call.stage = .listing lead) {ys : List (Action ρ α)} {reply : Reply}
    (hfinished : (call.id, .ok reply) ∈ (m.run source ys).finished) :
    ∃ between records after, ys = between ++ .listed call.id (.ok records) :: after ∧
      LeadsUntil source m call lead between records ∧ m.asks source call.id ys = [] ∧
      (call.id, .ok reply) ∈ ((m.run source between).machine.step source
        (.listed call.id (.ok records))).finished := by
  -- while it leads it is not answered, and once it is gone it never is again
  induction ys generalizing m with
  | nil => cases hfinished
  | cons action rest ih =>
    have hled := h.step source action
    cases h.awaits source action hcall hstage with
    | leads pending quiet unanswered =>
      have hlater := (List.mem_append.1 hfinished).resolve_left (unanswered _)
      obtain ⟨between, records, after, rfl, hleads, hasks, hanswered⟩ := ih hled pending hlater
      refine ⟨action :: between, records, after, rfl, ⟨?_, hleads.taken⟩, ?_, hanswered⟩
      · intro zs ws hsplit
        cases zs with
        | nil => exact hcall
        | cons first zs =>
          obtain ⟨rfl, rfl⟩ := List.cons.inj hsplit
          exact hleads.pending zs ws rfl
      · rw [asks, quiet, hasks]
        rfl
    | @accepts records events same notes taken =>
      subst same
      have hgone : (m.step source (.listed call.id (.ok records))).machine.Gone call.id := by
        rw [taken]
        exact h.numbered.gone_take hcall (commitFetch_stage? ..)
      have hquiet : m.asksFor source call.id (.listed call.id (.ok records)) = [] := by
        refine asksFor_of_taken taken ?_
        rw [Turn.after, questions_append, notes.questions, questions_commitFetch]
        rfl
      have hanswered := (List.mem_append.1 hfinished).resolve_right
        (hled.numbered.not_finished_of_gone hgone source rest _)
      refine ⟨[], records, rest, rfl, ⟨?_, events, notes, taken⟩, ?_, hanswered⟩
      · intro zs ws hsplit
        obtain ⟨rfl, -⟩ := List.append_eq_nil_iff.1 hsplit.symm
        exact hcall
      · rw [asks, hquiet, hled.numbered.asks_of_gone hgone]
        rfl
    | fails gone quiet failed =>
      rcases List.mem_append.1 hfinished with hfirst | hlater
      · exact absurd hfirst (failed reply)
      · exact absurd hlater (hled.numbered.not_finished_of_gone gone source rest _)

/-- A refresh that leads in `m` has its listing accepted after `between`. The answer is reconciled
with the collection, in one step, unless the collection was invalidated meanwhile; in that case
nobody notices it. -/
structure Accepted (source : Source ρ α) (m : Machine α) (id : Nat) (between : List (Action ρ α))
    (records : List ρ) (changes : ChangeSet) : Prop where
  leads : ∀ zs ws, between = zs ++ ws → ∃ call ∈ (m.run source zs).machine.calls,
    ∃ lead, call.id = id ∧ call.stage = .listing lead
  answered : ((m.run source between).machine.step source (.listed id (.ok records))).finished =
    [(id, .ok (.changes changes))]
  committed : (∀ action ∈ between, ¬ action.Invalidates) →
    let there := (m.run source between).machine
    let moved := there.step source (.listed id (.ok records))
    there.commit? source (.listed id (.ok records)) = some changes ∧
      Reconciled source there.cache (records.filterMap source.construct) changes
        moved.machine.cache moved.events
  discarded : (∃ action ∈ between, action.Invalidates) →
    let there := (m.run source between).machine
    let moved := there.step source (.listed id (.ok records))
    there.commit? source (.listed id (.ok records)) = none ∧ changes = {} ∧
      Unnoticed there.cache moved.machine.cache moved.events

section Accepted

variable {call : Call} {lead : FetchLead} {between : List (Action ρ α)} {records : List ρ}

theorem LeadsUntil.mem_calls (hleads : LeadsUntil source m call lead between records) :
    call ∈ (m.run source between).machine.calls :=
  hleads.pending between [] (List.append_nil _).symm

theorem LeadsUntil.active (hleads : LeadsUntil source m call lead between records)
    (h : m.Numbered) : (m.run source between).machine.isCancelled call = false := by
  obtain ⟨events, -, htaken⟩ := hleads.taken
  rw [Bool.eq_false_iff]
  intro hcancelled
  have hidle := (numbered_run source h between).step_listed_of_cancelled source hleads.mem_calls
    hcancelled (.ok records)
  have hfinished := congrArg Moved.finished (htaken.symm.trans hidle)
  obtain ⟨changes, hprogress⟩ := commitFetch_progress source
    (m.run source between).machine.cache call.request lead (records.filterMap source.construct)
  rw [take_finished, Turn.after, hprogress] at hfinished
  cases hfinished

/-- What a refresh commits when its listing is accepted. -/
theorem LeadsUntil.commit?_eq (hleads : LeadsUntil source m call lead between records)
    (h : m.Numbered) (hrequest : call.request = .refresh) (hstage : call.stage = .listing lead) :
    (m.run source between).machine.commit? source (.listed call.id (.ok records)) =
      if (m.run source between).machine.cache.generation = lead.generation then
        some ((m.run source between).machine.cache.merged source
          (records.filterMap source.construct)).changes
      else none :=
  (numbered_run source h between).commit?_listed source hleads.mem_calls hstage hrequest
    (hleads.active h) records

/-- The listing that a refresh leads is accepted in one of two ways. -/
theorem LeadsUntil.accepted (hleads : LeadsUntil source m call lead between records) (h : m.Led)
    (hfounded : (m.run source between).machine.cache.Founded) (hrequest : call.request = .refresh)
    (hstage : call.stage = .listing lead) (hcurrent : lead.generation = m.cache.generation) :
    ∃ changes, Accepted source m call.id between records changes := by
  have hpending : ∀ zs ws, between = zs ++ ws → ∃ other ∈ (m.run source zs).machine.calls,
      ∃ lead, other.id = call.id ∧ other.stage = .listing lead := fun zs ws hsplit =>
    ⟨call, hleads.pending zs ws hsplit, lead, rfl, hstage⟩
  have hcommit := hleads.commit?_eq h.numbered hrequest hstage
  obtain ⟨events, hnotes, htaken⟩ := hleads.taken
  rw [hrequest] at htaken
  by_cases hgeneration : (m.run source between).machine.cache.generation = lead.generation
  · rw [if_pos hgeneration] at hcommit
    refine ⟨_, hpending, ?_, fun _ => ⟨hcommit, ?_⟩, fun hinvalidated => ?_⟩
    · rw [htaken, take_finished, Turn.after, commitFetch_progress_of_current hgeneration]
      rfl
    · rw [htaken, take_cache, take_events]
      exact reconciled_commitFetch hfounded hgeneration _ hnotes
    · have hlt := h.numbered.generation_lt_run source hinvalidated
      omega
  · rw [if_neg hgeneration] at hcommit
    refine ⟨{}, hpending, ?_, fun hkept => ?_, fun _ => ⟨hcommit, rfl, ?_⟩⟩
    · rw [htaken, take_finished, Turn.after, commitFetch_progress_of_outdated hgeneration]
      rfl
    · have heq := h.numbered.generation_run source hkept
      exact absurd (heq.trans hcurrent.symm) hgeneration
    · have hturned : Turned source (m.run source between).machine.cache call
          (.listed call.id (.ok records)) _ := .listed hstage hnotes
      have houtdated : call.Outdated (m.run source between).machine.cache := by
        rw [Call.Outdated, hstage]
        exact Ne.symm hgeneration
      rw [htaken, take_cache, take_events, ← hrequest]
      exact hturned.unnoticed houtdated

end Accepted

/-- A refresh that succeeds: it asks for a listing once all others have ended, and the listing is
accepted. -/
structure Refreshed (source : Source ρ α) (m : Machine α) (id : Nat) (before : List (Action ρ α))
    (ask : Action ρ α) (between : List (Action ρ α)) (records : List ρ) (changes : ChangeSet) :
    Prop where
  idle : ¬ (m.run source before).machine.Lists
  concerns : ask.call? = some id
  asked : questions ((m.run source before).machine.step source ask).events = [.listing]
  accepted : Accepted source ((m.run source before).machine.step source ask).machine id between
    records changes

/-- How a refresh comes to succeed. It asks nothing but the one listing. -/
theorem Led.refreshed (h : m.Led) (hfounded : m.cache.Founded) {call : Call}
    (hcall : call ∈ m.calls) (hrequest : call.request = .refresh)
    (hearly : call.stage.isRemote = false) {ys : List (Action ρ α)} {reply : Reply}
    (hfinished : (call.id, .ok reply) ∈ (m.run source ys).finished) :
    m.asks source call.id ys = [.listing] ∧ ∃ before ask between records after changes,
      ys = before ++ ask :: (between ++ .listed call.id (.ok records) :: after) ∧
      reply = .changes changes ∧
      Refreshed source m call.id before ask between records changes := by
  -- the call may wait for other listings any number of times, so its stage is generalized too
  induction ys generalizing m call with
  | nil => cases hfinished
  | cons action rest ih =>
    have hled := h.step source action
    have hnext := h.numbered.founded_step hfounded source action
    cases h.heads source action hcall hrequest hearly with
    | @waits other pending same request early quiet unanswered =>
      have hlater := (List.mem_append.1 hfinished).resolve_left (unanswered _)
      rw [← same] at hlater quiet ⊢
      obtain ⟨hasks, before, ask, between, records, after, changes, rfl, hreply, hrefreshed⟩ :=
        ih hled hnext pending request early hlater
      refine ⟨?_, action :: before, ask, between, records, after, changes, rfl, hreply, ?_⟩
      · rw [asks, quiet, hasks]
        rfl
      · exact ⟨hrefreshed.idle, hrefreshed.concerns, hrefreshed.asked, hrefreshed.accepted⟩
    | @asks other lead pending same request stage current concerns idle asked unanswered =>
      have hlater := (List.mem_append.1 hfinished).resolve_left (unanswered _)
      rw [← same] at hlater concerns ⊢
      obtain ⟨between, records, after, rfl, hleads, hquiet, hanswered⟩ :=
        hled.leadsUntil pending stage hlater
      have hthere := hled.numbered.founded_run hnext source between
      obtain ⟨changes, haccepted⟩ := hleads.accepted hled hthere request stage current
      rw [haccepted.answered, List.mem_singleton] at hanswered
      have hreply : reply = .changes changes := Except.ok.inj (congrArg Prod.snd hanswered)
      refine ⟨?_, [], action, between, records, after, changes, rfl, hreply, ?_⟩
      · rw [Machine.asks, asksFor, if_pos concerns, asked, hquiet]
        rfl
      · exact ⟨fun hlists => h.lists_iff.1 hlists idle, concerns, asked, haccepted⟩
    | fails gone quiet failed =>
      rcases List.mem_append.1 hfinished with hfirst | hlater
      · exact absurd hfirst (failed reply)
      · exact absurd hlater (hled.numbered.not_finished_of_gone gone source rest _)

/-- In every run the listener is told of the commits, once each and in order. A refresh that
succeeds asks for one listing and for nothing else, once it was called and once all listings that
were outstanding have ended; and it commits the answer when it arrives, or reports no changes if the
collection was invalidated since. -/
theorem run_refreshed (source : Source ρ α) (config : Config) (monitors : Monitors)
    (actions : List (Action ρ α)) :
    notices ((new config monitors).run source actions).events =
      (new config monitors).commits source actions ∧
    ∀ xs monitor ys reply, actions = xs ++ .start .refresh monitor :: ys →
      let here := ((new config monitors).run source xs).machine
      let called := (here.step source (.start .refresh monitor)).machine
      (here.started, .ok reply) ∈ (called.run source ys).finished →
      called.asks source here.started ys = [.listing] ∧
      ∃ before ask between records after changes,
        ys = before ++ ask :: (between ++ .listed here.started (.ok records) :: after) ∧
        reply = .changes changes ∧
        Refreshed source called here.started before ask between records changes := by
  refine ⟨(numbered_new config monitors).notices_run source actions, ?_⟩
  intro xs monitor ys reply _ here called hfinished
  have hled : called.Led := (led_run source config monitors xs).step source _
  have hfounded : called.cache.Founded :=
    (numbered_new config monitors).founded_run (founded_new config monitors) source xs
  have hcall : { id := here.started, monitor, request := .refresh } ∈ called.calls :=
    List.mem_append_right _ List.mem_cons_self
  exact hled.refreshed hfounded hcall rfl rfl hfinished

end Machine

section Items

open Scripted Machine

/-- A refresh waits for the listing that is under way, and then leads its own; meanwhile the owner
adds an item. Another refresh is overtaken by an invalidation. -/
def refreshedTwice : List (Action Item Item) :=
  [.poll 1, .listed 0 (.ok [.withId 1 0, .withId 2 0]), .poll 1, .edit (.insert (.withId 3 0)),
    .listed 1 (.ok [.withId 3 1, .withId 2 1, .withId 4 1]), .start .refresh ⟨0, [], 0⟩, .poll 2,
    .edit .clear, .listed 2 (.ok [.withId 5 0])]

/-- The first refresh asked once, and committed what it found. -/
theorem run_refreshed_twice :
    let here := ((new {} : Machine Item).run (Item.source Item.merge) listingUnderWay).machine
    let called := (here.step (Item.source Item.merge) (.start .refresh ⟨0, [], 0⟩)).machine
    let changes : ChangeSet := { added := [3], removed := [0], updated := [2, 1] }
    (here.started, .ok (.changes changes)) ∈
        (called.run (Item.source Item.merge) refreshedTwice).finished ∧
      called.asks (Item.source Item.merge) here.started refreshedTwice = [.listing] := by
  intro here called changes
  have hfinished : (here.started, .ok (.changes changes)) ∈
      (called.run (Item.source Item.merge) refreshedTwice).finished := by
    decide +kernel
  exact ⟨hfinished, ((run_refreshed (Item.source Item.merge) {} {}
    (listingUnderWay ++ .start .refresh ⟨0, [], 0⟩ :: refreshedTwice)).2 listingUnderWay ⟨0, [], 0⟩
    refreshedTwice _ rfl hfinished).1⟩

end Items

end CatalogBrowser.Cache
