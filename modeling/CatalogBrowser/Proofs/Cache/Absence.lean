import CatalogBrowser.Proofs.Cache.Refresh
import CatalogBrowser.Proofs.Cache.Rollback

/-!
# What shows that an object is absent

A call for one object that finds none does not always ask the remote side itself: it may read a
complete cache, a listing that another call asked for, or the lookup of another call. In each case
something within the span of the call shows that there is no such object: at that moment the
published view is complete and lacks the key, or a listing without the key arrives, or a lookup of
the key that finds nothing. The listing or lookup was not in flight at any invalidation before the
call, so it does not tell of an older state.

## Main definitions

* `Denies` - how a call comes to find that there is no object.
* `Machine.Recent` - a stage at which no call stood at an invalidation.
* `Machine.Absence` - what shows, within a part of a run, that there is no object under a key.

## Main statements

* `Turned.denies` - a call finds that there is no object in no other way.
* `lacks_of_listingView` - a view without a key comes of a listing without it.
* `Machine.Accountable.ends_of_follows` - what a call is told was told since it was started.
* `Machine.Accountable.absence_of_denies` - whatever the call relies on happened within its span.
* `Machine.run_absent` - whoever is told that there is no object is told so for a reason.
-/

namespace CatalogBrowser.Cache

variable {ρ α : Type} {source : Source ρ α}

/-- How a call for one object comes to find that there is none. -/
inductive Denies (source : Source ρ α) (c : Cache α) (call : Call) (action : Action ρ α)
    (key : Key) : Prop
  /-- The published view is complete and lacks it. -/
  | recalls (early : call.stage.isRemote = false) (complete : c.snapshot.complete = true)
      (lacks : c.snapshot.find? key = none)
  /-- A listing that it followed lacks it. -/
  | told {promise : Nat} {view : Snapshot} (follows : call.stage = .awaitingFetch promise true)
      (result : c.fetchResults.result? promise = some (.ok view)) (lacks : view.find? key = none)
  /-- A lookup that it followed found nothing. -/
  | shared {promise : Nat} (follows : call.stage = .awaitingLookup promise true)
      (result : c.lookupResults.result? promise = some (.ok none))
  /-- Its own lookup finds nothing. -/
  | found {lead : LookupLead} {record : Option ρ} (leads : call.stage = .lookingUp lead)
      (answer : action = .found call.id (.ok record))
      (nothing : record.bind source.construct = none)

section Turn

variable {c : Cache α} {call : Call} {action : Action ρ α} {turn : Turn α} {identity : Identity}

/-- A call finds that there is no object in no other way. -/
theorem Turned.denies (hturn : Turned source c call action turn)
    (hrequest : call.request = .one identity)
    (hprogress : turn.progress = .finished (.ok (.object none))) :
    Denies source c call action (c.key identity) := by
  cases hturn with
  | remember hearly hrecalls =>
    obtain rfl := Except.ok.inj (Progress.finished.inj hprogress)
    rw [hrequest] at hrecalls
    cases hrecalls with
    | none hlacks hcomplete => exact .recalls hearly hcomplete hlacks
  | @learnFetch _ promise result hfollows hresult =>
    cases result with
    | error error => cases hprogress
    | ok view =>
      have hreply := Except.ok.inj (Progress.finished.inj hprogress)
      rw [hrequest] at hreply
      exact .told hfollows hresult (Reply.object.inj hreply)
  | @learnLookup _ promise result hfollows hresult =>
    cases result with
    | error error => cases hprogress
    | ok found =>
      obtain rfl := Reply.object.inj (Except.ok.inj (Progress.finished.inj hprogress))
      exact .shared hfollows hresult
  | @listed lead records =>
    -- whoever leads a listing answers with a list, or with changes
    obtain ⟨changes, hreply⟩ := commitFetch_progress source c call.request lead
      (records.filterMap source.construct)
    rw [Turn.after, hreply, hrequest] at hprogress
    cases hprogress
  | absent hleads hnothing => exact .found hleads rfl hnothing
  | _ => cases hprogress

/-- A view of an accepted listing that lacks a key comes of a listing without that key, and one that
is of the present generation is published. -/
theorem lacks_of_listingView {lead : FetchLead} {fresh : List α} {key : Key} (request : Request)
    (hlacks : (c.listingView source lead fresh).find? key = none) :
    ((c.commitFetch source request lead fresh).cache.snapshot.complete = true ∧
      (c.commitFetch source request lead fresh).cache.snapshot.find? key = none) ∨
    ∀ object ∈ fresh, c.objectKey source object ≠ key := by
  by_cases hcurrent : c.generation = lead.generation
  · rw [listingView_of_current hcurrent] at hlacks
    rw [commitFetch_of_current hcurrent]
    exact .inl ⟨rfl, hlacks⟩
  · rw [listingView_of_outdated hcurrent] at hlacks
    refine .inr fun object hobject hkey => ?_
    -- every key of the listing is the key of one of its instances
    have hlisted := (distinct_nil (c.objectKey source) c.objects).map_keyAt_listedEntries
      (keepsKeys_fst _) (fun _ => true) fresh
    rw [← instantiate_entries, ← List.map_map] at hlisted
    have hmem : some key ∈ ((firstOfEach (c.objectKey source) fresh).map
        (c.objectKey source)).map some :=
      List.mem_map_of_mem (key_mem_firstOfEach_iff.2 (List.mem_map.2 ⟨object, hobject, hkey⟩))
    rw [← hlisted] at hmem
    obtain ⟨ref, href, hkeyAt⟩ := List.mem_map.1 hmem
    exact (find?_snapshotOf source _ _ _ key).2 hlacks ref href hkeyAt

end Turn

namespace Machine

variable {m : Machine α} {action : Action ρ α} {call leader : Call} {identity : Identity}

/-- No call stood at this stage at any invalidation so far. -/
def Recent (source : Source ρ α) (m : Machine α) (history : List (Action ρ α)) (stage : Stage) :
    Prop :=
  ∀ past action rest, history = past ++ action :: rest → action.Invalidates →
    ∀ call ∈ (m.run source past).machine.calls, call.stage ≠ stage

/-- What shows that there is no object under a key, within a `span` that follows on a `history`. -/
inductive Absence (source : Source ρ α) (m : Machine α) (history span : List (Action ρ α))
    (key : Key) : Prop
  /-- At some moment the published view is complete and lacks the key. -/
  | missing {xs ys : List (Action ρ α)} (split : span = xs ++ ys)
      (complete : (m.run source (history ++ xs)).machine.cache.snapshot.complete = true)
      (lacks : (m.run source (history ++ xs)).machine.cache.snapshot.find? key = none)
  /-- A listing of the remote side arrives, and no object of it has the key. -/
  | listed {xs ys : List (Action ρ α)} {leader : Call} {lead : FetchLead} {records : List ρ}
      (split : span = xs ++ .listed leader.id (.ok records) :: ys)
      (pending : leader ∈ (m.run source (history ++ xs)).machine.calls)
      (leads : leader.stage = .listing lead)
      (taken : (m.run source (history ++ xs)).machine.isCancelled leader = false)
      (recent : m.Recent source history leader.stage)
      (lacks : ∀ object ∈ records.filterMap source.construct,
        (m.run source (history ++ xs)).machine.cache.objectKey source object ≠ key)
  /-- A lookup of the key ends, and finds nothing. -/
  | found {xs ys : List (Action ρ α)} {leader : Call} {lead : LookupLead} {identity : Identity}
      {record : Option ρ} (split : span = xs ++ .found leader.id (.ok record) :: ys)
      (pending : leader ∈ (m.run source (history ++ xs)).machine.calls)
      (leads : leader.stage = .lookingUp lead) (asks : leader.request = .one identity)
      (same : (m.run source (history ++ xs)).machine.cache.key identity = key)
      (taken : (m.run source (history ++ xs)).machine.isCancelled leader = false)
      (recent : m.Recent source history leader.stage)
      (nothing : record.bind source.construct = none)

/-- What has shown it within a span has shown it within every longer one. -/
theorem Absence.append {history span : List (Action ρ α)} {key : Key}
    (h : m.Absence source history span key) (rest : List (Action ρ α)) :
    m.Absence source history (span ++ rest) key := by
  cases h with
  | missing split complete lacks =>
    exact .missing (by rw [split, List.append_assoc]) complete lacks
  | listed split pending leads taken recent lacks =>
    exact .listed (by rw [split, List.append_assoc, List.cons_append]) pending leads taken recent
      lacks
  | found split pending leads asks same taken recent nothing =>
    exact .found (by rw [split, List.append_assoc, List.cons_append]) pending leads asks same taken
      recent nothing

section Span

/-- A stage that was taken in the generation of now, or in a later one, is recent. -/
theorem Led.recent_of_le (h : m.Led) {history : List (Action ρ α)} {stage : Stage}
    {generation : Nat}
    (hbound : ∀ c : Cache α, ∀ call : Call, call.Sound c → call.stage = stage →
      generation ≤ c.generation)
    (hle : (m.run source history).machine.cache.generation ≤ generation) :
    m.Recent source history stage := by
  rintro past action rest rfl hinvalidates call hcall hstage
  have hthere := h.run source past
  have hlt : (m.run source past).machine.cache.generation <
      ((m.run source past).machine.run source (action :: rest)).machine.cache.generation :=
    hthere.numbered.generation_lt_run source ⟨action, List.mem_cons_self, hinvalidates⟩
  rw [← run_append_machine] at hlt
  have hold := hbound _ call (hthere.sound call hcall) hstage
  omega

theorem Led.recent_listing (h : m.Led) {history : List (Action ρ α)} {lead : FetchLead}
    (hle : (m.run source history).machine.cache.generation ≤ lead.generation) :
    m.Recent source history (.listing lead) :=
  h.recent_of_le (fun _ _ hsound hstage => (hsound.listing hstage).2.1) hle

theorem Led.recent_lookingUp (h : m.Led) {history : List (Action ρ α)} {lead : LookupLead}
    (hle : (m.run source history).machine.cache.generation ≤ lead.generation) :
    m.Recent source history (.lookingUp lead) :=
  h.recent_of_le (fun _ _ hsound hstage => (hsound.lookingUp hstage).2.1) hle

/-- Who leaves with an answer of the remote side was not cancelled. -/
theorem Numbered.active_of_left (h : m.Numbered) (hcall : call ∈ m.calls)
    (hleft : call ∉ (m.step source action).machine.calls) (hdelivers : action.delivers = true)
    (hconcerns : action.call? = some call.id) : m.isCancelled call = false := by
  have hanswers : m.answers action = true := by
    by_contra hanswers
    rw [step_of_not_answers hdelivers (Bool.eq_false_iff.2 hanswers)] at hleft
    exact hleft hcall
  cases action with
  | listed id answer | found id answer =>
    obtain rfl := Option.some.inj hconcerns
    simp only [answers, h.call?_eq hcall, Option.any_some, Bool.and_eq_true] at hanswers
    simpa using hanswers.2
  | start | poll | abort | cancel | edit => cases hdelivers

theorem Numbered.not_mem_take (h : m.Numbered) {turn : Turn α} (hcall : call ∈ m.calls)
    (hfinished : turn.progress.stage? = none) : call ∉ (m.take call turn).machine.calls :=
  fun hmem => (h.gone_take hcall hfinished).not_pending call hmem rfl

/-- What was told through a channel was told by the leader that owed it. -/
theorem Accountable.told_of_outcome (h : m.Accountable) {channel : Channel} {outcome : Outcome}
    (hleader : leader ∈ m.calls) (howes : leader.stage.owes? = some channel)
    {actions : List (Action ρ α)}
    (houtcome : (m.run source actions).machine.cache.outcome? channel = some outcome) :
    m.Told source leader channel outcome actions := by
  rcases h.leads_or_told source hleader howes actions with hleads | ⟨other, htold, hother⟩
  · have hopen := (open_iff.1 ((h.run source actions).open_of_owes hleads howes)).2
    rw [houtcome] at hopen
    cases hopen
  · rw [houtcome] at hother
    exact Option.some.inj hother ▸ htold

/-- Whoever comes to wait for a channel joins its leader at some point. -/
theorem Led.exists_joins (h : m.Led) {channel : Channel} {actions : List (Action ρ α)}
    (hnew : call ∉ m.calls) (hcall : call ∈ (m.run source actions).machine.calls)
    (hawaits : call.stage.awaits? = some channel) :
    ∃ xs ys, actions = xs ++ ys ∧ ∃ leader ∈ (m.run source xs).machine.calls,
      (m.run source xs).machine.Joins call leader := by
  obtain ⟨xs, action, ys, rfl, hbefore, hafter⟩ :=
    exists_step_of_run (P := fun m => call ∈ m.calls) hnew hcall
  exact ⟨xs, _, rfl, ((h.run source xs).joins source action hafter hawaits).resolve_left hbefore⟩

/-- What a call that follows another one is told was told since the call was started, by a leader
that took its slot in the generation of that time or in a later one. -/
theorem Accountable.ends_of_follows (h : m.Accountable) {channel : Channel} {outcome : Outcome}
    {actions : List (Action ρ α)} (hnew : call ∉ m.calls)
    (hcall : call ∈ (m.run source actions).machine.calls)
    (hfollows : call.stage.follows? = some channel)
    (houtcome : (m.run source actions).machine.cache.outcome? channel = some outcome) :
    ∃ xs action ys leader, actions = xs ++ action :: ys ∧
      (m.run source xs).machine.Ends source action leader channel outcome ∧
      ((∃ lead, leader.stage = .listing lead ∧ m.cache.generation ≤ lead.generation) ∨
        ∃ lead identity, leader.stage = .lookingUp lead ∧ m.cache.generation ≤ lead.generation ∧
          call.request = .one identity ∧ lead.key = m.cache.key identity) := by
  obtain ⟨xs, ys, rfl, leader, hleader, hjoins⟩ :=
    h.led.exists_joins hnew hcall (Stage.awaits?_of_follows? hfollows)
  have hgrown := h.led.numbered.grown_run source xs
  rw [run_append_machine] at houtcome
  -- the leader is one of the generation in which the call joined it
  have hleads : leader.stage.owes? = some channel ∧
      ((∃ lead, leader.stage = .listing lead ∧ m.cache.generation ≤ lead.generation) ∨
        ∃ lead identity, leader.stage = .lookingUp lead ∧ m.cache.generation ≤ lead.generation ∧
          call.request = .one identity ∧ lead.key = m.cache.key identity) := by
    cases hjoins with
    | @fetch lead current joined leads follows =>
      rw [joined] at hfollows
      cases current with
      | false => cases hfollows
      | true =>
        obtain rfl := Option.some.inj hfollows
        exact ⟨by rw [leads]; rfl, .inl ⟨lead, leads, follows.1 rfl ▸ hgrown.generation⟩⟩
    | @lookup lead identity current joined request leads same follows =>
      rw [joined] at hfollows
      cases current with
      | false => cases hfollows
      | true =>
        obtain rfl := Option.some.inj hfollows
        exact ⟨by rw [leads]; rfl, .inr ⟨lead, identity, leads,
          follows.1 rfl ▸ hgrown.generation, request, same.trans (key_eq_of_grown hgrown _)⟩⟩
  obtain ⟨zs, action, ws, rfl, hends⟩ :=
    (h.run source xs).told_of_outcome hleader hleads.1 houtcome
  rw [← run_append_machine] at hends
  exact ⟨xs ++ zs, action, ws, leader, by rw [List.append_assoc], hends, hleads.2⟩

end Span

section Absence

variable {history xs : List (Action ρ α)} {key : Key}

/-- A view without a key comes of a listing without it. -/
theorem Accountable.absence_of_view (h : (m.run source (history ++ xs)).machine.Accountable)
    {lead : FetchLead} {view : Snapshot} (hleads : leader.stage = .listing lead)
    (hrecent : m.Recent source history leader.stage)
    (hends : (m.run source (history ++ xs)).machine.Ends source action leader
      (.fetch lead.promise) (.fetched (.ok view)))
    (hlacks : view.find? key = none) : m.Absence source history (xs ++ [action]) key := by
  have hmade := h.made_of_listing hends.pending hleads
  rcases h.ends_listing hleads hends with ⟨error, houtcome, -⟩ | ⟨_, records, -, rfl, hcache⟩
  · cases houtcome
  -- the view that was told is that of the listing
  have hview : view = (m.run source (history ++ xs)).machine.cache.listingView source lead
      (records.filterMap source.construct) := by
    have hresults := (commitFetch_results source (m.run source (history ++ xs)).machine.cache
      leader.request lead (records.filterMap source.construct)).2
    have houtcome := hends.outcome?
    rw [hcache, outcome?_of_resolveFetch hmade hresults] at houtcome
    exact (Except.ok.inj (Outcome.fetched.inj (Option.some.inj houtcome))).symm
  rw [hview] at hlacks
  rcases lacks_of_listingView leader.request hlacks with ⟨hcomplete, hmissing⟩ | hlisted
  · rw [← hcache] at hcomplete hmissing
    refine .missing (List.append_nil _).symm ?_ ?_
    · rw [← List.append_assoc, run_append_machine]
      exact hcomplete
    · rw [← List.append_assoc, run_append_machine]
      exact hmissing
  · exact .listed rfl hends.pending hleads
      (h.led.numbered.active_of_left hends.pending hends.left rfl rfl) hrecent hlisted

/-- A lookup that told of no object has found none. -/
theorem Accountable.absence_of_lookup (h : (m.run source (history ++ xs)).machine.Accountable)
    {lead : LookupLead} (hleads : leader.stage = .lookingUp lead)
    (hkey : lead.key = key) (hrecent : m.Recent source history leader.stage)
    (hends : (m.run source (history ++ xs)).machine.Ends source action leader
      (.lookup lead.promise) (.found (.ok none))) :
    m.Absence source history (xs ++ [action]) key := by
  obtain ⟨hpending, howes, hleft, houtcome⟩ := hends
  obtain ⟨hmade, -, identity, hasks, hsame⟩ := (h.led.sound leader hpending).lookingUp hleads
  obtain ⟨turn, hturn, hcache, hgone, -⟩ := h.led.numbered.turned_of_left hpending hleft
  obtain ⟨result, hresults, hprogress⟩ := hturn.lookingUp_ended hleads hgone
  rw [hcache, outcome?_of_resolveLookup hmade hresults] at houtcome
  obtain rfl := Outcome.found.inj (Option.some.inj houtcome)
  cases hturn.denies hasks hprogress with
  | recalls hearly => rw [hleads] at hearly; cases hearly
  | told hfollows => rw [hleads] at hfollows; cases hfollows
  | shared hfollows => rw [hleads] at hfollows; cases hfollows
  | found _ hanswer hnothing =>
    subst hanswer
    exact .found rfl hpending hleads hasks (hsame.symm.trans hkey)
      (h.led.numbered.active_of_left hpending hleft rfl rfl) hrecent hnothing

/-- Whatever makes a call find that there is no object happened since the call was started. -/
theorem Accountable.absence_of_denies (h : m.Accountable)
    (hstart : call ∈ (m.run source history).machine.calls → call.stage = .start)
    (hcall : call ∈ (m.run source (history ++ xs)).machine.calls)
    (hleft : call ∉ ((m.run source (history ++ xs)).machine.step source action).machine.calls)
    (hrequest : call.request = .one identity)
    (hkey : (m.run source history).machine.cache.key identity = key)
    (hdenies : Denies source (m.run source (history ++ xs)).machine.cache call action key) :
    m.Absence source history (xs ++ [action]) key := by
  have hbase := h.run source history
  have hthere := h.run source (history ++ xs)
  have hnew : call.stage ≠ .start → call ∉ (m.run source history).machine.calls :=
    fun hstage hold => hstage (hstart hold)
  -- what was told on the way still counts when the call ends
  have hlater : ∀ {as bs : List (Action ρ α)} {moved : Action ρ α}, xs = as ++ moved :: bs →
      m.Absence source history (as ++ [moved]) key →
      m.Absence source history (xs ++ [action]) key := by
    rintro as bs moved rfl habsence
    have hlonger := habsence.append (bs ++ [action])
    rw [List.append_assoc, List.singleton_append] at hlonger
    rwa [List.append_assoc, List.cons_append]
  cases hdenies with
  | recalls _ hcomplete hlacks => exact .missing rfl hcomplete hlacks
  | @told promise view hfollows hresult hlacks =>
    rw [run_append_machine] at hcall hresult
    have hchannel : call.stage.follows? = some (.fetch promise) := by rw [hfollows]; rfl
    obtain ⟨as, moved, bs, leader, hsplit, hends, hleads⟩ := hbase.ends_of_follows
      (hnew (by rw [hfollows]; nofun)) hcall hchannel
      (congrArg (Option.map Outcome.fetched) hresult)
    rw [← run_append_machine] at hends
    rcases hleads with ⟨lead, hlead, hrecent⟩ | ⟨lead, -, hlead, -⟩
    · obtain rfl := Channel.fetch.inj (Stage.channel_of_listing hlead hends.owes)
      exact hlater hsplit ((h.run source _).absence_of_view hlead
        (hlead ▸ h.led.recent_listing hrecent) hends hlacks)
    · have howes := hends.owes
      rw [hlead] at howes
      cases howes
  | @shared promise hfollows hresult =>
    rw [run_append_machine] at hcall hresult
    have hchannel : call.stage.follows? = some (.lookup promise) := by rw [hfollows]; rfl
    obtain ⟨as, moved, bs, leader, hsplit, hends, hleads⟩ := hbase.ends_of_follows
      (hnew (by rw [hfollows]; nofun)) hcall hchannel (congrArg (Option.map Outcome.found) hresult)
    rw [← run_append_machine] at hends
    rcases hleads with ⟨lead, hlead, -⟩ | ⟨lead, other, hlead, hrecent, hother, hsame⟩
    · have howes := hends.owes
      rw [hlead] at howes
      cases howes
    · obtain rfl := Channel.lookup.inj (Stage.channel_of_lookingUp hlead hends.owes)
      obtain rfl := Request.one.inj (hother.symm.trans hrequest)
      exact hlater hsplit ((h.run source _).absence_of_lookup hlead (hsame.trans hkey)
        (hlead ▸ h.led.recent_lookingUp hrecent) hends)
  | @found lead record hleads hanswer hnothing =>
    subst hanswer
    have hgrown := hbase.led.numbered.grown_run source xs
    -- the call asked after it was started
    have hrecent : (m.run source history).machine.cache.generation ≤ lead.generation := by
      have hpending := hcall
      rw [run_append_machine] at hpending
      obtain ⟨as, moved, bs, rfl, hbefore, hafter⟩ :=
        exists_step_of_run (P := fun m => call ∈ m.calls) (hnew (by rw [hleads]; nofun)) hpending
      rcases (hbase.run source as).led.looksUp_started source moved hafter hleads with
        hold | ⟨hgeneration, -⟩
      · exact absurd hold hbefore
      · rw [hgeneration]
        exact (hbase.led.numbered.grown_run source as).generation
    rw [← run_append_machine] at hgrown
    exact .found rfl hcall hleads hrequest ((key_eq_of_grown hgrown identity).trans hkey)
      (hthere.led.numbered.active_of_left hcall hleft rfl rfl)
      (hleads ▸ h.led.recent_lookingUp hrecent) hnothing

end Absence

/-- Whoever asks for an object, in whatever run, and is told that there is none is told so because
of something that happened between the question and the answer. -/
theorem run_absent (source : Source ρ α) (config : Config) (monitors : Monitors)
    (xs ys : List (Action ρ α)) (identity : Identity) (monitor : Monitor)
    (htold : (((new config monitors).run source xs).machine.started, .ok (.object none)) ∈
      (((new config monitors).run source (xs ++ [.start (.one identity) monitor])).machine.run
        source ys).finished) :
    let id := ((new config monitors).run source xs).machine.started
    let history := xs ++ [.start (.one identity) monitor]
    ∃ before action after, ys = before ++ action :: after ∧
      (id, .ok (.object none)) ∈ (((new config monitors).run source
        (history ++ before)).machine.step source action).finished ∧
      (new config monitors).Absence source history (before ++ [action])
        (config.keyPolicy.key identity) := by
  intro id history
  obtain ⟨before, action, after, rfl, hthere⟩ := exists_step_of_finished htold
  rw [← run_append_machine] at hthere
  refine ⟨before, action, after, rfl, hthere, ?_⟩
  have h : (new config monitors : Machine α).Accountable := accountable_new config monitors
  have hbase := (h.run source xs).led.numbered
  have hnumbered := (h.run source (history ++ before)).led.numbered
  -- the new call is the only one with its number, and asks for this object
  have hcalls : ((new config monitors).run source history).machine.calls =
      ((new config monitors).run source xs).machine.calls ++
        [{ id, monitor, request := .one identity }] := by
    rw [run_append_machine]
    rfl
  have hfirst : ∀ call ∈ ((new config monitors).run source history).machine.calls,
      call.id = id → call = { id, monitor, request := .one identity } := by
    intro call hcall hid
    rw [hcalls, List.mem_append, List.mem_singleton] at hcall
    exact hcall.resolve_left fun hold => absurd hid (Nat.ne_of_lt (hbase.lt_started call hold))
  have hstarted : id < ((new config monitors).run source history).machine.started := by
    rw [run_append_machine]
    exact Nat.lt_succ_self _
  obtain ⟨hconcerns, call, hcall, hid⟩ := hnumbered.pending_of_finished hthere
  have hrequest : call.request = .one identity := by
    rw [run_append_machine] at hcall
    refine ((h.run source history).led.numbered.same_run
      { id, monitor, request := .one identity } hstarted ?_ source before hcall hid).1
    intro other hother hsame
    rw [hfirst other hother hsame]
    exact ⟨rfl, rfl⟩
  cases hnumbered.moves source action hcall with
  | stays _ _ hunanswered => exact absurd (hid ▸ hthere) (hunanswered _)
  | dropped _ _ hunanswered => exact absurd (hid ▸ hthere) (hunanswered _)
  | @turn turn _ hturn htaken =>
    have hprogress : turn.progress = .finished (.ok (.object none)) := by
      rw [htaken, take_finished] at hthere
      split at hthere
      next => cases hthere
      next result hresult =>
        obtain rfl : _ = result := congrArg Prod.snd (List.mem_singleton.1 hthere)
        exact hresult
    have hleft : call ∉ (((new config monitors).run source
        (history ++ before)).machine.step source action).machine.calls := by
      rw [htaken]
      exact hnumbered.not_mem_take hcall (by rw [hprogress]; rfl)
    have hkey : ∀ actions, ((new config monitors).run source actions).machine.cache.key identity =
        config.keyPolicy.key identity := fun actions =>
      key_eq_of_grown (h.led.numbered.grown_run source actions) identity
    refine h.absence_of_denies (fun hold => congrArg Call.stage (hfirst call hold hid)) hcall hleft
      hrequest (hkey history) ?_
    rw [← hkey (history ++ before)]
    exact hturn.denies hrequest hprogress

end Machine

section Items

open Scripted Machine

/-- A call waits for the listing under way, while the cache is cleared. The listing is set aside
then, and lacks the object. -/
def askedMeanwhile : List (Action Item Item) :=
  [.poll 1, .edit .clear, .listed 0 (.ok [.withId 1 5]), .poll 1]

theorem run_absent_askedMeanwhile :
    let m := new {} {}
    let source := Item.source Item.merge
    let history := listingUnderWay ++ [.start (.one (.id 9)) ⟨1, [], 0⟩]
    (m.run source (history ++ askedMeanwhile)).machine.cache.freshness = .empty ∧
      ∃ before action after, askedMeanwhile = before ++ action :: after ∧
        (1, .ok (.object none)) ∈ ((m.run source (history ++ before)).machine.step source
          action).finished ∧
        m.Absence source history (before ++ [action]) (.id 9) :=
  ⟨by decide +kernel, run_absent (Item.source Item.merge) {} {} listingUnderWay askedMeanwhile
    (.id 9) ⟨1, [], 0⟩ (by decide +kernel)⟩

end Items

end CatalogBrowser.Cache
