import CatalogBrowser.Proofs.Cache.Run

/-!
# Who leads

At any moment the fetch slot is taken exactly while one pending call leads a fetch, and the lookup
slot of a key exactly while one pending call leads the lookup of that key. A leader that finishes,
fails, is cancelled or is dropped frees the slot that it owns and no other; replacing and clearing
the collection start a new generation, but do not touch the slots.

## Main definitions

* `Slots` - the slots of a cache belong to these leads.
* `Call.Sound` - what a pending call relies on at its stage.
* `Machine.Led` - the invariant: slots, pending calls and freshness agree.

## Main statements

* `Slots.turned` - a turn hands the slots over along with the leads.
* `Machine.Led.step`, `Machine.led_run` - the invariant holds in every run.
-/

namespace CatalogBrowser.Cache

variable {ρ α : Type}

/-- The lead of a call that waits for a listing. -/
def Stage.fetchLead? : Stage → Option FetchLead
  | .listing lead => some lead
  | _ => none

/-- The lead of a call that waits for the answer to a lookup. -/
def Stage.lookupLead? : Stage → Option LookupLead
  | .lookingUp lead => some lead
  | _ => none

@[simp] theorem Stage.fetchLead?_eq_some_iff {stage : Stage} {lead : FetchLead} :
    stage.fetchLead? = some lead ↔ stage = .listing lead := by
  cases stage <;> simp [fetchLead?]

@[simp] theorem Stage.lookupLead?_eq_some_iff {stage : Stage} {lead : LookupLead} :
    stage.lookupLead? = some lead ↔ stage = .lookingUp lead := by
  cases stage <;> simp [lookupLead?]

theorem Stage.fetchLead?_of_not_isRemote {stage : Stage} (h : stage.isRemote = false) :
    stage.fetchLead? = none := by
  cases stage <;> simp_all [fetchLead?, isRemote]

theorem Stage.lookupLead?_of_not_isRemote {stage : Stage} (h : stage.isRemote = false) :
    stage.lookupLead? = none := by
  cases stage <;> simp_all [lookupLead?, isRemote]

/-- The slot of a lookup with its key. -/
def LookupLead.entry (lead : LookupLead) : Key × InFlight :=
  (lead.key, lead.flight)

/-- The leads of the fetches among some calls. -/
def fetchLeads (calls : List Call) : List FetchLead :=
  calls.filterMap (·.stage.fetchLead?)

/-- The leads of the lookups among some calls. -/
def lookupLeads (calls : List Call) : List LookupLead :=
  calls.filterMap (·.stage.lookupLead?)

theorem mem_fetchLeads_iff {calls : List Call} {lead : FetchLead} :
    lead ∈ fetchLeads calls ↔ ∃ call ∈ calls, call.stage = .listing lead := by
  simp [fetchLeads]

theorem mem_lookupLeads_iff {calls : List Call} {lead : LookupLead} :
    lead ∈ lookupLeads calls ↔ ∃ call ∈ calls, call.stage = .lookingUp lead := by
  simp [lookupLeads]

section Moved

variable {β : Type} (f : Stage → Option β) (before behind : List Call) (call : Call)
  (stage? : Option Stage)

theorem filterMap_stage_split : (before ++ call :: behind).filterMap (fun c => f c.stage) =
    before.filterMap (fun c => f c.stage) ++ (f call.stage).toList ++
      behind.filterMap (fun c => f c.stage) := by
  cases h : f call.stage <;> simp [List.filterMap_append, h]

theorem filterMap_stage_moved :
    (before ++ call.moved stage? ++ behind).filterMap (fun c => f c.stage) =
      before.filterMap (fun c => f c.stage) ++ (stage?.bind f).toList ++
        behind.filterMap (fun c => f c.stage) := by
  cases stage? with
  | none => simp [List.filterMap_append]
  | some stage => simpa using filterMap_stage_split f before behind { call with stage }

theorem fetchLeads_split : fetchLeads (before ++ call :: behind) =
    fetchLeads before ++ call.stage.fetchLead?.toList ++ fetchLeads behind :=
  filterMap_stage_split Stage.fetchLead? before behind call

theorem lookupLeads_split : lookupLeads (before ++ call :: behind) =
    lookupLeads before ++ call.stage.lookupLead?.toList ++ lookupLeads behind :=
  filterMap_stage_split Stage.lookupLead? before behind call

theorem fetchLeads_moved : fetchLeads (before ++ call.moved stage? ++ behind) =
    fetchLeads before ++ (stage?.bind Stage.fetchLead?).toList ++ fetchLeads behind :=
  filterMap_stage_moved Stage.fetchLead? before behind call stage?

theorem lookupLeads_moved : lookupLeads (before ++ call.moved stage? ++ behind) =
    lookupLeads before ++ (stage?.bind Stage.lookupLead?).toList ++ lookupLeads behind :=
  filterMap_stage_moved Stage.lookupLead? before behind call stage?

end Moved

/-- The slots of a cache belong to these leads, and there is one slot for each key. -/
structure Slots (c : Cache α) (fetches : List FetchLead) (lookups : List LookupLead) : Prop where
  fetch : c.fetch.toList = fetches.map FetchLead.flight
  lookups : c.lookups.Perm (lookups.map LookupLead.entry)
  nodup : (c.lookups.map Prod.fst).Nodup

section Slots

variable {source : Source ρ α} {c c' : Cache α} {fetches fetches' : List FetchLead}
  {lookups lookups' : List LookupLead} {lead : FetchLead} {found : LookupLead}

/-- There is at most one fetch. -/
theorem Slots.sole (h : Slots c (fetches ++ [lead] ++ fetches') lookups) :
    c.fetch = some lead.flight ∧ fetches = [] ∧ fetches' = [] := by
  have hfetch := h.fetch
  cases hc : c.fetch with
  | none => simp [hc] at hfetch
  | some flight =>
    -- one slot is as long as all leads together
    have hlength := congrArg List.length hfetch
    simp only [hc, Option.toList_some, List.length_singleton, List.map_append, List.length_append,
      List.length_map] at hlength
    have hnil : fetches = [] := List.eq_nil_of_length_eq_zero (by omega)
    have hnil' : fetches' = [] := List.eq_nil_of_length_eq_zero (by omega)
    subst hnil hnil'
    simpa [hc] using hfetch

theorem Slots.idle (h : Slots c (fetches ++ fetches') lookups) (hfetch : c.fetch = none) :
    fetches = [] ∧ fetches' = [] := by
  have := h.fetch
  simpa [hfetch, eq_comm] using this

theorem Slots.freeFetch (h : Slots c (fetches ++ [lead] ++ fetches') lookups)
    (hfetch : c'.fetch = none) (hlookups : c'.lookups = c.lookups) :
    Slots c' (fetches ++ fetches') lookups := by
  obtain ⟨-, rfl, rfl⟩ := h.sole
  exact ⟨by simp [hfetch], hlookups ▸ h.lookups, hlookups ▸ h.nodup⟩

theorem Slots.takeFetch (h : Slots c (fetches ++ fetches') lookups) (hidle : c.fetch = none)
    (hfetch : c'.fetch = some lead.flight) (hlookups : c'.lookups = c.lookups) :
    Slots c' (fetches ++ [lead] ++ fetches') lookups := by
  obtain ⟨rfl, rfl⟩ := h.idle hidle
  exact ⟨by simp [hfetch], hlookups ▸ h.lookups, hlookups ▸ h.nodup⟩

theorem Slots.freeLookup (h : Slots c fetches (lookups ++ [found] ++ lookups'))
    (hfetch : c'.fetch = c.fetch) (hlookups : c'.lookups = c.lookups.filter (·.1 ≠ found.key)) :
    Slots c' fetches (lookups ++ lookups') where
  fetch := hfetch ▸ h.fetch
  lookups := by
    have hperm := h.lookups
    rw [List.append_assoc, List.map_append, List.map_append] at hperm
    rw [hlookups, List.map_append]
    exact Association.perm_filter_ne h.nodup hperm
  nodup := by
    rw [hlookups]
    exact h.nodup.sublist (List.filter_sublist.map Prod.fst)

theorem Slots.takeLookup (h : Slots c fetches (lookups ++ lookups'))
    (hidle : c.lookups.lookup found.key = none) (hfetch : c'.fetch = c.fetch)
    (hlookups : c'.lookups = found.entry :: c.lookups) :
    Slots c' fetches (lookups ++ [found] ++ lookups') where
  fetch := hfetch ▸ h.fetch
  lookups := by
    have hperm := h.lookups
    rw [List.map_append] at hperm
    rw [hlookups, List.append_assoc, List.map_append, List.map_append]
    exact (hperm.cons _).trans List.perm_middle.symm
  nodup := by
    rw [hlookups, List.map_cons, List.nodup_cons]
    exact ⟨Association.lookup_eq_none_iff_not_mem.1 hidle, h.nodup⟩

theorem Slots.congr (h : Slots c fetches lookups) (hfetch : c'.fetch = c.fetch)
    (hlookups : c'.lookups = c.lookups) : Slots c' fetches lookups :=
  ⟨hfetch ▸ h.fetch, hlookups ▸ h.lookups, hlookups ▸ h.nodup⟩

end Slots

section Turn

variable {source : Source ρ α} {c : Cache α} {call : Call} {action : Action ρ α} {turn : Turn α}

theorem commitFetch_fetch (source : Source ρ α) (c : Cache α) (request : Request)
    (lead : FetchLead) (fresh : List α) :
    (c.commitFetch source request lead fresh).cache.fetch = none := by
  by_cases h : c.generation = lead.generation
  · rw [commitFetch_of_current h]
  · rw [commitFetch_of_outdated h]

theorem commitFetch_lookups (source : Source ρ α) (c : Cache α) (request : Request)
    (lead : FetchLead) (fresh : List α) :
    (c.commitFetch source request lead fresh).cache.lookups = c.lookups := by
  by_cases h : c.generation = lead.generation
  · rw [commitFetch_of_current h]
  · rw [commitFetch_of_outdated h]

theorem commitFetch_stage? (source : Source ρ α) (c : Cache α) (request : Request)
    (lead : FetchLead) (fresh : List α) :
    (c.commitFetch source request lead fresh).progress.stage? = none := by
  by_cases h : c.generation = lead.generation
  · rw [commitFetch_progress_of_current h, Progress.stage?]
  · rw [commitFetch_progress_of_outdated h, Progress.stage?]

theorem Turned.listing_of_stage? (hturn : Turned source c call action turn) {lead : FetchLead}
    (h : turn.progress.stage? = some (.listing lead)) :
    call.stage = .listing lead ∨ lead = c.nextFetch ∧ .listing ∈ turn.events := by
  cases hturn with
  | rest => exact .inl (Option.some.inj h)
  | leadFetch => exact .inr ⟨(Stage.listing.inj (Option.some.inj h)).symm, by simp⟩
  | listed =>
    rw [Turn.after, commitFetch_stage?] at h
    cases h
  | _ => cases h

theorem Turned.lookingUp_of_stage? (hturn : Turned source c call action turn) {lead : LookupLead}
    (h : turn.progress.stage? = some (.lookingUp lead)) :
    call.stage = .lookingUp lead ∨
      ∃ identity, lead = c.nextLookup identity ∧ .lookup identity ∈ turn.events := by
  cases hturn with
  | rest => exact .inl (Option.some.inj h)
  | @leadLookup _ identity =>
    exact .inr ⟨identity, (Stage.lookingUp.inj (Option.some.inj h)).symm, by simp⟩
  | listed =>
    rw [Turn.after, commitFetch_stage?] at h
    cases h
  | _ => cases h

/-- A call that waits for a fetch waited for it before, or joins the one in flight. -/
theorem Turned.joined_fetch (hturn : Turned source c call action turn) {promise : Nat}
    {current : Bool} (h : turn.progress.stage? = some (.awaitingFetch promise current)) :
    call.stage = .awaitingFetch promise current ∨ ∃ flight, c.fetch = some flight ∧
      flight.promise = promise ∧ (current = true ↔ flight.generation = c.generation) := by
  cases hturn with
  | rest => exact .inl (Option.some.inj h)
  | joinFetch _ hfetch =>
    obtain ⟨rfl, rfl⟩ := Stage.awaitingFetch.inj (Option.some.inj h)
    exact .inr ⟨_, hfetch, rfl, decide_eq_true_iff⟩
  | listed =>
    rw [Turn.after, commitFetch_stage?] at h
    cases h
  | _ => cases h

/-- A call that waits for a lookup waited for it before, or joins the one in flight of its key. -/
theorem Turned.joined_lookup (hturn : Turned source c call action turn) {promise : Nat}
    {current : Bool} (h : turn.progress.stage? = some (.awaitingLookup promise current)) :
    call.stage = .awaitingLookup promise current ∨ ∃ identity flight,
      call.request = .one identity ∧ c.lookups.lookup (c.key identity) = some flight ∧
      flight.promise = promise ∧ (current = true ↔ flight.generation = c.generation) := by
  cases hturn with
  | rest => exact .inl (Option.some.inj h)
  | joinLookup _ hrequest _ hflight =>
    obtain ⟨rfl, rfl⟩ := Stage.awaitingLookup.inj (Option.some.inj h)
    exact .inr ⟨_, _, hrequest, hflight, rfl, decide_eq_true_iff⟩
  | listed =>
    rw [Turn.after, commitFetch_stage?] at h
    cases h
  | _ => cases h

/-- A turn hands the slots over along with the leads. -/
theorem Slots.turned {fetches fetches' : List FetchLead} {lookups lookups' : List LookupLead}
    (h : Slots c (fetches ++ call.stage.fetchLead?.toList ++ fetches')
      (lookups ++ call.stage.lookupLead?.toList ++ lookups'))
    (hturn : Turned source c call action turn) :
    Slots turn.cache
      (fetches ++ (turn.progress.stage?.bind Stage.fetchLead?).toList ++ fetches')
      (lookups ++ (turn.progress.stage?.bind Stage.lookupLead?).toList ++ lookups') := by
  -- a call at no remote stage leads nothing before its turn
  have hnone : call.stage.isRemote = false →
      Slots c (fetches ++ fetches') (lookups ++ lookups') := fun hstage => by
    simpa [Stage.fetchLead?_of_not_isRemote hstage, Stage.lookupLead?_of_not_isRemote hstage]
      using h
  -- a leader leads just the one thing that its stage says
  have hlisting : ∀ lead, call.stage = .listing lead →
      Slots c (fetches ++ [lead] ++ fetches') (lookups ++ lookups') := fun lead hstage => by
    simpa [hstage, Stage.fetchLead?, Stage.lookupLead?] using h
  have hlookingUp : ∀ lead, call.stage = .lookingUp lead →
      Slots c (fetches ++ fetches') (lookups ++ [lead] ++ lookups') := fun lead hstage => by
    simpa [hstage, Stage.fetchLead?, Stage.lookupLead?] using h
  -- a call that finished, or waits for another one, leads nothing after its turn
  have hfinished : ∀ {c' : Cache α}, Slots c' (fetches ++ fetches') (lookups ++ lookups') →
      Slots c' (fetches ++ (none : Option FetchLead).toList ++ fetches')
        (lookups ++ (none : Option LookupLead).toList ++ lookups') := fun h => by simpa using h
  cases hturn with
  | rest => exact h
  | quit hstage | remember hstage => exact hfinished (hnone hstage)
  | learnFetch hstage | learnLookup hstage => exact hfinished (hnone (by rw [hstage]; rfl))
  | joinFetch hstage | joinLookup hstage => exact hfinished (hnone hstage)
  | tryFetch hstage | tryLookup hstage => exact hfinished ((hnone hstage).congr rfl rfl)
  | leadFetch hstage _ hidle =>
    have h : Slots c.withFetch (fetches ++ [c.nextFetch] ++ fetches') (lookups ++ lookups') :=
      (hnone hstage).takeFetch hidle rfl rfl
    simpa [Progress.stage?, Stage.fetchLead?, Stage.lookupLead?] using h
  | @leadLookup _ identity _ hstage _ _ hidle =>
    have h : Slots (c.withLookup identity) (fetches ++ fetches')
        (lookups ++ [c.nextLookup identity] ++ lookups') :=
      (hnone hstage).takeLookup hidle rfl rfl
    simpa [Progress.stage?, Stage.fetchLead?, Stage.lookupLead?] using h
  | failFetch hstage => exact hfinished ((hlisting _ hstage).freeFetch rfl rfl)
  | @listed lead records _ hstage =>
    have h := (hlisting lead hstage).freeFetch
      (commitFetch_fetch source c call.request lead (records.filterMap source.construct))
      (commitFetch_lookups source c call.request lead (records.filterMap source.construct))
    have hstage? := commitFetch_stage? source c call.request lead
      (records.filterMap source.construct)
    simpa [Turn.after, hstage?] using h
  | failLookup hstage | absent hstage | present hstage | handOut hstage | keep hstage =>
    exact hfinished ((hlookingUp _ hstage).freeLookup rfl rfl)

end Turn

/-- What a pending call relies on at its stage. -/
def Call.Sound (c : Cache α) (call : Call) : Prop :=
  match call.stage with
  | .start => True
  | .awaitingFetch promise _ => promise < c.fetchResults.size
  | .awaitingLookup promise _ =>
    promise < c.lookupResults.size ∧ ∃ identity, call.request = .one identity
  | .listing lead =>
    lead.promise < c.fetchResults.size ∧ lead.generation ≤ c.generation ∧
      lead.prior ≠ .loading ∧ ∀ identity, call.request ≠ .one identity
  | .lookingUp lead =>
    lead.promise < c.lookupResults.size ∧ lead.generation ≤ c.generation ∧
      ∃ identity, call.request = .one identity ∧ lead.key = c.key identity

/-- What a call relies on outlasts whatever happens to the cache. -/
theorem Call.Sound.grown {c c' : Cache α} {call : Call} (h : call.Sound c) (hgrown : Grown c c') :
    call.Sound c' := by
  unfold Call.Sound at h ⊢
  split at h
  · trivial
  · exact Nat.lt_of_lt_of_le h hgrown.fetchResults
  · exact ⟨Nat.lt_of_lt_of_le h.1 hgrown.lookupResults, h.2⟩
  · exact ⟨Nat.lt_of_lt_of_le h.1 hgrown.fetchResults, Nat.le_trans h.2.1 hgrown.generation,
      h.2.2⟩
  · obtain ⟨hpromise, hgeneration, identity, hrequest, hkey⟩ := h
    exact ⟨Nat.lt_of_lt_of_le hpromise hgrown.lookupResults,
      Nat.le_trans hgeneration hgrown.generation, identity, hrequest,
      hkey.trans (key_eq_of_grown hgrown identity).symm⟩

theorem Call.Sound.listing {c : Cache α} {call : Call} (h : call.Sound c) {lead : FetchLead}
    (hstage : call.stage = .listing lead) :
    lead.promise < c.fetchResults.size ∧ lead.generation ≤ c.generation ∧
      lead.prior ≠ .loading ∧ ∀ identity, call.request ≠ .one identity := by
  rwa [Call.Sound, hstage] at h

theorem Call.Sound.lookingUp {c : Cache α} {call : Call} (h : call.Sound c) {lead : LookupLead}
    (hstage : call.stage = .lookingUp lead) :
    lead.promise < c.lookupResults.size ∧ lead.generation ≤ c.generation ∧
      ∃ identity, call.request = .one identity ∧ lead.key = c.key identity := by
  rwa [Call.Sound, hstage] at h

namespace Machine

variable {source : Source ρ α} {m : Machine α}

/-- Slots, pending calls and freshness agree with each other. -/
structure Led (m : Machine α) : Prop where
  numbered : m.Numbered
  slots : Slots m.cache (fetchLeads m.calls) (lookupLeads m.calls)
  sound : ∀ call ∈ m.calls, call.Sound m.cache
  loading : m.cache.freshness = .loading →
    ∃ flight, m.cache.fetch = some flight ∧ flight.generation = m.cache.generation

theorem led_new (config : Config) (monitors : Monitors) :
    (new config monitors : Machine α).Led where
  numbered := numbered_new config monitors
  slots := ⟨rfl, .nil, List.nodup_nil⟩
  sound := by simp [new]
  loading := by simp [new]

/-- The fetch slot is taken exactly by the call that leads the fetch. -/
theorem Led.fetch_eq_some_iff (h : m.Led) {flight : InFlight} :
    m.cache.fetch = some flight ↔
      ∃ call ∈ m.calls, ∃ lead, call.stage = .listing lead ∧ lead.flight = flight := by
  have hfetch := h.slots.fetch
  rw [← Option.mem_toList, hfetch, List.mem_map]
  constructor
  · rintro ⟨lead, hlead, rfl⟩
    obtain ⟨call, hcall, hstage⟩ := mem_fetchLeads_iff.1 hlead
    exact ⟨call, hcall, lead, hstage, rfl⟩
  · rintro ⟨call, hcall, lead, hstage, rfl⟩
    exact ⟨lead, mem_fetchLeads_iff.2 ⟨call, hcall, hstage⟩, rfl⟩

theorem Led.lookup_eq_some_iff (h : m.Led) {key : Key} {flight : InFlight} :
    m.cache.lookups.lookup key = some flight ↔
      ∃ call ∈ m.calls, ∃ lead, call.stage = .lookingUp lead ∧ lead.key = key ∧
        lead.flight = flight := by
  rw [Association.lookup_eq_some_iff_mem h.slots.nodup, h.slots.lookups.mem_iff, List.mem_map]
  constructor
  · rintro ⟨lead, hlead, heq⟩
    obtain ⟨call, hcall, hstage⟩ := mem_lookupLeads_iff.1 hlead
    exact ⟨call, hcall, lead, hstage, congrArg Prod.fst heq, congrArg Prod.snd heq⟩
  · rintro ⟨call, hcall, lead, hstage, rfl, rfl⟩
    exact ⟨lead, mem_lookupLeads_iff.2 ⟨call, hcall, hstage⟩, rfl⟩

theorem Led.sound_turned (h : m.Led) {call : Call} {action : Action ρ α} {turn : Turn α}
    (hmem : call ∈ m.calls) (hturn : Turned source m.cache call action turn) {stage : Stage}
    (hstage? : turn.progress.stage? = some stage) :
    ({ call with stage } : Call).Sound turn.cache := by
  cases hturn with
  | rest =>
    obtain rfl := Option.some.inj hstage?
    exact h.sound call hmem
  | joinFetch _ hfetch =>
    obtain rfl := Option.some.inj hstage?
    obtain ⟨leader, hleader, lead, hstage, rfl⟩ := h.fetch_eq_some_iff.1 hfetch
    exact ((h.sound leader hleader).listing hstage).1
  | joinLookup _ hrequest _ hlookup =>
    obtain rfl := Option.some.inj hstage?
    obtain ⟨leader, hleader, lead, hstage, -, rfl⟩ := h.lookup_eq_some_iff.1 hlookup
    exact ⟨((h.sound leader hleader).lookingUp hstage).1, _, hrequest⟩
  | leadFetch _ hrequest hidle =>
    obtain rfl := Option.some.inj hstage?
    refine ⟨?_, Nat.le_refl _, fun hloading => ?_, hrequest⟩
    · rw [withFetch, Array.size_push]
      exact Nat.lt_succ_self _
    · obtain ⟨flight, hflight, -⟩ := h.loading hloading
      rw [hidle] at hflight
      cases hflight
  | leadLookup _ hrequest =>
    obtain rfl := Option.some.inj hstage?
    refine ⟨?_, Nat.le_refl _, _, hrequest, rfl⟩
    rw [withLookup, Array.size_push]
    exact Nat.lt_succ_self _
  | listed =>
    rw [Turn.after, commitFetch_stage?] at hstage?
    cases hstage?
  | _ => cases hstage?

/-- A fetch of the present generation is in flight whenever a turn leaves the cache loading. -/
theorem Led.loading_turned (h : m.Led) {call : Call} {action : Action ρ α} {turn : Turn α}
    (hmem : call ∈ m.calls) (hturn : Turned source m.cache call action turn)
    (hloading : turn.cache.freshness = .loading) :
    ∃ flight, turn.cache.fetch = some flight ∧ flight.generation = turn.cache.generation := by
  -- once the leader is gone, nothing that it leaves says that the cache is loading
  have hold : ∀ lead, call.stage = .listing lead → m.cache.generation ≠ lead.generation →
      m.cache.freshness ≠ .loading := by
    intro lead hstage hne hfreshness
    obtain ⟨flight, hflight, hgeneration⟩ := h.loading hfreshness
    have hlead := h.fetch_eq_some_iff.2 ⟨call, hmem, lead, hstage, rfl⟩
    rw [hflight] at hlead
    obtain rfl := Option.some.inj hlead
    exact hne hgeneration.symm
  cases hturn with
  | leadFetch => exact ⟨_, rfl, rfl⟩
  | @failFetch _ lead error _ hstage =>
    exfalso
    have hprior := ((h.sound call hmem).listing hstage).2.2.1
    simp only [resolveFetch, abortFetch] at hloading
    split at hloading
    next => exact hprior hloading
    next hne => exact hold lead hstage hne hloading
  | @listed lead records events hstage =>
    exfalso
    rw [Turn.after] at hloading
    by_cases hgeneration : m.cache.generation = lead.generation
    · rw [commitFetch_of_current hgeneration] at hloading
      cases hloading
    · rw [commitFetch_of_outdated hgeneration] at hloading
      exact hold lead hstage hgeneration hloading
  | _ => exact h.loading hloading

/-- Only an edit that leaves freshness and generation alone leaves a cache loading. -/
theorem loading_of_edit {c : Cache α} {edit : Edit α}
    (h : (edit.apply source c).2.1.freshness = .loading) :
    c.freshness = .loading ∧ (edit.apply source c).2.1.generation = c.generation := by
  cases edit with
  | set | clear | reconcile => cases h
  | insert object =>
    simp only [Edit.apply, insert] at h ⊢
    cases hfind : c.snapshot.find? (c.objectKey source object) with
    | none =>
      rw [hfind] at h
      exact ⟨h, rfl⟩
    | some ref =>
      rw [hfind] at h
      exact ⟨h, rfl⟩
  | remove identity =>
    simp only [Edit.apply, remove] at h ⊢
    cases hfind : c.cachedObject? identity with
    | none =>
      rw [hfind] at h
      exact ⟨h, rfl⟩
    | some ref =>
      rw [hfind] at h
      exact ⟨h, rfl⟩
  | sort | change => exact ⟨h, rfl⟩

theorem Led.sound_step (h : m.Led) (source : Source ρ α) (action : Action ρ α) {call : Call}
    (hcall : call ∈ (m.step source action).machine.calls) :
    call.Sound (m.step source action).machine.cache := by
  cases h.numbered.pends source action hcall with
  | stay hpending => exact (h.sound call hpending).grown (h.numbered.grown_step source action)
  | start => trivial
  | turn hpending turned hstage? cache =>
    rw [cache]
    exact h.sound_turned hpending turned hstage?

/-- Slots, pending calls and freshness agree after every action. -/
theorem Led.step (h : m.Led) (source : Source ρ α) (action : Action ρ α) :
    (m.step source action).machine.Led := by
  have hnumbered := h.numbered.step source action
  refine ⟨hnumbered, ?_, fun call => h.sound_step source action, ?_⟩
  · cases h.numbered.stepped source action with
    | idle cache calls =>
      rw [cache, calls]
      exact h.slots
    | start request monitor cache calls =>
      have hfetches := fetchLeads_split m.calls [] { id := m.started, monitor, request }
      have hlookups := lookupLeads_split m.calls [] { id := m.started, monitor, request }
      rw [cache, calls, hfetches, hlookups]
      simpa [Stage.fetchLead?, Stage.lookupLead?, fetchLeads, lookupLeads] using h.slots
    | edit edit _ cache calls =>
      have hflights := sameFlights_edit source m.cache edit
      rw [cache, calls]
      exact h.slots.congr hflights.fetch hflights.lookups
    | @turn call turn before behind _ turned pending cache calls =>
      have hslots := h.slots
      rw [pending, fetchLeads_split, lookupLeads_split] at hslots
      rw [cache, calls, fetchLeads_moved, lookupLeads_moved]
      exact hslots.turned turned
  · cases h.numbered.stepped source action with
    | idle cache => exact cache ▸ h.loading
    | start _ _ cache => exact cache ▸ h.loading
    | edit edit _ cache =>
      have hflights := sameFlights_edit source m.cache edit
      rw [cache]
      intro hloading
      obtain ⟨hloading, hgeneration⟩ := loading_of_edit hloading
      rw [hflights.fetch, hgeneration]
      exact h.loading hloading
    | turn _ turned pending cache =>
      rw [cache]
      exact h.loading_turned (by rw [pending]; simp) turned

theorem Led.run (h : m.Led) (source : Source ρ α) (actions : List (Action ρ α)) :
    (m.run source actions).machine.Led :=
  run_preserves (fun _ action h => h.step source action) h actions

theorem led_run (source : Source ρ α) (config : Config) (monitors : Monitors)
    (actions : List (Action ρ α)) :
    ((new config monitors).run source actions).machine.Led :=
  (led_new config monitors).run source actions

end Machine

end CatalogBrowser.Cache
