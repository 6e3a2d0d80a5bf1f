import CatalogBrowser.Proofs.Cache.Leadership

/-!
# One question at a time

The remote side is asked for one listing at a time, for one lookup of each key at a time, and for no
lookup while a listing is outstanding. The slots of the cache say exactly which calls are waiting
for the remote side, in every state that a run can reach.

## Main definitions

* `questions` - what some events ask of the remote side.
* `Poses` - what a turn asks of it.
* `Machine.Lists`, `Machine.LooksUp` - what the remote side is still asked for.
* `Machine.Asked` - the questions that an action may ask.
* `Machine.SingleFlight` - one question at a time.

## Main statements

* `Machine.run_singleFlight` - one question at a time in every run.
-/

namespace CatalogBrowser.Cache

variable {ρ α : Type} {source : Source ρ α}

/-- Whether an event asks the remote side for something. -/
def Event.isQuestion : Event α → Bool
  | .listing | .lookup _ => true
  | _ => false

/-- What some events ask of the remote side. -/
def questions (events : List (Event α)) : List (Event α) :=
  events.filter Event.isQuestion

section Questions

variable {events : List (Event α)}

theorem questions_eq_nil (h : ∀ event ∈ events, event.isQuestion = false) :
    questions events = [] := by
  rw [questions, List.filter_eq_nil_iff]
  intro event hevent
  rw [h event hevent]
  exact Bool.false_ne_true

theorem questions_append (events later : List (Event α)) :
    questions (events ++ later) = questions events ++ questions later :=
  List.filter_append _ _

theorem Notes.questions (h : Notes events) : questions events = [] := by
  refine questions_eq_nil fun event hevent => ?_
  have hnote := h event hevent
  cases event <;> first | rfl | cases hnote

theorem Notes.questions_append (h : Notes events) {question : Event α}
    (hquestion : question.isQuestion = true) :
    Cache.questions (events ++ [question]) = [question] := by
  rw [Cache.questions_append, h.questions, List.nil_append, Cache.questions,
    List.filter_cons_of_pos hquestion, List.filter_nil]

theorem isQuestion_of_mem_evict {objects : Array α} {refs : List Ref} {event : Event α}
    (h : event ∈ (evict source objects refs).2) : event.isQuestion = false := by
  obtain ⟨ref, object, rfl, -⟩ := mem_evict_events h
  rfl

theorem questions_commitFetch (source : Source ρ α) (c : Cache α) (request : Request)
    (lead : FetchLead) (fresh : List α) :
    questions (c.commitFetch source request lead fresh).events = [] := by
  by_cases h : c.generation = lead.generation
  · refine questions_eq_nil fun event hevent => ?_
    rcases mem_commitFetch_events_of_current h hevent with
      hnote | ⟨ref, existing, object, rfl, -⟩ | ⟨ref, object, rfl, -⟩ | ⟨cached, objects, -, rfl⟩
    · cases event <;> first | rfl | cases hnote
    · rfl
    · rfl
    · rfl
  · exact (notes_commitFetch_of_outdated h).questions

/-- Edits ask for nothing. -/
theorem questions_edit (source : Source ρ α) (c : Cache α) (edit : Edit α) :
    questions (edit.apply source c).2.2 = [] := by
  refine questions_eq_nil fun event hevent => ?_
  cases edit with
  | set fresh =>
    rcases List.mem_append.1 hevent with hevent | hevent
    · obtain ⟨k, rfl⟩ := mem_instantiate_events hevent
      rfl
    · exact isQuestion_of_mem_evict hevent
  | clear =>
    rcases List.mem_cons.1 hevent with rfl | hevent
    · rfl
    · exact isQuestion_of_mem_evict hevent
  | reconcile merge fresh =>
    simp only [Edit.apply, reconcileWith, List.mem_append, List.mem_cons, List.not_mem_nil,
      or_false] at hevent
    rcases hevent with ((hevent | rfl | rfl) | hevent) | rfl
    · rcases mem_reconcile_events hevent with ⟨k, rfl⟩ | ⟨ref, existing, object, rfl, -⟩
      · rfl
      · rfl
    · rfl
    · rfl
    · exact isQuestion_of_mem_evict hevent
    · rfl
  | insert object =>
    simp only [Edit.apply] at hevent
    split at hevent <;> cases hevent
  | remove identity =>
    simp only [Edit.apply, remove] at hevent
    split at hevent
    next => cases hevent
    next =>
      rw [evictAll] at hevent
      exact isQuestion_of_mem_evict hevent
  | sort | change => cases hevent

end Questions

/-- What a turn asks the remote side, and what has to hold for it. -/
inductive Poses (c : Cache α) (call : Call) (turn : Turn α) : Prop
  | nothing (quiet : questions turn.events = [])
  | listing (posed : questions turn.events = [.listing])
      (request : ∀ identity, call.request ≠ .one identity) (idle : c.fetch = none)
      (missing : call.request = .all → c.snapshot.complete = false)
      (taken : turn.cache = c.withFetch)
  | lookup {identity : Identity} (posed : questions turn.events = [.lookup identity])
      (request : call.request = .one identity) (idle : c.fetch = none)
      (free : c.lookups.lookup (c.key identity) = none) (missing : c.snapshot.complete = false)
      (taken : turn.cache = c.withLookup identity)

/-- Turns ask for nothing else. -/
theorem Turned.poses {c : Cache α} {call : Call} {action : Action ρ α} {turn : Turn α}
    (hturn : Turned source c call action turn) : Poses c call turn := by
  cases hturn with
  | leadFetch _ hrequest hidle hall hnotes =>
    exact .listing (hnotes.questions_append rfl) hrequest hidle hall rfl
  | leadLookup _ hrequest hidle hfree _ hpartial hnotes =>
    exact .lookup (hnotes.questions_append rfl) hrequest hidle hfree hpartial rfl
  | listed _ hnotes =>
    refine .nothing ?_
    rw [Turn.after, questions_append, hnotes.questions, questions_commitFetch]
    rfl
  | quit _ hnotes | remember _ _ hnotes | tryFetch _ _ hnotes => exact .nothing hnotes.questions
  | tryLookup _ _ hnotes | joinFetch _ _ hnotes => exact .nothing hnotes.questions
  | joinLookup _ _ _ _ hnotes | failFetch _ hnotes => exact .nothing hnotes.questions
  | handOut _ _ _ _ hnotes => exact .nothing hnotes.questions
  | rest | learnFetch | learnLookup | failLookup | absent | present | keep => exact .nothing rfl

namespace Machine

variable {m : Machine α}

/-- A listing is asked for, and neither answered nor given up. -/
def Lists (m : Machine α) : Prop :=
  ∃ call ∈ m.calls, ∃ lead, call.stage = .listing lead

/-- The lookup of a key is asked for, and neither answered nor given up. -/
def LooksUp (m : Machine α) (key : Key) : Prop :=
  ∃ call ∈ m.calls, ∃ lead, call.stage = .lookingUp lead ∧ lead.key = key

/-- The questions that an action may ask, between the machines before and after it. -/
inductive Asked (m after : Machine α) : List (Event α) → Prop
  | nothing : Asked m after []
  | listing (idle : ¬ m.Lists) (asked : after.Lists) : Asked m after [.listing]
  | lookup {identity : Identity} (idle : ¬ m.LooksUp (m.cache.key identity))
      (asked : after.LooksUp (m.cache.key identity)) (apart : ¬ m.Lists)
      (still : ¬ after.Lists) : Asked m after [.lookup identity]

/-- One question at a time: in the machine as it is, and in whatever action comes next. -/
structure SingleFlight (m : Machine α) (source : Source ρ α) : Prop where
  /-- One call waits for a listing. -/
  one_listing : ∀ call ∈ m.calls, ∀ other ∈ m.calls, ∀ lead lead',
    call.stage = .listing lead → other.stage = .listing lead' → call = other
  /-- One call waits for the lookup of each key. -/
  one_lookup : ∀ call ∈ m.calls, ∀ other ∈ m.calls, ∀ lead lead',
    call.stage = .lookingUp lead → other.stage = .lookingUp lead' → lead.key = lead'.key →
    call = other
  /-- The fetch slot belongs to the call that leads the fetch. -/
  fetch_slot : ∀ flight, m.cache.fetch = some flight ↔
    ∃ call ∈ m.calls, ∃ lead, call.stage = .listing lead ∧ lead.flight = flight
  /-- A lookup slot belongs to the call that leads the lookup of its key. -/
  lookup_slot : ∀ key flight, m.cache.lookups.lookup key = some flight ↔
    ∃ call ∈ m.calls, ∃ lead, call.stage = .lookingUp lead ∧ lead.key = key ∧ lead.flight = flight
  /-- A cache that is loading is loaded in the present generation. -/
  loading : m.cache.freshness = .loading →
    ∃ call ∈ m.calls, ∃ lead, call.stage = .listing lead ∧ lead.generation = m.cache.generation
  /-- Nothing is asked while it is asked for already, and no lookup while a listing is. -/
  asked : ∀ action,
    Asked m (m.step source action).machine (questions (m.step source action).events)
  /-- Who waits for a listing from now on asked for it, in the present generation. -/
  lists : ∀ action, ∀ call ∈ (m.step source action).machine.calls, ∀ lead,
    call.stage = .listing lead → call ∈ m.calls ∨
      lead.generation = m.cache.generation ∧ .listing ∈ (m.step source action).events
  /-- Who waits for a lookup from now on asked for it, in the present generation. -/
  looks_up : ∀ action, ∀ call ∈ (m.step source action).machine.calls, ∀ lead,
    call.stage = .lookingUp lead → call ∈ m.calls ∨
      lead.generation = m.cache.generation ∧ ∃ identity, lead.key = m.cache.key identity ∧
        .lookup identity ∈ (m.step source action).events

theorem Led.lists_iff (h : m.Led) : m.Lists ↔ m.cache.fetch ≠ none := by
  rw [Option.ne_none_iff_exists']
  constructor
  · rintro ⟨call, hcall, lead, hstage⟩
    exact ⟨_, h.fetch_eq_some_iff.2 ⟨call, hcall, lead, hstage, rfl⟩⟩
  · rintro ⟨flight, hflight⟩
    obtain ⟨call, hcall, lead, hstage, -⟩ := h.fetch_eq_some_iff.1 hflight
    exact ⟨call, hcall, lead, hstage⟩

theorem Led.looksUp_iff (h : m.Led) {key : Key} :
    m.LooksUp key ↔ m.cache.lookups.lookup key ≠ none := by
  rw [Option.ne_none_iff_exists']
  constructor
  · rintro ⟨call, hcall, lead, hstage, hkey⟩
    exact ⟨_, h.lookup_eq_some_iff.2 ⟨call, hcall, lead, hstage, hkey, rfl⟩⟩
  · rintro ⟨flight, hflight⟩
    obtain ⟨call, hcall, lead, hstage, hkey, -⟩ := h.lookup_eq_some_iff.1 hflight
    exact ⟨call, hcall, lead, hstage, hkey⟩

theorem Led.eq_of_listing (h : m.Led) {call other : Call} {lead lead' : FetchLead}
    (hcall : call ∈ m.calls) (hother : other ∈ m.calls) (hstage : call.stage = .listing lead)
    (hstage' : other.stage = .listing lead') : call = other := by
  obtain ⟨before, behind, hsplit⟩ := List.append_of_mem hcall
  have hslots := h.slots
  rw [hsplit, fetchLeads_split, hstage] at hslots
  obtain ⟨-, hbefore, hbehind⟩ := hslots.sole
  rw [hsplit, List.mem_append, List.mem_cons] at hother
  rcases hother with hother | rfl | hother
  · have hmem := mem_fetchLeads_iff.2 ⟨other, hother, hstage'⟩
    rw [hbefore] at hmem
    cases hmem
  · rfl
  · have hmem := mem_fetchLeads_iff.2 ⟨other, hother, hstage'⟩
    rw [hbehind] at hmem
    cases hmem

/-- One call leads the lookup of each key. -/
theorem Led.eq_of_lookingUp (h : m.Led) {call other : Call} {lead lead' : LookupLead}
    (hcall : call ∈ m.calls) (hother : other ∈ m.calls) (hstage : call.stage = .lookingUp lead)
    (hstage' : other.stage = .lookingUp lead') (hkey : lead.key = lead'.key) : call = other := by
  obtain ⟨before, behind, hsplit⟩ := List.append_of_mem hcall
  -- the slots have distinct keys, and the leads are those of the slots
  have hkeys : ((lookupLeads m.calls).map LookupLead.key).Nodup := by
    have hnodup := (h.slots.lookups.map Prod.fst).nodup_iff.1 h.slots.nodup
    rwa [List.map_map] at hnodup
  rw [hsplit, lookupLeads_split, hstage] at hkeys
  simp only [Stage.lookupLead?, Option.toList_some, List.append_assoc, List.singleton_append,
    List.map_append, List.map_cons, List.nodup_append, List.nodup_cons] at hkeys
  obtain ⟨-, ⟨hbehind, -⟩, hbefore⟩ := hkeys
  rw [hsplit, List.mem_append, List.mem_cons] at hother
  rcases hother with hother | rfl | hother
  · have hmem := mem_lookupLeads_iff.2 ⟨other, hother, hstage'⟩
    exact absurd hkey.symm (hbefore _ (List.mem_map_of_mem hmem) _ List.mem_cons_self)
  · rfl
  · have hmem := mem_lookupLeads_iff.2 ⟨other, hother, hstage'⟩
    exact absurd (hkey ▸ List.mem_map_of_mem hmem) hbehind

/-- An action asks for what nobody waits for, and for no lookup while a listing is asked for. -/
theorem Led.asked (h : m.Led) (source : Source ρ α) (action : Action ρ α) :
    Asked m (m.step source action).machine (questions (m.step source action).events) := by
  have hled := h.step source action
  cases h.numbered.stepped source action with
  | idle _ _ _ events => rw [events]; exact .nothing
  | start _ _ _ _ _ events => rw [events]; exact .nothing
  | edit edit _ _ _ _ events => rw [events, questions_edit]; exact .nothing
  | @turn call turn before behind _ turned _ cache _ _ events =>
    rw [events]
    cases turned.poses with
    | nothing quiet => rw [quiet]; exact .nothing
    -- who asks took a slot that was free, and free slots have no leader
    | listing posed _ idle _ taken =>
      rw [posed]
      refine .listing (fun hlists => h.lists_iff.1 hlists idle) (hled.lists_iff.2 ?_)
      rw [cache, taken]
      exact Option.some_ne_none _
    | lookup posed _ idle free _ taken =>
      rw [posed]
      refine .lookup (fun hlooks => h.looksUp_iff.1 hlooks free) (hled.looksUp_iff.2 ?_)
        (fun hlists => h.lists_iff.1 hlists idle) (fun hlists => hled.lists_iff.1 hlists ?_)
      · rw [cache, taken, withLookup, List.lookup_cons_self]
        exact Option.some_ne_none _
      · rw [cache, taken]
        exact idle

/-- A call that waits for a listing after an action waited for it before, or has just asked. -/
theorem Led.lists_started (h : m.Led) (source : Source ρ α) (action : Action ρ α) {call : Call}
    {lead : FetchLead} (hcall : call ∈ (m.step source action).machine.calls)
    (hstage : call.stage = .listing lead) :
    call ∈ m.calls ∨
      lead.generation = m.cache.generation ∧ .listing ∈ (m.step source action).events := by
  cases h.numbered.pends source action hcall with
  | stay hpending => exact .inl hpending
  | start => cases hstage
  | @turn mover turn stage hpending turned hstage? _ events =>
    obtain rfl : stage = .listing lead := hstage
    rcases turned.listing_of_stage? hstage? with hold | ⟨rfl, hasked⟩
    · rw [← hold]
      exact .inl hpending
    · exact .inr ⟨rfl, by rwa [events]⟩

theorem Led.looksUp_started (h : m.Led) (source : Source ρ α) (action : Action ρ α) {call : Call}
    {lead : LookupLead} (hcall : call ∈ (m.step source action).machine.calls)
    (hstage : call.stage = .lookingUp lead) :
    call ∈ m.calls ∨
      lead.generation = m.cache.generation ∧ ∃ identity, lead.key = m.cache.key identity ∧
        .lookup identity ∈ (m.step source action).events := by
  cases h.numbered.pends source action hcall with
  | stay hpending => exact .inl hpending
  | start => cases hstage
  | @turn mover turn stage hpending turned hstage? _ events =>
    obtain rfl : stage = .lookingUp lead := hstage
    rcases turned.lookingUp_of_stage? hstage? with hold | ⟨identity, rfl, hasked⟩
    · rw [← hold]
      exact .inl hpending
    · exact .inr ⟨rfl, identity, rfl, by rwa [events]⟩

/-- Where slots, pending calls and freshness agree, one question is asked at a time. -/
theorem Led.singleFlight (h : m.Led) (source : Source ρ α) : m.SingleFlight source where
  one_listing _ hcall _ hother _ _ := h.eq_of_listing hcall hother
  one_lookup _ hcall _ hother _ _ := h.eq_of_lookingUp hcall hother
  fetch_slot _ := h.fetch_eq_some_iff
  lookup_slot _ _ := h.lookup_eq_some_iff
  loading hloading := by
    obtain ⟨flight, hflight, hgeneration⟩ := h.loading hloading
    obtain ⟨call, hcall, lead, hstage, rfl⟩ := h.fetch_eq_some_iff.1 hflight
    exact ⟨call, hcall, lead, hstage, hgeneration⟩
  asked := h.asked source
  lists action _ hcall _ := h.lists_started source action hcall
  looks_up action _ hcall _ := h.looksUp_started source action hcall

/-- In every run the remote side is asked one question at a time. -/
theorem run_singleFlight (source : Source ρ α) (config : Config) (monitors : Monitors)
    (actions : List (Action ρ α)) :
    ((new config monitors).run source actions).machine.SingleFlight source :=
  (led_run source config monitors actions).singleFlight source

end Machine

end CatalogBrowser.Cache
