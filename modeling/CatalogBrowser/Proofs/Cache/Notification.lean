import CatalogBrowser.Proofs.Cache.Eviction
import CatalogBrowser.Proofs.Cache.SingleFlight

/-!
# What the listener is told

The listener of a cache is told of the reconciliations of its collection and of nothing else. Two
actions reconcile: an edit of that name, and a listing of the present generation that a refresh
accepts. Each tells the listener once, after all the rest, when the outcome can be read from memory
already. So the listener is told of the commits of a run in the order in which they happened.

## Main definitions

* `notices` - what some events tell the listener.
* `Machine.commit?` - the changes that an action commits, if it reconciles.
* `Machine.commits` - the notices that the commits of a run call for, in order.

## Main statements

* `commitFetch_events_of_refresh` - the events of a refresh: reports and evictions, then the notice.
* `Machine.Numbered.notices_run` - the listener is told of the commits of a run, in order.
-/

namespace CatalogBrowser.Cache

variable {ρ α : Type} {source : Source ρ α}

/-- Whether an event tells the listener of changes. -/
def Event.isNotice : Event α → Bool
  | .notified .. => true
  | _ => false

/-- What some events tell the listener. -/
def notices (events : List (Event α)) : List (Event α) :=
  events.filter Event.isNotice

section Notices

variable {events : List (Event α)} {c : Cache α}

theorem notices_eq_nil (h : ∀ event ∈ events, event.isNotice = false) : notices events = [] := by
  rw [notices, List.filter_eq_nil_iff]
  intro event hevent
  rw [h event hevent]
  exact Bool.false_ne_true

theorem notices_append (events later : List (Event α)) :
    notices (events ++ later) = notices events ++ notices later :=
  List.filter_append _ _

theorem Notes.notices (h : Notes events) : notices events = [] := by
  refine notices_eq_nil fun event hevent => ?_
  have hnote := h event hevent
  cases event <;> first | rfl | cases hnote

theorem notices_evict (source : Source ρ α) (objects : Array α) (refs : List Ref) :
    notices (evict source objects refs).2 = [] := by
  refine notices_eq_nil fun event hevent => ?_
  obtain ⟨ref, object, rfl, -⟩ := mem_evict_events hevent
  rfl

theorem notices_reconcile (key : α → Key) (isPersisted : α → Bool) (merge : α → α → α)
    (objects : Array α) (current : List Ref) (fresh : List α) :
    notices (reconcile key isPersisted merge objects current fresh).events = [] := by
  refine notices_eq_nil fun event hevent => ?_
  rcases mem_reconcile_events hevent with ⟨k, rfl⟩ | ⟨ref, existing, object, rfl, -⟩ <;> rfl

/-- Of what a reconciliation tells, only the last event concerns the listener. -/
theorem notices_amid {merging reports dropping last : List (Event α)}
    (hmerging : notices merging = []) (hreports : notices reports = [])
    (hdropping : notices dropping = []) :
    notices (merging ++ reports ++ dropping ++ last) = notices last := by
  rw [notices_append, notices_append, notices_append, hmerging, hreports, hdropping]
  rfl

variable {request : Request} {lead : FetchLead} {fresh : List α}

/-- A listing of the present generation is told to the listener if a refresh asked for it. -/
theorem notices_commitFetch_of_current (h : c.generation = lead.generation) :
    notices (c.commitFetch source request lead fresh).events = if request = .refresh then
      [(c.commitFetch source request lead fresh).cache.notification
        (c.merged source fresh).changes] else [] := by
  simp only [commitFetch]
  rw [if_pos h]
  refine (notices_amid (notices_reconcile ..) rfl (notices_evict ..)).trans ?_
  cases request <;> rfl

/-- A refresh that is accepted reports and evicts, and then tells the listener of its changes. -/
theorem commitFetch_events_of_refresh (source : Source ρ α) (fresh : List α)
    (h : c.generation = lead.generation) :
    ∃ reports, (c.commitFetch source .refresh lead fresh).events = reports ++
        [(c.commitFetch source .refresh lead fresh).cache.notification
          (c.merged source fresh).changes] ∧
      notices reports = [] ∧ evictions reports =
        evictions (evict source (c.merged source fresh).objects
          (c.merged source fresh).changes.removed).2 := by
  simp only [commitFetch]
  rw [if_pos h]
  refine ⟨_, rfl, ?_, ?_⟩
  · rw [← List.append_nil (_ ++ _)]
    exact notices_amid (notices_reconcile ..) rfl (notices_evict ..)
  · rw [← List.append_nil (_ ++ _)]
    exact evictions_amid (evictions_reconcile ..) rfl rfl

/-- Turns tell the listener of nothing else. -/
theorem Turned.notices {call : Call} {action : Action ρ α} {turn : Turn α}
    (hturn : Turned source c call action turn) :
    Cache.notices turn.events = [] ∨ ∃ lead records, action = .listed call.id (.ok records) ∧
      call.request = .refresh ∧ call.stage = .listing lead ∧ c.generation = lead.generation ∧
      Cache.notices turn.events = [turn.cache.notification
        (c.merged source (records.filterMap source.construct)).changes] := by
  have hask : ∀ {events : List (Event α)} {question : Event α}, Notes events →
      question.isNotice = false → Cache.notices (events ++ [question]) = [] := by
    intro events question hnotes hquestion
    rw [notices_append, hnotes.notices, Cache.notices, List.filter_singleton, hquestion]
    rfl
  cases hturn with
  | @listed lead records events hstage hnotes =>
    rw [Turn.after, notices_append, hnotes.notices, List.nil_append]
    by_cases hgeneration : c.generation = lead.generation
    · rw [notices_commitFetch_of_current hgeneration]
      by_cases hrequest : call.request = .refresh
      · rw [if_pos hrequest]
        exact .inr ⟨lead, records, rfl, hrequest, hstage, hgeneration, rfl⟩
      · exact .inl (if_neg hrequest)
    · exact .inl (notes_commitFetch_of_outdated hgeneration).notices
  | leadFetch _ _ _ _ hnotes | leadLookup _ _ _ _ _ _ hnotes => exact .inl (hask hnotes rfl)
  | quit _ hnotes | remember _ _ hnotes | joinFetch _ _ hnotes => exact .inl hnotes.notices
  | joinLookup _ _ _ _ hnotes | tryFetch _ _ hnotes => exact .inl hnotes.notices
  | tryLookup _ _ hnotes | failFetch _ hnotes => exact .inl hnotes.notices
  | handOut _ _ _ _ hnotes => exact .inl hnotes.notices
  | rest | learnFetch | learnLookup | failLookup | absent | present | keep => exact .inl rfl

/-- A reconciliation tells the listener of its changes. -/
theorem notices_reconcileWith (source : Source ρ α) (c : Cache α) (merge : α → α → α)
    (fresh : List α) :
    notices (c.reconcileWith source merge fresh).2.2 =
      [(c.reconcileWith source merge fresh).2.1.notification
        (c.reconcileWith source merge fresh).1] :=
  notices_amid (notices_reconcile ..) rfl (notices_evict ..)

/-- And no other edit tells the listener of anything. -/
theorem notices_edit {edit : Edit α} (h : ∀ merge fresh, edit ≠ .reconcile merge fresh) :
    notices (edit.apply source c).2.2 = [] := by
  cases edit with
  | set fresh =>
    have hmade : notices (instantiate (c.objectKey source) c.objects fresh).events = [] :=
      notices_reconcile ..
    refine (notices_append _ _).trans ?_
    rw [hmade]
    exact notices_evict ..
  | clear => exact notices_evict source c.objects c.snapshot.entries
  | reconcile merge fresh => exact absurd rfl (h merge fresh)
  | insert object =>
    simp only [Edit.apply]
    cases c.insert source object <;> rfl
  | remove identity =>
    simp only [Edit.apply, remove]
    cases c.cachedObject? identity with
    | none => rfl
    | some ref =>
      dsimp only
      rw [evictAll]
      exact notices_evict ..
  | sort | change => rfl

end Notices

namespace Machine

variable {m : Machine α} {action : Action ρ α} {changes : ChangeSet}

/-- The changes that an action commits to the collection, if it reconciles: by an edit, or by a
listing of the present generation that a refresh accepts. -/
def commit? (source : Source ρ α) (m : Machine α) : Action ρ α → Option ChangeSet
  | .listed id (.ok records) => do
    let call ← m.call? id
    let lead ← call.stage.fetchLead?
    if call.request = .refresh ∧ m.isCancelled call = false ∧
        m.cache.generation = lead.generation then
      some (m.cache.merged source (records.filterMap source.construct)).changes
    else
      none
  | .edit (.reconcile merge fresh) => some (m.cache.reconcileWith source merge fresh).1
  | _ => none

/-- The notices that the commits of a run call for, in order. -/
def commits (source : Source ρ α) (m : Machine α) : List (Action ρ α) → List (Event α)
  | [] => []
  | action :: rest =>
    ((m.commit? source action).map (m.step source action).machine.cache.notification).toList ++
      (m.step source action).machine.commits source rest

/-- What a pending refresh commits when its listing is accepted. -/
theorem Numbered.commit?_listed (h : m.Numbered) (source : Source ρ α) {call : Call}
    {lead : FetchLead} (hcall : call ∈ m.calls) (hstage : call.stage = .listing lead)
    (hrequest : call.request = .refresh) (hactive : m.isCancelled call = false)
    (records : List ρ) :
    m.commit? source (.listed call.id (.ok records)) =
      if m.cache.generation = lead.generation then
        some (m.cache.merged source (records.filterMap source.construct)).changes
      else none := by
  simp [commit?, h.call?_eq hcall, hstage, hrequest, hactive, Stage.fetchLead?]

/-- There are no other commits. -/
theorem commit?_eq_some (h : m.commit? source action = some changes) :
    (∃ merge fresh, action = .edit (.reconcile merge fresh) ∧
      changes = (m.cache.reconcileWith source merge fresh).1) ∨
    ∃ call ∈ m.calls, ∃ lead records, action = .listed call.id (.ok records) ∧
      call.stage = .listing lead ∧ call.request = .refresh ∧ m.isCancelled call = false ∧
      m.cache.generation = lead.generation ∧
      changes = (m.cache.merged source (records.filterMap source.construct)).changes := by
  unfold commit? at h
  split at h
  next id records =>
    obtain ⟨call, hfound, hlisting⟩ := Option.bind_eq_some_iff.1 h
    obtain ⟨lead, hlead, hready⟩ := Option.bind_eq_some_iff.1 hlisting
    obtain ⟨hcall, rfl⟩ := mem_of_call? hfound
    split at hready
    next hcond =>
      obtain ⟨hrequest, hactive, hgeneration⟩ := hcond
      exact .inr ⟨call, hcall, lead, records, rfl, Stage.fetchLead?_eq_some_iff.1 hlead, hrequest,
        hactive, hgeneration, (Option.some.inj hready).symm⟩
    next => cases hready
  next merge fresh => exact .inl ⟨merge, fresh, rfl, (Option.some.inj h).symm⟩
  next => cases h

/-- A cancelled call takes no answer. -/
theorem Numbered.step_listed_of_cancelled (h : m.Numbered) (source : Source ρ α) {call : Call}
    (hcall : call ∈ m.calls) (hcancelled : m.isCancelled call = true)
    (answer : Except ConnectionError (List ρ)) :
    m.step source (.listed call.id answer) = { machine := m } := by
  simp only [Machine.step, h.call?_eq hcall, hcancelled]
  split
  next hactive => cases hactive
  next => rfl

/-- An action that commits tells the listener of its changes. -/
theorem Numbered.notices_of_commit? (h : m.Numbered)
    (hcommit : m.commit? source action = some changes) :
    notices (m.step source action).events =
      [(m.step source action).machine.cache.notification changes] := by
  rcases commit?_eq_some hcommit with ⟨merge, fresh, rfl, rfl⟩ |
    ⟨call, hcall, lead, records, rfl, hstage, hrequest, hactive, hgeneration, rfl⟩
  · exact notices_reconcileWith source m.cache merge fresh
  · rw [h.step_listed source hcall hstage hactive, take_events, take_cache, acceptListing,
      hrequest, Turn.after, notices_append, notices_commitFetch_of_current hgeneration]
    rfl

/-- And an action that does not tells it nothing. -/
theorem Numbered.notices_of_not_commit? (h : m.Numbered)
    (hcommit : m.commit? source action = none) :
    notices (m.step source action).events = [] := by
  cases h.stepped source action with
  | idle _ _ _ events => rw [events]; rfl
  | start _ _ _ _ _ events => rw [events]; rfl
  | edit edit same _ _ _ events =>
    rw [events]
    refine notices_edit fun merge fresh heq => ?_
    rw [same, heq] at hcommit
    cases hcommit
  | @turn call turn before behind _ turned pending _ _ _ events =>
    have hcall : call ∈ m.calls := by rw [pending]; simp
    rcases turned.notices with
      hnone | ⟨lead, records, rfl, hrequest, hstage, hgeneration, -⟩
    · rw [events, hnone]
    · cases hcancelled : m.isCancelled call with
      | true =>
        rw [h.step_listed_of_cancelled source hcall hcancelled]
        rfl
      | false =>
        rw [h.commit?_listed source hcall hstage hrequest hcancelled, if_pos hgeneration] at hcommit
        cases hcommit

/-- The listener is told of the commits of a run, once each, in the order in which they happened,
and of nothing else. -/
theorem Numbered.notices_run (h : m.Numbered) (source : Source ρ α) (actions : List (Action ρ α)) :
    notices (m.run source actions).events = m.commits source actions := by
  induction actions generalizing m with
  | nil => rfl
  | cons action rest ih =>
    refine (notices_append _ _).trans ?_
    rw [commits, ih (h.step source action)]
    cases hcommit : m.commit? source action with
    | none => rw [h.notices_of_not_commit? hcommit]; rfl
    | some changes => rw [h.notices_of_commit? hcommit]; rfl

end Machine

end CatalogBrowser.Cache
