import CatalogBrowser.Proofs.Cache.Reconciliation
import CatalogBrowser.Proofs.Cache.Turn

/-!
# What turns and edits leave of a cache

A listing that is accepted either replaces the published view or is set aside, as the generation
decides. No turn and no edit forgets an instance or a promise, goes back to an older generation, or
changes the configuration; and edits leave the fetch and the lookups in flight alone.

## Main definitions

* `merged`, `setAside` - what an accepted listing is turned into.
* `listingView` - the view of an accepted listing.
* `Grown` - a cache that came out of another one.

## Main statements

* `commitFetch_of_current`, `commitFetch_of_outdated` - the two ways to accept a listing.
* `Turned.grown`, `grown_edit` - turns and edits only add.
-/

namespace CatalogBrowser.Cache

variable {ρ α : Type} {source : Source ρ α} {c : Cache α}

section Commit

/-- A listing merged into the cached entries. -/
def merged (source : Source ρ α) (c : Cache α) (fresh : List α) : Reconciliation α :=
  reconcile (c.objectKey source) source.isPersisted source.merge c.objects c.snapshot.entries fresh

/-- The view that is published once a listing was merged. -/
def mergedView (source : Source ρ α) (c : Cache α) (fresh : List α) : Snapshot :=
  { c with objects := (c.merged source fresh).objects }.snapshotOf source
    (c.merged source fresh).entries true

/-- A listing as new instances that nobody caches. -/
def setAside (source : Source ρ α) (c : Cache α) (fresh : List α) : Reconciliation α :=
  instantiate (c.objectKey source) c.objects fresh

/-- The view that is handed out of a listing that was set aside. -/
def asideView (source : Source ρ α) (c : Cache α) (fresh : List α) : Snapshot :=
  { c with objects := (c.setAside source fresh).objects }.snapshotOf source
    (c.setAside source fresh).entries false

/-- What a request is told of a listing. -/
def replyOf (request : Request) (snapshot : Snapshot) (changes : ChangeSet) : Reply :=
  match request with
  | .refresh => .changes changes
  | _ => .objects snapshot.entries

theorem eq_entries_of_replyOf {request : Request} {view : Snapshot} {changes : ChangeSet}
    {refs : List Ref} (h : replyOf request view changes = .objects refs) : view.entries = refs := by
  cases request with
  | refresh => cases h
  | all | one => exact Reply.objects.inj h

variable {request : Request} {lead : FetchLead} {fresh : List α}

/-- A listing of the present generation is published, and what it lacks is dropped. -/
theorem commitFetch_of_current (h : c.generation = lead.generation) :
    (c.commitFetch source request lead fresh).cache =
      { c with
        fetch := none
        freshness := .loaded
        snapshot := c.mergedView source fresh
        objects := (evict source (c.merged source fresh).objects
          (c.merged source fresh).changes.removed).1
        fetchResults := c.fetchResults.resolve lead.promise
          (.ok (c.mergedView source fresh)) } := by
  simp only [commitFetch]
  rw [if_pos h]
  rfl

theorem commitFetch_progress_of_current (h : c.generation = lead.generation) :
    (c.commitFetch source request lead fresh).progress = .finished
      (.ok (replyOf request (c.mergedView source fresh) (c.merged source fresh).changes)) := by
  simp only [commitFetch]
  rw [if_pos h]
  cases request <;> rfl

/-- A listing of an older generation is handed out, and the published view stays. -/
theorem commitFetch_of_outdated (h : c.generation ≠ lead.generation) :
    (c.commitFetch source request lead fresh).cache =
      { c with
        fetch := none
        objects := (c.setAside source fresh).objects
        fetchResults := c.fetchResults.resolve lead.promise
          (.ok (c.asideView source fresh)) } := by
  simp only [commitFetch]
  rw [if_neg h]
  rfl

theorem commitFetch_progress_of_outdated (h : c.generation ≠ lead.generation) :
    (c.commitFetch source request lead fresh).progress = .finished
      (.ok (replyOf request (c.asideView source fresh) {})) := by
  simp only [commitFetch]
  rw [if_neg h]
  cases request <;> rfl

/-- What an accepted listing is turned into: merged into the entries if it is of the present
generation, and new instances otherwise. -/
def listingOf (source : Source ρ α) (c : Cache α) (lead : FetchLead) (fresh : List α) :
    Reconciliation α :=
  if c.generation = lead.generation then c.merged source fresh else c.setAside source fresh

/-- The view of an accepted listing. -/
def listingView (source : Source ρ α) (c : Cache α) (lead : FetchLead) (fresh : List α) :
    Snapshot :=
  { c with objects := (c.listingOf source lead fresh).objects }.snapshotOf source
    (c.listingOf source lead fresh).entries (c.generation = lead.generation)

theorem listingView_of_current (h : c.generation = lead.generation) :
    c.listingView source lead fresh = c.mergedView source fresh := by
  simp only [listingView, listingOf, if_pos h, decide_eq_true h]
  rfl

theorem listingView_of_outdated (h : c.generation ≠ lead.generation) :
    c.listingView source lead fresh = c.asideView source fresh := by
  simp only [listingView, listingOf, if_neg h, decide_eq_false h]
  rfl

/-- An accepted listing is told as one view. -/
theorem commitFetch_results (source : Source ρ α) (c : Cache α) (request : Request)
    (lead : FetchLead) (fresh : List α) :
    (c.commitFetch source request lead fresh).cache.lookupResults = c.lookupResults ∧
      (c.commitFetch source request lead fresh).cache.fetchResults =
        c.fetchResults.resolve lead.promise (.ok (c.listingView source lead fresh)) := by
  by_cases h : c.generation = lead.generation
  · rw [commitFetch_of_current h, listingView_of_current h]
    exact ⟨rfl, rfl⟩
  · rw [commitFetch_of_outdated h, listingView_of_outdated h]
    exact ⟨rfl, rfl⟩

/-- The leader is answered the view that all others are told. -/
theorem commitFetch_progress (source : Source ρ α) (c : Cache α) (request : Request)
    (lead : FetchLead) (fresh : List α) :
    ∃ changes, (c.commitFetch source request lead fresh).progress =
      .finished (.ok (replyOf request (c.listingView source lead fresh) changes)) := by
  by_cases h : c.generation = lead.generation
  · exact ⟨_, listingView_of_current h ▸ commitFetch_progress_of_current h⟩
  · exact ⟨_, listingView_of_outdated h ▸ commitFetch_progress_of_outdated h⟩

theorem mem_commitFetch_events_of_current (h : c.generation = lead.generation) {event : Event α}
    (hmem : event ∈ (c.commitFetch source request lead fresh).events) :
    event.isNote = true ∨
      (∃ ref existing object, event = .merged ref existing object ∧
        ref ∈ c.snapshot.entries) ∨
      (∃ ref object, event = .evicted ref object ∧
        ref ∈ (c.merged source fresh).changes.removed) ∨
      (∃ cached objects, request = .refresh ∧
        event = .notified (c.merged source fresh).changes cached objects) := by
  simp only [commitFetch] at hmem
  rw [if_pos h] at hmem
  dsimp only at hmem
  rw [List.mem_append, List.mem_append, List.mem_append] at hmem
  rcases hmem with ((hmem | hmem) | hmem) | hmem
  · rcases mem_reconcile_events hmem with ⟨k, rfl⟩ | hmerged
    · exact .inl rfl
    · exact .inr (.inl hmerged)
  · simp only [List.mem_cons, List.not_mem_nil, or_false] at hmem
    rcases hmem with rfl | rfl <;> exact .inl rfl
  · exact .inr (.inr (.inl (mem_evict_events hmem)))
  · cases request with
    | refresh => exact .inr (.inr (.inr ⟨_, _, rfl, List.mem_singleton.1 hmem⟩))
    | all | one => cases hmem

theorem notes_commitFetch_of_outdated (h : c.generation ≠ lead.generation) :
    Notes (c.commitFetch source request lead fresh).events := by
  intro event hmem
  simp only [commitFetch] at hmem
  rw [if_neg h] at hmem
  rcases List.mem_append.1 hmem with hmem | hmem
  · simp only [List.mem_cons, List.not_mem_nil, or_false] at hmem
    rcases hmem with rfl | rfl <;> rfl
  · obtain ⟨k, rfl⟩ := mem_instantiate_events hmem
    rfl

end Commit

/-- A cache that came out of another one: nothing that was made before is forgotten. -/
structure Grown (c c' : Cache α) : Prop where
  config : c'.config = c.config
  generation : c.generation ≤ c'.generation
  objects : c.objects.size ≤ c'.objects.size
  fetchResults : c.fetchResults.size ≤ c'.fetchResults.size
  lookupResults : c.lookupResults.size ≤ c'.lookupResults.size

theorem Grown.refl (c : Cache α) : Grown c c :=
  ⟨rfl, Nat.le_refl _, Nat.le_refl _, Nat.le_refl _, Nat.le_refl _⟩

theorem Grown.trans {c c' c'' : Cache α} (h : Grown c c') (h' : Grown c' c'') : Grown c c'' where
  config := h'.config.trans h.config
  generation := Nat.le_trans h.generation h'.generation
  objects := Nat.le_trans h.objects h'.objects
  fetchResults := Nat.le_trans h.fetchResults h'.fetchResults
  lookupResults := Nat.le_trans h.lookupResults h'.lookupResults

section Promises

variable {β : Type} {ps : Promises β} {promise other : Nat} {result found : β}

@[simp] theorem size_resolve (ps : Promises β) (promise : Nat) (result : β) :
    (ps.resolve promise result).size = ps.size :=
  Array.size_modify

theorem result?_resolve_self (h : promise < ps.size) :
    (ps.resolve promise result).result? promise = some result := by
  have hsize : promise < (ps.resolve promise result).size := by
    rw [size_resolve]
    exact h
  rw [Promises.result?, Array.getD_eq_getD_getElem?, Array.getElem?_eq_getElem hsize]
  simp [Promises.resolve, Array.getElem_modify]

theorem result?_resolve_of_ne (h : promise ≠ other) :
    (ps.resolve promise result).result? other = ps.result? other := by
  simp [Promises.result?, Promises.resolve, Array.getElem?_modify, h]

/-- What is promised was promised before, or is what was just given. -/
theorem result?_of_resolve (h : (ps.resolve promise result).result? other = some found) :
    ps.result? other = some found ∨ promise = other ∧ result = found := by
  by_cases heq : promise = other
  · subst heq
    refine .inr ⟨rfl, ?_⟩
    -- a promise that was never made stays without a result
    by_cases hlt : promise < ps.size
    · rw [result?_resolve_self hlt] at h
      exact Option.some.inj h
    · simp [Promises.result?, Promises.resolve, hlt] at h
  · rw [result?_resolve_of_ne heq] at h
    exact .inl h

theorem result?_of_push {given : Option β}
    (h : Promises.result? (ps.push given) other = some found) :
    ps.result? other = some found ∨ ps.size = other ∧ given = some found := by
  rw [Promises.result?, Array.getD_eq_getD_getElem?, Array.getElem?_push] at h
  split at h
  next heq => exact .inr ⟨heq.symm, h⟩
  next => exact .inl (Array.getD_eq_getD_getElem?.trans h)

theorem lt_size_of_result? (h : ps.result? promise = some found) : promise < ps.size := by
  by_contra hlt
  simp [Promises.result?, hlt] at h

end Promises

theorem key_eq_of_grown {c' : Cache α} (h : Grown c c') (identity : Identity) :
    c'.key identity = c.key identity := by
  rw [key, key, h.config]

theorem grown_commitFetch (source : Source ρ α) (c : Cache α) (request : Request)
    (lead : FetchLead) (fresh : List α) :
    Grown c (c.commitFetch source request lead fresh).cache := by
  by_cases h : c.generation = lead.generation
  · rw [commitFetch_of_current h]
    refine ⟨rfl, Nat.le_refl _, ?_, ?_, Nat.le_refl _⟩
    · rw [size_evict]
      exact reconcile_size _ _ _ _ _ _
    · exact Nat.le_of_eq (size_resolve _ _ _).symm
  · rw [commitFetch_of_outdated h]
    refine ⟨rfl, Nat.le_refl _, instantiate_size _ _ _, ?_, Nat.le_refl _⟩
    exact Nat.le_of_eq (size_resolve _ _ _).symm

theorem Turned.grown {call : Call} {action : Action ρ α} {turn : Turn α}
    (h : Turned source c call action turn) : Grown c turn.cache := by
  have hpush : ∀ {β : Type} (xs : Array β) (x : β), xs.size ≤ (xs.push x).size := fun xs x => by
    rw [Array.size_push]
    exact Nat.le_succ _
  cases h with
  | rest | quit | remember | learnFetch | learnLookup | joinFetch | joinLookup => exact .refl c
  | leadFetch | tryFetch => exact ⟨rfl, Nat.le_refl _, Nat.le_refl _, hpush _ _, Nat.le_refl _⟩
  | leadLookup | tryLookup => exact ⟨rfl, Nat.le_refl _, Nat.le_refl _, Nat.le_refl _, hpush _ _⟩
  | failFetch =>
    refine ⟨rfl, Nat.le_refl _, Nat.le_refl _, ?_, Nat.le_refl _⟩
    exact Nat.le_of_eq (size_resolve _ _ _).symm
  | listed => exact grown_commitFetch _ _ _ _ _
  | failLookup | absent | present =>
    refine ⟨rfl, Nat.le_refl _, Nat.le_refl _, Nat.le_refl _, ?_⟩
    exact Nat.le_of_eq (size_resolve _ _ _).symm
  | handOut | keep =>
    refine ⟨rfl, Nat.le_refl _, hpush _ _, Nat.le_refl _, ?_⟩
    exact Nat.le_of_eq (size_resolve _ _ _).symm

/-- A listing that is promised after a turn was promised before, or has just been accepted. -/
theorem Turned.fetched {call : Call} {action : Action ρ α} {turn : Turn α} {promise : Nat}
    {view : Snapshot} (hturn : Turned source c call action turn)
    (h : turn.cache.fetchResults.result? promise = some (.ok view)) :
    c.fetchResults.result? promise = some (.ok view) ∨ ∃ lead records events,
      call.stage = .listing lead ∧ lead.promise = promise ∧ Notes events ∧
      action = .listed call.id (.ok records) ∧ turn = (c.commitFetch source call.request lead
        (records.filterMap source.construct)).after events := by
  -- a promise that is made without a view shows none
  have hpush : ∀ {given : Option FetchResult}, given ≠ some (.ok view) →
      Promises.result? (c.fetchResults.push given) promise = some (.ok view) →
      c.fetchResults.result? promise = some (.ok view) := fun hgiven h =>
    (result?_of_push h).resolve_right fun hnew => hgiven hnew.2
  cases hturn with
  | @listed lead records events hstage hnotes =>
    by_cases heq : lead.promise = promise
    · exact .inr ⟨lead, records, events, hstage, heq, hnotes, rfl, rfl⟩
    · refine .inl ?_
      rw [← h, Turn.after]
      by_cases hgeneration : c.generation = lead.generation
      · rw [commitFetch_of_current hgeneration, result?_resolve_of_ne heq]
      · rw [commitFetch_of_outdated hgeneration, result?_resolve_of_ne heq]
  | leadFetch => exact .inl (hpush (by simp) h)
  | tryFetch => exact .inl (hpush (by simp) h)
  | failFetch =>
    refine .inl ((result?_of_resolve h).resolve_right fun hnew => ?_)
    cases hnew.2
  | _ => exact .inl h

/-- An object that is promised after a turn was promised before, or is what the call found. -/
theorem Turned.looked {call : Call} {action : Action ρ α} {turn : Turn α} {promise : Nat}
    {found : Option Ref} (hturn : Turned source c call action turn)
    (h : turn.cache.lookupResults.result? promise = some (.ok found)) :
    c.lookupResults.result? promise = some (.ok found) ∨ ∃ lead,
      call.stage = .lookingUp lead ∧ lead.promise = promise ∧
      turn.progress = .finished (.ok (.object found)) := by
  -- in all four ways in which a lookup is answered, its promise tells what the call answers
  have hend : ∀ {c' : Cache α} {lead : LookupLead} {result : Option Ref},
      c'.lookupResults = c.lookupResults → call.stage = .lookingUp lead →
      turn.progress = .finished (.ok (.object result)) →
      (c'.withFound lead (.ok result)).lookupResults.result? promise = some (.ok found) →
      c.lookupResults.result? promise = some (.ok found) ∨ ∃ lead,
        call.stage = .lookingUp lead ∧ lead.promise = promise ∧
        turn.progress = .finished (.ok (.object found)) := by
    intro c' lead result hsame hstage hprogress hfound
    rcases result?_of_resolve hfound with hold | ⟨rfl, hnew⟩
    · exact .inl (hsame ▸ hold)
    · obtain rfl := Except.ok.inj hnew
      exact .inr ⟨lead, hstage, rfl, hprogress⟩
  cases hturn with
  | leadLookup =>
    exact .inl ((result?_of_push h).resolve_right fun hnew => by cases hnew.2)
  | tryLookup => exact .inl ((result?_of_push h).resolve_right fun hnew => by cases hnew.2)
  | failLookup =>
    exact .inl ((result?_of_resolve h).resolve_right fun hnew => by cases hnew.2)
  | absent hstage => exact hend rfl hstage rfl h
  | present hstage => exact hend rfl hstage rfl h
  | handOut hstage => exact hend rfl hstage rfl h
  | keep hstage => exact hend rfl hstage rfl h
  | @listed lead records =>
    refine .inl ?_
    rw [← h, Turn.after]
    by_cases hgeneration : c.generation = lead.generation
    · rw [commitFetch_of_current hgeneration]
    · rw [commitFetch_of_outdated hgeneration]
  | _ => exact .inl h

/-- What an edit does not touch: what is in flight, and what was promised. -/
structure SameFlights (c c' : Cache α) : Prop where
  config : c'.config = c.config
  fetch : c'.fetch = c.fetch
  lookups : c'.lookups = c.lookups
  fetchResults : c'.fetchResults = c.fetchResults
  lookupResults : c'.lookupResults = c.lookupResults

theorem sameFlights_edit (source : Source ρ α) (c : Cache α) (edit : Edit α) :
    SameFlights c (edit.apply source c).2.1 := by
  cases edit with
  | set | clear | reconcile | sort | change => exact ⟨rfl, rfl, rfl, rfl, rfl⟩
  | insert object =>
    simp only [Edit.apply, insert]
    split
    next h => split at h <;> cases h; exact ⟨rfl, rfl, rfl, rfl, rfl⟩
    next h => exact ⟨rfl, rfl, rfl, rfl, rfl⟩
  | remove identity =>
    simp only [Edit.apply, remove]
    split <;> exact ⟨rfl, rfl, rfl, rfl, rfl⟩

theorem grown_edit (source : Source ρ α) (c : Cache α) (edit : Edit α) :
    Grown c (edit.apply source c).2.1 := by
  have hflights := sameFlights_edit source c edit
  -- only generations and instances are left to look at
  have hrest : c.generation ≤ (edit.apply source c).2.1.generation ∧
      c.objects.size ≤ (edit.apply source c).2.1.objects.size := by
    cases edit with
    | set fresh =>
      refine ⟨Nat.le_succ _, ?_⟩
      exact Nat.le_trans (instantiate_size (c.objectKey source) c.objects fresh)
        (Nat.le_of_eq (size_evict _ _ _).symm)
    | clear => exact ⟨Nat.le_succ _, Nat.le_of_eq (size_evict _ _ _).symm⟩
    | reconcile merge fresh =>
      refine ⟨Nat.le_refl _, ?_⟩
      exact Nat.le_trans (reconcile_size (c.objectKey source) source.isPersisted merge c.objects
        c.snapshot.entries fresh) (Nat.le_of_eq (size_evict _ _ _).symm)
    | insert object =>
      simp only [Edit.apply, insert]
      split
      next h =>
        split at h <;> cases h
        refine ⟨Nat.le_refl _, ?_⟩
        simp [publish]
      next h => exact ⟨Nat.le_refl _, Nat.le_refl _⟩
    | remove identity =>
      simp only [Edit.apply, remove]
      split
      next => exact ⟨Nat.le_refl _, Nat.le_refl _⟩
      next ref _ =>
        exact ⟨Nat.le_refl _, Nat.le_of_eq (size_evict source c.objects [ref]).symm⟩
    | sort le => exact ⟨Nat.le_refl _, Nat.le_refl _⟩
    | change ref f => exact ⟨Nat.le_refl _, Nat.le_of_eq Array.size_modify.symm⟩
  exact ⟨hflights.config, hrest.1, hrest.2, Nat.le_of_eq (by rw [hflights.fetchResults]),
    Nat.le_of_eq (by rw [hflights.lookupResults])⟩

end CatalogBrowser.Cache
