import CatalogBrowser.Proofs.Cache.Run

/-!
# Where instances come from

Whatever a turn or an edit publishes, promises or answers names instances that were published
before, that the promise it waited for names, or that have just been made. A leader of an older
generation makes instances for those who wait for it, and touches nothing else.

## Main definitions

* `Snapshot.refs`, `Reply.names` - the instances that a view or a reply names.
* `Known` - an instance that was published, or has just been made.
* `Accounted` - everything that a turn names is accounted for.
* `Founded` - everything that is published was made.
* `Call.Outdated`, `Unnoticed` - a leader of an older generation, and what becomes of its turn.

## Main statements

* `Turned.accounted`, `known_edit` - nothing comes from anywhere else.
* `Machine.Numbered.known_step` - an action publishes nothing that comes from anywhere else.
* `Turned.unnoticed` - an outdated leader is not noticed.
-/

namespace CatalogBrowser.Cache

variable {ρ α : Type} {source : Source ρ α} {c c' : Cache α}

/-- The instances that a view names. -/
def Snapshot.refs (view : Snapshot) : List Ref :=
  view.entries ++ view.index.map Prod.snd

/-- The instances that a reply names. -/
def Reply.names : Reply → List Ref
  | .objects refs => refs
  | .changes delta => delta.added ++ delta.removed ++ delta.updated
  | .object found => found.toList

/-- An instance that was published, or has been made since. -/
def Known (c c' : Cache α) (ref : Ref) : Prop :=
  ref ∈ c.snapshot.refs ∨ c.objects.size ≤ ref ∧ ref < c'.objects.size

section View

variable {entries : List Ref} {ref : Ref}

/-- The index of a view names nothing but its entries. -/
@[simp] theorem mem_refs_snapshotOf {complete : Bool} :
    ref ∈ (c.snapshotOf source entries complete).refs ↔ ref ∈ entries := by
  rw [Snapshot.refs, List.mem_append]
  constructor
  · rintro (hentry | hindex)
    · exact hentry
    · obtain ⟨entry, hentry, rfl⟩ := List.mem_map.1 hindex
      have hkeyed : entry ∈ keyed (c.objectKey source) c.objects entries :=
        List.mem_reverse.1 hentry
      exact (mem_keyed_iff.1 hkeyed).1
  · exact .inl

theorem mem_refs_of_mem_entries {view : Snapshot} (h : ref ∈ view.entries) : ref ∈ view.refs :=
  List.mem_append_left _ h

theorem mem_refs_of_find? {view : Snapshot} {key : Key} (h : view.find? key = some ref) :
    ref ∈ view.refs :=
  List.mem_append_right _ (List.mem_map.2 ⟨(key, ref), Association.mem_of_lookup h, rfl⟩)

theorem mem_refs_of_replyFrom {request : Request} {view : Snapshot}
    (h : ref ∈ (request.replyFrom c view).names) : ref ∈ view.refs := by
  cases request with
  | all | refresh => exact mem_refs_of_mem_entries h
  | one identity => exact mem_refs_of_find? (Option.mem_toList.1 h)

theorem mem_refs_of_recalls {request : Request} {reply : Reply}
    (hrecalls : Recalls c request reply) (h : ref ∈ reply.names) : ref ∈ c.snapshot.refs := by
  cases hrecalls with
  | all => exact mem_refs_of_mem_entries h
  | one hcached =>
    obtain rfl := List.mem_singleton.1 h
    exact mem_refs_of_find? hcached
  | none => cases h

theorem mem_mergedView_refs {fresh : List α} (h : ref ∈ (c.mergedView source fresh).refs) :
    ref ∈ c.snapshot.refs ∨
      c.objects.size ≤ ref ∧ ref < (c.merged source fresh).objects.size :=
  (mem_reconcile_entries (mem_refs_snapshotOf.1 h)).imp_left mem_refs_of_mem_entries

theorem mem_asideView_refs {fresh : List α} (h : ref ∈ (c.asideView source fresh).refs) :
    c.objects.size ≤ ref ∧ ref < (c.setAside source fresh).objects.size := by
  have hentry := mem_refs_snapshotOf.1 h
  exact ⟨size_le_of_mem_instantiate hentry, (distinct_instantiate _ _ _).lt_size ref hentry⟩

end View

theorem made_of_set {fresh : List α} {ref : Ref}
    (h : ref ∈ (c.set source fresh).1.snapshot.refs) :
    c.objects.size ≤ ref ∧ ref < (c.set source fresh).1.objects.size := by
  have hentry : ref ∈ (instantiate (c.objectKey source) c.objects fresh).entries :=
    mem_refs_snapshotOf.1 h
  refine ⟨size_le_of_mem_instantiate hentry, ?_⟩
  exact Nat.lt_of_lt_of_eq ((distinct_instantiate _ _ _).lt_size ref hentry)
    (size_evict _ _ _).symm

/-- An edit publishes what was published and what it makes. -/
theorem known_edit {edit : Edit α} {ref : Ref}
    (h : ref ∈ (edit.apply source c).2.1.snapshot.refs) :
    Known c (edit.apply source c).2.1 ref := by
  have hgrown := grown_edit source c edit
  cases edit with
  | set fresh => exact .inr (made_of_set h)
  | clear => cases h
  | reconcile merge fresh =>
    have hentry : ref ∈ (Cache.reconcile (c.objectKey source) source.isPersisted merge c.objects
        c.snapshot.entries fresh).entries := mem_refs_snapshotOf.1 h
    rcases mem_reconcile_entries hentry with hold | ⟨hnew, hlt⟩
    · exact .inl (mem_refs_of_mem_entries hold)
    · exact .inr ⟨hnew, Nat.lt_of_lt_of_eq hlt (size_evict _ _ _).symm⟩
  | insert object =>
    simp only [Edit.apply, insert] at h ⊢
    cases hfind : c.snapshot.find? (c.objectKey source object) with
    | none =>
      rw [hfind] at h
      rcases List.mem_append.1 (mem_refs_snapshotOf.1 h) with hold | hnew
      · exact .inl (mem_refs_of_mem_entries hold)
      · rw [List.mem_singleton.1 hnew]
        refine .inr ⟨Nat.le_refl _, ?_⟩
        show c.objects.size < (c.objects.push object).size
        rw [Array.size_push]
        exact Nat.lt_succ_self _
    | some old =>
      rw [hfind] at h
      exact .inl h
  | remove identity =>
    simp only [Edit.apply, remove] at h ⊢
    cases hfind : c.cachedObject? identity with
    | none =>
      rw [hfind] at h
      exact .inl h
    | some old =>
      rw [hfind] at h
      have hentry := List.mem_of_mem_filter (mem_refs_snapshotOf.1 h)
      exact .inl (mem_refs_of_mem_entries hentry)
  | sort le =>
    have hentry := (List.mergeSort_perm _ _).subset (mem_refs_snapshotOf.1 h)
    exact .inl (mem_refs_of_mem_entries hentry)
  | change => exact .inl h

/-- Everything that a turn publishes, promises or answers is accounted for. -/
structure Accounted (c : Cache α) (call : Call) (turn : Turn α) : Prop where
  published : ∀ ref ∈ turn.cache.snapshot.refs, Known c turn.cache ref
  fetched : ∀ promise view, turn.cache.fetchResults.result? promise = some (.ok view) →
    c.fetchResults.result? promise = some (.ok view) ∨
      ∀ ref ∈ view.refs, Known c turn.cache ref
  found : ∀ promise ref, turn.cache.lookupResults.result? promise = some (.ok (some ref)) →
    c.lookupResults.result? promise = some (.ok (some ref)) ∨ Known c turn.cache ref
  answered : ∀ reply, turn.progress = .finished (.ok reply) → ∀ ref ∈ reply.names,
    Known c turn.cache ref ∨
      (∃ promise view, call.stage = .awaitingFetch promise true ∧
        c.fetchResults.result? promise = some (.ok view) ∧ ref ∈ view.refs) ∨
      ∃ promise, call.stage = .awaitingLookup promise true ∧
        c.lookupResults.result? promise = some (.ok (some ref))

section Commit

variable {request : Request} {lead : FetchLead} {fresh : List α}

/-- An accepted listing gives one view, to all who wait for it and to memory. -/
theorem commitFetch_known (source : Source ρ α) (c : Cache α) (request : Request)
    (lead : FetchLead) (fresh : List α) :
    let turn := c.commitFetch source request lead fresh
    ∃ view, turn.cache.fetchResults = c.fetchResults.resolve lead.promise (.ok view) ∧
      (turn.cache.snapshot = c.snapshot ∨ turn.cache.snapshot = view) ∧
      (∀ ref ∈ view.refs, Known c turn.cache ref) ∧
      ∃ reply, turn.progress = .finished (.ok reply) ∧
        ∀ ref ∈ reply.names, Known c turn.cache ref := by
  intro turn
  by_cases h : c.generation = lead.generation
  · have hcache : turn.cache = _ := commitFetch_of_current h
    have hsize : turn.cache.objects.size = (c.merged source fresh).objects.size := by
      rw [hcache]
      exact size_evict _ _ _
    have hview : ∀ ref ∈ (c.mergedView source fresh).refs, Known c turn.cache ref := by
      intro ref href
      rw [Known, hsize]
      exact mem_mergedView_refs href
    refine ⟨_, by rw [hcache], .inr (by rw [hcache]), hview, _,
      commitFetch_progress_of_current h, fun ref href => ?_⟩
    cases request with
    | all | one => exact hview ref (mem_refs_of_mem_entries href)
    | refresh =>
      rw [Known, hsize]
      have hchanges := List.mem_append.1 href
      rw [List.mem_append, or_assoc] at hchanges
      exact (mem_reconcile_changes hchanges).imp_left mem_refs_of_mem_entries
  · -- a listing that is set aside names new instances only
    have hcache : turn.cache = _ := commitFetch_of_outdated h
    have hview : ∀ ref ∈ (c.asideView source fresh).refs, Known c turn.cache ref := by
      intro ref href
      rw [Known, hcache]
      exact .inr (mem_asideView_refs href)
    refine ⟨_, by rw [hcache], .inl (by rw [hcache]), hview, _,
      commitFetch_progress_of_outdated h, fun ref href => ?_⟩
    cases request with
    | all | one => exact hview ref (mem_refs_of_mem_entries href)
    | refresh => cases href

end Commit

section Turn

variable {call : Call} {action : Action ρ α} {turn : Turn α} {ref : Ref}

theorem known_push (hobjects : c'.objects.size = c.objects.size + 1) :
    Known c c' c.objects.size :=
  .inr ⟨Nat.le_refl _, by rw [hobjects]; exact Nat.lt_succ_self _⟩

theorem Turned.published (hturn : Turned source c call action turn)
    (href : ref ∈ turn.cache.snapshot.refs) : Known c turn.cache ref := by
  cases hturn with
  | @listed lead records =>
    obtain ⟨view, -, hsnapshot, hview, -⟩ := commitFetch_known source c call.request lead
      (records.filterMap source.construct)
    rw [Turn.after] at href
    rcases hsnapshot with hsame | hnew
    · exact .inl (hsame ▸ href)
    · exact hview ref (hnew ▸ href)
  | @keep lead record object =>
    rcases List.mem_append.1 (mem_refs_snapshotOf.1 href) with hold | hnew
    · exact .inl (mem_refs_of_mem_entries hold)
    · rw [List.mem_singleton.1 hnew]
      exact known_push (Array.size_push object)
  | _ => exact .inl href

/-- A turn answers what it knows, or what the promise that it waited for names. -/
theorem Turned.answered (hturn : Turned source c call action turn) {reply : Reply}
    (hreply : turn.progress = .finished (.ok reply)) (href : ref ∈ reply.names) :
    Known c turn.cache ref ∨
      (∃ promise view, call.stage = .awaitingFetch promise true ∧
        c.fetchResults.result? promise = some (.ok view) ∧ ref ∈ view.refs) ∨
      ∃ promise, call.stage = .awaitingLookup promise true ∧
        c.lookupResults.result? promise = some (.ok (some ref)) := by
  cases hturn with
  | remember _ hrecalls =>
    obtain rfl := Except.ok.inj (Progress.finished.inj hreply)
    exact .inl (.inl (mem_refs_of_recalls hrecalls href))
  | @learnFetch _ promise result hstage hresult =>
    cases result with
    | error error => cases hreply
    | ok view =>
      obtain rfl := Except.ok.inj (Progress.finished.inj hreply)
      exact .inr (.inl ⟨promise, view, hstage, hresult, mem_refs_of_replyFrom href⟩)
  | @learnLookup _ promise result hstage hresult =>
    cases result with
    | error error => cases hreply
    | ok found =>
      obtain rfl := Except.ok.inj (Progress.finished.inj hreply)
      obtain rfl := Option.mem_toList.1 href
      exact .inr (.inr ⟨promise, hstage, hresult⟩)
  | @listed lead records =>
    obtain ⟨-, -, -, -, other, hother, hknown⟩ := commitFetch_known source c call.request lead
      (records.filterMap source.construct)
    obtain rfl := Except.ok.inj (Progress.finished.inj (hother.symm.trans hreply))
    exact .inl (hknown ref href)
  | absent =>
    obtain rfl := Except.ok.inj (Progress.finished.inj hreply)
    cases href
  | present _ _ hcached =>
    obtain rfl := Except.ok.inj (Progress.finished.inj hreply)
    rw [List.mem_singleton.1 href]
    exact .inl (.inl (mem_refs_of_find? hcached))
  | @handOut _ _ object | @keep _ _ object =>
    obtain rfl := Except.ok.inj (Progress.finished.inj hreply)
    rw [List.mem_singleton.1 href]
    exact .inl (known_push (Array.size_push object))
  | _ => cases hreply

/-- A turn names nothing that comes from anywhere else. -/
theorem Turned.accounted (hturn : Turned source c call action turn) : Accounted c call turn where
  published _ := hturn.published
  fetched promise view hview := by
    rcases hturn.fetched hview with hold | ⟨lead, records, events, -, -, -, -, rfl⟩
    · exact .inl hold
    · obtain ⟨other, hresults, -, hknown, -⟩ := commitFetch_known source c call.request lead
        (records.filterMap source.construct)
      rw [Turn.after, hresults] at hview
      rcases result?_of_resolve hview with hold | ⟨-, hnew⟩
      · exact .inl hold
      · obtain rfl := Except.ok.inj hnew
        exact .inr hknown
  found promise ref href := by
    refine (hturn.looked href).imp_right ?_
    rintro ⟨lead, hstage, -, hprogress⟩
    have hnamed : ref ∈ (Reply.object (some ref)).names := List.mem_singleton_self ref
    -- the call leads a lookup, so it waits for no promise
    rcases hturn.answered hprogress hnamed with hknown | ⟨_, _, hother, -⟩ | ⟨_, hother, -⟩
    · exact hknown
    · rw [hstage] at hother
      cases hother
    · rw [hstage] at hother
      cases hother
  answered _ hreply _ := hturn.answered hreply

end Turn

/-- A call that leads a fetch or a lookup of an older generation. -/
def Call.Outdated (c : Cache α) (call : Call) : Prop :=
  match call.stage with
  | .listing lead => lead.generation ≠ c.generation
  | .lookingUp lead => lead.generation ≠ c.generation
  | _ => False

/-- What nobody notices who looks at the cache, at one of its instances, or at its events: at most
new instances were made, and reports written. -/
structure Unnoticed (c c' : Cache α) (events : List (Event α)) : Prop where
  snapshot : c'.snapshot = c.snapshot
  freshness : c'.freshness = c.freshness
  generation : c'.generation = c.generation
  objects : ∀ ref < c.objects.size, c'.object? ref = c.object? ref
  events : Notes events

/-- Nobody notices a turn of an outdated leader. -/
theorem Turned.unnoticed {call : Call} {action : Action ρ α} {turn : Turn α}
    (hturn : Turned source c call action turn) (h : call.Outdated c) :
    Unnoticed c turn.cache turn.events := by
  have hremote : call.stage.isRemote = true := by
    unfold Call.Outdated at h
    split at h
    next hstage => rw [hstage]; rfl
    next hstage => rw [hstage]; rfl
    next => exact h.elim
  have hlocal : call.stage.isRemote ≠ false := by rw [hremote]; exact Bool.noConfusion
  have hpush : ∀ (object : α), ∀ ref < c.objects.size,
      (c.objects.push object)[ref]? = c.objects[ref]? := fun object ref hlt =>
    getElem?_push_of_lt hlt object
  cases hturn with
  | rest => exact ⟨rfl, rfl, rfl, fun _ _ => rfl, notes_nil⟩
  | quit hstage | remember hstage => exact absurd hstage hlocal
  | joinFetch hstage | joinLookup hstage => exact absurd hstage hlocal
  | learnFetch hstage | learnLookup hstage => rw [hstage] at hremote; cases hremote
  | leadFetch hstage | leadLookup hstage => exact absurd hstage hlocal
  | tryFetch hstage | tryLookup hstage => exact absurd hstage hlocal
  | @failFetch _ lead error _ hstage hnotes =>
    rw [Call.Outdated, hstage] at h
    refine ⟨rfl, ?_, rfl, fun _ _ => rfl, hnotes⟩
    show (if c.generation = lead.generation then lead.prior else c.freshness) = c.freshness
    rw [if_neg (Ne.symm h)]
  | failLookup => exact ⟨rfl, rfl, rfl, fun _ _ => rfl, notes_nil⟩
  | @listed lead records events hstage hnotes =>
    rw [Call.Outdated, hstage] at h
    have hcommit : (c.commitFetch source call.request lead
        (records.filterMap source.construct)).cache = _ := commitFetch_of_outdated (Ne.symm h)
    refine ⟨?_, ?_, ?_, ?_, hnotes.append (notes_commitFetch_of_outdated (Ne.symm h))⟩
    · rw [Turn.after, hcommit]
    · rw [Turn.after, hcommit]
    · rw [Turn.after, hcommit]
    · intro ref hlt
      rw [Turn.after, hcommit]
      exact instantiate_getElem? _ _ hlt
  | absent | present => exact ⟨rfl, rfl, rfl, fun _ _ => rfl, notes_nil⟩
  | @handOut lead record object _ _ _ _ _ hnotes =>
    exact ⟨rfl, rfl, rfl, hpush object, hnotes⟩
  | keep hstage _ _ hgeneration =>
    rw [Call.Outdated, hstage] at h
    exact absurd hgeneration.symm h

/-- Everything that is published was made. -/
def Founded (c : Cache α) : Prop :=
  ∀ ref ∈ c.snapshot.refs, ref < c.objects.size

namespace Machine

variable {m : Machine α} {action : Action ρ α}

/-- An action publishes what was published before, and what it makes. -/
theorem Numbered.known_step (h : m.Numbered) {ref : Ref}
    (href : ref ∈ (m.step source action).machine.cache.snapshot.refs) :
    Known m.cache (m.step source action).machine.cache ref := by
  cases h.stepped source action with
  | idle cache => exact .inl (cache ▸ href)
  | start _ _ cache => exact .inl (cache ▸ href)
  | turn _ turned _ cache =>
    rw [cache] at href ⊢
    exact turned.published href
  | edit edit _ cache =>
    rw [cache] at href ⊢
    exact known_edit href

theorem Numbered.founded_step (h : m.Numbered) (hfounded : m.cache.Founded) (source : Source ρ α)
    (action : Action ρ α) : (m.step source action).machine.cache.Founded := by
  intro ref href
  rcases h.known_step href with hold | ⟨-, hlt⟩
  · exact Nat.lt_of_lt_of_le (hfounded ref hold) (h.grown_step source action).objects
  · exact hlt

theorem Numbered.founded_run (h : m.Numbered) (hfounded : m.cache.Founded) (source : Source ρ α)
    (actions : List (Action ρ α)) : (m.run source actions).machine.cache.Founded :=
  (run_preserves (P := fun m => m.Numbered ∧ m.cache.Founded)
    (fun _ action h => ⟨h.1.step source action, h.1.founded_step h.2 source action⟩)
    ⟨h, hfounded⟩ actions).2

theorem founded_new (config : Config) (monitors : Monitors) :
    (new config monitors : Machine α).cache.Founded := by
  simp [Founded, new, Snapshot.refs]

end Machine

end CatalogBrowser.Cache
