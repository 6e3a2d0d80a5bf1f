import CatalogBrowser.Cache.Scripted
import CatalogBrowser.Proofs.Cache.Run

/-!
# The index of a view

Every view that a cache publishes or hands out has entries with pairwise distinct keys, and an index
that finds each of them under its key and nothing else. All that this takes of the world outside is
that objects keep their keys while they are cached.

## Main definitions

* `Snapshot.Indexed` - the invariant: distinct keys, and the index that was built from them.
* `Snapshot.Exact` - what a reader may rely on: the index finds the entry under its key.
* `KeepsIdentity` - an action gives no cached object another key.

## Main statements

* `Turned.indexed`, `indexed_edit` - turns and edits keep the published view indexed.
* `Machine.run_exact` - views are exact in every run.
-/

namespace CatalogBrowser.Cache

variable {ρ α : Type} {source : Source ρ α}

section Snapshot

variable {key : α → Key} {objects others : Array α} {refs : List Ref} {snapshot : Snapshot}

/-- A view of instances with distinct keys, indexed by these keys. -/
structure Snapshot.Indexed (key : α → Key) (objects : Array α) (snapshot : Snapshot) : Prop where
  distinct : Distinct key objects snapshot.entries
  index : snapshot.index = (keyed key objects snapshot.entries).reverse

/-- A view whose entries have pairwise distinct keys, and whose index is the map from these keys to
the entries. -/
structure Snapshot.Exact (keyOf : Ref → Option Key) (snapshot : Snapshot) : Prop where
  keyed : ∀ ref ∈ snapshot.entries, ∃ key, keyOf ref = some key
  nodup : (snapshot.entries.map keyOf).Nodup
  find? : ∀ key ref, snapshot.find? key = some ref ↔
    ref ∈ snapshot.entries ∧ keyOf ref = some key

theorem Distinct.congr (h : Distinct key objects refs)
    (hkeys : ∀ ref ∈ refs, keyAt key others ref = keyAt key objects ref) :
    Distinct key others refs where
  lt_size ref href := by
    have hlt := h.lt_size ref href
    have hkey : keyAt key objects ref = some (key objects[ref]) := by
      rw [keyAt, Array.getElem?_eq_getElem hlt]
      rfl
    exact lt_size_of_keyAt ((hkeys ref href).trans hkey)
  nodup := by
    rw [List.map_congr_left hkeys]
    exact h.nodup

theorem Distinct.sublist {fewer : List Ref} (h : Distinct key objects refs)
    (hsub : fewer.Sublist refs) : Distinct key objects fewer where
  lt_size ref href := h.lt_size ref (hsub.subset href)
  nodup := h.nodup.sublist (hsub.map _)

theorem Distinct.perm {sorted : List Ref} (h : Distinct key objects refs)
    (hperm : sorted.Perm refs) : Distinct key objects sorted where
  lt_size ref href := h.lt_size ref (hperm.subset href)
  nodup := (hperm.map _).nodup_iff.2 h.nodup

theorem Snapshot.Indexed.congr (h : snapshot.Indexed key objects)
    (hkeys : ∀ ref ∈ snapshot.entries, keyAt key others ref = keyAt key objects ref) :
    snapshot.Indexed key others where
  distinct := h.distinct.congr hkeys
  index := by rw [h.index, keyed_congr hkeys]

/-- A view that is indexed is exact. -/
theorem Snapshot.Indexed.exact (h : snapshot.Indexed key objects) :
    snapshot.Exact (keyAt key objects) where
  keyed ref href := by
    have hlt := h.distinct.lt_size ref href
    exact ⟨key objects[ref], by rw [keyAt, Array.getElem?_eq_getElem hlt]; rfl⟩
  nodup := h.distinct.nodup
  find? k ref := by
    rw [Snapshot.find?, h.index, Association.lookup_eq_some_iff_mem h.distinct.waits.nodup,
      List.mem_reverse, mem_keyed_iff]

theorem Snapshot.Indexed.find?_eq_some_iff (h : snapshot.Indexed key objects) {k : Key}
    {ref : Ref} :
    snapshot.find? k = some ref ↔ ref ∈ snapshot.entries ∧ keyAt key objects ref = some k :=
  h.exact.find? k ref

/-- A view of distinct instances is indexed. -/
theorem indexed_snapshotOf (c : Cache α) (complete : Bool)
    (h : Distinct (c.objectKey source) objects refs) :
    ({ c with objects }.snapshotOf source refs complete).Indexed (c.objectKey source) objects where
  distinct := h
  index := rfl

theorem indexed_empty (key : α → Key) (objects : Array α) :
    ({} : Snapshot).Indexed key objects where
  distinct := distinct_nil key objects
  index := rfl

theorem Snapshot.Indexed.distinct_append (h : snapshot.Indexed key objects) {object : α}
    (hfree : snapshot.find? (key object) = none) :
    Distinct key (objects.push object) (snapshot.entries ++ [objects.size]) where
  lt_size ref href := by
    rw [Array.size_push]
    rcases List.mem_append.1 href with href | href
    · exact Nat.lt_succ_of_lt (h.distinct.lt_size ref href)
    · rw [List.mem_singleton.1 href]
      exact Nat.lt_succ_self _
  nodup := by
    have hold : ∀ ref ∈ snapshot.entries,
        keyAt key (objects.push object) ref = keyAt key objects ref := fun ref href =>
      keyAt_push_of_lt (h.distinct.lt_size ref href) object
    have hnew : keyAt key (objects.push object) objects.size = some (key object) := by
      rw [keyAt, Array.getElem?_push_size]
      rfl
    rw [List.map_append, List.map_congr_left hold, List.map_singleton, hnew, List.nodup_append]
    refine ⟨h.distinct.nodup, List.nodup_singleton _, ?_⟩
    intro k hk l hl heq
    obtain ⟨ref, href, rfl⟩ := List.mem_map.1 hk
    rw [List.mem_singleton.1 hl] at heq
    rw [h.find?_eq_some_iff.2 ⟨href, heq⟩] at hfree
    cases hfree

theorem Snapshot.Indexed.evict (h : snapshot.Indexed key objects) (source : Source ρ α)
    {dropped : List Ref} (hdropped : ∀ ref ∈ dropped, ref ∉ snapshot.entries) :
    snapshot.Indexed key (evict source objects dropped).1 := by
  refine h.congr fun ref href => ?_
  rw [keyAt, keyAt, evict_getElem? source fun hmem => hdropped ref hmem href]

end Snapshot

section Turn

variable {c : Cache α}

/-- The published view of a cache is indexed. -/
def Indexed (source : Source ρ α) (c : Cache α) : Prop :=
  c.snapshot.Indexed (c.objectKey source) c.objects

/-- A view that is published or handed out by accepting a listing is indexed, and the leader is told
of the same view as everyone else. -/
theorem Indexed.commitFetch (h : c.Indexed source)
    (hmerge : KeepsKeys (c.objectKey source) source.merge) (request : Request) (lead : FetchLead)
    (fresh : List α) :
    let turn := c.commitFetch source request lead fresh
    turn.cache.Indexed source ∧ ∃ view changes,
      turn.cache.fetchResults = c.fetchResults.resolve lead.promise (.ok view) ∧
      view.Indexed (turn.cache.objectKey source) turn.cache.objects ∧
      turn.progress = .finished (.ok (replyOf request view changes)) := by
  intro turn
  by_cases hgeneration : c.generation = lead.generation
  · have hcache : turn.cache = _ := commitFetch_of_current hgeneration
    have hview : (c.mergedView source fresh).Indexed (c.objectKey source)
        (c.merged source fresh).objects :=
      indexed_snapshotOf c true (h.distinct.reconcile hmerge source.isPersisted fresh)
    -- what is dropped was removed, so it is not in the new view
    have hgone : ∀ ref ∈ (c.merged source fresh).changes.removed,
        ref ∉ (c.mergedView source fresh).entries := fun ref href =>
      h.distinct.not_mem_reconcile_entries hmerge source.isPersisted fresh href
    have hevict := hview.evict source hgone
    rw [hcache]
    exact ⟨hevict, _, _, rfl, hevict, commitFetch_progress_of_current hgeneration⟩
  · have hcache : turn.cache = _ := commitFetch_of_outdated hgeneration
    have hview : (c.asideView source fresh).Indexed (c.objectKey source)
        (c.setAside source fresh).objects :=
      indexed_snapshotOf c false (distinct_instantiate _ _ _)
    rw [hcache]
    refine ⟨h.congr fun ref href => ?_, _, _, rfl, hview,
      commitFetch_progress_of_outdated hgeneration⟩
    have hold := instantiate_getElem? (c.objectKey source) fresh (h.distinct.lt_size ref href)
    exact congrArg (Option.map (c.objectKey source)) hold

/-- Turns keep the published view indexed. -/
theorem Turned.indexed {call : Call} {action : Action ρ α} {turn : Turn α} (h : c.Indexed source)
    (hmerge : KeepsKeys (c.objectKey source) source.merge)
    (hturn : Turned source c call action turn) : turn.cache.Indexed source := by
  cases hturn with
  | listed => exact (h.commitFetch hmerge _ _ _).1
  | @handOut lead record object =>
    refine h.congr fun ref href => ?_
    exact keyAt_push_of_lt (h.distinct.lt_size ref href) object
  | keep _ _ hfree => exact indexed_snapshotOf c false (h.distinct_append hfree)
  | _ => exact h

/-- An action that gives no cached object another key. -/
def KeepsIdentity (source : Source ρ α) (m : Machine α) : Action ρ α → Prop
  | .edit (.reconcile merge _) => KeepsKeys (m.cache.objectKey source) merge
  | .edit (.change ref f) => ref ∈ m.cache.snapshot.entries →
    ∀ object, m.cache.object? ref = some object →
      m.cache.objectKey source (f object) = m.cache.objectKey source object
  | _ => True

/-- Edits keep the published view indexed, unless they change the key of a cached object. -/
theorem indexed_edit {m : Machine α} {edit : Edit α} (h : m.cache.Indexed source)
    (hkeeps : KeepsIdentity source m (.edit edit)) :
    (edit.apply source m.cache).2.1.Indexed source := by
  cases edit with
  | set fresh =>
    -- what is dropped was there before, and the new view names new instances only
    have hview := indexed_snapshotOf m.cache true
      (distinct_instantiate (m.cache.objectKey source) m.cache.objects fresh)
    refine hview.evict source fun ref href hnew => ?_
    have hlt := h.distinct.lt_size ref href
    exact Nat.not_lt.2 (size_le_of_mem_instantiate hnew) hlt
  | clear => exact indexed_empty _ _
  | reconcile merge fresh =>
    have hview := indexed_snapshotOf m.cache true
      (h.distinct.reconcile hkeeps source.isPersisted fresh)
    exact hview.evict source fun ref href =>
      h.distinct.not_mem_reconcile_entries hkeeps source.isPersisted fresh href
  | insert object =>
    simp only [Edit.apply, insert]
    cases hfind : m.cache.snapshot.find? (m.cache.objectKey source object) with
    | none => exact indexed_snapshotOf m.cache _ (h.distinct_append hfind)
    | some ref => exact h
  | remove identity =>
    simp only [Edit.apply, remove]
    cases hfind : m.cache.cachedObject? identity with
    | none => exact h
    | some ref =>
      have hrest : Distinct (m.cache.objectKey source) m.cache.objects
          (m.cache.snapshot.entries.filter (· ≠ ref)) :=
        h.distinct.sublist List.filter_sublist
      have hview := indexed_snapshotOf m.cache m.cache.snapshot.complete hrest
      have hgone : ∀ other ∈ [ref], other ∉ m.cache.snapshot.entries.filter (· ≠ ref) := by
        simp
      exact hview.evict source hgone
  | sort le =>
    exact indexed_snapshotOf m.cache _ (h.distinct.perm (List.mergeSort_perm _ _))
  | change ref f =>
    refine h.congr fun other hother => ?_
    by_cases heq : ref = other
    · subst heq
      show ((m.cache.objects.modify ref f)[ref]?).map _ = (m.cache.objects[ref]?).map _
      rw [Array.getElem?_modify, if_pos rfl, Option.map_map]
      exact Option.map_congr fun object hobject => hkeeps hother object hobject
    · show ((m.cache.objects.modify ref f)[other]?).map _ = (m.cache.objects[other]?).map _
      rw [Array.getElem?_modify, if_neg heq]

end Turn

/-- The key of an instance in its present state. -/
def keyOf? (source : Source ρ α) (c : Cache α) (ref : Ref) : Option Key :=
  (c.object? ref).map (c.objectKey source)

/-- The key of an object in the caches of a configuration. -/
def Config.objectKey (config : Config) (source : Source ρ α) (object : α) : Key :=
  config.keyPolicy.key (source.identity object)

theorem objectKey_of_config {c : Cache α} {config : Config} (h : c.config = config) :
    c.objectKey source = config.objectKey source := by
  subst h
  rfl

theorem Indexed.exact {c : Cache α} (h : c.Indexed source) :
    c.snapshot.Exact (c.keyOf? source) :=
  Snapshot.Indexed.exact h

namespace Machine

variable {m : Machine α}

/-- An action that hands a view out to the callers of a fetch, which is exact at that moment. -/
structure HandsOut (source : Source ρ α) (m : Machine α) (action : Action ρ α) (promise : Nat)
    (view : Snapshot) : Prop where
  /-- Nobody could read the view before. -/
  before : m.cache.fetchResults.result? promise ≠ some (.ok view)
  /-- All who wait for the fetch can read it now. -/
  after : (m.step source action).machine.cache.fetchResults.result? promise = some (.ok view)
  exact : view.Exact ((m.step source action).machine.cache.keyOf? source)
  /-- The call that led the fetch is told of the same view. -/
  told : ∀ id refs, (id, .ok (.objects refs)) ∈ (m.step source action).finished →
    refs = view.entries

theorem Numbered.indexed_step (h : m.Numbered) (hindexed : m.cache.Indexed source)
    (hmerge : KeepsKeys (m.cache.objectKey source) source.merge) {action : Action ρ α}
    (hkeeps : KeepsIdentity source m action) :
    (m.step source action).machine.cache.Indexed source := by
  cases h.stepped source action with
  | idle cache => exact cache ▸ hindexed
  | start _ _ cache => exact cache ▸ hindexed
  | turn _ turned _ cache => exact cache ▸ turned.indexed hindexed hmerge
  | edit edit same cache => exact cache ▸ indexed_edit hindexed (same ▸ hkeeps)

/-- Every view that an action hands out is exact. -/
theorem Numbered.handsOut (h : m.Numbered) (hindexed : m.cache.Indexed source)
    (hmerge : KeepsKeys (m.cache.objectKey source) source.merge) {action : Action ρ α}
    {promise : Nat} {view : Snapshot}
    (hbefore : m.cache.fetchResults.result? promise ≠ some (.ok view))
    (hafter : (m.step source action).machine.cache.fetchResults.result? promise =
      some (.ok view)) :
    HandsOut source m action promise view := by
  cases h.stepped source action with
  | idle cache => exact absurd (cache ▸ hafter) hbefore
  | start _ _ cache => exact absurd (cache ▸ hafter) hbefore
  | edit edit _ cache =>
    rw [cache, (sameFlights_edit source m.cache edit).fetchResults] at hafter
    exact absurd hafter hbefore
  | @turn call turn _ _ _ turned _ cache _ _ _ finished =>
    -- only a listing that has just been accepted resolves a fetch with a view
    have hafter' := hafter
    rw [cache] at hafter
    obtain ⟨lead, records, events, hstage, hpromise, -, -, rfl⟩ :=
      (turned.fetched hafter).resolve_left hbefore
    obtain ⟨-, given, changes, hresults, hview, hprogress⟩ :=
      hindexed.commitFetch hmerge call.request lead (records.filterMap source.construct)
    rw [Turn.after, hresults] at hafter
    have hgiven : Except.ok given = (Except.ok view : FetchResult) :=
      ((result?_of_resolve hafter).resolve_left hbefore).2
    obtain rfl := Except.ok.inj hgiven
    refine ⟨hbefore, hafter', ?_, ?_⟩
    · rw [cache]
      exact hview.exact
    · intro id refs hmem
      obtain ⟨result, hresult, hentry⟩ := finished _ hmem
      rw [Turn.after, hprogress] at hresult
      obtain rfl := Progress.finished.inj hresult
      exact (eq_entries_of_replyOf (Except.ok.inj (congrArg Prod.snd hentry)).symm).symm

theorem run_indexed {config : Config} {monitors : Monitors} {actions : List (Action ρ α)}
    (hmerge : KeepsKeys (config.objectKey source) source.merge)
    (hkeeps : (new config monitors).Admits source (KeepsIdentity source) actions) :
    let m := ((new config monitors).run source actions).machine
    (m.Numbered ∧ m.cache.config = config) ∧ m.cache.Indexed source := by
  refine hkeeps.preserves (P := fun m =>
    (m.Numbered ∧ m.cache.config = config) ∧ m.cache.Indexed source) ?_
    ⟨⟨numbered_new config monitors, rfl⟩, indexed_empty _ _⟩
  rintro m action ⟨⟨hnumbered, hconfig⟩, hindexed⟩ hok
  refine ⟨⟨hnumbered.step source action, ?_⟩, hnumbered.indexed_step hindexed ?_ hok⟩
  · exact (hnumbered.grown_step source action).config.trans hconfig
  · rw [objectKey_of_config hconfig]
    exact hmerge

/-- In every run, as long as objects keep their keys while they are cached, the published view is
exact, an object is read from memory exactly if an entry has its key, and every view that a fetch
hands to its callers, published or not, was exact when it was handed out. -/
theorem run_exact (source : Source ρ α) (config : Config) (monitors : Monitors)
    (actions : List (Action ρ α)) (hmerge : KeepsKeys (config.objectKey source) source.merge)
    (hkeeps : (new config monitors).Admits source (KeepsIdentity source) actions) :
    let m := ((new config monitors).run source actions).machine
    m.cache.snapshot.Exact (m.cache.keyOf? source) ∧
      (∀ identity ref, m.cache.cachedObject? identity = some ref ↔
        ref ∈ m.cache.snapshot.entries ∧
          m.cache.keyOf? source ref = some (m.cache.key identity)) ∧
      ∀ promise view, m.cache.fetchResults.result? promise = some (.ok view) →
        ∃ xs action ys, actions = xs ++ action :: ys ∧
          HandsOut source ((new config monitors).run source xs).machine action promise view := by
  intro m
  have hindexed := (run_indexed hmerge hkeeps).2
  refine ⟨hindexed.exact, fun identity ref => hindexed.exact.find? _ ref, ?_⟩
  intro promise view hview
  have hempty : (new config monitors : Machine α).cache.fetchResults.result? promise ≠
      some (.ok view) := by
    simp [new, Promises.result?]
  obtain ⟨xs, action, ys, rfl, hbefore, hafter⟩ := exists_step_of_run
    (P := fun m => m.cache.fetchResults.result? promise = some (.ok view)) hempty hview
  obtain ⟨hfirst, hlater⟩ := (admits_append xs (action :: ys)).1 hkeeps
  have hthere := run_indexed hmerge hfirst
  refine ⟨xs, action, ys, rfl, hthere.1.1.handsOut hthere.2 ?_ hbefore hafter⟩
  rw [objectKey_of_config hthere.1.2]
  exact hmerge

end Machine

section Items

open Scripted Machine

/-- An item that is known by its id. -/
def Scripted.Item.withId (id : Nat) (value : Int) : Item where
  name := "item"
  id := some id
  value := value

/-- A call for all items has asked for the listing. -/
def listingUnderWay : List (Action Item Item) :=
  [.start .all ⟨0, [], 0⟩, .poll 0]

theorem Scripted.Item.keepsKeys_merge (config : Config) :
    KeepsKeys (config.objectKey (Item.source Item.merge)) Item.merge := by
  intro existing fresh _
  show config.keyPolicy.key (existing.merge fresh).identity = _
  rw [identity_merge]
  rfl

/-- A listing with a duplicate that arrives after the cache was cleared, while another call waits
for it and an object with one of its keys was added. -/
def overtakenListing : List (Action Item Item) :=
  [.start .all ⟨0, [], 0⟩, .poll 0, .edit (.insert (.withId 1 0)), .edit .clear,
    .start (.one (.id 2)) ⟨0, [], 0⟩, .poll 1, .edit (.insert (.withId 2 0)),
    .listed 0 (.ok [.withId 2 5, .withId 1 5, .withId 2 6]), .poll 1]

theorem run_exact_overtakenListing :
    let m := ((new {}).run (Item.source Item.merge) overtakenListing).machine
    let view : Snapshot := { entries := [2, 3], index := [(.id 1, 3), (.id 2, 2)] }
    m.cache.snapshot.entries = [1] ∧
      m.cache.snapshot.Exact (m.cache.keyOf? (Item.source Item.merge)) ∧
      ∃ xs action ys, overtakenListing = xs ++ action :: ys ∧
        HandsOut (Item.source Item.merge) ((new {}).run (Item.source Item.merge) xs).machine
          action 0 view := by
  intro m view
  have hkeeps : (new {}).Admits (Item.source Item.merge) (KeepsIdentity (Item.source Item.merge))
      overtakenListing := by
    simp [overtakenListing, Admits, KeepsIdentity]
  obtain ⟨hexact, -, hviews⟩ := run_exact (Item.source Item.merge) {} {} overtakenListing
    (Item.keepsKeys_merge {}) hkeeps
  exact ⟨rfl, hexact, hviews 0 view rfl⟩

end Items

end CatalogBrowser.Cache
