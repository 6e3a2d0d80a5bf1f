import CatalogBrowser.Proofs.Cache.Conservation
import CatalogBrowser.Proofs.Cache.LoadedCache
import CatalogBrowser.Proofs.Cache.Rollback

/-!
# What a listing makes of a cache

Where every object is known to exist remotely, a listing that is accepted leaves nothing of what it
lacks. The cache then holds one instance for the first object of each key, in the order of the
listing: the one that was cached under that key, with the object merged into it, or else a new one.

## Main definitions

* `renewal` - the state of what stands for an object of a listing.

## Main statements

* `Indexed.stocked_renewal` - what a cache holds once a listing was accepted.
* `Indexed.objectKey_of_namesake?` - what an object is merged into has its key.
-/

namespace CatalogBrowser.Cache

variable {ρ α : Type} {source : Source ρ α} {c c' : Cache α} {stock : List α}

/-- The instance that is cached under the key of an object. -/
def namesake? (source : Source ρ α) (c : Cache α) (object : α) : Option α :=
  (c.cachedObject? (source.identity object)).bind c.object?

/-- The state of what stands for an object of a listing: the object is merged into the instance that
is cached under its key, if there is one. -/
def renewal (source : Source ρ α) (c : Cache α) (object : α) : α :=
  (c.namesake? source object).elim object (source.merge · object)

section SameContents

theorem sameContents_withFetch (c : Cache α) : c.SameContents c.withFetch := ⟨rfl, rfl, rfl, rfl⟩

theorem sameContents_failFetch (c : Cache α) (lead : FetchLead) (error : CacheError) :
    c.SameContents (c.failFetch lead error).cache := ⟨rfl, rfl, rfl, rfl⟩

theorem SameContents.objectKey (h : c.SameContents c') (source : Source ρ α) :
    c'.objectKey source = c.objectKey source :=
  objectKey_of_config h.config

theorem SameContents.indexed (h : c.SameContents c') (hindexed : c.Indexed source) :
    c'.Indexed source := by
  rw [Indexed, h.objectKey, h.objects, h.snapshot]
  exact hindexed

theorem SameContents.object? (h : c.SameContents c') : c'.object? = c.object? := by
  funext ref
  rw [Cache.object?, Cache.object?, h.objects]

theorem SameContents.cachedObject? (h : c.SameContents c') :
    c'.cachedObject? = c.cachedObject? := by
  funext identity
  rw [Cache.cachedObject?, Cache.cachedObject?, key, key, h.config, h.snapshot]

theorem SameContents.renewal (h : c.SameContents c') (source : Source ρ α) :
    c'.renewal source = c.renewal source := by
  funext object
  rw [Cache.renewal, Cache.renewal, namesake?, namesake?, h.cachedObject?, h.object?]

theorem SameContents.stocked (h : c.SameContents c') (hstocked : c.Stocked source stock) :
    c'.Stocked source stock :=
  ⟨hstocked.holds.congr h.snapshot fun _ _ => by rw [h.object?], h.indexed hstocked.indexed⟩

end SameContents

section Renewal

variable {object existing : α} {request : Request} {lead : FetchLead}

/-- What an object is merged into has its key. -/
theorem Indexed.objectKey_of_namesake? (h : c.Indexed source)
    (hexisting : c.namesake? source object = some existing) :
    c.objectKey source existing = c.objectKey source object := by
  obtain ⟨ref, hcached, hobject⟩ := Option.bind_eq_some_iff.1 hexisting
  obtain ⟨-, hkey⟩ := h.find?_eq_some_iff.1 hcached
  obtain ⟨other, hother, hsame⟩ := keyAt_eq_some_iff.1 hkey
  obtain rfl := Option.some.inj (hobject.symm.trans hother)
  exact hsame

/-- Nothing is merged where nothing is cached. -/
theorem renewal_of_empty (source : Source ρ α) (hempty : c.snapshot = {}) :
    c.renewal source = id := by
  funext object
  rw [renewal, namesake?, cachedObject?, hempty]
  rfl

/-- The instance that is cached under the key of an object, where the view is indexed. -/
theorem Indexed.cachedWith_eq (h : c.Indexed source) (object : α) :
    cachedWith (c.objectKey source) c.objects c.snapshot.entries object =
      c.cachedObject? (source.identity object) := by
  refine Option.ext fun ref => ?_
  rw [h.distinct.cachedWith_eq_some_iff, cachedObject?, h.find?_eq_some_iff]
  rfl

/-- What gives an object of a listing is in the state of its renewal. -/
theorem Indexed.eq_renewal_of_gives (h : c.Indexed source) {after : Array α} {ref : Ref}
    (hgives : Gives (c.objectKey source) source.merge c.objects c.snapshot.entries after object
      ref) : after[ref]? = some (c.renewal source object) := by
  rw [Gives, h.cachedWith_eq] at hgives
  rw [renewal, namesake?]
  rcases hgives with ⟨hcached, existing, hexisting, hafter⟩ | ⟨hnone, -, hafter⟩
  · have hobject : c.object? ref = some existing := hexisting
    rw [hcached, Option.bind_some, hobject, hafter]
    rfl
  · rw [hnone, hafter]
    rfl

/-- Once a listing was accepted, the cache holds the renewal of the first object of each key. -/
theorem Indexed.stocked_renewal (h : c.Indexed source)
    (hmerge : KeepsKeys (c.objectKey source) source.merge)
    (hpersisted : ∀ object, source.isPersisted object = true)
    (hcurrent : c.generation = lead.generation) (request : Request) (records : List ρ) :
    let after := (c.acceptListing source request lead (.ok records)).cache
    after.config = c.config ∧ after.Stocked source
      ((firstOfEach (c.objectKey source) (records.filterMap source.construct)).map
        (c.renewal source)) := by
  intro after
  set fresh := records.filterMap source.construct
  have hafter : after = _ := commitFetch_of_current hcurrent
  have hindexed : after.Indexed source := (h.commitFetch hmerge request lead fresh).1
  -- no draft stays behind, as there are none
  have hentries : (c.merged source fresh).entries =
      listedEntries (c.objectKey source) source.merge c.objects c.snapshot.entries fresh := by
    refine (h.distinct.reconcile_kept hmerge source.isPersisted fresh).trans ?_
    rw [kept, List.filter_eq_nil_iff.2, List.append_nil]
    intro ref href
    have hlt := h.distinct.lt_size ref (mem_lacking_iff.1 href).1
    simp [hlt, hpersisted]
  have hgives : List.Forall₂ (fun object ref =>
      (c.merged source fresh).objects[ref]? = some (c.renewal source object))
      (firstOfEach (c.objectKey source) fresh) (c.merged source fresh).entries := by
    rw [hentries]
    exact (h.distinct.reconcile_stands hmerge source.isPersisted fresh).imp fun _ _ hstands =>
      h.eq_renewal_of_gives (h.distinct.gives_of_stands hstands)
  refine ⟨by rw [hafter], ⟨by rw [hafter]; rfl, hindexed.distinct.nodup_refs, ?_⟩, hindexed⟩
  rw [List.forall₂_map_right_iff, hafter]
  refine forall₂_imp_of_mem hgives.flip fun ref href object hobject => ⟨_, ?_, rfl⟩
  -- what is dropped does not stand in the new view
  refine (evict_getElem? source fun hgone => ?_).trans hobject
  exact h.distinct.not_mem_reconcile_entries hmerge source.isPersisted fresh hgone href

end Renewal

section Shown

variable {info : α → ρ} {make : ρ → α}

theorem Tells.bind_object? {wanted : Option α} {found : Option Ref} (h : c.Tells wanted found) :
    found.bind c.object? = wanted := by
  rw [Tells] at h
  cases found with
  | none => cases wanted <;> simp_all
  | some ref => cases wanted <;> simp_all

/-- The first object of a kind is found among the instances. -/
theorem Stocked.find?_object (h : c.Stocked source stock) (p : α → Bool) :
    (c.cachedObjects.find? fun ref => (c.object? ref).any p).bind c.object? = stock.find? p := by
  have hobjects := h.map_object?
  rw [cachedObjects, if_pos h.holds.complete]
  clear h
  generalize c.snapshot.entries = refs at hobjects
  induction refs generalizing stock with
  | nil =>
    obtain rfl : stock = [] := by simpa using hobjects.symm
    rfl
  | cons ref rest ih =>
    cases stock with
    | nil => cases hobjects
    | cons object stock =>
      obtain ⟨hobject, hrest⟩ := List.cons.inj hobjects
      rw [List.find?_cons, List.find?_cons, hobject, Option.any_some]
      cases p object with
      | true => exact hobject
      | false => exact ih hrest

/-- What an object is merged into is the object in stock that has its key. -/
theorem Stocked.namesake?_eq (h : c.Stocked source stock) (object : α) :
    c.namesake? source object = stock.find? (c.objectKey source · = c.objectKey source object) :=
  (h.tells (source.identity object)).bind_object?

/-- What is seen of a cache that holds the renewals of some records, if only the records can be
seen. -/
theorem map_renewal (hinfo : ∀ object, info (c.renewal source object) = info object)
    (hconstruct : source.construct = some ∘ make) (hmake : ∀ record, info (make record) = record)
    (records : List ρ) :
    ((firstOfEach (c.objectKey source) (records.filterMap source.construct)).map
        (c.renewal source)).map info = firstOfEach (c.objectKey source ∘ make) records := by
  rw [hconstruct, List.filterMap_eq_map, firstOfEach_map, List.map_map, List.map_map]
  refine List.map_id'' (fun record => ?_) _
  rw [Function.comp_apply, Function.comp_apply, hinfo, hmake]

end Shown

end CatalogBrowser.Cache
