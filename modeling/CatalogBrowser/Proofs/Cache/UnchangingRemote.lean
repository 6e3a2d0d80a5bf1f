import CatalogBrowser.Proofs.Cache.Index
import CatalogBrowser.Proofs.Cache.Leadership
import Mathlib.Logic.Function.Iterate

/-!
# A mirror of an unchanging listing

Over a remote side that never changes, a cache holds nothing but instances of the objects that the
remote side lists, one for each object, whichever way they got into it. A bulk load adopts what
lookups brought, a late lookup adopts what a bulk load listed, and further copies of an object are
merged into its one instance.

## Main definitions

* `remoteObjects` - the objects that the remote side has.
* `Reflects` - an instance that stands for one of them.
* `Mirror` - the invariant: the cache holds nothing but such instances, one for each object.
* `Settles` - instances go on standing for the objects that they stand for.
* `Answers` - the one answer to a request.

## Main statements

* `Mirror.settles_merged`, `Mirror.reflects_merged` - what merging the listing does.
* `Mirror.turned` - a turn keeps the invariant, and gives no other answer.
-/

namespace CatalogBrowser.Cache

variable {ρ α : Type} {source : Source ρ α} {records : List ρ} {c c' : Cache α}

/-- The objects of a listing, each key once, in its order. -/
def remoteObjects (source : Source ρ α) (records : List ρ) (c : Cache α) : List α :=
  firstOfEach (c.objectKey source) (records.filterMap source.construct)

/-- An instance that is an object of the listing, perhaps with further copies of the object merged
into it. -/
def Reflects (source : Source ρ α) (c : Cache α) (object : α) (ref : Ref) : Prop :=
  ∃ n, c.object? ref = some ((source.merge · object)^[n] object)

/-- A view of the whole listing. -/
structure Shows (source : Source ρ α) (records : List ρ) (c : Cache α) (view : Snapshot) :
    Prop where
  indexed : view.Indexed (c.objectKey source) c.objects
  reflects : List.Forall₂ (c.Reflects source) (c.remoteObjects source records) view.entries

/-- What a lookup of a key finds. -/
def Finds (source : Source ρ α) (records : List ρ) (c : Cache α) (key : Key) :
    Option Ref → Prop
  | some ref => c.keyOf? source ref = some key
  | none => key ∉ (c.remoteObjects source records).map (c.objectKey source)

/-- Every instance stands for one object of the listing, and is cached; and whatever was promised is
what the listing says. `asked` tells which key each lookup was for. -/
structure Mirror (source : Source ρ α) (records : List ρ) (asked : Nat → Key) (c : Cache α) :
    Prop where
  generation : c.generation = 0
  indexed : c.Indexed source
  cached : ∀ ref < c.objects.size, ref ∈ c.snapshot.entries
  reflects : ∀ ref < c.objects.size,
    ∃ object ∈ c.remoteObjects source records, c.Reflects source object ref
  complete : c.snapshot.complete = true → c.Shows source records c.snapshot
  fetched : ∀ promise view, c.fetchResults.result? promise = some (.ok view) →
    c.Shows source records view
  found : ∀ promise found, c.lookupResults.result? promise = some (.ok found) →
    c.Finds source records (asked promise) found

/-- Instances go on standing for the objects that they stand for. -/
structure Settles (source : Source ρ α) (records : List ρ) (c c' : Cache α) : Prop where
  config : c'.config = c.config
  reflects : ∀ object ∈ c.remoteObjects source records, ∀ ref,
    c.Reflects source object ref → c'.Reflects source object ref

section Reflects

theorem key_iterate_merge (hmerge : KeepsKeys (c.objectKey source) source.merge) (object : α)
    (n : Nat) :
    c.objectKey source ((source.merge · object)^[n] object) = c.objectKey source object := by
  induction n with
  | zero => rfl
  | succ n ih =>
    rw [Function.iterate_succ_apply']
    exact (hmerge _ _ ih).trans ih

theorem Reflects.keyOf? (hmerge : KeepsKeys (c.objectKey source) source.merge) {object : α}
    {ref : Ref} (h : c.Reflects source object ref) :
    c.keyOf? source ref = some (c.objectKey source object) := by
  obtain ⟨n, hstate⟩ := h
  rw [Cache.keyOf?, hstate, Option.map_some, key_iterate_merge hmerge]

theorem Reflects.merge {object : α} {ref : Ref} (h : c.Reflects source object ref)
    (hstate : c'.object? ref = (c.object? ref).map (source.merge · object)) :
    c'.Reflects source object ref := by
  obtain ⟨n, hold⟩ := h
  refine ⟨n + 1, ?_⟩
  rw [hstate, hold, Function.iterate_succ_apply']
  rfl

theorem Reflects.lt_size {object : α} {ref : Ref} (h : c.Reflects source object ref) :
    ref < c.objects.size := by
  obtain ⟨n, hstate⟩ := h
  exact (Array.getElem?_eq_some_iff.1 hstate).1

theorem eq_of_mem_remoteObjects {object other : α}
    (hobject : object ∈ c.remoteObjects source records)
    (hother : other ∈ c.remoteObjects source records)
    (hkey : c.objectKey source object = c.objectKey source other) : object = other :=
  List.inj_on_of_nodup_map (nodup_firstOfEach _) hobject hother hkey

theorem Settles.objectKey (h : Settles source records c c') :
    c'.objectKey source = c.objectKey source := by
  rw [objectKey_of_config h.config, objectKey_of_config rfl]

theorem Settles.remoteObjects (h : Settles source records c c') :
    c'.remoteObjects source records = c.remoteObjects source records := by
  rw [Cache.remoteObjects, h.objectKey, Cache.remoteObjects]

theorem Settles.refl (c : Cache α) : Settles source records c c :=
  ⟨rfl, fun _ _ _ h => h⟩

theorem Settles.trans {c'' : Cache α} (h : Settles source records c c')
    (h' : Settles source records c' c'') : Settles source records c c'' where
  config := h'.config.trans h.config
  reflects object hobject ref href :=
    h'.reflects object (h.remoteObjects ▸ hobject) ref (h.reflects object hobject ref href)

theorem settles_of_objects (hconfig : c'.config = c.config) (hobjects : c'.objects = c.objects) :
    Settles source records c c' where
  config := hconfig
  reflects object _ ref href := by
    obtain ⟨n, hstate⟩ := href
    exact ⟨n, by rw [object?, hobjects]; exact hstate⟩

end Reflects

section Carry

variable {asked asked' : Nat → Key}

/-- Instances that settle keep their keys. -/
theorem Mirror.keyOf?_settles (h : Mirror source records asked c)
    (hmerge : KeepsKeys (c.objectKey source) source.merge)
    (hsettles : Settles source records c c') {ref : Ref} (hlt : ref < c.objects.size) :
    c'.keyOf? source ref = c.keyOf? source ref := by
  obtain ⟨object, hobject, href⟩ := h.reflects ref hlt
  have hmerge' : KeepsKeys (c'.objectKey source) source.merge := hsettles.objectKey ▸ hmerge
  rw [href.keyOf? hmerge, (hsettles.reflects object hobject ref href).keyOf? hmerge',
    hsettles.objectKey]

theorem Mirror.shows_settles (h : Mirror source records asked c)
    (hmerge : KeepsKeys (c.objectKey source) source.merge)
    (hsettles : Settles source records c c') {view : Snapshot}
    (hview : c.Shows source records view) : c'.Shows source records view where
  indexed := by
    rw [hsettles.objectKey]
    refine hview.indexed.congr fun ref href => ?_
    have hkey := h.keyOf?_settles hmerge hsettles (hview.indexed.distinct.lt_size ref href)
    rwa [keyOf?, hsettles.objectKey] at hkey
  reflects := by
    rw [hsettles.remoteObjects]
    exact forall₂_imp_of_mem hview.reflects hsettles.reflects

theorem Mirror.finds_settles (h : Mirror source records asked c)
    (hmerge : KeepsKeys (c.objectKey source) source.merge)
    (hsettles : Settles source records c c') {key : Key} {found : Option Ref}
    (hfound : c.Finds source records key found) : c'.Finds source records key found := by
  cases found with
  | none =>
    show key ∉ (c'.remoteObjects source records).map (c'.objectKey source)
    rw [hsettles.remoteObjects, hsettles.objectKey]
    exact hfound
  | some ref =>
    have hkey : c.keyOf? source ref = some key := hfound
    exact (h.keyOf?_settles hmerge hsettles (lt_size_of_keyAt hkey)).trans hkey

/-- A cache whose instances settle is a mirror again, if all that is new in it is right. -/
theorem Mirror.settle (h : Mirror source records asked c)
    (hmerge : KeepsKeys (c.objectKey source) source.merge)
    (hsettles : Settles source records c c') (generation : c'.generation = c.generation)
    (indexed : c'.Indexed source) (cached : ∀ ref < c'.objects.size, ref ∈ c'.snapshot.entries)
    (reflects : ∀ ref < c'.objects.size,
      ∃ object ∈ c'.remoteObjects source records, c'.Reflects source object ref)
    (complete : c'.snapshot.complete = true → c'.Shows source records c'.snapshot)
    (fetched : ∀ promise view, c'.fetchResults.result? promise = some (.ok view) →
      c.fetchResults.result? promise = some (.ok view) ∨ c'.Shows source records view)
    (found : ∀ promise found, c'.lookupResults.result? promise = some (.ok found) →
      c.lookupResults.result? promise = some (.ok found) ∧ asked' promise = asked promise ∨
        c'.Finds source records (asked' promise) found) :
    Mirror source records asked' c' where
  generation := generation.trans h.generation
  indexed := indexed
  cached := cached
  reflects := reflects
  complete := complete
  fetched promise view hview := by
    rcases fetched promise view hview with hold | hnew
    · exact h.shows_settles hmerge hsettles (h.fetched promise view hold)
    · exact hnew
  found promise ref? href := by
    rcases found promise ref? href with ⟨hold, hasked⟩ | hnew
    · rw [hasked]
      exact h.finds_settles hmerge hsettles (h.found promise ref? hold)
    · exact hnew

theorem Mirror.promise (h : Mirror source records asked c)
    (hmerge : KeepsKeys (c.objectKey source) source.merge) (config : c'.config = c.config)
    (generation : c'.generation = c.generation) (snapshot : c'.snapshot = c.snapshot)
    (objects : c'.objects = c.objects)
    (fetched : ∀ promise view, c'.fetchResults.result? promise = some (.ok view) →
      c.fetchResults.result? promise = some (.ok view))
    (found : ∀ promise found, c'.lookupResults.result? promise = some (.ok found) →
      c.lookupResults.result? promise = some (.ok found) ∧ asked' promise = asked promise ∨
        c'.Finds source records (asked' promise) found) :
    Mirror source records asked' c' := by
  have hsettles : Settles source records c c' := settles_of_objects config objects
  refine h.settle hmerge hsettles generation ?_ ?_ ?_ ?_
    (fun promise view hview => .inl (fetched promise view hview)) found
  · rw [Indexed, snapshot, hsettles.objectKey, objects]
    exact h.indexed
  · rw [snapshot, objects]
    exact h.cached
  · intro ref hlt
    rw [objects] at hlt
    obtain ⟨object, hobject, href⟩ := h.reflects ref hlt
    exact ⟨object, hsettles.remoteObjects ▸ hobject, hsettles.reflects object hobject ref href⟩
  · rw [snapshot]
    exact fun hcomplete => h.shows_settles hmerge hsettles (h.complete hcomplete)

end Carry

section Merge

variable {asked : Nat → Key} (h : Mirror source records asked c)
  (hmerge : KeepsKeys (c.objectKey source) source.merge)

include h hmerge

/-- Every cached instance has a key of the listing. -/
theorem Mirror.lacking_eq_nil :
    lacking (c.objectKey source) c.objects c.snapshot.entries
      (records.filterMap source.construct) = [] := by
  rw [lacking, List.filter_eq_nil_iff]
  intro ref href
  obtain ⟨object, hobject, hreflects⟩ := h.reflects ref (h.indexed.distinct.lt_size ref href)
  have hkey : keyAt (c.objectKey source) c.objects ref = some (c.objectKey source object) :=
    hreflects.keyOf? hmerge
  have hlisted := (unseen_sublist _ _).subset hobject
  rw [hkey, decide_eq_true_iff, not_not]
  exact List.mem_map_of_mem (f := some ∘ c.objectKey source) hlisted

theorem Mirror.merged_entries :
    (c.merged source (records.filterMap source.construct)).entries =
        listedEntries (c.objectKey source) source.merge c.objects c.snapshot.entries
          (records.filterMap source.construct) ∧
      (c.merged source (records.filterMap source.construct)).changes.removed = [] := by
  have hnil := h.lacking_eq_nil hmerge
  have hentries := h.indexed.distinct.reconcile_entries hmerge source.isPersisted
    (records.filterMap source.construct)
  have hremoved := h.indexed.distinct.reconcile_removed hmerge source.isPersisted
    (records.filterMap source.construct)
  dsimp only at hentries hremoved
  rw [hnil, List.filter_nil] at hentries hremoved
  exact ⟨hentries.trans (List.append_nil _), hremoved⟩

theorem Mirror.lookup_eq {object : α} {ref : Ref} (href : c.Reflects source object ref) :
    (keyed (c.objectKey source) c.objects c.snapshot.entries).reverse.lookup
      (c.objectKey source object) = some ref := by
  rw [Association.lookup_eq_some_iff_mem h.indexed.distinct.waits.nodup, List.mem_reverse,
    mem_keyed_iff]
  exact ⟨h.cached ref href.lt_size, href.keyOf? hmerge⟩

theorem Mirror.stands :
    List.Forall₂
      (Stands (c.objectKey source) source.merge
        (keyed (c.objectKey source) c.objects c.snapshot.entries).reverse c.objects
        (c.merged source (records.filterMap source.construct)).objects)
      (c.remoteObjects source records)
      (c.merged source (records.filterMap source.construct)).entries := by
  rw [(h.merged_entries hmerge).1]
  exact h.indexed.distinct.reconcile_stands hmerge source.isPersisted _

/-- Instances settle when the listing is merged into them. -/
theorem Mirror.settles_merged (hconfig : c'.config = c.config)
    (hobjects : c'.objects = (c.merged source (records.filterMap source.construct)).objects) :
    Settles source records c c' where
  config := hconfig
  reflects object hobject ref href := by
    obtain ⟨other, -, hstands⟩ := exists_right_of_forall₂ (h.stands hmerge) hobject
    have hlookup := h.lookup_eq hmerge href
    rcases hstands with ⟨hother, hstate⟩ | ⟨hnone, -, -⟩
    · rw [hlookup] at hother
      obtain rfl := Option.some.inj hother
      refine href.merge ?_
      rw [object?, hobjects]
      exact hstate
    · rw [hlookup] at hnone
      cases hnone

/-- The view of the merged listing shows it. -/
theorem Mirror.reflects_merged (hconfig : c'.config = c.config)
    (hobjects : c'.objects = (c.merged source (records.filterMap source.construct)).objects) :
    List.Forall₂ (c'.Reflects source) (c.remoteObjects source records)
      (c.merged source (records.filterMap source.construct)).entries := by
  have hsettles := h.settles_merged hmerge hconfig hobjects
  refine forall₂_imp_of_mem (h.stands hmerge) fun object hobject ref hstands => ?_
  rcases hstands with ⟨hlookup, -⟩ | ⟨-, -, hstate⟩
  · -- the cached instance under the key stands for an object with that key, so for this one
    have hkey := h.indexed.distinct.waits.keyAt_lookup hlookup
    obtain ⟨other, hother, hreflects⟩ := h.reflects ref (lt_size_of_keyAt hkey)
    have hsame := Option.some.inj ((hreflects.keyOf? hmerge).symm.trans hkey)
    obtain rfl := eq_of_mem_remoteObjects hother hobject hsame
    exact hsettles.reflects other hother ref hreflects
  · exact ⟨0, by rw [object?, hobjects]; exact hstate⟩

theorem Mirror.mem_merged_entries {ref : Ref}
    (hlt : ref < (c.merged source (records.filterMap source.construct)).objects.size) :
    ref ∈ (c.merged source (records.filterMap source.construct)).entries := by
  -- a cached instance is met under the key of the object that it stands for
  by_cases hnew : c.objects.size ≤ ref
  · rw [(h.merged_entries hmerge).1]
    exact mem_absorb_entries_of_new hnew hlt
  · obtain ⟨object, hobject, href⟩ := h.reflects ref (Nat.lt_of_not_le hnew)
    have hlookup := h.lookup_eq hmerge href
    obtain ⟨other, hother, hstands⟩ := exists_right_of_forall₂ (h.stands hmerge) hobject
    rcases hstands with ⟨hsame, -⟩ | ⟨hnone, -, -⟩
    · rw [hlookup] at hsame
      obtain rfl := Option.some.inj hsame
      exact hother
    · rw [hlookup] at hnone
      cases hnone

/-- What the merged listing updates and adds is what its view shows. -/
theorem Mirror.changes_perm_merged_entries :
    ((c.merged source (records.filterMap source.construct)).changes.updated ++
      (c.merged source (records.filterMap source.construct)).changes.added).Perm
      (c.merged source (records.filterMap source.construct)).entries := by
  obtain ⟨hupdated, hadded⟩ := reconcile_changes (c.objectKey source) source.isPersisted
    source.merge c.objects c.snapshot.entries (records.filterMap source.construct)
  have hnew : ∀ ref : Nat, decide (c.objects.size ≤ ref) = !decide (ref < c.objects.size) := by
    intro ref
    rw [← decide_not, decide_eq_decide, Nat.not_lt]
  rw [(h.merged_entries hmerge).1]
  simp only [hnew] at hadded
  exact (congrArg₂ (· ++ ·) hupdated hadded) ▸ List.filter_append_perm _ _

end Merge

/-- The one answer to a request: all objects in the order of the listing; the same objects as
updated or added ones, and no removals; or an object exactly if the listing has a record of one with
the key that was asked for. -/
def Answers (source : Source ρ α) (records : List ρ) (c : Cache α) : Request → Reply → Prop
  | .all, .objects refs =>
    List.Forall₂ (c.Reflects source) (c.remoteObjects source records) refs
  | .refresh, .changes changes =>
    changes.removed = [] ∧ ∃ refs,
      List.Forall₂ (c.Reflects source) (c.remoteObjects source records) refs ∧
      (changes.updated ++ changes.added).Perm refs
  | .one identity, .object found =>
    (found.isSome = true ↔ ∃ record ∈ records, ∃ object, source.construct record = some object ∧
      c.objectKey source object = c.key identity) ∧
    ∀ ref, found = some ref → ∃ object ∈ c.remoteObjects source records,
      c.objectKey source object = c.key identity ∧ c.Reflects source object ref
  | _, _ => False

section Answers

variable {asked : Nat → Key} {view : Snapshot}

theorem key_mem_remoteObjects_iff {key : Key} :
    key ∈ (c.remoteObjects source records).map (c.objectKey source) ↔
      ∃ record ∈ records, ∃ object, source.construct record = some object ∧
        c.objectKey source object = key := by
  rw [remoteObjects, key_mem_firstOfEach_iff, List.mem_map]
  constructor
  · rintro ⟨object, hobject, hkey⟩
    obtain ⟨record, hrecord, hconstruct⟩ := List.mem_filterMap.1 hobject
    exact ⟨record, hrecord, object, hconstruct, hkey⟩
  · rintro ⟨record, hrecord, object, hconstruct, hkey⟩
    exact ⟨object, List.mem_filterMap.2 ⟨record, hrecord, hconstruct⟩, hkey⟩

/-- What a lookup finds answers a request for one object. -/
theorem Mirror.answers_one (h : Mirror source records asked c)
    (hmerge : KeepsKeys (c.objectKey source) source.merge) {identity : Identity}
    {found : Option Ref} (hfound : c.Finds source records (c.key identity) found) :
    c.Answers source records (.one identity) (.object found) := by
  rw [Answers, ← key_mem_remoteObjects_iff]
  cases found with
  | none =>
    have hmiss : c.key identity ∉ (c.remoteObjects source records).map (c.objectKey source) :=
      hfound
    exact ⟨by simp [hmiss], fun ref href => by cases href⟩
  | some ref =>
    have hkey : c.keyOf? source ref = some (c.key identity) := hfound
    obtain ⟨object, hobject, hreflects⟩ := h.reflects ref (lt_size_of_keyAt hkey)
    rw [hreflects.keyOf? hmerge] at hkey
    have hkey := Option.some.inj hkey
    refine ⟨by simpa using ⟨object, hobject, hkey⟩, ?_⟩
    intro other hother
    obtain rfl := Option.some.inj hother
    exact ⟨object, hobject, hkey, hreflects⟩

theorem Shows.finds (hmerge : KeepsKeys (c.objectKey source) source.merge)
    (h : c.Shows source records view) (key : Key) :
    c.Finds source records key (view.find? key) := by
  cases hfind : view.find? key with
  | some ref => exact (h.indexed.find?_eq_some_iff.1 hfind).2
  | none =>
    intro hkey
    obtain ⟨object, hobject, rfl⟩ := List.mem_map.1 hkey
    obtain ⟨ref, href, hreflects⟩ := exists_right_of_forall₂ h.reflects hobject
    rw [h.indexed.find?_eq_some_iff.2 ⟨href, hreflects.keyOf? hmerge⟩] at hfind
    cases hfind

theorem Mirror.answers_recalls (h : Mirror source records asked c)
    (hmerge : KeepsKeys (c.objectKey source) source.merge) {request : Request} {reply : Reply}
    (hrecalls : Recalls c request reply) : c.Answers source records request reply := by
  cases hrecalls with
  | all hcomplete => exact (h.complete hcomplete).reflects
  | one hcached =>
    exact h.answers_one hmerge (h.indexed.find?_eq_some_iff.1 hcached).2
  | @none identity hcached hcomplete =>
    have hfinds := (h.complete hcomplete).finds hmerge (c.key identity)
    exact h.answers_one hmerge (hcached ▸ hfinds)

/-- What another call's fetch delivers answers a request. -/
theorem Mirror.answers_replyFrom (h : Mirror source records asked c)
    (hmerge : KeepsKeys (c.objectKey source) source.merge) {request : Request}
    (hrequest : request ≠ .refresh) (hview : c.Shows source records view) :
    c.Answers source records request (request.replyFrom c view) := by
  cases request with
  | all => exact hview.reflects
  | refresh => exact absurd rfl hrequest
  | one identity => exact h.answers_one hmerge (hview.finds hmerge _)

end Answers

section Turn

variable {asked : Nat → Key}

/-- The record that a lookup of a key gives: the first of the listing that makes an object with
that key. -/
def firstRecord? (source : Source ρ α) (records : List ρ) (c : Cache α) (key : Key) : Option ρ :=
  records.find? fun record => (source.construct record).any (c.objectKey source · = key)

/-- A lookup gives the object that the listing has under the key. -/
theorem bind_firstRecord? (key : Key) :
    (c.firstRecord? source records key).bind source.construct =
      (c.remoteObjects source records).find? (c.objectKey source · = key) := by
  rw [firstRecord?, remoteObjects, find?_firstOfEach, List.find?_filterMap]

theorem Mirror.withFound (h : Mirror source records asked c)
    (hmerge : KeepsKeys (c.objectKey source) source.merge) {lead : LookupLead}
    (hasked : asked lead.promise = lead.key) {result : LookupResult}
    (hresult : ∀ found, result = .ok found → c.Finds source records lead.key found) :
    Mirror source records asked (c.withFound lead result) := by
  refine h.promise hmerge rfl rfl rfl rfl (fun _ _ => id) fun promise found hfound => ?_
  rcases result?_of_resolve hfound with hold | ⟨rfl, rfl⟩
  · exact .inl ⟨hold, rfl⟩
  · refine .inr ?_
    rw [hasked]
    exact hresult found rfl

/-- The cache once the object of a lookup is cached. -/
def withObject (source : Source ρ α) (c : Cache α) (object : α) : Cache α :=
  { c with objects := c.objects.push object }.publish source
    (c.snapshot.entries ++ [c.objects.size]) false

theorem settles_push (hconfig : c'.config = c.config) {object : α}
    (hobjects : c'.objects = c.objects.push object) : Settles source records c c' where
  config := hconfig
  reflects other _ ref href := by
    obtain ⟨n, hstate⟩ := id href
    refine ⟨n, ?_⟩
    rw [object?, hobjects, getElem?_push_of_lt href.lt_size]
    exact hstate

/-- Caching an object of the listing under a key that is free leaves a mirror. -/
theorem Mirror.withObject (h : Mirror source records asked c)
    (hmerge : KeepsKeys (c.objectKey source) source.merge) {object : α}
    (hobject : object ∈ c.remoteObjects source records)
    (hfree : c.snapshot.find? (c.objectKey source object) = none) :
    Mirror source records asked (c.withObject source object) := by
  have hsettles : Settles source records c (c.withObject source object) := settles_push rfl rfl
  have hsplit : ∀ ref < (c.withObject source object).objects.size,
      ref < c.objects.size ∨ ref = c.objects.size := by
    intro ref hlt
    have hlt : ref < (c.objects.push object).size := hlt
    rw [Array.size_push] at hlt
    exact Nat.lt_or_eq_of_le (Nat.le_of_lt_succ hlt)
  refine h.settle hmerge hsettles rfl ?_ ?_ ?_ ?_ (fun _ _ => .inl) fun _ _ hfound =>
    .inl ⟨hfound, rfl⟩
  · exact indexed_snapshotOf c false (h.indexed.distinct_append hfree)
  · intro ref hlt
    rcases hsplit ref hlt with hold | rfl
    · exact List.mem_append_left _ (h.cached ref hold)
    · exact List.mem_append_right _ (List.mem_singleton_self _)
  · intro ref hlt
    rcases hsplit ref hlt with hold | rfl
    · obtain ⟨other, hother, href⟩ := h.reflects ref hold
      exact ⟨other, hother, hsettles.reflects other hother ref href⟩
    · exact ⟨object, hobject, 0, Array.getElem?_push_size⟩
  · intro hcomplete
    cases hcomplete

/-- Accepting the listing leaves a mirror, and answers the call that asked for it. -/
theorem Mirror.commitFetch (h : Mirror source records asked c)
    (hmerge : KeepsKeys (c.objectKey source) source.merge) {request : Request} {lead : FetchLead}
    (hrequest : ∀ identity, request ≠ .one identity)
    (hgeneration : c.generation = lead.generation) :
    let turn := c.commitFetch source request lead (records.filterMap source.construct)
    Mirror source records asked turn.cache ∧ Settles source records c turn.cache ∧
      ∀ reply, turn.progress = .finished (.ok reply) →
        turn.cache.Answers source records request reply := by
  intro turn
  obtain ⟨-, hremoved⟩ := h.merged_entries hmerge
  have hcache : turn.cache = _ := commitFetch_of_current hgeneration
  have hprogress : turn.progress = _ := commitFetch_progress_of_current hgeneration
  rw [hremoved] at hcache
  have hsettles : Settles source records c turn.cache :=
    h.settles_merged hmerge (by rw [hcache]) (by rw [hcache]; rfl)
  have hreflects : List.Forall₂ (turn.cache.Reflects source) (c.remoteObjects source records)
      (c.merged source (records.filterMap source.construct)).entries :=
    h.reflects_merged hmerge (by rw [hcache]) (by rw [hcache]; rfl)
  have hindexed : turn.cache.Indexed source := (h.indexed.commitFetch hmerge request lead _).1
  have hsnapshot : turn.cache.snapshot =
      c.mergedView source (records.filterMap source.construct) := by rw [hcache]
  have hshows : turn.cache.Shows source records turn.cache.snapshot := by
    refine ⟨hindexed, ?_⟩
    rw [hsettles.remoteObjects, hsnapshot]
    exact hreflects
  refine ⟨h.settle hmerge hsettles (by rw [hcache]) hindexed ?_ ?_ (fun _ => hshows) ?_ ?_,
    hsettles, ?_⟩
  · intro ref hlt
    rw [hsnapshot]
    refine h.mem_merged_entries hmerge ?_
    rw [hcache] at hlt
    exact hlt
  · intro ref hlt
    rw [hcache] at hlt
    have hmem : ref ∈ (c.merged source (records.filterMap source.construct)).entries :=
      h.mem_merged_entries hmerge hlt
    obtain ⟨object, hobject, href⟩ := exists_left_of_forall₂ hreflects hmem
    exact ⟨object, hsettles.remoteObjects ▸ hobject, href⟩
  · intro promise view hview
    rw [hcache] at hview
    rcases result?_of_resolve hview with hold | ⟨-, hnew⟩
    · exact .inl hold
    · obtain rfl := Except.ok.inj hnew
      exact .inr (hsnapshot ▸ hshows)
  · intro promise found hfound
    rw [hcache] at hfound
    exact .inl ⟨hfound, rfl⟩
  · intro reply hreply
    rw [hprogress] at hreply
    obtain rfl := Except.ok.inj (Progress.finished.inj hreply)
    cases request with
    | all => exact hsnapshot ▸ hshows.reflects
    | refresh =>
      refine ⟨hremoved, _, hsnapshot ▸ hshows.reflects, ?_⟩
      exact h.changes_perm_merged_entries hmerge
    | one identity => exact absurd rfl (hrequest identity)

/-- What a call waits for is the lookup of its key. -/
def Call.Asks (asked : Nat → Key) (c : Cache α) (call : Call) : Prop :=
  match call.stage with
  | .awaitingLookup promise _ =>
    ∀ identity, call.request = .one identity → asked promise = c.key identity
  | .lookingUp lead => asked lead.promise = lead.key
  | _ => True

theorem Call.Asks.lookingUp {call : Call} (h : call.Asks asked c) {lead : LookupLead}
    (hstage : call.stage = .lookingUp lead) : asked lead.promise = lead.key := by
  rwa [Call.Asks, hstage] at h

theorem Call.Asks.awaitingLookup {call : Call} (h : call.Asks asked c) {promise : Nat}
    {current : Bool} (hstage : call.stage = .awaitingLookup promise current)
    {identity : Identity} (hrequest : call.request = .one identity) :
    asked promise = c.key identity := by
  rw [Call.Asks, hstage] at h
  exact h identity hrequest

/-- An answer of the remote side to a call that never changes. -/
def Unchanging (source : Source ρ α) (records : List ρ) (c : Cache α) (call : Call) :
    Action ρ α → Prop
  | .listed _ (.ok listed) => listed = records
  | .found _ (.ok record) => ∀ identity, call.request = .one identity →
    record = c.firstRecord? source records (c.key identity)
  | _ => True

/-- What a turn of a call over an unchanging remote side leaves. -/
structure Kept (source : Source ρ α) (records : List ρ) (asked asked' : Nat → Key) (c : Cache α)
    (call : Call) (turn : Turn α) : Prop where
  mirror : Mirror source records asked' turn.cache
  settles : Settles source records c turn.cache
  agree : ∀ promise < c.lookupResults.size, asked' promise = asked promise
  asks : ∀ stage, turn.progress.stage? = some stage →
    ({ call with stage } : Call).Asks asked' turn.cache
  answers : ∀ reply, turn.progress = .finished (.ok reply) →
    turn.cache.Answers source records call.request reply

/-- A lookup gives what the listing has under the key that was asked for. -/
theorem find?_of_unchanging {call : Call} {lead : LookupLead} {record : Option ρ}
    (hsound : call.Sound c) (hstage : call.stage = .lookingUp lead)
    (hremote : Unchanging source records c call (.found call.id (.ok record))) :
    record.bind source.construct =
      (c.remoteObjects source records).find? (c.objectKey source · = lead.key) := by
  obtain ⟨-, -, identity, hrequest, hkey⟩ := hsound.lookingUp hstage
  rw [hremote identity hrequest, bind_firstRecord?, hkey]

/-- An object that a lookup gives is one of the listing, under the key that was asked for. -/
theorem found_of_unchanging {call : Call} {lead : LookupLead} {record : Option ρ} {object : α}
    (hsound : call.Sound c) (hstage : call.stage = .lookingUp lead)
    (hremote : Unchanging source records c call (.found call.id (.ok record)))
    (hobject : record.bind source.construct = some object) :
    object ∈ c.remoteObjects source records ∧ c.objectKey source object = lead.key := by
  have hfind := find?_of_unchanging hsound hstage hremote
  rw [hobject] at hfind
  exact ⟨List.mem_of_find?_eq_some hfind.symm, by simpa using List.find?_some hfind.symm⟩

theorem kept_finished {call : Call} {turn : Turn α} {result : Result}
    (hmirror : Mirror source records asked turn.cache)
    (hsettles : Settles source records c turn.cache) (hprogress : turn.progress = .finished result)
    (hanswers : ∀ reply, result = .ok reply →
      turn.cache.Answers source records call.request reply) :
    ∃ asked', Kept source records asked asked' c call turn := by
  refine ⟨asked, hmirror, hsettles, fun _ _ => rfl, fun stage hstage => ?_, fun reply hreply => ?_⟩
  · rw [hprogress] at hstage
    cases hstage
  · rw [hprogress] at hreply
    exact hanswers reply (Progress.finished.inj hreply)

theorem kept_waiting {call : Call} {turn : Turn α} {stage : Stage} {asked' : Nat → Key}
    (hmirror : Mirror source records asked' turn.cache)
    (hsettles : Settles source records c turn.cache)
    (hagree : ∀ promise < c.lookupResults.size, asked' promise = asked promise)
    (hprogress : turn.progress = .waiting stage)
    (hasks : ({ call with stage } : Call).Asks asked' turn.cache) :
    ∃ asked', Kept source records asked asked' c call turn := by
  refine ⟨asked', hmirror, hsettles, hagree, fun stage' hstage => ?_, fun reply hreply => ?_⟩
  · rw [hprogress] at hstage
    obtain rfl := Option.some.inj hstage
    exact hasks
  · rw [hprogress] at hreply
    cases hreply

theorem Mirror.fetchPromise (h : Mirror source records asked c)
    (hmerge : KeepsKeys (c.objectKey source) source.merge) (config : c'.config = c.config)
    (generation : c'.generation = c.generation) (snapshot : c'.snapshot = c.snapshot)
    (objects : c'.objects = c.objects) (lookups : c'.lookupResults = c.lookupResults)
    (fetched : ∀ promise view, c'.fetchResults.result? promise = some (.ok view) →
      c.fetchResults.result? promise = some (.ok view)) :
    Mirror source records asked c' :=
  h.promise hmerge config generation snapshot objects fetched fun _ _ hfound =>
    .inl ⟨lookups ▸ hfound, rfl⟩

theorem Mirror.withLookup (h : Mirror source records asked c)
    (hmerge : KeepsKeys (c.objectKey source) source.merge) (identity : Identity) :
    Mirror source records (Function.update asked c.lookupResults.size (c.key identity))
      (c.withLookup identity) := by
  -- the new promise is not resolved, and the others keep their keys
  refine h.promise hmerge rfl rfl rfl rfl (fun _ _ => id) fun promise found hfound => ?_
  rcases result?_of_push hfound with hold | ⟨-, hnew⟩
  · have hne : promise ≠ c.lookupResults.size := Nat.ne_of_lt (lt_size_of_result? hold)
    exact .inl ⟨hold, Function.update_of_ne hne _ _⟩
  · cases hnew

/-- A lookup that ends with what it finds answers the call that asked for it. -/
theorem kept_found (h : Mirror source records asked c')
    (hmerge : KeepsKeys (c'.objectKey source) source.merge) {call : Call} {turn : Turn α}
    {lead : LookupLead} {found : Option Ref} (hsound : call.Sound c) (hasks : call.Asks asked c)
    (hstage : call.stage = .lookingUp lead) (hsettles : Settles source records c c')
    (hcache : turn.cache = c'.withFound lead (.ok found))
    (hprogress : turn.progress = .finished (.ok (.object found)))
    (hfound : c'.Finds source records lead.key found) :
    ∃ asked', Kept source records asked asked' c call turn := by
  have hmirror : Mirror source records asked (c'.withFound lead (.ok found)) :=
    h.withFound hmerge (hasks.lookingUp hstage) fun other hother => Except.ok.inj hother ▸ hfound
  obtain ⟨-, -, identity, hrequest, hkey⟩ := hsound.lookingUp hstage
  have hsettled : Settles source records c' (c'.withFound lead (.ok found)) :=
    settles_of_objects rfl rfl
  rw [← hcache] at hmirror hsettled
  refine kept_finished hmirror (hsettles.trans hsettled) hprogress fun reply hreply => ?_
  obtain rfl := Except.ok.inj hreply
  have hmerge' : KeepsKeys (turn.cache.objectKey source) source.merge :=
    hsettled.objectKey ▸ hmerge
  have hkey : turn.cache.key identity = lead.key := by
    rw [hkey, key, key, hsettled.config, hsettles.config]
  rw [hrequest]
  refine hmirror.answers_one hmerge' ?_
  rw [hkey]
  exact h.finds_settles hmerge hsettled hfound

section Cases

variable (h : Mirror source records asked c)
  (hmerge : KeepsKeys (c.objectKey source) source.merge) {call : Call}

include h hmerge

/-- A promise of a listing makes no difference until it is resolved. -/
theorem Mirror.withFetch : Mirror source records asked c.withFetch :=
  h.fetchPromise hmerge rfl rfl rfl rfl rfl fun _ _ hview =>
    (result?_of_push hview).resolve_right fun hnew => by cases hnew.2

theorem Mirror.triedFetch : Mirror source records asked
    { c with fetchResults := c.fetchResults.push (some (.error .cancelled)) } :=
  h.fetchPromise hmerge rfl rfl rfl rfl rfl fun _ _ hview =>
    (result?_of_push hview).resolve_right fun hnew => by cases hnew.2

theorem Mirror.triedLookup : Mirror source records asked
    { c with lookupResults := c.lookupResults.push (some (.error .cancelled)) } :=
  h.promise hmerge rfl rfl rfl rfl (fun _ _ => id) fun _ _ hfound =>
    .inl ⟨(result?_of_push hfound).resolve_right (fun hnew => by cases hnew.2), rfl⟩

theorem Mirror.failedFetch (lead : FetchLead) (error : CacheError) : Mirror source records asked
    ((c.abortFetch lead).resolveFetch lead.promise (.error error)) :=
  h.fetchPromise hmerge rfl rfl rfl rfl rfl fun _ _ hview =>
    (result?_of_resolve hview).resolve_right fun hnew => by cases hnew.2

/-- Who follows a listing is given what it lists. -/
theorem Mirror.kept_learnFetch {promise : Nat} {result : FetchResult}
    (hresult : c.fetchResults.result? promise = some result)
    (hrefresh : call.request = .refresh → ∀ view, result ≠ .ok view) :
    ∃ asked', Kept source records asked asked' c call
      { cache := c, progress := .finished (result.map (call.request.replyFrom c)) } := by
  refine kept_finished h (.refl c) rfl fun reply hreply => ?_
  cases result with
  | error error => cases hreply
  | ok view =>
    obtain rfl := Except.ok.inj hreply
    exact h.answers_replyFrom hmerge (fun heq => hrefresh heq view rfl)
      (h.fetched promise view hresult)

/-- Who follows a lookup of its key is given what it finds. -/
theorem Mirror.kept_learnLookup (hsound : call.Sound c) (hasks : call.Asks asked c) {promise : Nat}
    {result : LookupResult} (hstage : call.stage = .awaitingLookup promise true)
    (hresult : c.lookupResults.result? promise = some result) :
    ∃ asked', Kept source records asked asked' c call
      { cache := c, progress := .finished (result.map .object) } := by
  refine kept_finished h (.refl c) rfl fun reply hreply => ?_
  cases result with
  | error error => cases hreply
  | ok found =>
    obtain rfl := Except.ok.inj hreply
    rw [Call.Sound, hstage] at hsound
    obtain ⟨-, identity, hrequest⟩ := hsound
    have hfinds := h.found promise found hresult
    rw [hasks.awaitingLookup hstage hrequest] at hfinds
    exact hrequest ▸ h.answers_one hmerge hfinds

/-- Who leads a listing is given what it lists. -/
theorem Mirror.kept_listed (hsound : call.Sound c) {lead : FetchLead}
    (hstage : call.stage = .listing lead) (events : List (Event α)) :
    ∃ asked', Kept source records asked asked' c call
      ((c.commitFetch source call.request lead (records.filterMap source.construct)).after
        events) := by
  -- without edits there is one generation, so every listing is published
  obtain ⟨-, hgeneration, -, hrequest⟩ := hsound.listing hstage
  have hcurrent : c.generation = lead.generation := by
    rw [h.generation] at hgeneration ⊢
    exact (Nat.le_zero.1 hgeneration).symm
  obtain ⟨hmirror, hsettles, hanswers⟩ := h.commitFetch hmerge hrequest hcurrent
  refine ⟨asked, hmirror, hsettles, fun _ _ => rfl, fun stage hstage => ?_, hanswers⟩
  rw [Turn.after, commitFetch_stage?] at hstage
  cases hstage

/-- What a lookup finds is cached if it finds its key free, unless it comes after a listing. -/
theorem Mirror.fresh_of_free (hsound : call.Sound c) {lead : LookupLead} {object : α}
    (hstage : call.stage = .lookingUp lead) (hmem : object ∈ c.remoteObjects source records)
    (hfree : c.snapshot.find? (c.objectKey source object) = none) :
    c.generation = lead.generation ∧ c.snapshot.complete = false := by
  constructor
  · have hle := (hsound.lookingUp hstage).2.1
    rw [h.generation] at hle ⊢
    exact (Nat.le_zero.1 hle).symm
  · -- a complete view shows the object under its key
    refine Bool.eq_false_iff.2 fun hcomplete => ?_
    have hfinds := (h.complete hcomplete).finds hmerge (c.objectKey source object)
    rw [hfree] at hfinds
    exact hfinds (List.mem_map_of_mem hmem)

end Cases

/-- A turn over an unchanging remote side keeps the cache a mirror, and gives no other answer than
the one that the listing gives. -/
theorem Mirror.turned (h : Mirror source records asked c)
    (hmerge : KeepsKeys (c.objectKey source) source.merge) {call : Call} {action : Action ρ α}
    {turn : Turn α} (hsound : call.Sound c) (hasks : call.Asks asked c)
    (hslots : ∀ key flight, c.lookups.lookup key = some flight → asked flight.promise = key)
    (hremote : Unchanging source records c call action)
    (hturn : Turned source c call action turn) :
    ∃ asked', Kept source records asked asked' c call turn := by
  have hsame : Settles source records c c := .refl c
  cases hturn with
  | rest => exact kept_waiting h hsame (fun _ _ => rfl) rfl hasks
  | quit => exact kept_finished h hsame rfl fun _ hreply => by cases hreply
  | remember _ hrecalls =>
    refine kept_finished h hsame rfl fun reply hreply => ?_
    obtain rfl := Except.ok.inj hreply
    exact h.answers_recalls hmerge hrecalls
  | learnFetch _ hresult hrefresh => exact h.kept_learnFetch hmerge hresult hrefresh
  | learnLookup hstage hresult => exact h.kept_learnLookup hmerge hsound hasks hstage hresult
  | joinFetch => exact kept_waiting h hsame (fun _ _ => rfl) rfl trivial
  | joinLookup _ hrequest _ hflight =>
    refine kept_waiting h hsame (fun _ _ => rfl) rfl fun other hother => ?_
    obtain rfl := Request.one.inj (hrequest.symm.trans hother)
    exact hslots _ _ hflight
  | leadFetch =>
    exact kept_waiting (h.withFetch hmerge) (settles_of_objects rfl rfl) (fun _ _ => rfl) rfl
      trivial
  | @leadLookup _ identity =>
    refine kept_waiting (h.withLookup hmerge identity) (settles_of_objects rfl rfl)
      (fun promise hlt => Function.update_of_ne (Nat.ne_of_lt hlt) _ _) rfl ?_
    exact Function.update_self _ _ _
  | tryFetch =>
    exact kept_finished (h.triedFetch hmerge) (settles_of_objects rfl rfl) rfl
      fun _ hreply => by cases hreply
  | tryLookup =>
    exact kept_finished (h.triedLookup hmerge) (settles_of_objects rfl rfl) rfl
      fun _ hreply => by cases hreply
  | @failFetch _ lead error =>
    exact kept_finished (h.failedFetch hmerge lead error) (settles_of_objects rfl rfl) rfl
      fun _ hreply => by cases hreply
  | @failLookup _ lead error hstage =>
    have hmirror : Mirror source records asked (c.withFound lead (.error error)) :=
      h.withFound hmerge (hasks.lookingUp hstage) fun found hfound => by cases hfound
    exact kept_finished hmirror (settles_of_objects rfl rfl) rfl fun _ hreply => by cases hreply
  | @listed lead listed events hstage =>
    obtain rfl : listed = records := hremote
    exact h.kept_listed hmerge hsound hstage events
  | @absent lead record hstage hnone =>
    have hfind := find?_of_unchanging hsound hstage hremote
    rw [hnone] at hfind
    have hmiss : c.Finds source records lead.key none := by
      intro hkey
      obtain ⟨object, hobject, heq⟩ := List.mem_map.1 hkey
      have hother := List.find?_eq_none.1 hfind.symm object hobject
      exact hother (decide_eq_true heq)
    exact kept_found h hmerge hsound hasks hstage hsame rfl rfl hmiss
  | @present lead record object ref hstage hobject hcached =>
    obtain ⟨-, hkey⟩ := found_of_unchanging hsound hstage hremote hobject
    have hhit : c.Finds source records lead.key (some ref) := by
      rw [← hkey]
      exact (h.indexed.find?_eq_some_iff.1 hcached).2
    exact kept_found h hmerge hsound hasks hstage hsame rfl rfl hhit
  | handOut hstage hobject hfree hodd =>
    obtain ⟨hmem, -⟩ := found_of_unchanging hsound hstage hremote hobject
    obtain ⟨hcurrent, hincomplete⟩ := h.fresh_of_free hmerge hsound hstage hmem hfree
    rcases hodd with hne | hcomplete
    · exact absurd hcurrent hne
    · rw [hincomplete] at hcomplete
      cases hcomplete
  | @keep lead record object hstage hobject hfree =>
    obtain ⟨hmem, hkey⟩ := found_of_unchanging hsound hstage hremote hobject
    have hmirror := h.withObject hmerge hmem hfree
    have hnew : (c.withObject source object).Finds source records lead.key
        (some c.objects.size) := by
      show keyAt (c.objectKey source) (c.objects.push object) c.objects.size = some lead.key
      rw [keyAt, Array.getElem?_push_size, ← hkey]
      rfl
    exact kept_found hmirror hmerge hsound hasks hstage (settles_push rfl rfl) rfl rfl hnew

end Turn

end CatalogBrowser.Cache
