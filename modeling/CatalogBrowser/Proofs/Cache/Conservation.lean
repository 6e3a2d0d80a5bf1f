import CatalogBrowser.Proofs.Cache.Reconciliation
import Mathlib.Data.List.Nodup
import Mathlib.Data.List.Perm.Basic

/-!
# What a reconciliation keeps

A listing is merged into instances whose keys are pairwise distinct. Each first object of a key is
given as the cached instance with that key, which it is merged into, or else as a new instance; what
the listing lacks is removed if it was persisted, and stays behind the listed instances otherwise.
So nothing is lost and nothing is doubled, and the same listing once more has nothing to add and
nothing to remove. Nothing is assumed about how keys are made, so this holds under every key policy.

## Main definitions

* `cachedWith` - the cached instance with the key of an object.
* `Gives` - how an instance gives an object of a listing.
* `kept` - the drafts that a listing lacks.
* `mergesOf` - the merges among the events, in order.
* `Conserves` - all that a reconciliation has to come to.

## Main statements

* `absorb_merges` - each cached instance is merged with the first object of its key, once.
* `Distinct.reconcile_again` - a listing with the same keys as the one before changes no entry.
* `Distinct.conserves_reconcile` - every reconciliation conserves.
-/

namespace CatalogBrowser.Cache

variable {α : Type} {key : α → Key} {merge : α → α → α}

/-- The cached instance with the key of an object. -/
def cachedWith (key : α → Key) (objects : Array α) (current : List Ref) (object : α) : Option Ref :=
  current.find? fun ref => keyAt key objects ref = some (key object)

/-- How an instance gives an object of a listing: as the cached one, after a merge, or as a new one
that no cached instance gave way to. -/
def Gives (key : α → Key) (merge : α → α → α) (objects : Array α) (current : List Ref)
    (after : Array α) (object : α) (ref : Ref) : Prop :=
  (cachedWith key objects current object = some ref ∧
      ∃ existing, objects[ref]? = some existing ∧ after[ref]? = some (merge existing object)) ∨
    (cachedWith key objects current object = none ∧ objects.size ≤ ref ∧ after[ref]? = some object)

/-- The drafts that a listing lacks, in their old order. -/
def kept (key : α → Key) (isPersisted : α → Bool) (objects : Array α) (current : List Ref)
    (fresh : List α) : List Ref :=
  (lacking key objects current fresh).filter fun ref => !(objects[ref]?.any isPersisted)

/-- The merges among some events: the instance, its state before, and what was merged into it. -/
def mergesOf (events : List (Event α)) : List (Ref × α × α) :=
  events.filterMap fun event => match event with
    | .merged ref existing fresh => some (ref, existing, fresh)
    | _ => none

/-- The merge that an object of a listing calls for, if there is an instance to merge it into. -/
def mergeInto (objects : Array α) (cached : Option Ref) (object : α) : Option (Ref × α × α) :=
  cached.bind fun ref => objects[ref]?.map fun existing => (ref, existing, object)

/-- All that merging a listing into cached instances has to come to. -/
structure Conserves (key : α → Key) (isPersisted : α → Bool) (merge : α → α → α)
    (objects : Array α) (current : List Ref) (fresh : List α) (listed : List Ref)
    (out : Reconciliation α) : Prop where
  /-- The first object of each key is given, in the order of the listing. -/
  gives : List.Forall₂ (Gives key merge objects current out.objects) (firstOfEach key fresh) listed
  /-- Drafts that the listing lacks stay behind, in their old order. -/
  entries : out.entries = listed ++ kept key isPersisted objects current fresh
  updated : out.changes.updated = listed.filter (· ∈ current)
  added : out.changes.added = listed.filter (· ∉ current)
  removed : out.changes.removed = (lacking key objects current fresh).filter fun ref =>
    objects[ref]?.any isPersisted
  /-- What is cached is merged once, with the first object of its key. -/
  merges : mergesOf out.events = (firstOfEach key fresh).filterMap fun object =>
    mergeInto objects (cachedWith key objects current object) object
  /-- Whatever is not given keeps its state. -/
  others : ∀ ref < objects.size, ref ∉ out.changes.updated → out.objects[ref]? = objects[ref]?
  distinct : Distinct key out.objects out.entries
  current_perm : current.Perm
    (out.changes.updated ++ out.changes.removed ++ kept key isPersisted objects current fresh)
  entries_perm : out.entries.Perm
    (out.changes.added ++ out.changes.updated ++ kept key isPersisted objects current fresh)

section Merges

variable {objects : Array α} {unmet : List (Key × Ref)} {seen : List Key} {fresh : List α}

theorem mergesOf_merged (ref : Ref) (existing object : α) (events : List (Event α)) :
    mergesOf (.merged ref existing object :: events) =
      (ref, existing, object) :: mergesOf events := rfl

theorem mergeInto_meet (hwaits : Waits key objects unmet) {object other : α} {ref : Ref}
    (hlookup : unmet.lookup (key object) = some ref) (hne : key other ≠ key object) :
    mergeInto (objects.modify ref (merge · object))
        ((unmet.filter (·.1 ≠ key object)).lookup (key other)) other =
      mergeInto objects (unmet.lookup (key other)) other := by
  rw [lookup_filter_of_ne hne]
  refine Option.bind_congr fun old hold => ?_
  rw [hwaits.getElem?_modify hlookup hold hne]

theorem mergeInto_push (hwaits : Waits key objects unmet) (object other : α) :
    mergeInto (objects.push object) (unmet.lookup (key other)) other =
      mergeInto objects (unmet.lookup (key other)) other := by
  refine Option.bind_congr fun old hold => ?_
  rw [getElem?_push_of_lt (lt_size_of_keyAt (hwaits.keyAt_lookup hold))]

/-- Each first object of a key is merged into what waits under the key, in the order of the
listing. -/
theorem absorb_merges (hmerge : KeepsKeys key merge) (hwaits : Waits key objects unmet) :
    mergesOf (absorb key merge objects unmet seen fresh).events =
      (unseen key seen fresh).filterMap fun object =>
        mergeInto objects (unmet.lookup (key object)) object := by
  fun_induction absorb key merge objects unmet seen fresh with
  | case1 => rfl
  | case2 objects unmet seen object rest k hseen out ih =>
    rw [unseen, if_pos hseen]
    exact ih hwaits
  | case3 objects unmet seen object rest k hseen ref hlookup out events ih =>
    obtain ⟨existing, hexisting, -⟩ := keyAt_eq_some_iff.1 (hwaits.keyAt_lookup hlookup)
    have hevents : events = [.merged ref existing object] := by
      simp [events, hexisting]
    have hhead : mergeInto objects (unmet.lookup (key object)) object =
        some (ref, existing, object) := by
      rw [show unmet.lookup (key object) = some ref from hlookup]
      simp [mergeInto, hexisting]
    rw [unseen, if_neg hseen, hevents, List.singleton_append, mergesOf_merged,
      ih (hwaits.meet hmerge hlookup)]
    simp only [List.filterMap_cons, hhead]
    -- the rest of the listing has other keys, so it neither asks for this instance nor sees it
    refine congrArg _ (List.filterMap_congr fun other hother => ?_)
    have hunseen := (key_mem_unseen_iff.1 (List.mem_map_of_mem hother)).2
    exact mergeInto_meet hwaits hlookup fun heq => hunseen (heq ▸ List.mem_cons_self)
  | case4 objects unmet seen object rest k hseen hlookup ref out ih =>
    have hhead : mergeInto objects (unmet.lookup (key object)) object = none := by
      rw [show unmet.lookup (key object) = none from hlookup]
      rfl
    rw [unseen, if_neg hseen]
    simp only [List.filterMap_cons, hhead]
    exact (ih (hwaits.push object)).trans
      (List.filterMap_congr fun other _ => mergeInto_push hwaits object other)

end Merges

section Reconcile

variable {objects : Array α} {current : List Ref} {fresh : List α}

/-- Instances with one key are one instance. -/
theorem Distinct.eq_of_keyAt (h : Distinct key objects current) {a b : Ref} (ha : a ∈ current)
    (hb : b ∈ current) (hkey : keyAt key objects a = keyAt key objects b) : a = b :=
  List.inj_on_of_nodup_map h.nodup ha hb hkey

theorem Distinct.cachedWith_eq_some_iff (h : Distinct key objects current) {object : α}
    {ref : Ref} : cachedWith key objects current object = some ref ↔
      ref ∈ current ∧ keyAt key objects ref = some (key object) :=
  Association.find?_eq_some_iff h.nodup

/-- The index that a reconciliation makes of the cached instances finds them by key. -/
theorem Distinct.lookup_keyed (h : Distinct key objects current) (object : α) :
    (keyed key objects current).reverse.lookup (key object) =
      cachedWith key objects current object := by
  refine Option.ext fun ref => ?_
  rw [Association.lookup_eq_some_iff_mem h.waits.nodup, List.mem_reverse, mem_keyed_iff,
    h.cachedWith_eq_some_iff]

theorem Distinct.gives_of_stands (h : Distinct key objects current) {after : Array α} {object : α}
    {ref : Ref} (hstands : Stands key merge (keyed key objects current).reverse objects after
      object ref) : Gives key merge objects current after object ref := by
  rw [Stands, h.lookup_keyed] at hstands
  refine hstands.imp_left ?_
  rintro ⟨hcached, hstate⟩
  refine ⟨hcached, ?_⟩
  obtain ⟨-, hkey⟩ := h.cachedWith_eq_some_iff.1 hcached
  obtain ⟨existing, hexisting, -⟩ := keyAt_eq_some_iff.1 hkey
  exact ⟨existing, hexisting, by rw [hstate, hexisting, Option.map_some]⟩

theorem Distinct.reconcile_merges (h : Distinct key objects current) (hmerge : KeepsKeys key merge)
    (isPersisted : α → Bool) (fresh : List α) :
    mergesOf (Cache.reconcile key isPersisted merge objects current fresh).events =
      (firstOfEach key fresh).filterMap fun object =>
        mergeInto objects (cachedWith key objects current object) object := by
  refine (absorb_merges hmerge h.waits).trans (List.filterMap_congr fun object _ => ?_)
  rw [h.lookup_keyed]

/-- Among the listed instances the cached ones are those that existed before. -/
theorem Distinct.mem_current_iff_lt (h : Distinct key objects current) {ref : Ref}
    (hmem : ref ∈ listedEntries key merge objects current fresh) :
    ref ∈ current ↔ ref < objects.size := by
  refine ⟨h.lt_size ref, fun hlt => ?_⟩
  rcases mem_listedEntries (fun _ => true) hmem with hcurrent | ⟨hnew, -⟩
  · exact hcurrent
  · exact absurd hlt (Nat.not_lt.2 hnew)

theorem Distinct.reconcile_updated (h : Distinct key objects current) (isPersisted : α → Bool)
    (merge : α → α → α) (fresh : List α) :
    (Cache.reconcile key isPersisted merge objects current fresh).changes.updated =
      (listedEntries key merge objects current fresh).filter (· ∈ current) := by
  rw [(reconcile_changes key isPersisted merge objects current fresh).1]
  exact List.filter_congr fun ref href => decide_eq_decide.2 (h.mem_current_iff_lt href).symm

theorem Distinct.reconcile_added (h : Distinct key objects current) (isPersisted : α → Bool)
    (merge : α → α → α) (fresh : List α) :
    (Cache.reconcile key isPersisted merge objects current fresh).changes.added =
      (listedEntries key merge objects current fresh).filter (· ∉ current) := by
  rw [(reconcile_changes key isPersisted merge objects current fresh).2]
  refine List.filter_congr fun ref href => decide_eq_decide.2 ?_
  rw [h.mem_current_iff_lt href, Nat.not_lt]

/-- The retained instances are the cached ones whose key is listed. -/
theorem Distinct.mem_updated_iff (h : Distinct key objects current) (hmerge : KeepsKeys key merge)
    (isPersisted : α → Bool) (fresh : List α) (ref : Ref) :
    ref ∈ (Cache.reconcile key isPersisted merge objects current fresh).changes.updated ↔
      ref ∈ current ∧ keyAt key objects ref ∈ fresh.map (some ∘ key) := by
  rw [h.reconcile_updated, List.mem_filter, decide_eq_true_eq]
  constructor
  · rintro ⟨hlisted, hcurrent⟩
    refine ⟨hcurrent, by_contra fun hmiss => ?_⟩
    exact h.not_mem_listedEntries hmerge (mem_lacking_iff.2 ⟨hcurrent, hmiss⟩) hlisted
  · rintro ⟨hcurrent, hkey⟩
    exact ⟨h.mem_listedEntries_of_keyAt hmerge hcurrent hkey, hcurrent⟩

/-- Instances that are not retained keep their states. -/
theorem Distinct.reconcile_getElem? (h : Distinct key objects current)
    (hmerge : KeepsKeys key merge) (isPersisted : α → Bool) (fresh : List α) {ref : Ref}
    (hlt : ref < objects.size)
    (hout : ref ∉ (Cache.reconcile key isPersisted merge objects current fresh).changes.updated) :
    (Cache.reconcile key isPersisted merge objects current fresh).objects[ref]? =
      objects[ref]? := by
  refine absorb_getElem? hlt fun k hmem hlisted => hout ?_
  obtain ⟨hcurrent, hkey⟩ := mem_keyed_iff.1 (List.mem_reverse.1 hmem)
  rw [h.mem_updated_iff hmerge, hkey]
  obtain ⟨object, hobject, rfl⟩ := List.mem_map.1 hlisted
  exact ⟨hcurrent, List.mem_map_of_mem (f := some ∘ key) hobject⟩

theorem Distinct.reconcile_getElem?_of_lacking (h : Distinct key objects current)
    (hmerge : KeepsKeys key merge) (isPersisted : α → Bool) {ref : Ref}
    (hmem : ref ∈ lacking key objects current fresh) :
    (Cache.reconcile key isPersisted merge objects current fresh).objects[ref]? =
      objects[ref]? := by
  obtain ⟨hcurrent, hmiss⟩ := mem_lacking_iff.1 hmem
  refine h.reconcile_getElem? hmerge isPersisted fresh (h.lt_size ref hcurrent) fun hupdated => ?_
  exact hmiss ((h.mem_updated_iff hmerge isPersisted fresh ref).1 hupdated).2

theorem Distinct.reconcile_kept (h : Distinct key objects current) (hmerge : KeepsKeys key merge)
    (isPersisted : α → Bool) (fresh : List α) :
    (Cache.reconcile key isPersisted merge objects current fresh).entries =
      listedEntries key merge objects current fresh ++
        kept key isPersisted objects current fresh := by
  rw [h.reconcile_entries hmerge isPersisted fresh]
  refine congrArg _ (List.filter_congr fun ref href => ?_)
  rw [h.reconcile_getElem?_of_lacking hmerge isPersisted href]

theorem Distinct.reconcile_dropped (h : Distinct key objects current)
    (hmerge : KeepsKeys key merge) (isPersisted : α → Bool) (fresh : List α) :
    (Cache.reconcile key isPersisted merge objects current fresh).changes.removed =
      (lacking key objects current fresh).filter fun ref => objects[ref]?.any isPersisted := by
  rw [h.reconcile_removed hmerge isPersisted fresh]
  refine List.filter_congr fun ref href => ?_
  rw [h.reconcile_getElem?_of_lacking hmerge isPersisted href]

/-- What was cached is retained, removed or kept as a draft. -/
theorem Distinct.current_perm (h : Distinct key objects current) (hmerge : KeepsKeys key merge)
    (isPersisted : α → Bool) (fresh : List α) :
    let out := Cache.reconcile key isPersisted merge objects current fresh
    current.Perm (out.changes.updated ++ out.changes.removed ++
      kept key isPersisted objects current fresh) := by
  intro out
  have hlisted : (current.filter fun ref => keyAt key objects ref ∈ fresh.map (some ∘ key)).Perm
      out.changes.updated := by
    refine (List.perm_ext_iff_of_nodup (h.nodup_refs.filter _) ?_).2 fun ref => ?_
    · rw [h.reconcile_updated]
      exact (List.nodup_append.1 (h.reconcile_kept hmerge isPersisted fresh ▸
        (h.reconcile hmerge isPersisted fresh).nodup_refs)).1.filter _
    · rw [h.mem_updated_iff hmerge, List.mem_filter, decide_eq_true_eq]
  have hlacking : (lacking key objects current fresh).Perm
      (out.changes.removed ++ kept key isPersisted objects current fresh) := by
    rw [h.reconcile_dropped hmerge]
    exact (List.filter_append_perm _ _).symm
  rw [List.append_assoc]
  refine (List.filter_append_perm
    (fun ref => decide (keyAt key objects ref ∈ fresh.map (some ∘ key))) current).symm.trans ?_
  refine hlisted.append (.trans (.of_eq ?_) hlacking)
  exact List.filter_congr fun ref _ => (decide_not ..).symm

/-- What is cached now was added, retained or kept as a draft. -/
theorem Distinct.entries_perm (h : Distinct key objects current) (hmerge : KeepsKeys key merge)
    (isPersisted : α → Bool) (fresh : List α) :
    let out := Cache.reconcile key isPersisted merge objects current fresh
    out.entries.Perm (out.changes.added ++ out.changes.updated ++
      kept key isPersisted objects current fresh) := by
  intro out
  rw [h.reconcile_kept hmerge, h.reconcile_updated, h.reconcile_added]
  refine List.Perm.append_right _ ?_
  refine (List.filter_append_perm (· ∈ current) _).symm.trans (List.perm_append_comm.trans ?_)
  exact .of_eq (congrArg (· ++ _) (List.filter_congr fun ref _ => (decide_not ..).symm))

/-- What is left out of a listing is told by the keys alone. -/
theorem map_key_unseen_congr {again : List α} (seen : List Key)
    (hkeys : again.map key = fresh.map key) :
    (unseen key seen again).map key = (unseen key seen fresh).map key := by
  induction fresh generalizing again seen with
  | nil => rw [List.map_eq_nil_iff.1 hkeys]
  | cons object rest ih =>
    obtain ⟨first, others, rfl, hfirst, hothers⟩ := List.map_eq_cons_iff.1 hkeys
    rw [unseen, unseen, hfirst]
    split
    · exact ih seen hothers
    · rw [List.map_cons, List.map_cons, hfirst, ih _ hothers]

theorem eq_of_map_eq_map {β γ : Type} {f : β → γ} {xs ys : List β} (h : xs.map f = ys.map f)
    (hinj : ∀ x ∈ xs, ∀ y ∈ ys, f x = f y → x = y) : xs = ys := by
  induction xs generalizing ys with
  | nil => exact (List.map_eq_nil_iff.1 h.symm).symm
  | cons x rest ih =>
    obtain ⟨y, others, rfl, hfirst, hothers⟩ := List.map_eq_cons_iff.1 h.symm
    rw [hinj x List.mem_cons_self y List.mem_cons_self hfirst.symm, ih hothers.symm fun a ha b hb =>
      hinj a (List.mem_cons_of_mem _ ha) b (List.mem_cons_of_mem _ hb)]

section Again

variable {again : List α} (isPersisted : α → Bool)

/-- A listing with the keys of the one before stands for the same instances. -/
theorem Distinct.listedEntries_again (h : Distinct key objects current)
    (hmerge : KeepsKeys key merge) (hkeys : again.map key = fresh.map key) :
    let out := Cache.reconcile key isPersisted merge objects current fresh
    listedEntries key merge out.objects out.entries again =
      listedEntries key merge objects current fresh := by
  intro out
  have hout : Distinct key out.objects out.entries := h.reconcile hmerge isPersisted fresh
  have hfirst := map_key_unseen_congr [] hkeys
  have hsub : ∀ ref ∈ listedEntries key merge objects current fresh, ref ∈ out.entries := by
    intro ref href
    rw [h.reconcile_kept hmerge isPersisted fresh]
    exact List.mem_append_left _ href
  have hlisted : ∀ ref ∈ listedEntries key merge out.objects out.entries again,
      ref ∈ out.entries := by
    intro ref href
    obtain ⟨object, hobject, hstands⟩ :=
      exists_left_of_forall₂ (hout.reconcile_stands hmerge isPersisted again) href
    -- its key was given the last time, by an instance that is cached now
    obtain ⟨first, hmem, hsame⟩ := List.mem_map.1
      (hfirst ▸ List.mem_map_of_mem (f := key) hobject : key object ∈ (unseen key [] fresh).map key)
    obtain ⟨old, hold, hgave⟩ :=
      exists_right_of_forall₂ (h.reconcile_stands hmerge isPersisted fresh) hmem
    have hcached : cachedWith key out.objects out.entries object = some old :=
      hout.cachedWith_eq_some_iff.2 ⟨hsub old hold, hsame ▸ hgave.keyAt hmerge h.waits⟩
    rcases hout.gives_of_stands hstands with ⟨hfound, -⟩ | ⟨hnone, -⟩
    · exact (hout.cachedWith_eq_some_iff.1 hfound).1
    · rw [hcached] at hnone
      cases hnone
  refine eq_of_map_eq_map (f := keyAt key out.objects) ?_ fun a ha b hb =>
    hout.eq_of_keyAt (hlisted a ha) (hsub b hb)
  have hold := h.map_keyAt_listedEntries hmerge isPersisted fresh
  have hnew := hout.map_keyAt_listedEntries hmerge isPersisted again
  rw [List.map_congr_left fun ref href => hout.reconcile_keyAt hmerge isPersisted again
    (hout.lt_size ref (hlisted ref href))] at hnew
  rw [hnew, hold, ← List.map_map, ← List.map_map]
  exact congrArg _ hfirst

/-- What the listing lacked before it lacks still, and these are the drafts. -/
theorem Distinct.lacking_again (h : Distinct key objects current) (hmerge : KeepsKeys key merge)
    (hkeys : again.map key = fresh.map key) :
    let out := Cache.reconcile key isPersisted merge objects current fresh
    lacking key out.objects out.entries again = kept key isPersisted objects current fresh := by
  intro out
  have hsame : again.map (some ∘ key) = fresh.map (some ∘ key) := by
    rw [← List.map_map, ← List.map_map, hkeys]
  rw [lacking, hsame, h.reconcile_kept hmerge isPersisted fresh, List.filter_append]
  have hlisted : (listedEntries key merge objects current fresh).filter (fun ref =>
      keyAt key out.objects ref ∉ fresh.map (some ∘ key)) = [] := by
    refine List.filter_eq_nil_iff.2 fun ref href => ?_
    obtain ⟨object, hobject, hkey⟩ := h.exists_keyAt_of_mem_listedEntries hmerge isPersisted href
    have hmem : keyAt key out.objects ref ∈ fresh.map (some ∘ key) :=
      hkey ▸ List.mem_map_of_mem (f := some ∘ key) hobject
    simpa using hmem
  have hkept : (kept key isPersisted objects current fresh).filter (fun ref =>
      keyAt key out.objects ref ∉ fresh.map (some ∘ key)) =
        kept key isPersisted objects current fresh := by
    refine List.filter_eq_self.2 fun ref href => decide_eq_true ?_
    obtain ⟨hmem, hmiss⟩ := mem_lacking_iff.1 (List.mem_of_mem_filter href)
    rwa [h.reconcile_keyAt hmerge isPersisted fresh (h.lt_size ref hmem)]
  rw [hlisted, hkept, List.nil_append]

/-- Merging a listing with the same keys once more adds nothing, removes nothing and changes no
entry. -/
theorem Distinct.reconcile_again (h : Distinct key objects current) (hmerge : KeepsKeys key merge)
    (hkeys : again.map key = fresh.map key) :
    let out := Cache.reconcile key isPersisted merge objects current fresh
    let next := Cache.reconcile key isPersisted merge out.objects out.entries again
    next.changes.added = [] ∧ next.changes.removed = [] ∧ next.entries = out.entries := by
  intro out next
  have hout : Distinct key out.objects out.entries := h.reconcile hmerge isPersisted fresh
  have hlisted := h.listedEntries_again isPersisted hmerge hkeys
  have hlacking := h.lacking_again isPersisted hmerge hkeys
  -- a draft is a draft still, as no listing named it
  have hdraft : ∀ ref ∈ kept key isPersisted objects current fresh,
      out.objects[ref]?.any isPersisted = false := by
    intro ref href
    obtain ⟨hmem, hunpersisted⟩ := List.mem_filter.1 href
    rw [h.reconcile_getElem?_of_lacking hmerge isPersisted hmem]
    simpa using hunpersisted
  refine ⟨?_, ?_, ?_⟩
  · rw [hout.reconcile_added, hlisted]
    refine List.filter_eq_nil_iff.2 fun ref href => ?_
    have hmem : ref ∈ out.entries := by
      rw [h.reconcile_kept hmerge isPersisted fresh]
      exact List.mem_append_left _ href
    simpa using hmem
  · rw [hout.reconcile_dropped hmerge, hlacking]
    exact List.filter_eq_nil_iff.2 fun ref href => by simp [hdraft ref href]
  · rw [hout.reconcile_kept hmerge isPersisted again, hlisted, kept, hlacking]
    refine .trans (congrArg _ ?_) (h.reconcile_kept hmerge isPersisted fresh).symm
    exact List.filter_eq_self.2 fun ref href => by simp [hdraft ref href]

end Again

/-- For every listing, merged into any instances whose keys are pairwise distinct by a merge that
changes no key: the first object of each key is given, in the order of the listing, by the cached
instance with that key or else by a new one; what the listing lacks is removed or stays behind as a
draft, in the old order; each retained instance is merged exactly once. Nothing is lost or doubled,
and a listing with the same keys adds nothing and removes nothing after that. -/
theorem Distinct.conserves_reconcile (h : Distinct key objects current)
    (hmerge : KeepsKeys key merge) (isPersisted : α → Bool) (fresh : List α) :
    let out := Cache.reconcile key isPersisted merge objects current fresh
    (∃ listed, Conserves key isPersisted merge objects current fresh listed out) ∧
      ∀ again : List α, again.map key = fresh.map key →
        let next := Cache.reconcile key isPersisted merge out.objects out.entries again
        next.changes.added = [] ∧ next.changes.removed = [] ∧ next.entries = out.entries := by
  intro out
  refine ⟨⟨listedEntries key merge objects current fresh, ?_⟩,
    fun again hkeys => h.reconcile_again isPersisted hmerge hkeys⟩
  exact {
    gives := (h.reconcile_stands hmerge isPersisted fresh).imp fun _ _ => h.gives_of_stands
    entries := h.reconcile_kept hmerge isPersisted fresh
    updated := h.reconcile_updated isPersisted merge fresh
    added := h.reconcile_added isPersisted merge fresh
    removed := h.reconcile_dropped hmerge isPersisted fresh
    merges := h.reconcile_merges hmerge isPersisted fresh
    others := fun _ => h.reconcile_getElem? hmerge isPersisted fresh
    distinct := h.reconcile hmerge isPersisted fresh
    current_perm := h.current_perm hmerge isPersisted fresh
    entries_perm := h.entries_perm hmerge isPersisted fresh }

/-- Names are folded, two objects of the listing have one key, and of two drafts it names one. -/
theorem conserves_reconcile_folded :
    let key : String × Bool → Key := fun object => KeyPolicy.lowercase.key (.name object.1)
    let merge : String × Bool → String × Bool → String × Bool := fun old new => (old.1, new.2)
    let objects := #[("Orders", true), ("Draft", false), ("gone", true), ("note", false)]
    let fresh := [("new", true), ("ORDERS", true), ("NEW", true), ("draft", true)]
    let out := Cache.reconcile key (·.2) merge objects [0, 1, 2, 3] fresh
    Distinct key objects [0, 1, 2, 3] ∧ KeepsKeys key merge ∧
      (out.entries = [4, 0, 1, 3] ∧ out.changes.removed = [2]) ∧
      (∃ listed, Conserves key (·.2) merge objects [0, 1, 2, 3] fresh listed out) ∧
      ∀ again, again.map key = fresh.map key →
        let next := Cache.reconcile key (·.2) merge out.objects out.entries again
        next.changes.added = [] ∧ next.changes.removed = [] ∧ next.entries = out.entries := by
  intro key merge objects fresh out
  have hdistinct : Distinct key objects [0, 1, 2, 3] := ⟨by decide +kernel, by decide +kernel⟩
  have hmerge : KeepsKeys key merge := fun _ _ _ => rfl
  exact ⟨hdistinct, hmerge, by decide +kernel, hdistinct.conserves_reconcile hmerge (·.2) fresh⟩

end Reconcile

end CatalogBrowser.Cache
