import CatalogBrowser.Proofs.Cache.Descent
import CatalogBrowser.Proofs.Cache.Identity

/-!
# What becomes of cached instances

A step of a cache drops an instance, and tells it so; or it keeps the instance as it is; or it
merges one fresh object into it. A listing does so for the key that it brings, and for no other.

## Main definitions

* `Treats` - what a step does to each of the cached instances.

## Main statements

* `Turned.treats`, `Load.Ran.treats` - a load does nothing else to them.
* `dropped_edit` - an edit drops what it leaves out.
* `Load.Ran.agrees` - a load keeps the instance of every key that stays.
-/

namespace CatalogBrowser.Cache

variable {ρ α : Type} {source : Source ρ α} {c c' : Cache α} {merge : α → α → α}

/-- Each cached instance is kept as it is, merged with one fresh object, or dropped. -/
def Treats (source : Source ρ α) (merge : α → α → α) (c c' : Cache α) : Prop :=
  ∀ ref ∈ c.snapshot.entries, ∀ object, c.object? ref = some object →
    (ref ∉ c'.snapshot.entries ∧ c'.object? ref = some (source.evicted object)) ∨
    (ref ∈ c'.snapshot.entries ∧
      (c'.object? ref = some object ∨ ∃ fresh, c'.object? ref = some (merge object fresh)))

theorem evict_getElem?_of_nodup (source : Source ρ α) {objects : Array α} {refs : List Ref}
    {ref : Ref} (hnodup : refs.Nodup) (hmem : ref ∈ refs) :
    (evict source objects refs).1[ref]? = objects[ref]?.map source.evicted := by
  induction refs generalizing objects with
  | nil => cases hmem
  | cons first rest ih =>
    obtain ⟨hfirst, hrest⟩ := List.nodup_cons.1 hnodup
    rcases List.mem_cons.1 hmem with rfl | hmem
    · refine (evict_getElem? source hfirst).trans ?_
      rw [Array.getElem?_modify, if_pos rfl]
    · refine (ih hrest hmem).trans ?_
      have hne : first ≠ ref := by
        rintro rfl
        exact hfirst hmem
      rw [Array.getElem?_modify, if_neg hne]

/-- A step that leaves the view and the cached instances alone. -/
theorem treats_of_same (hsnapshot : c'.snapshot = c.snapshot)
    (hobjects : ∀ ref ∈ c.snapshot.entries, c'.object? ref = c.object? ref) :
    Treats source merge c c' := fun ref href _ hobject =>
  .inr ⟨hsnapshot ▸ href, .inl ((hobjects ref href).trans hobject)⟩

section Reconcile

variable {key : α → Key} {isPersisted : α → Bool} {objects : Array α} {current : List Ref}
  {fresh : List α} {ref : Ref} {object : α}

/-- An instance whose key is listed is merged with the first object of that key. -/
theorem Distinct.reconcile_listed (h : Distinct key objects current) (hmerge : KeepsKeys key merge)
    (isPersisted : α → Bool) (href : ref ∈ current) (hobject : objects[ref]? = some object)
    (hlisted : keyAt key objects ref ∈ fresh.map (some ∘ key)) :
    let out := Cache.reconcile key isPersisted merge objects current fresh
    ref ∈ out.entries ∧ ∃ given, out.objects[ref]? = some (merge object given) := by
  intro out
  have hmem := h.mem_listedEntries_of_keyAt hmerge href hlisted
  refine ⟨List.mem_append_left _ hmem, ?_⟩
  obtain ⟨given, -, hstands⟩ :=
    exists_left_of_forall₂ (h.reconcile_stands hmerge isPersisted fresh) hmem
  rcases hstands with ⟨-, hstate⟩ | ⟨-, hnew, -⟩
  · exact ⟨given, by rw [hstate, hobject]; rfl⟩
  · exact absurd (h.lt_size ref href) (Nat.not_lt.2 hnew)

/-- An instance whose key is not listed keeps its state until it is dropped. -/
theorem Distinct.reconcile_unlisted (h : Distinct key objects current)
    (hmerge : KeepsKeys key merge) (hpersisted : ∀ object, isPersisted object = true)
    (href : ref ∈ current) (hunlisted : keyAt key objects ref ∉ fresh.map (some ∘ key)) :
    let out := Cache.reconcile key isPersisted merge objects current fresh
    ref ∉ out.entries ∧ ref ∈ out.changes.removed ∧ out.objects[ref]? = objects[ref]? := by
  intro out
  have hlacking : ref ∈ lacking key objects current fresh := mem_lacking_iff.2 ⟨href, hunlisted⟩
  have hlt := h.lt_size ref href
  have hstate : out.objects[ref]? = objects[ref]? := by
    refine absorb_getElem? hlt fun k hwaiting hlisted => hunlisted ?_
    rw [(mem_keyed_iff.1 (List.mem_reverse.1 hwaiting)).2]
    obtain ⟨given, hgiven, rfl⟩ := List.mem_map.1 hlisted
    exact List.mem_map_of_mem hgiven
  have hremoved : ref ∈ out.changes.removed := by
    have hremoved : out.changes.removed = _ := h.reconcile_removed hmerge isPersisted fresh
    rw [hremoved]
    refine List.mem_filter.2 ⟨hlacking, ?_⟩
    rw [hstate, Array.getElem?_eq_getElem hlt]
    exact hpersisted _
  exact ⟨h.not_mem_reconcile_entries hmerge isPersisted fresh hremoved, hremoved, hstate⟩

end Reconcile

/-- Reconciling a listing, and dropping what it lacks. -/
theorem treats_reconcile (h : c.Indexed source) (hmerge : KeepsKeys (c.objectKey source) merge)
    (hpersisted : ∀ object, source.isPersisted object = true) (fresh : List α) :
    let out := reconcile (c.objectKey source) source.isPersisted merge c.objects
      c.snapshot.entries fresh
    c'.snapshot.entries = out.entries →
      c'.objects = (evict source out.objects out.changes.removed).1 →
      Treats source merge c c' := by
  intro out hentries hobjects ref href object hobject
  have hremoved := h.distinct.nodup_reconcile_removed hmerge source.isPersisted fresh
  rw [object?, hentries, hobjects]
  by_cases hlisted : keyAt (c.objectKey source) c.objects ref ∈
      fresh.map (some ∘ c.objectKey source)
  · obtain ⟨hmem, given, hstate⟩ :=
      h.distinct.reconcile_listed hmerge source.isPersisted href hobject hlisted
    refine .inr ⟨hmem, .inr ⟨given, (evict_getElem? source fun hgone => ?_).trans hstate⟩⟩
    exact h.distinct.not_mem_reconcile_entries hmerge source.isPersisted fresh hgone hmem
  · obtain ⟨hmem, hgone, hstate⟩ :=
      h.distinct.reconcile_unlisted hmerge hpersisted href hlisted
    refine .inl ⟨hmem, ?_⟩
    rw [evict_getElem?_of_nodup source hremoved hgone, hstate]
    exact congrArg (Option.map source.evicted) hobject

section Turn

variable {call : Call} {action : Action ρ α} {turn : Turn α}

theorem Turned.treats (hturn : Turned source c call action turn) (h : c.Indexed source)
    (hmerge : KeepsKeys (c.objectKey source) source.merge)
    (hpersisted : ∀ object, source.isPersisted object = true) :
    Treats source source.merge c turn.cache := by
  cases hturn with
  | @listed lead records =>
    rw [Turn.after]
    by_cases hgeneration : c.generation = lead.generation
    · rw [commitFetch_of_current hgeneration]
      exact treats_reconcile h hmerge hpersisted _ rfl rfl
    · rw [commitFetch_of_outdated hgeneration]
      exact treats_of_same rfl fun ref href =>
        instantiate_getElem? _ _ (h.distinct.lt_size ref href)
  | handOut =>
    exact treats_of_same rfl fun ref href => getElem?_push_of_lt (h.distinct.lt_size ref href) _
  | keep =>
    intro ref href object hobject
    refine .inr ⟨List.mem_append_left _ href, .inl ?_⟩
    exact (getElem?_push_of_lt (h.distinct.lt_size ref href) _).trans hobject
  | _ => exact treats_of_same rfl fun _ _ => rfl

/-- A call that goes on has seen to nothing yet. -/
theorem Turned.same_of_stage? (hturn : Turned source c call action turn) {stage : Stage}
    (hwaits : turn.progress.stage? = some stage) :
    turn.cache.snapshot = c.snapshot ∧ turn.cache.objects = c.objects ∧
      turn.cache.config = c.config := by
  cases hturn with
  | rest | joinFetch | joinLookup | leadFetch | leadLookup => exact ⟨rfl, rfl, rfl⟩
  | listed =>
    rw [Turn.after, commitFetch_stage?] at hwaits
    cases hwaits
  | _ => cases hwaits

end Turn

/-- An edit drops what it leaves out, in the state that it has. -/
theorem dropped_edit (h : c.Indexed source) {edit : Edit α}
    (hkeeps : KeepsIdentity source { cache := c } (.edit edit))
    (hpersisted : ∀ object, source.isPersisted object = true) {ref : Ref}
    (href : ref ∈ c.snapshot.entries) (hgone : ref ∉ (edit.apply source c).2.1.snapshot.entries)
    {object : α} (hobject : c.object? ref = some object) :
    (edit.apply source c).2.1.object? ref = some (source.evicted object) := by
  cases edit with
  | set fresh =>
    refine (evict_getElem?_of_nodup source h.distinct.nodup_refs href).trans ?_
    have hsame := instantiate_getElem? (c.objectKey source) fresh (h.distinct.lt_size ref href)
    exact congrArg (Option.map source.evicted) (hsame.trans hobject)
  | clear =>
    refine (evict_getElem?_of_nodup source h.distinct.nodup_refs href).trans ?_
    exact congrArg (Option.map source.evicted) hobject
  | reconcile merge fresh =>
    have htreats : Treats source merge c ((Edit.reconcile merge fresh).apply source c).2.1 :=
      treats_reconcile h hkeeps hpersisted fresh rfl rfl
    rcases htreats ref href object hobject with ⟨-, hdropped⟩ | ⟨hstays, -⟩
    · exact hdropped
    · exact absurd hstays hgone
  | insert given =>
    simp only [Edit.apply, insert] at hgone
    cases hfind : c.snapshot.find? (c.objectKey source given) with
    | none =>
      rw [hfind] at hgone
      exact absurd (List.mem_append_left _ href) hgone
    | some _ =>
      rw [hfind] at hgone
      exact absurd href hgone
  | remove identity =>
    simp only [Edit.apply, remove] at hgone ⊢
    cases hfind : c.cachedObject? identity with
    | none =>
      rw [hfind] at hgone
      exact absurd href hgone
    | some removed =>
      rw [hfind] at hgone
      obtain rfl : ref = removed := by
        by_contra hne
        exact hgone (List.mem_filter.2 ⟨href, by simpa using hne⟩)
      refine (evict_getElem?_of_nodup source (List.nodup_singleton ref)
        (List.mem_singleton_self ref)).trans ?_
      exact congrArg (Option.map source.evicted) hobject
  | sort le => exact absurd ((List.mergeSort_perm _ _).symm.subset href) hgone
  | change => exact absurd href hgone

section Load

variable {κ : Type} {load : Load κ} {stage? : Option Stage}

theorem Load.Ran.indexed (h : Load.Ran source c load c' stage?) (hindexed : c.Indexed source)
    (hmerge : KeepsKeys (c.objectKey source) source.merge) : c'.Indexed source := by
  cases h with
  | once hturn => exact hturn.indexed hindexed hmerge
  | twice hfirst _ hsecond =>
    refine hsecond.indexed (hfirst.indexed hindexed hmerge) ?_
    rwa [objectKey_of_config hfirst.grown.config]

theorem Load.Ran.treats (h : Load.Ran source c load c' stage?) (hindexed : c.Indexed source)
    (hmerge : KeepsKeys (c.objectKey source) source.merge)
    (hpersisted : ∀ object, source.isPersisted object = true) :
    Treats source source.merge c c' := by
  cases h with
  | once hturn => exact hturn.treats hindexed hmerge hpersisted
  | @twice _ _ turn _ _ hfirst hwaits hsecond =>
    obtain ⟨hsnapshot, hobjects, -⟩ := hfirst.same_of_stage? hwaits
    have htreats := hsecond.treats (hfirst.indexed hindexed hmerge)
      (by rwa [objectKey_of_config hfirst.grown.config]) hpersisted
    intro ref href object hobject
    exact htreats ref (hsnapshot ▸ href) object (by rwa [object?, hobjects])

/-- A load keeps the instance of every key that stays. -/
theorem Load.Ran.agrees (h : Load.Ran source c load c' stage?) (hindexed : c.Indexed source)
    (hmerge : KeepsKeys (c.objectKey source) source.merge) :
    c.snapshot.Agrees c'.snapshot := by
  cases h with
  | once hturn => exact hturn.agrees hindexed hmerge
  | @twice _ _ turn _ _ hfirst hwaits hsecond =>
    have hagrees := hsecond.agrees (hfirst.indexed hindexed hmerge)
      (by rwa [objectKey_of_config hfirst.grown.config])
    rwa [(hfirst.same_of_stage? hwaits).1] at hagrees

end Load

end CatalogBrowser.Cache
