import CatalogBrowser.Proofs.Cache.Eviction

/-!
# A cached key keeps its instance

Whoever holds the object of a key can rely on it as long as the key stays cached: listings,
refreshes, reconciliations and lookups that bring a fresh object for the key merge it into the
cached instance, or leave it aside. Only replacing the collection as a whole puts new instances
under the old keys.

## Main definitions

* `Snapshot.Agrees` - two views have the same instance under every key that both have.
* `Machine.Retains` - an action that replaces nothing, and after which a key is still cached.

## Main statements

* `Distinct.free_of_new` - a reconciliation makes new instances for keys that were free.
* `Machine.Orderly.agrees_step` - an action keeps the instance of every key that stays.
* `Machine.run_instances` - a key that stays cached is never given another instance.
-/

namespace CatalogBrowser.Cache

variable {ρ α : Type} {source : Source ρ α}

/-- Two views have the same instance under every key that both have. -/
def Snapshot.Agrees (view later : Snapshot) : Prop :=
  ∀ k ref ref', view.find? k = some ref → later.find? k = some ref' → ref' = ref

section Views

variable {key : α → Key} {merge : α → α → α} {objects others : Array α} {view later : Snapshot}

theorem Snapshot.Agrees.refl (view : Snapshot) : view.Agrees view := fun _ _ _ hview hlater =>
  Option.some.inj (hlater.symm.trans hview)

theorem Snapshot.agrees_of_eq (h : later = view) : view.Agrees later :=
  h ▸ .refl view

/-- Views agree if an entry of the later one has the key that it had before, or one that was
free. -/
theorem Snapshot.Indexed.agrees (h : view.Indexed key objects) (hlater : later.Indexed key others)
    (hentries : ∀ ref ∈ later.entries, ∀ k, keyAt key others ref = some k →
      (ref ∈ view.entries ∧ keyAt key objects ref = some k) ∨ view.find? k = none) :
    view.Agrees later := by
  intro k ref ref' hbefore hafter
  obtain ⟨hentry, hkey⟩ := hlater.find?_eq_some_iff.1 hafter
  rcases hentries ref' hentry k hkey with hold | hfree
  · rw [h.find?_eq_some_iff.2 hold] at hbefore
    exact Option.some.inj hbefore
  · rw [hfree] at hbefore
    cases hbefore

/-- Views of the same instances agree. -/
theorem Snapshot.Indexed.agrees_of_subset (h : view.Indexed key objects)
    (hlater : later.Indexed key objects) (hsub : ∀ ref ∈ later.entries, ref ∈ view.entries) :
    view.Agrees later :=
  h.agrees hlater fun ref href _ hkey => .inl ⟨hsub ref href, hkey⟩

/-- A view with one more instance agrees, if the key of that instance was free. -/
theorem Snapshot.Indexed.agrees_of_append (h : view.Indexed key objects) {object : α}
    (hlater : later.Indexed key (objects.push object))
    (hentries : later.entries = view.entries ++ [objects.size])
    (hfree : view.find? (key object) = none) : view.Agrees later := by
  refine h.agrees hlater fun ref href k hkey => ?_
  rw [hentries] at href
  rcases List.mem_append.1 href with href | href
  · rw [keyAt_push_of_lt (h.distinct.lt_size ref href)] at hkey
    exact .inl ⟨href, hkey⟩
  · rw [List.mem_singleton.1 href, keyAt, Array.getElem?_push_size] at hkey
    obtain rfl : key object = k := Option.some.inj hkey
    exact .inr hfree

/-- A reconciliation makes new instances for keys that were free. -/
theorem Distinct.free_of_new {current : List Ref} {fresh : List α}
    (h : Distinct key objects current) (hmerge : KeepsKeys key merge) (isPersisted : α → Bool)
    {ref : Ref} {k : Key}
    (hmem : ref ∈ (Cache.reconcile key isPersisted merge objects current fresh).entries)
    (hnew : objects.size ≤ ref)
    (hkey : keyAt key (Cache.reconcile key isPersisted merge objects current fresh).objects ref =
      some k) : (keyed key objects current).reverse.lookup k = none := by
  rw [h.reconcile_entries hmerge isPersisted fresh] at hmem
  rcases List.mem_append.1 hmem with hlisted | hdraft
  · obtain ⟨object, -, hstands⟩ :=
      exists_left_of_forall₂ (h.reconcile_stands hmerge isPersisted fresh) hlisted
    obtain rfl : key object = k :=
      Option.some.inj ((hstands.keyAt hmerge h.waits).symm.trans hkey)
    rcases hstands with ⟨hold, -⟩ | ⟨hfree, -, -⟩
    · have hlt := lt_size_of_keyAt (h.waits.keyAt_lookup hold)
      exact absurd hlt (Nat.not_lt.2 hnew)
    · exact hfree
  · have hlt := h.lt_size ref (mem_lacking_iff.1 (List.mem_of_mem_filter hdraft)).1
    exact absurd hlt (Nat.not_lt.2 hnew)

/-- The view of a reconciliation agrees with the one that was reconciled. -/
theorem Snapshot.Indexed.agrees_reconcile (h : view.Indexed key objects)
    (hmerge : KeepsKeys key merge) (isPersisted : α → Bool) (fresh : List α)
    (hlater : later.Indexed key
      (reconcile key isPersisted merge objects view.entries fresh).objects)
    (hentries : later.entries =
      (reconcile key isPersisted merge objects view.entries fresh).entries) :
    view.Agrees later := by
  refine h.agrees hlater fun ref href k hkey => ?_
  rw [hentries] at href
  rcases mem_reconcile_entries href with hold | ⟨hnew, -⟩
  · rw [h.distinct.reconcile_keyAt hmerge isPersisted fresh (h.distinct.lt_size ref hold)] at hkey
    exact .inl ⟨hold, hkey⟩
  · rw [Snapshot.find?, h.index]
    exact .inr (h.distinct.free_of_new hmerge isPersisted href hnew hkey)

end Views

section Turn

variable {c : Cache α}

/-- A turn keeps the instance of every key that stays. -/
theorem Turned.agrees {call : Call} {action : Action ρ α} {turn : Turn α} (h : c.Indexed source)
    (hmerge : KeepsKeys (c.objectKey source) source.merge)
    (hturn : Turned source c call action turn) :
    c.snapshot.Agrees turn.cache.snapshot := by
  cases hturn with
  | @listed lead records =>
    rw [Turn.after]
    by_cases hgeneration : c.generation = lead.generation
    · rw [commitFetch_of_current hgeneration]
      have hview := indexed_snapshotOf c true
        (h.distinct.reconcile hmerge source.isPersisted (records.filterMap source.construct))
      exact Snapshot.Indexed.agrees_reconcile h hmerge source.isPersisted _ hview rfl
    · rw [commitFetch_of_outdated hgeneration]
      exact .refl _
  | keep _ _ hfree =>
    have hview := indexed_snapshotOf c false (h.distinct_append hfree)
    exact Snapshot.Indexed.agrees_of_append h hview rfl hfree
  | _ => exact .refl _

/-- And so does an edit, unless it replaces the collection. -/
theorem agrees_edit {m : Machine α} {edit : Edit α} (h : m.cache.Indexed source)
    (hkeeps : KeepsIdentity source m (.edit edit)) (hset : ∀ fresh, edit ≠ .set fresh) :
    m.cache.snapshot.Agrees (edit.apply source m.cache).2.1.snapshot := by
  cases edit with
  | set fresh => exact absurd rfl (hset fresh)
  | clear =>
    intro k ref ref' _ hafter
    cases hafter
  | reconcile merge fresh =>
    have hview := indexed_snapshotOf m.cache true
      (h.distinct.reconcile hkeeps source.isPersisted fresh)
    exact Snapshot.Indexed.agrees_reconcile h hkeeps source.isPersisted fresh hview rfl
  | insert object =>
    simp only [Edit.apply, insert]
    cases hfind : m.cache.snapshot.find? (m.cache.objectKey source object) with
    | none =>
      have hview := indexed_snapshotOf m.cache m.cache.snapshot.complete (h.distinct_append hfind)
      exact Snapshot.Indexed.agrees_of_append h hview rfl hfind
    | some ref => exact .refl _
  | remove identity =>
    simp only [Edit.apply, remove]
    cases m.cache.cachedObject? identity with
    | none => exact .refl _
    | some ref =>
      have hview := indexed_snapshotOf m.cache m.cache.snapshot.complete
        (h.distinct.sublist (List.filter_sublist (p := (· ≠ ref))))
      exact Snapshot.Indexed.agrees_of_subset h hview fun _ => List.mem_of_mem_filter
  | sort le =>
    have hview : (m.cache.sort source le).Indexed source := indexed_edit h hkeeps
    exact Snapshot.Indexed.agrees_of_subset h hview fun _ => (List.mergeSort_perm _ _).mem_iff.1
  | change ref f => exact .refl _

end Turn

namespace Machine

variable {m : Machine α} {action : Action ρ α}

/-- An action that does not replace the collection, and after which a key is cached. -/
def Retains (source : Source ρ α) (k : Key) (m : Machine α) (action : Action ρ α) : Prop :=
  (∀ fresh, action ≠ .edit (.set fresh)) ∧
    (m.step source action).machine.cache.snapshot.find? k ≠ none

instance (source : Source ρ α) (k : Key) (m : Machine α) (action : Action ρ α) :
    Decidable (m.Retains source k action) :=
  have : Decidable (∀ fresh, action ≠ .edit (.set fresh)) :=
    match action with
    | .edit (.set fresh) => .isFalse fun h => h fresh rfl
    | .edit .clear | .edit (.reconcile ..) | .edit (.insert _) | .edit (.remove _)
    | .edit (.sort _) | .edit (.change ..) => .isTrue nofun
    | .start .. | .poll _ | .listed .. | .found .. | .abort _ | .cancel _ => .isTrue nofun
  inferInstanceAs (Decidable (_ ∧ _))

/-- An action keeps the instance of every key that stays, unless it replaces the collection. -/
theorem Orderly.agrees_step (h : m.Orderly source) (hkeeps : KeepsIdentity source m action)
    (hset : ∀ fresh, action ≠ .edit (.set fresh)) :
    m.cache.snapshot.Agrees (m.step source action).machine.cache.snapshot := by
  cases h.numbered.stepped source action with
  | idle cache => exact Snapshot.agrees_of_eq (by rw [cache])
  | start _ _ cache => exact Snapshot.agrees_of_eq (by rw [cache])
  | turn _ turned _ cache =>
    rw [cache]
    exact turned.agrees h.indexed h.merge
  | edit edit same cache =>
    rw [cache]
    exact agrees_edit h.indexed (same ▸ hkeeps) fun fresh heq => hset fresh (heq ▸ same)

/-- A key that stays cached keeps its instance. -/
theorem Orderly.find?_run (h : m.Orderly source) {actions : List (Action ρ α)} {k : Key} {ref : Ref}
    (hkeeps : m.Admits source (KeepsIdentity source) actions)
    (hretains : m.Admits source (Retains source k) actions)
    (hfind : m.cache.snapshot.find? k = some ref) :
    (m.run source actions).machine.cache.snapshot.find? k = some ref := by
  induction actions generalizing m with
  | nil => exact hfind
  | cons action rest ih =>
    obtain ⟨⟨hset, hstays⟩, hlater⟩ := hretains
    obtain ⟨ref', hnext⟩ := Option.ne_none_iff_exists'.1 hstays
    obtain rfl := h.agrees_step hkeeps.1 hset k ref ref' hfind hnext
    exact ih (h.step hkeeps.1) hkeeps.2 hlater hnext

/-- In every run, as long as objects keep their keys while they are cached, no action other than
replacing the collection gives another instance to a key that is cached before and after it; so a
key that stays cached over any stretch of the run has the same instance at its end. -/
theorem run_instances (source : Source ρ α) (config : Config) (monitors : Monitors)
    (xs : List (Action ρ α)) (hmerge : KeepsKeys (config.objectKey source) source.merge)
    (hkeeps : (new config monitors).Admits source (KeepsIdentity source) xs) :
    let m := ((new config monitors).run source xs).machine
    (∀ action, KeepsIdentity source m action → (∀ fresh, action ≠ .edit (.set fresh)) →
      m.cache.snapshot.Agrees (m.step source action).machine.cache.snapshot) ∧
    ∀ ys k ref, m.Admits source (KeepsIdentity source) ys → m.Admits source (Retains source k) ys →
      m.cache.snapshot.find? k = some ref →
      (m.run source ys).machine.cache.snapshot.find? k = some ref := by
  intro m
  have horderly : m.Orderly source := (orderly_new hmerge).run hkeeps
  exact ⟨fun _ hkeeps hset => horderly.agrees_step hkeeps hset,
    fun _ _ _ hkeeps hretains hfind => horderly.find?_run hkeeps hretains hfind⟩

end Machine

section Items

open Scripted Machine

/-- An item was looked up. -/
def lookedUp : List (Action Item Item) :=
  [.start (.one (.id 1)) ⟨0, [], 0⟩, .poll 0, .found 0 (.ok (some (.withId 1 0)))]

/-- Fresh items with its id arrive by a reconciliation, by a lookup of another id, by a listing that
overlaps with both, and by a refresh. -/
def broughtAgain : List (Action Item Item) :=
  [.start (.one (.id 2)) ⟨0, [], 0⟩, .poll 1, .start .all ⟨0, [], 0⟩, .poll 2,
    .edit (.reconcile Item.merge [.withId 2 1, .withId 1 1]),
    .found 1 (.ok (some (.withId 1 2))), .listed 2 (.ok [.withId 2 3, .withId 1 3, .withId 1 4]),
    .start .refresh ⟨0, [], 0⟩, .poll 3, .listed 3 (.ok [.withId 1 5]),
    .edit (.insert (.withId 1 6))]

theorem run_instances_broughtAgain :
    let m := ((new {} : Machine Item).run (Item.source Item.merge) lookedUp).machine
    m.cache.snapshot.find? (.id 1) = some 0 ∧
      (m.run (Item.source Item.merge) broughtAgain).machine.cache.snapshot.find? (.id 1) =
        some 0 := by
  have hfound : ((new {} : Machine Item).run (Item.source Item.merge)
      lookedUp).machine.cache.snapshot.find? (.id 1) = some 0 := by decide +kernel
  have hkeeps : (new {}).Admits (Item.source Item.merge) (KeepsIdentity (Item.source Item.merge))
      lookedUp := by
    simp [lookedUp, Admits, KeepsIdentity]
  refine ⟨hfound, (run_instances (Item.source Item.merge) {} {} lookedUp
    (Item.keepsKeys_merge {}) hkeeps).2 broughtAgain (.id 1) 0 ?keeps ?retains hfound⟩
  case keeps =>
    simp only [broughtAgain, Admits, KeepsIdentity, true_and, and_true]
    exact Item.keepsKeys_merge {}
  case retains => decide +kernel

end Items

end CatalogBrowser.Cache
