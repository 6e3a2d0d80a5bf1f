import CatalogBrowser.Cache.Edit
import CatalogBrowser.Proofs.Association
import Mathlib.Data.List.Forall2

/-!
# What reconciling does

A listing is merged into entries whose keys are pairwise distinct. The result stands for the first
object of each key in the listing, instance by instance, followed by the drafts that the listing
lacks; keys are kept, and so are the states of all instances that the listing does not name.

## Main definitions

* `firstOfEach` - a listing with later duplicates of a key left out.
* `KeepsKeys` - a merge that never gives an object another key.
* `Distinct` - instances with pairwise distinct keys.
* `Stands` - how an instance stands for an object of the listing.
* `lacking` - the cached instances that a listing lacks.

## Main statements

* `absorb_entries` - the new entries stand for the first object of each key, in order.
* `reconcile_entries`, `reconcile_removed` - what becomes of the cached instances.
* `Distinct.reconcile` - the keys of the result are pairwise distinct again.
-/

namespace CatalogBrowser.Cache

variable {ρ α : Type} {key : α → Key} {merge : α → α → α}

/-- The objects of a listing whose keys were not seen before, each key once. -/
def unseen (key : α → Key) (seen : List Key) : List α → List α
  | [] => []
  | object :: rest =>
    if key object ∈ seen then unseen key seen rest
    else object :: unseen key (key object :: seen) rest

/-- A listing with later duplicates of a key left out. -/
def firstOfEach (key : α → Key) (fresh : List α) : List α :=
  unseen key [] fresh

/-- A merge that keeps the key of the object that it changes: cached objects have a stable identity
key. Only objects with one key are merged. -/
def KeepsKeys (key : α → Key) (merge : α → α → α) : Prop :=
  ∀ existing fresh, key existing = key fresh → key (merge existing fresh) = key existing

/-- The key of an instance. -/
def keyAt (key : α → Key) (objects : Array α) (ref : Ref) : Option Key :=
  objects[ref]?.map key

/-- Existing instances with pairwise distinct keys. -/
structure Distinct (key : α → Key) (objects : Array α) (refs : List Ref) : Prop where
  lt_size : ∀ ref ∈ refs, ref < objects.size
  nodup : (refs.map (keyAt key objects)).Nodup

/-- The cached objects that are still to be met, each under the key that it has. -/
structure Waits (key : α → Key) (objects : Array α) (unmet : List (Key × Ref)) : Prop where
  nodup : (unmet.map Prod.fst).Nodup
  keyAt : ∀ entry ∈ unmet, keyAt key objects entry.2 = some entry.1

/-- How an instance stands for an object of the listing: as the cached one with its key, with the
object merged into it, or else as a new one. -/
def Stands (key : α → Key) (merge : α → α → α) (unmet : List (Key × Ref))
    (before after : Array α) (object : α) (ref : Ref) : Prop :=
  (unmet.lookup (key object) = some ref ∧ after[ref]? = before[ref]?.map (merge · object)) ∨
    (unmet.lookup (key object) = none ∧ before.size ≤ ref ∧ after[ref]? = some object)

section Unseen

theorem unseen_sublist (seen : List Key) (fresh : List α) :
    (unseen key seen fresh).Sublist fresh := by
  induction fresh generalizing seen with
  | nil => exact List.Sublist.slnil
  | cons object rest ih =>
    rw [unseen]
    split
    · exact (ih seen).cons object
    · exact (ih _).cons_cons object

/-- The keys that are left are those of the listing that were not seen before. -/
theorem key_mem_unseen_iff {seen : List Key} {fresh : List α} {k : Key} :
    k ∈ (unseen key seen fresh).map key ↔ k ∈ fresh.map key ∧ k ∉ seen := by
  induction fresh generalizing seen with
  | nil => simp [unseen]
  | cons object rest ih =>
    rw [unseen]
    split
    next hseen =>
      rw [ih, List.map_cons, List.mem_cons]
      constructor
      · exact fun h => ⟨.inr h.1, h.2⟩
      · rintro ⟨rfl | h, hk⟩
        · exact absurd hseen hk
        · exact ⟨h, hk⟩
    next hseen =>
      rw [List.map_cons, List.mem_cons, ih, List.map_cons, List.mem_cons, List.mem_cons]
      constructor
      · rintro (rfl | ⟨h, hk⟩)
        · exact ⟨.inl rfl, hseen⟩
        · exact ⟨.inr h, fun hmem => hk (.inr hmem)⟩
      · rintro ⟨h, hk⟩
        by_cases heq : k = key object
        · exact .inl heq
        · exact .inr ⟨h.resolve_left heq, fun hmem => hmem.elim heq hk⟩

theorem nodup_unseen (seen : List Key) (fresh : List α) :
    ((unseen key seen fresh).map key).Nodup := by
  induction fresh generalizing seen with
  | nil => exact List.nodup_nil
  | cons object rest ih =>
    rw [unseen]
    split
    · exact ih seen
    · rw [List.map_cons, List.nodup_cons]
      refine ⟨fun hmem => ?_, ih _⟩
      exact (key_mem_unseen_iff.1 hmem).2 List.mem_cons_self

theorem key_mem_firstOfEach_iff {fresh : List α} {k : Key} :
    k ∈ (firstOfEach key fresh).map key ↔ k ∈ fresh.map key := by
  simp [firstOfEach, key_mem_unseen_iff]

theorem nodup_firstOfEach (fresh : List α) : ((firstOfEach key fresh).map key).Nodup :=
  nodup_unseen [] fresh

/-- Looking for a key finds the same object in a listing and among its first objects. -/
theorem find?_unseen {seen : List Key} {k : Key} (h : k ∉ seen) (fresh : List α) :
    (unseen key seen fresh).find? (key · = k) = fresh.find? (key · = k) := by
  induction fresh generalizing seen with
  | nil => rfl
  | cons object rest ih =>
    rw [unseen]
    by_cases hk : key object = k
    · have hfirst : key object ∉ seen := hk ▸ h
      rw [if_neg hfirst, List.find?_cons_of_pos (by simpa using hk),
        List.find?_cons_of_pos (by simpa using hk)]
    · rw [List.find?_cons_of_neg (l := rest) (by simpa using hk)]
      split
      · exact ih h
      · rw [List.find?_cons_of_neg (by simpa using hk)]
        exact ih (by simpa [Ne.symm hk] using h)

theorem find?_firstOfEach (fresh : List α) (k : Key) :
    (firstOfEach key fresh).find? (key · = k) = fresh.find? (key · = k) :=
  find?_unseen List.not_mem_nil fresh

end Unseen

section Absorb

variable {objects : Array α} {unmet : List (Key × Ref)} {seen : List Key} {fresh : List α}

theorem keyAt_eq_some_iff {ref : Ref} {k : Key} :
    keyAt key objects ref = some k ↔ ∃ object, objects[ref]? = some object ∧ key object = k := by
  simp [keyAt]

theorem lt_size_of_keyAt {ref : Ref} {k : Key} (h : keyAt key objects ref = some k) :
    ref < objects.size := by
  obtain ⟨object, hobject, -⟩ := keyAt_eq_some_iff.1 h
  exact (Array.getElem?_eq_some_iff.1 hobject).1

theorem getElem?_push_of_lt {ref : Ref} (h : ref < objects.size) (object : α) :
    (objects.push object)[ref]? = objects[ref]? := by
  rw [Array.getElem?_push, if_neg (Nat.ne_of_lt h)]

theorem keyAt_push_of_lt {ref : Ref} (h : ref < objects.size) (object : α) :
    keyAt key (objects.push object) ref = keyAt key objects ref := by
  rw [keyAt, keyAt, getElem?_push_of_lt h]

/-- Merging an object of the same key into an instance keeps all keys. -/
theorem keyAt_modify (hmerge : KeepsKeys key merge) {ref : Ref} {object : α}
    (h : keyAt key objects ref = some (key object)) (other : Ref) :
    keyAt key (objects.modify ref (merge · object)) other = keyAt key objects other := by
  obtain ⟨existing, hexisting, hkey⟩ := keyAt_eq_some_iff.1 h
  by_cases heq : ref = other
  · subst heq
    simp [keyAt, Array.getElem?_modify, hexisting, hmerge existing object hkey]
  · simp [keyAt, Array.getElem?_modify, heq]

theorem Waits.keyAt_lookup (h : Waits key objects unmet) {k : Key} {ref : Ref}
    (hlookup : unmet.lookup k = some ref) : Cache.keyAt key objects ref = some k :=
  h.keyAt _ ((Association.lookup_eq_some_iff_mem h.nodup).1 hlookup)

theorem Waits.lookup_inj (h : Waits key objects unmet) {k l : Key} {ref : Ref}
    (hk : unmet.lookup k = some ref) (hl : unmet.lookup l = some ref) : k = l := by
  have := (h.keyAt_lookup hk).symm.trans (h.keyAt_lookup hl)
  exact Option.some.inj this

theorem Waits.meet (hmerge : KeepsKeys key merge) (h : Waits key objects unmet) {object : α}
    {ref : Ref} (hlookup : unmet.lookup (key object) = some ref) :
    Waits key (objects.modify ref (merge · object)) (unmet.filter (·.1 ≠ key object)) where
  nodup := h.nodup.sublist (List.filter_sublist.map Prod.fst)
  keyAt entry hentry := by
    rw [keyAt_modify hmerge (h.keyAt_lookup hlookup)]
    exact h.keyAt entry (List.mem_of_mem_filter hentry)

theorem Waits.push (h : Waits key objects unmet) (object : α) :
    Waits key (objects.push object) unmet where
  nodup := h.nodup
  keyAt entry hentry := by
    have := h.keyAt entry hentry
    rwa [keyAt_push_of_lt (lt_size_of_keyAt this)]

theorem absorb_size (key : α → Key) (merge : α → α → α) (objects : Array α)
    (unmet : List (Key × Ref)) (seen : List Key) (fresh : List α) :
    objects.size ≤ (absorb key merge objects unmet seen fresh).objects.size := by
  fun_induction absorb key merge objects unmet seen fresh with
  | case1 => exact Nat.le_refl _
  | case2 objects unmet seen object rest k hseen out ih => exact ih
  | case3 objects unmet seen object rest k hseen ref hlookup out events ih =>
    rw [Array.size_modify] at ih
    exact ih
  | case4 objects unmet seen object rest k hseen hlookup ref out ih =>
    rw [Array.size_push] at ih
    exact Nat.le_of_succ_le ih

/-- What was not met is what has no key of the listing. -/
theorem absorb_unmet (hseen : ∀ k ∈ seen, unmet.lookup k = none) :
    (absorb key merge objects unmet seen fresh).unmet =
      unmet.filter (·.1 ∉ fresh.map key) := by
  fun_induction absorb key merge objects unmet seen fresh with
  | case1 => simp
  | case2 objects unmet seen object rest k hmem out ih =>
    exact (ih hseen).trans (Association.filter_not_mem_cons (hseen k hmem)).symm
  | case3 objects unmet seen object rest k hmem ref hlookup out events ih =>
    -- the key that was met has been seen from now on, and waits no longer
    have hrest : ∀ l ∈ k :: seen, (unmet.filter (·.1 ≠ k)).lookup l = none := by
      intro l hl
      rw [Association.lookup_eq_none_iff_not_mem]
      intro hin
      obtain ⟨entry, hentry, rfl⟩ := List.mem_map.1 hin
      obtain ⟨hentry, hne⟩ := List.mem_filter.1 hentry
      rcases List.mem_cons.1 hl with heq | hl
      · simp [heq] at hne
      · exact Association.lookup_eq_none_iff_not_mem.1 (hseen _ hl) (List.mem_map_of_mem hentry)
    have ih := ih hrest
    rw [List.filter_filter] at ih
    refine ih.trans (List.filter_congr fun entry _ => ?_)
    simp only [List.map_cons, List.mem_cons, not_or, k]
    rw [← Bool.decide_and, decide_eq_decide, and_comm]
  | case4 objects unmet seen object rest k hmem hlookup ref out ih =>
    have hrest : ∀ l ∈ k :: seen, unmet.lookup l = none := by
      intro l hl
      rcases List.mem_cons.1 hl with rfl | hl
      · exact hlookup
      · exact hseen l hl
    exact (ih hrest).trans (Association.filter_not_mem_cons hlookup).symm

/-- The states of instances that the listing does not name are kept. -/
theorem absorb_getElem? {ref : Ref} (hlt : ref < objects.size)
    (hwait : ∀ k, (k, ref) ∈ unmet → k ∉ fresh.map key) :
    (absorb key merge objects unmet seen fresh).objects[ref]? = objects[ref]? := by
  fun_induction absorb key merge objects unmet seen fresh with
  | case1 => rfl
  | case2 objects unmet seen object rest k hseen out ih =>
    exact ih hlt fun l hmem hrest => hwait l hmem (List.mem_cons_of_mem _ hrest)
  | case3 objects unmet seen object rest k hseen old hlookup out events ih =>
    -- the instance that is met has a key of the listing, so it is another one
    have hne : old ≠ ref := by
      rintro rfl
      exact hwait k (Association.mem_of_lookup hlookup) List.mem_cons_self
    refine (ih (by simpa using hlt) fun l hmem hrest => ?_).trans ?_
    · exact hwait l (List.mem_of_mem_filter hmem) (List.mem_cons_of_mem _ hrest)
    · simp [Array.getElem?_modify, hne]
  | case4 objects unmet seen object rest k hseen hlookup old out ih =>
    refine (ih ?_ fun l hmem hrest => ?_).trans (getElem?_push_of_lt hlt object)
    · rw [Array.size_push]
      exact Nat.lt_succ_of_lt hlt
    · exact hwait l hmem (List.mem_cons_of_mem _ hrest)

theorem absorb_keyAt (hmerge : KeepsKeys key merge) (hwaits : Waits key objects unmet) {ref : Ref}
    (hlt : ref < objects.size) :
    keyAt key (absorb key merge objects unmet seen fresh).objects ref = keyAt key objects ref := by
  fun_induction absorb key merge objects unmet seen fresh with
  | case1 => rfl
  | case2 objects unmet seen object rest k hseen out ih => exact ih hwaits hlt
  | case3 objects unmet seen object rest k hseen old hlookup out events ih =>
    refine (ih (hwaits.meet hmerge hlookup) (by simpa using hlt)).trans ?_
    exact keyAt_modify hmerge (hwaits.keyAt_lookup hlookup) ref
  | case4 objects unmet seen object rest k hseen hlookup old out ih =>
    refine (ih (hwaits.push object) ?_).trans (keyAt_push_of_lt hlt object)
    rw [Array.size_push]
    exact Nat.lt_succ_of_lt hlt

theorem lookup_filter_of_ne {k l : Key} (hne : l ≠ k) :
    (unmet.filter (·.1 ≠ k)).lookup l = unmet.lookup l :=
  Association.lookup_filter fun _ _ heq => decide_eq_true (heq ▸ hne)

/-- What waits under another key is another instance. -/
theorem Waits.getElem?_modify (h : Waits key objects unmet) {k l : Key} {ref old : Ref}
    (href : unmet.lookup k = some ref) (hold : unmet.lookup l = some old) (hne : l ≠ k)
    (f : α → α) : (objects.modify ref f)[old]? = objects[old]? := by
  have hdiff : ref ≠ old := by
    rintro rfl
    exact hne (h.lookup_inj hold href)
  rw [Array.getElem?_modify, if_neg hdiff]

/-- Meeting one object does not change how the others are stood for. -/
theorem Stands.of_meet (hwaits : Waits key objects unmet) {object other : α} {ref old : Ref}
    {after : Array α} (hlookup : unmet.lookup (key object) = some ref)
    (hne : key other ≠ key object)
    (h : Stands key merge (unmet.filter (·.1 ≠ key object)) (objects.modify ref (merge · object))
      after other old) :
    Stands key merge unmet objects after other old := by
  rw [Stands, lookup_filter_of_ne hne, Array.size_modify] at h
  refine h.imp (fun ⟨hold, hstate⟩ => ⟨hold, ?_⟩) id
  rw [hstate, hwaits.getElem?_modify hlookup hold hne]

theorem Stands.of_push (hwaits : Waits key objects unmet) {object other : α} {old : Ref}
    {after : Array α} (h : Stands key merge unmet (objects.push object) after other old) :
    Stands key merge unmet objects after other old := by
  refine h.imp (fun ⟨hold, hstate⟩ => ⟨hold, ?_⟩)
    (fun ⟨hnone, hsize, hstate⟩ => ⟨hnone, ?_, hstate⟩)
  · rw [hstate, getElem?_push_of_lt (lt_size_of_keyAt (hwaits.keyAt_lookup hold))]
  · rw [Array.size_push] at hsize
    exact Nat.le_of_succ_le hsize

theorem forall₂_imp_of_mem {β γ : Type} {R S : β → γ → Prop} {xs : List β} {ys : List γ}
    (h : List.Forall₂ R xs ys) (himp : ∀ x ∈ xs, ∀ y, R x y → S x y) : List.Forall₂ S xs ys :=
  ((List.forall₂_and_left xs ys).2 ⟨fun _ hx => hx, h⟩).imp fun x y hxy => himp x hxy.1 y hxy.2

theorem exists_right_of_forall₂ {β γ : Type} {R : β → γ → Prop} {xs : List β} {ys : List γ}
    (h : List.Forall₂ R xs ys) {x : β} (hx : x ∈ xs) : ∃ y ∈ ys, R x y := by
  induction h with
  | nil => cases hx
  | cons hfirst _ ih =>
    rcases List.mem_cons.1 hx with rfl | hx
    · exact ⟨_, List.mem_cons_self, hfirst⟩
    · obtain ⟨y, hy, hxy⟩ := ih hx
      exact ⟨y, List.mem_cons_of_mem _ hy, hxy⟩

theorem exists_left_of_forall₂ {β γ : Type} {R : β → γ → Prop} {xs : List β} {ys : List γ}
    (h : List.Forall₂ R xs ys) {y : γ} (hy : y ∈ ys) : ∃ x ∈ xs, R x y :=
  exists_right_of_forall₂ h.flip hy

/-- The entries stand for the first object of each key, in the order of the listing. -/
theorem absorb_entries (hmerge : KeepsKeys key merge) (hwaits : Waits key objects unmet) :
    List.Forall₂
      (Stands key merge unmet objects (absorb key merge objects unmet seen fresh).objects)
      (unseen key seen fresh) (absorb key merge objects unmet seen fresh).entries := by
  fun_induction absorb key merge objects unmet seen fresh with
  | case1 => exact .nil
  | case2 objects unmet seen object rest k hseen out ih =>
    rw [unseen, if_pos hseen]
    exact ih hwaits
  | case3 objects unmet seen object rest k hseen ref hlookup out events ih =>
    rw [unseen, if_neg hseen]
    have hkey := hwaits.keyAt_lookup hlookup
    refine .cons (.inl ⟨hlookup, ?_⟩) ?_
    · -- the instance was met, so the rest of the listing leaves it alone
      have hgone : ∀ l, (l, ref) ∈ unmet.filter (·.1 ≠ k) → l ∉ rest.map key := by
        intro l hmem
        obtain ⟨hmem, hne⟩ := List.mem_filter.1 hmem
        have hsame := (hwaits.keyAt _ hmem).symm.trans hkey
        exact absurd (Option.some.inj hsame) (of_decide_eq_true hne)
      refine (absorb_getElem? (by simpa using lt_size_of_keyAt hkey) hgone).trans ?_
      simp [Array.getElem?_modify]
    · refine forall₂_imp_of_mem (ih (hwaits.meet hmerge hlookup)) fun other hother old hstands => ?_
      have hunseen := (key_mem_unseen_iff.1 (List.mem_map_of_mem hother)).2
      exact hstands.of_meet hwaits hlookup fun heq => hunseen (heq ▸ List.mem_cons_self)
  | case4 objects unmet seen object rest k hseen hlookup ref out ih =>
    rw [unseen, if_neg hseen]
    refine .cons (.inr ⟨hlookup, Nat.le_refl _, ?_⟩) ?_
    · have hfresh : ∀ l, (l, ref) ∈ unmet → l ∉ rest.map key := fun l hmem =>
        absurd (lt_size_of_keyAt (hwaits.keyAt _ hmem)) (Nat.lt_irrefl _)
      refine (absorb_getElem? ?_ hfresh).trans ?_
      · rw [Array.size_push]
        exact Nat.lt_succ_self _
      · exact Array.getElem?_push_size
    · exact (ih (hwaits.push object)).imp fun _ _ hstands => hstands.of_push hwaits

/-- An entry was waiting before, or is new. -/
theorem mem_absorb_entries {ref : Ref}
    (h : ref ∈ (absorb key merge objects unmet seen fresh).entries) :
    ref ∈ unmet.map Prod.snd ∨ objects.size ≤ ref := by
  fun_induction absorb key merge objects unmet seen fresh with
  | case1 => simp at h
  | case2 objects unmet seen object rest k hseen out ih => exact ih h
  | case3 objects unmet seen object rest k hseen old hlookup out events ih =>
    rcases List.mem_cons.1 h with rfl | h
    · exact .inl (List.mem_map_of_mem (f := Prod.snd) (Association.mem_of_lookup hlookup))
    · rw [Array.size_modify] at ih
      exact (ih h).imp_left fun hmem => (List.filter_sublist.map Prod.snd).subset hmem
  | case4 objects unmet seen object rest k hseen hlookup old out ih =>
    rcases List.mem_cons.1 h with rfl | h
    · exact .inr (Nat.le_refl _)
    · rw [Array.size_push] at ih
      exact (ih h).imp_right Nat.le_of_succ_le

theorem lt_size_of_mem_absorb_entries (hwaits : ∀ ref ∈ unmet.map Prod.snd, ref < objects.size)
    {ref : Ref} (h : ref ∈ (absorb key merge objects unmet seen fresh).entries) :
    ref < (absorb key merge objects unmet seen fresh).objects.size := by
  fun_induction absorb key merge objects unmet seen fresh with
  | case1 => simp at h
  | case2 objects unmet seen object rest k hseen out ih => exact ih hwaits h
  | case3 objects unmet seen object rest k hseen old hlookup out events ih =>
    have hgrown : objects.size ≤ out.objects.size := by
      have hsize := absorb_size key merge (objects.modify old (merge · object))
        (unmet.filter (·.1 ≠ k)) (k :: seen) rest
      rwa [Array.size_modify] at hsize
    rcases List.mem_cons.1 h with rfl | h
    · have hmem := List.mem_map_of_mem (f := Prod.snd) (Association.mem_of_lookup hlookup)
      exact Nat.lt_of_lt_of_le (hwaits ref hmem) hgrown
    · refine ih (fun other hother => ?_) h
      rw [Array.size_modify]
      exact hwaits other ((List.filter_sublist.map Prod.snd).subset hother)
  | case4 objects unmet seen object rest k hseen hlookup old out ih =>
    have hgrown : objects.size < out.objects.size := by
      have hsize := absorb_size key merge (objects.push object) unmet (k :: seen) rest
      rwa [Array.size_push] at hsize
    rcases List.mem_cons.1 h with rfl | h
    · exact hgrown
    · refine ih (fun other hother => ?_) h
      rw [Array.size_push]
      exact Nat.lt_succ_of_lt (hwaits other hother)

theorem mem_absorb_entries_of_new {ref : Ref} (hnew : objects.size ≤ ref)
    (hlt : ref < (absorb key merge objects unmet seen fresh).objects.size) :
    ref ∈ (absorb key merge objects unmet seen fresh).entries := by
  fun_induction absorb key merge objects unmet seen fresh with
  | case1 => exact absurd hlt (Nat.not_lt.2 hnew)
  | case2 objects unmet seen object rest k hseen out ih => exact ih hnew hlt
  | case3 objects unmet seen object rest k hseen old hlookup out events ih =>
    rw [Array.size_modify] at ih
    exact List.mem_cons_of_mem _ (ih hnew hlt)
  | case4 objects unmet seen object rest k hseen hlookup old out ih =>
    rw [Array.size_push] at ih
    rcases Nat.eq_or_lt_of_le hnew with rfl | hnew
    · exact List.mem_cons_self
    · exact List.mem_cons_of_mem _ (ih hnew hlt)

theorem lt_succ_iff_of_gap {a n : Nat} (h : a < n ∨ n + 1 ≤ a) : a < n + 1 ↔ a < n := by
  omega

theorem succ_le_iff_of_gap {a n : Nat} (h : a < n ∨ n + 1 ≤ a) : n + 1 ≤ a ↔ n ≤ a := by
  omega

/-- The entries that were cached are the updated ones, the others were added. -/
theorem absorb_changes (hwaits : ∀ ref ∈ unmet.map Prod.snd, ref < objects.size) :
    (absorb key merge objects unmet seen fresh).updated =
        (absorb key merge objects unmet seen fresh).entries.filter (· < objects.size) ∧
      (absorb key merge objects unmet seen fresh).added =
        (absorb key merge objects unmet seen fresh).entries.filter (objects.size ≤ ·) := by
  fun_induction absorb key merge objects unmet seen fresh with
  | case1 => exact ⟨rfl, rfl⟩
  | case2 objects unmet seen object rest k hseen out ih => exact ih hwaits
  | case3 objects unmet seen object rest k hseen ref hlookup out events ih =>
    have hlt : ref < objects.size :=
      hwaits ref (List.mem_map_of_mem (f := Prod.snd) (Association.mem_of_lookup hlookup))
    have ih := ih fun old hold => by
      rw [Array.size_modify]
      exact hwaits old ((List.filter_sublist.map Prod.snd).subset hold)
    rw [Array.size_modify] at ih
    constructor
    · rw [List.filter_cons_of_pos (p := fun old => decide (old < objects.size))
        (decide_eq_true hlt)]
      exact congrArg (ref :: ·) ih.1
    · rw [List.filter_cons_of_neg (p := fun old => decide (objects.size ≤ old))
        (by simpa using hlt)]
      exact ih.2
  | case4 objects unmet seen object rest k hseen hlookup ref out ih =>
    have ih := ih fun old hold => by
      rw [Array.size_push]
      exact Nat.lt_succ_of_lt (hwaits old hold)
    rw [Array.size_push] at ih
    -- the new instance does not occur again
    have hother : ∀ old ∈ out.entries, old < objects.size ∨ objects.size + 1 ≤ old := by
      intro old hold
      have h := mem_absorb_entries hold
      rw [Array.size_push] at h
      exact h.imp_left (hwaits old)
    constructor
    · rw [List.filter_cons_of_neg (p := fun old => decide (old < objects.size)) (by simp [ref])]
      exact ih.1.trans (List.filter_congr fun old hold =>
        decide_eq_decide.2 (lt_succ_iff_of_gap (hother old hold)))
    · rw [List.filter_cons_of_pos (p := fun old => decide (objects.size ≤ old)) (by simp [ref])]
      exact congrArg (ref :: ·) (ih.2.trans (List.filter_congr fun old hold =>
        decide_eq_decide.2 (succ_le_iff_of_gap (hother old hold))))

end Absorb

section Reconcile

variable {isPersisted : α → Bool} {objects : Array α} {current : List Ref} {fresh : List α}

/-- The cached instances that a listing lacks, in their old order. -/
def lacking (key : α → Key) (objects : Array α) (current : List Ref) (fresh : List α) : List Ref :=
  current.filter fun ref => keyAt key objects ref ∉ fresh.map (some ∘ key)

theorem mem_keyed_iff {refs : List Ref} {k : Key} {ref : Ref} :
    (k, ref) ∈ keyed key objects refs ↔ ref ∈ refs ∧ keyAt key objects ref = some k := by
  simp only [keyed, List.mem_filterMap, Option.map_eq_some_iff, keyAt_eq_some_iff, Prod.mk.injEq]
  constructor
  · rintro ⟨other, hother, object, hobject, hkey, rfl⟩
    exact ⟨hother, object, hobject, hkey⟩
  · rintro ⟨href, object, hobject, hkey⟩
    exact ⟨ref, href, object, hobject, hkey, rfl⟩

theorem keyed_congr {others : Array α} {refs : List Ref}
    (h : ∀ ref ∈ refs, keyAt key others ref = keyAt key objects ref) :
    keyed key others refs = keyed key objects refs := by
  refine List.filterMap_congr fun ref href => ?_
  have := congrArg (Option.map fun k => (k, ref)) (h ref href)
  simpa [keyAt, Option.map_map, Function.comp_def] using this

theorem Distinct.map_snd_keyed {refs : List Ref} (h : Distinct key objects refs) :
    (keyed key objects refs).map Prod.snd = refs := by
  rw [keyed, List.map_filterMap]
  refine (List.filterMap_congr fun ref href => ?_).trans List.filterMap_some
  simp [Array.getElem?_eq_getElem (h.lt_size ref href)]

theorem Distinct.nodup_keyed {refs : List Ref} (h : Distinct key objects refs) :
    ((keyed key objects refs).map Prod.fst).Nodup := by
  have hkeys : ((keyed key objects refs).map Prod.fst).map some =
      refs.map (keyAt key objects) := by
    conv_rhs => rw [← h.map_snd_keyed]
    rw [List.map_map, List.map_map]
    exact List.map_congr_left fun entry hentry => (mem_keyed_iff.1 hentry).2.symm
  exact List.Nodup.of_map some (hkeys ▸ h.nodup)

theorem Distinct.waits (h : Distinct key objects current) :
    Waits key objects (keyed key objects current).reverse where
  nodup := by
    rw [List.map_reverse, List.nodup_reverse]
    exact h.nodup_keyed
  keyAt entry hentry := (mem_keyed_iff.1 (List.mem_reverse.1 hentry)).2

/-- A listing merged into instances whose keys are pairwise distinct. -/
theorem Distinct.unlisted_eq (h : Distinct key objects current) (hmerge : KeepsKeys key merge) :
    let out := absorb key merge objects (keyed key objects current).reverse [] fresh
    ((keyed key out.objects current).filter fun entry =>
      (out.unmet.lookup entry.1).isSome).map Prod.snd = lacking key objects current fresh := by
  intro out
  have hkeys : keyed key out.objects current = keyed key objects current :=
    keyed_congr fun ref href => absorb_keyAt hmerge h.waits (h.lt_size ref href)
  have hunmet : out.unmet = _ := absorb_unmet (by simp)
  -- the listing never met the keys that it lacks, so they wait still
  have hpick : ∀ entry ∈ keyed key objects current,
      (out.unmet.lookup entry.1).isSome = decide (keyAt key objects entry.2 ∉
        fresh.map (some ∘ key)) := by
    rintro ⟨k, ref⟩ hentry
    have hin : some k ∈ fresh.map (some ∘ key) ↔ k ∈ fresh.map key := by simp
    rw [(mem_keyed_iff.1 hentry).2, hunmet, Bool.eq_iff_iff, decide_eq_true_iff, hin,
      ← Option.ne_none_iff_isSome, ne_eq, Association.lookup_eq_none_iff_not_mem, not_not]
    constructor
    · intro hmem
      obtain ⟨other, hother, rfl⟩ := List.mem_map.1 hmem
      exact of_decide_eq_true (List.mem_filter.1 hother).2
    · intro hmiss
      refine List.mem_map_of_mem (f := Prod.fst) (a := (k, ref)) (List.mem_filter.2 ⟨?_, ?_⟩)
      · exact List.mem_reverse.2 hentry
      · exact decide_eq_true hmiss
  rw [hkeys, List.filter_congr hpick, lacking]
  conv_rhs => rw [← h.map_snd_keyed]
  rw [List.filter_map]
  rfl

/-- The instances that the listing stands for once it is merged. -/
def listedEntries (key : α → Key) (merge : α → α → α) (objects : Array α) (current : List Ref)
    (fresh : List α) : List Ref :=
  (absorb key merge objects (keyed key objects current).reverse [] fresh).entries

theorem reconcile_size (key : α → Key) (isPersisted : α → Bool) (merge : α → α → α)
    (objects : Array α) (current : List Ref) (fresh : List α) :
    objects.size ≤ (reconcile key isPersisted merge objects current fresh).objects.size :=
  absorb_size _ _ _ _ _ _

theorem lt_size_of_mem_keyed {ref : Ref}
    (h : ref ∈ (keyed key objects current).reverse.map Prod.snd) : ref < objects.size := by
  obtain ⟨entry, hentry, rfl⟩ := List.mem_map.1 h
  exact lt_size_of_keyAt (mem_keyed_iff.1 (List.mem_reverse.1 hentry)).2

theorem mem_listedEntries (isPersisted : α → Bool) {ref : Ref}
    (h : ref ∈ listedEntries key merge objects current fresh) :
    ref ∈ current ∨ objects.size ≤ ref ∧
      ref < (reconcile key isPersisted merge objects current fresh).objects.size := by
  rcases mem_absorb_entries h with hold | hnew
  · obtain ⟨entry, hentry, rfl⟩ := List.mem_map.1 hold
    exact .inl (mem_keyed_iff.1 (List.mem_reverse.1 hentry)).1
  · exact .inr ⟨hnew, lt_size_of_mem_absorb_entries (fun _ => lt_size_of_mem_keyed) h⟩

theorem mem_current_of_unlisted {after : Array α} {keep : Key × Ref → Bool} {ref : Ref}
    (h : ref ∈ ((keyed key after current).filter keep).map Prod.snd) : ref ∈ current := by
  obtain ⟨entry, hentry, rfl⟩ := List.mem_map.1 h
  exact (mem_keyed_iff.1 (List.mem_of_mem_filter hentry)).1

theorem mem_reconcile_entries {isPersisted : α → Bool} {ref : Ref}
    (h : ref ∈ (reconcile key isPersisted merge objects current fresh).entries) :
    ref ∈ current ∨ objects.size ≤ ref ∧
      ref < (reconcile key isPersisted merge objects current fresh).objects.size := by
  rcases List.mem_append.1 h with hlisted | hunlisted
  · exact mem_listedEntries isPersisted hlisted
  · exact .inl (mem_current_of_unlisted (List.mem_of_mem_filter hunlisted))

theorem Distinct.reconcile_keyAt (h : Distinct key objects current) (hmerge : KeepsKeys key merge)
    (isPersisted : α → Bool) (fresh : List α) {ref : Ref} (hlt : ref < objects.size) :
    keyAt key (reconcile key isPersisted merge objects current fresh).objects ref =
      keyAt key objects ref :=
  absorb_keyAt hmerge h.waits hlt

theorem Distinct.reconcile_stands (h : Distinct key objects current)
    (hmerge : KeepsKeys key merge) (isPersisted : α → Bool) (fresh : List α) :
    List.Forall₂ (Stands key merge (keyed key objects current).reverse objects
        (reconcile key isPersisted merge objects current fresh).objects)
      (firstOfEach key fresh) (listedEntries key merge objects current fresh) :=
  absorb_entries hmerge h.waits

/-- Drafts that the listing lacks stay behind the listed instances. -/
theorem Distinct.reconcile_entries (h : Distinct key objects current)
    (hmerge : KeepsKeys key merge) (isPersisted : α → Bool) (fresh : List α) :
    let out := reconcile key isPersisted merge objects current fresh
    out.entries = listedEntries key merge objects current fresh ++
      (lacking key objects current fresh).filter fun ref =>
        !(out.objects[ref]?.any isPersisted) := by
  intro out
  rw [← h.unlisted_eq hmerge]
  rfl

/-- What the listing lacks and was persisted is removed. -/
theorem Distinct.reconcile_removed (h : Distinct key objects current)
    (hmerge : KeepsKeys key merge) (isPersisted : α → Bool) (fresh : List α) :
    let out := reconcile key isPersisted merge objects current fresh
    out.changes.removed = (lacking key objects current fresh).filter fun ref =>
      out.objects[ref]?.any isPersisted := by
  intro out
  rw [← h.unlisted_eq hmerge]
  rfl

theorem reconcile_changes (key : α → Key) (isPersisted : α → Bool) (merge : α → α → α)
    (objects : Array α) (current : List Ref) (fresh : List α) :
    let out := reconcile key isPersisted merge objects current fresh
    let entries := listedEntries key merge objects current fresh
    out.changes.updated = entries.filter (· < objects.size) ∧
      out.changes.added = entries.filter (objects.size ≤ ·) := by
  exact absorb_changes fun _ => lt_size_of_mem_keyed

theorem mem_reconcile_changes {isPersisted : α → Bool} {ref : Ref}
    (h : ref ∈ (reconcile key isPersisted merge objects current fresh).changes.added ∨
      ref ∈ (reconcile key isPersisted merge objects current fresh).changes.removed ∨
      ref ∈ (reconcile key isPersisted merge objects current fresh).changes.updated) :
    ref ∈ current ∨ objects.size ≤ ref ∧
      ref < (reconcile key isPersisted merge objects current fresh).objects.size := by
  obtain ⟨hupdated, hadded⟩ := reconcile_changes key isPersisted merge objects current fresh
  rw [hupdated, hadded] at h
  rcases h with h | h | h
  · exact mem_listedEntries isPersisted (List.mem_of_mem_filter h)
  · exact .inl (mem_current_of_unlisted (List.mem_of_mem_filter h))
  · exact mem_listedEntries isPersisted (List.mem_of_mem_filter h)

theorem Stands.keyAt (hmerge : KeepsKeys key merge) {unmet : List (Key × Ref)} {after : Array α}
    {object : α} {ref : Ref} (hwaits : Waits key objects unmet)
    (h : Stands key merge unmet objects after object ref) :
    Cache.keyAt key after ref = some (key object) := by
  rcases h with ⟨hlookup, hstate⟩ | ⟨-, -, hstate⟩
  · obtain ⟨existing, hexisting, hkey⟩ := keyAt_eq_some_iff.1 (hwaits.keyAt_lookup hlookup)
    rw [Cache.keyAt, hstate, hexisting]
    exact congrArg some ((hmerge existing object hkey).trans hkey)
  · rw [Cache.keyAt, hstate]
    rfl

/-- The keys of the listed instances are those of the listing, each once and in its order. -/
theorem Distinct.map_keyAt_listedEntries (h : Distinct key objects current)
    (hmerge : KeepsKeys key merge) (isPersisted : α → Bool) (fresh : List α) :
    (listedEntries key merge objects current fresh).map
        (keyAt key (reconcile key isPersisted merge objects current fresh).objects) =
      (firstOfEach key fresh).map (some ∘ key) := by
  rw [← List.forall₂_eq_eq_eq, List.forall₂_map_left_iff, List.forall₂_map_right_iff]
  exact ((h.reconcile_stands hmerge isPersisted fresh).imp
    fun _ _ hstands => hstands.keyAt hmerge h.waits).flip

theorem mem_lacking_iff {ref : Ref} :
    ref ∈ lacking key objects current fresh ↔
      ref ∈ current ∧ keyAt key objects ref ∉ fresh.map (some ∘ key) := by
  simp [lacking]

theorem Distinct.exists_keyAt_of_mem_listedEntries (h : Distinct key objects current)
    (hmerge : KeepsKeys key merge) (isPersisted : α → Bool) {ref : Ref}
    (hmem : ref ∈ listedEntries key merge objects current fresh) :
    ∃ object ∈ fresh, keyAt key (reconcile key isPersisted merge objects current fresh).objects
      ref = some (key object) := by
  have hkey := List.mem_map_of_mem
    (f := keyAt key (reconcile key isPersisted merge objects current fresh).objects) hmem
  rw [h.map_keyAt_listedEntries hmerge isPersisted fresh] at hkey
  obtain ⟨object, hobject, heq⟩ := List.mem_map.1 hkey
  exact ⟨object, (unseen_sublist [] fresh).subset hobject, heq.symm⟩

theorem Distinct.not_mem_listedEntries (h : Distinct key objects current)
    (hmerge : KeepsKeys key merge) {ref : Ref} (hmem : ref ∈ lacking key objects current fresh) :
    ref ∉ listedEntries key merge objects current fresh := by
  intro hlisted
  obtain ⟨hcurrent, hmiss⟩ := mem_lacking_iff.1 hmem
  obtain ⟨object, hobject, hkey⟩ :=
    h.exists_keyAt_of_mem_listedEntries hmerge (fun _ => true) hlisted
  rw [h.reconcile_keyAt hmerge (fun _ => true) fresh (h.lt_size ref hcurrent)] at hkey
  exact hmiss (hkey ▸ List.mem_map_of_mem hobject)

/-- The keys of the result are pairwise distinct again. -/
theorem Distinct.reconcile (h : Distinct key objects current) (hmerge : KeepsKeys key merge)
    (isPersisted : α → Bool) (fresh : List α) :
    Distinct key (Cache.reconcile key isPersisted merge objects current fresh).objects
      (Cache.reconcile key isPersisted merge objects current fresh).entries := by
  have hsize := reconcile_size key isPersisted merge objects current fresh
  have hdraft : ∀ ref ∈ lacking key objects current fresh, ref < objects.size := fun ref href =>
    h.lt_size ref (mem_lacking_iff.1 href).1
  rw [h.reconcile_entries hmerge isPersisted fresh]
  constructor
  · intro ref href
    rcases List.mem_append.1 href with href | href
    · obtain ⟨object, -, hkey⟩ := h.exists_keyAt_of_mem_listedEntries hmerge isPersisted href
      exact lt_size_of_keyAt hkey
    · exact Nat.lt_of_lt_of_le (hdraft ref (List.mem_of_mem_filter href)) hsize
  · rw [List.map_append, h.map_keyAt_listedEntries hmerge isPersisted fresh, List.nodup_append]
    refine ⟨?_, ?_, ?_⟩
    · rw [← List.map_map]
      exact (nodup_firstOfEach fresh).map fun _ _ => Option.some.inj
    · -- drafts keep the keys that they had among the cached objects
      rw [List.map_congr_left fun ref href =>
        h.reconcile_keyAt hmerge isPersisted fresh (hdraft ref (List.mem_of_mem_filter href))]
      exact h.nodup.sublist ((List.filter_sublist.trans List.filter_sublist).map _)
    · -- and these are keys that the listing lacks
      rintro k hk l hl rfl
      obtain ⟨ref, href, hkey⟩ := List.mem_map.1 hl
      have href := List.mem_of_mem_filter href
      rw [h.reconcile_keyAt hmerge isPersisted fresh (hdraft ref href)] at hkey
      have hmiss := (mem_lacking_iff.1 href).2
      rw [hkey] at hmiss
      obtain ⟨object, hobject, rfl⟩ := List.mem_map.1 hk
      exact hmiss (List.mem_map_of_mem ((unseen_sublist [] fresh).subset hobject))

theorem Distinct.not_mem_reconcile_entries (h : Distinct key objects current)
    (hmerge : KeepsKeys key merge) (isPersisted : α → Bool) (fresh : List α) {ref : Ref}
    (hmem : ref ∈ (Cache.reconcile key isPersisted merge objects current fresh).changes.removed) :
    ref ∉ (Cache.reconcile key isPersisted merge objects current fresh).entries := by
  rw [h.reconcile_removed hmerge isPersisted fresh] at hmem
  obtain ⟨hlacking, hpersisted⟩ := List.mem_filter.1 hmem
  rw [h.reconcile_entries hmerge isPersisted fresh, List.mem_append]
  rintro (hlisted | hdraft)
  · exact h.not_mem_listedEntries hmerge hlacking hlisted
  · have := (List.mem_filter.1 hdraft).2
    rw [hpersisted] at this
    exact absurd this (by simp)

theorem Distinct.nodup_refs (h : Distinct key objects current) : current.Nodup :=
  List.Nodup.of_map _ h.nodup

/-- A cached instance whose key is listed stands in the result. -/
theorem Distinct.mem_listedEntries_of_keyAt (h : Distinct key objects current)
    (hmerge : KeepsKeys key merge) {ref : Ref} (hmem : ref ∈ current)
    (hlisted : keyAt key objects ref ∈ fresh.map (some ∘ key)) :
    ref ∈ listedEntries key merge objects current fresh := by
  obtain ⟨object, hobject, hkey⟩ := List.mem_map.1 hlisted
  have hkey : keyAt key objects ref = some (key object) := hkey.symm
  -- it may be a later duplicate, but then an earlier object has its key
  obtain ⟨first, hfirst, hsame⟩ := List.mem_map.1
    (key_mem_firstOfEach_iff.2 (List.mem_map_of_mem (f := key) hobject))
  obtain ⟨other, hother, hstands⟩ :=
    exists_right_of_forall₂ (h.reconcile_stands hmerge (fun _ => true) fresh) hfirst
  have hlookup : (keyed key objects current).reverse.lookup (key first) = some ref := by
    rw [Association.lookup_eq_some_iff_mem h.waits.nodup, List.mem_reverse, mem_keyed_iff, hsame]
    exact ⟨hmem, hkey⟩
  rcases hstands with ⟨hfound, -⟩ | ⟨hnone, -⟩
  · obtain rfl := Option.some.inj (hlookup.symm.trans hfound)
    exact hother
  · rw [hlookup] at hnone
    cases hnone

/-- What is removed are the cached instances that do not stand in the result. -/
theorem Distinct.mem_reconcile_removed_iff (h : Distinct key objects current)
    (hmerge : KeepsKeys key merge) (isPersisted : α → Bool) (fresh : List α) (ref : Ref) :
    ref ∈ (Cache.reconcile key isPersisted merge objects current fresh).changes.removed ↔
      ref ∈ current ∧
        ref ∉ (Cache.reconcile key isPersisted merge objects current fresh).entries := by
  constructor
  · intro hmem
    refine ⟨?_, h.not_mem_reconcile_entries hmerge isPersisted fresh hmem⟩
    rw [h.reconcile_removed hmerge isPersisted fresh] at hmem
    exact (mem_lacking_iff.1 (List.mem_of_mem_filter hmem)).1
  · rintro ⟨hcurrent, hgone⟩
    rw [h.reconcile_entries hmerge isPersisted fresh, List.mem_append, not_or] at hgone
    obtain ⟨hlisted, hdraft⟩ := hgone
    have hlacking : ref ∈ lacking key objects current fresh :=
      mem_lacking_iff.2 ⟨hcurrent, fun hkey =>
        hlisted (h.mem_listedEntries_of_keyAt hmerge hcurrent hkey)⟩
    rw [h.reconcile_removed hmerge isPersisted fresh]
    refine List.mem_filter.2 ⟨hlacking, ?_⟩
    by_contra hpersisted
    exact hdraft (List.mem_filter.2 ⟨hlacking, by simpa using hpersisted⟩)

theorem Distinct.nodup_reconcile_removed (h : Distinct key objects current)
    (hmerge : KeepsKeys key merge) (isPersisted : α → Bool) (fresh : List α) :
    (Cache.reconcile key isPersisted merge objects current fresh).changes.removed.Nodup := by
  rw [h.reconcile_removed hmerge isPersisted fresh]
  exact (h.nodup_refs.filter _).filter _

end Reconcile

section Instantiate

variable {objects : Array α} {fresh : List α}

theorem distinct_nil (key : α → Key) (objects : Array α) : Distinct key objects [] where
  lt_size := by simp
  nodup := List.nodup_nil

theorem keepsKeys_fst (key : α → Key) : KeepsKeys key fun existing _ => existing :=
  fun _ _ _ => rfl

theorem instantiate_entries (key : α → Key) (objects : Array α) (fresh : List α) :
    (instantiate key objects fresh).entries =
      listedEntries key (fun existing _ => existing) objects [] fresh :=
  ((distinct_nil key objects).reconcile_entries (keepsKeys_fst key) (fun _ => true) fresh).trans
    (List.append_nil _)

theorem distinct_instantiate (key : α → Key) (objects : Array α) (fresh : List α) :
    Distinct key (instantiate key objects fresh).objects
      (instantiate key objects fresh).entries :=
  (distinct_nil key objects).reconcile (keepsKeys_fst key) _ fresh

theorem instantiate_size (key : α → Key) (objects : Array α) (fresh : List α) :
    objects.size ≤ (instantiate key objects fresh).objects.size :=
  reconcile_size _ _ _ _ _ _

/-- Making new instances leaves all others as they are. -/
theorem instantiate_getElem? (key : α → Key) (fresh : List α) {ref : Ref}
    (hlt : ref < objects.size) :
    (instantiate key objects fresh).objects[ref]? = objects[ref]? :=
  absorb_getElem? hlt (by simp [keyed])

theorem size_le_of_mem_instantiate {ref : Ref}
    (hmem : ref ∈ (instantiate key objects fresh).entries) : objects.size ≤ ref := by
  rw [instantiate_entries] at hmem
  simpa [keyed] using mem_absorb_entries hmem

end Instantiate

section Evict

@[simp] theorem size_evict (source : Source ρ α) (objects : Array α) (refs : List Ref) :
    (evict source objects refs).1.size = objects.size := by
  induction refs generalizing objects with
  | nil => rfl
  | cons ref rest ih => exact (ih _).trans Array.size_modify

theorem evict_getElem? (source : Source ρ α) {objects : Array α} {refs : List Ref} {ref : Ref}
    (h : ref ∉ refs) : (evict source objects refs).1[ref]? = objects[ref]? := by
  induction refs generalizing objects with
  | nil => rfl
  | cons first rest ih =>
    rw [List.mem_cons, not_or] at h
    refine (ih h.2).trans ?_
    rw [Array.getElem?_modify, if_neg (Ne.symm h.1)]

end Evict

section Events

variable {objects : Array α} {event : Event α}

/-- Going through a listing reports the duplicates in it, and merges into what was waiting. -/
theorem mem_absorb_events {unmet : List (Key × Ref)} {seen : List Key} {fresh : List α}
    (h : event ∈ (absorb key merge objects unmet seen fresh).events) :
    (∃ k, event = duplicateWarning k) ∨
      ∃ ref existing object, event = .merged ref existing object ∧ ref ∈ unmet.map Prod.snd := by
  fun_induction absorb key merge objects unmet seen fresh with
  | case1 => simp at h
  | case2 objects unmet seen object rest k hseen out ih =>
    rcases List.mem_cons.1 h with rfl | h
    · exact .inl ⟨k, rfl⟩
    · exact ih h
  | case3 objects unmet seen object rest k hseen ref hlookup out events ih =>
    rcases List.mem_append.1 h with h | h
    · obtain ⟨existing, -, rfl⟩ := List.mem_map.1 h
      have hmem := List.mem_map_of_mem (f := Prod.snd) (Association.mem_of_lookup hlookup)
      exact .inr ⟨ref, existing, object, rfl, hmem⟩
    · refine (ih h).imp_right ?_
      rintro ⟨other, existing, object, rfl, hmem⟩
      exact ⟨other, existing, object, rfl, (List.filter_sublist.map Prod.snd).subset hmem⟩
  | case4 objects unmet seen object rest k hseen hlookup ref out ih => exact ih h

theorem mem_instantiate_events {fresh : List α}
    (h : event ∈ (instantiate key objects fresh).events) : ∃ k, event = duplicateWarning k := by
  rcases mem_absorb_events h with h | ⟨ref, -, -, -, hmem⟩
  · exact h
  · simp [keyed] at hmem

theorem mem_reconcile_events {isPersisted : α → Bool} {current : List Ref} {fresh : List α}
    (h : event ∈ (reconcile key isPersisted merge objects current fresh).events) :
    (∃ k, event = duplicateWarning k) ∨
      ∃ ref existing object, event = .merged ref existing object ∧ ref ∈ current := by
  refine (mem_absorb_events h).imp_right ?_
  rintro ⟨ref, existing, object, rfl, hmem⟩
  obtain ⟨entry, hentry, rfl⟩ := List.mem_map.1 hmem
  exact ⟨_, existing, object, rfl, (mem_keyed_iff.1 (List.mem_reverse.1 hentry)).1⟩

theorem mem_evict_events {source : Source ρ α} {refs : List Ref}
    (h : event ∈ (evict source objects refs).2) :
    ∃ ref object, event = .evicted ref object ∧ ref ∈ refs := by
  induction refs generalizing objects with
  | nil => simp [evict] at h
  | cons first rest ih =>
    rcases List.mem_append.1 h with h | h
    · obtain ⟨object, -, rfl⟩ := List.mem_map.1 h
      exact ⟨first, object, rfl, List.mem_cons_self⟩
    · obtain ⟨ref, object, rfl, hmem⟩ := ih h
      exact ⟨ref, object, rfl, List.mem_cons_of_mem _ hmem⟩

end Events

end CatalogBrowser.Cache
