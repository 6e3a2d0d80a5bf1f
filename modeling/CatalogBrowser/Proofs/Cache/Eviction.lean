import CatalogBrowser.Proofs.Cache.Index
import CatalogBrowser.Proofs.Cache.Origin

/-!
# What is evicted

An action evicts just the instances that it takes out of the published entries, each of them once.
An instance that left never comes back, since whatever enters was made by the action that publishes
it. So over a whole run an instance is evicted once if it was cached at some moment and is not any
more, and never otherwise. The events agree with the objects: what an object counts of its evictions
goes up exactly as often as the events tell of one.

## Main definitions

* `evictions` - the instances that some events evict, in order.
* `Evicts` - events that evict what leaves the published entries, each instance once.
* `Tallies`, `Tallied` - a tally that objects keep of their evictions, and events that agree.
* `Machine.Left` - an instance that was cached in a run and is not any more.

## Main statements

* `Turned.evicts`, `evicts_edit` - turns and edits evict what leaves.
* `Turned.tallied`, `tallied_edit` - and the tallies of just these instances go up.
* `Machine.Numbered.absent_step` - what was made and is not cached does not come back.
* `Machine.run_evictions` - what is evicted in a run.
-/

namespace CatalogBrowser.Cache

variable {ρ α : Type} {source : Source ρ α}

/-- The instance that an event evicts. -/
def Event.evicted? : Event α → Option Ref
  | .evicted ref _ => some ref
  | _ => none

/-- The instances that some events evict, in order. -/
def evictions (events : List (Event α)) : List Ref :=
  events.filterMap Event.evicted?

section Evictions

variable {events later : List (Event α)}

theorem evictions_append (events later : List (Event α)) :
    evictions (events ++ later) = evictions events ++ evictions later :=
  List.filterMap_append

theorem evictions_eq_nil (h : ∀ event ∈ events, event.evicted? = none) : evictions events = [] :=
  List.filterMap_eq_nil_iff.2 h

theorem Notes.evictions (h : Notes events) : Cache.evictions events = [] := by
  refine evictions_eq_nil fun event hevent => ?_
  have hnote := h event hevent
  cases event <;> first | rfl | cases hnote

/-- Merging a listing evicts nothing by itself. -/
theorem evictions_reconcile (key : α → Key) (isPersisted : α → Bool) (merge : α → α → α)
    (objects : Array α) (current : List Ref) (fresh : List α) :
    evictions (reconcile key isPersisted merge objects current fresh).events = [] := by
  refine evictions_eq_nil fun event hevent => ?_
  rcases mem_reconcile_events hevent with ⟨k, rfl⟩ | ⟨ref, existing, object, rfl, -⟩ <;> rfl

/-- Of what a reconciliation tells, only the dropping evicts. -/
theorem evictions_amid {merging reports dropping notices : List (Event α)}
    (hmerging : evictions merging = []) (hreports : evictions reports = [])
    (hnotices : evictions notices = []) :
    evictions (merging ++ reports ++ dropping ++ notices) = evictions dropping := by
  rw [evictions_append, evictions_append, evictions_append, hmerging, hreports, hnotices,
    List.append_nil]
  rfl

/-- Dropping instances evicts them, one after the other. -/
theorem evictions_evict (source : Source ρ α) {objects : Array α} {refs : List Ref}
    (h : ∀ ref ∈ refs, ref < objects.size) : evictions (evict source objects refs).2 = refs := by
  induction refs generalizing objects with
  | nil => rfl
  | cons first rest ih =>
    have hfirst := h first List.mem_cons_self
    have hrest : ∀ ref ∈ rest, ref < (objects.modify first source.evicted).size := by
      intro ref href
      rw [Array.size_modify]
      exact h ref (List.mem_cons_of_mem _ href)
    rw [evict, Array.getElem?_eq_getElem hfirst]
    exact congrArg (first :: ·) (ih hrest)

end Evictions

/-- Events between two states of a cache that evict what leaves the published entries, each instance
once. -/
structure Evicts (c c' : Cache α) (events : List (Event α)) : Prop where
  nodup : (evictions events).Nodup
  mem_iff : ∀ ref, ref ∈ evictions events ↔ ref ∈ c.snapshot.entries ∧ ref ∉ c'.snapshot.entries

section Evicts

variable {c c' : Cache α} {events : List (Event α)}

/-- Where nothing leaves, nothing is evicted. -/
theorem evicts_nothing (hevents : evictions events = [])
    (hkept : ∀ ref ∈ c.snapshot.entries, ref ∈ c'.snapshot.entries) : Evicts c c' events where
  nodup := by
    rw [hevents]
    exact List.nodup_nil
  mem_iff ref := by
    rw [hevents]
    constructor
    · intro href
      cases href
    · rintro ⟨hbefore, hafter⟩
      exact absurd (hkept ref hbefore) hafter

theorem Evicts.congr {others : List (Event α)} (h : Evicts c c' events)
    (hothers : evictions others = evictions events) : Evicts c c' others :=
  ⟨hothers ▸ h.nodup, hothers ▸ h.mem_iff⟩

/-- Dropping just what leaves evicts it. -/
theorem evicts_dropped (source : Source ρ α) {objects : Array α} {dropped : List Ref}
    (hevictions : evictions events = evictions (evict source objects dropped).2)
    (hmade : ∀ ref ∈ dropped, ref < objects.size) (hnodup : dropped.Nodup)
    (hdropped : ∀ ref, ref ∈ dropped ↔ ref ∈ c.snapshot.entries ∧ ref ∉ c'.snapshot.entries) :
    Evicts c c' events where
  nodup := by
    rw [hevictions, evictions_evict source hmade]
    exact hnodup
  mem_iff ref := by
    rw [hevictions, evictions_evict source hmade]
    exact hdropped ref

variable {request : Request} {lead : FetchLead} {fresh : List α}

theorem evictions_commitFetch_of_current (h : c.generation = lead.generation) :
    evictions (c.commitFetch source request lead fresh).events =
      evictions (evict source (c.merged source fresh).objects
        (c.merged source fresh).changes.removed).2 := by
  simp only [commitFetch]
  rw [if_pos h]
  refine evictions_amid (evictions_reconcile ..) rfl ?_
  cases request <;> rfl

/-- An accepted listing evicts what it removes, and one that is set aside evicts nothing. -/
theorem Indexed.evicts_commitFetch (h : c.Indexed source)
    (hmerge : KeepsKeys (c.objectKey source) source.merge) (request : Request) (lead : FetchLead)
    (fresh : List α) :
    Evicts c (c.commitFetch source request lead fresh).cache
      (c.commitFetch source request lead fresh).events := by
  by_cases hgeneration : c.generation = lead.generation
  · have hremoved : ∀ ref, ref ∈ (c.merged source fresh).changes.removed ↔
        ref ∈ c.snapshot.entries ∧ ref ∉ (c.merged source fresh).entries :=
      h.distinct.mem_reconcile_removed_iff hmerge source.isPersisted fresh
    refine evicts_dropped source (evictions_commitFetch_of_current hgeneration) (fun ref href => ?_)
      (h.distinct.nodup_reconcile_removed hmerge source.isPersisted fresh) (fun ref => ?_)
    · exact Nat.lt_of_lt_of_le (h.distinct.lt_size ref ((hremoved ref).1 href).1)
        (reconcile_size ..)
    · rw [commitFetch_of_current hgeneration]
      exact hremoved ref
  · refine evicts_nothing (notes_commitFetch_of_outdated hgeneration).evictions fun ref href => ?_
    rw [commitFetch_of_outdated hgeneration]
    exact href

/-- Turns evict what leaves. -/
theorem Turned.evicts {call : Call} {action : Action ρ α} {turn : Turn α} (h : c.Indexed source)
    (hmerge : KeepsKeys (c.objectKey source) source.merge)
    (hturn : Turned source c call action turn) : Evicts c turn.cache turn.events := by
  have hnotes : ∀ {c' : Cache α} {events : List (Event α)}, Notes events →
      c'.snapshot = c.snapshot → Evicts c c' events := fun hevents hsame =>
    evicts_nothing hevents.evictions fun ref href => hsame ▸ href
  cases hturn with
  | listed _ hevents =>
    refine (h.evicts_commitFetch hmerge _ _ _).congr ?_
    rw [Turn.after, evictions_append, hevents.evictions]
    rfl
  | leadFetch _ _ _ _ hevents | leadLookup _ _ _ _ _ _ hevents =>
    refine evicts_nothing ?_ fun _ href => href
    rw [evictions_append, hevents.evictions]
    rfl
  | keep => exact evicts_nothing rfl fun ref href => List.mem_append_left _ href
  | quit _ hevents | remember _ _ hevents | joinFetch _ _ hevents => exact hnotes hevents rfl
  | joinLookup _ _ _ _ hevents | tryFetch _ _ hevents => exact hnotes hevents rfl
  | tryLookup _ _ hevents | failFetch _ hevents => exact hnotes hevents rfl
  | handOut _ _ _ _ hevents => exact hnotes hevents rfl
  | _ => exact hnotes notes_nil rfl

theorem evictions_set (source : Source ρ α) (c : Cache α) (fresh : List α) :
    evictions (c.set source fresh).2 =
      evictions (evict source (instantiate (c.objectKey source) c.objects fresh).objects
        c.snapshot.entries).2 := by
  have hmade : evictions (instantiate (c.objectKey source) c.objects fresh).events = [] :=
    evictions_reconcile ..
  exact (evictions_append _ _).trans (congrArg (· ++ _) hmade)

theorem evictions_reconcileWith (source : Source ρ α) (c : Cache α) (merge : α → α → α)
    (fresh : List α) :
    let out := reconcile (c.objectKey source) source.isPersisted merge c.objects
      c.snapshot.entries fresh
    evictions (c.reconcileWith source merge fresh).2.2 =
      evictions (evict source out.objects out.changes.removed).2 :=
  evictions_amid (evictions_reconcile ..) rfl rfl

/-- Edits evict what leaves. -/
theorem evicts_edit {m : Machine α} {edit : Edit α} (h : m.cache.Indexed source)
    (hkeeps : KeepsIdentity source m (.edit edit)) :
    Evicts m.cache (edit.apply source m.cache).2.1 (edit.apply source m.cache).2.2 := by
  have hmade := h.distinct.lt_size
  have hnodup := h.distinct.nodup_refs
  cases edit with
  | set fresh =>
    -- what is published now is new, so all that was there leaves
    refine evicts_dropped source (evictions_set source m.cache fresh) (fun ref href => ?_) hnodup
      fun ref => ⟨fun href => ⟨href, fun hnew => ?_⟩, And.left⟩
    · exact Nat.lt_of_lt_of_le (hmade ref href) (instantiate_size ..)
    · exact Nat.not_lt.2 (size_le_of_mem_instantiate hnew) (hmade ref href)
  | clear =>
    exact evicts_dropped source rfl hmade hnodup fun ref =>
      ⟨fun href => ⟨href, List.not_mem_nil⟩, And.left⟩
  | reconcile merge fresh =>
    have hremoved := h.distinct.mem_reconcile_removed_iff hkeeps source.isPersisted fresh
    refine evicts_dropped source (evictions_reconcileWith source m.cache merge fresh)
      (fun ref href => ?_) (h.distinct.nodup_reconcile_removed hkeeps source.isPersisted fresh)
      hremoved
    exact Nat.lt_of_lt_of_le (hmade ref ((hremoved ref).1 href).1) (reconcile_size ..)
  | insert object =>
    simp only [Edit.apply, insert]
    cases m.cache.snapshot.find? (m.cache.objectKey source object) with
    | none => exact evicts_nothing rfl fun ref href => List.mem_append_left _ href
    | some ref => exact evicts_nothing rfl fun _ href => href
  | remove identity =>
    simp only [Edit.apply, remove]
    cases hfind : m.cache.cachedObject? identity with
    | none => exact evicts_nothing rfl fun _ href => href
    | some ref =>
      have hentry := ((h.exact.find? _ ref).1 hfind).1
      refine evicts_dropped source rfl (fun other hother => ?_) (List.nodup_singleton ref)
        fun other => ?_
      · exact List.mem_singleton.1 hother ▸ hmade ref hentry
      · rw [List.mem_singleton]
        show other = ref ↔ other ∈ m.cache.snapshot.entries ∧
          other ∉ m.cache.snapshot.entries.filter (· ≠ ref)
        constructor
        · rintro rfl
          exact ⟨hentry, by simp⟩
        · rintro ⟨hold, hgone⟩
          by_contra hother
          exact hgone (List.mem_filter.2 ⟨hold, decide_eq_true hother⟩)
  | sort le => exact evicts_nothing rfl fun ref href => (List.mergeSort_perm _ _).mem_iff.2 href
  | change ref f => exact evicts_nothing rfl fun _ href => href

/-- An instance that was made and is not cached. -/
def Absent (c : Cache α) (ref : Ref) : Prop :=
  ref < c.objects.size ∧ ref ∉ c.snapshot.entries

theorem Indexed.mem_entries_of_mem_refs (h : c.Indexed source) {ref : Ref}
    (href : ref ∈ c.snapshot.refs) : ref ∈ c.snapshot.entries := by
  rcases List.mem_append.1 href with hentry | hindex
  · exact hentry
  · obtain ⟨entry, hentry, rfl⟩ := List.mem_map.1 hindex
    rw [h.index, List.mem_reverse] at hentry
    exact (mem_keyed_iff.1 hentry).1

end Evicts

/-- A tally that goes up by one whenever an object is dropped, and that merging leaves alone. -/
structure Tallies (source : Source ρ α) (tally : α → Nat) : Prop where
  merge : ∀ existing fresh, tally (source.merge existing fresh) = tally existing
  evicted : ∀ object, tally (source.evicted object) = tally object + 1

/-- The tally of an instance, which is none before it was made. -/
def tallyAt (tally : α → Nat) (objects : Array α) (ref : Ref) : Nat :=
  objects[ref]?.elim 0 tally

/-- An action that brings objects that were never dropped, and changes no tally by itself. -/
def KeepsTally (source : Source ρ α) (tally : α → Nat) : Action ρ α → Prop
  | .listed _ (.ok records) => ∀ object ∈ records.filterMap source.construct, tally object = 0
  | .found _ (.ok record) => ∀ object, record.bind source.construct = some object →
    tally object = 0
  | .edit (.set fresh) => ∀ object ∈ fresh, tally object = 0
  | .edit (.reconcile merge fresh) => (∀ object ∈ fresh, tally object = 0) ∧
    ∀ existing fresh, tally (merge existing fresh) = tally existing
  | .edit (.insert object) => tally object = 0
  | .edit (.change _ f) => ∀ object, tally (f object) = tally object
  | _ => True

section Tally

variable {tally : α → Nat} {objects : Array α} {merge : α → α → α} {fresh : List α}

theorem tallyAt_push {object : α} (h : tally object = 0) (objects : Array α) (ref : Ref) :
    tallyAt tally (objects.push object) ref = tallyAt tally objects ref := by
  rw [tallyAt, tallyAt, Array.getElem?_push]
  by_cases heq : ref = objects.size
  · rw [if_pos heq, heq, Array.getElem?_size]
    exact h
  · rw [if_neg heq]

theorem tallyAt_modify {f : α → α} {n : Nat} (h : ∀ object, tally (f object) = tally object + n)
    (objects : Array α) (old ref : Ref) :
    tallyAt tally (objects.modify old f) ref =
      tallyAt tally objects ref + if old = ref ∧ old < objects.size then n else 0 := by
  rw [tallyAt, tallyAt, Array.getElem?_modify]
  by_cases heq : old = ref
  · subst heq
    rw [if_pos rfl]
    by_cases hmade : old < objects.size
    · rw [if_pos ⟨rfl, hmade⟩, Array.getElem?_eq_getElem hmade]
      exact h _
    · rw [if_neg fun hboth => hmade hboth.2, Array.getElem?_eq_none (Nat.not_lt.1 hmade)]
      rfl
  · rw [if_neg heq, if_neg fun hboth => heq hboth.1, Nat.add_zero]

theorem tallyAt_modify_of_eq {f : α → α} (h : ∀ object, tally (f object) = tally object)
    (objects : Array α) (old ref : Ref) :
    tallyAt tally (objects.modify old f) ref = tallyAt tally objects ref := by
  rw [tallyAt_modify (n := 0) h, ite_self, Nat.add_zero]

/-- Merging a listing changes no tally. -/
theorem absorb_tallyAt (key : α → Key) {unmet : List (Key × Ref)} {seen : List Key}
    (hmerge : ∀ existing fresh, tally (merge existing fresh) = tally existing)
    (hfresh : ∀ object ∈ fresh, tally object = 0) (ref : Ref) :
    tallyAt tally (absorb key merge objects unmet seen fresh).objects ref =
      tallyAt tally objects ref := by
  fun_induction absorb key merge objects unmet seen fresh with
  | case1 => rfl
  | case2 objects unmet seen object rest k hseen out ih =>
    exact ih fun other hother => hfresh other (List.mem_cons_of_mem _ hother)
  | case3 objects unmet seen object rest k hseen old hlookup out events ih =>
    refine (ih fun other hother => hfresh other (List.mem_cons_of_mem _ hother)).trans ?_
    exact tallyAt_modify_of_eq (fun existing => hmerge existing object) objects old ref
  | case4 objects unmet seen object rest k hseen hlookup new out ih =>
    refine (ih fun other hother => hfresh other (List.mem_cons_of_mem _ hother)).trans ?_
    exact tallyAt_push (hfresh object List.mem_cons_self) objects ref

theorem evict_tallyAt (h : Tallies source tally) (objects : Array α) (refs : List Ref)
    (ref : Ref) :
    tallyAt tally (evict source objects refs).1 ref =
      tallyAt tally objects ref + (evictions (evict source objects refs).2).count ref := by
  induction refs generalizing objects with
  | nil => rfl
  | cons first rest ih =>
    rw [evict]
    dsimp only
    rw [ih, evictions_append, List.count_append, tallyAt_modify h.evicted, Nat.add_assoc]
    -- the hook runs on an instance exactly if the events tell of it
    have hfirst : (if first = ref ∧ first < objects.size then 1 else 0) =
        (evictions (objects[first]?.toList.map (Event.evicted first))).count ref := by
      by_cases hmade : first < objects.size
      · rw [Array.getElem?_eq_getElem hmade]
        show _ = List.count ref [first]
        simp [hmade, List.count_singleton]
      · rw [if_neg fun hboth => hmade hboth.2, Array.getElem?_eq_none (Nat.not_lt.1 hmade)]
        rfl
    rw [hfirst]

variable {c c' : Cache α}

theorem reconcile_tallyAt (key : α → Key) (isPersisted : α → Bool)
    (hmerge : ∀ existing fresh, tally (merge existing fresh) = tally existing)
    (hfresh : ∀ object ∈ fresh, tally object = 0) (current : List Ref) (ref : Ref) :
    tallyAt tally (reconcile key isPersisted merge objects current fresh).objects ref =
      tallyAt tally objects ref :=
  absorb_tallyAt key hmerge hfresh ref

theorem instantiate_tallyAt (key : α → Key) (hfresh : ∀ object ∈ fresh, tally object = 0)
    (ref : Ref) :
    tallyAt tally (instantiate key objects fresh).objects ref = tallyAt tally objects ref :=
  reconcile_tallyAt key _ (fun _ _ => rfl) hfresh [] ref

/-- The tally of every instance goes up as often as it is evicted. -/
def Tallied (tally : α → Nat) (c c' : Cache α) (events : List (Event α)) : Prop :=
  ∀ ref, tallyAt tally c'.objects ref =
    tallyAt tally c.objects ref + (evictions events).count ref

theorem tallied_nothing {events : List (Event α)} (hevents : evictions events = [])
    (h : ∀ ref, tallyAt tally c'.objects ref = tallyAt tally c.objects ref) :
    Tallied tally c c' events := fun ref => by
  rw [hevents]
  exact h ref

theorem Tallied.trans {c'' : Cache α} {events later : List (Event α)}
    (h : Tallied tally c c' events) (h' : Tallied tally c' c'' later) :
    Tallied tally c c'' (events ++ later) := fun ref => by
  rw [h' ref, h ref, evictions_append, List.count_append, Nat.add_assoc]

/-- Dropping instances once new ones were brought. -/
theorem tallied_dropped (h : Tallies source tally) {events : List (Event α)} (dropped : List Ref)
    (hevictions : evictions events = evictions (evict source objects dropped).2)
    (hobjects : c'.objects = (evict source objects dropped).1)
    (hbrought : ∀ ref, tallyAt tally objects ref = tallyAt tally c.objects ref) :
    Tallied tally c c' events := fun ref => by
  rw [hevictions, hobjects, evict_tallyAt h, hbrought]

theorem Turned.tallied {call : Call} {action : Action ρ α} {turn : Turn α}
    (h : Tallies source tally) (hkeeps : KeepsTally source tally action)
    (hturn : Turned source c call action turn) : Tallied tally c turn.cache turn.events := by
  have hnotes : ∀ {c' : Cache α} {events : List (Event α)}, Notes events →
      c'.objects = c.objects → Tallied tally c c' events := fun hevents hsame =>
    tallied_nothing hevents.evictions fun ref => by rw [hsame]
  cases hturn with
  | @listed lead records events _ hevents =>
    have hreports : evictions ((c.commitFetch source call.request lead
        (records.filterMap source.construct)).after events).events =
        evictions (c.commitFetch source call.request lead
          (records.filterMap source.construct)).events := by
      rw [Turn.after, evictions_append, hevents.evictions]
      rfl
    by_cases hgeneration : c.generation = lead.generation
    · refine tallied_dropped h _ (hreports.trans (evictions_commitFetch_of_current hgeneration))
        ?_ fun ref => reconcile_tallyAt _ _ h.merge hkeeps _ ref
      rw [Turn.after, commitFetch_of_current hgeneration]
    · refine tallied_nothing
        (hreports.trans (notes_commitFetch_of_outdated hgeneration).evictions) fun ref => ?_
      rw [Turn.after, commitFetch_of_outdated hgeneration]
      exact instantiate_tallyAt _ hkeeps ref
  | leadFetch _ _ _ _ hevents | leadLookup _ _ _ _ _ _ hevents =>
    refine tallied_nothing ?_ fun ref => rfl
    rw [evictions_append, hevents.evictions]
    rfl
  | keep _ hobject =>
    exact tallied_nothing rfl (tallyAt_push (hkeeps _ hobject) c.objects)
  | handOut _ hobject _ _ hevents =>
    exact tallied_nothing hevents.evictions (tallyAt_push (hkeeps _ hobject) c.objects)
  | quit _ hevents | remember _ _ hevents | joinFetch _ _ hevents => exact hnotes hevents rfl
  | joinLookup _ _ _ _ hevents | tryFetch _ _ hevents => exact hnotes hevents rfl
  | tryLookup _ _ hevents | failFetch _ hevents => exact hnotes hevents rfl
  | _ => exact hnotes notes_nil rfl

theorem tallied_edit (h : Tallies source tally) (c : Cache α) {edit : Edit α}
    (hkeeps : KeepsTally source tally (.edit edit)) :
    Tallied tally c (edit.apply source c).2.1 (edit.apply source c).2.2 := by
  cases edit with
  | set fresh =>
    exact tallied_dropped h _ (evictions_set source c fresh) rfl fun ref =>
      instantiate_tallyAt _ hkeeps ref
  | clear => exact tallied_dropped h c.snapshot.entries rfl rfl fun _ => rfl
  | reconcile merge fresh =>
    exact tallied_dropped h _ (evictions_reconcileWith source c merge fresh) rfl fun ref =>
      reconcile_tallyAt _ _ hkeeps.2 hkeeps.1 _ ref
  | insert object =>
    simp only [Edit.apply, insert]
    cases c.snapshot.find? (c.objectKey source object) with
    | none => exact tallied_nothing rfl (tallyAt_push hkeeps c.objects)
    | some ref => exact tallied_nothing rfl fun _ => rfl
  | remove identity =>
    simp only [Edit.apply, remove]
    cases c.cachedObject? identity with
    | none => exact tallied_nothing rfl fun _ => rfl
    | some ref => exact tallied_dropped h [ref] rfl rfl fun _ => rfl
  | sort le => exact tallied_nothing rfl fun _ => rfl
  | change old f => exact tallied_nothing rfl (tallyAt_modify_of_eq hkeeps c.objects old)

end Tally

namespace Machine

variable {m : Machine α} {action : Action ρ α} {ref : Ref}

theorem Numbered.evicts_step (h : m.Numbered) (hindexed : m.cache.Indexed source)
    (hmerge : KeepsKeys (m.cache.objectKey source) source.merge)
    (hkeeps : KeepsIdentity source m action) :
    Evicts m.cache (m.step source action).machine.cache (m.step source action).events := by
  cases h.stepped source action with
  | idle cache _ _ events => exact events ▸ evicts_nothing rfl fun ref href => cache ▸ href
  | start _ _ cache _ _ events => exact events ▸ evicts_nothing rfl fun ref href => cache ▸ href
  | turn _ turned _ cache _ _ events => rw [cache, events]; exact turned.evicts hindexed hmerge
  | edit edit same cache _ _ events =>
    rw [cache, events]
    exact evicts_edit hindexed (same ▸ hkeeps)

/-- What is not cached does not come back. -/
theorem Numbered.absent_step (h : m.Numbered) (hindexed : m.cache.Indexed source)
    (habsent : m.cache.Absent ref) (action : Action ρ α) :
    (m.step source action).machine.cache.Absent ref := by
  obtain ⟨hmade, hgone⟩ := habsent
  refine ⟨Nat.lt_of_lt_of_le hmade (h.grown_step source action).objects, fun hentry => hgone ?_⟩
  -- what is published now was published before, or has just been made
  rcases h.known_step (mem_refs_of_mem_entries hentry) with hbefore | ⟨hnew, -⟩
  · exact hindexed.mem_entries_of_mem_refs hbefore
  · exact absurd hmade (Nat.not_lt.2 hnew)

/-- Calls that are told apart, and a view that is indexed and stays so. -/
structure Orderly (source : Source ρ α) (m : Machine α) : Prop where
  numbered : m.Numbered
  indexed : m.cache.Indexed source
  merge : KeepsKeys (m.cache.objectKey source) source.merge

theorem Orderly.step (h : m.Orderly source) (hkeeps : KeepsIdentity source m action) :
    (m.step source action).machine.Orderly source where
  numbered := h.numbered.step source action
  indexed := h.numbered.indexed_step h.indexed h.merge hkeeps
  merge := by
    rw [objectKey_of_config (h.numbered.grown_step source action).config]
    exact h.merge

theorem Orderly.run (h : m.Orderly source) {actions : List (Action ρ α)}
    (hkeeps : m.Admits source (KeepsIdentity source) actions) :
    (m.run source actions).machine.Orderly source :=
  hkeeps.preserves (fun _ _ hm hok => hm.step hok) h

theorem Orderly.absent_run (h : m.Orderly source) {actions : List (Action ρ α)}
    (hkeeps : m.Admits source (KeepsIdentity source) actions) (habsent : m.cache.Absent ref) :
    (m.run source actions).machine.cache.Absent ref := by
  have hboth := hkeeps.preserves (P := fun m => m.Orderly source ∧ m.cache.Absent ref)
    (fun m action hm hok => ⟨hm.1.step hok, hm.1.numbered.absent_step hm.1.indexed hm.2 action⟩)
    ⟨h, habsent⟩
  exact hboth.2

/-- An instance that was cached at some moment of a run. -/
def Cached (source : Source ρ α) (m : Machine α) (actions : List (Action ρ α)) (ref : Ref) : Prop :=
  ∃ xs ys, actions = xs ++ ys ∧ ref ∈ (m.run source xs).machine.cache.snapshot.entries

/-- An instance that was cached at some moment of a run and is not any more. -/
def Left (source : Source ρ α) (m : Machine α) (actions : List (Action ρ α)) (ref : Ref) : Prop :=
  m.Cached source actions ref ∧ ref ∉ (m.run source actions).machine.cache.snapshot.entries

theorem cached_nil_iff : m.Cached source ([] : List (Action ρ α)) ref ↔
    ref ∈ m.cache.snapshot.entries := by
  constructor
  · rintro ⟨xs, ys, hsplit, hentry⟩
    obtain ⟨rfl, rfl⟩ := List.append_eq_nil_iff.1 hsplit.symm
    exact hentry
  · exact fun hentry => ⟨[], [], rfl, hentry⟩

theorem cached_cons_iff {rest : List (Action ρ α)} : m.Cached source (action :: rest) ref ↔
    ref ∈ m.cache.snapshot.entries ∨ (m.step source action).machine.Cached source rest ref := by
  constructor
  · rintro ⟨xs, ys, hsplit, hentry⟩
    cases xs with
    | nil => exact .inl hentry
    | cons first xs =>
      obtain ⟨rfl, rfl⟩ := List.cons.inj hsplit
      exact .inr ⟨xs, ys, rfl, hentry⟩
  · rintro (hentry | ⟨xs, ys, rfl, hentry⟩)
    · exact ⟨[], _, rfl, hentry⟩
    · exact ⟨action :: xs, ys, rfl, hentry⟩

/-- What was cached and is not any more has been made, and so it stays away. -/
theorem Orderly.absent_of_left (h : m.Orderly source) {actions : List (Action ρ α)}
    (hkeeps : m.Admits source (KeepsIdentity source) actions)
    (hleft : m.Left source actions ref) : (m.run source actions).machine.cache.Absent ref := by
  obtain ⟨⟨xs, ys, rfl, hentry⟩, hgone⟩ := hleft
  have hthere := h.run ((admits_append xs ys).1 hkeeps).1
  refine ⟨?_, hgone⟩
  rw [run_append_machine]
  exact Nat.lt_of_lt_of_le (hthere.indexed.distinct.lt_size ref hentry)
    (hthere.numbered.grown_run source ys).objects

theorem Orderly.not_cached_of_absent (h : m.Orderly source) {actions : List (Action ρ α)}
    (hkeeps : m.Admits source (KeepsIdentity source) actions) (habsent : m.cache.Absent ref) :
    ¬ m.Cached source actions ref := by
  rintro ⟨xs, ys, rfl, hentry⟩
  exact (h.absent_run ((admits_append xs ys).1 hkeeps).1 habsent).2 hentry

/-- A run evicts what leaves in it, each instance once. -/
theorem Orderly.evictions_run (h : m.Orderly source) {actions : List (Action ρ α)}
    (hkeeps : m.Admits source (KeepsIdentity source) actions) :
    (evictions (m.run source actions).events).Nodup ∧
      ∀ ref, ref ∈ evictions (m.run source actions).events ↔ m.Left source actions ref := by
  induction actions generalizing m with
  | nil =>
    refine ⟨List.nodup_nil, fun ref => ⟨fun hmem => absurd hmem List.not_mem_nil, ?_⟩⟩
    rintro ⟨hcached, hgone⟩
    exact absurd (cached_nil_iff.1 hcached) hgone
  | cons action rest ih =>
    have hevicts := h.numbered.evicts_step h.indexed h.merge hkeeps.1
    have hnext := h.step hkeeps.1
    obtain ⟨hnodup, hmem⟩ := ih hnext hkeeps.2
    -- what the first action evicts is absent from then on
    have habsent : ∀ ref ∈ evictions (m.step source action).events,
        (m.step source action).machine.cache.Absent ref := fun ref href => by
      obtain ⟨hbefore, hafter⟩ := (hevicts.mem_iff ref).1 href
      exact ⟨Nat.lt_of_lt_of_le (h.indexed.distinct.lt_size ref hbefore)
        (h.numbered.grown_step source action).objects, hafter⟩
    have hsplit : evictions (m.run source (action :: rest)).events =
        evictions (m.step source action).events ++
          evictions ((m.step source action).machine.run source rest).events :=
      evictions_append _ _
    rw [hsplit]
    constructor
    · refine List.nodup_append'.2 ⟨hevicts.nodup, hnodup, fun ref hfirst hlater => ?_⟩
      exact hnext.not_cached_of_absent hkeeps.2 (habsent ref hfirst) ((hmem ref).1 hlater).1
    · intro ref
      rw [List.mem_append, hmem ref, hevicts.mem_iff ref]
      constructor
      · rintro (⟨hbefore, hafter⟩ | ⟨hcached, hgone⟩)
        · have href := (hevicts.mem_iff ref).2 ⟨hbefore, hafter⟩
          exact ⟨cached_cons_iff.2 (.inl hbefore),
            (hnext.absent_run hkeeps.2 (habsent ref href)).2⟩
        · exact ⟨cached_cons_iff.2 (.inr hcached), hgone⟩
      · rintro ⟨hcached, hgone⟩
        rcases cached_cons_iff.1 hcached with hbefore | hlater
        · by_cases hafter : ref ∈ (m.step source action).machine.cache.snapshot.entries
          · exact .inr ⟨⟨[], rest, rfl, hafter⟩, hgone⟩
          · exact .inl ⟨hbefore, hafter⟩
        · exact .inr ⟨hlater, hgone⟩

theorem Numbered.tallied_step (h : m.Numbered) {tally : α → Nat} (htallies : Tallies source tally)
    (hkeeps : KeepsTally source tally action) :
    Tallied tally m.cache (m.step source action).machine.cache (m.step source action).events := by
  cases h.stepped source action with
  | idle cache _ _ events => exact events ▸ tallied_nothing rfl fun ref => by rw [cache]
  | start _ _ cache _ _ events => exact events ▸ tallied_nothing rfl fun ref => by rw [cache]
  | turn _ turned _ cache _ _ events => rw [cache, events]; exact turned.tallied htallies hkeeps
  | edit edit same cache _ _ events =>
    rw [cache, events]
    exact tallied_edit htallies m.cache (same ▸ hkeeps)

/-- Over a run, the tally of every instance goes up as often as it is evicted. -/
theorem Numbered.tallied_run (h : m.Numbered) {tally : α → Nat} (htallies : Tallies source tally)
    {actions : List (Action ρ α)} (hkeeps : ∀ action ∈ actions, KeepsTally source tally action) :
    Tallied tally m.cache (m.run source actions).machine.cache (m.run source actions).events := by
  induction actions generalizing m with
  | nil => exact tallied_nothing rfl fun _ => rfl
  | cons action rest ih =>
    have hfirst := h.tallied_step htallies (hkeeps action List.mem_cons_self)
    have hlater := ih (h.step source action) fun next hnext =>
      hkeeps next (List.mem_cons_of_mem _ hnext)
    exact hfirst.trans hlater

theorem orderly_new {config : Config} {monitors : Monitors}
    (hmerge : KeepsKeys (config.objectKey source) source.merge) :
    (new config monitors).Orderly source :=
  ⟨numbered_new config monitors, indexed_empty _ _, hmerge⟩

/-- In every run, as long as objects keep their keys while they are cached, an instance is evicted
once if it was cached at some moment and is not any more, and never otherwise; what left never
comes back. The same is told by any tally that the objects keep of their evictions. -/
theorem run_evictions (source : Source ρ α) (config : Config) (monitors : Monitors)
    (actions : List (Action ρ α)) (hmerge : KeepsKeys (config.objectKey source) source.merge)
    (hkeeps : (new config monitors).Admits source (KeepsIdentity source) actions) :
    let m := new config monitors
    let moved := m.run source actions
    (∀ ref, (m.Left source actions ref → (evictions moved.events).count ref = 1) ∧
      (¬ m.Left source actions ref → (evictions moved.events).count ref = 0)) ∧
    (∀ xs ys ref, actions = xs ++ ys → m.Left source xs ref →
      ref ∉ moved.machine.cache.snapshot.entries) ∧
    ∀ tally, Tallies source tally → (∀ action ∈ actions, KeepsTally source tally action) →
      ∀ ref object, moved.machine.cache.object? ref = some object →
        tally object = (evictions moved.events).count ref := by
  intro m moved
  have horderly : m.Orderly source := orderly_new hmerge
  obtain ⟨hnodup, hmem⟩ := horderly.evictions_run hkeeps
  refine ⟨fun ref => ⟨fun hleft => ?_, fun hstays => ?_⟩, ?_, ?_⟩
  · exact List.count_eq_one_of_mem hnodup ((hmem ref).2 hleft)
  · exact List.count_eq_zero.2 fun href => hstays ((hmem ref).1 href)
  · rintro xs ys ref rfl hleft
    obtain ⟨hfirst, hlater⟩ := (admits_append xs ys).1 hkeeps
    have habsent := (horderly.run hfirst).absent_run hlater (horderly.absent_of_left hfirst hleft)
    rw [← run_append_machine] at habsent
    exact habsent.2
  · intro tally htallies hkeeps ref object hobject
    have htallied := horderly.numbered.tallied_run htallies hkeeps ref
    have hbefore : tallyAt tally m.cache.objects ref = 0 := by
      rw [tallyAt]
      rfl
    rw [hbefore, Nat.zero_add, tallyAt] at htallied
    rw [← htallied]
    exact congrArg (Option.elim · 0 tally) hobject.symm

end Machine

section Items

open Scripted Machine

/-- A listing with a duplicate, another one that lacks an object, and a refresh that comes too late
for a cache that was cleared. -/
def turnover : List (Action Item Item) :=
  [.start .all ⟨0, [], 0⟩, .poll 0, .listed 0 (.ok [.withId 1 0, .withId 2 0, .withId 1 5]),
    .edit (.reconcile Item.merge [.withId 2 7, .withId 3 0]), .start .refresh ⟨0, [], 0⟩, .poll 1,
    .edit .clear, .listed 1 (.ok [.withId 1 0, .withId 2 0]), .edit (.insert (.withId 4 0))]

/-- The first item left. -/
theorem left_turnover : (new {}).Left (Item.source Item.merge) turnover 0 := by
  have hthere : ((new {} : Machine Item).run (Item.source Item.merge)
      (turnover.take 3)).machine.cache.snapshot.entries = [0, 1] := rfl
  have hend : ((new {} : Machine Item).run (Item.source Item.merge)
      turnover).machine.cache.snapshot.entries = [5] := by decide +kernel
  refine ⟨⟨turnover.take 3, turnover.drop 3, (List.take_append_drop 3 turnover).symm, ?_⟩, ?_⟩
  · rw [hthere]
    exact List.mem_cons_self
  · rw [hend]
    decide

theorem run_evictions_turnover :
    let moved := (new {} : Machine Item).run (Item.source Item.merge) turnover
    (evictions moved.events).count 0 = 1 ∧ 0 ∉ moved.machine.cache.snapshot.entries ∧
      ∀ ref item, moved.machine.cache.object? ref = some item →
        item.evictions = (evictions moved.events).count ref := by
  have hkeeps : (new {}).Admits (Item.source Item.merge) (KeepsIdentity (Item.source Item.merge))
      turnover := by
    simp only [turnover, Admits, KeepsIdentity, true_and, and_true]
    exact Item.keepsKeys_merge {}
  have htallies : Tallies (Item.source Item.merge) Item.evictions :=
    ⟨fun _ _ => rfl, fun _ => rfl⟩
  have hkeepsTally : ∀ action ∈ turnover,
      KeepsTally (Item.source Item.merge) Item.evictions action := by
    simp [turnover, KeepsTally, Item.source, Item.withId, Item.merge]
  obtain ⟨hcount, haway, htally⟩ := run_evictions (Item.source Item.merge) {} {} turnover
    (Item.keepsKeys_merge {}) hkeeps
  exact ⟨(hcount 0).1 left_turnover, haway turnover [] 0 (List.append_nil _).symm left_turnover,
    htally Item.evictions htallies hkeepsTally⟩

end Items

end CatalogBrowser.Cache
