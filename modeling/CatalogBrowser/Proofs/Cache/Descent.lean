import CatalogBrowser.Cache.Load
import CatalogBrowser.Proofs.Cache.Leadership
import CatalogBrowser.Proofs.Cache.Origin

/-!
# What later states of a cache have in common with earlier ones

Instances may own caches themselves, so what becomes of an instance matters also where it is not
cached any more. Whatever happens to a cache, its instances remain and each of them develops by
merges and by being dropped; the generation never goes back; and nothing is published again that
once was not, unless it is new.

## Main definitions

* `Develops` - instances that developed from others, and new ones.
* `Upkeep` - a relation between states of an instance that merging and dropping respect.
* `Descends` - a cache that came out of another one.
* `Load.Ran` - what a run of a load consists of.

## Main statements

* `Turned.develops`, `develops_edit` - instances of a cache.
* `Turned.descends`, `descends_edit` - the cache itself.
* `Load.ran_run` - a load runs in one turn or in two.
-/

namespace CatalogBrowser

/-- The state in which a task waits, unless it finished. -/
def Poll.pending? {σ β : Type} : Poll σ β → Option σ
  | .waiting state => some state
  | .finished _ => none

namespace Cache

variable {ρ α : Type} {source : Source ρ α} {c c' c'' : Cache α}

/-- The instances developed from those that were there before, or are new. -/
structure Develops (R : α → α → Prop) (New : α → Prop) (before after : Array α) : Prop where
  old : ∀ (ref : Ref) object, before[ref]? = some object →
    ∃ object', after[ref]? = some object' ∧ R object object'
  new : ∀ (ref : Ref) object', before.size ≤ ref → after[ref]? = some object' →
    ∃ object, New object ∧ R object object'

/-- A relation between an earlier and a later state of an instance that holds of whatever a cache
does to it. -/
structure Upkeep (source : Source ρ α) (R : α → α → Prop) : Prop where
  refl : ∀ object, R object object
  trans : ∀ {a b c}, R a b → R b c → R a c
  merge : ∀ existing fresh, R existing (source.merge existing fresh)
  evicted : ∀ object, R object (source.evicted object)

section Develops

variable {R : α → α → Prop} {New : α → Prop} {before after later objects : Array α}

theorem develops_refl (hrefl : ∀ object, R object object) (objects : Array α) :
    Develops R New objects objects where
  old _ object hobject := ⟨object, hobject, hrefl object⟩
  new ref object hsize hobject := by
    rw [Array.getElem?_eq_none hsize] at hobject
    cases hobject

theorem Develops.trans (htrans : ∀ {a b c}, R a b → R b c → R a c)
    (h : Develops R New before after) (h' : Develops R New after later) :
    Develops R New before later where
  old ref object hobject := by
    obtain ⟨object', hobject', hR⟩ := h.old ref object hobject
    obtain ⟨object'', hobject'', hR'⟩ := h'.old ref object' hobject'
    exact ⟨object'', hobject'', htrans hR hR'⟩
  new ref object'' hsize hobject'' := by
    cases hobject' : after[ref]? with
    | none => exact h'.new ref object'' (Array.getElem?_eq_none_iff.1 hobject') hobject''
    | some object' =>
      obtain ⟨object, hnew, hR⟩ := h.new ref object' hsize hobject'
      obtain ⟨later, hlater, hR'⟩ := h'.old ref object' hobject'
      obtain rfl := Option.some.inj (hlater.symm.trans hobject'')
      exact ⟨object, hnew, htrans hR hR'⟩

theorem develops_push (hrefl : ∀ object, R object object) {object : α} (hnew : New object) :
    Develops R New objects (objects.push object) where
  old ref existing hexisting := by
    have hlt := (Array.getElem?_eq_some_iff.1 hexisting).1
    exact ⟨existing, (getElem?_push_of_lt hlt object).trans hexisting, hrefl existing⟩
  new ref object' hsize hobject' := by
    rcases Nat.lt_or_eq_of_le hsize with hlt | rfl
    · rw [Array.getElem?_eq_none (by rw [Array.size_push]; exact hlt)] at hobject'
      cases hobject'
    · obtain rfl := Option.some.inj ((Array.getElem?_push_size).symm.trans hobject')
      exact ⟨object, hnew, hrefl object⟩

theorem develops_modify (hrefl : ∀ object, R object object) {ref : Ref} {f : α → α}
    (h : ∀ object, objects[ref]? = some object → R object (f object)) :
    Develops R New objects (objects.modify ref f) where
  old other object hobject := by
    rw [Array.getElem?_modify]
    split
    · subst other
      exact ⟨f object, by rw [hobject]; rfl, h object hobject⟩
    · exact ⟨object, hobject, hrefl object⟩
  new other object' hsize hobject' := by
    rw [Array.getElem?_eq_none (by rwa [Array.size_modify])] at hobject'
    cases hobject'

theorem develops_absorb (hrefl : ∀ object, R object object)
    (htrans : ∀ {a b c}, R a b → R b c → R a c) {key : α → Key} {merge : α → α → α}
    (hmerge : ∀ existing fresh, R existing (merge existing fresh)) {unmet : List (Key × Ref)}
    {seen : List Key} {fresh : List α} (hnew : ∀ object ∈ fresh, New object) :
    Develops R New objects (absorb key merge objects unmet seen fresh).objects := by
  fun_induction absorb key merge objects unmet seen fresh with
  | case1 => exact develops_refl hrefl _
  | case2 objects unmet seen object rest k hseen out ih =>
    exact ih fun other hother => hnew other (List.mem_cons_of_mem _ hother)
  | case3 objects unmet seen object rest k hseen ref hlookup out events ih =>
    exact (develops_modify hrefl fun existing _ => hmerge existing object).trans htrans
      (ih fun other hother => hnew other (List.mem_cons_of_mem _ hother))
  | case4 objects unmet seen object rest k hseen hlookup ref out ih =>
    exact (develops_push hrefl (hnew object List.mem_cons_self)).trans htrans
      (ih fun other hother => hnew other (List.mem_cons_of_mem _ hother))

theorem develops_evict (hrefl : ∀ object, R object object)
    (htrans : ∀ {a b c}, R a b → R b c → R a c)
    (hevicted : ∀ object, R object (source.evicted object)) (refs : List Ref) :
    Develops R New objects (evict source objects refs).1 := by
  induction refs generalizing objects with
  | nil => exact develops_refl hrefl objects
  | cons ref rest ih =>
    exact (develops_modify hrefl fun object _ => hevicted object).trans htrans ih

/-- An instance that is dropped has developed until then. -/
theorem exists_evicted_of_mem (hrefl : ∀ object, R object object)
    (htrans : ∀ {a b c}, R a b → R b c → R a c)
    (hevicted : ∀ object, R object (source.evicted object)) {refs : List Ref} {ref : Ref}
    (hmem : ref ∈ refs) {object : α} (hobject : objects[ref]? = some object) :
    ∃ object', (evict source objects refs).1[ref]? = some (source.evicted object') ∧
      R object object' := by
  induction refs generalizing objects object with
  | nil => cases hmem
  | cons first rest ih =>
    by_cases hrest : ref ∈ rest
    · have hfirst : Develops R (fun _ => True) objects (objects.modify first source.evicted) :=
        develops_modify hrefl fun object _ => hevicted object
      obtain ⟨object₁, hobject₁, hR⟩ := hfirst.old ref object hobject
      obtain ⟨object', hobject', hR'⟩ := ih hrest hobject₁
      exact ⟨object', hobject', htrans hR hR'⟩
    · obtain rfl : ref = first := (List.mem_cons.1 hmem).resolve_right hrest
      refine ⟨object, (evict_getElem? source hrest).trans ?_, hrefl object⟩
      rw [Array.getElem?_modify, if_pos rfl, hobject]
      rfl

end Develops

section Steps

variable {R : α → α → Prop} {New : α → Prop}

/-- What an edit brings in is new, and how it changes instances respects a relation. -/
def Edit.Respects (R : α → α → Prop) (New : α → Prop) : Edit α → Prop
  | .set fresh => ∀ object ∈ fresh, New object
  | .reconcile merge fresh =>
    (∀ existing fresh, R existing (merge existing fresh)) ∧ ∀ object ∈ fresh, New object
  | .insert object => New object
  | .change _ f => ∀ object, R object (f object)
  | .clear | .remove _ | .sort _ => True

theorem Turned.develops {call : Call} {action : Action ρ α} {turn : Turn α}
    (hturn : Turned source c call action turn) (hR : Upkeep source R)
    (hnew : ∀ record object, source.construct record = some object → New object) :
    Develops R New c.objects turn.cache.objects := by
  have hrecord : ∀ {record : Option ρ} {object : α},
      record.bind source.construct = some object → New object := by
    intro record object hobject
    obtain ⟨record, -, hconstruct⟩ := Option.bind_eq_some_iff.1 hobject
    exact hnew record object hconstruct
  cases hturn with
  | @listed lead records =>
    have hfresh : ∀ object ∈ records.filterMap source.construct, New object := by
      intro object hobject
      obtain ⟨record, -, hconstruct⟩ := List.mem_filterMap.1 hobject
      exact hnew record object hconstruct
    rw [Turn.after]
    by_cases hgeneration : c.generation = lead.generation
    · rw [commitFetch_of_current hgeneration]
      exact (develops_absorb hR.refl hR.trans hR.merge hfresh).trans hR.trans
        (develops_evict hR.refl hR.trans hR.evicted _)
    · rw [commitFetch_of_outdated hgeneration]
      exact develops_absorb hR.refl hR.trans (fun existing _ => hR.refl existing) hfresh
  | handOut _ hobject | keep _ hobject => exact develops_push hR.refl (hrecord hobject)
  | _ => exact develops_refl hR.refl _

theorem develops_edit (hR : Upkeep source R) {edit : Edit α} (hedit : edit.Respects R New) :
    Develops R New c.objects (edit.apply source c).2.1.objects := by
  cases edit with
  | set fresh =>
    exact (develops_absorb hR.refl hR.trans (fun existing _ => hR.refl existing) hedit).trans
      hR.trans (develops_evict hR.refl hR.trans hR.evicted _)
  | clear => exact develops_evict hR.refl hR.trans hR.evicted _
  | reconcile merge fresh =>
    exact (develops_absorb hR.refl hR.trans hedit.1 hedit.2).trans hR.trans
      (develops_evict hR.refl hR.trans hR.evicted _)
  | insert object =>
    simp only [Edit.apply, insert]
    cases c.snapshot.find? (c.objectKey source object) with
    | none => exact develops_push hR.refl hedit
    | some _ => exact develops_refl hR.refl _
  | remove identity =>
    simp only [Edit.apply, remove]
    cases c.cachedObject? identity with
    | none => exact develops_refl hR.refl _
    | some ref => exact develops_evict hR.refl hR.trans hR.evicted [ref]
  | sort le => exact develops_refl hR.refl _
  | change ref f => exact develops_modify hR.refl fun object _ => hedit object

/-- A cache that came out of another one: nothing was forgotten, and what is published was published
before or has been made since. -/
structure Descends (c c' : Cache α) : Prop extends Grown c c' where
  known : ∀ ref ∈ c'.snapshot.refs, Known c c' ref

theorem Descends.refl (c : Cache α) : Descends c c where
  toGrown := .refl c
  known _ href := .inl href

theorem Descends.trans (h : Descends c c') (h' : Descends c' c'') : Descends c c'' where
  toGrown := h.toGrown.trans h'.toGrown
  known ref href := by
    rcases h'.known ref href with hold | ⟨hle, hlt⟩
    · exact (h.known ref hold).imp_right fun hmade =>
        ⟨hmade.1, Nat.lt_of_lt_of_le hmade.2 h'.objects⟩
    · exact .inr ⟨Nat.le_trans h.objects hle, hlt⟩

/-- At most new instances were made, which nobody sees. -/
structure Unseen (c c' : Cache α) : Prop where
  snapshot : c'.snapshot = c.snapshot
  freshness : c'.freshness = c.freshness
  generation : c'.generation = c.generation
  objects : ∀ ref < c.objects.size, c'.object? ref = c.object? ref

/-- What is published stays among the instances. -/
theorem Descends.founded (h : Descends c c') (hfounded : c.Founded) : c'.Founded := by
  intro ref href
  rcases h.known ref href with hold | ⟨-, hlt⟩
  · exact Nat.lt_of_lt_of_le (hfounded ref hold) h.objects
  · exact hlt

theorem Turned.descends {call : Call} {action : Action ρ α} {turn : Turn α}
    (hturn : Turned source c call action turn) : Descends c turn.cache where
  toGrown := hturn.grown
  known _ := hturn.published

theorem descends_edit (source : Source ρ α) (c : Cache α) (edit : Edit α) :
    Descends c (edit.apply source c).2.1 where
  toGrown := grown_edit source c edit
  known _ := known_edit

theorem descends_modifyObject (c : Cache α) (ref : Ref) (f : α → α) :
    Descends c (c.modifyObject ref f) where
  config := rfl
  generation := Nat.le_refl _
  objects := Nat.le_of_eq Array.size_modify.symm
  fetchResults := Nat.le_refl _
  lookupResults := Nat.le_refl _
  known _ href := .inl href

end Steps

section Load

variable {ω κ : Type}

/-- The call that a load makes. -/
def Load.call (load : Load κ) : Call where
  id := 0
  monitor := { scope := 0, ancestors := [], counter := 0 }
  request := load.request
  stage := load.stage

/-- What a load, when it runs or is dropped, makes of a cache, and where it waits then: it takes a
turn, and possibly another one where the first left it. -/
inductive Load.Ran (source : Source ρ α) (c : Cache α) (load : Load κ) :
    Cache α → Option Stage → Prop
  | once {action : Action ρ α} {turn : Turn α} : Turned source c load.call action turn →
      Ran source c load turn.cache turn.progress.stage?
  | twice {action action' : Action ρ α} {turn turn' : Turn α} {stage : Stage} :
      Turned source c load.call action turn → turn.progress.stage? = some stage →
      Turned source turn.cache { load.call with stage } action' turn' →
      Ran source c load turn'.cache turn'.progress.stage?

theorem Load.ask_stage (remote : Remote ω κ ρ) (world : ω) (load : Load κ) :
    (Load.ask remote world load).2.stage = load.stage ∧
      (Load.ask remote world load).2.request = load.request := by
  rw [Load.ask]
  split <;> exact ⟨rfl, rfl⟩

/-- Taking an answer is a turn of the call. -/
theorem Load.turned_take? {remote : Remote ω κ ρ} {world : ω} {load : Load κ} {turn : Turn α}
    (h : Load.take? source remote world c load = some turn) :
    ∃ action, Turned source c load.call action turn := by
  rw [Load.take?] at h
  obtain ⟨query, -, h⟩ := Option.bind_eq_some_iff.1 h
  cases hstage : load.stage with
  | listing lead =>
    rw [hstage] at h
    obtain ⟨answer, -, h⟩ := Option.bind_eq_some_iff.1 h
    obtain rfl := Option.some.inj h
    exact ⟨_, turned_acceptListing source c (show load.call.stage = _ from hstage) answer⟩
  | lookingUp lead =>
    rw [hstage] at h
    obtain ⟨answer, -, h⟩ := Option.bind_eq_some_iff.1 h
    obtain rfl := Option.some.inj h
    exact ⟨_, turned_acceptLookup source c (show load.call.stage = _ from hstage) answer⟩
  | start | awaitingFetch | awaitingLookup =>
    rw [hstage] at h
    cases h

/-- A load runs in one turn, or in two if it is answered at once. -/
theorem Load.ran_run (source : Source ρ α) (remote : Remote ω κ ρ) (world : ω) (c : Cache α)
    (load : Load κ) (cancelled : Bool) :
    Load.Ran source c load (load.run source remote world c cancelled).cache
      ((load.run source remote world c cancelled).poll.pending?.map (·.stage)) := by
  have hfirst : Turned source c load.call (.poll 0 : Action ρ α)
      (c.poll load.request load.stage cancelled) := turned_poll source c load.call _ cancelled
  cases hprogress : (c.poll load.request load.stage cancelled).progress with
  | finished result =>
    have hran := Load.Ran.once hfirst
    simpa only [Load.run, hprogress, Poll.pending?, Option.map_none, Progress.stage?] using hran
  | waiting stage =>
    obtain ⟨hstage, hrequest⟩ := Load.ask_stage remote world { load with stage }
    cases htake : Load.take? source remote (Load.ask remote world { load with stage }).1
        (c.poll load.request load.stage cancelled).cache
        (Load.ask remote world { load with stage }).2 with
    | none =>
      have hran := Load.Ran.once hfirst
      simp only [hprogress, Progress.stage?] at hran
      simpa only [Load.run, hprogress, htake, Poll.pending?, Option.map_some, hstage] using hran
    | some answered =>
      obtain ⟨action, hsecond⟩ := Load.turned_take? htake
      have hcall : (Load.ask remote world { load with stage }).2.call =
          { load.call with stage } := by
        simp only [Load.call, hstage, hrequest]
      rw [hcall] at hsecond
      have hran := Load.Ran.twice hfirst (by rw [hprogress]; rfl) hsecond
      cases hanswered : answered.progress with
      | finished result =>
        simpa only [Load.run, hprogress, htake, hanswered, Poll.pending?, Option.map_none,
          Progress.stage?] using hran
      | waiting stage =>
        simpa only [Load.run, hprogress, htake, hanswered, Poll.pending?, Option.map_some,
          Progress.stage?] using hran

/-- A load that is dropped takes its last turn, and nothing is left of it. -/
theorem Load.ran_abandon (source : Source ρ α) (c : Cache α) (load : Load κ) :
    Load.Ran source c load (c.abandon load.stage) ((none : Option (Load κ)).map (·.stage)) :=
  .once (turned_abandon source c load.call (.poll 0))

section Ran

variable {load : Load κ} {stage? : Option Stage} {lead : FetchLead}

theorem Load.Ran.descends (h : Load.Ran source c load c' stage?) : Descends c c' := by
  cases h with
  | once hturn => exact hturn.descends
  | twice hfirst _ hsecond => exact hfirst.descends.trans hsecond.descends

theorem Load.Ran.develops (h : Load.Ran source c load c' stage?) {R : α → α → Prop}
    {New : α → Prop} (hR : Upkeep source R)
    (hnew : ∀ record object, source.construct record = some object → New object) :
    Develops R New c.objects c'.objects := by
  cases h with
  | once hturn => exact hturn.develops hR hnew
  | twice hfirst _ hsecond =>
    exact (hfirst.develops hR hnew).trans hR.trans (hsecond.develops hR hnew)

/-- A load that goes on listing goes on as it was, or asks now. -/
theorem Load.Ran.listing (h : Load.Ran source c load c' stage?)
    (hstage : stage? = some (.listing lead)) :
    load.stage = .listing lead ∨ lead.generation ≤ c'.generation := by
  have hturn : ∀ {d : Cache α} {call : Call} {action : Action ρ α} {turn : Turn α},
      Turned source d call action turn → turn.progress.stage? = some (.listing lead) →
      call.stage = .listing lead ∨ lead.generation ≤ turn.cache.generation := by
    intro d call action turn hturn hwaits
    refine (hturn.listing_of_stage? hwaits).imp_right ?_
    rintro ⟨rfl, -⟩
    exact hturn.grown.generation
  cases h with
  | once hfirst => exact hturn hfirst hstage
  | twice hfirst hwaits hsecond =>
    rcases hturn hsecond hstage with rfl | hnew
    · exact (hturn hfirst hwaits).imp_right fun hle =>
        Nat.le_trans hle hsecond.grown.generation
    · exact .inr hnew

/-- A call that leads a listing waits on, or its listing ends. -/
theorem Turned.rests_of_listing {call : Call} {action : Action ρ α} {turn : Turn α} {stage : Stage}
    (hturn : Turned source c call action turn) (hstage : call.stage = .listing lead)
    (hwaits : turn.progress.stage? = some stage) : turn.cache = c ∧ stage = call.stage := by
  have hremote : call.stage.isRemote ≠ false := by rw [hstage]; exact Bool.noConfusion
  cases hturn with
  | rest => exact ⟨rfl, (Option.some.inj hwaits).symm⟩
  | joinFetch hlocal | joinLookup hlocal => exact absurd hlocal hremote
  | leadFetch hlocal | leadLookup hlocal => exact absurd hlocal hremote
  | listed =>
    rw [Turn.after, commitFetch_stage?] at hwaits
    cases hwaits
  | _ => cases hwaits

/-- What a listing of an older generation brings is not seen in the cache. -/
theorem Load.Ran.unseen (h : Load.Ran source c load c' stage?) (hstage : load.stage = .listing lead)
    (houtdated : lead.generation ≠ c.generation) : Unseen c c' := by
  have hcall : load.call.Outdated c := by
    rw [Call.Outdated, show load.call.stage = .listing lead from hstage]
    exact houtdated
  cases h with
  | once hturn =>
    have hunnoticed := hturn.unnoticed hcall
    exact ⟨hunnoticed.snapshot, hunnoticed.freshness, hunnoticed.generation, hunnoticed.objects⟩
  | @twice _ _ turn _ stage hfirst hwaits hsecond =>
    obtain ⟨hcache, rfl⟩ := hfirst.rests_of_listing hstage hwaits
    rw [hcache] at hsecond
    have hunnoticed := hsecond.unnoticed hcall
    exact ⟨hunnoticed.snapshot, hunnoticed.freshness, hunnoticed.generation, hunnoticed.objects⟩

end Ran

end Load

section Map

variable {β : Type}

/-- A cache with its objects seen as those of another type. -/
def map (f : α → β) (c : Cache α) : Cache β where
  config := c.config
  freshness := c.freshness
  generation := c.generation
  fetch := c.fetch
  lookups := c.lookups
  snapshot := c.snapshot
  objects := c.objects.map f
  fetchResults := c.fetchResults
  lookupResults := c.lookupResults

theorem object?_map (f : α → β) (c : Cache α) (ref : Ref) :
    (c.map f).object? ref = (c.object? ref).map f :=
  Array.getElem?_map

theorem Descends.map (h : c.Descends c') (f : α → β) : (c.map f).Descends (c'.map f) where
  config := h.config
  generation := h.generation
  objects := by simpa only [Cache.map, Array.size_map] using h.objects
  fetchResults := h.fetchResults
  lookupResults := h.lookupResults
  known ref href := by
    simpa only [Cache.Known, Cache.map, Array.size_map] using h.known ref href

theorem Unseen.map (h : c.Unseen c') (f : α → β) : (c.map f).Unseen (c'.map f) where
  snapshot := h.snapshot
  freshness := h.freshness
  generation := h.generation
  objects ref href := by
    have hlt : ref < c.objects.size := by simpa only [Cache.map, Array.size_map] using href
    rw [object?_map, object?_map, h.objects ref hlt]

/-- What a map does not show may change. -/
theorem map_modifyObject {f : α → β} {g : α → α} (h : ∀ object, f (g object) = f object)
    (c : Cache α) (ref : Ref) : (c.modifyObject ref g).map f = c.map f := by
  have hobjects : (c.objects.modify ref g).map f = c.objects.map f := by
    apply Array.ext_getElem?
    intro i
    rw [Array.getElem?_map, Array.getElem?_map, Array.getElem?_modify]
    split
    · rw [Option.map_map, show f ∘ g = f from funext h]
    · rfl
  simp only [modifyObject, map, hobjects]

end Map

end Cache

end CatalogBrowser
