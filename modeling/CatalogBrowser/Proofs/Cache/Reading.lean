import CatalogBrowser.Cache.Load
import CatalogBrowser.Proofs.Cache.Effect

/-!
# Reading a cache

A load that is not cancelled takes from a complete cache what is there. For a vacant cache it asks
the remote side for a listing, and once that is answered, it fills the cache with one instance for
the first object of each key.

## Main definitions

* `Pristine`, `Vacant` - a cache that nobody has used yet, or that holds nothing at the moment.
* `Holds` - a complete cache whose entries stand for the members of a list, one by one.

## Main statements

* `Load.run_all_of_complete`, `Load.run_all_of_vacant`, `Load.run_asked` - reading a whole
  collection, with or without a wait for the answer.
* `Vacant.read_ok`, `read_error` - what the answer makes of the cache.
* `Holds.objects` - what a reader sees in a cache.
-/

namespace CatalogBrowser.Cache

variable {ω κ ρ α β : Type} {source : Source ρ α}

/-- A cache that nobody has used yet. -/
def Pristine (c : Cache α) : Prop :=
  c = { config := c.config }

/-- A cache that holds nothing, and that is not being filled. -/
structure Vacant (c : Cache α) : Prop where
  snapshot : c.snapshot = {}
  fetch : c.fetch = none

theorem Pristine.vacant {c : Cache α} (h : c.Pristine) : c.Vacant := by
  rw [show c = _ from h]
  exact ⟨rfl, rfl⟩

theorem Vacant.not_complete {c : Cache α} (h : c.Vacant) : c.snapshot.complete = false := by
  rw [h.snapshot]

/-- The cache is complete, and its entries stand for the records, one by one in order. -/
structure Holds (P : Ref → α → β → Prop) (c : Cache α) (records : List β) : Prop where
  complete : c.snapshot.complete = true
  nodup : c.snapshot.entries.Nodup
  stands : List.Forall₂ (fun ref record => ∃ object, c.object? ref = some object ∧
    P ref object record) c.snapshot.entries records

section FirstOfEach

variable {key : α → Key}

/-- Duplicates may be left out before or after objects are made of records. -/
theorem unseen_map (f : β → α) (seen : List Key) (records : List β) :
    unseen key seen (records.map f) = (unseen (key ∘ f) seen records).map f := by
  induction records generalizing seen with
  | nil => rfl
  | cons record rest ih =>
    rw [List.map_cons, unseen, unseen, Function.comp_apply]
    by_cases hseen : key (f record) ∈ seen
    · rw [if_pos hseen, if_pos hseen, ih]
    · rw [if_neg hseen, if_neg hseen, ih, List.map_cons]

theorem firstOfEach_map (f : β → α) (records : List β) :
    firstOfEach key (records.map f) = (firstOfEach (key ∘ f) records).map f :=
  unseen_map f [] records

/-- Where nothing is cached, the first object of each key becomes a new instance. -/
theorem absorb_of_nothing (merge : α → α → α) (objects : Array α) (seen : List Key)
    (fresh : List α) :
    (absorb key merge objects [] seen fresh).objects =
        objects ++ (unseen key seen fresh).toArray ∧
      (absorb key merge objects [] seen fresh).entries =
        List.range' objects.size (unseen key seen fresh).length := by
  induction fresh generalizing objects seen with
  | nil => simp [absorb, unseen]
  | cons object rest ih =>
    rw [absorb, unseen]
    by_cases hseen : key object ∈ seen
    · simp only [if_pos hseen]
      exact ih objects seen
    · simp only [if_neg hseen, List.lookup_nil]
      obtain ⟨hobjects, hentries⟩ := ih (objects.push object) (key object :: seen)
      constructor
      · rw [hobjects, Array.push_eq_append, Array.append_assoc]
        simp
      · rw [hentries, Array.size_push, List.length_cons, List.range'_succ]

theorem reconcile_of_nothing (key : α → Key) (isPersisted : α → Bool) (merge : α → α → α)
    (objects : Array α) (fresh : List α) :
    (reconcile key isPersisted merge objects [] fresh).objects =
        objects ++ (firstOfEach key fresh).toArray ∧
      (reconcile key isPersisted merge objects [] fresh).entries =
        List.range' objects.size (firstOfEach key fresh).length ∧
      (reconcile key isPersisted merge objects [] fresh).changes.removed = [] := by
  have hobjects : (absorb key merge objects [] [] fresh).objects = _ :=
    (absorb_of_nothing merge objects [] fresh).1
  have hentries : (absorb key merge objects [] [] fresh).entries = _ :=
    (absorb_of_nothing merge objects [] fresh).2
  refine ⟨?_, ?_, by simp [reconcile, keyed]⟩
  · simpa [reconcile, keyed, firstOfEach] using hobjects
  · simpa [reconcile, keyed, firstOfEach] using hentries

end FirstOfEach

section Holds

variable {P Q : Ref → α → β → Prop} {c : Cache α} {records : List β}

/-- What a reader sees in a cache. -/
theorem Holds.objects (h : c.Holds P records) :
    List.Forall₂ (fun object record => ∃ ref, P ref object record)
      (c.cachedObjects.filterMap c.object?) records := by
  rw [cachedObjects, if_pos h.complete]
  have hstands := h.stands
  clear h
  generalize c.snapshot.entries = refs at hstands ⊢
  induction hstands with
  | nil => exact .nil
  | @cons ref record refs records hfirst _ ih =>
    obtain ⟨object, hobject, hP⟩ := hfirst
    rw [List.filterMap_cons_some hobject]
    exact .cons ⟨ref, hP⟩ ih

/-- A complete cache of instances that were all made at once. -/
theorem holds_of_range {prior : Array α} {objects : List α}
    (hcomplete : c.snapshot.complete = true)
    (hentries : c.snapshot.entries = List.range' prior.size objects.length)
    (hobjects : c.objects = prior ++ objects.toArray) :
    c.Holds (fun _ object given => object = given) objects where
  complete := hcomplete
  nodup := hentries ▸ List.nodup_range'
  stands := by
    rw [hentries, List.forall₂_iff_get]
    refine ⟨List.length_range', fun i hi hlt => ⟨objects[i], ?_, rfl⟩⟩
    rw [object?, hobjects, List.get_eq_getElem, List.getElem_range', Nat.one_mul,
      Array.getElem?_append_right (Nat.le_add_right _ _), Nat.add_sub_cancel_left]
    simp

/-- Whatever holds of an instance and its record may be replaced by what follows from it. -/
theorem Holds.imp (h : c.Holds P records) (himp : ∀ ref object record,
    ref ∈ c.snapshot.entries → record ∈ records → P ref object record → Q ref object record) :
    c.Holds Q records where
  complete := h.complete
  nodup := h.nodup
  stands := by
    have hmember : List.Forall₂ (fun record ref => ref ∈ c.snapshot.entries ∧
        ∃ object, c.object? ref = some object ∧ P ref object record) records c.snapshot.entries :=
      (forall₂_imp_of_mem h.stands fun _ href _ hP => ⟨href, hP⟩).flip
    refine (forall₂_imp_of_mem hmember ?_).flip
    rintro record hrecord ref ⟨href, object, hobject, hP⟩
    exact ⟨object, hobject, himp ref object record href hrecord hP⟩

/-- Records may be replaced by what they are made from. -/
theorem holds_map_iff {γ : Type} {f : γ → β} {others : List γ} : c.Holds P (others.map f) ↔
    c.Holds (fun ref object other => P ref object (f other)) others :=
  ⟨fun h => ⟨h.complete, h.nodup, List.forall₂_map_right_iff.1 h.stands⟩,
    fun h => ⟨h.complete, h.nodup, List.forall₂_map_right_iff.2 h.stands⟩⟩

/-- Where every record makes an object, the records may stand for their objects. -/
theorem Holds.of_construct {ρ : Type} {source : Source ρ α} {c c' : Cache α} {make : ρ → α}
    {key : ρ → Key} (hmake : source.construct = some ∘ make)
    (hkey : c.objectKey source ∘ make = key) {records : List ρ}
    (h : c'.Holds (fun _ object given => object = given)
      (firstOfEach (c.objectKey source) (records.filterMap source.construct))) :
    c'.Holds (fun _ object record => object = make record) (firstOfEach key records) := by
  rw [hmake, List.filterMap_eq_map, firstOfEach_map, hkey] at h
  exact holds_map_iff.1 h

end Holds

section Load

variable {c : Cache α} {remote : Remote ω κ ρ} {world world' : ω} {query : κ}

/-- A complete cache is read from memory, even by who is cancelled. -/
theorem Load.run_all_of_complete (source : Source ρ α) (remote : Remote ω κ ρ) (world : ω)
    (h : c.snapshot.complete = true) (cancelled : Bool) :
    let turn := Load.run source remote world c { request := .all } cancelled
    turn.world = world ∧ turn.cache = c ∧
      turn.poll = .finished (.ok (.objects c.snapshot.entries)) := by
  simp [Load.run, poll, enter, h]

/-- The load of a vacant cache that has asked for a listing. -/
def asked (c : Cache α) (query : κ) : Load κ where
  request := .all
  stage := .listing c.nextFetch
  query := some query

/-- What becomes of a vacant cache when its listing is answered. -/
def read (c : Cache α) (source : Source ρ α) (answer : Except ConnectionError (List ρ)) : Turn α :=
  c.withFetch.acceptListing source .all c.nextFetch answer

/-- A listing that is answered ends the load that leads it. -/
theorem finished_acceptListing (source : Source ρ α) (c : Cache α) (request : Request)
    (lead : FetchLead) (answer : Except ConnectionError (List ρ)) :
    ∃ result, (c.acceptListing source request lead answer).progress = .finished result := by
  cases answer with
  | error error => exact ⟨_, rfl⟩
  | ok records =>
    simp only [acceptListing, Turn.after, commitFetch]
    split <;> exact ⟨_, rfl⟩

/-- A load that waits for a listing takes the answer. -/
theorem Load.run_listing (source : Source ρ α) (c : Cache α) (request : Request) (lead : FetchLead)
    {answer : Except ConnectionError (List ρ)}
    (hanswers : remote.listing? world query = some answer) :
    Load.run source remote world c { request, stage := .listing lead, query := some query } false =
      let turn := c.acceptListing source request lead answer
      { world, cache := turn.cache, events := turn.events
        poll := match turn.progress with
          | .finished result => .finished result
          | .waiting stage => .waiting { request, stage, query := some query } } := by
  have htake : Load.take? source remote world c
      { request, stage := .listing lead, query := some query } =
        some (c.acceptListing source request lead answer) := by
    simp only [Load.take?, hanswers, Option.bind_eq_bind, Option.bind_some, Option.pure_def]
  obtain ⟨result, hresult⟩ := finished_acceptListing source c request lead answer
  simp only [Load.run, poll, Load.ask, htake, hresult, List.nil_append, Bool.false_eq_true,
    if_false]

/-- A vacant cache that asked for a listing is filled by the answer. -/
theorem Load.run_asked (source : Source ρ α) {answer : Except ConnectionError (List ρ)}
    (hanswers : remote.listing? world query = some answer) {result : Result}
    (hresult : (c.read source answer).progress = .finished result) :
    let turn := Load.run source remote world c.withFetch (c.asked query) false
    turn.world = world ∧ turn.cache = (c.read source answer).cache ∧
      turn.poll = .finished result := by
  have hpoll : c.withFetch.poll (c.asked query).request (c.asked query).stage false =
      { cache := c.withFetch, progress := .waiting (.listing c.nextFetch) } := rfl
  have hask : Load.ask remote world { c.asked query with stage := .listing c.nextFetch } =
      (world, c.asked query) := rfl
  have htake : (c.asked query).take? source remote world c.withFetch =
      some (c.read source answer) := by
    simp [Load.take?, asked, hanswers, read]
  simp only [Load.run, hpoll, hask, htake, hresult, and_self]

/-- A vacant cache asks for a listing, and takes the answer if there is one already. -/
theorem Load.run_all_of_vacant (source : Source ρ α) (hvacant : c.Vacant)
    (hasks : remote.list world = (world', query)) :
    let turn := Load.run source remote world c { request := .all } false
    turn.world = world' ∧
      match remote.listing? world' query with
      | none => turn.cache = c.withFetch ∧ turn.poll = .waiting (c.asked query)
      | some answer => turn.cache = (c.read source answer).cache ∧
          ∀ result, (c.read source answer).progress = .finished result →
            turn.poll = .finished result := by
  have hpoll : (c.poll .all .start false).progress = .waiting (.listing c.nextFetch) ∧
      (c.poll .all .start false).cache = c.withFetch := by
    simp only [poll, enter, hvacant.not_complete, Bool.false_eq_true, if_false, fetchOrJoin,
      hvacant.fetch]
    exact ⟨rfl, rfl⟩
  have hask : Load.ask remote world { request := .all, stage := .listing c.nextFetch } =
      (world', c.asked query) := by
    simp only [Load.ask, hasks]
    rfl
  have htake : (c.asked query).take? source remote world' c.withFetch =
      (remote.listing? world' query).map (c.read source) := by
    rw [Load.take?, Option.map_eq_bind]
    rfl
  simp only [Load.run, hpoll, hask, htake]
  cases remote.listing? world' query with
  | none => exact ⟨rfl, rfl, rfl⟩
  | some answer => exact ⟨rfl, rfl, fun result hresult => by simp only [Option.map_some, hresult]⟩

/-- A listing fills a cache that holds nothing with the first object of each key. -/
theorem acceptListing_of_nothing (source : Source ρ α) (hempty : c.snapshot = {}) {lead : FetchLead}
    (hcurrent : c.generation = lead.generation) (records : List ρ) :
    let turn := c.acceptListing source .all lead (.ok records)
    let fresh := firstOfEach (c.objectKey source) (records.filterMap source.construct)
    turn.progress = .finished (.ok (.objects turn.cache.snapshot.entries)) ∧
      turn.cache.Holds (fun _ object given => object = given) fresh ∧
      turn.cache = { c with
        fetch := none
        freshness := .loaded
        snapshot := turn.cache.snapshot
        objects := c.objects ++ fresh.toArray
        fetchResults := c.fetchResults.resolve lead.promise (.ok turn.cache.snapshot) } := by
  intro turn fresh
  obtain ⟨hobjects, hentries, hremoved⟩ := reconcile_of_nothing (c.objectKey source)
    source.isPersisted source.merge c.objects (records.filterMap source.construct)
  have hmerged : c.merged source (records.filterMap source.construct) =
      reconcile (c.objectKey source) source.isPersisted source.merge c.objects []
        (records.filterMap source.construct) := by
    rw [merged, hempty]
  have haccepted : turn.cache = _ := commitFetch_of_current hcurrent
  have hview : turn.cache.snapshot =
      c.mergedView source (records.filterMap source.construct) := by
    rw [haccepted]
  have hfilled : turn.cache.objects = c.objects ++ fresh.toArray := by
    rw [haccepted, hmerged, hremoved]
    exact hobjects
  refine ⟨?_, holds_of_range ?_ ?_ hfilled, ?_⟩
  · rw [hview]
    exact commitFetch_progress_of_current hcurrent
  · rw [hview]
    rfl
  · rw [hview, ← hentries, ← hmerged]
    rfl
  · rw [← hfilled, hview, haccepted]

/-- A vacant cache is filled with the first object of each key. -/
theorem Vacant.read_ok (h : c.Vacant) (source : Source ρ α) (records : List ρ) :
    let turn := c.read source (.ok records)
    turn.progress = .finished (.ok (.objects turn.cache.snapshot.entries)) ∧
      turn.cache.Holds (fun _ object given => object = given)
        (firstOfEach (c.objectKey source) (records.filterMap source.construct)) := by
  obtain ⟨hfinished, hholds, -⟩ := acceptListing_of_nothing source
    (show c.withFetch.snapshot = {} from h.snapshot)
    (show c.withFetch.generation = c.nextFetch.generation from rfl) records
  exact ⟨hfinished, hholds⟩

/-- If the remote side fails, so does the load. -/
theorem read_error (c : Cache α) (source : Source ρ α) (error : ConnectionError) :
    (c.read source (.error error)).progress = .finished (.error (.remoteFetch c.name error)) :=
  rfl

end Load

end CatalogBrowser.Cache
