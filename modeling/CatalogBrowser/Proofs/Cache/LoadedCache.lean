import CatalogBrowser.Proofs.Cache.Delivery
import CatalogBrowser.Proofs.Cache.ObjectLoad

/-!
# What a cache has in stock

A full load leaves a cache with the first object of each key, in the order of the listing, and with
an index of just these. Whoever asks for one object then is told from memory: it is there exactly if
some listed object has its key. Where nothing is cached, the remote side is asked for the one object
instead, and what it finds is handed out, whatever key it has.

## Main definitions

* `Stocked` - the whole collection is in memory: given objects, in order and under their keys.
* `Tells` - the answer to who asked for one object.
* `InFull`, `AllOrNothing` - a cache that is stocked, or that is either stocked or vacant.
* `Load.inquiring` - a load that asked the remote side for one object.

## Main statements

* `Stocked.objects`, `Stocked.tells` - what readers of a stocked cache are told.
* `stocked_acceptListing`, `stocked_set` - the ways to stock a cache.
* `Load.run_of_inquiring`, `Load.run_sought_of_free` - asking the remote side for one object.
* `Load.run_one_of_complete`, `Load.run_one_of_vacant`, `Load.run_inquiring` - reading one object.
-/

namespace CatalogBrowser.Cache

variable {ω κ ρ α : Type} {source : Source ρ α} {c : Cache α} {stock : List α}

section Stocked

/-- The whole collection is in memory: these objects, in this order and under their keys. -/
structure Stocked (source : Source ρ α) (stock : List α) (c : Cache α) : Prop where
  holds : c.Holds (fun _ object given => object = given) stock
  indexed : c.Indexed source

/-- An object that was asked for is given as an instance, and if there is none, nothing is. -/
def Tells (wanted : Option α) (c : Cache α) (found : Option Ref) : Prop :=
  found.map c.object? = wanted.map some

theorem Stocked.map_object? (h : c.Stocked source stock) :
    c.snapshot.entries.map c.object? = stock.map some := by
  have hstands := h.holds.stands
  clear h
  generalize c.snapshot.entries = refs at hstands ⊢
  induction hstands with
  | nil => rfl
  | cons hfirst _ ih =>
    obtain ⟨object, hobject, rfl⟩ := hfirst
    rw [List.map_cons, List.map_cons, hobject, ih]

/-- All objects are told in order. -/
theorem Stocked.objects (h : c.Stocked source stock) :
    c.cachedObjects.filterMap c.object? = stock := by
  calc c.cachedObjects.filterMap c.object?
      = (c.snapshot.entries.map c.object?).filterMap id := by
        rw [cachedObjects, if_pos h.holds.complete, List.filterMap_map]
        rfl
    _ = (stock.map some).filterMap id := by rw [h.map_object?]
    _ = stock := by simp [List.filterMap_map]

/-- The objects have pairwise distinct keys. -/
theorem Stocked.nodup (h : c.Stocked source stock) : (stock.map (c.objectKey source)).Nodup := by
  have hkeys : c.snapshot.entries.map (keyAt (c.objectKey source) c.objects) =
      (stock.map (c.objectKey source)).map some := by
    calc c.snapshot.entries.map (keyAt (c.objectKey source) c.objects)
        = (c.snapshot.entries.map c.object?).map (Option.map (c.objectKey source)) := by
          rw [List.map_map]
          rfl
      _ = (stock.map (c.objectKey source)).map some := by
          rw [h.map_object?, List.map_map, List.map_map]
          rfl
  exact (hkeys ▸ h.indexed.distinct.nodup).of_map

theorem Stocked.mem_iff (h : c.Stocked source stock) {object : α} :
    object ∈ stock ↔ ∃ ref ∈ c.snapshot.entries, c.object? ref = some object := by
  rw [← List.mem_map, h.map_object?]
  simp

/-- One object is told if its key is that of some object. -/
theorem Stocked.tells (h : c.Stocked source stock) (identity : Identity) :
    c.Tells (stock.find? (c.objectKey source · = c.key identity)) (c.cachedObject? identity) := by
  have hmember : ∀ {object}, stock.find? (c.objectKey source · = c.key identity) = some object ↔
      object ∈ stock ∧ c.objectKey source object = c.key identity :=
    Association.find?_eq_some_iff h.nodup
  cases hcached : c.cachedObject? identity with
  | some ref =>
    obtain ⟨href, hkey⟩ := h.indexed.find?_eq_some_iff.1 hcached
    obtain ⟨object, hobject, hsame⟩ := keyAt_eq_some_iff.1 hkey
    rw [hmember.2 ⟨h.mem_iff.2 ⟨ref, href, hobject⟩, hsame⟩]
    exact congrArg some hobject
  | none =>
    cases hfind : stock.find? (c.objectKey source · = c.key identity) with
    | none => rfl
    | some object =>
      obtain ⟨hmem, hkey⟩ := hmember.1 hfind
      obtain ⟨ref, href, hobject⟩ := h.mem_iff.1 hmem
      have hlisted : c.cachedObject? identity = some ref :=
        h.indexed.find?_eq_some_iff.2 ⟨href, keyAt_eq_some_iff.2 ⟨object, hobject, hkey⟩⟩
      rw [hcached] at hlisted
      cases hlisted

/-- A listing stocks a cache that holds nothing. -/
theorem stocked_acceptListing (hempty : c.snapshot = {}) {lead : FetchLead}
    (hcurrent : c.generation = lead.generation)
    (hmerge : KeepsKeys (c.objectKey source) source.merge) (records : List ρ) :
    (c.acceptListing source .all lead (.ok records)).cache.Stocked source
      (firstOfEach (c.objectKey source) (records.filterMap source.construct)) where
  holds := (acceptListing_of_nothing source hempty hcurrent records).2.1
  indexed := by
    have hindexed : c.Indexed source := by
      rw [Indexed, hempty]
      exact indexed_empty _ _
    exact (hindexed.commitFetch hmerge .all lead _).1

/-- A vacant cache that reads a listing is stocked with it. -/
theorem Vacant.stocked_read (h : c.Vacant) (hmerge : KeepsKeys (c.objectKey source) source.merge)
    (records : List ρ) :
    (c.read source (.ok records)).cache.config = c.config ∧
      (c.read source (.ok records)).cache.Stocked source
        (firstOfEach (c.objectKey source) (records.filterMap source.construct)) := by
  have hempty : c.withFetch.snapshot = {} := h.snapshot
  have hcurrent : c.withFetch.generation = c.nextFetch.generation := rfl
  obtain ⟨-, -, hcache⟩ := acceptListing_of_nothing source hempty hcurrent records
  refine ⟨?_, stocked_acceptListing hempty hcurrent hmerge records⟩
  rw [read, hcache]
  rfl

/-- Only the view and what it names matter. -/
theorem Holds.congr {β : Type} {P : Ref → α → β → Prop} {c' : Cache α} {records : List β}
    (h : c.Holds P records) (hsnapshot : c'.snapshot = c.snapshot)
    (hobjects : ∀ ref ∈ c.snapshot.entries, c'.object? ref = c.object? ref) :
    c'.Holds P records where
  complete := hsnapshot ▸ h.complete
  nodup := hsnapshot ▸ h.nodup
  stands := by
    rw [hsnapshot]
    refine forall₂_imp_of_mem h.stands ?_
    rintro ref href record ⟨object, hobject, hP⟩
    exact ⟨object, (hobjects ref href).trans hobject, hP⟩

/-- A cache is stocked with the objects that it is given. -/
theorem stocked_set (h : c.Indexed source) (fresh : List α) :
    (c.set source fresh).1.Stocked source (firstOfEach (c.objectKey source) fresh) where
  holds := by
    obtain ⟨hobjects, hentries, -⟩ := reconcile_of_nothing (c.objectKey source) (fun _ => true)
      (fun existing _ => existing) c.objects fresh
    set replaced : Cache α := { c with
      objects := (instantiate (c.objectKey source) c.objects fresh).objects
      snapshot := { c with
        objects := (instantiate (c.objectKey source) c.objects fresh).objects }.snapshotOf source
          (instantiate (c.objectKey source) c.objects fresh).entries true }
    have hholds : replaced.Holds (fun _ object given => object = given)
        (firstOfEach (c.objectKey source) fresh) := holds_of_range rfl hentries hobjects
    refine hholds.congr rfl fun ref href => evict_getElem? source fun hmem => ?_
    -- what is dropped was there before, and the new view names new instances only
    exact Nat.not_lt.2 (size_le_of_mem_instantiate href) (h.distinct.lt_size ref hmem)
  indexed := by
    have hkeeps : KeepsIdentity source { cache := c } (.edit (.set fresh)) := trivial
    exact indexed_edit h hkeeps

/-- In a cache of a configuration, all objects are in memory. -/
structure InFull (source : Source ρ α) (config : Config) (stock : List α) (c : Cache α) :
    Prop where
  config : c.config = config
  stocked : c.Stocked source stock

/-- In a cache of a configuration, either all objects are in memory or none. -/
structure AllOrNothing (source : Source ρ α) (config : Config) (stock : List α) (c : Cache α) :
    Prop where
  config : c.config = config
  contents : c.Vacant ∨ c.Stocked source stock

theorem InFull.allOrNothing {config : Config} (h : c.InFull source config stock) :
    c.AllOrNothing source config stock :=
  ⟨h.config, .inr h.stocked⟩

theorem AllOrNothing.inFull {config : Config} (h : c.AllOrNothing source config stock)
    (hcomplete : c.isFullyCached = true) : c.InFull source config stock := by
  refine ⟨h.config, h.contents.resolve_left fun hvacant => ?_⟩
  rw [isFullyCached, hvacant.not_complete] at hcomplete
  cases hcomplete

theorem AllOrNothing.indexed {config : Config} (h : c.AllOrNothing source config stock) :
    c.Indexed source := by
  rcases h.contents with hvacant | hstocked
  · rw [Indexed, hvacant.snapshot]
    exact indexed_empty _ _
  · exact hstocked.indexed

end Stocked

namespace Load

variable {remote : Remote ω κ ρ} {world world' : ω} {identity : Identity} {query : κ}
  {cancelled : Bool}

/-- A load that asked the remote side for one object. -/
def inquiring (identity : Identity) (lead : LookupLead) (query : κ) : Load κ where
  request := .one identity
  stage := .lookingUp lead
  query := some query

/-- What becomes of a cache when its inquiry is answered. -/
def informed (c : Cache α) (source : Source ρ α) (identity : Identity)
    (answer : Except ConnectionError (Option ρ)) : Turn α :=
  (c.withLookup identity).acceptLookup source (c.nextLookup identity) answer

/-- A complete cache tells from memory whether it has an object. -/
theorem run_one_of_complete (source : Source ρ α) (remote : Remote ω κ ρ) (world : ω)
    (h : c.snapshot.complete = true) (identity : Identity) (cancelled : Bool) :
    let turn := Load.run source remote world c (sought identity) cancelled
    turn.world = world ∧ turn.cache = c ∧
      turn.poll = .finished (.ok (.object (c.cachedObject? identity))) := by
  cases hcached : c.cachedObject? identity <;> simp [Load.run, sought, poll, enter, h, hcached]

/-- An object that is in memory is told without asking for it. -/
theorem run_sought_of_cached (source : Source ρ α) (remote : Remote ω κ ρ) (world : ω) {ref : Ref}
    (h : c.cachedObject? identity = some ref) (cancelled : Bool) :
    let turn := Load.run source remote world c (sought identity) cancelled
    turn.world = world ∧ turn.cache = c ∧ turn.poll = .finished (.ok (.object (some ref))) := by
  simp [Load.run, sought, poll, enter, h]

theorem finished_acceptLookup (source : Source ρ α) (c : Cache α) (lead : LookupLead)
    (answer : Except ConnectionError (Option ρ)) :
    ∃ result, (c.acceptLookup source lead answer).progress = .finished result := by
  cases answer with
  | error error => exact ⟨_, rfl⟩
  | ok record => exact ⟨_, acceptLookup_progress source c lead record⟩

/-- A load that leads a lookup takes the answer if there is one. -/
theorem run_of_inquiring (source : Source ρ α) (load : Load κ) {lead : LookupLead}
    (h : (c.poll load.request load.stage cancelled).progress = .waiting (.lookingUp lead))
    (hask : ask remote world { load with stage := .lookingUp lead } =
      (world', inquiring identity lead query)) :
    let turn := load.run source remote world c cancelled
    let asked := (c.poll load.request load.stage cancelled).cache
    turn.world = world' ∧
      ((remote.found? world' query = none ∧ turn.cache = asked ∧
        turn.poll = .waiting (inquiring identity lead query)) ∨
      ∃ answer result, remote.found? world' query = some answer ∧
        (asked.acceptLookup source lead answer).progress = .finished result ∧
        turn.cache = (asked.acceptLookup source lead answer).cache ∧
        turn.poll = .finished result) := by
  intro turn asked
  have htake : take? source remote world' asked (inquiring identity lead query) =
      (remote.found? world' query).map (asked.acceptLookup source lead) := by
    rw [take?, Option.map_eq_bind]
    rfl
  cases hfound : remote.found? world' query with
  | none =>
    rw [hfound, Option.map_none] at htake
    simp only [turn, asked, run, h, hask, htake, and_self, true_or]
  | some answer =>
    obtain ⟨result, hresult⟩ := finished_acceptLookup source asked lead answer
    rw [hfound, Option.map_some] at htake
    simp only [turn, run, h, hask]
    simp only [asked] at htake hresult
    simp only [htake, hresult, true_and]
    exact .inr ⟨answer, result, rfl, hresult, rfl, rfl⟩

/-- A load that asked for one object takes the answer. -/
theorem run_inquiring (source : Source ρ α) {answer : Except ConnectionError (Option ρ)}
    (hanswers : remote.found? world query = some answer) {result : Result}
    (hresult : (informed c source identity answer).progress = .finished result) :
    let turn := Load.run source remote world (c.withLookup identity)
      (inquiring identity (c.nextLookup identity) query) false
    turn.world = world ∧ turn.cache = (informed c source identity answer).cache ∧
      turn.poll = .finished result := by
  intro turn
  set load : Load κ := inquiring identity (c.nextLookup identity) query
  have hwaits : ((c.withLookup identity).poll load.request load.stage false).progress =
      .waiting (.lookingUp (c.nextLookup identity)) := rfl
  have hask : Load.ask remote world load = (world, load) := rfl
  obtain ⟨hworld, ⟨hnone, -⟩ | ⟨answer', result', hsome, hended, hcache, hpoll⟩⟩ :=
    run_of_inquiring source load hwaits hask
  · rw [hanswers] at hnone
    cases hnone
  · obtain rfl := Option.some.inj (hanswers.symm.trans hsome)
    obtain rfl := Progress.finished.inj (hresult.symm.trans hended)
    exact ⟨hworld, hcache, hpoll⟩

/-- A load that finds nothing in memory and nobody at work asks for the one object. -/
theorem poll_sought_of_free (hmissing : c.cachedObject? identity = none)
    (hcomplete : c.snapshot.complete = false) (hfetch : c.fetch = none)
    (hlookups : c.lookups = []) (cancelled : Bool) :
    c.poll (.one identity) .start cancelled = c.leadLookup identity cancelled := by
  simp [poll, enter, hmissing, hcomplete, hfetch, hlookups]

/-- A load that finds nothing in memory and nobody at work asks for the one object, and takes the
answer if there is one already. -/
theorem run_sought_of_free (source : Source ρ α) (hmissing : c.cachedObject? identity = none)
    (hcomplete : c.snapshot.complete = false) (hfetch : c.fetch = none) (hlookups : c.lookups = [])
    (hasks : remote.lookup world identity = (world', query)) :
    let turn := Load.run source remote world c (sought identity) false
    turn.world = world' ∧
      ((remote.found? world' query = none ∧ turn.cache = c.withLookup identity ∧
        turn.poll = .waiting (inquiring identity (c.nextLookup identity) query)) ∨
      ∃ answer result, remote.found? world' query = some answer ∧
        (informed c source identity answer).progress = .finished result ∧
        turn.cache = (informed c source identity answer).cache ∧
        turn.poll = .finished result) := by
  intro turn
  set load : Load κ := sought identity
  have hpoll : c.poll load.request load.stage false = c.leadLookup identity false :=
    poll_sought_of_free hmissing hcomplete hfetch hlookups false
  have hwaits : (c.poll load.request load.stage false).progress =
      .waiting (.lookingUp (c.nextLookup identity)) := by
    rw [hpoll]
    rfl
  have hasked : (c.poll load.request load.stage false).cache = c.withLookup identity := by
    rw [hpoll]
    rfl
  have hask : Load.ask remote world { load with stage := .lookingUp (c.nextLookup identity) } =
      (world', inquiring identity (c.nextLookup identity) query) := by
    simp only [load, sought, Load.ask, Load.identity, hasks]
    rfl
  have hrun := run_of_inquiring source load hwaits hask
  rw [hasked] at hrun
  exact hrun

/-- A vacant cache asks for the one object, and takes the answer if there is one already. -/
theorem run_one_of_vacant (source : Source ρ α) (hvacant : c.Vacant) (hlookups : c.lookups = [])
    (hasks : remote.lookup world identity = (world', query)) :
    let turn := Load.run source remote world c (sought identity) false
    turn.world = world' ∧
      match remote.found? world' query with
      | none => turn.cache = c.withLookup identity ∧
          turn.poll = .waiting (inquiring identity (c.nextLookup identity) query)
      | some answer => turn.cache = (informed c source identity answer).cache ∧
          ∀ result, (informed c source identity answer).progress = .finished result →
            turn.poll = .finished result := by
  intro turn
  have hmissing : c.cachedObject? identity = none := by
    rw [cachedObject?, hvacant.snapshot]
    rfl
  obtain ⟨hworld, hanswered⟩ :=
    run_sought_of_free source hmissing hvacant.not_complete hvacant.fetch hlookups hasks
  refine ⟨hworld, ?_⟩
  rcases hanswered with ⟨hnone, hcache, hwaits⟩ | ⟨answer, result, hsome, hended, hcache, hends⟩
  · rw [hnone]
    exact ⟨hcache, hwaits⟩
  · rw [hsome]
    refine ⟨hcache, fun result' hresult => ?_⟩
    obtain rfl := Progress.finished.inj (hresult.symm.trans hended)
    exact hends

/-- What is found and not cached becomes a new instance, whether or not it will be cached. -/
theorem commitLookup_objects (source : Source ρ α) (c : Cache α) (lead : LookupLead) {object : α}
    (hfree : c.snapshot.find? (c.objectKey source object) = none) :
    (c.commitLookup source lead object).2.1.objects = c.objects.push object := by
  simp only [commitLookup, hfree]
  split
  · rfl
  · split <;> rfl

/-- What the remote side finds is told. -/
theorem tells_informed (source : Source ρ α) (hempty : c.snapshot = {}) (identity : Identity)
    (record : Option ρ) : ∃ found,
      (informed c source identity (.ok record)).progress = .finished (.ok (.object found)) ∧
        (informed c source identity (.ok record)).cache.Tells (record.bind source.construct)
          found := by
  refine ⟨_, acceptLookup_progress source _ _ record, ?_⟩
  cases hobject : record.bind source.construct with
  | none => simp [Tells, delivered, hobject]
  | some object =>
    set asked : Cache α := c.withLookup identity
    have hfree : asked.snapshot.find? (asked.objectKey source object) = none := by
      rw [show asked.snapshot = {} from hempty]
      rfl
    have hobjects : (informed c source identity (.ok record)).cache.objects =
        c.objects.push object := by
      simp only [informed, acceptLookup, hobject]
      exact commitLookup_objects source (asked.releaseLookup _) _ hfree
    rw [Tells, delivered, hobject, Option.map_some, hfree, Option.getD_none, Option.map_some,
      object?, hobjects]
    exact congrArg some Array.getElem?_push_size

end Load

end CatalogBrowser.Cache
