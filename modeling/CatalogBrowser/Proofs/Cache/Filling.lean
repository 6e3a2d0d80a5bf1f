import CatalogBrowser.Proofs.Cache.ObjectLoad
import CatalogBrowser.Proofs.Cache.PendingLoads

/-!
# Filling a cache that was at rest

Where nobody does anything else with a cache than to read it, there is little that can become of it.
It is as it was, or somebody has asked for a listing, or it was empty and holds a listing now. A
load that fails or is dropped takes the cache back to what it was, whoever else waits for it.

## Main definitions

* `Intact` - a cache that is as it was, but for the record of what was asked.
* `Filling` - what became of a cache that was at rest, with the loads that are under way on it.

## Main statements

* `Filling.run` - a load leaves it so, and if it succeeds, then with what the cache holds now.
* `Filling.abandon` - so does a load that is dropped.
-/

namespace CatalogBrowser

/-- A task that ended with an error. -/
def Poll.Fails {σ ε β : Type} (poll : Poll σ (Except ε β)) : Prop :=
  ∃ error, poll = .finished (.error error)

theorem Poll.not_fails_waiting {σ ε β : Type} (state : σ) :
    ¬(.waiting state : Poll σ (Except ε β)).Fails := by
  rintro ⟨error, h⟩
  cases h

theorem Poll.not_fails_ok {σ ε β : Type} (result : β) :
    ¬(.finished (.ok result) : Poll σ (Except ε β)).Fails := by
  rintro ⟨error, h⟩
  cases h

namespace Cache

variable {ω ρ α β : Type}

/-- The cache is as it was, but for the record of what was asked. -/
def Intact (b c : Cache β) : Prop :=
  c = { b with fetchResults := c.fetchResults, lookupResults := c.lookupResults }

/-- A load of the whole collection or of one object, as it is between its runs. -/
def Load.Plain {κ : Type} (load : Load κ) : Prop :=
  load.Bulk ∨ load.Single

theorem Load.Plain.isRemote_or_leading {κ : Type} {load : Load κ} (h : load.Plain) :
    load.stage.isRemote = false ∨ ∃ lead query, load = leading lead query := by
  rcases h with hbulk | hsingle
  · cases hbulk with
    | unrun | joined => exact .inl rfl
    | leading lead query => exact .inr ⟨lead, query, rfl⟩
  · exact .inl hsingle.isRemote

/-- What the remote side may answer to a load: to its query, or to one that it asks now. -/
def Load.Answered {κ : Type} (remote : Remote ω κ ρ) (world : ω) (load : Load κ)
    (records : List ρ) : Prop :=
  (∃ lead query, load = leading lead query ∧ remote.listing? world query = some (.ok records)) ∨
    remote.listing? (remote.list world).1 (remote.list world).2 = some (.ok records)

/-- What became of a cache that was at rest, with the listing that is under way. Nobody asks twice
unless somebody fails. -/
inductive Stand (identity : β → Identity) (fails : Prop) (Listed : List β → Prop) (b : Cache β)
    (leads : List FetchLead) (c : Cache β) : Prop
  /-- It is as it was. -/
  | kept : b.Intact c → leads = [] → (¬fails → c.fetchResults.size = b.fetchResults.size) →
      Stand identity fails Listed b leads c
  /-- Somebody has asked for a listing. -/
  | asked {promise : Nat} : b.snapshot.complete = false →
      b.Intact { c with fetch := none, freshness := b.freshness } →
      c.fetch = some { generation := b.generation, promise } →
      leads = [{ promise, generation := b.generation, prior := b.freshness }] →
      c.fetchResults.Open promise → b.fetchResults.size ≤ promise →
      (¬fails → c.fetchResults.size = b.fetchResults.size + 1) →
      Stand identity fails Listed b leads c
  /-- It holds a listing. -/
  | filled {rows : List β} : b.snapshot.complete = false → Listed rows →
      c.Holds (fun _ row given => row = given)
        (firstOfEach (fun row => b.key (identity row)) rows) →
      c.fetch = none → c.lookups = [] → c.freshness = .loaded → leads = [] →
      (¬fails → c.fetchResults.size = b.fetchResults.size + 1) →
      Stand identity fails Listed b leads c

/-- What became of a cache that was at rest, with the loads that are under way on it. -/
structure Filling (identity : β → Identity) (reach fails : Prop) (Listed : List β → Prop)
    (b : Cache β) (stages : List Stage) (c : Cache β) : Prop where
  stand : Stand identity fails Listed b (stages.filterMap Stage.fetchLead?) c
  /-- Who is out of reach is not touched. -/
  reached : ¬reach → c = b
  grown : b.fetchResults.size ≤ c.fetchResults.size
  /-- Nobody waits for a listing of before. -/
  waits : ∀ promise current, .awaitingFetch promise current ∈ stages →
    current = true ∧ b.fetchResults.size ≤ promise
  /-- Who waited for a listing learns what the cache holds. -/
  told : ∀ promise snapshot, b.fetchResults.size ≤ promise →
    c.fetchResults.result? promise = some (.ok snapshot) →
    c.snapshot = snapshot ∧ snapshot.complete = true

section Intact

variable {b c : Cache β}

theorem Intact.refl (b : Cache β) : b.Intact b := rfl

theorem Intact.fetch (h : b.Intact c) : c.fetch = b.fetch := by rw [show c = _ from h]

theorem Intact.snapshot (h : b.Intact c) : c.snapshot = b.snapshot := by rw [show c = _ from h]

theorem Intact.freshness (h : b.Intact c) : c.freshness = b.freshness := by rw [show c = _ from h]

theorem Intact.generation (h : b.Intact c) : c.generation = b.generation := by
  rw [show c = _ from h]

theorem Intact.lookups (h : b.Intact c) : c.lookups = b.lookups := by rw [show c = _ from h]

theorem Intact.config (h : b.Intact c) : c.config = b.config := by rw [show c = _ from h]

theorem Intact.rests (h : b.Intact c) (hb : b.Resting) : c.Resting where
  fetch := h.fetch.trans hb.fetch
  lookups := h.lookups.trans hb.lookups
  freshness := by
    rw [h.freshness, settled, h.snapshot]
    exact hb.freshness
  whole := by
    rw [Whole, h.snapshot]
    exact hb.whole

end Intact

/-- What a cache holds may be seen through a map. -/
theorem Holds.map {c : Cache α} {objects : List α}
    (h : c.Holds (fun _ object given => object = given) objects) (f : α → β) :
    (c.map f).Holds (fun _ row given => row = given) (objects.map f) where
  complete := h.complete
  nodup := h.nodup
  stands := by
    refine List.forall₂_map_right_iff.2 (h.stands.imp ?_)
    rintro ref object ⟨object', hobject, rfl⟩
    exact ⟨f object', by rw [object?_map, hobject, Option.map_some], rfl⟩

/-- The first object of each key is found by its row as well. -/
theorem map_firstOfEach {c : Cache α} {b : Cache β} {row : α → β} {identity : β → Identity}
    {source : Source ρ α} (hconfig : c.config = b.config)
    (hidentity : ∀ object, identity (row object) = source.identity object) (objects : List α) :
    (firstOfEach (c.objectKey source) objects).map row =
      firstOfEach (fun row => b.key (identity row)) (objects.map row) := by
  have hkey : (fun row => b.key (identity row)) ∘ row = c.objectKey source := by
    funext object
    rw [Function.comp_apply, hidentity, objectKey, key, key, hconfig]
  rw [firstOfEach_map row objects, hkey]

namespace Filling

variable {identity : β → Identity} {reach fails fails' : Prop} {Listed Listed' : List β → Prop}
  {b c : Cache β} {stages stages' before behind : List Stage}

theorem imp (h : Filling identity reach fails Listed b stages c) (hfails : fails → fails')
    (hlisted : ∀ rows, Listed rows → Listed' rows) :
    Filling identity reach fails' Listed' b stages c where
  stand := by
    cases h.stand with
    | kept hkept hleads hsize => exact .kept hkept hleads fun hnot => hsize (hnot ∘ hfails)
    | asked hincomplete hkept hfetch hleads hopen hnew hsize =>
      exact .asked hincomplete hkept hfetch hleads hopen hnew fun hnot => hsize (hnot ∘ hfails)
    | @filled rows hincomplete hrows hholds hfetch hlookups hfreshness hleads hsize =>
      exact .filled hincomplete (hlisted rows hrows) hholds hfetch hlookups hfreshness hleads
        fun hnot => hsize (hnot ∘ hfails)
  reached := h.reached
  grown := h.grown
  waits := h.waits
  told := h.told

theorem mono (h : Filling identity reach fails Listed b stages c) (hfails : fails → fails') :
    Filling identity reach fails' Listed b stages c :=
  h.imp hfails fun _ => id

/-- It does not matter who else is there, as long as they do not ask. -/
theorem of_stages (h : Filling identity reach fails Listed b stages c)
    (hleads : stages'.filterMap Stage.fetchLead? = stages.filterMap Stage.fetchLead?)
    (hwaits : ∀ promise current, .awaitingFetch promise current ∈ stages' →
      .awaitingFetch promise current ∈ stages ∨
        current = true ∧ b.fetchResults.size ≤ promise) :
    Filling identity reach fails Listed b stages' c where
  stand := by
    rw [hleads]
    exact h.stand
  reached := h.reached
  grown := h.grown
  waits promise current hmem := (hwaits promise current hmem).elim (h.waits promise current) id
  told := h.told

theorem refl (identity : β → Identity) (reach fails : Prop) (Listed : List β → Prop) (b : Cache β)
    (hstages : ∀ stage ∈ stages, stage = .start) :
    Filling identity reach fails Listed b stages b where
  stand := by
    refine .kept (.refl b) (List.filterMap_eq_nil_iff.2 fun stage hstage => ?_) fun _ => rfl
    rw [hstages stage hstage]
    rfl
  reached _ := rfl
  grown := Nat.le_refl _
  waits promise current hmem := by cases hstages _ hmem
  told promise snapshot hnew hresult := absurd (lt_size_of_result? hresult) (Nat.not_lt.2 hnew)

/-- Where nobody asks, the cache is at rest. -/
theorem rests (h : Filling identity reach fails Listed b stages c) (hb : b.Resting)
    (hleads : stages.filterMap Stage.fetchLead? = []) : c.Resting := by
  cases h.stand with
  | kept hkept => exact hkept.rests hb
  | asked _ _ _ hleads' =>
    rw [hleads] at hleads'
    cases hleads'
  | filled _ _ hholds hfetch hlookups hfreshness =>
    exact ⟨hfetch, hlookups, by rw [hfreshness, settled, if_pos hholds.complete],
      .inl hholds.complete⟩

/-- Whoever asks is the only one. -/
theorem asked_of_listing {lead : FetchLead}
    (h : Filling identity reach fails Listed b (before ++ [.listing lead] ++ behind) c) :
    before.filterMap Stage.fetchLead? = [] ∧ behind.filterMap Stage.fetchLead? = [] ∧
      b.snapshot.complete = false ∧ b.Intact { c with fetch := none, freshness := b.freshness } ∧
      c.fetch = some { generation := b.generation, promise := lead.promise } ∧
      lead.generation = b.generation ∧ lead.prior = b.freshness ∧
      c.fetchResults.Open lead.promise ∧ b.fetchResults.size ≤ lead.promise ∧
      (¬fails → c.fetchResults.size = b.fetchResults.size + 1) := by
  have hsplit : (before ++ [Stage.listing lead] ++ behind).filterMap Stage.fetchLead? =
      before.filterMap Stage.fetchLead? ++ lead :: behind.filterMap Stage.fetchLead? := by
    rw [List.filterMap_append, List.filterMap_append, List.append_assoc]
    rfl
  have hstand := h.stand
  rw [hsplit] at hstand
  cases hstand with
  | kept _ hleads => exact absurd hleads (by simp)
  | filled _ _ _ _ _ _ hleads => exact absurd hleads (by simp)
  | @asked promise hincomplete hkept hfetch hleads hopen hnew hsize =>
    obtain ⟨hbefore, hrest⟩ : before.filterMap Stage.fetchLead? = [] ∧
        lead :: behind.filterMap Stage.fetchLead? =
          [{ promise, generation := b.generation, prior := b.freshness }] := by
      cases hfront : before.filterMap Stage.fetchLead? with
      | nil =>
        rw [hfront] at hleads
        exact ⟨rfl, hleads⟩
      | cons first rest =>
        rw [hfront] at hleads
        have hlength := congrArg List.length hleads
        simp at hlength
    obtain ⟨rfl, hbehind⟩ := List.cons.inj hrest
    exact ⟨hbefore, hbehind, hincomplete, hkept, hfetch, rfl, rfl, hopen, hnew, hsize⟩

/-- A load that does not ask may go away. -/
theorem leave {stage : Stage} (hstage : stage.isRemote = false)
    (h : Filling identity reach fails Listed b (before ++ [stage] ++ behind) c) :
    Filling identity reach fails Listed b (before ++ behind) c := by
  refine h.of_stages ?_ fun promise current hmem => .inl ?_
  · have hnone : stage.fetchLead? = none := by
      cases stage with
      | listing | lookingUp => cases hstage
      | start | awaitingFetch | awaitingLookup => rfl
    rw [List.append_assoc, List.singleton_append, List.filterMap_append, List.filterMap_append,
      List.filterMap_cons_none hnone]
  · simp only [List.mem_append] at hmem ⊢
    tauto

/-- A load may come to wait for a listing of the run. -/
theorem join {stage : Stage} {promise : Nat} (hstage : stage.isRemote = false)
    (h : Filling identity reach fails Listed b (before ++ [stage] ++ behind) c)
    (hnew : b.fetchResults.size ≤ promise) :
    Filling identity reach fails Listed b (before ++ [.awaitingFetch promise true] ++ behind)
      c := by
  refine (h.leave hstage).of_stages ?_ fun promise' current hmem => ?_
  · rw [List.append_assoc, List.singleton_append, List.filterMap_append, List.filterMap_append,
      List.filterMap_cons_none rfl]
  · simp only [List.mem_append, List.mem_singleton] at hmem ⊢
    rcases hmem with (hmem | hmem) | hmem
    · exact .inl (.inl hmem)
    · obtain ⟨rfl, rfl⟩ := Stage.awaitingFetch.inj hmem
      exact .inr ⟨rfl, hnew⟩
    · exact .inl (.inr hmem)

/-- A load asks for a listing. -/
theorem ask {stage : Stage} (hstage : stage.isRemote = false)
    (h : Filling identity reach fails Listed b (before ++ [stage] ++ behind) c) (hb : b.Resting)
    (hreach : reach) (hfetch : c.fetch = none) (hincomplete : c.snapshot.complete = false) :
    Filling identity reach fails Listed b (before ++ [.listing c.nextFetch] ++ behind)
      c.withFetch where
  stand := by
    cases (h.leave hstage).stand with
    | asked _ _ hsome =>
      rw [hsome] at hfetch
      cases hfetch
    | filled _ _ hholds =>
      rw [hholds.complete] at hincomplete
      cases hincomplete
    | kept hkept hleads hsize =>
      have hincomplete' : b.snapshot.complete = false := hkept.snapshot ▸ hincomplete
      have hempty : c.freshness = .empty := by
        rw [hkept.freshness, hb.freshness, settled, if_neg (by simp [hincomplete'])]
      rw [List.filterMap_append, List.append_eq_nil_iff] at hleads
      refine .asked hincomplete' ?_ ?_ ?_ (Promises.open_push_none.2 (.inl rfl)) h.grown ?_
      · rw [Intact, show c = _ from hkept]
        simp only [withFetch, hb.fetch]
      · rw [← hkept.generation]
        rfl
      · rw [List.filterMap_append, List.filterMap_append, hleads.1, hleads.2, ← hkept.generation,
          ← hkept.freshness]
        rfl
      · intro hnot
        rw [withFetch, Array.size_push, hsize hnot]
  reached hnot := absurd hreach hnot
  grown := by
    rw [withFetch, Array.size_push]
    exact Nat.le_succ_of_le h.grown
  waits promise current hmem := by
    refine h.waits promise current ?_
    simp only [List.mem_append, List.mem_singleton, reduceCtorEq, or_false] at hmem ⊢
    tauto
  told promise snapshot hnew hresult := by
    rcases result?_of_push hresult with hold | ⟨-, hnone⟩
    · exact h.told promise snapshot hnew hold
    · cases hnone

/-- A load that asked fails, and the cache is as it was. -/
theorem fail {lead : FetchLead}
    (h : Filling identity reach fails Listed b (before ++ [.listing lead] ++ behind) c)
    (hb : b.Resting) (error : CacheError) :
    Filling identity reach True Listed b (before ++ behind)
      ((c.abortFetch lead).resolveFetch lead.promise (.error error)) := by
  obtain ⟨hbefore, hbehind, -, hkept, hfetch, hgeneration, hprior, -⟩ := h.asked_of_listing
  have hcurrent : c.generation = lead.generation := by
    rw [hgeneration, ← hkept.generation]
  constructor
  · refine .kept ?_ (by rw [List.filterMap_append, hbefore, hbehind]; rfl) fun hnot =>
      absurd trivial hnot
    rw [Intact] at hkept ⊢
    simp only [abortFetch, resolveFetch, if_pos hcurrent, hprior]
    simp only [Cache.mk.injEq] at hkept ⊢
    tauto
  · intro hnot
    rw [h.reached hnot, hb.fetch] at hfetch
    cases hfetch
  · simpa only [resolveFetch, abortFetch, size_resolve] using h.grown
  · intro promise current hmem
    refine h.waits promise current ?_
    simp only [List.mem_append] at hmem ⊢
    tauto
  · intro promise snapshot hnew hresult
    rcases result?_of_resolve hresult with hold | ⟨-, herror⟩
    · exact h.told promise snapshot hnew hold
    · cases herror

/-- A load that asked takes the answer, and the cache holds it. -/
theorem accept {c : Cache α} {row : α → β} {lead : FetchLead} {source : Source ρ α} {make : ρ → α}
    (h : Filling identity reach fails Listed b (before ++ [.listing lead] ++ behind) (c.map row))
    (hb : b.Resting) (hmake : source.construct = some ∘ make)
    (hidentity : ∀ object, identity (row object) = source.identity object) {records : List ρ}
    (hlisted : Listed (records.map (row ∘ make))) :
    let turn := c.acceptListing source .all lead (.ok records)
    Filling identity reach fails Listed b (before ++ behind) (turn.cache.map row) ∧
      turn.progress = .finished (.ok (.objects turn.cache.snapshot.entries)) ∧
      turn.cache.snapshot.complete = true ∧
      turn.cache.objects =
        c.objects ++ (firstOfEach (c.objectKey source) (records.map make)).toArray := by
  intro turn
  obtain ⟨hbefore, hbehind, hincomplete, hkept, hfetch, hgeneration, -, hopen, hnew, hsize⟩ :=
    h.asked_of_listing
  -- the cache was not complete, hence empty, and there is nothing to merge the records into
  have hempty : c.snapshot = {} :=
    (show c.snapshot = b.snapshot from hkept.snapshot).trans (hb.whole.empty hincomplete)
  have hcurrent : c.generation = lead.generation := by
    rw [hgeneration, ← hkept.generation]
    rfl
  obtain ⟨hfinished, hholds, hcache⟩ := acceptListing_of_nothing source hempty hcurrent records
  have hrecords : records.filterMap source.construct = records.map make := by
    rw [hmake, List.filterMap_eq_map]
  have hcache' : turn.cache = _ := hcache
  rw [hrecords] at hholds hcache'
  have hrows : (firstOfEach (c.objectKey source) (records.map make)).map row =
      firstOfEach (fun row => b.key (identity row)) (records.map (row ∘ make)) := by
    rw [map_firstOfEach (show c.config = b.config from hkept.config) hidentity, List.map_map]
  refine ⟨⟨?_, ?_, ?_, ?_, ?_⟩, hfinished, hholds.complete, by rw [hcache']⟩
  · refine .filled hincomplete hlisted (hrows ▸ hholds.map row) ?_ ?_ ?_ ?_ ?_
    · rw [map, hcache']
    · rw [map, hcache']
      exact (Intact.lookups hkept).trans hb.lookups
    · rw [map, hcache']
    · rw [List.filterMap_append, hbefore, hbehind]
      rfl
    · intro hnot
      rw [map, hcache']
      exact (size_resolve ..).trans (hsize hnot)
  · intro hnot
    rw [h.reached hnot, hb.fetch] at hfetch
    cases hfetch
  · rw [map, hcache']
    exact Nat.le_trans h.grown (Nat.le_of_eq (size_resolve ..).symm)
  · intro promise current hmem
    refine h.waits promise current ?_
    simp only [List.mem_append] at hmem ⊢
    tauto
  · intro promise snapshot hnew' hresult
    rw [map, hcache'] at hresult
    -- no listing of this run has ended well before, or the cache would be complete by now
    rcases result?_of_resolve hresult with hold | ⟨-, hsame⟩
    · obtain ⟨hsame, hcomplete⟩ := h.told promise snapshot hnew' hold
      rw [← hsame, hkept.snapshot, hincomplete] at hcomplete
      cases hcomplete
    · obtain rfl := Except.ok.inj hsame
      exact ⟨rfl, hholds.complete⟩

/-- To look in vain leaves no trace but in the record of lookups. -/
theorem look (h : Filling identity reach fails Listed b stages c) (hreach : reach)
    (lookupResults : Promises LookupResult) :
    Filling identity reach fails Listed b stages { c with lookupResults } where
  stand := by
    cases h.stand with
    | kept hkept hleads hsize =>
      refine .kept ?_ hleads hsize
      rw [Intact, show c = _ from hkept]
    | asked hincomplete hkept hfetch hleads hopen hnew hsize =>
      refine .asked hincomplete ?_ hfetch hleads hopen hnew hsize
      rw [Intact] at hkept ⊢
      simp only [Cache.mk.injEq] at hkept ⊢
      tauto
    | filled hincomplete hrows hholds hfetch hlookups hfreshness hleads hsize =>
      exact .filled hincomplete hrows ⟨hholds.complete, hholds.nodup, hholds.stands⟩ hfetch hlookups
        hfreshness hleads hsize
  reached hnot := absurd hreach hnot
  grown := h.grown
  waits := h.waits
  told := h.told

/-- Nobody looks up single objects, and a listing in flight is current. -/
theorem flights (h : Filling identity reach fails Listed b stages c) (hb : b.Resting) :
    c.lookups = [] ∧ ∀ flight, c.fetch = some flight →
      flight.generation = c.generation ∧ b.fetchResults.size ≤ flight.promise := by
  cases h.stand with
  | kept hkept =>
    refine ⟨hkept.lookups.trans hb.lookups, fun flight hfetch => ?_⟩
    rw [hkept.fetch, hb.fetch] at hfetch
    cases hfetch
  | asked _ hkept hflight _ _ hnew =>
    refine ⟨(Intact.lookups hkept).trans hb.lookups, fun flight hfetch => ?_⟩
    obtain rfl := Option.some.inj (hflight.symm.trans hfetch)
    exact ⟨(Intact.generation hkept).symm, hnew⟩
  | filled _ _ _ hnone hlookups =>
    refine ⟨hlookups, fun flight hfetch => ?_⟩
    rw [hnone] at hfetch
    cases hfetch

section Leaves

variable {κ : Type} {source : Source ρ α} {remote : Remote ω κ ρ} {world world' : ω} {make : ρ → α}
  {row : α → β} {d d' : Cache α} {load : Load κ} {cancelled : Bool} {poll : Poll (Load κ) Result}

/-- What a run of a load leaves behind. -/
structure Leaves (identity : β → Identity) (reach fails : Prop) (Listed : List β → Prop)
    (b : Cache β) (row : α → β) (make : ρ → α) (before behind : List Stage) (d d' : Cache α)
    (poll : Poll (Load κ) Result) : Prop where
  filling : Filling identity reach (fails ∨ poll.Fails) Listed b
    (before ++ (poll.pending?.map (·.stage)).toList ++ behind) (d'.map row)
  /-- Objects are made of records, and none is changed. -/
  objects : ∃ records : List ρ, d'.objects = d.objects ++ (records.map make).toArray
  /-- What was loaded stays. -/
  stays : d.snapshot.complete = true → d'.snapshot = d.snapshot

/-- What a run of a load of the whole collection leaves behind. -/
structure Yields (identity : β → Identity) (reach fails : Prop) (Listed : List β → Prop)
    (b : Cache β) (row : α → β) (make : ρ → α) (before behind : List Stage) (d d' : Cache α)
    (poll : Poll (Load κ) Result) : Prop
    extends Leaves identity reach fails Listed b row make before behind d d' poll where
  /-- Who succeeds gets what the cache holds. -/
  reply : ∀ reply, poll = .finished (.ok reply) →
    d'.snapshot.complete = true ∧ reply = .objects d'.snapshot.entries

/-- Nothing changes but the stage of the load. -/
theorem yields_same (h : Filling identity reach fails Listed b
      (before ++ (poll.pending?.map (·.stage)).toList ++ behind) (d.map row))
    (hreply : ∀ reply, poll = .finished (.ok reply) →
      d.snapshot.complete = true ∧ reply = .objects d.snapshot.entries) :
    Yields identity reach fails Listed b row make before behind d d poll :=
  ⟨⟨h.mono .inl, ⟨[], by simp⟩, fun _ => rfl⟩, hreply⟩

/-- A load waits where it stands. -/
theorem yields_waiting (h : Filling identity reach fails Listed b
      (before ++ [load.stage] ++ behind) (d.map row)) :
    Yields identity reach fails Listed b row make before behind d d (.waiting load) :=
  yields_same h fun reply hreply => by cases hreply

/-- Asking makes no objects. -/
theorem Yields.of_asked (h : Yields identity reach fails Listed b row make before behind d.withFetch
    d' poll) : Yields identity reach fails Listed b row make before behind d d' poll :=
  ⟨⟨h.filling, h.objects, h.stays⟩, h.reply⟩

/-- A load that asked takes the answer or fails. -/
theorem yields_accept {lead : FetchLead}
    (h : Filling identity reach fails Listed b (before ++ [.listing lead] ++ behind) (d.map row))
    (hb : b.Resting) (hmake : source.construct = some ∘ make)
    (hidentity : ∀ object, identity (row object) = source.identity object)
    {answer : Except ConnectionError (List ρ)}
    (hlisted : ∀ records, answer = .ok records → Listed (records.map (row ∘ make)))
    {result : Result} (hresult : (d.acceptListing source .all lead answer).progress =
      .finished result) :
    Yields identity reach fails Listed b row make before behind d
      (d.acceptListing source .all lead answer).cache
      (.finished result : Poll (Load κ) Result) := by
  cases answer with
  | error error =>
    obtain rfl : .error _ = result := Progress.finished.inj hresult
    refine ⟨⟨?_, ⟨[], by simp [acceptListing, Turn.after, failFetch, abortFetch, resolveFetch]⟩,
      fun _ => rfl⟩, ?_⟩
    · have hfailed := (h.fail hb (.remoteFetch d.name error)).mono fun _ : True =>
        (.inr ⟨_, rfl⟩ : fails ∨ (.finished (.error (.remoteFetch d.name error)) :
          Poll (Load κ) Result).Fails)
      rwa [← List.append_nil before] at hfailed
    · intro reply hreply
      cases hreply
  | ok records =>
    obtain ⟨hfilling, hfinished, hcomplete, hobjects⟩ :=
      h.accept hb hmake hidentity (hlisted records rfl)
    obtain rfl := Progress.finished.inj (hfinished.symm.trans hresult)
    refine ⟨⟨?_, ⟨firstOfEach (d.objectKey source ∘ make) records, ?_⟩, fun hloaded => ?_⟩, ?_⟩
    · have hleft := hfilling.mono (.inl : fails → fails ∨ (.finished (.ok (.objects
        (d.acceptListing source .all lead (.ok records)).cache.snapshot.entries)) :
          Poll (Load κ) Result).Fails)
      rwa [← List.append_nil before] at hleft
    · rw [← firstOfEach_map]
      exact hobjects
    · obtain ⟨-, -, hincomplete, hkept, -⟩ := h.asked_of_listing
      rw [show d.snapshot = b.snapshot from hkept.snapshot, hincomplete] at hloaded
      cases hloaded
    · intro reply hreply
      obtain rfl := Except.ok.inj (Poll.finished.inj hreply)
      exact ⟨hcomplete, rfl⟩

/-- A load that asked is cancelled. -/
theorem yields_fail {lead : FetchLead}
    (h : Filling identity reach fails Listed b (before ++ [.listing lead] ++ behind) (d.map row))
    (hb : b.Resting) :
    Yields identity reach fails Listed b row make before behind d
      (d.failFetch lead .cancelled).cache
      (.finished (.error .cancelled) : Poll (Load κ) Result) := by
  refine ⟨⟨?_, ⟨[], by simp [failFetch, abortFetch, resolveFetch]⟩, fun _ => rfl⟩, ?_⟩
  · have hfailed := (h.fail hb .cancelled).mono fun _ : True =>
      (.inr ⟨_, rfl⟩ : fails ∨ (.finished (.error .cancelled) : Poll (Load κ) Result).Fails)
    rwa [← List.append_nil before] at hfailed
  · intro reply hreply
    cases hreply

/-- A load that is given up fails, and those that are left do not notice. -/
theorem yields_quit (hremote : load.stage.isRemote = false)
    (h : Filling identity reach fails Listed b (before ++ [load.stage] ++ behind) (d.map row))
    {error : CacheError} :
    Yields identity reach fails Listed b row make before behind d d
      (.finished (.error error) : Poll (Load κ) Result) := by
  refine yields_same ?_ fun reply hreply => by cases hreply
  have hleft := h.leave hremote
  rwa [← List.append_nil before] at hleft

/-- A load that takes what the cache holds. -/
theorem yields_serve (hremote : load.stage.isRemote = false)
    (h : Filling identity reach fails Listed b (before ++ [load.stage] ++ behind) (d.map row))
    (hcomplete : d.snapshot.complete = true) :
    Yields identity reach fails Listed b row make before behind d d
      (.finished (.ok (.objects d.snapshot.entries)) : Poll (Load κ) Result) := by
  refine yields_same ?_ fun reply hreply => ?_
  · have hleft := h.leave hremote
    rwa [← List.append_nil before] at hleft
  · obtain rfl := Except.ok.inj (Poll.finished.inj hreply)
    exact ⟨hcomplete, rfl⟩

/-- A load that comes to wait for a listing. -/
theorem yields_join (hremote : load.stage.isRemote = false)
    (h : Filling identity reach fails Listed b (before ++ [load.stage] ++ behind) (d.map row))
    {promise : Nat} {current : Bool} (hcurrent : current = true)
    (hnew : b.fetchResults.size ≤ promise) :
    Yields identity reach fails Listed b row make before behind d d
      (.waiting (Load.joined promise current : Load κ)) := by
  subst hcurrent
  exact yields_same (h.join hremote hnew) fun reply hreply => by cases hreply

/-- A load leaves a cache that is as it was, or asked, or filled. -/
theorem run (h : Filling identity reach fails Listed b (before ++ [load.stage] ++ behind)
      (d.map row)) (hb : b.Resting) (hreach : reach) (hbulk : load.Bulk)
    (hmake : source.construct = some ∘ make)
    (hidentity : ∀ object, identity (row object) = source.identity object)
    (hlisted : ∀ records, load.Answered remote world records → Listed (records.map (row ∘ make)))
    (cancelled : Bool) :
    let turn := load.run source remote world d cancelled
    Yields identity reach fails Listed b row make before behind d turn.cache turn.poll := by
  intro turn
  have hgathered : Load.Gathered source remote world d cancelled load turn.world turn.cache
      turn.poll := Load.gathered_run source remote world d hbulk cancelled
  generalize turn.world = world', turn.cache = d', turn.poll = poll at hgathered
  have hasks : ∀ {load : Load κ}, load.Enters d →
      Filling identity reach fails Listed b (before ++ [load.stage] ++ behind) (d.map row) →
      d.snapshot.complete = false → d.fetch = none →
      Filling identity reach fails Listed b (before ++ [.listing d.nextFetch] ++ behind)
        (d.withFetch.map row) :=
    fun henters h hincomplete hfetch => h.ask henters.isRemote hb hreach hfetch hincomplete
  cases hgathered with
  | rest | hold => exact yields_waiting h
  | quit _ _ hremote => exact yields_quit hremote h
  | serve henters hcomplete => exact yields_serve henters.isRemote h hcomplete
  | @learn promise result _ hresult =>
    -- the listing that it waited for is one of this run, so its result is what the cache holds
    have hnew := (h.waits promise true (by simp [Load.joined])).2
    cases result with
    | error error => exact yields_quit rfl h
    | ok snapshot =>
      obtain ⟨rfl, hcomplete⟩ := h.told promise snapshot hnew hresult
      exact yields_serve rfl h hcomplete
  | @join _ flight _ henters _ hfetch =>
    -- the generation is still the one of `b`, so that nobody joins an outdated listing
    obtain ⟨hcurrent, hnew⟩ := (h.flights hb).2 flight hfetch
    exact yields_join henters.isRemote h (decide_eq_true hcurrent) hnew
  | ask _ henters hincomplete hfetch =>
    exact (yields_waiting (hasks henters h hincomplete hfetch)).of_asked
  | fetch _ henters hincomplete hfetch hanswer hresult =>
    exact (yields_accept (hasks henters h hincomplete hfetch) hb hmake hidentity
      (fun records hrecords => hlisted records (.inr (hrecords ▸ hanswer))) hresult).of_asked
  | attempt _ henters hincomplete hfetch =>
    exact (yields_fail (hasks henters h hincomplete hfetch) hb).of_asked
  | take _ hanswer hresult =>
    exact yields_accept h hb hmake hidentity
      (fun records hrecords => hlisted records (.inl ⟨_, _, rfl, hrecords ▸ hanswer⟩)) hresult
  | abort => exact yields_fail h hb

/-- A load of one object leaves the cache as it finds it. -/
theorem glance (h : Filling identity reach fails Listed b (before ++ [load.stage] ++ behind)
      (d.map row)) (hb : b.Resting) (hreach : reach) (hsingle : load.Single)
    (hnone : remote.HasNone) (source : Source ρ α) (world : ω) (make : ρ → α) (cancelled : Bool) :
    let turn := load.run source remote world d cancelled
    Leaves identity reach fails Listed b row make before behind d turn.cache turn.poll := by
  intro turn
  obtain ⟨hlookups, hflights⟩ := h.flights hb
  have hglanced : Load.Glanced world d load turn :=
    Load.glanced_run source hnone world hsingle hlookups
      (fun flight hfetch => (hflights flight hfetch).1) cancelled
  cases hglanced with
  | @ends lookupResults result _ hcache hends =>
    rw [hcache, hends]
    refine ⟨?_, ⟨[], by simp⟩, fun _ => rfl⟩
    have hleft := ((h.leave hsingle.isRemote).look hreach lookupResults).mono
      (.inl : fails → fails ∨ (.finished result : Poll (Load κ) Result).Fails)
    rwa [← List.append_nil before] at hleft
  | @waits load' _ hcache hwaits _ hstage =>
    rw [hcache, hwaits]
    refine ⟨?_, ⟨[], by simp⟩, fun _ => rfl⟩
    rcases hstage with rfl | ⟨flight, hfetch, hstage⟩
    · exact h.mono .inl
    · have hjoined := h.join hsingle.isRemote (hflights flight hfetch).2
      rw [← hstage] at hjoined
      exact hjoined.mono .inl

end Leaves

/-- A load that is dropped takes the cache back to what it was. -/
theorem abandon {κ : Type} {load : Load κ} (hplain : load.Plain)
    (h : Filling identity reach fails Listed b (before ++ [load.stage] ++ behind) c)
    (hb : b.Resting) :
    Filling identity reach True Listed b (before ++ behind) (c.abandon load.stage) := by
  rcases hplain.isRemote_or_leading with hremote | ⟨lead, query, rfl⟩
  · rw [abandon_of_not_isRemote hremote]
    exact (h.leave hremote).mono fun _ => trivial
  · exact h.fail hb .cancelled

end Filling

theorem map_abandon (f : α → β) (c : Cache α) (stage : Stage) :
    (c.abandon stage).map f = (c.map f).abandon stage := by
  cases stage <;> rfl

/-- Dropping a load touches neither the objects nor the published view. -/
theorem objects_abandon (c : Cache α) (stage : Stage) : (c.abandon stage).objects = c.objects := by
  cases stage <;> rfl

theorem snapshot_abandon (c : Cache α) (stage : Stage) :
    (c.abandon stage).snapshot = c.snapshot := by
  cases stage <;> rfl

section Asked

variable {κ : Type} {source : Source ρ α} {remote : Remote ω κ ρ} {world : ω} {c : Cache α}
  {load load' : Load κ} {cancelled : Bool}

/-- The query that a load has under way was asked of the remote side. -/
def Load.Asked (remote : Remote ω κ ρ) (load : Load κ) : Prop :=
  load.Plain ∧ ∀ query, load.query = some query → ∃ world, (remote.list world).2 = query

theorem Load.Single.asked (h : load.Single) (remote : Remote ω κ ρ) : load.Asked remote := by
  refine ⟨.inr h, fun query hquery => ?_⟩
  cases h <;> cases hquery

theorem Load.Asked.run_of_bulk (h : load.Asked remote) (hbulk : load.Bulk)
    (hwaits : (load.run source remote world c cancelled).poll = .waiting load') :
    load'.Asked remote := by
  refine ⟨.inl (hbulk.run hwaits), fun query hquery => ?_⟩
  have hgathered := Load.gathered_run source remote world c hbulk cancelled
  generalize load.run source remote world c cancelled = turn at hgathered hwaits
  obtain ⟨world', c', poll, events⟩ := turn
  dsimp only at hgathered hwaits
  cases hgathered with
  | rest | join =>
    obtain rfl := Poll.waiting.inj hwaits
    cases hquery
  | ask =>
    obtain rfl := Poll.waiting.inj hwaits
    obtain rfl := Option.some.inj hquery
    exact ⟨world, rfl⟩
  | hold =>
    obtain rfl := Poll.waiting.inj hwaits
    exact h.2 query hquery
  | quit | serve | learn | fetch | attempt | take | abort => cases hwaits

/-- What the remote side answers is the answer to its own query. -/
theorem Load.Asked.answered (h : load.Asked remote) {records : List ρ}
    (hanswered : load.Answered remote world records) : ∃ world₀ world',
      remote.listing? world' (remote.list world₀).2 = some (.ok records) ∧
        (world' = world ∨ world' = (remote.list world).1) := by
  rcases hanswered with ⟨lead, query, rfl, hanswer⟩ | hanswer
  · obtain ⟨world₀, rfl⟩ := h.2 query rfl
    exact ⟨world₀, world, hanswer, .inl rfl⟩
  · exact ⟨world, (remote.list world).1, hanswer, .inr rfl⟩

/-- A load of one object goes on as one. -/
theorem Load.Glanced.single {turn : LoadTurn ω κ α} (h : Load.Glanced world c load turn)
    (hwaits : turn.poll = .waiting load') : load'.Single := by
  cases h with
  | ends _ _ hends =>
    rw [hends] at hwaits
    cases hwaits
  | waits _ _ hpoll hsingle =>
    obtain rfl := Poll.waiting.inj (hpoll.symm.trans hwaits)
    exact hsingle

theorem Load.world_run_of_bulk (source : Source ρ α) (remote : Remote ω κ ρ) (world : ω)
    (c : Cache α) (hbulk : load.Bulk) (cancelled : Bool) :
    (load.run source remote world c cancelled).world = world ∨
      (load.run source remote world c cancelled).world = (remote.list world).1 := by
  have hgathered := Load.gathered_run source remote world c hbulk cancelled
  generalize load.run source remote world c cancelled = turn at hgathered
  obtain ⟨world', c', poll, events⟩ := turn
  dsimp only at hgathered ⊢
  cases hgathered with
  | ask | fetch => exact .inr rfl
  | _ => exact .inl rfl

/-- What a turn of a load makes of the cache, the remote side and the load. -/
structure Filling.Passes (identity : β → Identity) (reach fails : Prop) (Listed : List β → Prop)
    (b : Cache β) (row : α → β) (make : ρ → α) (before behind : List Stage)
    (remote : Remote ω κ ρ) (world : ω) (d : Cache α) (load : Load κ) (turn : LoadTurn ω κ α) : Prop
    extends Leaves identity reach fails Listed b row make before behind d turn.cache turn.poll where
  world : turn.world = world ∨ turn.world = (remote.list world).1
  asked : ∀ load', turn.poll = .waiting load' → load'.Asked remote
  bulk : load.Bulk → ∀ load', turn.poll = .waiting load' → load'.Bulk
  reply : load.Bulk → ∀ reply, turn.poll = .finished (.ok reply) →
    turn.cache.snapshot.complete = true ∧ reply = .objects turn.cache.snapshot.entries

/-- A load leaves a cache that is as it was, or asked, or filled. -/
theorem Filling.read {identity : β → Identity} {reach fails : Prop} {Listed : List β → Prop}
    {b : Cache β} {row : α → β} {make : ρ → α} {before behind : List Stage}
    (h : Filling identity reach fails Listed b (before ++ [load.stage] ++ behind) (c.map row))
    (hb : b.Resting) (hreach : reach) (hasked : load.Asked remote) (hnone : remote.HasNone)
    (hmake : source.construct = some ∘ make)
    (hidentity : ∀ object, identity (row object) = source.identity object)
    (hlisted : ∀ records, load.Answered remote world records → Listed (records.map (row ∘ make)))
    (cancelled : Bool) :
    Passes identity reach fails Listed b row make before behind remote world c load
      (load.run source remote world c cancelled) := by
  rcases hasked.1 with hbulk | hsingle
  · have hyields := h.run hb hreach hbulk hmake hidentity hlisted cancelled
    exact ⟨hyields.toLeaves, Load.world_run_of_bulk source remote world c hbulk cancelled,
      fun _ => hasked.run_of_bulk hbulk, fun hbulk _ => hbulk.run, fun _ => hyields.reply⟩
  · obtain ⟨hlookups, hflights⟩ := h.flights hb
    have hglanced : Load.Glanced world c load _ := Load.glanced_run source hnone world hsingle
      hlookups (fun flight hfetch => (hflights flight hfetch).1) cancelled
    have hother : ¬load.Bulk := by
      intro hbulk
      cases hsingle <;> cases hbulk
    refine ⟨h.glance hb hreach hsingle hnone source world make cancelled, .inl ?_,
      fun load' hwaits => (hglanced.single hwaits).asked remote, fun hbulk => absurd hbulk hother,
      fun hbulk => absurd hbulk hother⟩
    cases hglanced with
    | ends hworld => exact hworld
    | waits hworld => exact hworld

end Asked

end Cache

end CatalogBrowser
