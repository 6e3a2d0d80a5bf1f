import CatalogBrowser.Proofs.Cache.CancelledListing
import CatalogBrowser.Proofs.Cache.Reading

/-!
# What a cache owes to the loads on it

A cache that no load is pending on has no listing in flight, and its freshness says no more than
whether it is complete. To see this, all loads on it have to be accounted for: the slots are theirs,
and each of them, if it fails, returns the cache to the freshness that goes with its contents. A
listing that was overtaken by a new generation does not touch the freshness any more.

This holds of caches that nobody reconciles by hand: they are cleared, sorted and filled anew, and
objects are taken away.

## Main definitions

* `Whole` - a cache that holds the full collection, or nothing.
* `Tidy` - the slots and the freshness of a cache go with the loads that are pending.
* `Withers` - a cache that was left alone, or cleared.

## Main statements

* `Load.Ran.tidy` - a load leaves a tidy cache behind.
* `tidy_edit`, `Withers.tidy` - so do edits, and whoever clears the cache together with its owner.
-/

namespace CatalogBrowser.Cache

variable {ω κ ρ α : Type} {source : Source ρ α} {c c' c'' : Cache α} {before behind : List Stage}
  {stages : List Stage}

/-- The cache holds the full collection, or nothing. -/
def Whole (c : Cache α) : Prop :=
  c.snapshot.complete = true ∨ c.snapshot = {}

/-- The freshness that goes with the contents while nobody fetches them. -/
def settled (c : Cache α) : Freshness :=
  if c.snapshot.complete then .loaded else .empty

/-- The slots and the freshness of a cache go with the stages of the loads that are pending. -/
structure Tidy (c : Cache α) (stages : List Stage) : Prop where
  slots : Slots c (stages.filterMap Stage.fetchLead?) (stages.filterMap Stage.lookupLead?)
  unresolved : c.Unresolved
  /-- A load that fails returns the cache to what goes with its contents. -/
  leads : ∀ lead ∈ stages.filterMap Stage.fetchLead?, lead.generation ≤ c.generation ∧
    (lead.generation = c.generation → lead.prior = c.settled)
  resting : (∀ flight, c.fetch = some flight → flight.generation = c.generation →
    c.snapshot.complete = true) → c.freshness = c.settled

/-- Nothing is in flight on the cache. -/
structure Resting (c : Cache α) : Prop where
  fetch : c.fetch = none
  lookups : c.lookups = []
  freshness : c.freshness = c.settled
  whole : c.Whole

/-- A cache that was left alone, or cleared, with what it owns. -/
structure Withers (c c' : Cache α) : Prop extends SameFlights c c' where
  contents : (c'.snapshot = c.snapshot ∧ c'.freshness = c.freshness ∧
      c'.generation = c.generation) ∨
    (c'.snapshot = {} ∧ c'.freshness = .empty ∧ c.generation < c'.generation)

/-- A cache that does not hold the full collection holds nothing. -/
theorem Whole.empty (h : c.Whole) (hincomplete : c.snapshot.complete = false) :
    c.snapshot = {} :=
  h.resolve_left (Bool.eq_false_iff.1 hincomplete)

section Slots

theorem filterMap_moved {β : Type} (f : Stage → Option β) (before behind : List Stage)
    (stage? : Option Stage) : (before ++ stage?.toList ++ behind).filterMap f =
      before.filterMap f ++ (stage?.bind f).toList ++ behind.filterMap f := by
  cases stage? with
  | none => simp
  | some stage => cases h : f stage <;> simp [h]

/-- Nothing is in flight where no load is pending. -/
theorem Tidy.rests (h : c.Tidy []) (hwhole : c.Whole) : c.Resting := by
  have hfetch : c.fetch = none := Option.toList_eq_nil_iff.1 h.slots.fetch
  refine ⟨hfetch, List.perm_nil.1 h.slots.lookups, h.resting fun flight hflight => ?_, hwhole⟩
  rw [hfetch] at hflight
  cases hflight

/-- Nothing was in flight yet on a cache that nobody has used. -/
theorem Pristine.rests (h : c.Pristine) : c.Resting := by
  rw [show c = _ from h]
  exact ⟨rfl, rfl, rfl, .inr rfl⟩

/-- A free slot leaves no leads. -/
theorem Slots.leads_eq_nil {fetches : List FetchLead} {lookups : List LookupLead}
    (h : Slots c fetches lookups) (hfetch : c.fetch = none) : fetches = [] := by
  have hslot := h.fetch
  rw [hfetch] at hslot
  exact List.map_eq_nil_iff.1 hslot.symm

end Slots

section Tidy

/-- Only loads that lead something matter. -/
theorem Tidy.of_leads {stages' : List Stage} (h : c.Tidy stages)
    (hfetches : stages'.filterMap Stage.fetchLead? = stages.filterMap Stage.fetchLead?)
    (hlookups : stages'.filterMap Stage.lookupLead? = stages.filterMap Stage.lookupLead?) :
    c.Tidy stages' where
  slots := by
    rw [hfetches, hlookups]
    exact h.slots
  unresolved := h.unresolved
  leads := by
    rw [hfetches]
    exact h.leads
  resting := h.resting

/-- On a cache that nobody has used yet, loads can only begin. -/
theorem Pristine.tidy (h : c.Pristine) (hstages : ∀ stage ∈ stages, stage = .start) :
    c.Tidy stages := by
  have hfetches : stages.filterMap Stage.fetchLead? = [] :=
    List.filterMap_eq_nil_iff.2 fun stage hstage => by rw [hstages stage hstage]; rfl
  have hlookups : stages.filterMap Stage.lookupLead? = [] :=
    List.filterMap_eq_nil_iff.2 fun stage hstage => by rw [hstages stage hstage]; rfl
  have hempty : c.Tidy [] := by
    rw [show c = _ from h]
    refine ⟨⟨rfl, .refl _, .nil⟩, ?_, ?_, fun _ => rfl⟩
    · intro flight hflight
      cases hflight
    · intro lead hlead
      cases hlead
  exact hempty.of_leads hfetches hlookups

/-- What matters to whether a cache is tidy. -/
theorem Tidy.congr (h : c.Tidy stages) (hfetch : c'.fetch = c.fetch)
    (hlookups : c'.lookups = c.lookups) (hresults : c'.fetchResults = c.fetchResults)
    (hcomplete : c'.snapshot.complete = c.snapshot.complete)
    (hfreshness : c'.freshness = c.freshness) (hgeneration : c'.generation = c.generation) :
    c'.Tidy stages where
  slots := h.slots.congr hfetch hlookups
  unresolved flight hflight := by
    rw [hfetch] at hflight
    rw [hresults]
    exact h.unresolved flight hflight
  leads lead hlead := by
    rw [hgeneration, settled, hcomplete]
    exact h.leads lead hlead
  resting hrest := by
    rw [hfetch, hgeneration, hcomplete] at hrest
    rw [hfreshness, settled, hcomplete]
    exact h.resting hrest

/-- A new generation leaves nothing to account for but the slots. -/
theorem Tidy.renew (h : c.Tidy stages) (hsame : SameFlights c c')
    (hgeneration : c.generation < c'.generation) (hfreshness : c'.freshness = c'.settled) :
    c'.Tidy stages where
  slots := h.slots.congr hsame.fetch hsame.lookups
  unresolved flight hflight := by
    rw [hsame.fetch] at hflight
    rw [hsame.fetchResults]
    exact h.unresolved flight hflight
  leads lead hlead := by
    have hle := (h.leads lead hlead).1
    exact ⟨by omega, fun heq => by omega⟩
  resting _ := hfreshness

theorem Withers.tidy (h : Withers c c') (htidy : c.Tidy stages) : c'.Tidy stages := by
  rcases h.contents with ⟨hsnapshot, hfreshness, hgeneration⟩ | ⟨hsnapshot, hfreshness, hlt⟩
  · exact htidy.congr h.fetch h.lookups h.fetchResults (by rw [hsnapshot]) hfreshness hgeneration
  · exact htidy.renew h.toSameFlights hlt (by rw [hfreshness, settled, hsnapshot]; rfl)

theorem Withers.whole (h : Withers c c') (hwhole : c.Whole) : c'.Whole := by
  rcases h.contents with ⟨hsnapshot, -⟩ | ⟨hsnapshot, -⟩
  · rw [Whole, hsnapshot]
    exact hwhole
  · exact .inr hsnapshot

theorem Withers.refl (c : Cache α) : Withers c c :=
  ⟨⟨rfl, rfl, rfl, rfl, rfl⟩, .inl ⟨rfl, rfl, rfl⟩⟩

theorem Withers.trans (h : Withers c c') (h' : Withers c' c'') : Withers c c'' where
  config := h'.config.trans h.config
  fetch := h'.fetch.trans h.fetch
  lookups := h'.lookups.trans h.lookups
  fetchResults := h'.fetchResults.trans h.fetchResults
  lookupResults := h'.lookupResults.trans h.lookupResults
  contents := by
    rcases h.contents with ⟨hsnapshot, hfreshness, hgeneration⟩ | ⟨hsnapshot, hfreshness, hlt⟩ <;>
      rcases h'.contents with
        ⟨hsnapshot', hfreshness', hgeneration'⟩ | ⟨hsnapshot', hfreshness', hlt'⟩
    · exact .inl ⟨hsnapshot'.trans hsnapshot, hfreshness'.trans hfreshness,
        hgeneration'.trans hgeneration⟩
    · exact .inr ⟨hsnapshot', hfreshness', hgeneration ▸ hlt'⟩
    · exact .inr ⟨hsnapshot'.trans hsnapshot, hfreshness'.trans hfreshness, hgeneration' ▸ hlt⟩
    · exact .inr ⟨hsnapshot', hfreshness', Nat.lt_trans hlt hlt'⟩

theorem withers_clear (source : Source ρ α) (c : Cache α) : Withers c (c.clear source).1 :=
  ⟨⟨rfl, rfl, rfl, rfl, rfl⟩, .inr ⟨rfl, rfl, Nat.lt_succ_self _⟩⟩

end Tidy

section Turn

variable {call : Call} {action : Action ρ α} {turn : Turn α}

/-- Where the slot is free, only the freshness is left to look at. -/
theorem tidy_of_free (hslots : Slots c (stages.filterMap Stage.fetchLead?)
      (stages.filterMap Stage.lookupLead?)) (hunresolved : c.Unresolved)
    (hfetch : c.fetch = none) (hfreshness : c.freshness = c.settled) : c.Tidy stages := by
  refine ⟨hslots, hunresolved, fun lead hlead => ?_, fun _ => hfreshness⟩
  rw [hslots.leads_eq_nil hfetch] at hlead
  cases hlead

/-- Most turns change nothing that matters here, and bring no new lead. -/
theorem Tidy.keeps {stages' : List Stage} (h : c.Tidy stages)
    (hslots : Slots c' (stages'.filterMap Stage.fetchLead?)
      (stages'.filterMap Stage.lookupLead?)) (hunresolved : c'.Unresolved)
    (hgeneration : c'.generation = c.generation)
    (hcomplete : c'.snapshot.complete = c.snapshot.complete)
    (hfreshness : c'.freshness = c.freshness) (hfetch : c'.fetch = c.fetch)
    (hleads : ∀ lead, Stage.listing lead ∈ stages' → Stage.listing lead ∈ stages) :
    c'.Tidy stages' := by
  refine ⟨hslots, hunresolved, fun lead hlead => ?_, fun hrest => ?_⟩
  · obtain ⟨stage, hstage, hlisting⟩ := List.mem_filterMap.1 hlead
    obtain rfl := Stage.fetchLead?_eq_some_iff.1 hlisting
    rw [hgeneration, settled, hcomplete]
    exact h.leads lead (List.mem_filterMap.2 ⟨_, hleads lead hstage, rfl⟩)
  · rw [hfetch, hgeneration, hcomplete] at hrest
    rw [hfreshness, settled, hcomplete]
    exact h.resting hrest

/-- A listing that was overtaken has left the freshness to others. -/
theorem Tidy.settled_of_overtaken (h : c.Tidy stages) {lead : FetchLead}
    (hlead : Stage.listing lead ∈ stages) (hne : c.generation ≠ lead.generation) :
    c.freshness = c.settled := by
  refine h.resting fun flight hflight hcurrent => ?_
  have hslot : lead.flight ∈ c.fetch.toList := by
    rw [h.slots.fetch]
    exact List.mem_map_of_mem (List.mem_filterMap.2 ⟨_, hlead, rfl⟩)
  rw [hflight] at hslot
  obtain rfl := List.mem_singleton.1 hslot
  exact absurd hcurrent.symm hne

/-- A listing that is asked for is to return the freshness that it found. -/
theorem Tidy.withFetch {stage : Stage} (h : c.Tidy (before ++ [stage] ++ behind))
    (hidle : c.fetch = none)
    (hslots : Slots c.withFetch
      ((before ++ [Stage.listing c.nextFetch] ++ behind).filterMap Stage.fetchLead?)
      ((before ++ [Stage.listing c.nextFetch] ++ behind).filterMap Stage.lookupLead?))
    (hunresolved : c.withFetch.Unresolved) :
    c.withFetch.Tidy (before ++ [.listing c.nextFetch] ++ behind) := by
  have hfreshness : c.freshness = c.settled := h.resting fun flight hflight => by
    rw [hidle] at hflight
    cases hflight
  refine ⟨hslots, hunresolved, fun lead hlead => ?_, fun hrest => ?_⟩
  · -- the new lead is the only one
    have hnone := h.slots.leads_eq_nil hidle
    simp only [List.filterMap_append, List.append_eq_nil_iff] at hnone
    rw [List.filterMap_append, List.filterMap_append, hnone.1.1, hnone.2] at hlead
    obtain rfl := List.mem_singleton.1 hlead
    exact ⟨Nat.le_refl _, fun _ => hfreshness⟩
  · have hcomplete : c.snapshot.complete = true := hrest _ rfl rfl
    have hloaded : c.freshness = .loaded := by rw [hfreshness, settled, if_pos hcomplete]
    simp only [Cache.withFetch, settled, hloaded, hcomplete, reduceCtorEq, if_false, if_true]

/-- A turn leaves a tidy cache behind, with the stage that it leads to. -/
theorem Tidy.turned (h : c.Tidy (before ++ [call.stage] ++ behind))
    (hturn : Turned source c call action turn) :
    turn.cache.Tidy (before ++ turn.progress.stage?.toList ++ behind) := by
  have hslots := h.slots
  rw [show [call.stage] = (some call.stage).toList from rfl, filterMap_moved,
    filterMap_moved] at hslots
  have hslots' := hslots.turned hturn
  rw [← filterMap_moved, ← filterMap_moved] at hslots'
  have hunresolved := hturn.unresolved h.unresolved
  -- most turns end or wait for somebody else, and so bring no new lead
  have hleaves : (∀ lead, turn.progress.stage? ≠ some (.listing lead)) → ∀ lead,
      Stage.listing lead ∈ before ++ turn.progress.stage?.toList ++ behind →
      Stage.listing lead ∈ before ++ [call.stage] ++ behind := by
    intro hnone lead hlead
    simp only [List.mem_append, Option.mem_toList] at hlead ⊢
    exact hlead.imp_left (Or.imp_right fun hnew => absurd hnew (hnone lead))
  cases hturn with
  | rest => exact h
  | quit | remember | learnFetch | learnLookup | tryFetch | tryLookup | failLookup | absent
  | present | handOut | joinFetch | joinLookup | leadLookup =>
    exact h.keeps hslots' hunresolved rfl rfl rfl rfl (hleaves fun lead hlead => by cases hlead)
  | keep _ _ _ _ hincomplete =>
    exact h.keeps hslots' hunresolved rfl hincomplete.symm rfl rfl
      (hleaves fun lead hlead => by cases hlead)
  | leadFetch _ _ hidle => exact h.withFetch hidle hslots' hunresolved
  | @failFetch _ lead error _ hstage =>
    refine tidy_of_free hslots' hunresolved rfl ?_
    -- the freshness is taken back only as long as the generation is the same
    by_cases hcurrent : c.generation = lead.generation
    · have hlead := h.leads lead (by simp [hstage])
      exact (if_pos hcurrent).trans (hlead.2 hcurrent.symm)
    · exact (if_neg hcurrent).trans (h.settled_of_overtaken (by simp [hstage]) hcurrent)
  | @listed lead records _ hstage =>
    refine tidy_of_free hslots' hunresolved (commitFetch_fetch source c call.request lead _) ?_
    rw [Turn.after]
    dsimp only
    by_cases hcurrent : c.generation = lead.generation
    · rw [commitFetch_of_current hcurrent]
      rfl
    · rw [commitFetch_of_outdated hcurrent]
      exact h.settled_of_overtaken (by simp [hstage]) hcurrent

/-- A cache remains whole where lookups find nothing. -/
theorem Whole.turned (h : c.Whole) (hturn : Turned source c call action turn)
    (hfinds : ∀ id record, action = .found id (.ok record) → record.bind source.construct = none) :
    turn.cache.Whole := by
  cases hturn with
  | keep _ hobject =>
    rw [hfinds _ _ rfl] at hobject
    cases hobject
  | @listed lead records =>
    rw [Turn.after]
    dsimp only
    by_cases hcurrent : c.generation = lead.generation
    · rw [commitFetch_of_current hcurrent]
      exact .inl rfl
    · rw [commitFetch_of_outdated hcurrent]
      exact h
  | _ => exact h

end Turn

section Load

variable {load : Load κ} {stage? : Option Stage}

/-- A load leaves a tidy cache behind. -/
theorem Tidy.ran (h : c.Tidy (before ++ [load.stage] ++ behind))
    (hran : Load.Ran source c load c' stage?) : c'.Tidy (before ++ stage?.toList ++ behind) := by
  cases hran with
  | once hturn => exact h.turned hturn
  | @twice _ _ _ _ stage hfirst hstage hsecond =>
    have hbetween := h.turned hfirst
    rw [hstage] at hbetween
    exact hbetween.turned hsecond

/-- A remote side that finds no single objects. -/
def Remote.FindsNothing (remote : Remote ω κ ρ) (source : Source ρ α) : Prop :=
  ∀ world query record, remote.found? world query = some (.ok record) →
    record.bind source.construct = none

theorem Whole.take? {remote : Remote ω κ ρ} {world : ω} {turn : Turn α} (h : c.Whole)
    (hfinds : remote.FindsNothing source) (htake : load.take? source remote world c = some turn) :
    turn.cache.Whole := by
  rw [Load.take?] at htake
  obtain ⟨query, -, htake⟩ := Option.bind_eq_some_iff.1 htake
  cases hstage : load.stage with
  | listing lead =>
    rw [hstage] at htake
    obtain ⟨answer, -, htake⟩ := Option.bind_eq_some_iff.1 htake
    obtain rfl := Option.some.inj htake
    refine h.turned (turned_acceptListing source c (show load.call.stage = _ from hstage) answer) ?_
    intro id record haction
    cases haction
  | lookingUp lead =>
    rw [hstage] at htake
    obtain ⟨answer, hanswer, htake⟩ := Option.bind_eq_some_iff.1 htake
    obtain rfl := Option.some.inj htake
    refine h.turned (turned_acceptLookup source c (show load.call.stage = _ from hstage) answer) ?_
    intro id record haction
    obtain ⟨-, rfl⟩ := Action.found.inj haction
    exact hfinds world query record hanswer
  | start | awaitingFetch | awaitingLookup =>
    rw [hstage] at htake
    cases htake

theorem Whole.run {remote : Remote ω κ ρ} (h : c.Whole) (hfinds : remote.FindsNothing source)
    (world : ω) (load : Load κ) (cancelled : Bool) :
    (load.run source remote world c cancelled).cache.Whole := by
  have hfirst : (c.poll load.request load.stage cancelled).cache.Whole := by
    refine h.turned (turned_poll source c load.call (.poll 0) cancelled) ?_
    intro id record haction
    cases haction
  rw [Load.run]
  dsimp only
  split
  next => exact hfirst
  next stage hprogress =>
    split
    next => exact hfirst
    next answered htake => exact hfirst.take? hfinds htake

theorem Whole.abandon (h : c.Whole) (stage : Stage) : (c.abandon stage).Whole := by
  cases stage <;> exact h

end Load

section Edit

/-- An edit that brings no objects in. -/
def Edit.Withdraws : Edit α → Prop
  | .clear | .remove _ | .sort _ => True
  | _ => False

/-- An edit that takes objects away, or replaces all of them by objects of a kind. -/
def Edit.Plain (New : α → Prop) (edit : Edit α) : Prop :=
  edit.Withdraws ∨ ∃ fresh, edit = .set fresh ∧ ∀ object ∈ fresh, New object

theorem Edit.Withdraws.respects {R : α → α → Prop} {New : α → Prop} {edit : Edit α}
    (h : edit.Withdraws) : edit.Respects R New := by
  cases edit with
  | clear | remove | sort => trivial
  | set | reconcile | insert | change => exact h.elim

theorem Edit.Plain.respects {R : α → α → Prop} {New New' : α → Prop} {edit : Edit α}
    (h : edit.Plain New) (hnew : ∀ object, New object → New' object) : edit.Respects R New' := by
  rcases h with hedit | ⟨fresh, rfl, hfresh⟩
  · exact hedit.respects
  · exact fun object hobject => hnew object (hfresh object hobject)

theorem tidy_edit {New : α → Prop} {edit : Edit α} (hedit : edit.Plain New) (h : c.Tidy stages) :
    (edit.apply source c).2.1.Tidy stages := by
  rcases hedit with hedit | ⟨fresh, rfl, -⟩
  · cases edit with
    | clear => exact (withers_clear source c).tidy h
    | remove identity =>
      simp only [Edit.apply, remove]
      split
      · exact h
      · exact h.congr rfl rfl rfl rfl rfl rfl
    | sort le => exact h.congr rfl rfl rfl rfl rfl rfl
    | set | reconcile | insert | change => exact hedit.elim
  · exact h.renew (sameFlights_edit source c (.set fresh)) (Nat.lt_succ_self _) rfl

theorem whole_edit {New : α → Prop} {edit : Edit α} (hedit : edit.Plain New) (h : c.Whole) :
    (edit.apply source c).2.1.Whole := by
  rcases hedit with hedit | ⟨fresh, rfl, -⟩
  · cases edit with
    | clear => exact .inr rfl
    | remove identity =>
      simp only [Edit.apply, remove]
      split
      · exact h
      next ref href =>
        rcases h with hcomplete | hempty
        · exact .inl hcomplete
        · rw [cachedObject?, hempty] at href
          cases href
    | sort le =>
      rcases h with hcomplete | hempty
      · exact .inl hcomplete
      · refine .inr ?_
        simp [Edit.apply, sort, publish, snapshotOf, hempty]
    | set | reconcile | insert | change => exact hedit.elim
  · exact .inl rfl

end Edit

section Map

variable {β : Type} {f : α → β}

theorem Pristine.map (h : c.Pristine) (f : α → β) : (c.map f).Pristine := by
  have hconfig : c = { config := c.config } := h
  rw [hconfig]
  simp [Pristine, Cache.map]

theorem Tidy.map (h : c.Tidy stages) (f : α → β) : (c.map f).Tidy stages :=
  ⟨⟨h.slots.fetch, h.slots.lookups, h.slots.nodup⟩, h.unresolved, h.leads, h.resting⟩

theorem Tidy.of_map (h : (c.map f).Tidy stages) : c.Tidy stages :=
  ⟨⟨h.slots.fetch, h.slots.lookups, h.slots.nodup⟩, h.unresolved, h.leads, h.resting⟩

theorem Withers.map (h : Withers c c') (f : α → β) : Withers (c.map f) (c'.map f) :=
  ⟨⟨h.config, h.fetch, h.lookups, h.fetchResults, h.lookupResults⟩, h.contents⟩

end Map

end CatalogBrowser.Cache
