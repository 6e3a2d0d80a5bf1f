import CatalogBrowser.Cache.Scripted
import CatalogBrowser.Proofs.Cache.Promise
import CatalogBrowser.Proofs.Cache.SingleFlight

/-!
# Freshness and completeness

A cache that says it is loaded holds the full collection. The converse fails in one way only: a
listing that an empty cache asked for ends without success after a reconciliation has made the
collection complete. The leader then takes the freshness back to what it was when the listing was
asked for, and the cache serves a full collection without saying so until the collection is replaced
the next time.

## Main definitions

* `Misreports` - a complete collection that is not reported as loaded.
* `Machine.RollsBack`, `Machine.Renews` - the actions that lead there, and those that lead back.
* `Machine.RolledBack` - a run whose last such action led there.

## Main statements

* `Machine.Fresh.misreports_step` - one action leads there or back, or leaves things as they are.
* `Machine.run_loaded_iff` - when a cache says that it is loaded.
* `freshness_overtakenFailure` - a full collection that is reported as never fetched.
-/

namespace CatalogBrowser.Cache

variable {ρ α : Type} {source : Source ρ α}

/-- A complete collection that is not reported as loaded. -/
def Misreports (c : Cache α) : Prop :=
  c.isFullyCached = true ∧ c.freshness ≠ .loaded

/-- An edit that replaces the whole collection. -/
def Edit.Renews : Edit α → Prop
  | .set _ | .clear | .reconcile .. => True
  | _ => False

/-- An edit that does not replace the collection keeps freshness and completeness. -/
theorem kept_of_edit {c : Cache α} {edit : Edit α} (h : ¬ edit.Renews) :
    (edit.apply source c).2.1.freshness = c.freshness ∧
      (edit.apply source c).2.1.isFullyCached = c.isFullyCached := by
  cases edit with
  | set | clear | reconcile => exact absurd trivial h
  | insert object =>
    simp only [Edit.apply, insert]
    cases c.snapshot.find? (c.objectKey source object) <;> exact ⟨rfl, rfl⟩
  | remove identity =>
    simp only [Edit.apply, remove]
    cases c.cachedObject? identity <;> exact ⟨rfl, rfl⟩
  | sort | change => exact ⟨rfl, rfl⟩

/-- An edit that replaces the collection reports it as it is. -/
theorem loaded_iff_of_renews {c : Cache α} {edit : Edit α} (h : edit.Renews) :
    (edit.apply source c).2.1.freshness = .loaded ↔
      (edit.apply source c).2.1.isFullyCached = true := by
  cases edit with
  | set fresh => exact ⟨fun _ => rfl, fun _ => rfl⟩
  | clear =>
    constructor
    · intro hloaded
      cases hloaded
    · intro hcomplete
      cases hcomplete
  | reconcile merge fresh => exact ⟨fun _ => rfl, fun _ => rfl⟩
  | insert | remove | sort | change => exact h.elim

theorem loaded_of_renews {c : Cache α} {edit : Edit α} (h : edit.Renews)
    (hgeneration : (edit.apply source c).2.1.generation = c.generation) :
    (edit.apply source c).2.1.freshness = .loaded := by
  cases edit with
  | set fresh => rfl
  | clear => exact absurd hgeneration (Nat.succ_ne_self _)
  | reconcile merge fresh => rfl
  | insert | remove | sort | change => exact h.elim

/-- A call that waits for a listing waited for it before, or asks for it now. -/
theorem Turned.withFetch_of_stage? {c : Cache α} {call : Call} {action : Action ρ α}
    {turn : Turn α} {lead : FetchLead} (hturn : Turned source c call action turn)
    (h : turn.progress.stage? = some (.listing lead)) :
    call.stage = .listing lead ∨ lead = c.nextFetch ∧ turn.cache = c.withFetch := by
  cases hturn with
  | rest => exact .inl (Option.some.inj h)
  | leadFetch => exact .inr ⟨(Stage.listing.inj (Option.some.inj h)).symm, rfl⟩
  | listed =>
    rw [Turn.after, commitFetch_stage?] at h
    cases h
  | _ => cases h

namespace Machine

variable {m : Machine α} {action : Action ρ α}

/-- An action that ends a listing of the present generation without success, which an empty cache
asked for, on a collection that is complete by now. -/
def RollsBack (source : Source ρ α) (m : Machine α) (action : Action ρ α) : Prop :=
  ∃ leader lead error, leader.stage = .listing lead ∧
    m.Ends source action leader (.fetch lead.promise) (.fetched (.error error)) ∧
    lead.generation = m.cache.generation ∧ lead.prior = .empty ∧ m.cache.isFullyCached = true

/-- An action that replaces the whole collection: an edit, or a listing of the present generation
that is accepted. -/
def Renews (source : Source ρ α) (m : Machine α) (action : Action ρ α) : Prop :=
  (∃ edit, action = .edit edit ∧ edit.Renews) ∨
    ∃ leader lead view, leader.stage = .listing lead ∧
      m.Ends source action leader (.fetch lead.promise) (.fetched (.ok view)) ∧
      lead.generation = m.cache.generation

/-- A listing was rolled back at some point of a run, and nothing has replaced the collection
since. -/
def RolledBack (source : Source ρ α) (m : Machine α) (actions : List (Action ρ α)) : Prop :=
  ∃ xs action ys, actions = xs ++ action :: ys ∧ (m.run source xs).machine.RollsBack source action ∧
    ((m.run source xs).machine.step source action).machine.Admits source
      (fun m action => ¬ m.Renews source action) ys

/-- All that an action can do to freshness and completeness. -/
inductive Freshens (source : Source ρ α) (m : Machine α) (action : Action ρ α) (c' : Cache α) :
    Prop
  /-- Nothing. -/
  | same (freshness : c'.freshness = m.cache.freshness)
      (complete : c'.isFullyCached = m.cache.isFullyCached)
  /-- A listing is asked for. -/
  | asks (freshness : c'.freshness =
        if m.cache.freshness = .empty then .loading else m.cache.freshness)
      (complete : c'.isFullyCached = m.cache.isFullyCached)
  /-- A listing of the present generation ends without success. -/
  | fails {leader : Call} {lead : FetchLead} {error : CacheError}
      (stage : leader.stage = .listing lead)
      (ends : m.Ends source action leader (.fetch lead.promise) (.fetched (.error error)))
      (current : lead.generation = m.cache.generation) (freshness : c'.freshness = lead.prior)
      (complete : c'.isFullyCached = m.cache.isFullyCached)
  /-- The collection is replaced, and reported as it is. -/
  | renews (renews : m.Renews source action)
      (reported : c'.freshness = .loaded ↔ c'.isFullyCached = true)
      (loaded : c'.generation = m.cache.generation → c'.freshness = .loaded)

/-- An action does nothing else to freshness and completeness. -/
theorem Accountable.freshens (h : m.Accountable) (source : Source ρ α) (action : Action ρ α) :
    Freshens source m action (m.step source action).machine.cache := by
  cases h.led.numbered.stepped source action with
  | idle cache => exact .same (by rw [cache]) (by rw [cache])
  | start _ _ cache => exact .same (by rw [cache]) (by rw [cache])
  | edit edit same cache =>
    rw [cache]
    by_cases hrenews : edit.Renews
    · exact .renews (.inl ⟨edit, same, hrenews⟩) (loaded_iff_of_renews hrenews)
        (loaded_of_renews hrenews)
    · exact .same (kept_of_edit hrenews).1 (kept_of_edit hrenews).2
  | @turn call turn before behind _ turned pending cache calls =>
    have hcall : call ∈ m.calls := by rw [pending]; simp
    -- a leader that goes away and resolves its promise ends its listing
    have hends : ∀ {lead : FetchLead} {result : FetchResult}, call.stage = .listing lead →
        turn.progress.stage? = none →
        turn.cache.fetchResults = m.cache.fetchResults.resolve lead.promise result →
        m.Ends source action call (.fetch lead.promise) (.fetched result) := by
      intro lead result hstage hgone hresults
      refine ⟨hcall, by rw [hstage]; rfl, ?_, ?_⟩
      · rw [calls]
        refine h.led.numbered.not_mem_moved pending ?_
        rw [hgone]
        exact nofun
      · rw [cache]
        exact outcome?_of_resolveFetch (h.made_of_listing hcall hstage) hresults
    rw [cache]
    cases turned with
    | leadFetch => exact .asks rfl rfl
    | @failFetch _ lead error _ hstage =>
      by_cases hgeneration : m.cache.generation = lead.generation
      · exact .fails hstage (hends hstage rfl rfl) hgeneration.symm (if_pos hgeneration) rfl
      · exact .same (if_neg hgeneration) rfl
    | @listed lead records events hstage =>
      have hgone := commitFetch_stage? source m.cache call.request lead
        (records.filterMap source.construct)
      have hresults := (commitFetch_results source m.cache call.request lead
        (records.filterMap source.construct)).2
      have hrenews := hends hstage hgone hresults
      rw [Turn.after]
      by_cases hgeneration : m.cache.generation = lead.generation
      · rw [commitFetch_of_current hgeneration]
        exact .renews (.inr ⟨call, lead, _, hstage, hrenews, hgeneration.symm⟩)
          ⟨fun _ => rfl, fun _ => rfl⟩ fun _ => rfl
      · rw [commitFetch_of_outdated hgeneration]
        exact .same rfl rfl
    | keep _ _ _ _ hpartial => exact .same rfl hpartial.symm
    | _ => exact .same rfl rfl

/-- A cache that says it is loaded holds the full collection, and so does one that a listing in
flight can take back to saying so. -/
structure Fresh (m : Machine α) : Prop where
  accountable : m.Accountable
  complete : m.cache.freshness = .loaded → m.cache.isFullyCached = true
  prior : ∀ leader ∈ m.calls, ∀ lead, leader.stage = .listing lead →
    lead.generation = m.cache.generation → lead.prior = .loaded → m.cache.freshness = .loaded

theorem fresh_new (config : Config) (monitors : Monitors) :
    (new config monitors : Machine α).Fresh where
  accountable := accountable_new config monitors
  complete := by simp [new]
  prior := by simp [new]

/-- Whatever replaces the collection reports it as it is. -/
theorem Accountable.not_misreports_of_renews (h : m.Accountable)
    (hrenews : m.Renews source action) :
    ¬ Misreports (m.step source action).machine.cache := by
  rintro ⟨hcomplete, hloaded⟩
  rcases hrenews with ⟨edit, rfl, hedit⟩ | ⟨leader, lead, view, hstage, hends, hcurrent⟩
  · exact hloaded ((loaded_iff_of_renews hedit).2 hcomplete)
  · rcases h.ends_listing hstage hends with ⟨error, houtcome, -⟩ | ⟨_, records, -, -, hcache⟩
    · cases houtcome
    · rw [hcache, commitFetch_of_current hcurrent.symm] at hloaded
      exact hloaded rfl

theorem Accountable.misreports_of_rollsBack (h : m.Accountable)
    (hrolls : m.RollsBack source action) : Misreports (m.step source action).machine.cache := by
  obtain ⟨leader, lead, error, hstage, hends, hcurrent, hprior, hcomplete⟩ := hrolls
  rcases h.ends_listing hstage hends with ⟨_, -, hcache⟩ | ⟨view, records, houtcome, -⟩
  · have hfreshness : (m.step source action).machine.cache.freshness = .empty := by
      rw [hcache, ← hprior]
      exact if_pos hcurrent.symm
    refine ⟨by rw [hcache]; exact hcomplete, ?_⟩
    rw [hfreshness]
    exact nofun
  · cases houtcome

/-- One action leads to a misreport or away from it, or leaves things as they are. -/
theorem Fresh.misreports_step (h : m.Fresh) (source : Source ρ α) (action : Action ρ α) :
    Misreports (m.step source action).machine.cache ↔
      m.RollsBack source action ∨ Misreports m.cache ∧ ¬ m.Renews source action := by
  constructor
  · intro hafter
    have hrenews : ¬ m.Renews source action := fun hrenews =>
      h.accountable.not_misreports_of_renews hrenews hafter
    obtain ⟨hcomplete, hloaded⟩ := hafter
    cases h.accountable.freshens source action with
    | same freshness complete =>
      exact .inr ⟨⟨complete ▸ hcomplete, freshness ▸ hloaded⟩, hrenews⟩
    | asks freshness complete =>
      refine .inr ⟨⟨complete ▸ hcomplete, fun hbefore => hloaded ?_⟩, hrenews⟩
      rw [freshness, hbefore]
      rfl
    | @fails leader lead error stage ends current freshness complete =>
      -- the freshness to return to is neither that nor that a listing is under way
      refine .inl ⟨leader, lead, error, stage, ends, current, ?_, complete ▸ hcomplete⟩
      have hprior := ((h.accountable.led.sound leader ends.pending).listing stage).2.2.1
      rw [freshness] at hloaded
      cases hvalue : lead.prior with
      | empty => rfl
      | loading => exact absurd hvalue hprior
      | loaded => exact absurd hvalue hloaded
    | renews _ reported => exact absurd (reported.2 hcomplete) hloaded
  · rintro (hrolls | ⟨⟨hcomplete, hloaded⟩, hrenews⟩)
    · exact h.accountable.misreports_of_rollsBack hrolls
    · cases h.accountable.freshens source action with
      | same freshness complete => exact ⟨complete ▸ hcomplete, freshness ▸ hloaded⟩
      | asks freshness complete =>
        refine ⟨complete ▸ hcomplete, ?_⟩
        rw [freshness]
        split
        · exact nofun
        · exact hloaded
      | @fails leader lead error stage ends current freshness complete =>
        refine ⟨complete ▸ hcomplete, fun hafter => hloaded ?_⟩
        exact h.prior leader ends.pending lead stage current (freshness ▸ hafter)
      | renews renews => exact absurd renews hrenews

/-- A listing that is still under way could be rolled back to a loaded cache before, if it can be
now. -/
theorem Fresh.loaded_of_prior (h : m.Fresh) {leader : Call} {lead : FetchLead}
    (hleader : leader ∈ m.calls) (hstage : leader.stage = .listing lead)
    (hcurrent : lead.generation = (m.step source action).machine.cache.generation)
    (hprior : lead.prior = .loaded) :
    (m.step source action).machine.cache.freshness = .loaded := by
  have hle := ((h.accountable.led.sound leader hleader).listing hstage).2.1
  have hgrown := (h.accountable.led.numbered.grown_step source action).generation
  have hsame : (m.step source action).machine.cache.generation = m.cache.generation :=
    Nat.le_antisymm (hcurrent ▸ hle) hgrown
  have hloaded := h.prior leader hleader lead hstage (hcurrent.trans hsame) hprior
  cases h.accountable.freshens source action with
  | same freshness => rw [freshness, hloaded]
  | asks freshness =>
    rw [freshness, hloaded]
    rfl
  | @fails other _ _ stage ends _ freshness =>
    -- only one call leads a fetch
    obtain rfl := h.accountable.led.eq_of_listing ends.pending hleader stage hstage
    obtain rfl := Stage.listing.inj (stage.symm.trans hstage)
    rw [freshness, hprior]
  | renews _ _ loaded => exact loaded hsame

theorem Fresh.step (h : m.Fresh) (source : Source ρ α) (action : Action ρ α) :
    (m.step source action).machine.Fresh where
  accountable := h.accountable.step source action
  complete := by
    intro hloaded
    cases h.accountable.freshens source action with
    | same freshness complete => rw [complete, h.complete (freshness ▸ hloaded)]
    | asks freshness complete =>
      rw [freshness] at hloaded
      split at hloaded
      · cases hloaded
      · rw [complete, h.complete hloaded]
    | @fails leader lead _ stage ends current freshness complete =>
      rw [complete, h.complete]
      exact h.prior leader ends.pending lead stage current (freshness ▸ hloaded)
    | renews _ reported => exact reported.1 hloaded
  prior := by
    intro leader hleader lead hstage hcurrent hprior
    cases h.accountable.led.numbered.pends source action hleader with
    | stay hpending => exact h.loaded_of_prior hpending hstage hcurrent hprior
    | start => cases hstage
    | @turn mover turn stage hpending turned hstage? cache =>
      obtain rfl : stage = .listing lead := hstage
      rcases turned.withFetch_of_stage? hstage? with hold | ⟨rfl, hcache⟩
      · exact h.loaded_of_prior hpending hold hcurrent hprior
      · have hbefore : m.cache.freshness = .loaded := hprior
        rw [cache, hcache, withFetch, hbefore]
        rfl

theorem rolledBack_cons {rest : List (Action ρ α)} : m.RolledBack source (action :: rest) ↔
    (m.RollsBack source action ∧ (m.step source action).machine.Admits source
      (fun m action => ¬ m.Renews source action) rest) ∨
    (m.step source action).machine.RolledBack source rest := by
  constructor
  · rintro ⟨xs, next, ys, heq, hrolls, hkept⟩
    cases xs with
    | nil =>
      obtain ⟨rfl, rfl⟩ := List.cons.inj heq
      exact .inl ⟨hrolls, hkept⟩
    | cons first xs =>
      obtain ⟨rfl, rfl⟩ := List.cons.inj heq
      exact .inr ⟨xs, next, ys, rfl, hrolls, hkept⟩
  · rintro (⟨hrolls, hkept⟩ | ⟨xs, next, ys, rfl, hrolls, hkept⟩)
    · exact ⟨[], action, rest, rfl, hrolls, hkept⟩
    · exact ⟨action :: xs, next, ys, rfl, hrolls, hkept⟩

/-- A run ends in a misreport if a listing was rolled back last, or if it began in one that nothing
has mended since. -/
theorem Fresh.misreports_run (h : m.Fresh) (source : Source ρ α) (actions : List (Action ρ α)) :
    Misreports (m.run source actions).machine.cache ↔ m.RolledBack source actions ∨
      Misreports m.cache ∧
        m.Admits source (fun m action => ¬ m.Renews source action) actions := by
  induction actions generalizing m with
  | nil =>
    have hnone : ¬ m.RolledBack source [] := by
      rintro ⟨xs, action, ys, heq, -⟩
      simp at heq
    simp [Admits, hnone]
  | cons action rest ih =>
    rw [run, ih (h.step source action), h.misreports_step, rolledBack_cons, Admits]
    tauto

theorem fresh_run (source : Source ρ α) (config : Config) (monitors : Monitors)
    (actions : List (Action ρ α)) :
    ((new config monitors).run source actions).machine.Fresh :=
  run_preserves (fun _ action h => h.step source action) (fresh_new config monitors) actions

/-- A cache says that it is loaded if it holds the full collection, except where a listing was
rolled back over it. -/
theorem run_loaded_iff (source : Source ρ α) (config : Config) (monitors : Monitors)
    (actions : List (Action ρ α)) :
    ((new config monitors).run source actions).machine.cache.freshness = .loaded ↔
      ((new config monitors).run source actions).machine.cache.isFullyCached = true ∧
        ¬ (new config monitors : Machine α).RolledBack source actions := by
  have hrun := (fresh_new config monitors).misreports_run source actions
  have hnew : ¬ Misreports (new config monitors : Machine α).cache := fun h => by cases h.1
  constructor
  · intro hloaded
    refine ⟨(fresh_run source config monitors actions).complete hloaded, fun hrolled => ?_⟩
    exact (hrun.2 (.inl hrolled)).2 hloaded
  · rintro ⟨hcomplete, hrolled⟩
    by_contra hloaded
    rcases hrun.1 ⟨hcomplete, hloaded⟩ with hrolled' | ⟨hbegan, -⟩
    · exact hrolled hrolled'
    · exact hnew hbegan

end Machine

section Items

open Scripted Machine

/-- A listing that is dropped after the collection was reconciled under it. -/
def overtakenFailure : List (Action Item Item) :=
  [.start .all ⟨0, [], 0⟩, .poll 0, .edit (.reconcile Item.merge [{ name := "x" }]), .abort 0]

/-- A full collection that the cache reports as never fetched. -/
theorem freshness_overtakenFailure :
    let m := ((new {}).run (Item.source Item.merge) overtakenFailure).machine
    m.cache.isFullyCached = true ∧ m.cache.freshness = .empty ∧
      ¬ (m.cache.freshness = .loaded ↔ m.cache.isFullyCached = true) :=
  ⟨rfl, rfl, fun h => nomatch h.2 rfl⟩

end Items

end CatalogBrowser.Cache
