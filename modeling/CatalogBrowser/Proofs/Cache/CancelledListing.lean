import CatalogBrowser.Proofs.Cache.Descent
import CatalogBrowser.Proofs.Cache.Promise

/-!
# Listings that are given up

Those who wait for a listing learn that it was cancelled only if its leader was: the leader was
dropped, or it ran although it was cancelled. A listing that is answered, also by an error, tells
them something else. Nobody begins to wait for a listing that was given up already.

## Main definitions

* `Forsaken` - a listing of which those who wait for it learn that it was cancelled.
* `Unresolved` - nobody was told anything of the listing in flight.

## Main statements

* `Load.forsaken_run` - a load that is not cancelled gives nothing up.
* `Load.Ran.awaits` - a load begins to wait for listings that have no result.
-/

namespace CatalogBrowser.Cache

variable {ω κ ρ α : Type} {source : Source ρ α} {c c' : Cache α} {promise : Nat}

/-- Those who wait for a listing learn that it was cancelled. -/
def Forsaken (c : Cache α) (promise : Nat) : Prop :=
  c.fetchResults.result? promise = some (.error .cancelled)

/-- The listing in flight has no result. -/
def Unresolved (c : Cache α) : Prop :=
  ∀ flight, c.fetch = some flight → c.fetchResults.Open flight.promise

theorem forsaken_iff_outcome? :
    c.Forsaken promise ↔ c.outcome? (.fetch promise) = some (.fetched (.error .cancelled)) := by
  rw [Forsaken, outcome?]
  cases c.fetchResults.result? promise <;> simp

theorem not_forsaken_of_open (h : c.fetchResults.Open promise) : ¬c.Forsaken promise := by
  intro hforsaken
  rw [Forsaken, h.2] at hforsaken
  cases hforsaken

section Turn

variable {call : Call} {action : Action ρ α} {turn : Turn α}

/-- An answer to a listing is not that it was cancelled. -/
theorem forsaken_acceptListing {request : Request} {lead : FetchLead}
    {answer : Except ConnectionError (List ρ)}
    (h : (c.acceptListing source request lead answer).cache.Forsaken promise) :
    c.Forsaken promise := by
  cases answer with
  | error error =>
    rcases result?_of_resolve h with hbefore | ⟨-, herror⟩
    · exact hbefore
    · cases herror
  | ok records =>
    obtain ⟨-, hresults⟩ := commitFetch_results source c request lead
      (records.filterMap source.construct)
    rw [Forsaken, acceptListing, Turn.after, hresults] at h
    rcases result?_of_resolve h with hbefore | ⟨-, hok⟩
    · exact hbefore
    · cases hok

/-- The listing in flight has no result after a turn either. -/
theorem Turned.unresolved (hturn : Turned source c call action turn) (h : c.Unresolved) :
    turn.cache.Unresolved := by
  intro flight hflight
  cases hturn with
  | leadFetch =>
    obtain rfl := Option.some.inj hflight
    exact Promises.open_push_none.2 (.inl rfl)
  | tryFetch => exact Promises.open_push_some.2 (h flight hflight)
  | failFetch => cases hflight
  | @listed lead records =>
    rw [Turn.after, commitFetch_fetch] at hflight
    cases hflight
  | _ => exact h flight hflight

theorem unresolved_edit (source : Source ρ α) (h : c.Unresolved) (edit : Edit α) :
    (edit.apply source c).2.1.Unresolved := by
  have hflights := sameFlights_edit source c edit
  intro flight hflight
  rw [hflights.fetch] at hflight
  rw [hflights.fetchResults]
  exact h flight hflight

/-- A call begins to wait for a listing that has no result. -/
theorem Turned.awaits (hturn : Turned source c call action turn) (h : c.Unresolved)
    {current : Bool} (hwaits : turn.progress.stage? = some (.awaitingFetch promise current)) :
    call.stage = .awaitingFetch promise current ∨ turn.cache.fetchResults.Open promise := by
  cases hturn with
  | rest => exact .inl (Option.some.inj hwaits)
  | joinFetch _ hfetch =>
    obtain ⟨rfl, -⟩ := Stage.awaitingFetch.inj (Option.some.inj hwaits)
    exact .inr (h _ hfetch)
  | listed =>
    rw [Turn.after, commitFetch_stage?] at hwaits
    cases hwaits
  | _ => cases hwaits

end Turn

section Load

variable {load : Load κ} {stage? : Option Stage}

theorem Load.Ran.unresolved (h : Load.Ran source c load c' stage?) (hc : c.Unresolved) :
    c'.Unresolved := by
  cases h with
  | once hturn => exact hturn.unresolved hc
  | twice hfirst _ hsecond => exact hsecond.unresolved (hfirst.unresolved hc)

/-- A load begins to wait for a listing that has no result. -/
theorem Load.Ran.awaits (h : Load.Ran source c load c' stage?) (hc : c.Unresolved)
    {current : Bool} (hwaits : stage? = some (.awaitingFetch promise current)) :
    load.stage = .awaitingFetch promise current ∨ c'.fetchResults.Open promise := by
  cases h with
  | once hturn => exact hturn.awaits hc hwaits
  | @twice _ _ turn turn' stage hfirst hstage hsecond =>
    rcases hsecond.awaits (hfirst.unresolved hc) hwaits with hold | hnew
    · refine (hfirst.awaits hc (hstage.trans (congrArg some hold))).imp_right fun hopen => ?_
      -- a call that waits for a listing gives no results
      have howes : ({ load.call with stage } : Call).stage.owes? ≠ some (.fetch promise) := by
        rw [show ({ load.call with stage } : Call).stage = _ from hold]
        exact nofun
      have hmade : turn.cache.Open (.fetch promise) := hopen
      have hsame := hsecond.outcome?_eq (open_iff.1 hmade).1 howes
      have hopen' : turn'.cache.Open (.fetch promise) :=
        open_iff.2 ⟨Nat.lt_of_lt_of_le hopen.1 hsecond.grown.fetchResults,
          hsame.trans (open_iff.1 hmade).2⟩
      exact hopen'
    · exact .inr hnew

/-- A load gives up the listing that it leads, and no other. -/
theorem Load.Ran.forsaken (h : Load.Ran source c load c' stage?)
    (hmade : promise < c.fetchResults.size) (hforsaken : c'.Forsaken promise) :
    c.Forsaken promise ∨ ∃ lead, load.stage = .listing lead ∧ lead.promise = promise := by
  have howner : ∀ {stage : Stage}, stage.owes? = some (.fetch promise) →
      ∃ lead, stage = .listing lead ∧ lead.promise = promise := by
    intro stage howes
    cases stage with
    | listing lead => exact ⟨lead, rfl, Channel.fetch.inj (Option.some.inj howes)⟩
    | lookingUp => cases howes
    | start | awaitingFetch | awaitingLookup => cases howes
  have hturn : ∀ {d : Cache α} {call : Call} {action : Action ρ α} {turn : Turn α},
      Turned source d call action turn → promise < d.fetchResults.size →
      turn.cache.Forsaken promise →
      d.Forsaken promise ∨ call.stage.owes? = some (.fetch promise) := by
    intro d call action turn hturn hmade hforsaken
    by_cases howes : call.stage.owes? = some (.fetch promise)
    · exact .inr howes
    · have hmade : d.Made (.fetch promise) := hmade
      rw [forsaken_iff_outcome?, hturn.outcome?_eq hmade howes] at hforsaken
      exact .inl (forsaken_iff_outcome?.2 hforsaken)
  cases h with
  | once hfirst => exact (hturn hfirst hmade hforsaken).imp_right howner
  | @twice _ _ turn _ stage hfirst hstage hsecond =>
    have hmade' := Nat.lt_of_lt_of_le hmade hfirst.grown.fetchResults
    rcases hturn hsecond hmade' hforsaken with hbefore | howes
    · exact (hturn hfirst hmade hbefore).imp_right howner
    · obtain ⟨lead, hlead, rfl⟩ := howner howes
      rcases hfirst.listing_of_stage? (hstage.trans (congrArg some hlead)) with hold | ⟨rfl, -⟩
      · exact .inr ⟨lead, hold, rfl⟩
      · exact absurd hmade (Nat.lt_irrefl _)

/-- A load that is not cancelled gives nothing up. -/
theorem Load.forsaken_run {remote : Remote ω κ ρ} {world : ω} {cancelled : Bool}
    (hmade : promise < c.fetchResults.size)
    (hforsaken : (load.run source remote world c cancelled).cache.Forsaken promise) :
    c.Forsaken promise ∨
      cancelled = true ∧ ∃ lead, load.stage = .listing lead ∧ lead.promise = promise := by
  rcases (Load.ran_run source remote world c load cancelled).forsaken hmade hforsaken with
    hbefore | ⟨lead, hstage, rfl⟩
  · exact .inl hbefore
  cases cancelled with
  | true => exact .inr ⟨rfl, lead, hstage, rfl⟩
  | false =>
    refine .inl ?_
    obtain ⟨request, stage, query⟩ := load
    obtain rfl := hstage
    have hpoll : c.poll request (.listing lead) false =
        { cache := c, progress := .waiting (.listing lead) } := rfl
    generalize hasked : Load.ask remote world { request, stage := .listing lead, query } =
      asked at hforsaken
    obtain ⟨hstage', -⟩ := Load.ask_stage remote world { request, stage := .listing lead, query }
    rw [hasked] at hstage'
    simp only [Load.run, hpoll, hasked] at hforsaken
    cases htake : Load.take? source remote asked.1 c asked.2 with
    | none =>
      rw [htake] at hforsaken
      exact hforsaken
    | some answered =>
      rw [htake] at hforsaken
      rw [Load.take?] at htake
      obtain ⟨query, -, htake⟩ := Option.bind_eq_some_iff.1 htake
      rw [show asked.2.stage = .listing lead from hstage'] at htake
      obtain ⟨answer, -, htake⟩ := Option.bind_eq_some_iff.1 htake
      obtain rfl := Option.some.inj htake
      exact forsaken_acceptListing hforsaken

end Load

end CatalogBrowser.Cache
