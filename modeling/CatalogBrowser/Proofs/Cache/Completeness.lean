import CatalogBrowser.Proofs.Cache.Freshness

/-!
# What is complete is not loaded again

A cache that holds the full collection answers from memory, and asks the remote side for nothing
unless it is told to refresh. It stays complete until it is cleared, which starts a new generation.
A call for all objects whose listing is accepted leaves the cache complete, or belongs to a
generation that is over; so there is at most one such listing in each generation.

## Main definitions

* `Machine.acceptsLoad`, `Machine.loads` - the listings for all objects that are accepted in a run.
* `Machine.Memoized` - what a complete cache answers, asks and keeps.
* `Machine.Spent` - the invariant: no call for all objects will list in a generation any more.

## Main statements

* `Machine.Numbered.complete_run` - a complete cache stays complete until it is cleared.
* `Machine.Led.spent` - an accepted listing spends its generation.
* `Machine.run_memoized` - the full collection is listed at most once in a generation.
-/

namespace CatalogBrowser.Cache

variable {ρ α : Type} {source : Source ρ α}

section Turn

variable {c : Cache α} {call : Call} {action : Action ρ α} {turn : Turn α}

theorem commitFetch_complete {lead : FetchLead} (h : c.generation = lead.generation)
    (request : Request) (fresh : List α) :
    (c.commitFetch source request lead fresh).cache.isFullyCached = true := by
  rw [commitFetch_of_current h]
  rfl

/-- No turn loses the full collection. -/
theorem Turned.complete (hturn : Turned source c call action turn)
    (hcomplete : c.isFullyCached = true) : turn.cache.isFullyCached = true := by
  cases hturn with
  | @listed lead records =>
    rw [Turn.after]
    by_cases hgeneration : c.generation = lead.generation
    · exact commitFetch_complete hgeneration _ _
    · rw [commitFetch_of_outdated hgeneration]
      exact hcomplete
  | keep _ _ _ _ hpartial =>
    rw [isFullyCached, hpartial] at hcomplete
    cases hcomplete
  | _ => exact hcomplete

/-- Over the full collection, only a refresh asks the remote side, and it asks for a listing. -/
theorem Turned.questions_of_complete (hturn : Turned source c call action turn)
    (hcomplete : c.isFullyCached = true) :
    questions turn.events = [] ∨
      questions turn.events = [.listing] ∧ call.request = .refresh := by
  cases hturn.poses with
  | nothing quiet => exact .inl quiet
  | listing posed request _ missing =>
    refine .inr ⟨posed, ?_⟩
    cases hrequest : call.request with
    | refresh => rfl
    | all =>
      rw [isFullyCached, missing hrequest] at hcomplete
      cases hcomplete
    | one identity => exact absurd hrequest (request identity)
  | lookup _ _ _ _ missing =>
    rw [isFullyCached, missing] at hcomplete
    cases hcomplete

/-- A call for objects that runs for the first time is answered from the full collection, cancelled
or not. -/
theorem poll_of_complete (hcomplete : c.isFullyCached = true) {request : Request}
    (hrequest : request ≠ .refresh) (cancelled : Bool) :
    ∃ reply, Recalls c request reply ∧ (c.poll request .start cancelled).cache = c ∧
      (c.poll request .start cancelled).progress = .finished (.ok reply) ∧
      Notes (c.poll request .start cancelled).events := by
  have hcomplete : c.snapshot.complete = true := hcomplete
  cases request with
  | refresh => exact absurd rfl hrequest
  | all =>
    refine ⟨_, .all hcomplete, ?_⟩
    simp [poll, enter, hcomplete, Notes]
  | one identity =>
    cases hfound : c.cachedObject? identity with
    | some ref =>
      refine ⟨_, .one hfound, ?_⟩
      simp [poll, enter, hfound, Notes]
    | none =>
      refine ⟨_, .none hfound hcomplete, ?_⟩
      simp [poll, enter, hfound, hcomplete, Notes]

/-- No edit loses the full collection, except for clearing. -/
theorem complete_of_edit {edit : Edit α} (hedit : edit ≠ .clear)
    (hcomplete : c.isFullyCached = true) : (edit.apply source c).2.1.isFullyCached = true := by
  cases edit with
  | clear => exact absurd rfl hedit
  | set | reconcile => rfl
  | insert | remove | sort | change => rw [(kept_of_edit id).2, hcomplete]

end Turn

namespace Machine

variable {m : Machine α} {action : Action ρ α} {generation : Nat}

/-- Whether an action hands a successful listing to a call for all objects that asked for it in a
generation. -/
def acceptsLoad (generation : Nat) (m : Machine α) : Action ρ α → Bool
  | .listed id (.ok _) => (m.call? id).any fun call =>
      call.request = .all && !m.isCancelled call &&
        call.stage.fetchLead?.any (·.generation = generation)
  | _ => false

/-- How many listings that calls for all objects asked for in a generation are accepted. -/
def loads (source : Source ρ α) (generation : Nat) (m : Machine α) : List (Action ρ α) → Nat
  | [] => 0
  | action :: rest =>
    (if m.acceptsLoad generation action then 1 else 0) +
      (m.step source action).machine.loads source generation rest

/-- What a complete cache answers, asks and keeps. -/
structure Memoized (m : Machine α) (source : Source ρ α) : Prop where
  /-- A call for objects that runs for the first time finishes from memory, cancelled or not. -/
  recalls : m.cache.isFullyCached = true → ∀ call ∈ m.calls, call.stage = .start →
    call.request ≠ .refresh → ∃ reply, Recalls m.cache call.request reply ∧
      (m.step source (.poll call.id)).finished = [(call.id, .ok reply)] ∧
      (m.step source (.poll call.id)).machine.cache = m.cache ∧
      Notes (m.step source (.poll call.id)).events
  /-- Only a refresh asks the remote side, and it asks for a listing. -/
  asks : m.cache.isFullyCached = true → ∀ action,
    questions (m.step source action).events = [] ∨
      questions (m.step source action).events = [.listing] ∧
        ∃ call ∈ m.calls, action.call? = some call.id ∧ call.request = .refresh
  /-- The collection stays complete until it is cleared. -/
  lasts : m.cache.isFullyCached = true → ∀ actions : List (Action ρ α),
    (∀ action ∈ actions, action ≠ .edit .clear) →
    (m.run source actions).machine.cache.isFullyCached = true

theorem exists_of_acceptsLoad (h : m.acceptsLoad generation action = true) :
    ∃ call ∈ m.calls, ∃ lead records, action = .listed call.id (.ok records) ∧
      call.request = .all ∧ call.stage = .listing lead ∧ lead.generation = generation ∧
      m.isCancelled call = false := by
  unfold acceptsLoad at h
  split at h
  next id records =>
    obtain ⟨call, hfound, haccepts⟩ := Option.any_eq_true _ _ |>.1 h
    rw [Bool.and_eq_true, Bool.and_eq_true] at haccepts
    obtain ⟨⟨hrequest, hactive⟩, hlead⟩ := haccepts
    obtain ⟨lead, hstage, hgeneration⟩ := Option.any_eq_true _ _ |>.1 hlead
    obtain ⟨hcall, rfl⟩ := mem_of_call? hfound
    exact ⟨call, hcall, lead, records, rfl, of_decide_eq_true hrequest,
      Stage.fetchLead?_eq_some_iff.1 hstage, of_decide_eq_true hgeneration, by simpa using hactive⟩
  next => cases h

theorem Numbered.complete_step (h : m.Numbered) (source : Source ρ α)
    (haction : action ≠ .edit .clear) (hcomplete : m.cache.isFullyCached = true) :
    (m.step source action).machine.cache.isFullyCached = true := by
  cases h.stepped source action with
  | idle cache => rwa [cache]
  | start _ _ cache => rwa [cache]
  | turn _ turned _ cache =>
    rw [cache]
    exact turned.complete hcomplete
  | edit edit same cache =>
    rw [cache]
    exact complete_of_edit (fun hclear => haction (hclear ▸ same)) hcomplete

/-- A complete cache stays complete until it is cleared. -/
theorem Numbered.complete_run (h : m.Numbered) (source : Source ρ α) {actions : List (Action ρ α)}
    (hactions : ∀ action ∈ actions, action ≠ .edit .clear)
    (hcomplete : m.cache.isFullyCached = true) :
    (m.run source actions).machine.cache.isFullyCached = true := by
  induction actions generalizing m with
  | nil => exact hcomplete
  | cons action rest ih =>
    obtain ⟨hfirst, hrest⟩ := List.forall_mem_cons.1 hactions
    exact ih (h.step source action) hrest (h.complete_step source hfirst hcomplete)

theorem Numbered.memoized (h : m.Numbered) (source : Source ρ α) : m.Memoized source where
  recalls hcomplete call hcall hstage hrequest := by
    obtain ⟨reply, hreply, hcache, hprogress, hnotes⟩ :=
      poll_of_complete hcomplete hrequest (m.isCancelled call)
    refine ⟨reply, hreply, ?_⟩
    rw [h.step_poll source hcall, hstage, take_finished, take_cache, take_events, hprogress]
    exact ⟨rfl, hcache, hnotes⟩
  asks hcomplete action := by
    cases h.stepped source action with
    | idle _ _ _ events => exact .inl (by rw [events]; rfl)
    | start _ _ _ _ _ events => exact .inl (by rw [events]; rfl)
    | edit edit _ _ _ _ events => exact .inl (by rw [events, questions_edit])
    | @turn call turn before behind concerns turned pending _ _ _ events =>
      rw [events]
      rcases turned.questions_of_complete hcomplete with hnone | ⟨hlisting, hrequest⟩
      · exact .inl hnone
      · exact .inr ⟨hlisting, call, by rw [pending]; simp, concerns, hrequest⟩
  lasts hcomplete _ hactions := h.complete_run source hactions hcomplete

/-- No call for all objects will list in a generation any more: the generation is over, or its
collection is complete. -/
structure Spent (generation : Nat) (m : Machine α) : Prop where
  led : m.Led
  reached : generation ≤ m.cache.generation
  complete : m.cache.generation = generation → m.cache.isFullyCached = true
  unled : ∀ call ∈ m.calls, ∀ lead, call.stage = .listing lead → call.request = .all →
    lead.generation ≠ generation

theorem Spent.acceptsLoad (h : Spent generation m) (action : Action ρ α) :
    m.acceptsLoad generation action = false := by
  rw [Bool.eq_false_iff]
  intro haccepts
  obtain ⟨call, hcall, lead, records, -, hrequest, hstage, hgeneration, -⟩ :=
    exists_of_acceptsLoad haccepts
  exact h.unled call hcall lead hstage hrequest hgeneration

theorem Spent.step (h : Spent generation m) (source : Source ρ α) (action : Action ρ α) :
    Spent generation (m.step source action).machine where
  led := h.led.step source action
  reached := Nat.le_trans h.reached (h.led.numbered.grown_step source action).generation
  complete := by
    intro hgeneration
    have hgrown := (h.led.numbered.grown_step source action).generation
    have hsame : m.cache.generation = generation :=
      Nat.le_antisymm (hgeneration ▸ hgrown) h.reached
    refine h.led.numbered.complete_step source ?_ (h.complete hsame)
    -- clearing would start a new generation
    rintro rfl
    exact Nat.succ_ne_self _ (hgeneration.trans hsame.symm)
  unled := by
    intro call hcall lead hstage hrequest
    cases h.led.numbered.pends source action hcall with
    | stay hpending => exact h.unled call hpending lead hstage hrequest
    | start => cases hstage
    | @turn mover turn stage hpending turned hstage? =>
      obtain rfl : stage = .listing lead := hstage
      cases turned with
      | rest => exact h.unled mover hpending lead (Option.some.inj hstage?) hrequest
      | leadFetch _ _ _ hall =>
        obtain rfl := Stage.listing.inj (Option.some.inj hstage?)
        intro hgeneration
        have hcomplete := h.complete hgeneration
        rw [isFullyCached, hall hrequest] at hcomplete
        cases hcomplete
      | listed =>
        rw [Turn.after, commitFetch_stage?] at hstage?
        cases hstage?
      | _ => cases hstage?

theorem Spent.loads (h : Spent generation m) (source : Source ρ α) (actions : List (Action ρ α)) :
    m.loads source generation actions = 0 := by
  induction actions generalizing m with
  | nil => rfl
  | cons action rest ih =>
    rw [Machine.loads, h.acceptsLoad action, ih (h.step source action)]
    rfl

/-- An accepted listing spends its generation. -/
theorem Led.spent (h : m.Led) (source : Source ρ α)
    (haccepts : m.acceptsLoad generation action = true) :
    Spent generation (m.step source action).machine := by
  obtain ⟨call, hcall, lead, records, rfl, hrequest, hstage, rfl, hactive⟩ :=
    exists_of_acceptsLoad haccepts
  have hled := h.step source (.listed call.id (.ok records))
  have hstep := h.numbered.step_listed source hcall hstage hactive (.ok records)
  have hle := ((h.sound call hcall).listing hstage).2.1
  have hgrown := (h.numbered.grown_step source (.listed call.id (.ok records))).generation
  refine ⟨hled, Nat.le_trans hle hgrown, ?_, ?_⟩
  · intro hgeneration
    have hsame : m.cache.generation = lead.generation :=
      Nat.le_antisymm (hgeneration ▸ hgrown) hle
    rw [hstep, take_cache]
    exact commitFetch_complete hsame _ _
  · -- the fetch slot is free now, so nobody lists
    intro other hother lead' hstage'
    have hfree : (m.step source (.listed call.id (.ok records))).machine.cache.fetch = none := by
      rw [hstep, take_cache]
      exact commitFetch_fetch _ _ _ _ _
    exact absurd hfree (hled.lists_iff.1 ⟨other, hother, lead', hstage'⟩)

/-- The listing for all objects is accepted at most once in a generation. -/
theorem Led.loads_le_one (h : m.Led) (source : Source ρ α) (actions : List (Action ρ α)) :
    m.loads source generation actions ≤ 1 := by
  induction actions generalizing m with
  | nil => exact Nat.zero_le 1
  | cons action rest ih =>
    rw [loads]
    cases haccepts : m.acceptsLoad generation action with
    | true =>
      rw [(h.spent source haccepts).loads source rest]
      exact Nat.le_refl 1
    | false =>
      rw [if_neg Bool.false_ne_true, Nat.zero_add]
      exact ih (h.step source action)

/-- In every run, a complete cache answers calls for objects from memory as soon as they run, asks
the remote side for nothing but refreshes, and stays complete until it is cleared; and in each
generation at most one listing is accepted that a call for all objects asked for. -/
theorem run_memoized (source : Source ρ α) (config : Config) (monitors : Monitors)
    (actions : List (Action ρ α)) :
    ((new config monitors).run source actions).machine.Memoized source ∧
      ∀ generation, (new config monitors).loads source generation actions ≤ 1 :=
  ⟨(led_run source config monitors actions).numbered.memoized source,
    fun _ => (led_new config monitors).loads_le_one source actions⟩

end Machine

section Items

open Scripted Machine

/-- A call waits for the listing of another one and is then served from memory; the cache is
cleared, loaded again, and refreshed. -/
def loadedTwice : List (Action Item Item) :=
  [.start .all ⟨0, [], 0⟩, .poll 0, .start .all ⟨0, [], 0⟩, .poll 1,
    .listed 0 (.ok [{ name := "x" }]), .poll 1, .edit .clear, .start .all ⟨0, [], 0⟩, .poll 2,
    .listed 2 (.ok [{ name := "y" }]), .start .refresh ⟨0, [], 0⟩, .poll 3,
    .listed 3 (.ok [{ name := "z" }])]

/-- One listing is accepted before the cache is cleared, and one after. -/
theorem run_memoized_loadedTwice :
    let m := ((new {} : Machine Item).run (Item.source Item.merge) loadedTwice).machine
    m.cache.isFullyCached = true ∧ (new {}).loads (Item.source Item.merge) 0 loadedTwice = 1 ∧
      (new {}).loads (Item.source Item.merge) 1 loadedTwice = 1 ∧
      m.Memoized (Item.source Item.merge) :=
  ⟨by decide +kernel, by decide +kernel, by decide +kernel,
    (run_memoized (Item.source Item.merge) {} {} loadedTwice).1⟩

end Items

end CatalogBrowser.Cache
