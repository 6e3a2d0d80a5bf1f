import CatalogBrowser.Proofs.Cache.Freshness
import CatalogBrowser.Proofs.Cache.Index
import CatalogBrowser.Proofs.Cache.Liveness

/-!
# Calls that come to nothing

As long as the remote side delivers nothing, calls leave a cache as it was. Its contents never
change meanwhile, and its freshness only while a listing is outstanding: each listing remembers the
freshness that it found, which is the one at the start, since the listing before it has put that
back. So once all calls are gone, whether they failed, were cancelled or were dropped, nothing is
left of them.

## Main definitions

* `Event.isChange` - whether an event tells of a change to what is cached.
* `Action.delivers`, `Machine.Fruitless` - answers that succeed, and actions that bring no such one.
* `SameContents`, `Restored` - what stays meanwhile, and what is the same again in the end.
* `Machine.Suspended` - the invariant: whoever leads a fetch will put the freshness back.

## Main statements

* `Turned.sameContents`, `Turned.freshness_kept` - a turn without a delivery.
* `Machine.Suspended.step`, `Machine.Suspended.run` - the invariant holds as long as nothing is
  delivered.
* `Machine.run_restored` - nothing is left of calls that come to nothing.
-/

namespace CatalogBrowser.Cache

variable {ρ α : Type} {source : Source ρ α}

/-- Whether an event tells of a change to what is cached. -/
def Event.isChange : Event α → Bool
  | .merged .. | .evicted .. | .notified .. => true
  | _ => false

/-- Whether an action is an answer of the remote side that succeeds. -/
def Action.delivers : Action ρ α → Bool
  | .listed _ (.ok _) | .found _ (.ok _) => true
  | _ => false

/-- Caches with the same objects in the same view. -/
structure SameContents (c c' : Cache α) : Prop where
  config : c'.config = c.config
  generation : c'.generation = c.generation
  snapshot : c'.snapshot = c.snapshot
  objects : c'.objects = c.objects

theorem SameContents.refl (c : Cache α) : SameContents c c := ⟨rfl, rfl, rfl, rfl⟩

theorem SameContents.trans {c c' c'' : Cache α} (h : SameContents c c')
    (h' : SameContents c' c'') : SameContents c c'' where
  config := h'.config.trans h.config
  generation := h'.generation.trans h.generation
  snapshot := h'.snapshot.trans h.snapshot
  objects := h'.objects.trans h.objects

/-- A cache that is again as it was, with nothing in flight. -/
structure Restored (c c' : Cache α) : Prop where
  contents : SameContents c c'
  freshness : c'.freshness = c.freshness
  fetch : c.fetch = none ∧ c'.fetch = none
  lookups : c.lookups = [] ∧ c'.lookups = []

section Turn

variable {c : Cache α} {call : Call} {action : Action ρ α} {turn : Turn α}

theorem Notes.no_change {events : List (Event α)} (h : Notes events) :
    ∀ event ∈ events, event.isChange = false := by
  intro event hevent
  have hnote := h event hevent
  cases event <;> first | rfl | cases hnote

/-- A turn without a delivery leaves the contents alone. -/
theorem Turned.sameContents (hturn : Turned source c call action turn)
    (hbarren : action.delivers = false) : SameContents c turn.cache := by
  cases hturn with
  | listed | absent | present | handOut | keep => cases hbarren
  | _ => exact ⟨rfl, rfl, rfl, rfl⟩

theorem Turned.no_change (hturn : Turned source c call action turn)
    (hbarren : action.delivers = false) : ∀ event ∈ turn.events, event.isChange = false := by
  have hask : ∀ {events : List (Event α)} {question : Event α}, Notes events →
      question.isChange = false → ∀ event ∈ events ++ [question], event.isChange = false := by
    intro events question hnotes hquestion event hevent
    rcases List.mem_append.1 hevent with hevent | hevent
    · exact hnotes.no_change event hevent
    · rw [List.mem_singleton.1 hevent]
      exact hquestion
  cases hturn with
  | listed | absent | present | handOut | keep => cases hbarren
  | leadFetch _ _ _ _ hnotes | leadLookup _ _ _ _ _ _ hnotes => exact hask hnotes rfl
  | quit _ hnotes | remember _ _ hnotes | joinFetch _ _ hnotes => exact hnotes.no_change
  | joinLookup _ _ _ _ hnotes | tryFetch _ _ hnotes => exact hnotes.no_change
  | tryLookup _ _ hnotes | failFetch _ hnotes => exact hnotes.no_change
  | rest | learnFetch | learnLookup | failLookup => exact notes_nil.no_change

/-- Without a delivery, a turn changes the freshness only if it asks for a listing, or ends one. -/
theorem Turned.freshness_kept (hturn : Turned source c call action turn)
    (hbarren : action.delivers = false) :
    (turn.cache.freshness = c.freshness ∧ turn.cache.fetch = c.fetch) ∨
      turn.cache = c.withFetch ∨ ∃ lead error, call.stage = .listing lead ∧
        turn.cache = (c.abortFetch lead).resolveFetch lead.promise (.error error) := by
  cases hturn with
  | listed | absent | present | handOut | keep => cases hbarren
  | leadFetch => exact .inr (.inl rfl)
  | failFetch hstage => exact .inr (.inr ⟨_, _, hstage, rfl⟩)
  | _ => exact .inl ⟨rfl, rfl⟩

end Turn

namespace Machine

variable {base : Cache α} {m : Machine α} {action : Action ρ α}

/-- An action of calls that come to nothing: it is no edit, and if it is an answer of the remote
side that succeeds, nobody takes it any more. -/
def Fruitless (m : Machine α) (action : Action ρ α) : Prop :=
  (∀ edit, action ≠ .edit edit) ∧ (action.delivers = true → m.answers action = false)

instance (m : Machine α) (action : Action ρ α) : Decidable (m.Fruitless action) :=
  have : Decidable (∀ edit, action ≠ .edit edit) :=
    match action with
    | .edit edit => .isFalse fun h => h edit rfl
    | .start .. | .poll _ | .listed .. | .found .. | .abort _ | .cancel _ => .isTrue nofun
  inferInstanceAs (Decidable (_ ∧ _))

/-- An answer that nobody takes does nothing. -/
theorem step_of_not_answers (hdelivers : action.delivers = true)
    (hanswers : m.answers action = false) : m.step source action = { machine := m } := by
  cases action with
  | start | poll | abort | cancel | edit => cases hdelivers
  | listed id answer =>
    cases hfound : m.call? id with
    | none => simp only [step, hfound]
    | some call =>
      simp only [answers, hfound, Option.any_some] at hanswers
      simp only [step, hfound]
      split
      next lead hstage hactive =>
        rw [hstage, hactive] at hanswers
        cases hanswers
      next => rfl
  | found id answer =>
    cases hfound : m.call? id with
    | none => simp only [step, hfound]
    | some call =>
      simp only [answers, hfound, Option.any_some] at hanswers
      simp only [step, hfound]
      split
      next lead hstage hactive =>
        rw [hstage, hactive] at hanswers
        cases hanswers
      next => rfl

/-- Nothing was delivered since the cache was `base`, and it will be as it was then once no listing
is outstanding. -/
structure Suspended (base : Cache α) (m : Machine α) : Prop where
  led : m.Led
  contents : SameContents base m.cache
  idle : m.cache.fetch = none → m.cache.freshness = base.freshness
  prior : ∀ leader ∈ m.calls, ∀ lead, leader.stage = .listing lead →
    lead.generation = base.generation ∧ lead.prior = base.freshness

theorem Led.fetch_eq_none (h : m.Led) (hcalls : m.calls = []) : m.cache.fetch = none := by
  by_contra hfetch
  obtain ⟨call, hcall, -⟩ := h.lists_iff.2 hfetch
  rw [hcalls] at hcall
  cases hcall

theorem Led.lookups_eq_nil (h : m.Led) (hcalls : m.calls = []) : m.cache.lookups = [] := by
  have hperm := h.slots.lookups
  rw [hcalls] at hperm
  exact List.perm_nil.1 hperm

theorem Led.suspended (h : m.Led) (hcalls : m.calls = []) : Suspended m.cache m where
  led := h
  contents := .refl m.cache
  idle _ := rfl
  prior leader hleader := by
    rw [hcalls] at hleader
    cases hleader

/-- Where a listing ends without success, the freshness is the one that it found. -/
theorem Suspended.idle_turned (h : Suspended base m) {call : Call} {turn : Turn α}
    (hcall : call ∈ m.calls) (hturn : Turned source m.cache call action turn)
    (hbarren : action.delivers = false) (hfetch : turn.cache.fetch = none) :
    turn.cache.freshness = base.freshness := by
  rcases hturn.freshness_kept hbarren with
    ⟨hfreshness, hsame⟩ | hcache | ⟨lead, error, hstage, hcache⟩
  · rw [hfreshness]
    exact h.idle (hsame ▸ hfetch)
  · rw [hcache] at hfetch
    cases hfetch
  · obtain ⟨hgeneration, hprior⟩ := h.prior call hcall lead hstage
    rw [hcache, ← hprior]
    exact if_pos (h.contents.generation.trans hgeneration.symm)

/-- And a listing that is asked for finds the freshness of the start. -/
theorem Suspended.prior_turned (h : Suspended base m) {call : Call} {turn : Turn α}
    {lead : FetchLead} (hcall : call ∈ m.calls) (hturn : Turned source m.cache call action turn)
    (hstage? : turn.progress.stage? = some (.listing lead)) :
    lead.generation = base.generation ∧ lead.prior = base.freshness := by
  cases hturn with
  | rest => exact h.prior call hcall lead (Option.some.inj hstage?)
  | leadFetch _ _ hidle =>
    obtain rfl := Stage.listing.inj (Option.some.inj hstage?)
    exact ⟨h.contents.generation, h.idle hidle⟩
  | listed =>
    rw [Turn.after, commitFetch_stage?] at hstage?
    cases hstage?
  | _ => cases hstage?

/-- Where nothing is delivered, an action leaves it so, and changes nothing that is cached. -/
theorem Suspended.step_of_not_delivers (h : Suspended base m) (source : Source ρ α)
    (hedit : ∀ edit, action ≠ .edit edit) (hbarren : action.delivers = false) :
    Suspended base (m.step source action).machine ∧
      ∀ event ∈ (m.step source action).events, event.isChange = false := by
  have hled := h.led.step source action
  have hnothing : (m.step source action).events = [] →
      ∀ event ∈ (m.step source action).events, event.isChange = false := fun hevents => by
    rw [hevents]
    exact notes_nil.no_change
  have hprior : ∀ leader ∈ (m.step source action).machine.calls, ∀ lead,
      leader.stage = .listing lead →
      lead.generation = base.generation ∧ lead.prior = base.freshness := by
    intro leader hleader lead hstage
    cases h.led.numbered.pends source action hleader with
    | stay hpending => exact h.prior leader hpending lead hstage
    | start => cases hstage
    | @turn mover turn stage hpending turned hstage? =>
      obtain rfl : stage = .listing lead := hstage
      exact h.prior_turned hpending turned hstage?
  cases h.led.numbered.stepped source action with
  | idle cache _ _ events =>
    exact ⟨⟨hled, by rw [cache]; exact h.contents, by rw [cache]; exact h.idle, hprior⟩,
      hnothing events⟩
  | start _ _ cache _ _ events =>
    exact ⟨⟨hled, by rw [cache]; exact h.contents, by rw [cache]; exact h.idle, hprior⟩,
      hnothing events⟩
  | edit edit same => exact absurd same (hedit edit)
  | @turn call turn before behind _ turned pending cache _ _ events =>
    have hcall : call ∈ m.calls := by rw [pending]; simp
    refine ⟨⟨hled, ?_, ?_, hprior⟩, ?_⟩
    · rw [cache]
      exact h.contents.trans (turned.sameContents hbarren)
    · rw [cache]
      exact h.idle_turned hcall turned hbarren
    · rw [events]
      exact turned.no_change hbarren

theorem Suspended.step (h : Suspended base m) (source : Source ρ α)
    (hfruitless : m.Fruitless action) :
    Suspended base (m.step source action).machine ∧
      ∀ event ∈ (m.step source action).events, event.isChange = false := by
  cases hdelivers : action.delivers with
  | false => exact h.step_of_not_delivers source hfruitless.1 hdelivers
  | true =>
    rw [step_of_not_answers hdelivers (hfruitless.2 hdelivers)]
    exact ⟨h, notes_nil.no_change⟩

theorem Suspended.run (h : Suspended base m) (source : Source ρ α) {actions : List (Action ρ α)}
    (hfruitless : m.Admits source Fruitless actions) :
    Suspended base (m.run source actions).machine ∧
      ∀ event ∈ (m.run source actions).events, event.isChange = false := by
  induction actions generalizing m with
  | nil => exact ⟨h, notes_nil.no_change⟩
  | cons action rest ih =>
    obtain ⟨hnext, hfirst⟩ := h.step source hfruitless.1
    obtain ⟨hend, hlater⟩ := ih hnext hfruitless.2
    refine ⟨hend, fun event hevent => ?_⟩
    rcases List.mem_append.1 hevent with hevent | hevent
    · exact hfirst event hevent
    · exact hlater event hevent

/-- Where all calls are gone, the cache is as it was. -/
theorem Suspended.restored (h : Suspended base m) (hbase : base.fetch = none ∧ base.lookups = [])
    (hcalls : m.calls = []) : Restored base m.cache where
  contents := h.contents
  freshness := h.idle (h.led.fetch_eq_none hcalls)
  fetch := ⟨hbase.1, h.led.fetch_eq_none hcalls⟩
  lookups := ⟨hbase.2, h.led.lookups_eq_nil hcalls⟩

/-- Whatever calls are made of a cache at any point of a run at which none is pending, in whatever
order and with whatever monitors: if the remote side delivers nothing to them, then once none of
them is pending, the cache is as it was, and nothing was merged, evicted or notified. -/
theorem run_restored (source : Source ρ α) (config : Config) (monitors : Monitors)
    (xs ys : List (Action ρ α))
    (hbefore : ((new config monitors).run source xs).machine.calls = [])
    (hfruitless : ((new config monitors).run source xs).machine.Admits source Fruitless ys)
    (hafter : (((new config monitors).run source xs).machine.run source ys).machine.calls = []) :
    let base := ((new config monitors).run source xs).machine
    let moved := base.run source ys
    Restored base.cache moved.machine.cache ∧ ∀ event ∈ moved.events, event.isChange = false := by
  intro base moved
  have hled : base.Led := led_run source config monitors xs
  obtain ⟨hsuspended, hevents⟩ := (hled.suspended hbefore).run source hfruitless
  exact ⟨hsuspended.restored ⟨hled.fetch_eq_none hbefore, hled.lookups_eq_nil hbefore⟩ hafter,
    hevents⟩

end Machine

section Items

open Scripted Machine

/-- A single object was looked up. -/
def foundItem : List (Action Item Item) :=
  [.start (.one (.id 1)) ⟨0, [], 0⟩, .poll 0, .found 0 (.ok (some (.withId 1 5)))]

/-- A lookup and a listing overlap and fail, with a refresh that waits for the listing. Another
lookup and another refresh are cancelled before their answers arrive, and a last listing is
dropped. -/
def failingCalls : List (Action Item Item) :=
  [.start (.one (.id 2)) ⟨0, [], 0⟩, .poll 1, .start .all ⟨1, [], 0⟩, .poll 2,
    .start .refresh ⟨1, [], 0⟩, .poll 3, .found 1 (.error (.queryFailed "busy")),
    .listed 2 (.error (.connectionLost "gone")), .poll 3, .start (.one (.id 3)) ⟨2, [], 0⟩,
    .poll 4, .start .refresh ⟨2, [], 0⟩, .poll 5, .cancel ⟨2, [], 0⟩,
    .listed 5 (.ok [.withId 7 0]), .found 4 (.ok (some (.withId 3 0))), .poll 4, .poll 5,
    .start .all ⟨1, [], 0⟩, .poll 6, .abort 6, .listed 6 (.ok [])]

theorem run_restored_failingCalls :
    let base := ((new {} : Machine Item).run (Item.source Item.merge) foundItem).machine
    let moved := base.run (Item.source Item.merge) failingCalls
    base.cache.snapshot.entries = [0] ∧ moved.finished.map (·.1) = [1, 2, 3, 4, 5] ∧
      Restored base.cache moved.machine.cache ∧
      ∀ event ∈ moved.events, event.isChange = false := by
  refine ⟨by decide +kernel, by decide +kernel,
    run_restored (Item.source Item.merge) {} {} foundItem failingCalls ?before ?fruitless ?after⟩
  case before => rfl
  case fruitless => decide +kernel
  case after => decide +kernel

end Items

end CatalogBrowser.Cache
