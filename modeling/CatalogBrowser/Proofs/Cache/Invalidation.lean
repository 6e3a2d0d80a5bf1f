import CatalogBrowser.Proofs.Cache.Index
import CatalogBrowser.Proofs.Cache.Leadership
import CatalogBrowser.Proofs.Cache.Origin

/-!
# After an invalidation

Replacing or clearing the collection cuts off whatever the remote side was asked for before. Such a
call still ends at some time, but then nobody who looks at the cache notices, and none of the
objects that it delivers is ever given to a call that was started since.

## Main definitions

* `Edit.Invalidates` - an edit that starts a new generation.
* `Machine.Concerns` - an action on a remote call that is older than the invalidation.
* `Machine.Delivered` - an instance that came from such a call.
* `Machine.CutOff` - a machine right after an invalidation.
* `Machine.MakesClean` - an action that makes clean instances, unless it concerns such a call.
* `Machine.Apart` - the invariant: only clean instances are within reach of later calls.

## Main statements

* `Machine.CutOff.unnoticed` - nobody notices how an older remote call ends.
* `Machine.Apart.step`, `Machine.Apart.run` - later calls answer clean instances.
* `Machine.run_invalidated` - both, for every run and every invalidation in it.
-/

namespace CatalogBrowser.Cache

variable {ρ α : Type} {source : Source ρ α}

/-- An edit that starts a new generation. -/
def Edit.Invalidates : Edit α → Prop
  | .set _ | .clear => True
  | _ => False

namespace Machine

variable {base m : Machine α} {action : Action ρ α} {clean : Ref → Prop}

/-- An action on a call that has been waiting for the remote side since `base`. -/
def Concerns (base m : Machine α) (action : Action ρ α) : Prop :=
  ∃ call ∈ base.calls, call.stage.isRemote = true ∧ call ∈ m.calls ∧
    action.call? = some call.id

/-- An instance that was made when the remote side answered a call that had been waiting for it
since `base`. -/
def Delivered (source : Source ρ α) (base : Machine α) (actions : List (Action ρ α)) (ref : Ref) :
    Prop :=
  ∃ xs action ys, actions = xs ++ action :: ys ∧
    base.Concerns (base.run source xs).machine action ∧
    (base.run source xs).machine.cache.objects.size ≤ ref ∧
    ref < (base.run source (xs ++ [action])).machine.cache.objects.size

/-- A machine whose remote calls are all of older generations. -/
structure CutOff (base : Machine α) : Prop where
  led : base.Led
  fetches : ∀ call ∈ base.calls, ∀ lead, call.stage = .listing lead →
    lead.generation < base.cache.generation
  lookups : ∀ call ∈ base.calls, ∀ lead, call.stage = .lookingUp lead →
    lead.generation < base.cache.generation

/-- Calls that were started since `base` can reach clean instances only: in the published view, and
through the promises that were made since. -/
structure Apart (base : Machine α) (clean : Ref → Prop) (m : Machine α) : Prop where
  led : m.Led
  grown : Grown base.cache m.cache
  published : ∀ ref ∈ m.cache.snapshot.refs, clean ref
  fetched : ∀ promise view, base.cache.fetchResults.size ≤ promise →
    m.cache.fetchResults.result? promise = some (.ok view) → ∀ ref ∈ view.refs, clean ref
  found : ∀ promise ref, base.cache.lookupResults.size ≤ promise →
    m.cache.lookupResults.result? promise = some (.ok (some ref)) → clean ref
  awaitsFetch : ∀ call ∈ m.calls, base.started ≤ call.id → ∀ promise,
    call.stage = .awaitingFetch promise true → base.cache.fetchResults.size ≤ promise
  awaitsLookup : ∀ call ∈ m.calls, base.started ≤ call.id → ∀ promise,
    call.stage = .awaitingLookup promise true → base.cache.lookupResults.size ≤ promise
  fetches : ∀ call ∈ m.calls, ∀ lead, call.stage = .listing lead →
    base.cache.generation ≤ lead.generation → base.cache.fetchResults.size ≤ lead.promise
  lookups : ∀ call ∈ m.calls, ∀ lead, call.stage = .lookingUp lead →
    base.cache.generation ≤ lead.generation → base.cache.lookupResults.size ≤ lead.promise

/-- An action that makes clean instances, unless it is on an older remote call. -/
def MakesClean (source : Source ρ α) (base : Machine α) (clean : Ref → Prop) (m : Machine α)
    (action : Action ρ α) : Prop :=
  ¬ base.Concerns m action → ∀ ref, m.cache.objects.size ≤ ref →
    ref < (m.step source action).machine.cache.objects.size → clean ref

theorem CutOff.outdated (h : base.CutOff) (hgrown : Grown base.cache m.cache) {call : Call}
    (hcall : call ∈ base.calls) (hremote : call.stage.isRemote = true) :
    call.Outdated m.cache := by
  unfold Call.Outdated
  cases hstage : call.stage with
  | listing lead =>
    exact Nat.ne_of_lt (Nat.lt_of_lt_of_le (h.fetches call hcall lead hstage) hgrown.generation)
  | lookingUp lead =>
    exact Nat.ne_of_lt (Nat.lt_of_lt_of_le (h.lookups call hcall lead hstage) hgrown.generation)
  | start | awaitingFetch | awaitingLookup => rw [hstage] at hremote; cases hremote

theorem Concerns.eq (h : base.Concerns m action) (hnumbered : m.Numbered) {call : Call}
    (hcall : call ∈ m.calls) (hconcerns : action.call? = some call.id) :
    call ∈ base.calls ∧ call.stage.isRemote = true := by
  obtain ⟨other, hbase, hremote, hother, haction⟩ := h
  have hid : other.id = call.id := Option.some.inj (haction.symm.trans hconcerns)
  have hfound := hnumbered.call?_eq hother
  rw [hid, hnumbered.call?_eq hcall] at hfound
  obtain rfl := Option.some.inj hfound
  exact ⟨hbase, hremote⟩

/-- Nobody notices how a remote call ends that is older than the invalidation. -/
theorem CutOff.unnoticed (h : base.CutOff) (hgrown : Grown base.cache m.cache)
    (hnumbered : m.Numbered) (source : Source ρ α) (hconcerns : base.Concerns m action) :
    Unnoticed m.cache (m.step source action).machine.cache (m.step source action).events := by
  cases hnumbered.stepped source action with
  | idle cache _ _ events =>
    rw [cache, events]
    exact ⟨rfl, rfl, rfl, fun _ _ => rfl, notes_nil⟩
  | start _ _ cache _ _ events =>
    rw [cache, events]
    exact ⟨rfl, rfl, rfl, fun _ _ => rfl, notes_nil⟩
  | edit edit same =>
    obtain ⟨call, -, -, -, haction⟩ := hconcerns
    rw [same] at haction
    cases haction
  | @turn call turn before behind concerns turned pending cache _ _ events =>
    have hmem : call ∈ m.calls := by rw [pending]; simp
    obtain ⟨hbase, hremote⟩ := hconcerns.eq hnumbered hmem concerns
    rw [cache, events]
    exact turned.unnoticed (h.outdated hgrown hbase hremote)

/-- What an action finds published, or makes itself, is clean. -/
theorem Apart.clean_of_known (h : base.Apart clean m)
    (hclean : base.MakesClean source clean m action) (hfresh : ¬ base.Concerns m action)
    {ref : Ref} (hknown : Known m.cache (m.step source action).machine.cache ref) :
    clean ref := by
  rcases hknown with hold | ⟨hle, hlt⟩
  · exact h.published ref hold
  · exact hclean hfresh ref hle hlt

section Step

variable (h : base.Apart clean m) (hbase : base.CutOff)
  (hclean : base.MakesClean source clean m action)

include h hbase hclean

theorem Apart.published_step :
    ∀ ref ∈ (m.step source action).machine.cache.snapshot.refs, clean ref := by
  intro ref href
  by_cases hconcerns : base.Concerns m action
  · have hsame := (hbase.unnoticed h.grown h.led.numbered source hconcerns).snapshot
    exact h.published ref (hsame ▸ href)
  · exact h.clean_of_known hclean hconcerns (h.led.numbered.known_step href)

/-- Views that are promised after an action, and were not promised when the cache was invalidated,
are clean. -/
theorem Apart.fetched_step {promise : Nat} {view : Snapshot}
    (hpromise : base.cache.fetchResults.size ≤ promise)
    (hview : (m.step source action).machine.cache.fetchResults.result? promise =
      some (.ok view)) : ∀ ref ∈ view.refs, clean ref := by
  cases h.led.numbered.stepped source action with
  | idle cache => exact h.fetched promise view hpromise (cache ▸ hview)
  | start _ _ cache => exact h.fetched promise view hpromise (cache ▸ hview)
  | edit edit _ cache =>
    rw [cache, (sameFlights_edit source m.cache edit).fetchResults] at hview
    exact h.fetched promise view hpromise hview
  | @turn call turn before behind concerns turned pending cache =>
    have hmem : call ∈ m.calls := by rw [pending]; simp
    rw [cache] at hview
    rcases turned.fetched hview with hold | ⟨lead, -, -, hstage, rfl, -⟩
    · exact h.fetched promise view hpromise hold
    rcases turned.accounted.fetched _ _ hview with hold | hknown
    · exact h.fetched _ view hpromise hold
    · -- an older leader resolves an older promise
      have hfresh : ¬ base.Concerns m action := by
        intro hconcerns
        have hcall := (hconcerns.eq h.led.numbered hmem concerns).1
        exact Nat.not_le.2 ((hbase.led.sound call hcall).listing hstage).1 hpromise
      intro ref href
      refine h.clean_of_known hclean hfresh ?_
      rw [cache]
      exact hknown ref href

theorem Apart.found_step {promise : Nat} {ref : Ref}
    (hpromise : base.cache.lookupResults.size ≤ promise)
    (href : (m.step source action).machine.cache.lookupResults.result? promise =
      some (.ok (some ref))) : clean ref := by
  cases h.led.numbered.stepped source action with
  | idle cache => exact h.found promise ref hpromise (cache ▸ href)
  | start _ _ cache => exact h.found promise ref hpromise (cache ▸ href)
  | edit edit _ cache =>
    rw [cache, (sameFlights_edit source m.cache edit).lookupResults] at href
    exact h.found promise ref hpromise href
  | @turn call turn before behind concerns turned pending cache =>
    have hmem : call ∈ m.calls := by rw [pending]; simp
    rw [cache] at href
    rcases turned.looked href with hold | ⟨lead, hstage, rfl, -⟩
    · exact h.found promise ref hpromise hold
    rcases turned.accounted.found _ _ href with hold | hknown
    · exact h.found _ ref hpromise hold
    · have hfresh : ¬ base.Concerns m action := by
        intro hconcerns
        have hcall := (hconcerns.eq h.led.numbered hmem concerns).1
        exact Nat.not_le.2 ((hbase.led.sound call hcall).lookingUp hstage).1 hpromise
      exact h.clean_of_known hclean hfresh (cache ▸ hknown)

theorem Apart.answered_step {id : Nat} {reply : Reply} (hid : base.started ≤ id)
    (hfinished : (id, .ok reply) ∈ (m.step source action).finished) :
    ∀ ref ∈ reply.names, clean ref := by
  intro ref href
  cases h.led.numbered.stepped source action with
  | idle _ _ _ _ finished => rw [finished] at hfinished; cases hfinished
  | start _ _ _ _ _ _ finished => rw [finished] at hfinished; cases hfinished
  | edit _ _ _ _ _ _ finished => rw [finished] at hfinished; cases hfinished
  | @turn call turn before behind concerns turned pending cache _ _ _ finished =>
    have hmem : call ∈ m.calls := by rw [pending]; simp
    obtain ⟨result, hresult, hentry⟩ := finished _ hfinished
    obtain ⟨rfl, rfl⟩ := Prod.mk.inj hentry
    rcases turned.answered hresult href with
      hknown | ⟨promise, view, hstage, hview, hnamed⟩ | ⟨promise, hstage, hnamed⟩
    · -- a call that was pending at the invalidation was started before it
      have hfresh : ¬ base.Concerns m action := by
        intro hconcerns
        have hcall := (hconcerns.eq h.led.numbered hmem concerns).1
        exact Nat.not_le.2 (hbase.led.numbered.lt_started call hcall) hid
      exact h.clean_of_known hclean hfresh (cache ▸ hknown)
    · exact h.fetched promise view (h.awaitsFetch call hmem hid promise hstage) hview ref hnamed
    · exact h.found promise ref (h.awaitsLookup call hmem hid promise hstage) hnamed

/-- Whatever an action does, calls that were started since the invalidation can reach clean
instances only. -/
theorem Apart.step : base.Apart clean (m.step source action).machine where
  led := h.led.step source action
  grown := h.grown.trans (h.led.numbered.grown_step source action)
  published := h.published_step hbase hclean
  fetched promise view hpromise := h.fetched_step hbase hclean hpromise
  found promise ref hpromise := h.found_step hbase hclean hpromise
  awaitsFetch call hcall hid promise hstage := by
    cases h.led.numbered.pends source action hcall with
    | stay hpending => exact h.awaitsFetch call hpending hid promise hstage
    | start => cases hstage
    | @turn mover turn stage hpending turned hstage? =>
      obtain rfl : stage = .awaitingFetch promise true := hstage
      rcases turned.joined_fetch hstage? with hold | ⟨flight, hflight, rfl, hcurrent⟩
      · exact h.awaitsFetch mover hpending hid promise hold
      · -- it joins a fetch of the present generation, whose leader came after the invalidation
        obtain ⟨leader, hleader, lead, hlead, rfl⟩ := h.led.fetch_eq_some_iff.1 hflight
        exact h.fetches leader hleader lead hlead
          (Nat.le_trans h.grown.generation (Nat.le_of_eq (hcurrent.1 rfl).symm))
  awaitsLookup call hcall hid promise hstage := by
    cases h.led.numbered.pends source action hcall with
    | stay hpending => exact h.awaitsLookup call hpending hid promise hstage
    | start => cases hstage
    | @turn mover turn stage hpending turned hstage? =>
      obtain rfl : stage = .awaitingLookup promise true := hstage
      rcases turned.joined_lookup hstage? with hold | ⟨_, flight, -, hflight, rfl, hcurrent⟩
      · exact h.awaitsLookup mover hpending hid promise hold
      · obtain ⟨leader, hleader, lead, hlead, -, rfl⟩ := h.led.lookup_eq_some_iff.1 hflight
        exact h.lookups leader hleader lead hlead
          (Nat.le_trans h.grown.generation (Nat.le_of_eq (hcurrent.1 rfl).symm))
  fetches call hcall lead hstage hgeneration := by
    cases h.led.numbered.pends source action hcall with
    | stay hpending => exact h.fetches call hpending lead hstage hgeneration
    | start => cases hstage
    | @turn mover turn stage hpending turned hstage? =>
      obtain rfl : stage = .listing lead := hstage
      rcases turned.listing_of_stage? hstage? with hold | ⟨rfl, -⟩
      · exact h.fetches mover hpending lead hold hgeneration
      · exact h.grown.fetchResults
  lookups call hcall lead hstage hgeneration := by
    cases h.led.numbered.pends source action hcall with
    | stay hpending => exact h.lookups call hpending lead hstage hgeneration
    | start => cases hstage
    | @turn mover turn stage hpending turned hstage? =>
      obtain rfl : stage = .lookingUp lead := hstage
      rcases turned.lookingUp_of_stage? hstage? with hold | ⟨identity, rfl, -⟩
      · exact h.lookups mover hpending lead hold hgeneration
      · exact h.grown.lookupResults

end Step

/-- What holds of every action holds of a run: later calls reach and answer clean instances. -/
theorem Apart.run (h : base.Apart clean m) (hbase : base.CutOff) (source : Source ρ α)
    {actions : List (Action ρ α)}
    (hclean : ∀ xs action ys, actions = xs ++ action :: ys →
      base.MakesClean source clean (m.run source xs).machine action) :
    base.Apart clean (m.run source actions).machine ∧
      ∀ id reply, base.started ≤ id → (id, .ok reply) ∈ (m.run source actions).finished →
        ∀ ref ∈ reply.names, clean ref := by
  induction actions generalizing m with
  | nil => exact ⟨h, fun id reply _ hfinished => by cases hfinished⟩
  | cons action rest ih =>
    have hfirst := hclean [] action rest rfl
    obtain ⟨hapart, hanswers⟩ := ih (h.step hbase hfirst) fun xs next ys hsplit =>
      hclean (action :: xs) next ys (congrArg (action :: ·) hsplit)
    refine ⟨hapart, fun id reply hid hfinished => ?_⟩
    rcases List.mem_append.1 hfinished with hfinished | hfinished
    · exact h.answered_step hbase hfirst hid hfinished
    · exact hanswers id reply hid hfinished

/-- What an invalidation publishes has just been made. -/
theorem made_of_invalidates {c : Cache α} {edit : Edit α} (hedit : edit.Invalidates) {ref : Ref}
    (href : ref ∈ (edit.apply source c).2.1.snapshot.refs) :
    c.objects.size ≤ ref ∧ ref < (edit.apply source c).2.1.objects.size := by
  cases edit with
  | set fresh => exact made_of_set href
  | clear => cases href
  | _ => exact hedit.elim

theorem generation_of_invalidates {c : Cache α} {edit : Edit α} (hedit : edit.Invalidates) :
    (edit.apply source c).2.1.generation = c.generation + 1 := by
  cases edit with
  | set | clear => rfl
  | _ => exact hedit.elim

/-- An invalidation cuts off all remote calls. -/
theorem Led.cutOff (h : m.Led) (source : Source ρ α) {edit : Edit α} (hedit : edit.Invalidates) :
    (m.step source (.edit edit)).machine.CutOff := by
  have hgeneration : (m.step source (.edit edit)).machine.cache.generation =
      m.cache.generation + 1 := generation_of_invalidates hedit
  refine ⟨h.step source _, ?_, ?_⟩
  · intro call hcall lead hstage
    rw [hgeneration]
    exact Nat.lt_succ_of_le ((h.sound call hcall).listing hstage).2.1
  · intro call hcall lead hstage
    rw [hgeneration]
    exact Nat.lt_succ_of_le ((h.sound call hcall).lookingUp hstage).2.1

theorem Led.apart (h : m.Led) (source : Source ρ α) {edit : Edit α} (hedit : edit.Invalidates)
    {clean : Ref → Prop} (hclean : ∀ ref, m.cache.objects.size ≤ ref →
      ref < (m.step source (.edit edit)).machine.cache.objects.size → clean ref) :
    (m.step source (.edit edit)).machine.Apart clean (m.step source (.edit edit)).machine := by
  have hbase := h.cutOff source hedit
  refine ⟨hbase.led, .refl _, ?_, ?_, ?_, ?_, ?_, ?_, ?_⟩
  · intro ref href
    obtain ⟨hle, hlt⟩ := made_of_invalidates hedit href
    exact hclean ref hle hlt
  · intro promise view hpromise hview
    exact absurd (lt_size_of_result? hview) (Nat.not_lt.2 hpromise)
  · intro promise ref hpromise href
    exact absurd (lt_size_of_result? href) (Nat.not_lt.2 hpromise)
  · intro call hcall hid
    exact absurd (hbase.led.numbered.lt_started call hcall) (Nat.not_lt.2 hid)
  · intro call hcall hid
    exact absurd (hbase.led.numbered.lt_started call hcall) (Nat.not_lt.2 hid)
  · intro call hcall lead hstage hgeneration
    exact absurd (hbase.fetches call hcall lead hstage) (Nat.not_lt.2 hgeneration)
  · intro call hcall lead hstage hgeneration
    exact absurd (hbase.lookups call hcall lead hstage) (Nat.not_lt.2 hgeneration)

section Delivered

variable {actions xs ys : List (Action ρ α)} {ref : Ref}

theorem Numbered.size_run_le (h : base.Numbered) (source : Source ρ α)
    (xs zs : List (Action ρ α)) :
    (base.run source xs).machine.cache.objects.size ≤
      (base.run source (xs ++ zs)).machine.cache.objects.size := by
  rw [run_append_machine]
  exact ((numbered_run source h xs).grown_run source zs).objects

theorem Delivered.size_le (h : Delivered source base actions ref) (hnumbered : base.Numbered) :
    base.cache.objects.size ≤ ref := by
  obtain ⟨xs, -, -, -, -, hle, -⟩ := h
  exact Nat.le_trans (hnumbered.grown_run source xs).objects hle

/-- An instance that an action on another call makes is not delivered by an older one: every
instance is made by one action. -/
theorem Numbered.not_delivered (h : base.Numbered) (hsplit : actions = xs ++ action :: ys)
    (hfresh : ¬ base.Concerns (base.run source xs).machine action)
    (hle : (base.run source xs).machine.cache.objects.size ≤ ref)
    (hlt : ref < (base.run source (xs ++ [action])).machine.cache.objects.size) :
    ¬ Delivered source base actions ref := by
  rintro ⟨xs', action', ys', hsplit', hconcerns, hle', hlt'⟩
  rw [hsplit, List.append_eq_append_iff] at hsplit'
  rcases hsplit' with ⟨between, rfl, hrest⟩ | ⟨between, rfl, hrest⟩
  · cases between with
    | nil =>
      obtain ⟨rfl, -⟩ := List.cons.inj hrest
      rw [List.append_nil] at hconcerns
      exact hfresh hconcerns
    | cons next between =>
      -- the delivery comes later, when the instance is there already
      obtain ⟨rfl, -⟩ := List.cons.inj hrest
      have hlater := h.size_run_le source (xs ++ [action]) between
      rw [List.append_assoc] at hlater
      exact Nat.lt_irrefl _ (Nat.lt_of_lt_of_le hlt (Nat.le_trans hlater hle'))
  · cases between with
    | nil =>
      obtain ⟨rfl, -⟩ := List.cons.inj hrest
      rw [List.append_nil] at hfresh
      exact hfresh hconcerns
    | cons next between =>
      obtain ⟨rfl, -⟩ := List.cons.inj hrest
      have hlater := h.size_run_le source (xs' ++ [action']) between
      rw [List.append_assoc] at hlater
      exact Nat.lt_irrefl _ (Nat.lt_of_lt_of_le hlt' (Nat.le_trans hlater hle))

end Delivered

/-- After an invalidation at any point of a run, nobody notices how a remote call ends that was
started before; and neither the published view nor any answer to a call that was started since names
an instance that was made before the invalidation, or of what such a remote call delivered. -/
theorem run_invalidated (source : Source ρ α) (config : Config) (monitors : Monitors)
    (xs ys : List (Action ρ α)) (edit : Edit α) (hedit : edit.Invalidates) :
    let before := ((new config monitors).run source xs).machine
    let base := (before.step source (.edit edit)).machine
    let m := (base.run source ys).machine
    (∀ action, base.Concerns m action →
      Unnoticed m.cache (m.step source action).machine.cache (m.step source action).events) ∧
    (∀ ref ∈ m.cache.snapshot.refs,
      before.cache.objects.size ≤ ref ∧ ¬ Delivered source base ys ref) ∧
    ∀ id reply, base.started ≤ id → (id, .ok reply) ∈ (base.run source ys).finished →
      ∀ ref ∈ reply.names, before.cache.objects.size ≤ ref ∧ ¬ Delivered source base ys ref := by
  intro before base m
  have hled : before.Led := led_run source config monitors xs
  have hbase : base.CutOff := hled.cutOff source hedit
  have hnumbered := hbase.led.numbered
  have hgrown : Grown before.cache base.cache := hled.numbered.grown_step source (.edit edit)
  have hstart : base.Apart (fun ref => before.cache.objects.size ≤ ref ∧
      ¬ Delivered source base ys ref) base := by
    refine hled.apart source hedit fun ref hle hlt => ⟨hle, fun hdelivered => ?_⟩
    exact Nat.not_lt.2 (hdelivered.size_le hnumbered) hlt
  obtain ⟨hapart, hanswers⟩ := hstart.run hbase source fun xs action zs hsplit hfresh ref hle hlt =>
    ⟨Nat.le_trans hgrown.objects (Nat.le_trans (hnumbered.grown_run source xs).objects hle),
      hnumbered.not_delivered hsplit hfresh hle (by rwa [run_append_machine])⟩
  refine ⟨fun action hconcerns => ?_, hapart.published, hanswers⟩
  exact hbase.unnoticed hapart.grown hapart.led.numbered source hconcerns

end Machine

section Items

open Scripted Machine

/-- A lookup and a listing that are both outstanding. -/
def outstandingCalls : List (Action Item Item) :=
  [.start (.one (.id 1)) ⟨0, [], 0⟩, .poll 0, .start .all ⟨0, [], 0⟩, .poll 1]

/-- The machine once the cache was cleared over them. -/
def clearedMachine : Machine Item :=
  (((new {}).run (Item.source Item.merge) outstandingCalls).machine.step (Item.source Item.merge)
    (.edit .clear)).machine

/-- A call that comes later, while the answers to the older ones arrive. -/
def lateAnswers : List (Action Item Item) :=
  [.start .all ⟨0, [], 0⟩, .poll 2, .found 0 (.ok (some (.withId 1 5))),
    .listed 1 (.ok [.withId 1 5, .withId 2 6]), .poll 2, .listed 2 (.ok [.withId 2 7])]

theorem run_invalidated_lateAnswers :
    let m := (clearedMachine.run (Item.source Item.merge) (lateAnswers.take 3)).machine
    let listed := m.step (Item.source Item.merge) (.listed 1 (.ok [.withId 1 5, .withId 2 6]))
    (clearedMachine.run (Item.source Item.merge) lateAnswers).finished =
        [(0, .ok (.object (some 0))), (1, .ok (.objects [1, 2])), (2, .ok (.objects [3]))] ∧
      Unnoticed m.cache listed.machine.cache listed.events ∧
      ¬ Delivered (Item.source Item.merge) clearedMachine lateAnswers 3 := by
  intro m listed
  have hcleared : (Edit.clear : Edit Item).Invalidates := trivial
  have hconcerns : clearedMachine.Concerns m (.listed 1 (.ok [.withId 1 5, .withId 2 6]) :
      Action Item Item) := by
    refine ⟨{ id := 1, monitor := ⟨0, [], 0⟩, request := .all, stage := .listing ⟨0, 0, .empty⟩ },
      ?_, rfl, ?_, rfl⟩
    · exact List.mem_cons_of_mem _ List.mem_cons_self
    · exact List.mem_cons_self
  have hanswered : (2, .ok (.objects [3])) ∈
      (clearedMachine.run (Item.source Item.merge) lateAnswers).finished :=
    List.mem_cons_of_mem _ (List.mem_cons_of_mem _ List.mem_cons_self)
  have hstarted : clearedMachine.started ≤ 2 := Nat.le_refl 2
  obtain ⟨hunnoticed, -, -⟩ := run_invalidated (Item.source Item.merge) {} {} outstandingCalls
    (lateAnswers.take 3) .clear hcleared
  obtain ⟨-, -, hanswers⟩ := run_invalidated (Item.source Item.merge) {} {} outstandingCalls
    lateAnswers .clear hcleared
  exact ⟨rfl, hunnoticed _ hconcerns,
    (hanswers 2 (.objects [3]) hstarted hanswered 3 List.mem_cons_self).2⟩

end Items

end CatalogBrowser.Cache
