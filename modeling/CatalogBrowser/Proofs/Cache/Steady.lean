import CatalogBrowser.Proofs.Cache.Origin
import CatalogBrowser.Proofs.Cache.UnchangingRemote

/-!
# Answers do not depend on the schedule

Over a remote side that never changes, calls that load, refresh and look up objects in any order,
failing or given up at any moment, all answer as one sequential reading of the listing would.

## Main definitions

* `Steady` - an action of a run over an unchanging remote side.
* `Machine.Mirrors` - the invariant of such runs.
* `Machine.Names` - what the answers of a run name.

## Main statements

* `Machine.Mirrors.step` - every action keeps the invariant, and every answer is right.
* `Machine.run_steady` - answers do not depend on the schedule.
-/

namespace CatalogBrowser.Cache

variable {ρ α : Type} {source : Source ρ α} {records : List ρ} {c c' : Cache α}

/-- An action of a run over an unchanging remote side with these records, which may fail but gives
no other listing, and no other object to a lookup than the first that the listing has. Nothing but
calls happens to the cache. -/
def Steady (source : Source ρ α) (records : List ρ) (m : Machine α) : Action ρ α → Prop
  | .edit _ => False
  | .listed _ (.ok listed) => listed = records
  | .found id (.ok record) => ∀ call identity, m.call? id = some call →
    call.request = .one identity →
    record = m.cache.firstRecord? source records (m.cache.key identity)
  | _ => True

namespace Machine

variable {m : Machine α} {config : Config}

/-- The cache is a mirror, and every pending call is served by the lookup of its key. -/
structure Mirrors (source : Source ρ α) (records : List ρ) (config : Config) (m : Machine α) :
    Prop where
  led : m.Led
  config : m.cache.config = config
  mirror : ∃ asked, Mirror source records asked m.cache ∧
    ∀ call ∈ m.calls, call.Asks asked m.cache

theorem mirrors_new (source : Source ρ α) (records : List ρ) (config : Config)
    (monitors : Monitors) : (new config monitors : Machine α).Mirrors source records config where
  led := led_new config monitors
  config := rfl
  mirror := by
    refine ⟨fun _ => .id 0, ?_, by simp [new]⟩
    refine ⟨rfl, indexed_empty _ _, by simp [new], by simp [new], by simp [new], ?_, ?_⟩
    · intro promise view hview
      simp [new, Promises.result?] at hview
    · intro promise found hfound
      simp [new, Promises.result?] at hfound

theorem asks_of_agree {asked asked' : Nat → Key} {call : Call} (h : call.Asks asked c)
    (hsound : call.Sound c) (hconfig : c'.config = c.config)
    (hagree : ∀ promise < c.lookupResults.size, asked' promise = asked promise) :
    call.Asks asked' c' := by
  unfold Call.Asks Call.Sound at *
  split at h
  next promise current hstage =>
    rw [hstage] at hsound
    intro identity hrequest
    rw [hagree promise hsound.1, key, hconfig]
    exact h identity hrequest
  next lead hstage =>
    rw [hstage] at hsound
    exact (hagree lead.promise hsound.1).trans h
  next => trivial

theorem unchanging_of_steady {action : Action ρ α} {call : Call}
    (h : Steady source records m action) (hcall : m.call? call.id = some call)
    (hconcerns : action.call? = some call.id) :
    Unchanging source records m.cache call action := by
  cases action with
  | listed id answer =>
    cases answer with
    | error error => trivial
    | ok listed => exact h
  | found id answer =>
    cases answer with
    | error error => trivial
    | ok record =>
      obtain rfl := Option.some.inj hconcerns
      exact fun identity => h call identity hcall
  | _ => trivial

/-- Over an unchanging remote side, the cache stays a mirror, and every call is answered as the
listing says. -/
theorem Mirrors.step (h : m.Mirrors source records config)
    (hmerge : KeepsKeys (config.objectKey source) source.merge) {action : Action ρ α}
    (hsteady : Steady source records m action) :
    let after := (m.step source action).machine
    after.Mirrors source records config ∧ Settles source records m.cache after.cache ∧
      ∀ id reply, (id, .ok reply) ∈ (m.step source action).finished →
        ∃ call, m.call? id = some call ∧
          after.cache.Answers source records call.request reply := by
  intro after
  have hled : after.Led := h.led.step source action
  have hconfig : after.cache.config = config :=
    (h.led.numbered.grown_step source action).config.trans h.config
  obtain ⟨asked, hmirror, hasks⟩ := h.mirror
  have hsame : Settles source records m.cache m.cache := .refl m.cache
  cases h.led.numbered.stepped source action with
  | idle cache calls _ _ finished =>
    refine ⟨⟨hled, hconfig, asked, ?_, ?_⟩, ?_, by simp [finished]⟩
    · exact cache ▸ hmirror
    · intro call hcall
      exact cache ▸ hasks call (calls ▸ hcall)
    · exact cache ▸ hsame
  | start request monitor cache calls _ _ finished =>
    refine ⟨⟨hled, hconfig, asked, ?_, ?_⟩, ?_, by simp [finished]⟩
    · exact cache ▸ hmirror
    · intro call hcall
      rw [calls] at hcall
      rcases List.mem_append.1 hcall with hcall | hcall
      · exact cache ▸ hasks call hcall
      · rw [List.mem_singleton.1 hcall]
        trivial
    · exact cache ▸ hsame
  | edit edit same =>
    subst same
    exact hsteady.elim
  | @turn call turn before behind concerns turned pending cache calls _ _ finished =>
    have hmem : call ∈ m.calls := by rw [pending]; simp
    have hcall := h.led.numbered.call?_eq hmem
    have hmerge' : KeepsKeys (m.cache.objectKey source) source.merge := by
      rw [objectKey_of_config h.config]
      exact hmerge
    have hslots : ∀ key flight, m.cache.lookups.lookup key = some flight →
        asked flight.promise = key := by
      intro key flight hflight
      obtain ⟨leader, hleader, lead, hstage, rfl, rfl⟩ := h.led.lookup_eq_some_iff.1 hflight
      exact (hasks leader hleader).lookingUp hstage
    obtain ⟨asked', hkept⟩ := hmirror.turned hmerge' (h.led.sound call hmem) (hasks call hmem)
      hslots (unchanging_of_steady hsteady hcall concerns) turned
    refine ⟨⟨hled, hconfig, asked', cache ▸ hkept.mirror, ?_⟩, cache ▸ hkept.settles, ?_⟩
    · intro other hother
      rw [calls, Call.mem_moved_iff] at hother
      rcases hother with hother | ⟨stage, hstage?, rfl⟩
      · have hmem : other ∈ m.calls := by rw [pending]; simpa using hother.elim .inl (.inr ∘ .inr)
        exact asks_of_agree (hasks other hmem) (h.led.sound other hmem)
          (hconfig.trans h.config.symm) hkept.agree
      · exact cache ▸ hkept.asks stage hstage?
    · intro id reply hmem
      obtain ⟨result, hresult, hentry⟩ := finished _ hmem
      obtain ⟨rfl, rfl⟩ := Prod.mk.inj hentry
      exact ⟨call, hcall, cache ▸ hkept.answers reply hresult⟩

theorem mirrors_run {config : Config} {monitors : Monitors} {actions : List (Action ρ α)}
    (hmerge : KeepsKeys (config.objectKey source) source.merge)
    (hsteady : (new config monitors).Admits source (Steady source records) actions) :
    ((new config monitors).run source actions).machine.Mirrors source records config :=
  hsteady.preserves (fun _ _ h hok => (h.step hmerge hok).1) (mirrors_new source records config _)

/-- Instances go on standing for their objects in whatever follows. -/
theorem Mirrors.settles_run (h : m.Mirrors source records config)
    (hmerge : KeepsKeys (config.objectKey source) source.merge) {actions : List (Action ρ α)}
    (hsteady : m.Admits source (Steady source records) actions) :
    Settles source records m.cache (m.run source actions).machine.cache := by
  induction actions generalizing m with
  | nil => exact .refl _
  | cons action rest ih =>
    obtain ⟨hmirrors, hsettles, -⟩ := h.step hmerge hsteady.1
    exact hsettles.trans (ih hmirrors hsteady.2)

/-- In a run, an answer or a read from memory names an instance that has the key. -/
inductive Names (source : Source ρ α) (m : Machine α) (actions : List (Action ρ α)) (key : Key)
    (ref : Ref) : Prop
  /-- A call is answered. -/
  | answer {xs ys : List (Action ρ α)} {action : Action ρ α} {id : Nat} {reply : Reply}
      (split : actions = xs ++ action :: ys)
      (finished : (id, .ok reply) ∈ ((m.run source xs).machine.step source action).finished)
      (names : ref ∈ reply.names)
      (has : ((m.run source xs).machine.step source action).machine.cache.keyOf? source ref =
        some key)
  /-- The full collection is read from memory. -/
  | cached {xs ys : List (Action ρ α)} (split : actions = xs ++ ys)
      (names : ref ∈ (m.run source xs).machine.cache.cachedObjects)
      (has : (m.run source xs).machine.cache.keyOf? source ref = some key)
  /-- One object is read from memory. -/
  | read {xs ys : List (Action ρ α)} {identity : Identity} (split : actions = xs ++ ys)
      (names : (m.run source xs).machine.cache.cachedObject? identity = some ref)
      (has : (m.run source xs).machine.cache.keyOf? source ref = some key)

/-- Whatever is named, it is named at some point of the run, by an instance that is there. -/
theorem Names.exists_split {actions : List (Action ρ α)} {key : Key} {ref : Ref}
    (h : Names source m actions key ref) :
    ∃ xs ys, actions = xs ++ ys ∧
      (m.run source xs).machine.cache.keyOf? source ref = some key := by
  cases h with
  | @answer xs ys action _ _ split _ _ has =>
    refine ⟨xs ++ [action], ys, by rw [split, List.append_assoc]; rfl, ?_⟩
    rwa [run_append_machine]
  | cached split _ has => exact ⟨_, _, split, has⟩
  | read split _ has => exact ⟨_, _, split, has⟩

/-- In every schedule over an unchanging remote side, all answers that name an object with a key
name the same instance, and every call that succeeds is told what the listing says: all objects in
its order, or one object exactly if the listing has it. -/
theorem run_steady (source : Source ρ α) (records : List ρ) (config : Config)
    (monitors : Monitors) (actions : List (Action ρ α))
    (hmerge : KeepsKeys (config.objectKey source) source.merge)
    (hsteady : (new config monitors).Admits source (Steady source records) actions) :
    (∀ key ref other, Names source (new config monitors) actions key ref →
      Names source (new config monitors) actions key other → ref = other) ∧
    ∀ xs action ys, actions = xs ++ action :: ys →
      let m := ((new config monitors).run source xs).machine
      ∀ id reply, (id, .ok reply) ∈ (m.step source action).finished →
        ∃ call, m.call? id = some call ∧
          (m.step source action).machine.cache.Answers source records call.request reply := by
  constructor
  · intro key ref other href hother
    have hfinal := mirrors_run hmerge hsteady
    -- an instance keeps its key up to the end, where all keys are distinct
    have hend : ∀ ref, Names source (new config monitors) actions key ref →
        ((new config monitors).run source actions).machine.cache.keyOf? source ref =
          some key := by
      intro ref hnames
      obtain ⟨xs, ys, rfl, hkey⟩ := hnames.exists_split
      obtain ⟨hfirst, hlater⟩ := (admits_append xs ys).1 hsteady
      have hthere := mirrors_run hmerge hfirst
      have hsettles := hthere.settles_run hmerge hlater
      obtain ⟨asked, hmirror, -⟩ := hthere.mirror
      rw [run_append_machine]
      rw [← hkey]
      refine hmirror.keyOf?_settles ?_ hsettles (lt_size_of_keyAt hkey)
      rw [objectKey_of_config hthere.config]
      exact hmerge
    obtain ⟨asked, hmirror, -⟩ := hfinal.mirror
    have hkey := hend ref href
    have hkey' := hend other hother
    exact List.inj_on_of_nodup_map hmirror.indexed.distinct.nodup
      (hmirror.cached ref (lt_size_of_keyAt hkey)) (hmirror.cached other (lt_size_of_keyAt hkey'))
      (hkey.trans hkey'.symm)
  · rintro xs action ys rfl m
    obtain ⟨hfirst, hlater⟩ := (admits_append xs (action :: ys)).1 hsteady
    exact ((mirrors_run hmerge hfirst).step hmerge hlater.1).2.2

end Machine

section Items

open Scripted Machine

/-- Three records, the last with the key of the first. -/
def threeItems : List Item :=
  [.withId 1 5, .withId 2 6, .withId 1 7]

/-- A lookup that is answered while a listing is outstanding, which another lookup waits for, and a
refresh of what all of them found. -/
def racingCalls : List (Action Item Item) :=
  [.start (.one (.id 2)) ⟨0, [], 0⟩, .poll 0, .start .all ⟨0, [], 0⟩, .poll 1,
    .start (.one (.id 1)) ⟨0, [], 0⟩, .poll 2, .found 0 (.ok (some (.withId 2 6))),
    .listed 1 (.ok threeItems), .poll 2, .start .refresh ⟨0, [], 0⟩, .poll 3,
    .listed 3 (.ok threeItems)]

theorem run_steady_racingCalls :
    let m := ((new {}).run (Item.source Item.merge) (racingCalls.take 7)).machine
    ((new {}).run (Item.source Item.merge) racingCalls).finished =
        [(0, .ok (.object (some 0))), (1, .ok (.objects [1, 0])), (2, .ok (.object (some 1))),
          (3, .ok (.changes { updated := [1, 0] }))] ∧
      (∀ key ref other, Names (Item.source Item.merge) (new {}) racingCalls key ref →
        Names (Item.source Item.merge) (new {}) racingCalls key other → ref = other) ∧
      ∃ call, m.call? 1 = some call ∧
        (m.step (Item.source Item.merge) (.listed 1 (.ok threeItems))).machine.cache.Answers
          (Item.source Item.merge) threeItems call.request (.objects [1, 0]) := by
  intro m
  have hsteady : (new {}).Admits (Item.source Item.merge)
      (Steady (Item.source Item.merge) threeItems) racingCalls := by
    refine ⟨trivial, trivial, trivial, trivial, trivial, trivial, ?_, rfl, trivial, trivial,
      trivial, rfl, trivial⟩
    intro call identity hcall hrequest
    cases hcall
    cases hrequest
    rfl
  obtain ⟨hsame, hanswers⟩ := run_steady (Item.source Item.merge) threeItems {} {} racingCalls
    (Item.keepsKeys_merge {}) hsteady
  exact ⟨rfl, hsame, hanswers (racingCalls.take 7) _ (racingCalls.drop 8) rfl 1 (.objects [1, 0])
    List.mem_cons_self⟩

end Items

end CatalogBrowser.Cache
