import CatalogBrowser.Proofs.Cache.Index
import CatalogBrowser.Proofs.Cache.Sharing

/-!
# What a lookup delivers

A lookup that ends successfully is answered with the instance that is cached under the key of the
object that was found, if there is one, and whoever follows the lookup takes the same answer. The
key that was asked for plays no part: an object that came to be cached under it in the meantime is
delivered just if the remote side answers with an object of that key. If the remote side answers
with none, or with an object of another key, the cached one is passed over.

## Main definitions

* `Cache.delivered` - what a lookup that ends with a record delivers.
* `Machine.Concludes` - a lookup that ends, and all that wait for it.

## Main statements

* `Indexed.delivered_eq_some_iff` - when the instance that is cached under a key is delivered.
* `Machine.Accountable.concludes` - a lookup that ends is concluded, in whatever state.
* `Machine.run_delivered` - in every run, exactly a found object of the key that was asked for
  brings out the instance that is cached under it.
-/

namespace CatalogBrowser.Cache

variable {ρ α : Type} {source : Source ρ α}

section Turn

variable {c : Cache α} {lead : LookupLead} {record : Option ρ} {ref : Ref} {key : Key}

/-- What a lookup that ends with a record delivers: the instance with the key of the object that was
found, or a new one. -/
def delivered (source : Source ρ α) (c : Cache α) (record : Option ρ) : Option Ref :=
  (record.bind source.construct).map fun object =>
    (c.snapshot.find? (c.objectKey source object)).getD c.objects.size

theorem delivered_eq_none_iff :
    c.delivered source record = none ↔ record.bind source.construct = none :=
  Option.map_eq_none_iff

theorem commitLookup_fst (source : Source ρ α) (c : Cache α) (lead : LookupLead) (object : α) :
    (c.commitLookup source lead object).1 =
      (c.snapshot.find? (c.objectKey source object)).getD c.objects.size := by
  unfold commitLookup
  dsimp only
  split
  next existing hfind => rw [hfind, Option.getD_some]
  next hfind =>
    rw [hfind, Option.getD_none, apply_ite Prod.fst, apply_ite Prod.fst, ite_self, ite_self]

/-- A lookup that ends with a record answers its call with what it delivers. -/
theorem acceptLookup_progress (source : Source ρ α) (c : Cache α) (lead : LookupLead)
    (record : Option ρ) : (c.acceptLookup source lead (.ok record)).progress =
      .finished (.ok (.object (c.delivered source record))) := by
  unfold acceptLookup delivered
  cases hobject : record.bind source.construct with
  | none => simp [hobject]
  | some object =>
    have hfst := commitLookup_fst source (c.releaseLookup lead.key) lead object
    simp only [hobject, Option.map_some]
    rw [hfst]
    rfl

/-- An instance that is cached under a key is delivered exactly if an object with that key is
found. -/
theorem Indexed.delivered_eq_some_iff (h : c.Indexed source)
    (hcached : c.snapshot.find? key = some ref) : c.delivered source record = some ref ↔
      ∃ object, record.bind source.construct = some object ∧ c.objectKey source object = key := by
  obtain ⟨hmem, hkey⟩ := (Snapshot.Indexed.find?_eq_some_iff h).1 hcached
  rw [delivered, Option.map_eq_some_iff]
  refine exists_congr fun object => and_congr_right fun _ => ?_
  constructor
  · intro hgiven
    cases hfind : c.snapshot.find? (c.objectKey source object) with
    | none =>
      -- a new instance is none that is cached
      rw [hfind, Option.getD_none] at hgiven
      exact absurd (h.distinct.lt_size ref hmem) (hgiven ▸ Nat.lt_irrefl _)
    | some other =>
      rw [hfind, Option.getD_some] at hgiven
      subst hgiven
      have hother := ((Snapshot.Indexed.find?_eq_some_iff h).1 hfind).2
      exact Option.some.inj (hother.symm.trans hkey)
  · rintro rfl
    rw [hcached, Option.getD_some]

end Turn

namespace Machine

variable {m : Machine α} {leader waiter : Call} {lead : LookupLead} {record : Option ρ}

/-- The machine after a record was handed to the leader of a lookup, and some actions more. -/
def afterFound (source : Source ρ α) (m : Machine α) (leader : Call) (record : Option ρ)
    (actions : List (Action ρ α)) : Machine α :=
  (m.run source (.found leader.id (.ok record) :: actions)).machine

/-- A lookup ends, and an object is given to its leader and to all that follow it. -/
structure Concludes (source : Source ρ α) (m : Machine α) (leader : Call) (lead : LookupLead)
    (record : Option ρ) (given : Option Ref) : Prop where
  answered : (m.step source (.found leader.id (.ok record))).finished =
    [(leader.id, .ok (.object given))]
  /-- Whoever follows the lookup is given the object when it runs, at whatever time. -/
  shared : ∀ waiter ∈ m.calls, waiter.stage = .awaitingLookup lead.promise true →
    ∀ actions, waiter ∈ (m.afterFound source leader record actions).calls →
      (m.afterFound source leader record actions).isCancelled waiter = false →
      ((m.afterFound source leader record actions).step source (.poll waiter.id)).finished =
        [(waiter.id, .ok (.object given))]
  /-- It is answered nothing else, unless it is cancelled. -/
  only : ∀ waiter ∈ m.calls, waiter.stage = .awaitingLookup lead.promise true →
    ∀ actions result, (waiter.id, result) ∈
        (m.run source (.found leader.id (.ok record) :: actions)).finished →
      result = .error .cancelled ∨ result = .ok (.object given)
  /-- Whoever waits for a lookup of an older generation starts over, and is given what is cached
  under its key when it runs. -/
  overtaken : ∀ waiter ∈ m.calls, waiter.stage = .awaitingLookup lead.promise false →
    ∀ actions, waiter ∈ (m.afterFound source leader record actions).calls →
      (m.afterFound source leader record actions).isCancelled waiter = false →
      ∀ identity ref, waiter.request = .one identity →
        (m.afterFound source leader record actions).cache.cachedObject? identity = some ref →
        ((m.afterFound source leader record actions).step source (.poll waiter.id)).finished =
          [(waiter.id, .ok (.object (some ref)))]

/-- What a leader told is told still. -/
theorem Accountable.outcome?_of_told (h : m.Accountable) {channel : Channel} {outcome : Outcome}
    {actions : List (Action ρ α)} (htold : m.Told source leader channel outcome actions) :
    (m.run source actions).machine.cache.outcome? channel = some outcome := by
  obtain ⟨xs, action, ys, rfl, hends⟩ := htold
  rw [run_append_machine, run_cons_machine]
  exact ((h.run source xs).step source action).outcome?_run hends.outcome? ys

section Settle

variable (h : m.Accountable) (hleader : leader ∈ m.calls) (hleads : leader.stage = .lookingUp lead)
  (hactive : m.isCancelled leader = false)
include h hleader hleads hactive

theorem Accountable.step_found : m.step source (.found leader.id (.ok record)) =
    m.take leader (m.cache.acceptLookup source lead (.ok record)) :=
  h.led.numbered.step_found source hleader hleads hactive (.ok record)

/-- What a lookup delivers is told through its channel, for good. -/
theorem Accountable.outcome?_afterFound (actions : List (Action ρ α)) :
    (m.afterFound source leader record actions).cache.outcome? (.lookup lead.promise) =
      some (.found (.ok (m.cache.delivered source record))) := by
  have hafter := h.step source (.found leader.id (.ok record))
  refine hafter.outcome?_run ?_ actions
  have hprogress := acceptLookup_progress source m.cache lead record
  have hturn := turned_acceptLookup source m.cache hleads (.ok record)
  obtain ⟨result, hresults, hsame⟩ := hturn.lookingUp_ended hleads (by rw [hprogress]; nofun)
  have hresult : result = .ok (m.cache.delivered source record) := by
    rw [hprogress] at hsame
    cases result with
    | error error => cases hsame
    | ok found =>
      have hfound := Reply.object.inj (Except.ok.inj (Progress.finished.inj hsame))
      rw [hfound]
  rw [h.step_found hleader hleads hactive, take_cache]
  rw [hresult] at hresults
  exact outcome?_of_resolveLookup ((h.led.sound leader hleader).lookingUp hleads).1 hresults

/-- A lookup that ends is settled, whatever happened to the cache since it began. -/
theorem Accountable.concludes (record : Option ρ) :
    m.Concludes source leader lead record (m.cache.delivered source record) := by
  have hlater : ∀ actions, (m.afterFound source leader record actions).Accountable := fun actions =>
    h.run source _
  have htold : ∀ actions, (m.afterFound source leader record actions).cache.outcome?
      (.lookup lead.promise) = some (.found (.ok (m.cache.delivered source record))) :=
    h.outcome?_afterFound hleader hleads hactive
  refine ⟨?_, ?_, ?_, ?_⟩
  · rw [h.step_found hleader hleads hactive, take_finished, acceptLookup_progress]
  · intro waiter _ hstage actions hpending hcalled
    have hfollows : waiter.stage.follows? = some (.lookup lead.promise) := by rw [hstage]; rfl
    have hlearns : (m.afterFound source leader record actions).Learns source waiter _ :=
      (hlater actions).led.numbered.learns hpending hfollows (htold actions) hcalled
    rw [Learns] at hlearns
    rw [hlearns]
    exact take_finished _ _ _
  · intro waiter hwaiter hstage actions result hfinished
    have hfollows : waiter.stage.follows? = some (.lookup lead.promise) := by rw [hstage]; rfl
    rcases h.result_of_follows hwaiter hfollows hleader (by rw [hleads]; rfl) hfinished with
      ⟨hcancelled, -⟩ | ⟨outcome, hgiven, hresult⟩
    · exact .inl hcancelled
    · -- only one outcome is ever told
      have hsame : outcome = .found (.ok (m.cache.delivered source record)) :=
        Option.some.inj ((h.outcome?_of_told hgiven).symm.trans (htold actions))
      exact .inr (hresult _ (by rw [hsame]; rfl))
  · intro waiter _ hstage actions hpending hcalled identity ref hrequest hcached
    obtain ⟨given, hgiven, -⟩ := Option.map_eq_some_iff.1 (htold actions)
    rw [(hlater actions).led.numbered.step_poll source hpending, hcalled, hstage, hrequest,
      take_finished]
    simp only [poll, hgiven, enter, hcached]
    rfl

end Settle

/-- In every run, as long as objects keep their keys while they are cached: when a lookup ends
successfully while an object is cached under the key that was asked for, all that led or followed it
are given one and the same object. This is the cached one exactly if the remote side answered with
an object of that key, and they are told that there is none exactly if it did not answer with any,
whatever is cached. -/
theorem run_delivered (source : Source ρ α) (config : Config) (monitors : Monitors)
    (actions : List (Action ρ α)) (hmerge : KeepsKeys (config.objectKey source) source.merge)
    (hkeeps : (new config monitors).Admits source (KeepsIdentity source) actions) :
    let m := ((new config monitors).run source actions).machine
    ∀ leader ∈ m.calls, ∀ lead, leader.stage = .lookingUp lead → m.isCancelled leader = false →
      ∃ identity, leader.request = .one identity ∧
        ∀ ref, m.cache.cachedObject? identity = some ref → ∀ record, ∃ given,
          m.Concludes source leader lead record given ∧
          (given = some ref ↔ ∃ object, record.bind source.construct = some object ∧
            m.cache.objectKey source object = m.cache.key identity) ∧
          (given = none ↔ record.bind source.construct = none) := by
  intro m leader hleader lead hleads hactive
  have haccountable : m.Accountable := accountable_run source config monitors actions
  have hindexed : m.cache.Indexed source := (run_indexed hmerge hkeeps).2
  obtain ⟨-, -, identity, hrequest, -⟩ := (haccountable.led.sound leader hleader).lookingUp hleads
  refine ⟨identity, hrequest, fun ref hcached record => ⟨m.cache.delivered source record, ?_⟩⟩
  exact ⟨haccountable.concludes hleader hleads hactive record,
    hindexed.delivered_eq_some_iff hcached, delivered_eq_none_iff⟩

end Machine

section Items

open Scripted Machine

/-- Two calls ask for an object that the remote side does not have yet, and it is added in the
meantime. -/
def addedMeanwhile : List (Action Item Item) :=
  [.start (.one (.id 7)) ⟨0, [], 0⟩, .poll 0, .start (.one (.id 7)) ⟨1, [], 0⟩, .poll 1,
    .edit (.insert (.withId 7 0))]

/-- The object that was added is delivered if the remote side has it by now. -/
theorem run_delivered_addedMeanwhile :
    let m := ((new {} {}).run (Item.source Item.merge) addedMeanwhile).machine
    m.cache.cachedObject? (.id 7) = some 0 ∧ ∃ leader ∈ m.calls, ∃ lead given,
      m.Concludes (Item.source Item.merge) leader lead (some (.withId 7 5)) given ∧
      given = some 0 := by
  intro m
  have hkeeps : (new {} {}).Admits (Item.source Item.merge)
      (KeepsIdentity (Item.source Item.merge)) addedMeanwhile := by
    simp [addedMeanwhile, Admits, KeepsIdentity]
  have hcached : m.cache.cachedObject? (.id 7) = some 0 := by decide +kernel
  let lead : LookupLead := ⟨0, 0, .id 7⟩
  let leader : Call := ⟨0, ⟨0, [], 0⟩, .one (.id 7), .lookingUp lead⟩
  have hleader : leader ∈ m.calls := by decide +kernel
  obtain ⟨identity, hrequest, hgiven⟩ := run_delivered (Item.source Item.merge) {} {}
    addedMeanwhile (Item.keepsKeys_merge {}) hkeeps leader hleader lead rfl (by decide +kernel)
  obtain rfl := Request.one.inj hrequest
  obtain ⟨given, hconcludes, hfound, -⟩ := hgiven 0 hcached (some (.withId 7 5))
  exact ⟨hcached, leader, hleader, lead, given, hconcludes, hfound.2 ⟨.withId 7 5, rfl, rfl⟩⟩

/-- The object that was added is passed over if the remote side does not have it: both calls are
told that there is none. -/
theorem delivered_addedMeanwhile_missing :
    let moved := (new {} {}).run (Item.source Item.merge)
      (addedMeanwhile ++ [.found 0 (.ok none), .poll 1])
    ((new {} {}).run (Item.source Item.merge) addedMeanwhile).machine.cache.cachedObject? (.id 7) =
        some 0 ∧
      moved.finished = [(0, .ok (.object none)), (1, .ok (.object none))] ∧
      moved.machine.cache.cachedObject? (.id 7) = some 0 := by
  decide +kernel

end Items

end CatalogBrowser.Cache
