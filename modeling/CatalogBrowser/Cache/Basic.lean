import CatalogBrowser.Error
import CatalogBrowser.Text.Quoted
import CatalogBrowser.Trace

/-!
# Object caches

A cache holds one collection of objects that belongs to some owner: the databases of a server, the
tables of a schema. It is filled by listing the remote side once, or object by object, and then
serves from memory until it is cleared.

Objects are instances with a state: a refresh keeps the instance and changes its state. An instance
is therefore a number, a `Ref`, and the cache keeps the current state of every instance that it
ever made, whether or not it is still cached.

## Main definitions

* `Source` - what a cache has to know about its objects and their records.
* `Snapshot` - the published view: the entries in order, and an index of them by key.
* `Cache` - the whole state, with the fetch and the lookups that are in flight.
* `Cache.cachedObjects`, `Cache.cachedObject?` - reading from memory.

## Design notes

A caller that waits for another caller's fetch does so through a *promise*, a result that is given
once. Promises are kept in the cache and never forgotten, so a late waiter reads the same result as
an early one. A leader that goes away gives the result `CacheError.cancelled`.
-/

namespace CatalogBrowser

/-- The number of an object instance within the cache that made it. -/
abbrev Ref := Nat

/-- What a cache has to know about its objects, of type `α`, and their records, of type `ρ`. -/
structure Source (ρ α : Type) where
  /-- Turns a record into an object, or skips it. -/
  construct : ρ → Option α
  /-- The identity under which an object is indexed. -/
  identity : α → Identity
  /-- Whether an object is known to exist remotely. -/
  isPersisted : α → Bool
  /-- The state of a cached object after a fresh one with the same key was merged into it. -/
  merge : (existing fresh : α) → α
  /-- The state of an object after it was dropped from its cache. -/
  evicted : α → α

namespace Cache

/-- The name of a cache, for its messages, and how it compares names. -/
structure Config where
  name : String := "objects"
  keyPolicy : KeyPolicy := .exact
deriving DecidableEq, Repr

/-- What a cache knows about the completeness of its contents. -/
inductive Freshness where
  /-- The collection was never fetched, or was cleared. -/
  | empty
  /-- The collection is being fetched. -/
  | loading
  /-- The full collection is in memory. -/
  | loaded
deriving DecidableEq, Repr

/-- The outcome of merging a listing into a cache. Updated objects are the instances that were
cached before. -/
structure ChangeSet where
  added : List Ref := []
  removed : List Ref := []
  updated : List Ref := []
deriving DecidableEq, Repr

namespace ChangeSet

/-- Whether the set of cached objects is the same; updated objects do not count. -/
def isUnchanged (changes : ChangeSet) : Bool :=
  changes.added.isEmpty && changes.removed.isEmpty

/-- The change set for diagnostics, as the lengths of its lists. -/
def summary (changes : ChangeSet) : String :=
  s!"ChangeSet \x7b added: {changes.added.length}, removed: {changes.removed.length}, " ++
    s!"updated: {changes.updated.length} \x7d"

end ChangeSet

/-- The published view of a cache. -/
structure Snapshot where
  entries : List Ref := []
  index : List (Key × Ref) := []
  /-- Whether the entries are the full remote collection. -/
  complete : Bool := false
deriving DecidableEq, Repr

/-- The entry under a key. -/
def Snapshot.find? (snapshot : Snapshot) (key : Key) : Option Ref :=
  snapshot.index.lookup key

/-- A fetch or a lookup in flight: the generation it started in, and the promise of its result. -/
structure InFlight where
  generation : Nat
  promise : Nat
deriving DecidableEq, Repr

/-- Results that are given once and read any number of times. -/
abbrev Promises (β : Type) := Array (Option β)

namespace Promises

variable {β : Type}

def make (ps : Promises β) : Promises β × Nat :=
  (ps.push none, ps.size)

def resolve (ps : Promises β) (promise : Nat) (result : β) : Promises β :=
  ps.modify promise fun _ => some result

def result? (ps : Promises β) (promise : Nat) : Option β :=
  ps.getD promise none

end Promises

/-- What a fetch promises: the snapshot of its listing. -/
abbrev FetchResult := Except CacheError Snapshot

/-- What a lookup promises: the object, if there is one. -/
abbrev LookupResult := Except CacheError (Option Ref)

/-- What a cache reports about its work, apart from its state. -/
inductive Event (α : Type) where
  | log (line : LogLine)
  | metric (metric : Metric)
  /-- The remote side was asked for all records. -/
  | listing
  /-- The remote side was asked for one record. -/
  | lookup (identity : Identity)
  /-- A fresh object was merged into an instance, whose state was `existing`. -/
  | merged (ref : Ref) (existing fresh : α)
  /-- An instance, whose state was `object`, was dropped from the cache. -/
  | evicted (ref : Ref) (object : α)
  /-- The listener was told of changes, with the cached objects and all states at that moment. -/
  | notified (changes : ChangeSet) (cached : List Ref) (objects : Array α)
  /-- Units of work were completed. -/
  | worked (units : Nat)

def workUnits {α : Type} (events : List (Event α)) : Nat :=
  events.foldl (fun n event => match event with
    | .worked units => n + units
    | _ => n) 0

end Cache

open Cache in
/-- The state of an object cache. -/
structure Cache (α : Type) where
  config : Config
  freshness : Freshness := .empty
  /-- Counts how often the contents were replaced or dropped. A fetch that started under an older
  generation does not commit its result. -/
  generation : Nat := 0
  /-- The one fetch that may be in flight. -/
  fetch : Option InFlight := none
  /-- The lookups in flight, by key. -/
  lookups : List (Key × InFlight) := []
  snapshot : Snapshot := {}
  /-- The states of all instances ever made. -/
  objects : Array α := #[]
  fetchResults : Promises FetchResult := #[]
  lookupResults : Promises LookupResult := #[]

namespace Cache

variable {ρ α : Type}

def name (c : Cache α) : String :=
  c.config.name

/-- The key of an identity in this cache. -/
def key (c : Cache α) (identity : Identity) : Key :=
  c.config.keyPolicy.key identity

/-- Whether the full collection is in memory. -/
def isFullyCached (c : Cache α) : Bool :=
  c.snapshot.complete

/-- The full collection from memory, or nothing unless all of it was loaded. -/
def cachedObjects (c : Cache α) : List Ref :=
  if c.snapshot.complete then c.snapshot.entries else []

/-- One object from memory, also if only single objects were loaded. -/
def cachedObject? (c : Cache α) (identity : Identity) : Option Ref :=
  c.snapshot.find? (c.key identity)

/-- The state of an instance. -/
def object? (c : Cache α) (ref : Ref) : Option α :=
  c.objects[ref]?

def modifyObject (c : Cache α) (ref : Ref) (f : α → α) : Cache α :=
  { c with objects := c.objects.modify ref f }

/-- The snapshot of some entries, with the index built from their present identities. -/
def snapshotOf (source : Source ρ α) (c : Cache α) (entries : List Ref) (complete : Bool) :
    Snapshot where
  entries := entries
  index := (entries.filterMap fun ref =>
    (c.object? ref).map fun object => (c.key (source.identity object), ref)).reverse
  complete := complete

/-- Publishes a new snapshot. -/
def publish (source : Source ρ α) (c : Cache α) (entries : List Ref) (complete : Bool) : Cache α :=
  { c with snapshot := c.snapshotOf source entries complete }

/-- A log line that starts with the cache's name. -/
def logLine (c : Cache α) (level : LogLevel) (message : String)
    (fields : List (String × String) := []) : Event α :=
  .log { level, message, fields := ("cache", c.name) :: fields }

def counted (c : Cache α) (metric : String) : Event α :=
  .metric { name := metric, cache := c.name, measurement := .count 1 }

def Freshness.label : Freshness → String
  | .empty => "Empty"
  | .loading => "Loading"
  | .loaded => "Loaded"

/-- The cache for diagnostics: its name, its freshness, and the number of its entries. -/
def summary (c : Cache α) : String :=
  "ObjectCache \x7b name: " ++ Text.quote c.name ++ ", freshness: Some(" ++ c.freshness.label ++
    "), objects: " ++ toString c.snapshot.entries.length ++ " \x7d"

theorem object?_modifyObject_self {c : Cache α} {ref : Ref} {object : α} (f : α → α)
    (h : c.object? ref = some object) : (c.modifyObject ref f).object? ref = some (f object) := by
  rw [object?] at h
  simp [modifyObject, object?, Array.getElem?_modify, h]

theorem object?_modifyObject_of_ne (c : Cache α) {ref other : Ref} (h : other ≠ ref) (f : α → α) :
    (c.modifyObject ref f).object? other = c.object? other := by
  simp [modifyObject, object?, Array.getElem?_modify, h.symm]

theorem modifyObject_modifyObject (c : Cache α) (ref : Ref) (f g : α → α) :
    (c.modifyObject ref f).modifyObject ref g = c.modifyObject ref (g ∘ f) := by
  have hobjects : (c.objects.modify ref f).modify ref g = c.objects.modify ref (g ∘ f) := by
    apply Array.ext_getElem?
    intro i
    simp only [Array.getElem?_modify]
    split <;> simp [Option.map_map]
  simp only [modifyObject, hobjects]

/-- Giving an instance the state that it has changes nothing. -/
theorem modifyObject_of_eq {c : Cache α} {ref : Ref} {f : α → α}
    (h : ∀ object, c.object? ref = some object → f object = object) :
    c.modifyObject ref f = c := by
  have hobjects : c.objects.modify ref f = c.objects := by
    apply Array.ext_getElem?
    intro i
    rw [Array.getElem?_modify]
    split
    · subst i
      cases hobject : c.objects[ref]? with
      | none => rfl
      | some object => exact congrArg some (h object hobject)
    · rfl
  rw [modifyObject, hobjects]

end Cache

end CatalogBrowser
