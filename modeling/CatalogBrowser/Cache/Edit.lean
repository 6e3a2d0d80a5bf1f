import CatalogBrowser.Cache.Reconcile

/-!
# Editing a cache

The operations on a cache that finish at once: replacing, clearing and reconciling the collection,
adding and removing single objects, and sorting. None of them waits for a fetch in flight; replacing
and clearing start a new generation, so that such a fetch has no effect later.

Each operation gives the new cache together with the events in the order in which they happened.
`Edit` names the operations, and `Edit.apply` performs one.
-/

namespace CatalogBrowser.Cache

variable {ρ α : Type}

def evict (source : Source ρ α) (objects : Array α) : List Ref → Array α × List (Event α)
  | [] => (objects, [])
  | ref :: rest =>
    let (dropped, later) := evict source (objects.modify ref source.evicted) rest
    (dropped, objects[ref]?.toList.map (Event.evicted ref) ++ later)

/-- Drops instances of a cache in order. -/
def evictAll (source : Source ρ α) (c : Cache α) (refs : List Ref) : Cache α × List (Event α) :=
  let (objects, events) := evict source c.objects refs
  ({ c with objects }, events)

def notification (c : Cache α) (changes : ChangeSet) : Event α :=
  .notified changes c.cachedObjects c.objects

def objectKey (source : Source ρ α) (c : Cache α) (object : α) : Key :=
  c.key (source.identity object)

/-- Replaces the collection by objects that were obtained in some other way. -/
def set (source : Source ρ α) (c : Cache α) (fresh : List α) : Cache α × List (Event α) :=
  let out := instantiate (c.objectKey source) c.objects fresh
  let replaced := { c with
    objects := out.objects, generation := c.generation + 1, freshness := .loaded }
  let (after, events) := (replaced.publish source out.entries true).evictAll source
    c.snapshot.entries
  (after, out.events ++ events)

def clear (source : Source ρ α) (c : Cache α) : Cache α × List (Event α) :=
  let emptied := { c with snapshot := {}, generation := c.generation + 1, freshness := .empty }
  let (after, events) := emptied.evictAll source c.snapshot.entries
  let line := c.logLine .debug "Cleared cache" [("objects", toString c.snapshot.entries.length)]
  (after, line :: events)

/-- Merges a full listing into the collection, with a merge of the caller's choice. -/
def reconcileWith (source : Source ρ α) (c : Cache α) (merge : α → α → α) (fresh : List α) :
    ChangeSet × Cache α × List (Event α) :=
  let out := reconcile (c.objectKey source) source.isPersisted merge c.objects c.snapshot.entries
    fresh
  let merged := { c with objects := out.objects, freshness := .loaded }
  let (after, events) := (merged.publish source out.entries true).evictAll source
    out.changes.removed
  let count := fun (metric : String) (refs : List Ref) => Event.metric {
    name := metric, cache := c.name, measurement := .count refs.length }
  let metrics := [count "caches.reconcile.added" out.changes.added,
    count "caches.reconcile.removed" out.changes.removed]
  (out.changes, after, out.events ++ metrics ++ events ++ [after.notification out.changes])

/-- Adds one object, unless its key is taken. -/
def insert (source : Source ρ α) (c : Cache α) (object : α) : Except CacheError (Ref × Cache α) :=
  let key := c.objectKey source object
  match c.snapshot.find? key with
  | some _ => .error (.conflict key)
  | none =>
    let ref := c.objects.size
    let grown := { c with objects := c.objects.push object }
    .ok (ref, grown.publish source (c.snapshot.entries ++ [ref]) c.snapshot.complete)

/-- Removes one object, and gives the instance if there was one. -/
def remove (source : Source ρ α) (c : Cache α) (identity : Identity) :
    Option Ref × Cache α × List (Event α) :=
  match c.cachedObject? identity with
  | none => (none, c, [])
  | some ref =>
    let entries := c.snapshot.entries.filter (· ≠ ref)
    let (after, events) := (c.publish source entries c.snapshot.complete).evictAll source [ref]
    (some ref, after, events)

/-- Sorts the entries by the states of their objects, stably. -/
def sort (source : Source ρ α) (c : Cache α) (le : α → α → Bool) : Cache α :=
  let ordered := fun a b =>
    match c.object? a, c.object? b with
    | some x, some y => le x y
    | _, _ => true
  c.publish source (c.snapshot.entries.mergeSort ordered) c.snapshot.complete

/-- An operation on a cache that finishes at once. -/
inductive Edit (α : Type) where
  | set (fresh : List α)
  | clear
  | reconcile (merge : α → α → α) (fresh : List α)
  | insert (object : α)
  | remove (identity : Identity)
  | sort (le : α → α → Bool)
  /-- The owner of an instance changes its state. -/
  | change (ref : Ref) (f : α → α)

/-- What an edit answers. -/
inductive EditReply where
  | nothing
  | changes (changes : ChangeSet)
  | inserted (result : Except CacheError Ref)
  | removed (ref : Option Ref)

/-- Performs an edit. -/
def Edit.apply (source : Source ρ α) (c : Cache α) : Edit α → EditReply × Cache α × List (Event α)
  | .set fresh => (.nothing, c.set source fresh)
  | .clear => (.nothing, c.clear source)
  | .reconcile merge fresh =>
    let (changes, after) := c.reconcileWith source merge fresh
    (.changes changes, after)
  | .insert object =>
    match c.insert source object with
    | .ok (ref, after) => (.inserted (.ok ref), after, [])
    | .error error => (.inserted (.error error), c, [])
  | .remove identity =>
    let (ref, after) := c.remove source identity
    (.removed ref, after)
  | .sort le => (.nothing, c.sort source le, [])
  | .change ref f => (.nothing, c.modifyObject ref f, [])

end CatalogBrowser.Cache
