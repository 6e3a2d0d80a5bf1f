import CatalogBrowser.Cache.Basic

/-!
# Reconciliation

Merging a fresh listing into the cached entries. A fresh object whose key is cached is merged into
the cached instance; any other becomes a new instance. The result follows the order of the listing.
Cached objects that the listing lacks are removed, except for drafts that were never persisted,
which stay behind the listed ones in their old order. Of several fresh objects with one key only the
first counts.

## Main definitions

* `absorb` - goes through the listing, and tells which cached objects it did not meet.
* `reconcile` - the new entries, the changes, and the states after all merges.
-/

namespace CatalogBrowser.Cache

variable {α : Type}

/-- What is known after going through a listing. -/
structure Absorbed (α : Type) where
  /-- The states of all instances. -/
  objects : Array α
  /-- The instances that the listing stands for, in its order. -/
  entries : List Ref := []
  /-- Those of them that are new. -/
  added : List Ref := []
  /-- Those of them that were cached. -/
  updated : List Ref := []
  /-- The cached objects that the listing lacks, by key. -/
  unmet : List (Key × Ref)
  events : List (Event α) := []

/-- The report of a fresh object whose key occurred before. -/
def duplicateWarning (key : Key) : Event α :=
  .log {
    level := .warn
    message := "Skipping duplicate object in remote listing"
    fields := [("key", key.display)] }

/-- Goes through the fresh objects, with the cached objects that were not met yet and the keys that
were seen. -/
def absorb (key : α → Key) (merge : α → α → α) (objects : Array α) (unmet : List (Key × Ref))
    (seen : List Key) : List α → Absorbed α
  | [] => { objects, unmet }
  | object :: rest =>
    let k := key object
    if k ∈ seen then
      let out := absorb key merge objects unmet seen rest
      { out with events := duplicateWarning k :: out.events }
    else
      match unmet.lookup k with
      | some ref =>
        let out := absorb key merge (objects.modify ref (merge · object))
          (unmet.filter (·.1 ≠ k)) (k :: seen) rest
        let events := objects[ref]?.toList.map (Event.merged ref · object)
        { out with
          entries := ref :: out.entries
          updated := ref :: out.updated
          events := events ++ out.events }
      | none =>
        let ref := objects.size
        let out := absorb key merge (objects.push object) unmet (k :: seen) rest
        { out with entries := ref :: out.entries, added := ref :: out.added }

/-- The outcome of a reconciliation. -/
structure Reconciliation (α : Type) where
  objects : Array α
  entries : List Ref
  changes : ChangeSet
  events : List (Event α)

/-- Pairs instances with their keys. -/
def keyed (key : α → Key) (objects : Array α) (refs : List Ref) : List (Key × Ref) :=
  refs.filterMap fun ref => objects[ref]?.map fun object => (key object, ref)

/-- Merges the listing `fresh` into the entries `current`. -/
def reconcile (key : α → Key) (isPersisted : α → Bool) (merge : α → α → α) (objects : Array α)
    (current : List Ref) (fresh : List α) : Reconciliation α :=
  let out := absorb key merge objects (keyed key objects current).reverse [] fresh
  -- the leftovers are told by the keys that they have after all merges
  let unlisted := ((keyed key out.objects current).filter fun entry =>
    (out.unmet.lookup entry.1).isSome).map (·.2)
  let persisted := fun ref => out.objects[ref]?.any isPersisted
  { objects := out.objects
    entries := out.entries ++ unlisted.filter (!persisted ·)
    changes := {
      added := out.added
      removed := unlisted.filter persisted
      updated := out.updated }
    events := out.events }

/-- Turns a listing into new instances, without regard to what is cached. -/
def instantiate (key : α → Key) (objects : Array α) (fresh : List α) : Reconciliation α :=
  reconcile key (fun _ => true) (fun existing _ => existing) objects [] fresh

end CatalogBrowser.Cache
