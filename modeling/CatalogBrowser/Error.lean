import CatalogBrowser.Key

/-!
# Errors

What can go wrong, as causes. `ConnectionError` is reported by whoever talks to the server,
`CacheError` by a cache, and `DataSourceError` by the data source as a whole. Each has a `message`,
and `DataSourceError.chain` lists an error's message followed by those of its causes.
-/

namespace CatalogBrowser

/-- A failure while talking to the server. -/
inductive ConnectionError where
  | connectionLost (reason : String)
  | permissionDenied (reason : String)
  | queryFailed (reason : String)
  | driver (reason : String)
deriving DecidableEq, Repr

/-- The text of a failure; a driver's text is taken as it is. -/
def ConnectionError.message : ConnectionError → String
  | .connectionLost reason => "connection lost: " ++ reason
  | .permissionDenied reason => "permission denied: " ++ reason
  | .queryFailed reason => "query failed: " ++ reason
  | .driver reason => reason

/-- An error of a cache operation. -/
inductive CacheError where
  | remoteFetch (cache : String) (source : ConnectionError)
  | cancelled
  | conflict (key : Key)
deriving DecidableEq, Repr

namespace CacheError

def message : CacheError → String
  | .remoteFetch cache _ => s!"failed to read {cache} from the remote source"
  | .cancelled => "operation cancelled"
  | .conflict key => "an object named `" ++ key.display ++ "` already exists"

/-- The error's text followed by the texts of its causes. -/
def chain : CacheError → List String
  | .remoteFetch cache source => [message (.remoteFetch cache source), source.message]
  | error => [error.message]

/-- Whether the error stems from a cancellation. -/
def isCancelled : CacheError → Bool
  | .cancelled => true
  | _ => false

@[simp] theorem isCancelled_iff {error : CacheError} :
    error.isCancelled = true ↔ error = .cancelled := by
  cases error <;> simp [isCancelled]

end CacheError

/-- An error of a data source operation. -/
inductive DataSourceError where
  | cache (error : CacheError)
  | connection (error : ConnectionError)
  | noDatabases
  | notConnected
deriving DecidableEq, Repr

namespace DataSourceError

/-- The text of the error itself; a cache error speaks for itself. -/
def message : DataSourceError → String
  | .cache error => error.message
  | .connection _ => "failed to query the server"
  | .noDatabases => "no databases found on the server"
  | .notConnected => "the data source is not connected"

/-- The error's text followed by the texts of its causes. -/
def chain : DataSourceError → List String
  | .cache error => error.chain
  | .connection error => [message (.connection error), error.message]
  | error => [error.message]

/-- Whether the error stems from a cancellation. -/
def isCancelled : DataSourceError → Bool
  | .cache error => error.isCancelled
  | _ => false

end DataSourceError

end CatalogBrowser
