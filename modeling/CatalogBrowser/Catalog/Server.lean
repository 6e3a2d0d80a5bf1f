import CatalogBrowser.Catalog.Document

/-!
# A server

A server answers queries from a document. A query is under way for the document's latency, read
when the query starts. Its answer is made when it ends: from the document of that moment, or an
error if the server is offline by then. Time is counted in milliseconds and moves only by hand.
-/

namespace CatalogBrowser

/-- A server with its clock. -/
structure Server where
  document : Document := {}
  /-- Why the server cannot be reached. -/
  offline : Option String := none
  /-- How many queries were started. -/
  queries : Nat := 0
  now : Nat := 0

/-- A query under way, which ends when the clock reaches `due`. -/
structure Pending where
  due : Nat
deriving DecidableEq, Repr

/-- How many milliseconds a query is under way. -/
def Document.wait (document : Document) : Nat :=
  (document.latency.map Duration.milliseconds).getD 0

namespace Server

def ask (server : Server) : Server × Pending :=
  ({ server with queries := server.queries + 1 }, { due := server.now + server.document.wait })

def answer? {β : Type} (server : Server) (pending : Pending)
    (read : Document → Except ConnectionError β) : Option (Except ConnectionError β) :=
  if server.now < pending.due then none
  else match server.offline with
    | some reason => some (.error (.connectionLost reason))
    | none => some (read server.document)

def advance (server : Server) (milliseconds : Nat) : Server :=
  { server with now := server.now + milliseconds }

end Server

end CatalogBrowser
