import CatalogBrowser.DataSource.Context

/-!
# Preloading nested caches

Reading the tree of databases, schemas and tables down to a depth. A walk loads one cache and then
walks into the objects that it holds, side by side: siblings run in the order of the list, and the
first that fails ends the walk, whereupon the others are dropped.

## Main definitions

* `TableWalk`, `SchemaWalk`, `DatabaseWalk` - how far a walk has come, level by level.
* `Context.runEach` - runs siblings once, up to the first failure.
* `Context.walkDatabases` - runs a walk over the whole tree until it finishes or has to wait.
-/

namespace CatalogBrowser

open Cache (Load)

/-- A walk into one schema: the load of its tables. -/
structure TableWalk where
  schema : Ref
  load : Load Table.Query := { request := .all }
deriving DecidableEq

/-- A walk into one database: the load of its schemas, and then the walks into those. -/
inductive SchemaWalk where
  | loading (depth : Nat) (load : Load Schema.Query)
  | descending (walks : List TableWalk)
deriving DecidableEq

/-- A walk into one of the databases. -/
structure DatabaseBranch where
  db : Ref
  walk : SchemaWalk
deriving DecidableEq

/-- A walk over the databases: their load, and then the walks into them. -/
inductive DatabaseWalk where
  | loading (depth : Nat) (load : Load Database.Query)
  | descending (walks : List DatabaseBranch)
deriving DecidableEq

def SchemaWalk.ofDepth (depth : Nat) : SchemaWalk :=
  .loading depth { request := .all }

def DatabaseWalk.ofDepth (depth : Nat) : DatabaseWalk :=
  .loading depth { request := .all }

def Cache.Reply.refs : Cache.Reply → List Ref
  | .objects refs => refs
  | _ => []

namespace Context

abbrev WalkResult := Except CacheError Unit

/-- Runs siblings in order, up to the first that fails. Gives those that are not finished, with
those that did not run, and the failure. -/
def runEach {τ : Type} (run : Context → τ → Context × Poll τ WalkResult) (ctx : Context) :
    List τ → Context × List τ × Option CacheError
  | [] => (ctx, [], none)
  | task :: rest =>
    match run ctx task with
    | (ctx, .finished (.error error)) => (ctx, rest, some error)
    | (ctx, .finished (.ok ())) => runEach run ctx rest
    | (ctx, .waiting task) =>
      let (ctx, rest, failure) := runEach run ctx rest
      (ctx, task :: rest, failure)

/-- Runs siblings until all of them are finished, or one fails, or all that are left have to wait.
After a failure the others are dropped. -/
def runSiblings {σ τ : Type} (run : Context → τ → Context × Poll τ WalkResult)
    (abandon : Context → τ → Context) (state : List τ → σ) (ctx : Context) (tasks : List τ) :
    Context × Poll σ WalkResult :=
  match runEach run ctx tasks with
  | (ctx, rest, some error) => (rest.foldl abandon ctx, .finished (.error error))
  | (ctx, [], none) => (ctx, .finished (.ok ()))
  | (ctx, rest, none) => (ctx, .waiting (state rest))

def walkTables (monitor : Monitor) (db : Ref) (ctx : Context) (walk : TableWalk) :
    Context × Poll TableWalk WalkResult :=
  match ctx.runTables monitor db walk.schema walk.load with
  | (ctx, .waiting load) => (ctx, .waiting { walk with load })
  | (ctx, .finished result) => (ctx, .finished (result.map fun _ => ()))

def abandonTableWalk (db : Ref) (ctx : Context) (walk : TableWalk) : Context :=
  ctx.abandonTables db walk.schema walk.load

def walkEachSchema (monitor : Monitor) (db : Ref) (ctx : Context) (walks : List TableWalk) :
    Context × Poll SchemaWalk WalkResult :=
  ctx.runSiblings (walkTables monitor db) (abandonTableWalk db) .descending walks

def walkSchemas (monitor : Monitor) (db : Ref) (ctx : Context) :
    SchemaWalk → Context × Poll SchemaWalk WalkResult
  | .loading 0 _ => (ctx, .finished (.ok ()))
  | .loading (depth + 1) load =>
    match ctx.runSchemas monitor db load with
    | (ctx, .waiting load) => (ctx, .waiting (.loading (depth + 1) load))
    | (ctx, .finished (.error error)) => (ctx, .finished (.error error))
    | (ctx, .finished (.ok reply)) =>
      if depth = 0 then (ctx, .finished (.ok ()))
      else walkEachSchema monitor db ctx (reply.refs.map fun schema => { schema })
  | .descending walks => walkEachSchema monitor db ctx walks

def abandonSchemaWalk (db : Ref) (ctx : Context) : SchemaWalk → Context
  | .loading _ load => ctx.abandonSchemas db load
  | .descending walks => walks.foldl (abandonTableWalk db) ctx

def walkBranch (monitor : Monitor) (ctx : Context) (branch : DatabaseBranch) :
    Context × Poll DatabaseBranch WalkResult :=
  match walkSchemas monitor branch.db ctx branch.walk with
  | (ctx, .waiting walk) => (ctx, .waiting { branch with walk })
  | (ctx, .finished result) => (ctx, .finished result)

def abandonBranch (ctx : Context) (branch : DatabaseBranch) : Context :=
  abandonSchemaWalk branch.db ctx branch.walk

def walkEachDatabase (monitor : Monitor) (ctx : Context) (walks : List DatabaseBranch) :
    Context × Poll DatabaseWalk WalkResult :=
  ctx.runSiblings (walkBranch monitor) abandonBranch .descending walks

def walkDatabases (monitor : Monitor) (ctx : Context) :
    DatabaseWalk → Context × Poll DatabaseWalk WalkResult
  | .loading 0 _ => (ctx, .finished (.ok ()))
  | .loading (depth + 1) load =>
    match ctx.runDatabases monitor load with
    | (ctx, .waiting load) => (ctx, .waiting (.loading (depth + 1) load))
    | (ctx, .finished (.error error)) => (ctx, .finished (.error error))
    | (ctx, .finished (.ok reply)) =>
      if depth = 0 then (ctx, .finished (.ok ()))
      else walkEachDatabase monitor ctx
        (reply.refs.map fun db => { db, walk := SchemaWalk.ofDepth depth })
  | .descending walks => walkEachDatabase monitor ctx walks

def abandonDatabaseWalk (ctx : Context) : DatabaseWalk → Context
  | .loading _ load => ctx.abandonDatabases load
  | .descending walks => walks.foldl abandonBranch ctx

end Context

end CatalogBrowser
