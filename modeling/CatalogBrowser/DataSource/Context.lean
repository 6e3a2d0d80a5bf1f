import CatalogBrowser.DataSource.Basic
import CatalogBrowser.Monitor

/-!
# Running loads on a data source

A `Context` is a data source with the server that it reads from, the monitors, and the log. Each of
the four kinds of caches has a function that runs a load on it: the load's events become log lines
and work of its monitor.
-/

namespace CatalogBrowser

/-- A data source and all that its tasks share. -/
structure Context where
  source : DataSource
  server : Server := {}
  monitors : Monitors := {}
  log : Array LogLine := #[]

namespace Context

open Cache (Load Remote Result)

variable {κ ρ α : Type}

def say (ctx : Context) (lines : List LogLine) : Context :=
  { ctx with log := ctx.log ++ lines.toArray }

/-- Waits for as long as a query takes. -/
def pause (ctx : Context) : Context :=
  { ctx with server := ctx.server.advance ctx.server.document.wait }

/-- Whether cancellation of a monitor was requested. -/
def isCancelled (ctx : Context) (monitor : Monitor) : Bool :=
  ctx.monitors.isCancelled monitor

/-- Runs a load on a cache. The caller puts the cache back in its place. -/
def runLoad (ctx : Context) (monitor : Monitor) (source : Source ρ α) (remote : Remote Server κ ρ)
    (lines : Cache.Event α → List LogLine) (cache : Cache α) (load : Load κ) :
    Context × Cache α × Poll (Load κ) Result :=
  let turn := load.run source remote ctx.server cache (ctx.isCancelled monitor)
  let ctx := { ctx with
    server := turn.world
    monitors := ctx.monitors.worked monitor (Cache.workUnits turn.events) }
  (ctx.say (turn.events.flatMap lines), turn.cache, turn.poll)

/-- The result of a load on a cache that does not exist. -/
def nowhere (ctx : Context) : Context × Poll (Load κ) Result :=
  (ctx, .finished (.error .cancelled))

def runDatabases (ctx : Context) (monitor : Monitor) (load : Load Database.Query) :
    Context × Poll (Load Database.Query) Result :=
  let ds := ctx.source
  let remote := Database.remote ds.connection ds.activeName
  let (ctx, databases, poll) := ctx.runLoad monitor Database.source remote Database.eventLines
    ds.databases load
  ({ ctx with source := { ds with databases } }, poll)

def runSettings (ctx : Context) (monitor : Monitor) (load : Load Setting.Query) :
    Context × Poll (Load Setting.Query) Result :=
  let ds := ctx.source
  let (ctx, settings, poll) := ctx.runLoad monitor Setting.source Setting.remote
    Setting.eventLines ds.settings load
  ({ ctx with source := { ds with settings } }, poll)

def runSchemas (ctx : Context) (monitor : Monitor) (db : Ref) (load : Load Schema.Query) :
    Context × Poll (Load Schema.Query) Result :=
  match ctx.source.database? db with
  | none => ctx.nowhere
  | some database =>
    let (ctx, schemas, poll) := ctx.runLoad monitor (Schema.source database.name)
      (Schema.remote database.name) Schema.eventLines database.schemas load
    ({ ctx with source := ctx.source.putSchemas db schemas }, poll)

/-- Runs a load on the tables of a schema, which are queried by its present name. -/
def runTables (ctx : Context) (monitor : Monitor) (db schema : Ref) (load : Load Table.Query) :
    Context × Poll (Load Table.Query) Result :=
  match ctx.source.schema? db schema with
  | none => ctx.nowhere
  | some owner =>
    let (ctx, tables, poll) := ctx.runLoad monitor Table.source
      (Table.remote owner.database owner.name) Table.eventLines owner.tables load
    ({ ctx with source := ctx.source.putTables db schema tables }, poll)

def abandonDatabases (ctx : Context) (load : Load Database.Query) : Context :=
  let ds := ctx.source
  { ctx with source := { ds with databases := ds.databases.abandon load.stage } }

def abandonSettings (ctx : Context) (load : Load Setting.Query) : Context :=
  let ds := ctx.source
  { ctx with source := { ds with settings := ds.settings.abandon load.stage } }

def abandonSchemas (ctx : Context) (db : Ref) (load : Load Schema.Query) : Context :=
  match ctx.source.database? db with
  | none => ctx
  | some database =>
    { ctx with source := ctx.source.putSchemas db (database.schemas.abandon load.stage) }

def abandonTables (ctx : Context) (db schema : Ref) (load : Load Table.Query) : Context :=
  match ctx.source.schema? db schema with
  | none => ctx
  | some owner =>
    { ctx with source := ctx.source.putTables db schema (owner.tables.abandon load.stage) }

def editDatabases (ctx : Context) (edit : Cache.Edit Database) : Cache.EditReply × Context :=
  let ds := ctx.source
  let (reply, databases, events) := edit.apply Database.source ds.databases
  (reply, { ctx with source := { ds with databases } }.say (events.flatMap Database.eventLines))

def editSettings (ctx : Context) (edit : Cache.Edit Setting) : Cache.EditReply × Context :=
  let ds := ctx.source
  let (reply, settings, events) := edit.apply Setting.source ds.settings
  (reply, { ctx with source := { ds with settings } }.say (events.flatMap Setting.eventLines))

def editSchemas (ctx : Context) (db : Ref) (edit : Cache.Edit Schema) : Cache.EditReply × Context :=
  match ctx.source.database? db with
  | none => (.nothing, ctx)
  | some database =>
    let (reply, schemas, events) := edit.apply (Schema.source database.name) database.schemas
    (reply, { ctx with source := ctx.source.putSchemas db schemas }.say
      (events.flatMap Schema.eventLines))

def editTables (ctx : Context) (db schema : Ref) (edit : Cache.Edit Table) :
    Cache.EditReply × Context :=
  match ctx.source.schema? db schema with
  | none => (.nothing, ctx)
  | some owner =>
    let (reply, tables, events) := edit.apply Table.source owner.tables
    (reply, { ctx with source := ctx.source.putTables db schema tables }.say
      (events.flatMap Table.eventLines))

end Context

end CatalogBrowser
