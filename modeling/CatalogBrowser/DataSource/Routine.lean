import CatalogBrowser.DataSource.Preload

/-!
# Routines of the data source

Everything that a task can do with a data source: initialising and refreshing it, reading one of its
caches, preloading, and querying the server directly. A `Routine` says how far a task has come;
`Context.run` runs it until it finishes or has to wait, and `Context.abandon` drops it there.

Initialising finds out the databases and the active one, and then preloads the settings. The
settings are not essential: if they cannot be read, unless by a cancellation, that is only noted.
-/

namespace CatalogBrowser

open Cache (Load)

/-- How far the initialisation has come. -/
inductive Initialization where
  | start
  | databases (load : Load Database.Query)
  | current (query : Pending)
  | settings (load : Load Setting.Query)
deriving DecidableEq

/-- A query to the server that bypasses the caches. -/
inductive DirectQuery where
  | databases (filter : DatabaseFilter)
  | current
  | settings
  | setting (name : String)
  | schemas (database : String)
  | tables (database schema : String)
deriving DecidableEq

/-- A task on a data source, and how far it has come. -/
inductive Routine where
  | opening (stage : Initialization)
  /-- Refreshes the databases; the settings are cleared on the first run. -/
  | refresh (begun : Bool) (load : Load Database.Query)
  | databases (load : Load Database.Query)
  | settings (load : Load Setting.Query)
  | schemas (db : Ref) (load : Load Schema.Query)
  | tables (db schema : Ref) (load : Load Table.Query)
  | preload (walk : DatabaseWalk)
  | preloadDatabase (db : Ref) (walk : SchemaWalk)
  | preloadSchema (db schema : Ref) (depth : Nat) (load : Load Table.Query)
  | query (query : DirectQuery) (pending : Option Pending)
deriving DecidableEq

/-- What a routine answers. -/
inductive Answer where
  | done
  | databases (reply : Cache.Reply)
  | settings (reply : Cache.Reply)
  | schemas (db : Ref) (reply : Cache.Reply)
  | tables (db schema : Ref) (reply : Cache.Reply)
  | databaseRows (rows : List DatabaseRecord)
  | current (name : Option String)
  | settingRows (rows : List SettingRecord)
  | settingRow (row : Option SettingRecord)
  | schemaRows (rows : List SchemaRecord)
  | tableRows (rows : List TableRecord)
deriving DecidableEq

/-- Why a routine failed: an operation of the data source, or a direct query. -/
inductive Failure where
  | operation (error : DataSourceError)
  | query (error : ConnectionError)
deriving DecidableEq

abbrev Routine.Result := Except Failure Answer

def Failure.ofCache (error : CacheError) : Failure :=
  .operation (.cache error)

def DirectQuery.answer (document : Document) : DirectQuery → Except ConnectionError Answer
  | .databases filter => .ok (.databaseRows (document.listDatabases filter))
  | .current => .ok (.current document.currentDatabase)
  | .settings => .ok (.settingRows document.listSettings)
  | .setting name => .ok (.settingRow (document.setting? name))
  | .schemas database => (document.listSchemas database).map .schemaRows
  | .tables database schema => (document.listTables database schema).map .tableRows

namespace Context

abbrev Ran := Context × Poll Routine Routine.Result

def follow {σ : Type} (out : Context × Poll σ Cache.Result) (state : σ → Routine)
    (answer : Cache.Reply → Answer) : Ran :=
  match out with
  | (ctx, .waiting load) => (ctx, .waiting (state load))
  | (ctx, .finished (.ok reply)) => (ctx, .finished (.ok (answer reply)))
  | (ctx, .finished (.error error)) => (ctx, .finished (.error (.ofCache error)))

def followWalk {σ : Type} (out : Context × Poll σ WalkResult) (state : σ → Routine) : Ran :=
  match out with
  | (ctx, .waiting walk) => (ctx, .waiting (state walk))
  | (ctx, .finished (.ok ())) => (ctx, .finished (.ok .done))
  | (ctx, .finished (.error error)) => (ctx, .finished (.error (.ofCache error)))

section Opening

/-- Ends the initialisation once it is known whether the settings could be read. -/
def initialized (ctx : Context) : Cache.Result → Ran
  | .ok reply =>
    let line := {
      level := .debug
      message := "Preloaded settings"
      fields := [("settings", toString reply.refs.length)] }
    (ctx.say [line], .finished (.ok .done))
  | .error error =>
    if error.isCancelled then (ctx, .finished (.error (.ofCache error)))
    else
      let line := {
        level := .warn
        message := "Failed to preload settings"
        fields := [("error", error.message)] }
      (ctx.say [line], .finished (.ok .done))

/-- Preloads the settings, the last stage of the initialisation. -/
def initializeSettings (ctx : Context) (monitor : Monitor) (load : Load Setting.Query) : Ran :=
  match ctx.runSettings monitor load with
  | (ctx, .waiting load) => (ctx, .waiting (.opening (.settings load)))
  | (ctx, .finished result) => ctx.initialized result

/-- Makes sure that some database is active, and goes on to the settings. -/
def initializeActive (ctx : Context) (monitor : Monitor) : Ran :=
  let ds := ctx.source
  { ctx with source := { ds with active := some ds.activeName } }.initializeSettings monitor
    { request := .all }

/-- Takes the answer to the query for the current database. Cancellation comes first. -/
def initializeCurrent (ctx : Context) (monitor : Monitor) (pending : Pending) : Ran :=
  if ctx.isCancelled monitor then (ctx, .finished (.error (.ofCache .cancelled)))
  else match ctx.server.answer? pending fun document => .ok document.currentDatabase with
    | none => (ctx, .waiting (.opening (.current pending)))
    | some (.error error) => (ctx, .finished (.error (.operation (.connection error))))
    | some (.ok current) =>
      let line := {
        level := .debug
        message := "Resolved current database"
        fields := [("database", Text.showOption Text.quote current)] }
      let ds := ctx.source
      ({ ctx with source := { ds with active := current } }.say [line]).initializeActive monitor

/-- Asks for the current database, unless the active one is known. -/
def initializeName (ctx : Context) (monitor : Monitor) : Ran :=
  if ctx.source.active.isSome then ctx.initializeActive monitor
  else if ctx.isCancelled monitor then (ctx, .finished (.error (.ofCache .cancelled)))
  else
    let (server, pending) := ctx.server.ask
    { ctx with server }.initializeCurrent monitor pending

def initializeDatabases (ctx : Context) (monitor : Monitor) (load : Load Database.Query) : Ran :=
  match ctx.runDatabases monitor load with
  | (ctx, .waiting load) => (ctx, .waiting (.opening (.databases load)))
  | (ctx, .finished (.ok _)) => ctx.initializeName monitor
  | (ctx, .finished (.error error)) => (ctx, .finished (.error (.ofCache error)))

/-- Runs the initialisation. Without the list of databases, the active one is taken on trust. -/
def runInitialize (ctx : Context) (monitor : Monitor) : Initialization → Ran
  | .start =>
    let line := {
      level := .debug
      message := "begin task"
      fields := [("task", "Initialize PostgreSQL data source")] }
    let ctx := ctx.say [line]
    if ctx.source.connection.readDatabaseList then
      ctx.initializeDatabases monitor { request := .all }
    else
      let assumed := Database.ofRecord (Database.placeholder ctx.source.activeName)
      (ctx.editDatabases (.set [assumed])).2.initializeActive monitor
  | .databases load => ctx.initializeDatabases monitor load
  | .current pending => ctx.initializeCurrent monitor pending
  | .settings load => ctx.initializeSettings monitor load

end Opening

/-- Refreshes the databases, and notes if the active one is gone. -/
def runRefresh (ctx : Context) (monitor : Monitor) (begun : Bool) (load : Load Database.Query) :
    Ran :=
  let ctx := if begun then ctx else (ctx.editSettings .clear).2
  match follow (ctx.runDatabases monitor load) (.refresh true) .databases with
  | (ctx, .finished (.ok answer)) =>
    let active := ctx.source.activeName
    let lines := if (ctx.source.databaseNamed? active).isSome then []
      else [Database.line .warn "Active database is gone after refresh" active]
    (ctx.say lines, .finished (.ok answer))
  | ran => ran

def runQuery (ctx : Context) (query : DirectQuery) (pending : Option Pending) : Ran :=
  let (ctx, pending) := match pending with
    | some pending => (ctx, pending)
    | none =>
      let (server, pending) := ctx.server.ask
      ({ ctx with server }, pending)
  match ctx.server.answer? pending query.answer with
  | none => (ctx, .waiting (.query query (some pending)))
  | some result => (ctx, .finished (result.mapError .query))

/-- Runs a task until it finishes or has to wait. -/
def run (ctx : Context) (monitor : Monitor) : Routine → Ran
  | .opening stage => ctx.runInitialize monitor stage
  | .refresh begun load => ctx.runRefresh monitor begun load
  | .databases load => follow (ctx.runDatabases monitor load) .databases .databases
  | .settings load => follow (ctx.runSettings monitor load) .settings .settings
  | .schemas db load => follow (ctx.runSchemas monitor db load) (.schemas db) (.schemas db)
  | .tables db schema load =>
    follow (ctx.runTables monitor db schema load) (.tables db schema) (.tables db schema)
  | .preload walk => followWalk (ctx.walkDatabases monitor walk) .preload
  | .preloadDatabase db walk => followWalk (ctx.walkSchemas monitor db walk) (.preloadDatabase db)
  | .preloadSchema _ _ 0 _ => (ctx, .finished (.ok .done))
  | .preloadSchema db schema (depth + 1) load =>
    follow (ctx.runTables monitor db schema load) (.preloadSchema db schema (depth + 1))
      fun _ => .done
  | .query query pending => ctx.runQuery query pending

def abandon (ctx : Context) : Routine → Context
  | .opening (.databases load) | .refresh _ load | .databases load => ctx.abandonDatabases load
  | .opening (.settings load) | .settings load => ctx.abandonSettings load
  | .opening _ | .query _ _ => ctx
  | .schemas db load => ctx.abandonSchemas db load
  | .tables db schema load | .preloadSchema db schema _ load => ctx.abandonTables db schema load
  | .preload walk => ctx.abandonDatabaseWalk walk
  | .preloadDatabase db walk => abandonSchemaWalk db ctx walk

end Context

end CatalogBrowser
