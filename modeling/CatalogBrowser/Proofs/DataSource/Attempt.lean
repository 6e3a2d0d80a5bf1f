import CatalogBrowser.Proofs.Catalog.Rows
import CatalogBrowser.Proofs.DataSource.Frame
import CatalogBrowser.Proofs.DataSource.Supply

/-!
# Attempts to initialise a data source

An initialisation that nobody interferes with goes through its stages, and at each of them it may
fail or be given up. Whatever it leaves behind is part of what it would have made in the end: a
cache holds all that the server lists or nothing, and the active database is the right one unless it
is still to be found out. So another attempt begins at the start, finds some of its work done, and
ends in the same state as a first one.

## Main definitions

* `DataSource.Paused` - what there is between two attempts.
* `DataSource.Opened` - what there is after an attempt that succeeded.
* `Initialization.Stands` - what there is at each stage of an attempt.
* `Initialization.ComesTo` - what comes of a stage when it runs.

## Main statements

* `Context.comesTo_runInitialize` - a stage proceeds, succeeds or fails.
* `Initialization.Stands.abandon` - a stage that is given up.
-/

namespace CatalogBrowser

open Cache (Load firstOfEach)

def Setting.supply : Supply Setting.source Setting.remote where
  config := { name := "settings", keyPolicy := .lowercase }
  records := Document.listSettings
  queries := Setting.queries
  keepsKeys _ _ _ := rfl

def Database.cacheConfig : Cache.Config where
  name := "databases"

def Database.supply {connection : Connection} (hlist : connection.readDatabaseList = true)
    (active : String) : Supply Database.source (Database.remote connection active) where
  config := Database.cacheConfig
  records document := document.listDatabases connection.databaseFilter
  queries := Database.queries hlist active
  keepsKeys _ _ _ := rfl

namespace Document

/-- The database that is active over a connection once it is initialised. -/
def activeOver (document : Document) (connection : Connection) : String :=
  (if connection.readDatabaseList then
    connection.configuredDatabase.or document.currentDatabase
  else connection.configuredDatabase).getD defaultDatabase

/-- The databases that a connection reads, or the one that it takes on trust. -/
def databaseStock (document : Document) (connection : Connection) : List Database :=
  (document.visibleRows connection).map .ofRecord

def settingStock (document : Document) : List Setting :=
  Setting.supply.stock document

end Document

theorem Database.construct_eq : source.construct = some ∘ ofRecord := rfl

theorem Database.stock_supply {connection : Connection}
    (hlist : connection.readDatabaseList = true) (active : String) (document : Document) :
    (Database.supply hlist active).stock document = document.databaseStock connection := by
  rw [Supply.stock, Document.databaseStock, Document.visibleRows, if_pos hlist,
    Document.databaseRows_eq, Database.construct_eq, List.filterMap_eq_map, Cache.firstOfEach_map]
  rfl

namespace DataSource

variable {connection : Connection} {document : Document} {ds : DataSource}

/-- The active database is the right one, or none is known beyond what is configured. -/
structure Named (connection : Connection) (document : Document) (ds : DataSource) : Prop where
  connected : ds.connection = connection
  active : ds.active = connection.configuredDatabase ∨
    ds.active = some (document.activeOver connection)

/-- All databases are cached, as the server lists them. -/
def ListsDatabases (connection : Connection) (document : Document) (ds : DataSource) : Prop :=
  ds.databases.InFull Database.source Database.cacheConfig (document.databaseStock connection)

/-- All settings are cached, as the server lists them, or none. -/
def KeepsSettings (document : Document) (ds : DataSource) : Prop :=
  ds.settings.AllOrNothing Setting.source Setting.supply.config document.settingStock

/-- A data source between two attempts to initialise it: each cache is full or empty, and the active
database is the right one unless it is not known yet. -/
structure Paused (connection : Connection) (document : Document) (ds : DataSource) : Prop where
  named : ds.Named connection document
  databases : ds.databases.AllOrNothing Database.source Database.cacheConfig
    (document.databaseStock connection)
  settings : ds.KeepsSettings document

/-- A data source that is initialised, but for the settings. -/
structure Opened (connection : Connection) (document : Document) (ds : DataSource) : Prop where
  connected : ds.connection = connection
  active : ds.active = some (document.activeOver connection)
  databases : ds.ListsDatabases connection document
  settings : ds.KeepsSettings document

theorem Opened.paused (h : ds.Opened connection document) : ds.Paused connection document :=
  ⟨⟨h.connected, .inr h.active⟩, h.databases.allOrNothing, h.settings⟩

theorem paused_ofConnection (connection : Connection) (document : Document) :
    (ofConnection connection).Paused connection document :=
  ⟨⟨rfl, .inl rfl⟩, ⟨rfl, .inl ⟨rfl, rfl⟩⟩, ⟨rfl, .inl ⟨rfl, rfl⟩⟩⟩

/-- An active database that is known is the right one. -/
theorem Named.activeName_of_isSome (h : ds.Named connection document) (hactive : ds.active.isSome)
    (hlist : connection.readDatabaseList = true) :
    ds.activeName = document.activeOver connection := by
  rcases h.active with hconfigured | hfound
  · obtain ⟨name, hname⟩ := Option.isSome_iff_exists.1 hactive
    rw [activeName, Document.activeOver, if_pos hlist, ← hconfigured, hname]
    rfl
  · rw [activeName, hfound, Option.getD_some]

/-- Without a list of databases, the name is known from the start. -/
theorem Named.activeName_of_not_list (h : ds.Named connection document)
    (hlist : ¬ connection.readDatabaseList = true) :
    ds.activeName = document.activeOver connection := by
  rcases h.active with hconfigured | hfound
  · rw [activeName, Document.activeOver, if_neg hlist, hconfigured]
  · rw [activeName, hfound, Option.getD_some]

/-- Where no database is active, it is for the server to tell which one is. -/
theorem Named.activeOver_of_none (h : ds.Named connection document) (hactive : ds.active = none)
    (hlist : connection.readDatabaseList = true) :
    document.activeOver connection = document.currentDatabase.getD defaultDatabase := by
  have hconfigured : connection.configuredDatabase = none := by
    rcases h.active with hconfigured | hfound
    · rw [← hconfigured, hactive]
    · rw [hactive] at hfound
      cases hfound
  rw [Document.activeOver, if_pos hlist, hconfigured, Option.none_or]

end DataSource

namespace Context

variable {document : Document} {ctx ctx' : Context} {monitor : Monitor} {now : Nat} {foul : Prop}

/-- At some time, the server has a document, and if it is offline or a monitor is cancelled, then
something is foul. -/
structure At (document : Document) (now : Nat) (monitor : Monitor) (foul : Prop) (ctx : Context) :
    Prop where
  serves : ctx.server.document = document
  clock : ctx.server.now = now
  trouble : ctx.isCancelled monitor = true ∨ ctx.server.offline.isSome → foul

/-- Asking the server does not matter. -/
theorem At.of_asked (h : ctx.At document now monitor foul) (hserver : ctx.server.Asked ctx'.server)
    (hcancelled : ctx'.isCancelled monitor = ctx.isCancelled monitor) :
    ctx'.At document now monitor foul := by
  rw [Server.Asked] at hserver
  refine ⟨?_, ?_, ?_⟩
  · rw [hserver]
    exact h.serves
  · rw [hserver]
    exact h.clock
  · rw [hserver, hcancelled]
    exact h.trouble

theorem At.frame (h : ctx.At document now monitor foul) (hframe : ctx.Frame ctx') :
    ctx'.At document now monitor foul :=
  h.of_asked hframe.server (hframe.isCancelled monitor)

theorem At.withSource (h : ctx.At document now monitor foul) (source : DataSource) :
    { ctx with source }.At document now monitor foul :=
  ⟨h.serves, h.clock, h.trouble⟩

theorem At.say (h : ctx.At document now monitor foul) (lines : List LogLine) :
    (ctx.say lines).At document now monitor foul :=
  ⟨h.serves, h.clock, h.trouble⟩

theorem At.runSettings (h : ctx.At document now monitor foul) (load : Load Setting.Query) :
    (ctx.runSettings monitor load).1.At document now monitor foul := by
  have hserver : ctx.server.Asked (ctx.runSettings monitor load).1.server :=
    Load.asked_run Setting.remote_asks Setting.source ctx.server ctx.source.settings load _
  exact h.of_asked hserver rfl

end Context

namespace Initialization

variable {connection : Connection} {document : Document} {ds : DataSource}
  {stage stage' next : Initialization} {now : Nat} {monitor : Monitor} {foul : Prop}

/-- When the query that a stage waits for is due. -/
def due : Initialization → Nat
  | .databases { query := some (.listed pending _), .. } => pending.due
  | .current pending => pending.due
  | .settings { query := some (.all pending), .. } => pending.due
  | _ => 0

/-- How many queries come before a stage and up to it. -/
def rank : Initialization → Nat
  | .start => 0
  | .databases load => if load.query.isSome then 1 else 0
  | .current _ => 2
  | .settings load => if load.query.isSome then 3 else 2

theorem rank_databases_le (load : Load Database.Query) : (databases load).rank ≤ 1 := by
  rw [rank]
  split
  · exact Nat.le_refl 1
  · exact Nat.zero_le 1

/-- What there is at each stage of an attempt. -/
inductive Stands (connection : Connection) (document : Document) (ds : DataSource) :
    Initialization → Prop
  | start : ds.Paused connection document → Stands connection document ds .start
  | databases {load : Load Database.Query} (hlist : connection.readDatabaseList = true) :
      ds.Named connection document →
      (Database.supply hlist ds.activeName).Fills document ds.databases load →
      ds.KeepsSettings document → Stands connection document ds (.databases load)
  | current {pending : Pending} : connection.readDatabaseList = true →
      ds.Named connection document → ds.active = none →
      ds.ListsDatabases connection document → ds.KeepsSettings document →
      Stands connection document ds (.current pending)
  | settings {load : Load Setting.Query} : ds.connection = connection →
      ds.active = some (document.activeOver connection) →
      ds.ListsDatabases connection document → Setting.supply.Fills document ds.settings load →
      Stands connection document ds (.settings load)

/-- A stage leads to a later one, whose query was asked now, or it still waits for its own. -/
def Proceeds (document : Document) (now : Nat) (stage stage' : Initialization) : Prop :=
  stage.rank < stage'.rank ∧ stage'.due = now + document.wait ∨ stage' = stage ∧ now < stage.due

/-- What comes of a stage when it runs. It can only fail if the attempt is disturbed, and it can
only do without the settings then. -/
inductive ComesTo (connection : Connection) (document : Document) (now : Nat) (monitor : Monitor)
    (foul : Prop) (stage : Initialization) : Context.Ran → Prop
  | waits {ctx : Context} {stage' : Initialization} : ctx.At document now monitor foul →
      stage.Proceeds document now stage' → stage'.Stands connection document ctx.source →
      ComesTo connection document now monitor foul stage (ctx, .waiting (.opening stage'))
  | succeeds {ctx : Context} : ctx.At document now monitor foul →
      ctx.source.Opened connection document →
      foul ∨ ctx.source.settings.Stocked Setting.source document.settingStock →
      ComesTo connection document now monitor foul stage (ctx, .finished (.ok .done))
  | fails {ctx : Context} {error : Failure} : ctx.At document now monitor foul → foul →
      ctx.source.Paused connection document →
      ComesTo connection document now monitor foul stage (ctx, .finished (.error error))

/-- A load of the settings that waits has asked for them now, or still waits. -/
theorem proceeds_settings {server : Server} {load : Load Setting.Query} {lead : Cache.FetchLead}
    {pending : Pending} (h : load = .unrun ∧ pending = server.ask.2 ∨
      load = Setting.supply.leading lead pending ∧ server.now < pending.due) :
    (settings load).Proceeds server.document server.now
      (.settings (Setting.supply.leading lead pending)) := by
  rcases h with ⟨rfl, rfl⟩ | ⟨rfl, hwaits⟩
  · exact .inl ⟨Nat.lt_succ_self 2, rfl⟩
  · exact .inr ⟨rfl, hwaits⟩

theorem proceeds_databases {server : Server} {load : Load Database.Query}
    (hlist : connection.readDatabaseList = true) {active : String} {lead : Cache.FetchLead}
    {pending : Pending} (h : load = .unrun ∧ pending = server.ask.2 ∨
      load = (Database.supply hlist active).leading lead pending ∧ server.now < pending.due) :
    (databases load).Proceeds server.document server.now
      (.databases ((Database.supply hlist active).leading lead pending)) := by
  rcases h with ⟨rfl, rfl⟩ | ⟨rfl, hwaits⟩
  · exact .inl ⟨Nat.lt_succ_self 0, rfl⟩
  · exact .inr ⟨rfl, hwaits⟩

/-- A stage that goes on to another one at once comes to what that comes to. -/
theorem ComesTo.of_next {ran : Context.Ran}
    (h : next.ComesTo connection document now monitor foul ran) (hrank : stage.rank ≤ next.rank)
    (hdue : next.due = 0 ∨ stage.rank < next.rank ∧ next.due = now + document.wait) :
    stage.ComesTo connection document now monitor foul ran := by
  cases h with
  | waits hat hproceeds hstands =>
    refine .waits hat (.inl ?_) hstands
    rcases hproceeds with ⟨hlater, hasked⟩ | ⟨rfl, hwaits⟩
    · exact ⟨Nat.lt_of_le_of_lt hrank hlater, hasked⟩
    · exact hdue.resolve_left fun hnever => Nat.not_lt_zero now (hnever ▸ hwaits)
  | succeeds hat hopened hsettings => exact .succeeds hat hopened hsettings
  | fails hat hfoul hpaused => exact .fails hat hfoul hpaused

/-- An attempt that is given up leaves its caches full or empty. -/
theorem Stands.abandon {ctx : Context} (h : stage.Stands connection document ctx.source) :
    (ctx.abandon (.opening stage)).source.Paused connection document := by
  cases h with
  | start hpaused => exact hpaused
  | databases hlist hnamed hfills hsettings =>
    have hdatabases := hfills.abandon
    rw [Database.stock_supply] at hdatabases
    exact ⟨⟨hnamed.connected, hnamed.active⟩, hdatabases, hsettings⟩
  | current _ hnamed _ hdatabases hsettings => exact ⟨hnamed, hdatabases.allOrNothing, hsettings⟩
  | settings hconnection hactive hdatabases hfills =>
    exact ⟨⟨hconnection, .inr hactive⟩, hdatabases.allOrNothing, hfills.abandon⟩

end Initialization

namespace Context

variable {connection : Connection} {document : Document} {ctx ctx' : Context} {monitor : Monitor}
  {now : Nat} {foul : Prop}

theorem filled_runSettings (monitor : Monitor) {load : Load Setting.Query}
    (h : Setting.supply.Fills ctx.server.document ctx.source.settings load) :
    Setting.supply.Filled ctx.server (ctx.isCancelled monitor) load
      (ctx.runSettings monitor load).1.source.settings (ctx.runSettings monitor load).2 :=
  h.run (ctx.isCancelled monitor)

theorem filled_runDatabases (monitor : Monitor) {load : Load Database.Query}
    (hconnection : ctx.source.connection = connection)
    (hlist : connection.readDatabaseList = true)
    (h : (Database.supply hlist ctx.source.activeName).Fills ctx.server.document
      ctx.source.databases load) :
    (Database.supply hlist ctx.source.activeName).Filled ctx.server (ctx.isCancelled monitor) load
      (ctx.runDatabases monitor load).1.source.databases (ctx.runDatabases monitor load).2 := by
  subst hconnection
  exact h.run (ctx.isCancelled monitor)

/-- The last stage succeeds with the settings, or without them if something is foul. -/
theorem comesTo_initializeSettings (h : ctx.At document now monitor foul)
    {load : Load Setting.Query}
    (hstands : (Initialization.settings load).Stands connection document ctx.source) :
    (Initialization.settings load).ComesTo connection document now monitor foul
      (ctx.initializeSettings monitor load) := by
  have hat := h.runSettings load
  obtain ⟨rfl, rfl, htrouble⟩ := h
  cases hstands with
  | settings hconnection hactive hdatabases hfills =>
    have hfilled := ctx.filled_runSettings monitor hfills
    have hsource : (ctx.runSettings monitor load).1.source =
        { ctx.source with settings := (ctx.runSettings monitor load).1.source.settings } := rfl
    rw [initializeSettings]
    generalize ctx.runSettings monitor load = ran at hfilled hsource hat
    obtain ⟨ctx', out⟩ := ran
    dsimp only at hsource hfilled hat
    obtain ⟨hconnection', hactive', hdatabases'⟩ : ctx'.source.connection = connection ∧
        ctx'.source.active = some (ctx.server.document.activeOver connection) ∧
        ctx'.source.ListsDatabases connection ctx.server.document := by
      rw [hsource]
      exact ⟨hconnection, hactive, hdatabases⟩
    cases hfilled with
    | waits hfills' hasked =>
      exact .waits hat (Initialization.proceeds_settings hasked)
        (.settings hconnection' hactive' hdatabases' hfills')
    | ends hfull =>
      exact .succeeds (hat.say _) ⟨hconnection', hactive', hdatabases', hfull.allOrNothing⟩
        (.inr hfull.stocked)
    | fails hconfig hvacant hfoul =>
      have hopened : ctx'.source.Opened connection ctx.server.document :=
        ⟨hconnection', hactive', hdatabases', hconfig, .inl hvacant⟩
      dsimp only [initialized]
      -- only a cancellation fails the attempt, any other error is passed over
      split
      · exact .fails hat (htrouble hfoul) hopened.paused
      · exact .succeeds (hat.say _) hopened (.inl (htrouble hfoul))

/-- Once the name of the active database is known, only the settings are to be read. -/
theorem comesTo_initializeActive (h : ctx.At document now monitor foul)
    (hconnection : ctx.source.connection = connection)
    (hname : ctx.source.activeName = document.activeOver connection)
    (hdatabases : ctx.source.ListsDatabases connection document)
    (hsettings : ctx.source.KeepsSettings document) :
    (Initialization.settings .unrun).ComesTo connection document now monitor foul
      (ctx.initializeActive monitor) := by
  refine comesTo_initializeSettings
    (h.withSource { ctx.source with active := some ctx.source.activeName }) ?_
  exact .settings hconnection (congrArg some hname) hdatabases (.begins hsettings)

theorem comesTo_initializeCurrent (h : ctx.At document now monitor foul) {pending : Pending}
    (hstands : (Initialization.current pending).Stands connection document ctx.source) :
    (Initialization.current pending).ComesTo connection document now monitor foul
      (ctx.initializeCurrent monitor pending) := by
  cases hstands with
  | current hlist hnamed hactive hdatabases hsettings =>
    have hpaused : ctx.source.Paused connection document :=
      ⟨hnamed, hdatabases.allOrNothing, hsettings⟩
    rw [initializeCurrent]
    split
    next hcancelled => exact .fails h (h.trouble (.inl hcancelled)) hpaused
    split
    next hnone =>
      have hwaits := Server.lt_due_of_answer? hnone
      rw [h.clock] at hwaits
      exact .waits h (.inr ⟨rfl, hwaits⟩) (.current hlist hnamed hactive hdatabases hsettings)
    next error hanswer =>
      rcases Server.of_answer? hanswer with herror | ⟨hoffline, -⟩
      · cases herror
      · exact .fails h (h.trouble (.inr hoffline)) hpaused
    next current hanswer =>
      have hcurrent : current = document.currentDatabase := by
        rcases Server.of_answer? hanswer with hok | ⟨-, error, herror⟩
        · rw [← h.serves]
          exact Except.ok.inj hok
        · cases herror
      have hname : document.activeOver connection = current.getD defaultDatabase := by
        rw [hcurrent, hnamed.activeOver_of_none hactive hlist]
      have hresolved (lines : List LogLine) := comesTo_initializeActive
        ((h.withSource { ctx.source with active := current }).say lines) hnamed.connected
        hname.symm hdatabases hsettings
      exact (hresolved _).of_next (Nat.le_refl 2) (.inl rfl)

/-- Once the databases are known, the name of the active one is found out if need be. -/
theorem comesTo_initializeName (h : ctx.At document now monitor foul) {stage : Initialization}
    (hrank : stage.rank ≤ 1) (hlist : connection.readDatabaseList = true)
    (hnamed : ctx.source.Named connection document)
    (hdatabases : ctx.source.ListsDatabases connection document)
    (hsettings : ctx.source.KeepsSettings document) :
    stage.ComesTo connection document now monitor foul (ctx.initializeName monitor) := by
  rw [initializeName]
  split
  next hactive =>
    have hsettled := comesTo_initializeActive h hnamed.connected
      (hnamed.activeName_of_isSome hactive hlist) hdatabases hsettings
    exact hsettled.of_next (Nat.le_succ_of_le hrank) (.inl rfl)
  next hactive =>
    have hnone : ctx.source.active = none := Option.not_isSome_iff_eq_none.1 hactive
    split
    next hcancelled =>
      exact .fails h (h.trouble (.inl hcancelled)) ⟨hnamed, hdatabases.allOrNothing, hsettings⟩
    next =>
      have hasked : { ctx with server := ctx.server.ask.1 }.At document now monitor foul :=
        ⟨h.serves, h.clock, h.trouble⟩
      have hdue : ctx.server.ask.2.due = now + document.wait := by
        rw [← h.clock, ← h.serves]
        rfl
      have hstands : (Initialization.current ctx.server.ask.2).Stands connection document
          ctx.source := .current hlist hnamed hnone hdatabases hsettings
      exact (comesTo_initializeCurrent hasked hstands).of_next (Nat.le_succ_of_le hrank)
        (.inr ⟨Nat.lt_succ_of_le hrank, hdue⟩)

theorem comesTo_initializeDatabases (h : ctx.At document now monitor foul)
    {load : Load Database.Query}
    (hstands : (Initialization.databases load).Stands connection document ctx.source) :
    (Initialization.databases load).ComesTo connection document now monitor foul
      (ctx.initializeDatabases monitor load) := by
  cases hstands with
  | databases hlist hnamed hfills hsettings =>
    have hframe := ctx.frame_runDatabases monitor load
    have hfilled := ctx.filled_runDatabases monitor hnamed.connected hlist (h.serves ▸ hfills)
    rw [initializeDatabases]
    generalize ctx.runDatabases monitor load = ran at hframe hfilled
    obtain ⟨ctx', out⟩ := ran
    dsimp only at hframe hfilled
    have hat := h.frame hframe
    have hnamed' : ctx'.source.Named connection document :=
      ⟨hframe.connection.trans hnamed.connected, hframe.active ▸ hnamed.active⟩
    have hname : ctx'.source.activeName = ctx.source.activeName := by
      rw [DataSource.activeName, hframe.active]
      rfl
    have hsettings' : ctx'.source.KeepsSettings document := by
      rw [DataSource.KeepsSettings, hframe.settings]
      exact hsettings
    cases hfilled with
    | waits hfills' hasked =>
      have hproceeds := Initialization.proceeds_databases hlist hasked
      rw [h.serves, h.clock] at hproceeds
      rw [h.serves, ← hname] at hfills'
      exact .waits hat hproceeds (.databases hlist hnamed' hfills' hsettings')
    | ends hfull =>
      rw [h.serves, Database.stock_supply] at hfull
      exact comesTo_initializeName hat (Initialization.rank_databases_le load) hlist hnamed' hfull
        hsettings'
    | fails hconfig hvacant hfoul =>
      exact .fails hat (h.trouble hfoul) ⟨hnamed', ⟨hconfig, .inl hvacant⟩, hsettings'⟩

/-- Without the list of databases, the one that is configured is all that there is. -/
theorem comesTo_initializeAssumed (h : ctx.At document now monitor foul)
    (hlist : ¬ connection.readDatabaseList = true)
    (hpaused : ctx.source.Paused connection document) :
    let assumed := Database.ofRecord (Database.placeholder ctx.source.activeName)
    Initialization.start.ComesTo connection document now monitor foul
      ((ctx.editDatabases (.set [assumed])).2.initializeActive monitor) := by
  intro assumed
  have hname := hpaused.named.activeName_of_not_list hlist
  have hconfig := hpaused.databases.config
  have hstock : document.databaseStock connection =
      firstOfEach (ctx.source.databases.objectKey Database.source) [assumed] := by
    simp only [Document.databaseStock, Document.visibleRows, if_neg hlist, assumed, hname,
      Document.activeOver]
    rfl
  have hstocked := Cache.stocked_set hpaused.databases.indexed [assumed]
  rw [← hstock] at hstocked
  let given := (ctx.editDatabases (.set [assumed])).2
  have hat : given.At document now monitor foul :=
    (h.withSource { ctx.source with databases := given.source.databases }).say _
  have hsettled := comesTo_initializeActive hat hpaused.named.connected hname ⟨hconfig, hstocked⟩
    hpaused.settings
  exact hsettled.of_next (Nat.zero_le 2) (.inl rfl)

/-- A stage proceeds, succeeds or fails. -/
theorem comesTo_runInitialize (h : ctx.At document now monitor foul) {stage : Initialization}
    (hstands : stage.Stands connection document ctx.source) :
    stage.ComesTo connection document now monitor foul (ctx.runInitialize monitor stage) := by
  cases stage with
  | start =>
    cases hstands with
    | start hpaused =>
      have hconnected := hpaused.named.connected
      dsimp only [runInitialize]
      generalize hbegun : ctx.say _ = begun
      have hat : begun.At document now monitor foul := hbegun ▸ h.say _
      have hsource : begun.source = ctx.source := hbegun ▸ rfl
      rw [← hsource] at hpaused hconnected
      split
      next hlist =>
        rw [hconnected] at hlist
        have hfills : (Database.supply hlist begun.source.activeName).Fills document
            begun.source.databases .unrun :=
          .begins (by rw [Database.stock_supply]; exact hpaused.databases)
        have hlisted := comesTo_initializeDatabases hat
          (.databases hlist hpaused.named hfills hpaused.settings)
        exact hlisted.of_next (Nat.zero_le 0) (.inl rfl)
      next hlist =>
        rw [hconnected] at hlist
        exact comesTo_initializeAssumed hat hlist hpaused
  | databases load => exact comesTo_initializeDatabases h hstands
  | current pending => exact comesTo_initializeCurrent h hstands
  | settings load => exact comesTo_initializeSettings h hstands

end Context

end CatalogBrowser
