import CatalogBrowser.Proofs.Cache.Renewal
import CatalogBrowser.Proofs.DataSource.Integrity
import CatalogBrowser.Proofs.DataSource.Lookup
import CatalogBrowser.Proofs.DataSource.Retry

/-!
# One call at a time

A data source is called, and not again before that call is over. In the meantime its task may run or
be dropped, monitors may be cancelled, and the server may go away and come back, but its document
stays. A load of a whole collection then has the listing to itself. It ends with all that the server
lists, or with what was there before.

## Main definitions

* `Cache.Load.Lone` - a load of a whole collection that shares its cache with nobody.
* `Cache.Brings` - what such a load makes of the cache.
* `Context.Settles` - what a call keeps while it is pending, and what it leaves behind.
* `Session.Completes` - a call, and all that happens until it is over.

## Main statements

* `Cache.Load.Lone.run` - a lone load waits, or brings what it should.
* `Session.Completes.settled` - a call leaves behind what it settles.
-/

namespace CatalogBrowser

open Cache (FetchLead Load Request firstOfEach)

namespace Cache

variable {κ ρ α : Type} {source : Source ρ α} {remote : Remote Server κ ρ}
  {read : Document → Except ConnectionError (List ρ)} {queries : Context.Queries remote read}
  {request : Request} {b c c' : Cache α} {load : Load κ} {lead : FetchLead} {server : Server}
  {answer : Except ConnectionError (List ρ)} {result : Result}

/-- The cache holds the first record of each key, merged into what was cached under it before. -/
structure Renewed (source : Source ρ α) (records : List ρ) (c c' : Cache α) : Prop where
  config : c'.config = c.config
  stocked : c'.Stocked source
    ((firstOfEach (c.objectKey source) (records.filterMap source.construct)).map
      (c.renewal source))

/-- What a load of a whole collection makes of a cache, where the remote side lists some records. -/
inductive Brings (source : Source ρ α) (listed : Except ConnectionError (List ρ))
    (request : Request) (c c' : Cache α) : Result → Prop
  | renews {records : List ρ} {reply : Reply} : listed = .ok records →
      (request = .all → c.snapshot.complete = false) → c.Renewed source records c' →
      Brings source listed request c c' (.ok reply)
  | recalls {reply : Reply} : request = .all → c.snapshot.complete = true → c.SameContents c' →
      Brings source listed request c c' (.ok reply)
  | fails {error : CacheError} : c.SameContents c' →
      Brings source listed request c c' (.error error)

/-- Only the contents of a cache matter. -/
theorem Brings.congr {listed : Except ConnectionError (List ρ)}
    (h : Brings source listed request b c' result) (hsame : c.SameContents b) :
    Brings source listed request c c' result := by
  cases h with
  | renews hlisted hmissing hrenewed =>
    refine .renews hlisted (hsame.snapshot ▸ hmissing) ⟨hrenewed.config.trans hsame.config, ?_⟩
    rw [← hsame.objectKey, ← hsame.renewal]
    exact hrenewed.stocked
  | recalls hall hcomplete hcontents =>
    exact .recalls hall (hsame.snapshot ▸ hcomplete) (hsame.trans hcontents)
  | fails hcontents => exact .fails (hsame.trans hcontents)

namespace Load

/-- A load of a whole collection on a cache that nobody else uses: it has not run yet, or it leads a
listing of the present generation. -/
inductive Lone (queries : Context.Queries remote read) (request : Request) (c : Cache α) :
    Load κ → Prop
  | unrun : c.fetch = none → Lone queries request c { request }
  | leads {lead : FetchLead} {pending : Pending} :
      (request = .all → c.snapshot.complete = false) → c.generation = lead.generation →
      Lone queries request c
        { request, stage := .listing lead, query := some (queries.query pending) }

section Lone

variable (hmerge : KeepsKeys (c.objectKey source) source.merge)
  (hpersisted : ∀ object, source.isPersisted object = true)
include hmerge hpersisted

/-- The answer to a listing of the present generation is all that the cache holds. -/
theorem brings_acceptListing (hindexed : c.Indexed source) {request : Request}
    (hmissing : request = .all → c.snapshot.complete = false)
    (hcurrent : c.generation = lead.generation) {listed : Except ConnectionError (List ρ)}
    (hanswer : answer = listed ∨ ∃ error, answer = .error error)
    (hresult : (c.acceptListing source request lead answer).progress = .finished result) :
    Brings source listed request c (c.acceptListing source request lead answer).cache result := by
  cases answer with
  | error error =>
    obtain rfl := Progress.finished.inj hresult
    exact .fails (sameContents_failFetch c lead _)
  | ok records =>
    have hlisted : listed = .ok records := by
      rcases hanswer with hsame | ⟨error, hfailed⟩
      · exact hsame.symm
      · cases hfailed
    obtain ⟨hconfig, hstocked⟩ :=
      hindexed.stocked_renewal hmerge hpersisted hcurrent request records
    cases result with
    | ok reply => exact .renews hlisted hmissing ⟨hconfig, hstocked⟩
    | error error =>
      simp only [acceptListing, Turn.after, commitFetch, if_pos hcurrent] at hresult
      cases hresult

/-- A load that leads a listing waits for the answer or takes it. -/
theorem meets_of_leading (load : Load κ) (hindexed : c.Indexed source) (hsame : b.SameContents c)
    {request : Request} (hmissing : request = .all → c.snapshot.complete = false)
    (hcurrent : c.generation = lead.generation) {server server' : Server}
    (hasked : server.Asked server') (pending : Pending)
    (hprogress : (b.poll load.request load.stage false).progress = .waiting (.listing lead))
    (hcache : (b.poll load.request load.stage false).cache = c)
    (hask : ask remote server { load with stage := .listing lead } =
      (server', { request, stage := .listing lead, query := some (queries.query pending) })) :
    let turn := load.run source remote server b false
    turn.poll.Meets (Brings source (read server.document) request b turn.cache) fun load' =>
      b.SameContents turn.cache ∧ Lone queries request turn.cache load' := by
  intro turn
  obtain ⟨-, hturn⟩ := run_of_leading source load hprogress hask
  rw [hcache] at hturn
  rcases hturn with ⟨-, hcache', hpoll⟩ | ⟨answer, result, hanswers, hresult, hcache', hpoll⟩
  · rw [hpoll, hcache']
    exact ⟨hsame, .leads hmissing hcurrent⟩
  · rw [hpoll, hcache']
    rw [queries.listing?, hasked.answer?] at hanswers
    have hanswer : answer = read server.document ∨ ∃ error, answer = .error error :=
      (Server.of_answer? hanswers).imp_right And.right
    have hbrings := brings_acceptListing hmerge hpersisted hindexed hmissing hcurrent hanswer
      hresult
    exact hbrings.congr hsame

end Lone

/-- A load that shares its cache with nobody goes on waiting, or brings what it should. -/
theorem Lone.run (h : load.Lone queries request c) (hbulk : request.Bulk)
    (hindexed : c.Indexed source) (hmerge : KeepsKeys (c.objectKey source) source.merge)
    (hpersisted : ∀ object, source.isPersisted object = true) (server : Server)
    (cancelled : Bool) :
    let turn := load.run source remote server c cancelled
    turn.poll.Meets (Brings source (read server.document) request c turn.cache) fun load' =>
      c.SameContents turn.cache ∧ load'.Lone queries request turn.cache := by
  intro turn
  cases h with
  | unrun hfetch =>
    by_cases hrecalls : request = .all ∧ c.snapshot.complete = true
    · obtain ⟨rfl, hcomplete⟩ := hrecalls
      obtain ⟨-, hcache, hpoll⟩ : turn.world = server ∧ turn.cache = c ∧ turn.poll = _ :=
        run_all_of_complete source remote server hcomplete cancelled
      rw [hpoll, hcache]
      exact .recalls rfl hcomplete (.refl c)
    · have hmissing : request = .all → c.snapshot.complete = false := fun hall =>
        Bool.eq_false_iff.2 fun hcomplete => hrecalls ⟨hall, hcomplete⟩
      obtain ⟨events, henter⟩ := enter_of_free hbulk hmissing hfetch cancelled true
      cases cancelled with
      | true =>
        have henters : c.poll request .start true =
            (c.withFetch.failFetch c.nextFetch .cancelled).after events := henter
        obtain ⟨-, hcache, hpoll⟩ : turn.world = server ∧ turn.cache = _ ∧ turn.poll = _ :=
          run_of_finished (.error .cancelled) (congrArg Turn.progress henters)
        rw [hpoll, hcache]
        have hsame : c.SameContents (c.poll request .start true).cache := by
          rw [henters]
          exact (sameContents_withFetch c).trans (sameContents_failFetch _ _ _)
        exact .fails hsame
      | false =>
        have henters : c.poll request .start false =
            { cache := c.withFetch, progress := .waiting (.listing c.nextFetch), events } := henter
        have hsame := sameContents_withFetch c
        have hask : ask remote server { request, stage := .listing c.nextFetch } =
            (server.ask.1,
              { request
                stage := .listing c.nextFetch
                query := some (queries.query server.ask.2) }) := by
          simp only [ask, queries.list]
        exact meets_of_leading (hsame.objectKey source ▸ hmerge) hpersisted { request }
          (hsame.indexed hindexed) hsame (hsame.snapshot ▸ hmissing) rfl (Server.asked_ask server)
          server.ask.2 (congrArg Turn.progress henters) (congrArg Turn.cache henters) hask
  | @leads lead pending hmissing hcurrent =>
    cases cancelled with
    | true =>
      obtain ⟨-, hcache, hpoll⟩ : turn.world = server ∧ turn.cache = _ ∧ turn.poll = _ :=
        run_of_finished (.error .cancelled) rfl
      rw [hpoll, hcache]
      exact .fails (sameContents_failFetch c lead .cancelled)
    | false =>
      exact meets_of_leading hmerge hpersisted _ hindexed (.refl c) hmissing hcurrent
        (.refl server) pending rfl rfl rfl

end Load

end Cache

namespace Context

/-- A call keeps something true of the data source and of its routine while it is pending, and
leaves something behind when it finishes, where the server has a document. -/
def Settles (document : Document) (pending : DataSource → Routine → Prop)
    (left : DataSource → Routine.Result → Prop) : Prop :=
  ∀ (ctx : Context) (monitor : Monitor) (routine : Routine), ctx.server.document = document →
    pending ctx.source routine →
    let ran := ctx.run monitor routine
    ran.1.server.document = document ∧ ran.2.Meets (left ran.1.source) (pending ran.1.source)

section Load

variable {σ κ ρ α : Type} {source : Source ρ α} {remote : Cache.Remote Server κ ρ}
  {read : Document → Except ConnectionError (List ρ)} {lines : Cache.Event α → List LogLine}
  {place : Place DataSource σ} {part : Cache α → σ} {c : Cache α} {request : Request}
  {run : Monitor → Context → Load κ → Context × Poll (Load κ) Cache.Result}
  {state : Load κ → Routine} {answer : Cache.Reply → Answer} {document : Document}
  {ds : DataSource}

/-- A call that loads a whole collection. -/
theorem settles_load (hrun : ∀ ctx monitor load,
      Context.run ctx monitor (state load) = follow (run monitor ctx load) state answer)
    (hruns : ∀ monitor, RunsLoads monitor source remote lines place part (run monitor))
    (hasks : remote.Asks) (queries : Queries remote read) (hget : place.get? ds = some (part c))
    (hbulk : request.Bulk) (hindexed : c.Indexed source)
    (hmerge : Cache.KeepsKeys (c.objectKey source) source.merge)
    (hpersisted : ∀ object, source.isPersisted object = true) :
    Settles document
      (fun ds' routine => ∃ c' load, routine = state load ∧ ds' = place.put ds (part c') ∧
        c.SameContents c' ∧ load.Lone queries request c')
      (fun ds' result => ∃ c' outcome, result = answered answer outcome ∧
        ds' = place.put ds (part c') ∧
        Cache.Brings source (read document) request c c' outcome) := by
  rintro ctx monitor _ hserves ⟨c', load, rfl, hsource, hsame, hlone⟩
  have hget' : place.get? ctx.source = some (part c') := by rw [hsource, place.get?_put hget]
  have hturn := hlone.run hbulk (hsame.indexed hindexed) (hsame.objectKey source ▸ hmerge)
    hpersisted ctx.server (ctx.isCancelled monitor)
  have hasked := Load.asked_run hasks source ctx.server c' load (ctx.isCancelled monitor)
  have hput : ∀ other, place.put ctx.source (part other) = place.put ds (part other) := fun other =>
    by rw [hsource, place.put_put]
  simp only [hrun, hruns monitor ctx c' load hget', follow_eq, runLoad, hput]
  rw [Server.Asked] at hasked
  rw [hserves] at hturn
  generalize load.run source remote ctx.server c' (ctx.isCancelled monitor) = turn at hturn hasked
  obtain ⟨world, after, poll, events⟩ := turn
  cases poll with
  | waiting load' =>
    exact ⟨by rw [hasked]; exact hserves, after, load', rfl, rfl, hsame.trans hturn.1, hturn.2⟩
  | finished outcome =>
    have hbrings : Cache.Brings source (read document) request c' after outcome := hturn
    exact ⟨by rw [hasked]; exact hserves, after, outcome, rfl, rfl, hbrings.congr hsame⟩

end Load

section Databases

variable {ctx : Context} {monitor : Monitor} {document : Document} {request : Request}
  {load : Load Database.Query} {ds : DataSource}

/-- A load of the databases of a data source, with the active database as it was. -/
structure Lists (hlist : ds.connection.readDatabaseList = true) (request : Request)
    (ds' : DataSource) (load : Load Database.Query) : Prop where
  connection : ds'.connection = ds.connection
  active : ds'.active = ds.active
  contents : ds.databases.SameContents ds'.databases
  lone : load.Lone (Database.queries hlist ds.activeName) request ds'.databases

/-- What a call that loads the databases makes of a data source. -/
structure Listed (document : Document) (request : Request) (ds ds' : DataSource)
    (outcome : Cache.Result) : Prop where
  connection : ds'.connection = ds.connection
  active : ds'.active = ds.active
  brings : Cache.Brings Database.source
    (.ok (document.listDatabases ds.connection.databaseFilter)) request ds.databases ds'.databases
    outcome

theorem Lists.run {hlist : ds.connection.readDatabaseList = true}
    (h : Lists hlist request ctx.source load) (hserves : ctx.server.document = document)
    (hbulk : request.Bulk) (hindexed : ds.databases.Indexed Database.source) (monitor : Monitor) :
    let ran := ctx.runDatabases monitor load
    ran.1.server.document = document ∧
      ran.2.Meets (Listed document request ds ran.1.source) (Lists hlist request ran.1.source) := by
  have hactive : ctx.source.activeName = ds.activeName := by
    rw [DataSource.activeName, DataSource.activeName, h.active]
  have hturn := h.lone.run hbulk (h.contents.indexed hindexed) (Database.keepsKeys_merge _)
    (fun _ => rfl) ctx.server (ctx.isCancelled monitor)
  have hasked := Load.asked_run (Database.remote_asks ds.connection ds.activeName) Database.source
    ctx.server ctx.source.databases load (ctx.isCancelled monitor)
  rw [Server.Asked] at hasked
  rw [hserves] at hturn
  simp only [runDatabases, runLoad, h.connection, hactive]
  generalize load.run Database.source (Database.remote ds.connection ds.activeName) ctx.server
    ctx.source.databases (ctx.isCancelled monitor) = turn at hturn hasked
  obtain ⟨world, after, poll, events⟩ := turn
  refine ⟨by rw [hasked]; exact hserves, ?_⟩
  cases poll with
  | waiting load' =>
    exact ⟨rfl, h.active, h.contents.trans hturn.1, hturn.2⟩
  | finished outcome =>
    have hbrings : Cache.Brings Database.source _ request ctx.source.databases after outcome :=
      hturn
    exact ⟨rfl, h.active, hbrings.congr h.contents⟩

/-- A refresh of the databases. Whether the settings were cleared already does not matter. -/
theorem settles_refresh (hlist : ds.connection.readDatabaseList = true)
    (hindexed : ds.databases.Indexed Database.source) :
    Settles document
      (fun ds' routine => ∃ begun load, routine = .refresh begun load ∧
        Lists hlist .refresh ds' load)
      (fun ds' result => ∃ outcome, result = answered .databases outcome ∧
        Listed document .refresh ds ds' outcome) := by
  rintro ctx monitor _ hserves ⟨begun, load, rfl, hlists⟩
  set cleared : Context := if begun then ctx else (ctx.editSettings .clear).2 with hcleared
  have hbegun : cleared.server = ctx.server ∧ Lists hlist .refresh cleared.source load := by
    cases begun with
    | true => exact ⟨rfl, hlists⟩
    | false => exact ⟨rfl, hlists.connection, hlists.active, hlists.contents, hlists.lone⟩
  obtain ⟨hserver, hlists'⟩ := hbegun
  have hran := hlists'.run (hserver ▸ hserves) trivial hindexed monitor
  simp only [run, runRefresh, ← hcleared, follow_eq]
  generalize cleared.runDatabases monitor load = ran at hran
  obtain ⟨ctx', load' | outcome⟩ := ran
  · exact ⟨hran.1, true, load', rfl, hran.2⟩
  · cases outcome with
    | ok reply => exact ⟨hran.1, _, rfl, hran.2⟩
    | error error => exact ⟨hran.1, _, rfl, hran.2⟩

/-- A call for the databases. -/
theorem settles_databases (hlist : ds.connection.readDatabaseList = true)
    (hindexed : ds.databases.Indexed Database.source) :
    Settles document
      (fun ds' routine => ∃ load, routine = .databases load ∧ Lists hlist .all ds' load)
      (fun ds' result => ∃ outcome, result = answered .databases outcome ∧
        Listed document .all ds ds' outcome) := by
  rintro ctx monitor _ hserves ⟨load, rfl, hlists⟩
  have hran := hlists.run hserves trivial hindexed monitor
  simp only [run, follow_eq]
  generalize ctx.runDatabases monitor load = ran at hran
  obtain ⟨ctx', load' | outcome⟩ := ran
  · exact ⟨hran.1, load', rfl, hran.2⟩
  · exact ⟨hran.1, outcome, rfl, hran.2⟩

end Databases

end Context

namespace Session

variable {document : Document} {routine : Routine} {result : Routine.Result} {s s' : Session}
  {action : Action} {actions : List Action} {id : Nat} {pending : DataSource → Routine → Prop}
  {left : DataSource → Routine.Result → Prop}

/-- A routine is called while no other task is pending, and finishes with a result before another
one is called. The server has a document all the time. -/
structure Completes (document : Document) (routine : Routine) (result : Routine.Result)
    (s s' : Session) : Prop where
  idle : s.tasks = []
  course : ∃ server name monitor actions, server.document = document ∧
    (∀ action ∈ actions, Action.Calm document action) ∧
    s.acts (.serve server :: .start name routine monitor :: actions) = s'
  result : s'.resultsOf s.started = [result]

theorem Completes.reachable (h : s.Completes document routine result s') (hs : s.Reachable)
    (hcalled : routine.Called) : s'.Reachable := by
  obtain ⟨server, name, monitor, actions, -, hcalm, rfl⟩ := h.course
  refine hs.acts (List.forall_mem_cons.2 ⟨trivial, List.forall_mem_cons.2 ⟨hcalled, ?_⟩⟩)
  exact fun action haction => (hcalm action haction).proper

/-- Calls a routine and runs it once, where a server answers at once. -/
def call (s : Session) (server : Server) (routine : Routine) : Session :=
  s.acts [.serve server, .start "call" routine none, .poll s.started]

theorem Reachable.call (h : s.Reachable) (hcalled : routine.Called) (server : Server) :
    (s.call server routine).Reachable := by
  refine h.acts (List.forall_mem_cons.2 ⟨trivial, List.forall_mem_cons.2 ⟨hcalled, ?_⟩⟩)
  exact List.forall_mem_singleton.2 trivial

theorem completes_call {server : Server} (hidle : s.tasks = [])
    (hresult : (s.call server routine).resultsOf s.started = [result]) :
    s.Completes server.document routine result (s.call server routine) where
  idle := hidle
  course := ⟨server, "call", none, [.poll s.started], rfl, by simp [Action.Calm], rfl⟩
  result := hresult

/-- The call of an id is the only one that is pending, or it is over and has left something
behind. -/
inductive Pursued (document : Document) (pending : DataSource → Routine → Prop)
    (left : DataSource → Routine.Result → Prop) (id : Nat) (s : Session) : Prop
  | pends {task : Task} : s.tasks = [task] → task.id = id →
      s.context.server.document = document → pending s.source task.routine →
      s.resultsOf id = [] → Pursued document pending left id s
  | ends : s.tasks = [] → (∀ result ∈ s.resultsOf id, left s.source result) →
      Pursued document pending left id s

theorem Pursued.aside (h : s.Pursued document pending left id) (haside : s.Aside document s') :
    s'.Pursued document pending left id := by
  have hresults : s'.resultsOf id = s.resultsOf id := by rw [resultsOf, resultsOf, haside.finished]
  cases h with
  | pends htasks hid hserves hpending hnone =>
    exact .pends (haside.tasks.trans htasks) hid (haside.serves hserves)
      (haside.source ▸ hpending) (hresults.trans hnone)
  | ends hidle hleft =>
    refine .ends (haside.tasks.trans hidle) ?_
    rw [hresults, haside.source]
    exact hleft

/-- A task that runs goes on, or leaves behind what it settles. -/
theorem Pursued.poll (h : s.Pursued document pending left id)
    (hsettles : Context.Settles document pending left) {task : Task} (hmem : task ∈ s.tasks) :
    (s.poll task).Pursued document pending left id := by
  cases h with
  | ends hidle =>
    rw [hidle] at hmem
    cases hmem
  | @pends other htasks hid hserves hpending hnone =>
    rw [htasks] at hmem
    obtain rfl : other = task := (List.mem_singleton.1 hmem).symm
    obtain ⟨hserves', hmeets⟩ := hsettles s.context other.monitor other.routine hserves hpending
    rw [resultsOf, List.map_eq_nil_iff] at hnone
    rw [Session.poll]
    generalize s.context.run other.monitor other.routine = ran at hserves' hmeets
    obtain ⟨ctx, routine | result⟩ := ran
    · have htasks' : (s.tasks.map fun t => if t.id = other.id then { t with routine } else t) =
          [{ other with routine }] := by simp [htasks]
      exact .pends htasks' hid hserves' hmeets (by simp [resultsOf, hnone])
    · refine .ends (by simp [htasks]) fun result' hresult' => ?_
      obtain rfl : result' = result := by simpa [resultsOf, hnone, hid] using hresult'
      exact hmeets

/-- A task that is dropped leaves no result. -/
theorem Pursued.drop (h : s.Pursued document pending left id) {task : Task}
    (hmem : task ∈ s.tasks) : (s.drop task).Pursued document pending left id := by
  cases h with
  | ends hidle =>
    rw [hidle] at hmem
    cases hmem
  | @pends other htasks _ _ _ hnone =>
    rw [htasks] at hmem
    obtain rfl : other = task := (List.mem_singleton.1 hmem).symm
    refine .ends (by simp [Session.drop, htasks]) fun result hresult => ?_
    have hsame : (s.drop other).resultsOf id = s.resultsOf id := rfl
    rw [hsame, hnone] at hresult
    cases hresult

theorem Pursued.act (h : s.Pursued document pending left id)
    (hsettles : Context.Settles document pending left) (hcalm : action.Calm document) :
    (s.act action).Pursued document pending left id := by
  have hcalms := s.calms_act hcalm
  generalize s.act action = s' at hcalms
  cases hcalms with
  | aside haside => exact h.aside haside
  | polls hmem => exact h.poll hsettles hmem
  | drops hmem => exact h.drop hmem

theorem Pursued.acts (h : s.Pursued document pending left id)
    (hsettles : Context.Settles document pending left)
    (hcalm : ∀ action ∈ actions, action.Calm document) :
    (s.acts actions).Pursued document pending left id := by
  induction actions generalizing s with
  | nil => exact h
  | cons action rest ih =>
    obtain ⟨haction, hrest⟩ := List.forall_mem_cons.1 hcalm
    exact ih (h.act hsettles haction) hrest

/-- No task has finished under the id of the next one. -/
theorem Reachable.resultsOf_started (h : s.Reachable) : s.resultsOf s.started = [] := by
  rw [resultsOf, List.map_eq_nil_iff, List.filter_eq_nil_iff]
  intro entry hentry
  simpa using Nat.ne_of_lt (h.lt_of_mem_finished entry hentry)

/-- A call that is over has left behind what it settles, and nothing is pending. -/
theorem Completes.settled (h : s.Completes document routine result s') (hs : s.Reachable)
    (hsettles : Context.Settles document pending left) (hbegins : pending s.source routine) :
    s'.tasks = [] ∧ left s'.source result := by
  obtain ⟨server, name, monitor, actions, hserves, hcalm, rfl⟩ := h.course
  have hbegun : ((s.act (.serve server)).act (.start name routine monitor)).Pursued document pending
      left s.started := by
    rw [act, start]
    rcases (s.act (.serve server)).monitors.resolveOrFresh
      (s.act (.serve server)).context.monitors monitor with ⟨names, monitors, own⟩
    let task : Task := ⟨s.started, name, own, routine⟩
    have htasks : s.tasks ++ [task] = [task] := by rw [h.idle, List.nil_append]
    exact .pends htasks rfl hserves hbegins hs.resultsOf_started
  have hresult := h.result
  cases hbegun.acts hsettles hcalm with
  | pends _ _ _ _ hnone =>
    rw [acts_cons, acts_cons, hnone] at hresult
    cases hresult
  | ends hidle hleft =>
    refine ⟨hidle, hleft result ?_⟩
    rw [acts_cons, acts_cons] at hresult
    rw [hresult]
    exact List.mem_singleton_self result

/-- A call that succeeded has read what is listed, unless it found all of it in memory. -/
theorem renewed_of_brings {ρ α : Type} {source : Source ρ α} {request : Request} {c c' : Cache α}
    {listed : Except ConnectionError (List ρ)} {outcome : Cache.Result}
    {answer : Cache.Reply → Answer} {given : Answer}
    (h : Cache.Brings source listed request c c' outcome)
    (hok : .ok given = Context.answered answer outcome)
    (hmissing : request = .all → c.snapshot.complete = false) :
    ∃ records, listed = .ok records ∧ c.Renewed source records c' := by
  cases h with
  | renews hlisted _ hrenewed => exact ⟨_, hlisted, hrenewed⟩
  | recalls hall hcomplete =>
    rw [hmissing hall] at hcomplete
    cases hcomplete
  | fails => cases hok

section Calls

variable {db schema : Ref} {database : Database} {owner : Schema} {request : Request}

theorem Reachable.databases_fetch (h : s.Reachable) (hidle : s.tasks = []) :
    s.source.databases.fetch = none :=
  have hsite : s.source.site? none = some (s.source.databases.map Database.row) := rfl
  (h.rests hidle hsite).fetch

/-- What a call for the databases leaves behind. -/
theorem Completes.databases (h : s.Completes document (.databases { request := .all }) result s')
    (hs : s.Reachable) (hlist : s.source.connection.readDatabaseList = true) :
    s'.tasks = [] ∧ ∃ outcome, result = Context.answered .databases outcome ∧
      Context.Listed document .all s.source s'.source outcome :=
  h.settled hs (Context.settles_databases hlist hs.orderly.indexed)
    ⟨_, rfl, rfl, rfl, .refl _, .unrun (hs.databases_fetch h.idle)⟩

/-- What a refresh leaves behind. -/
theorem Completes.refresh (h : s.Completes document (.refresh false { request := .refresh }) result
      s') (hs : s.Reachable) (hlist : s.source.connection.readDatabaseList = true) :
    s'.tasks = [] ∧ ∃ outcome, result = Context.answered .databases outcome ∧
      Context.Listed document .refresh s.source s'.source outcome :=
  h.settled hs (Context.settles_refresh hlist hs.orderly.indexed)
    ⟨_, _, rfl, rfl, rfl, .refl _, .unrun (hs.databases_fetch h.idle)⟩

/-- What a call for the schemas of a database leaves behind. -/
theorem Completes.schemas (h : s.Completes document (.schemas db { request }) result s')
    (hs : s.Reachable) (hbulk : request.Bulk) (hdatabase : s.source.database? db = some database) :
    s'.tasks = [] ∧ ∃ schemas outcome, result = Context.answered (.schemas db) outcome ∧
      s'.source = s.source.putSchemas db schemas ∧
      Cache.Brings (Schema.source database.name) (document.listSchemas database.name) request
        database.schemas schemas outcome := by
  have hfetch : database.schemas.fetch = none :=
    (hs.rests h.idle (DataSource.site?_schemas hdatabase)).fetch
  have hself := (Place.database db).put_get? hdatabase
  obtain ⟨hidle, schemas, outcome, hresult, hsource, hbrings⟩ := h.settled hs
    (Context.settles_load (fun _ _ _ => rfl)
      (fun monitor => Context.runsLoads_schemas monitor db database)
      (Schema.remote_asks database.name) (Schema.queries database.name) hdatabase hbulk
      (hs.orderly.of_database? hdatabase).indexed (Schema.keepsKeys_merge _ _) fun _ => rfl)
    ⟨database.schemas, _, rfl, hself.symm, .refl _, .unrun hfetch⟩
  rw [Place.put_database hdatabase] at hsource
  exact ⟨hidle, schemas, outcome, hresult, hsource, hbrings⟩

/-- What a call for the tables of a schema leaves behind. -/
theorem Completes.tables (h : s.Completes document (.tables db schema { request }) result s')
    (hs : s.Reachable) (hbulk : request.Bulk) (howner : s.source.schema? db schema = some owner) :
    s'.tasks = [] ∧ ∃ tables outcome, result = Context.answered (.tables db schema) outcome ∧
      s'.source = s.source.putTables db schema tables ∧
      Cache.Brings Table.source (document.listTables owner.database owner.name) request
        owner.tables tables outcome := by
  have hfetch : owner.tables.fetch = none :=
    (hs.rests h.idle (DataSource.site?_tables howner)).fetch
  obtain ⟨database, hdatabase, -⟩ := DataSource.schema?_eq_some_iff.1 howner
  have hget : (Place.schema db schema).get? s.source = some owner :=
    (Place.get?_schema s.source db schema).trans howner
  have hself := (Place.schema db schema).put_get? hget
  obtain ⟨hidle, tables, outcome, hresult, hsource, hbrings⟩ := h.settled hs
    (Context.settles_load (fun _ _ _ => rfl)
      (fun monitor => Context.runsLoads_tables monitor db schema owner)
      (Table.remote_asks owner.database owner.name) (Table.queries owner.database owner.name) hget
      hbulk (hs.orderly.of_schema? hdatabase howner).indexed (Table.keepsKeys_merge _) fun _ => rfl)
    ⟨owner.tables, _, rfl, hself.symm, .refl _, .unrun hfetch⟩
  rw [Place.put_schema howner] at hsource
  exact ⟨hidle, tables, outcome, hresult, hsource, hbrings⟩

end Calls

end Session

end CatalogBrowser
