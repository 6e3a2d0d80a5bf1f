import CatalogBrowser.DataSource.Preload
import CatalogBrowser.Proofs.Cache.Reading

/-!
# Tasks that wait for the server

Tasks that run side by side share a data source, but each works on a part of it. A specification
`Ends` of a task says in how many runs it finishes, where all queries are answered in the meantime,
and what it makes of its part, whatever becomes of the other parts between its runs. So siblings
that meet such specifications meet one together, however long the server takes to answer.

## Main definitions

* `Place` - where a part of a data source is found.
* `Context.Ready` - the server has a document and is online, and nothing is cancelled.
* `Context.Ends` - the specification of a task.
* `Siblings` - tasks that each deal with their own instance of a cache.

## Main statements

* `Context.Ends.bind` - one task after another.
* `Context.Ends.widen` - a task on a part of a part.
* `Context.ends_load`, `Context.ends_load_of_complete` - loads of a whole collection.
* `Context.ends_siblings` - tasks side by side.
-/

namespace CatalogBrowser

open Cache (Load)

/-- Where a part is found in a whole, if it is there, and how another one takes its place. -/
structure Place (δ σ : Type) where
  get? : δ → Option σ
  put : δ → σ → δ
  get?_put : ∀ {whole : δ} {part : σ}, get? whole = some part → ∀ other : σ,
    get? (put whole other) = some other
  put_get? : ∀ {whole : δ} {part : σ}, get? whole = some part → put whole part = whole
  put_put : ∀ (whole : δ) (first second : σ), put (put whole first) second = put whole second

namespace Place

variable {δ σ ρ : Type}

/-- The whole itself. -/
def whole : Place δ δ where
  get? := some
  put _ other := other
  get?_put _ _ := rfl
  put_get? h := (Option.some.inj h).symm
  put_put _ _ _ := rfl

/-- A part of a part. -/
def trans (place : Place δ σ) (inner : Place σ ρ) : Place δ ρ where
  get? whole := (place.get? whole).bind inner.get?
  put whole other :=
    match place.get? whole with
    | some part => place.put whole (inner.put part other)
    | none => whole
  get?_put {whole _} h other := by
    obtain ⟨part, hpart, hinner⟩ := Option.bind_eq_some_iff.1 h
    simp only [hpart]
    rw [place.get?_put hpart, Option.bind_some, inner.get?_put hinner]
  put_get? {whole _} h := by
    obtain ⟨part, hpart, hinner⟩ := Option.bind_eq_some_iff.1 h
    simp only [hpart]
    rw [inner.put_get? hinner, place.put_get? hpart]
  put_put whole first second := by
    cases hpart : place.get? whole with
    | none => simp only [hpart]
    | some part =>
      simp only [place.get?_put hpart, place.put_put, inner.put_put]

theorem trans_get? (place : Place δ σ) {inner : Place σ ρ} {whole : δ} {part : σ}
    (h : place.get? whole = some part) : (place.trans inner).get? whole = inner.get? part := by
  simp only [trans, h, Option.bind_some]

theorem trans_put (place : Place δ σ) {inner : Place σ ρ} {whole : δ} {part : σ}
    (h : place.get? whole = some part) (other : ρ) :
    (place.trans inner).put whole other = place.put whole (inner.put part other) := by
  simp only [trans, h]

/-- An instance of a cache. -/
def object {α : Type} (ref : Ref) : Place (Cache α) α where
  get? c := c.object? ref
  put c other := c.modifyObject ref fun _ => other
  get?_put h other := Cache.object?_modifyObject_self (fun _ => other) h
  put_get? h := Cache.modifyObject_of_eq fun _ hobject =>
    Option.some.inj (h.symm.trans hobject)
  put_put c _ _ := c.modifyObject_modifyObject ..

def databases : Place DataSource (Cache Database) where
  get? ds := some ds.databases
  put ds databases := { ds with databases }
  get?_put _ _ := rfl
  put_get? h := by
    cases h
    rfl
  put_put _ _ _ := rfl

def settings : Place DataSource (Cache Setting) where
  get? ds := some ds.settings
  put ds settings := { ds with settings }
  get?_put _ _ := rfl
  put_get? h := by
    cases h
    rfl
  put_put _ _ _ := rfl

def schemas : Place Database (Cache Schema) where
  get? database := some database.schemas
  put database schemas := { database with schemas }
  get?_put _ _ := rfl
  put_get? h := by
    cases h
    rfl
  put_put _ _ _ := rfl

/-- An instance that is there may as well be replaced as modified. -/
theorem put_object {α : Type} {c : Cache α} {ref : Ref} {object : α}
    (h : c.object? ref = some object) (f : α → α) :
    (Place.object ref).put c (f object) = c.modifyObject ref f := by
  have hsame : c.modifyObject ref (fun _ => object) = c := (Place.object ref).put_get? h
  conv_rhs => rw [← hsame, Cache.modifyObject_modifyObject]
  rfl

/-- A database of a data source. -/
def database (db : Ref) : Place DataSource Database :=
  databases.trans (object db)

/-- A schema of a data source. -/
def schema (db ref : Ref) : Place DataSource Schema :=
  ((database db).trans schemas).trans (object ref)

theorem put_database {ds : DataSource} {db : Ref} {owner : Database}
    (h : ds.database? db = some owner) (schemas : Cache Schema) :
    (database db).put ds { owner with schemas } = ds.putSchemas db schemas :=
  congrArg (fun databases => { ds with databases }) (put_object h ({ · with schemas }))

theorem get?_schema (ds : DataSource) (db ref : Ref) :
    (schema db ref).get? ds = ds.schema? db ref := by
  have hget : (schema db ref).get? ds =
      ((ds.database? db).bind schemas.get?).bind fun schemas => schemas.object? ref := rfl
  rw [hget, DataSource.schema?]
  cases ds.database? db <;> rfl

theorem put_schema {ds : DataSource} {db ref : Ref} {owner : Schema}
    (h : ds.schema? db ref = some owner) (tables : Cache Table) :
    (schema db ref).put ds { owner with tables } = ds.putTables db ref tables := by
  obtain ⟨above, hdatabase, howner⟩ := DataSource.schema?_eq_some_iff.1 h
  have hschemas : ((database db).trans schemas).get? ds = some above.schemas :=
    trans_get? _ hdatabase
  rw [schema, trans_put _ hschemas, trans_put _ hdatabase, DataSource.putTables, hdatabase]
  simp only [← put_database hdatabase, ← put_object howner ({ · with tables })]
  rfl

end Place

/-- Whether a task finished with what is wanted, or waits in a state that is. -/
def Poll.Meets {σ β : Type} (Q : β → Prop) (W : σ → Prop) : Poll σ β → Prop
  | .waiting state => W state
  | .finished result => Q result

/-- Goes on with another task when the first one finishes. -/
def Poll.andThen {σ σ' β β' : Type} (ran : Context × Poll σ β) (lift : σ → σ')
    (next : Context → β → Context × Poll σ' β') : Context × Poll σ' β' :=
  match ran with
  | (ctx, .waiting state) => (ctx, .waiting (lift state))
  | (ctx, .finished result) => next ctx result

namespace Context

/-- At a time, the server has a document and is online, and nothing is cancelled. -/
structure Ready (document : Document) (now : Nat) (ctx : Context) : Prop where
  serves : ctx.server.document = document
  online : ctx.server.offline = none
  clock : ctx.server.now = now
  active : ctx.monitors.cancelled = []

variable {ctx : Context} {document : Document} {now : Nat} {monitor : Monitor}

theorem Ready.isCancelled (h : ctx.Ready document now) (monitor : Monitor) :
    ctx.isCancelled monitor = false := by
  simp [Context.isCancelled, Monitors.isCancelled, h.active]

theorem Ready.withSource (h : ctx.Ready document now) (source : DataSource) :
    { ctx with source }.Ready document now :=
  ⟨h.serves, h.online, h.clock, h.active⟩

theorem Ready.say (h : ctx.Ready document now) (lines : List LogLine) :
    (ctx.say lines).Ready document now :=
  ⟨h.serves, h.online, h.clock, h.active⟩

theorem Ready.ask (h : ctx.Ready document now) :
    { ctx with server := ctx.server.ask.1 }.Ready document now :=
  ⟨h.serves, h.online, h.clock, h.active⟩

theorem Ready.pause (h : ctx.Ready document now) :
    ctx.pause.Ready document (now + document.wait) :=
  ⟨h.serves, h.online, by rw [← h.clock, ← h.serves]; rfl, h.active⟩

theorem Ready.due_ask (h : ctx.Ready document now) :
    ctx.server.ask.2 = { due := now + document.wait } := by
  rw [← h.clock, ← h.serves]
  rfl

/-- A query that is due is answered from the document. -/
theorem Ready.answer? {β : Type} (h : ctx.Ready document now) (pending : Pending)
    (read : Document → Except ConnectionError β) : ctx.server.answer? pending read =
      if now < pending.due then none else some (read document) := by
  rw [Server.answer?, h.clock, h.online, h.serves]

section Ends

variable {τ τ' γ γ' σ ρ : Type} {run : Context → τ → Context × Poll τ γ}
  {run' : Context → τ' → Context × Poll τ' γ'} {place : Place DataSource σ} {Q Q' : σ → γ → Prop}
  {m n : Nat} {part part' : σ} {f : Context → Context × Poll τ γ}

/-- A task on a part of the data source, which begins at a time and goes on by `run`, finishes
within so many runs, if the time that a query takes passes between them. Whatever happens elsewhere
in between, it leaves the part as wanted, and all else as it is. -/
def Ends (document : Document) (run : Context → τ → Context × Poll τ γ)
    (place : Place DataSource σ) (Q : σ → γ → Prop) :
    Nat → Nat → σ → (Context → Context × Poll τ γ) → Prop
  | 0, _, _, _ => False
  | runs + 1, now, part, f => ∀ ctx : Context, ctx.Ready document now →
      place.get? ctx.source = some part → ∃ ctx' part' out, f ctx = (ctx', out) ∧
        ctx'.Ready document now ∧ ctx'.source = place.put ctx.source part' ∧
        out.Meets (Q part') fun task =>
          Ends document run place Q runs (now + document.wait) part' (run · task)

theorem Ends.mono (h : Ends document run place Q m now part f) (hle : m ≤ n)
    (himp : ∀ part result, Q part result → Q' part result) :
    Ends document run place Q' n now part f := by
  induction m generalizing n now part f with
  | zero => exact h.elim
  | succ m ih =>
    obtain ⟨n, rfl⟩ := Nat.exists_eq_add_of_le' hle
    intro ctx hready hget
    obtain ⟨ctx', part', out, hrun, hready', hsource, hout⟩ := h ctx hready hget
    refine ⟨ctx', part', out, hrun, hready', hsource, ?_⟩
    cases out with
    | finished result => exact himp _ _ hout
    | waiting task => exact ih hout (Nat.le_add_left m n)

/-- A task that finishes at once. -/
theorem ends_pure {result : γ} (h : Q part result) :
    Ends document run place Q (n + 1) now part fun ctx => (ctx, .finished result) :=
  fun ctx hready hget => ⟨ctx, part, _, rfl, hready, (place.put_get? hget).symm, h⟩

/-- One task after another. -/
theorem Ends.bind {lift : τ' → τ} {next : Context → γ' → Context × Poll τ γ}
    {Q' : σ → γ' → Prop} {f' : Context → Context × Poll τ' γ'}
    (hrun : ∀ ctx task, run ctx (lift task) = Poll.andThen (run' ctx task) lift next)
    (h : Ends document run' place Q' m now part f')
    (hnext : ∀ now part result, Q' part result →
      Ends document run place Q (n + 1) now part (next · result)) :
    Ends document run place Q (m + n) now part fun ctx => Poll.andThen (f' ctx) lift next := by
  induction m generalizing now part f' with
  | zero => exact h.elim
  | succ m ih =>
    rw [Nat.succ_add]
    intro ctx hready hget
    obtain ⟨ctx₁, part₁, out, hf', hready₁, hsource₁, hout⟩ := h ctx hready hget
    simp only [hf']
    cases out with
    | waiting task =>
      refine ⟨ctx₁, part₁, _, rfl, hready₁, hsource₁, ?_⟩
      have hlater := ih hout
      rwa [← funext fun ctx => hrun ctx task] at hlater
    | finished result =>
      have hget₁ : place.get? ctx₁.source = some part₁ := by
        rw [hsource₁, place.get?_put hget]
      obtain ⟨ctx₂, part₂, out, hf, hready₂, hsource₂, hout⟩ :=
        (hnext now part₁ result hout).mono (Nat.succ_le_succ (Nat.le_add_left n m))
          (fun _ _ => id) ctx₁ hready₁ hget₁
      refine ⟨ctx₂, part₂, out, hf, hready₂, ?_, hout⟩
      rw [hsource₂, hsource₁, place.put_put]

/-- A task on a part of a part. -/
theorem Ends.widen {inner : Place σ ρ} {Q : ρ → γ → Prop} {part : ρ} {outer : σ}
    (h : Ends document run (place.trans inner) Q n now part f)
    (hinner : inner.get? outer = some part) :
    Ends document run place (fun outer' result => ∃ part', outer' = inner.put outer part' ∧
      Q part' result) n now outer f := by
  induction n generalizing now part outer f with
  | zero => exact h.elim
  | succ n ih =>
    intro ctx hready hget
    obtain ⟨ctx', part', out, hf, hready', hsource, hout⟩ :=
      h ctx hready ((place.trans_get? hget).trans hinner)
    rw [place.trans_put hget] at hsource
    refine ⟨ctx', inner.put outer part', out, hf, hready', hsource, ?_⟩
    cases out with
    | finished result => exact ⟨part', rfl, hout⟩
    | waiting task =>
      refine (ih hout (inner.get?_put hinner part')).mono (Nat.le_refl n) ?_
      rintro outer' result ⟨part'', rfl, hQ⟩
      exact ⟨part'', inner.put_put _ _ _, hQ⟩

/-- A task that first changes its part, and then goes on like another one. -/
theorem Ends.after {g : Context → Context × Poll τ γ}
    (h : Ends document run place Q n now part' g)
    (hfirst : ∀ ctx : Context, ctx.Ready document now → place.get? ctx.source = some part →
      ∃ ctx', f ctx = g ctx' ∧ ctx'.Ready document now ∧
        ctx'.source = place.put ctx.source part') :
    Ends document run place Q n now part f := by
  cases n with
  | zero => exact h.elim
  | succ n =>
    intro ctx hready hget
    obtain ⟨ctx₁, hf, hready₁, hsource₁⟩ := hfirst ctx hready hget
    have hget₁ : place.get? ctx₁.source = some part' := by
      rw [hsource₁, place.get?_put hget]
    obtain ⟨ctx', part'', out, hg, hready', hsource', hout⟩ := h ctx₁ hready₁ hget₁
    refine ⟨ctx', part'', out, hf.trans hg, hready', ?_, hout⟩
    rw [hsource', hsource₁, place.put_put]

end Ends

section Load

variable {κ ρ α σ : Type} {source : Source ρ α} {remote : Cache.Remote Server κ ρ}
  {read : Document → Except ConnectionError (List ρ)} {lines : Cache.Event α → List LogLine}
  {place : Place DataSource σ} {part : Cache α → σ} {cache : Cache α}
  {run : Context → Load κ → Context × Poll (Load κ) Cache.Result} {result : Cache.Result}

/-- How listings of the remote side are queries to the server. -/
structure Queries (remote : Cache.Remote Server κ ρ)
    (read : Document → Except ConnectionError (List ρ)) where
  query : Pending → κ
  list : ∀ server, remote.list server = (server.ask.1, query server.ask.2)
  listing? : ∀ server pending, remote.listing? server (query pending) = server.answer? pending read

/-- How looking one object up is a query to the server. -/
structure Inquiries (remote : Cache.Remote Server κ ρ) (identity : Identity)
    (read : Document → Except ConnectionError (Option ρ)) where
  query : Pending → κ
  lookup : ∀ server, remote.lookup server identity = (server.ask.1, query server.ask.2)
  found? : ∀ server pending, remote.found? server (query pending) = server.answer? pending read

/-- Runs loads on a cache that belongs to a part of the data source. -/
def RunsLoads (monitor : Monitor) (source : Source ρ α) (remote : Cache.Remote Server κ ρ)
    (lines : Cache.Event α → List LogLine) (place : Place DataSource σ) (part : Cache α → σ)
    (run : Context → Load κ → Context × Poll (Load κ) Cache.Result) : Prop :=
  ∀ (ctx : Context) (cache : Cache α) (load : Load κ),
    place.get? ctx.source = some (part cache) → run ctx load =
      let out := ctx.runLoad monitor source remote lines cache load
      ({ out.1 with source := place.put ctx.source (part out.2.1) }, out.2.2)

/-- The caller of a load puts the cache back. -/
theorem source_runLoad (ctx : Context) (monitor : Monitor) (source : Source ρ α)
    (remote : Cache.Remote Server κ ρ) (lines : Cache.Event α → List LogLine) (cache : Cache α)
    (load : Load κ) :
    (ctx.runLoad monitor source remote lines cache load).1.source = ctx.source :=
  rfl

/-- What becomes of the part and of the data source when a load runs. -/
theorem RunsLoads.exists_run (h : RunsLoads monitor source remote lines place part run)
    {load : Load κ} {server : Server} {cache' : Cache α} {out : Poll (Load κ) Cache.Result}
    (hready : ctx.Ready document now) (hserver : { ctx with server }.Ready document now)
    (hget : place.get? ctx.source = some (part cache))
    (hturn : let turn := load.run source remote ctx.server cache false
      turn.world = server ∧ turn.cache = cache' ∧ turn.poll = out) :
    ∃ ctx', run ctx load = (ctx', out) ∧ ctx'.Ready document now ∧
      ctx'.source = place.put ctx.source (part cache') := by
  rw [← hready.isCancelled monitor] at hturn
  obtain ⟨rfl, rfl, rfl⟩ := hturn
  exact ⟨_, h ctx cache load hget, ⟨hserver.serves, hserver.online, hserver.clock, hserver.active⟩,
    rfl⟩

/-- A complete cache is read from memory. -/
theorem ends_load_of_complete (hrun : RunsLoads monitor source remote lines place part run)
    (hcomplete : cache.snapshot.complete = true) :
    Ends document run place (fun part' result => part' = part cache ∧
        result = .ok (.objects cache.snapshot.entries)) 1 now (part cache)
      (run · { request := .all }) := by
  intro ctx hready hget
  obtain ⟨ctx', hctx', hready', hsource⟩ := hrun.exists_run hready hready hget
    (Load.run_all_of_complete source remote ctx.server hcomplete false)
  exact ⟨ctx', _, _, hctx', hready', hsource, rfl, rfl⟩

/-- A load that asks one query finishes at once, or when the answer is due. -/
theorem ends_query {β : Type} (hrun : RunsLoads monitor source remote lines place part run)
    (read : Document → Except ConnectionError β) {first : Load κ} (left : Pending → Load κ)
    (asked : Cache α) {answered : Cache α}
    (hwaits : ∀ server : Server, server.ask.1.answer? server.ask.2 read = none →
      let turn := first.run source remote server cache false
      turn.world = server.ask.1 ∧ turn.cache = asked ∧ turn.poll = .waiting (left server.ask.2))
    (htakes : ∀ server : Server,
      server.ask.1.answer? server.ask.2 read = some (read document) →
      let turn := first.run source remote server cache false
      turn.world = server.ask.1 ∧ turn.cache = answered ∧ turn.poll = .finished result)
    (hlater : ∀ (server : Server) (pending : Pending),
      server.answer? pending read = some (read document) →
      let turn := (left pending).run source remote server asked false
      turn.world = server ∧ turn.cache = answered ∧ turn.poll = .finished result) :
    Ends document run place (fun part' result' => part' = part answered ∧ result' = result) 2 now
      (part cache) (run · first) := by
  intro ctx hready hget
  have hanswer := hready.ask.answer? ctx.server.ask.2 read
  have hdue : ctx.server.ask.2.due = now + document.wait := congrArg Pending.due hready.due_ask
  by_cases hwait : now < ctx.server.ask.2.due
  · rw [if_pos hwait] at hanswer
    obtain ⟨ctx', hctx', hready', hsource⟩ :=
      hrun.exists_run hready hready.ask hget (hwaits ctx.server hanswer)
    refine ⟨ctx', _, _, hctx', hready', hsource, fun later hlate hfound => ?_⟩
    have hdone := hlate.answer? ctx.server.ask.2 read
    rw [if_neg (Nat.not_lt_of_le (Nat.le_of_eq hdue))] at hdone
    obtain ⟨ctx'', hctx'', hready'', hsource'⟩ :=
      hrun.exists_run hlate hlate hfound (hlater later.server ctx.server.ask.2 hdone)
    exact ⟨ctx'', _, _, hctx'', hready'', hsource', rfl, rfl⟩
  · rw [if_neg hwait] at hanswer
    obtain ⟨ctx', hctx', hready', hsource⟩ :=
      hrun.exists_run hready hready.ask hget (htakes ctx.server hanswer)
    exact ⟨ctx', _, _, hctx', hready', hsource, rfl, rfl⟩

/-- A vacant cache is filled from the server, at once or after one wait. -/
theorem ends_load (hrun : RunsLoads monitor source remote lines place part run)
    (queries : Queries remote read) (hvacant : cache.Vacant)
    (hresult : (cache.read source (read document)).progress = .finished result) :
    Ends document run place (fun part' result' =>
        part' = part (cache.read source (read document)).cache ∧ result' = result) 2 now
      (part cache) (run · { request := .all }) := by
  have hlisting : ∀ server : Server, remote.listing? server.ask.1 (queries.query server.ask.2) =
      server.ask.1.answer? server.ask.2 read := fun server => queries.listing? _ _
  refine ends_query hrun read (fun pending => cache.asked (queries.query pending))
    cache.withFetch ?_ ?_ ?_
  · intro server hnone
    have hturn := Load.run_all_of_vacant source hvacant (queries.list server)
    rw [hlisting, hnone] at hturn
    exact hturn
  · intro server hsome
    have hturn := Load.run_all_of_vacant source hvacant (queries.list server)
    rw [hlisting, hsome] at hturn
    exact ⟨hturn.1, hturn.2.1, hturn.2.2 result hresult⟩
  · intro server pending hsome
    exact Load.run_asked source (by rw [queries.listing?, hsome]) hresult

/-- A vacant cache is filled with the first object of each key. -/
theorem ends_load_of_ok (hrun : RunsLoads monitor source remote lines place part run)
    (queries : Queries remote read) (hvacant : cache.Vacant) {records : List ρ}
    (hread : read document = .ok records) (make : ρ → α) (key : ρ → Key)
    (hmake : source.construct = some ∘ make) (hkey : cache.objectKey source ∘ make = key) :
    Ends document run place (fun part' result => ∃ c : Cache α, part' = part c ∧
        result = .ok (.objects c.snapshot.entries) ∧
        c.Holds (fun _ object record => object = make record) (Cache.firstOfEach key records)) 2 now
      (part cache) (run · { request := .all }) := by
  obtain ⟨hresult, hholds⟩ := hvacant.read_ok source records
  rw [← hread] at hresult hholds
  refine (ends_load hrun queries hvacant hresult).mono (Nat.le_refl 2) ?_
  rintro _ _ ⟨rfl, rfl⟩
  exact ⟨_, rfl, rfl, hholds.of_construct hmake hkey⟩

/-- If the server answers with an error, the load fails. -/
theorem ends_load_of_error (hrun : RunsLoads monitor source remote lines place part run)
    (queries : Queries remote read) (hvacant : cache.Vacant) {error : ConnectionError}
    (hread : read document = .error error) :
    Ends document run place (fun _ result => result = .error (.remoteFetch cache.name error)) 2 now
      (part cache) (run · { request := .all }) :=
  (ends_load hrun queries hvacant (hread ▸ cache.read_error source error)).mono (Nat.le_refl 2)
    fun _ _ h => h.2

end Load

end Context

section Siblings

variable {τ α β : Type} {W W' : τ → α → β → Prop} {Q : α → β → Prop} {target : τ → Ref}
  {c c' : Cache α} {tasks : List τ} {refs : List Ref} {records : List β}

/-- Each record of a list has an instance of the cache, and is dealt with, or there is a task that
will see to it. The tasks stand in the order of the instances. -/
inductive Siblings (W : τ → α → β → Prop) (Q : α → β → Prop) (target : τ → Ref) (c : Cache α) :
    List τ → List Ref → List β → Prop
  | nil : Siblings W Q target c [] [] []
  | done {ref : Ref} {object : α} {record : β} {tasks : List τ} {refs : List Ref}
      {records : List β} : c.object? ref = some object → Q object record →
      Siblings W Q target c tasks refs records →
      Siblings W Q target c tasks (ref :: refs) (record :: records)
  | pending {task : τ} {ref : Ref} {object : α} {record : β} {tasks : List τ} {refs : List Ref}
      {records : List β} : target task = ref → c.object? ref = some object → W task object record →
      Siblings W Q target c tasks refs records →
      Siblings W Q target c (task :: tasks) (ref :: refs) (record :: records)

namespace Siblings

/-- Only the instances of the list matter. -/
theorem congr (h : Siblings W Q target c tasks refs records)
    (hobjects : ∀ ref ∈ refs, c'.object? ref = c.object? ref) :
    Siblings W Q target c' tasks refs records := by
  induction h with
  | nil => exact .nil
  | done hobject hQ _ ih =>
    have hrest := List.forall_mem_cons.1 hobjects
    exact .done (hrest.1.trans hobject) hQ (ih hrest.2)
  | pending htarget hobject hW _ ih =>
    have hrest := List.forall_mem_cons.1 hobjects
    exact .pending htarget (hrest.1.trans hobject) hW (ih hrest.2)

/-- To begin with, there is a task for each instance. -/
theorem of_holds {walk : Ref → τ} {P : α → β → Prop} (h : c.Holds (fun _ => P) records)
    (htarget : ∀ ref, target (walk ref) = ref)
    (hW : ∀ ref object record, record ∈ records → P object record → W (walk ref) object record) :
    Siblings W Q target c (c.snapshot.entries.map walk) c.snapshot.entries records := by
  have hstands := h.stands
  clear h
  generalize c.snapshot.entries = refs at hstands
  induction hstands with
  | nil => exact .nil
  | @cons ref record refs records hfirst _ ih =>
    obtain ⟨object, hobject, hP⟩ := hfirst
    exact .pending (htarget ref) hobject (hW ref object record List.mem_cons_self hP)
      (ih fun ref object other hmem => hW ref object other (List.mem_cons_of_mem record hmem))

/-- In the end, there are no tasks. -/
theorem holds (h : Siblings W Q target c [] c.snapshot.entries records)
    (hcomplete : c.snapshot.complete = true) (hnodup : c.snapshot.entries.Nodup) :
    c.Holds (fun _ => Q) records := by
  refine ⟨hcomplete, hnodup, ?_⟩
  clear hcomplete hnodup
  generalize c.snapshot.entries = refs at h
  generalize hnone : ([] : List τ) = tasks at h
  induction h with
  | nil => exact .nil
  | done hobject hQ _ ih => exact .cons ⟨_, hobject, hQ⟩ (ih hnone)
  | pending => cases hnone

theorem exists_pending {task : τ} (h : Siblings W Q target c (task :: tasks) refs records) :
    ∃ object record, W task object record := by
  generalize hcons : task :: tasks = all at h
  induction h with
  | nil => cases hcons
  | done _ _ _ ih => exact ih hcons
  | pending _ _ hW _ =>
    cases hcons
    exact ⟨_, _, hW⟩

end Siblings

end Siblings

namespace Context

section Siblings

variable {τ σ α β : Type} {run : Context → τ → Context × Poll τ WalkResult} {target : τ → Ref}
  {place : Place DataSource (Cache α)} {Q : α → β → Prop} {document : Document} {n now : Nat}
  {c : Cache α} {tasks : List τ} {refs : List Ref} {records : List β} {ctx : Context}

/-- A task deals with its own instance of a cache within so many runs. -/
def Deals (document : Document) (run : Context → τ → Context × Poll τ WalkResult)
    (target : τ → Ref) (place : Place DataSource (Cache α)) (Q : α → β → Prop) (n now : Nat)
    (task : τ) (object : α) (record : β) : Prop :=
  Ends document run (place.trans (.object (target task)))
    (fun object result => result = .ok () ∧ Q object record) n now object (run · task)

/-- When all siblings run once, each comes closer to its end. -/
theorem runEach_siblings
    (htarget : ∀ ctx task ctx' task', run ctx task = (ctx', .waiting task') →
      target task' = target task)
    (h : Siblings (Deals document run target place Q (n + 1) now) Q target c tasks refs records)
    (hnodup : refs.Nodup) (hready : ctx.Ready document now)
    (hget : place.get? ctx.source = some c) :
    ∃ ctx' c' rest, runEach run ctx tasks = (ctx', rest, none) ∧ ctx'.Ready document now ∧
      ctx'.source = place.put ctx.source c' ∧ c'.snapshot = c.snapshot ∧
      (∀ ref ∉ refs, c'.object? ref = c.object? ref) ∧
      Siblings (Deals document run target place Q n (now + document.wait)) Q target c' rest refs
        records := by
  induction refs generalizing ctx c tasks records with
  | nil =>
    cases h
    exact ⟨ctx, c, [], rfl, hready, (place.put_get? hget).symm, rfl, fun _ _ => rfl, .nil⟩
  | cons ref refs ih =>
    obtain ⟨hnew, hrefs⟩ := List.nodup_cons.1 hnodup
    cases h with
    | done hobject hQ hothers =>
      obtain ⟨ctx', c', rest, hruns, hready', hsource, hsnapshot, hframe, hrest⟩ :=
        ih hothers hrefs hready hget
      refine ⟨ctx', c', rest, hruns, hready', hsource, hsnapshot,
        fun other hother => hframe other fun hmem => hother (List.mem_cons_of_mem _ hmem), ?_⟩
      exact .done ((hframe ref hnew).trans hobject) hQ hrest
    | @pending task _ object record tasks _ records htask hobject hdeals hothers =>
      subst htask
      obtain ⟨ctx₁, object₁, out, hrun, hready₁, hsource₁, hout⟩ :=
        hdeals ctx hready ((place.trans_get? hget).trans hobject)
      rw [place.trans_put hget] at hsource₁
      -- the instances of the other siblings are as they were
      have hothers₁ : ∀ ref ∈ refs,
          (c.modifyObject (target task) fun _ => object₁).object? ref = c.object? ref :=
        fun ref href => c.object?_modifyObject_of_ne (ne_of_mem_of_not_mem href hnew) _
      obtain ⟨ctx', c', rest, hruns, hready', hsource, hsnapshot, hframe, hrest⟩ :=
        ih (hothers.congr hothers₁) hrefs hready₁ (hsource₁ ▸ place.get?_put hget _)
      have hobject' : c'.object? (target task) = some object₁ :=
        (hframe _ hnew).trans (Cache.object?_modifyObject_self _ hobject)
      have hsource' : ctx'.source = place.put ctx.source c' := by
        rw [hsource, hsource₁, place.put_put]
      have hframe' : ∀ ref ∉ target task :: refs, c'.object? ref = c.object? ref := by
        intro other hother
        obtain ⟨hne, hmem⟩ := not_or.1 fun h => hother (List.mem_cons.2 h)
        exact (hframe other hmem).trans (c.object?_modifyObject_of_ne hne _)
      cases out with
      | finished result =>
        obtain ⟨rfl, hQ⟩ := hout
        exact ⟨ctx', c', rest, by simp only [runEach, hrun, hruns], hready', hsource', hsnapshot,
          hframe', .done hobject' hQ hrest⟩
      | waiting task' =>
        have hsame := htarget _ _ _ _ hrun
        refine ⟨ctx', c', task' :: rest, by simp only [runEach, hrun, hruns], hready', hsource',
          hsnapshot, hframe', .pending hsame hobject' ?_ hrest⟩
        rw [Deals, hsame]
        exact hout

/-- Siblings that run once have all finished, or some of them wait. -/
theorem runSiblings_once {state : List τ → σ} (abandon : Context → τ → Context)
    (htarget : ∀ ctx task ctx' task', run ctx task = (ctx', .waiting task') →
      target task' = target task)
    (h : Siblings (Deals document run target place Q (n + 1) now) Q target c tasks
      c.snapshot.entries records)
    (hcomplete : c.snapshot.complete = true) (hnodup : c.snapshot.entries.Nodup)
    (hready : ctx.Ready document now) (hget : place.get? ctx.source = some c) :
    ∃ ctx' c' out, ctx.runSiblings run abandon state tasks = (ctx', out) ∧
      ctx'.Ready document now ∧ ctx'.source = place.put ctx.source c' ∧
      c'.snapshot = c.snapshot ∧
      ((out = .finished (.ok ()) ∧ c'.Holds (fun _ => Q) records) ∨
        ∃ task rest, out = .waiting (state (task :: rest)) ∧
          Siblings (Deals document run target place Q n (now + document.wait)) Q target c'
            (task :: rest) c'.snapshot.entries records) := by
  obtain ⟨ctx', c', rest, hruns, hready', hsource, hsnapshot, -, hrest⟩ :=
    runEach_siblings htarget h hnodup hready hget
  rw [← hsnapshot] at hcomplete hnodup hrest
  cases rest with
  | nil =>
    exact ⟨ctx', c', _, by rw [runSiblings, hruns], hready', hsource, hsnapshot,
      .inl ⟨rfl, hrest.holds hcomplete hnodup⟩⟩
  | cons task rest =>
    exact ⟨ctx', c', _, by rw [runSiblings, hruns], hready', hsource, hsnapshot,
      .inr ⟨task, rest, rfl, hrest⟩⟩

/-- Siblings that each deal with their own instance within so many runs deal with the whole
collection in as many. -/
theorem ends_siblings {runAll : Context → σ → Context × Poll σ WalkResult} {state : List τ → σ}
    {abandon : Context → τ → Context}
    (hrunAll : ∀ ctx tasks, runAll ctx (state tasks) = ctx.runSiblings run abandon state tasks)
    (htarget : ∀ ctx task ctx' task', run ctx task = (ctx', .waiting task') →
      target task' = target task)
    (h : Siblings (Deals document run target place Q (n + 1) now) Q target c tasks
      c.snapshot.entries records)
    (hcomplete : c.snapshot.complete = true) (hnodup : c.snapshot.entries.Nodup) :
    Ends document runAll place (fun c result => result = .ok () ∧ c.Holds (fun _ => Q) records)
      (n + 1) now c (runAll · (state tasks)) := by
  induction n generalizing now c tasks with
  | zero =>
    intro ctx hready hget
    obtain ⟨ctx', c', out, hruns, hready', hsource, -, ⟨rfl, hholds⟩ | ⟨task, rest, rfl, hrest⟩⟩ :=
      runSiblings_once abandon htarget h hcomplete hnodup hready hget
    · exact ⟨ctx', c', _, (hrunAll ctx tasks).trans hruns, hready', hsource, rfl, hholds⟩
    · obtain ⟨object, record, hnever⟩ := hrest.exists_pending
      exact hnever.elim
  | succ n ih =>
    intro ctx hready hget
    obtain ⟨ctx', c', out, hruns, hready', hsource, hsnapshot,
        ⟨rfl, hholds⟩ | ⟨task, rest, rfl, hrest⟩⟩ :=
      runSiblings_once abandon htarget h hcomplete hnodup hready hget
    · exact ⟨ctx', c', _, (hrunAll ctx tasks).trans hruns, hready', hsource, rfl, hholds⟩
    · rw [← hsnapshot] at hcomplete hnodup
      exact ⟨ctx', c', _, (hrunAll ctx tasks).trans hruns, hready', hsource,
        ih hrest hcomplete hnodup⟩

end Siblings

end Context

end CatalogBrowser
