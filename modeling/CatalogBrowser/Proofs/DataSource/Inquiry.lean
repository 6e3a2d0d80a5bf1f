import CatalogBrowser.Proofs.DataSource.Attempt
import CatalogBrowser.Proofs.DataSource.Attendance
import CatalogBrowser.Proofs.DataSource.Lookup

/-!
# Asking for a setting again

A setting that was looked up on the server is cached under its own name in lower case. The server
finds it up to the case of ASCII letters, and such names have the same lower case. So whoever is
given a setting finds it again in memory, under the name that was asked for and under its own, in
any case of their ASCII letters.

## Main definitions

* `Cache.Remote.FindsOnly` - whatever is found has the key that was asked for.
* `Cache.Load.Pursues`, `Cache.Load.Secures` - a load that leads the lookup of one object, and a
  turn in which nothing is given that is not cached.
* `Session.Faithful` - the sessions in which settings keep their names.
* `Session.askSetting` - asking for a setting.
* `Session.Spares` - the others leave what is cached in place while a task is under way.

## Main statements

* `Cache.Load.secures_sought`, `Cache.Load.Pursues.secures` - what such a load is given is cached.
* `Session.Seeks.acts` - so it is for a task that asked for a setting, whatever happens meanwhile.
* `Session.getSetting_again` - a setting that was found is found again in memory.
-/

namespace CatalogBrowser

open Cache (Load)

namespace Cache

variable {ω κ ρ α : Type} {source : Source ρ α} {remote : Remote ω κ ρ} {identity : Identity}
  {query : κ} {c c' : Cache α} {load : Load κ} {lead : LookupLead}

/-- Whatever the remote side finds for a query has the key of an identity. -/
def Remote.FindsOnly (remote : Remote ω κ ρ) (source : Source ρ α) (policy : KeyPolicy)
    (identity : Identity) (query : κ) : Prop :=
  ∀ world record object, remote.found? world query = some (.ok (some record)) →
    source.construct record = some object →
    policy.key (source.identity object) = policy.key identity

theorem config_acceptLookup (source : Source ρ α) (c : Cache α) (lead : LookupLead)
    (answer : Except ConnectionError (Option ρ)) :
    (c.acceptLookup source lead answer).cache.config = c.config := by
  let call : Call := ⟨0, ⟨0, [], 0⟩, .all, .lookingUp lead⟩
  have hstage : call.stage = .lookingUp lead := rfl
  exact (turned_acceptLookup source c hstage answer).grown.config

section Turn

variable (hindexed : c.Indexed source) (hpartial : c.snapshot.complete = false)
  (hcurrent : c.generation = lead.generation)
include hindexed hpartial hcurrent

/-- What a lookup found is cached under its key. -/
theorem find?_commitLookup (object : α) :
    (c.commitLookup source lead object).2.1.snapshot.find? (c.objectKey source object) =
      some (c.commitLookup source lead object).1 := by
  cases hfind : c.snapshot.find? (c.objectKey source object) with
  | some existing =>
    simp only [commitLookup, hfind]
  | none =>
    -- no instance that was cached has the key of the new one, which is stored behind them
    have hview := indexed_snapshotOf c false (hindexed.distinct_append hfind)
    simp only [commitLookup, hfind, hcurrent, hpartial, ne_eq, not_true_eq_false, if_false,
      Bool.false_eq_true]
    refine hview.find?_eq_some_iff.2 ⟨List.mem_append_right _ (List.mem_singleton_self _), ?_⟩
    rw [keyAt, Array.getElem?_push_size, Option.map_some]

/-- What a lookup delivers is cached under the key that was asked for, if an object with that key
was found. -/
theorem cachedObject?_acceptLookup {answer : Except ConnectionError (Option ρ)}
    (hanswer : ∀ record object, answer = .ok (some record) → source.construct record = some object →
      c.objectKey source object = c.key identity) {ref : Ref}
    (hfound : (c.acceptLookup source lead answer).progress = .finished (.ok (.object (some ref)))) :
    (c.acceptLookup source lead answer).cache.cachedObject? identity = some ref := by
  cases answer with
  | error error => cases hfound
  | ok record =>
    cases hobject : record.bind source.construct with
    | none =>
      rw [acceptLookup_progress, delivered, hobject] at hfound
      cases hfound
    | some object =>
      obtain ⟨row, rfl, hmade⟩ := Option.bind_eq_some_iff.1 hobject
      have hkey : c.objectKey source object = c.key identity := hanswer row object rfl hmade
      have hconfig := config_acceptLookup source c lead (.ok (some row))
      rw [cachedObject?, Cache.key, hconfig]
      simp only [acceptLookup, hobject] at hfound ⊢
      have hgiven : ((c.releaseLookup lead.key).commitLookup source lead object).1 = ref :=
        Option.some.inj (Reply.object.inj (Except.ok.inj (Progress.finished.inj hfound)))
      have hcached := find?_commitLookup (c := c.releaseLookup lead.key) hindexed hpartial hcurrent
        object
      rw [hgiven] at hcached
      rw [← hcached]
      exact congrArg _ hkey.symm

end Turn

namespace Load

/-- A load that leads the lookup of one object in a cache that will keep what is found. -/
inductive Pursues (source : Source ρ α) (remote : Remote ω κ ρ) (identity : Identity)
    (c : Cache α) : Load κ → Prop
  | leads {lead : LookupLead} {query : κ} : c.snapshot.complete = false →
      c.generation = lead.generation →
      remote.FindsOnly source c.config.keyPolicy identity query →
      Pursues source remote identity c (inquiring identity lead query)

/-- In a turn, a load is given nothing but what is cached under an identity, or it leads the lookup
of that. -/
def Secures (source : Source ρ α) (remote : Remote ω κ ρ) (identity : Identity)
    (turn : LoadTurn ω κ α) : Prop :=
  turn.poll.Meets
    (fun result => ∀ ref, result = .ok (.object (some ref)) →
      turn.cache.cachedObject? identity = some ref)
    (·.Pursues source remote identity turn.cache)

theorem secures_of_failed {turn : LoadTurn ω κ α} {error : CacheError}
    (h : turn.poll = .finished (.error error)) : Secures source remote identity turn := by
  rw [Secures, h]
  exact nofun

section Run

variable (hindexed : c.Indexed source)
include hindexed

/-- A load that asked for one object still waits, or takes the answer. -/
theorem secures_of_asked (hpartial : c.snapshot.complete = false)
    (hcurrent : c.generation = lead.generation)
    (hfinds : remote.FindsOnly source c.config.keyPolicy identity query) {world : ω}
    {turn : LoadTurn ω κ α}
    (h : (remote.found? world query = none ∧ turn.cache = c ∧
        turn.poll = .waiting (inquiring identity lead query)) ∨
      ∃ answer result, remote.found? world query = some answer ∧
        (c.acceptLookup source lead answer).progress = .finished result ∧
        turn.cache = (c.acceptLookup source lead answer).cache ∧
        turn.poll = .finished result) : Secures source remote identity turn := by
  rcases h with ⟨-, hcache, hwaits⟩ | ⟨answer, result, hanswer, hresult, hcache, hends⟩
  · rw [Secures, hwaits, hcache]
    exact .leads hpartial hcurrent hfinds
  · rw [Secures, hends, hcache]
    rintro ref rfl
    refine cachedObject?_acceptLookup hindexed hpartial hcurrent ?_ hresult
    rintro record object rfl hobject
    exact hfinds world record object hanswer hobject

theorem Pursues.secures (h : load.Pursues source remote identity c) (world : ω)
    (cancelled : Bool) :
    Secures source remote identity (load.run source remote world c cancelled) := by
  cases h with
  | @leads lead query hpartial hcurrent hfinds =>
    set load : Load κ := inquiring identity lead query
    cases cancelled with
    | true =>
      have hquits : (c.poll load.request load.stage true).progress =
          .finished (.error .cancelled) := rfl
      exact secures_of_failed (run_of_finished _ hquits).2.2
    | false =>
      have hwaits : (c.poll load.request load.stage false).progress =
          .waiting (.lookingUp lead) := rfl
      have hask : Load.ask remote world load = (world, load) := rfl
      exact secures_of_asked hindexed hpartial hcurrent hfinds
        (run_of_inquiring source load hwaits hask).2

/-- A load of one object that finds nobody at work is served from memory, or leads the lookup. -/
theorem secures_sought (hpartial : c.snapshot.complete = false) (hfetch : c.fetch = none)
    (hlookups : c.lookups = [])
    (hfinds : ∀ world, remote.FindsOnly source c.config.keyPolicy identity
      (remote.lookup world identity).2) (world : ω) (cancelled : Bool) :
    Secures source remote identity
      (Load.run source remote world c (sought identity) cancelled) := by
  cases hcached : c.cachedObject? identity with
  | some ref =>
    obtain ⟨-, hcache, hends⟩ := run_sought_of_cached source remote world hcached cancelled
    rw [Secures, hends, hcache]
    rintro ref' hsame
    rw [hcached]
    exact Reply.object.inj (Except.ok.inj hsame)
  | none =>
    cases cancelled with
    | true =>
      have hfree : c.lookups.lookup (c.key identity) = none := by rw [hlookups]; rfl
      have hquits : (c.poll (.one identity) .start true).progress =
          .finished (.error .cancelled) := by
        rw [poll_sought_of_free hcached hpartial hfetch hlookups, leadLookup_true identity hfree]
      have hends : (Load.run source remote world c (sought identity) true).poll =
          .finished (.error .cancelled) := (run_of_finished _ hquits).2.2
      exact secures_of_failed hends
    | false =>
      have hasked : (c.withLookup identity).Indexed source := hindexed
      have hcurrent : (c.withLookup identity).generation = (c.nextLookup identity).generation := rfl
      exact secures_of_asked hasked hpartial hcurrent (hfinds world)
        (run_sought_of_free source hcached hpartial hfetch hlookups rfl).2

end Run

end Load

/-- A cache in which nothing that was cached is lost, and which did not start over. -/
structure Extends (c c' : Cache α) : Prop where
  config : c'.config = c.config
  generation : c'.generation = c.generation
  complete : c'.snapshot.complete = c.snapshot.complete
  find? : ∀ key ref, c.snapshot.find? key = some ref → c'.snapshot.find? key = some ref

theorem extends_of_snapshot (hconfig : c'.config = c.config)
    (hgeneration : c'.generation = c.generation) (hsnapshot : c'.snapshot = c.snapshot) :
    c.Extends c' :=
  ⟨hconfig, hgeneration, congrArg _ hsnapshot, fun _ _ => hsnapshot ▸ id⟩

theorem Extends.of_eq (h : c' = c) : c.Extends c' := by
  subst h
  exact extends_of_snapshot rfl rfl rfl

theorem Extends.cachedObject? (h : c.Extends c') {ref : Ref}
    (hcached : c.cachedObject? identity = some ref) : c'.cachedObject? identity = some ref := by
  rw [Cache.cachedObject?, Cache.key, h.config]
  exact h.find? _ ref hcached

theorem Load.Pursues.extends (h : load.Pursues source remote identity c)
    (hextends : c.Extends c') : load.Pursues source remote identity c' := by
  cases h with
  | leads hpartial hcurrent hfinds =>
    refine .leads (hextends.complete.trans hpartial) (hextends.generation.trans hcurrent) ?_
    rw [hextends.config]
    exact hfinds

end Cache

namespace Setting

variable {settings settings' : Cache Setting} {name : String}

/-- The server compares names up to the case of ASCII letters, and names that agree in this way are
folded to the same. -/
theorem findsOnly (name : String) (server : Server) :
    remote.FindsOnly source .lowercase (.name name) (remote.lookup server (.name name)).2 := by
  intro world record object hfound hobject
  have hanswer : world.answer? server.ask.2 (fun document => .ok (document.setting? name)) =
      some (.ok (some record)) := hfound
  rcases Server.of_answer? hanswer with hread | ⟨-, error, herror⟩
  · have hrow : world.document.setting? name = some record := (Except.ok.inj hread).symm
    have hname : record.name.toLower = name.toLower := by simpa using List.find?_some hrow
    obtain rfl := Option.some.inj hobject
    exact congrArg Key.name (Text.lowercase_congr hname)
  · cases herror

/-- The settings are found by their names, in any case of the letters. -/
structure Named (settings : Cache Setting) : Prop where
  config : settings.config = supply.config
  indexed : settings.Indexed source

/-- An edit that gives no setting another name. -/
def KeepsNames : Cache.Edit Setting → Prop
  | .reconcile merge _ => ∀ existing fresh, (merge existing fresh).name = existing.name
  | .change _ f => ∀ setting, (f setting).name = setting.name
  | _ => True

theorem Named.of_eq (h : Named settings) (hsame : settings' = settings) : Named settings' :=
  hsame ▸ h

theorem Named.ran (h : Named settings) {load : Load Query} {stage? : Option Cache.Stage}
    (hran : Load.Ran source settings load settings' stage?) : Named settings' where
  config := hran.descends.config.trans h.config
  indexed := hran.indexed h.indexed (keepsKeys_merge settings)

theorem Named.edit (h : Named settings) {edit : Cache.Edit Setting} (hedit : KeepsNames edit) :
    Named (edit.apply source settings).2.1 where
  config := (Cache.sameFlights_edit source settings edit).config.trans h.config
  indexed := by
    have hkeeps : Cache.KeepsIdentity source { cache := settings } (.edit edit) := by
      cases edit with
      | reconcile merge fresh =>
        intro existing given _
        exact congrArg (fun name => settings.key (.name name)) (hedit existing given)
      | change ref f =>
        intro _ setting _
        exact congrArg (fun name => settings.key (.name name)) (hedit setting)
      | set | clear | insert | remove | sort => trivial
    exact Cache.indexed_edit h.indexed hkeeps

/-- What is cached under a name is a setting whose name is folded to the same. -/
theorem Named.exists_of_cached (h : Named settings) {ref : Ref}
    (hcached : settings.cachedObject? (.name name) = some ref) :
    ∃ setting, settings.object? ref = some setting ∧
      Text.lowercase setting.name = Text.lowercase name := by
  obtain ⟨-, hkey⟩ := (Cache.Snapshot.Indexed.find?_eq_some_iff h.indexed).1 hcached
  obtain ⟨setting, hsetting, hsame⟩ := Cache.keyAt_eq_some_iff.1 hkey
  refine ⟨setting, hsetting, ?_⟩
  simpa [Cache.objectKey, Cache.key, h.config, supply, source, KeyPolicy.fold] using hsame

/-- Names that are folded to the same find the same. -/
theorem Named.cachedObject?_congr (h : Named settings) {name' : String}
    (hname : Text.lowercase name' = Text.lowercase name) :
    settings.cachedObject? (.name name') = settings.cachedObject? (.name name) := by
  have hkey : settings.key (.name name') = settings.key (.name name) := by
    simp [Cache.key, h.config, supply, KeyPolicy.fold, hname]
  rw [Cache.cachedObject?, Cache.cachedObject?, hkey]

theorem Named.attends (h : Named settings) {cancelled : Bool} {routine : Routine}
    {left : Option (Load Query)} (hattends : routine.Attends settings cancelled settings' left) :
    Named settings' := by
  cases hattends with
  | apart => exact h
  | clears =>
    have hclear : KeepsNames .clear := trivial
    exact h.edit hclear
  | runs server => exact h.ran (Load.ran_run ..)

end Setting

namespace Session

variable {s : Session} {action : Action} {actions : List Action}

/-- A proper action that gives no setting another name. -/
def Action.Faithful (action : Action) : Prop :=
  action.Proper ∧ ∀ edit, action = .editSettings edit → Setting.KeepsNames edit

/-- Some faithful actions lead to this session from one on a new data source. -/
def Faithful (s : Session) : Prop :=
  ∃ connection server actions, (∀ action ∈ actions, Action.Faithful action) ∧
    (opened connection server).acts actions = s

theorem Faithful.reachable (h : s.Faithful) : s.Reachable := by
  obtain ⟨connection, server, actions, hactions, rfl⟩ := h
  exact ⟨connection, server, actions, fun action haction => (hactions action haction).1, rfl⟩

theorem Faithful.acts (h : s.Faithful) (hactions : ∀ action ∈ actions, Action.Faithful action) :
    (s.acts actions).Faithful := by
  obtain ⟨connection, server, before, hbefore, rfl⟩ := h
  exact ⟨connection, server, before ++ actions, List.forall_mem_append.2 ⟨hbefore, hactions⟩,
    acts_append _ before actions⟩

theorem settings_poll (s : Session) (task : Task) : (s.poll task).source.settings =
    (s.context.run task.monitor task.routine).1.source.settings := by
  rw [poll]
  rcases s.context.run task.monitor task.routine with ⟨context, routine | result⟩ <;> rfl

theorem named_act (h : Setting.Named s.source.settings) (haction : action.Faithful) :
    Setting.Named (s.act action).source.settings := by
  cases action with
  | poll id =>
    rw [act]
    cases s.task? id with
    | none => exact h
    | some task =>
      rw [Option.elim_some, settings_poll]
      exact h.attends (s.context.attendsTo_run task.monitor task.routine)
  | drop id =>
    rw [act]
    cases s.task? id with
    | none => exact h
    | some task =>
      have hsettings : (s.drop task).source.settings = _ := s.context.settings_abandon task.routine
      rw [Option.elim_some, hsettings]
      cases task.routine.setting? with
      | none => exact h
      | some load => exact h.ran (Load.ran_abandon Setting.source s.source.settings load)
  | editSettings edit => exact h.edit (haction.2 edit rfl)
  | start | cancel | adopt | serve | activate | editDatabases | editSchemas | editTables =>
    exact h.of_eq (s.settings_act id)

theorem named_acts (h : Setting.Named s.source.settings)
    (hactions : ∀ action ∈ actions, Action.Faithful action) :
    Setting.Named (s.acts actions).source.settings := by
  induction actions generalizing s with
  | nil => exact h
  | cons action rest ih =>
    obtain ⟨haction, hrest⟩ := List.forall_mem_cons.1 hactions
    exact ih (named_act h haction) hrest

/-- In every faithful session, the settings are found by their names. -/
theorem Faithful.named (h : s.Faithful) : Setting.Named s.source.settings := by
  obtain ⟨connection, server, actions, hactions, rfl⟩ := h
  exact named_acts ⟨rfl, Cache.indexed_empty _ _⟩ hactions

end Session

/-- A task that leads the lookup of the setting of a name. -/
def Routine.Seeks (name : String) (settings : Cache Setting) (routine : Routine) : Prop :=
  ∃ load, routine = .settings load ∧
    load.Pursues Setting.source Setting.remote (.name name) settings

/-- If a result gives a setting, it is the one that is cached under a name. -/
def Routine.Recalled (name : String) (settings : Cache Setting) (result : Routine.Result) : Prop :=
  ∀ ref, result = .ok (.settings (.object (some ref))) →
    settings.cachedObject? (.name name) = some ref

namespace Context

variable {ctx : Context} {monitor : Monitor} {load : Load Setting.Query} {name : String}

/-- What becomes of a task that reads the settings. -/
theorem run_settings (ctx : Context) (monitor : Monitor) (load : Load Setting.Query) :
    let turn := load.run Setting.source Setting.remote ctx.server ctx.source.settings
      (ctx.isCancelled monitor)
    let out := ctx.run monitor (.settings load)
    out.1.server = turn.world ∧ out.1.source = { ctx.source with settings := turn.cache } ∧
      out.2 = match turn.poll with
        | .waiting load => .waiting (.settings load)
        | .finished result => .finished (answered .settings result) := by
  intro turn out
  have hout : out = follow (ctx.runSettings monitor load) .settings .settings := rfl
  rw [hout, follow_context]
  refine ⟨rfl, rfl, ?_⟩
  have hpoll : (ctx.runSettings monitor load).2 = turn.poll := rfl
  rw [← hpoll]
  rcases ctx.runSettings monitor load with ⟨ctx', load' | (error | reply)⟩ <;> rfl

/-- What a task that leads a lookup is given is cached. -/
theorem recalled_run (h : Load.Secures Setting.source Setting.remote (.name name)
      (load.run Setting.source Setting.remote ctx.server ctx.source.settings
        (ctx.isCancelled monitor))) :
    let out := ctx.run monitor (.settings load)
    out.2.Meets (Routine.Recalled name out.1.source.settings)
      (Routine.Seeks name out.1.source.settings) := by
  intro out
  obtain ⟨-, hsource, hpoll⟩ := ctx.run_settings monitor load
  rw [hsource, hpoll]
  rw [Load.Secures] at h
  generalize load.run Setting.source Setting.remote ctx.server ctx.source.settings
    (ctx.isCancelled monitor) = turn at h
  obtain ⟨world, settings, load' | (error | reply), events⟩ := turn
  · exact ⟨load', rfl, h⟩
  · exact nofun
  · intro ref hgiven
    have hreply : reply = .object (some ref) := Answer.settings.inj (Except.ok.inj hgiven)
    exact h ref (congrArg Except.ok hreply)

/-- Who asks for what is cached is given it at once, without a query. -/
theorem run_settings_of_cached {ref : Ref}
    (h : ctx.source.settings.cachedObject? (.name name) = some ref) (monitor : Monitor) :
    let out := ctx.run monitor (.settings (.sought (.name name)))
    out.1.server = ctx.server ∧ out.1.source = ctx.source ∧
      out.2 = .finished (.ok (.settings (.object (some ref)))) := by
  intro out
  obtain ⟨hworld, hcache, hends⟩ := Load.run_sought_of_cached Setting.source Setting.remote
    ctx.server h (ctx.isCancelled monitor)
  obtain ⟨hserver, hsource, hpoll⟩ := ctx.run_settings monitor (.sought (.name name))
  refine ⟨hserver.trans hworld, ?_, ?_⟩
  · rw [hsource, hcache]
  · rw [hpoll, hends]
    rfl

end Context

namespace Session

variable {s : Session} {action : Action} {actions : List Action} {task : Task} {id : Nat}
  {label name : String}

/-- Asks for a setting by name. -/
def askSetting (s : Session) (label name : String) (monitor : Option String) : Session :=
  s.acts [.start label (.settings (.sought (.name name))) monitor, .poll s.started]

/-- What is done while a task is under way, other than by the task itself, leaves in place what is
cached. -/
def Spares (s : Session) (id : Nat) : List Action → Prop
  | [] => True
  | action :: rest =>
    (action = .poll id ∨ s.source.settings.Extends (s.act action).source.settings) ∧
      (s.act action).Spares id rest

/-- The task of an id leads the lookup of the setting of a name, or what it was given is cached. -/
structure Seeks (s : Session) (id : Nat) (name : String) : Prop where
  begun : id < s.started
  pends : ∀ task ∈ s.tasks, task.id = id → task.routine.Seeks name s.source.settings ∧
    ∀ entry ∈ s.finished, entry.1 ≠ id
  given : ∀ entry ∈ s.finished, entry.1 = id →
    Routine.Recalled name s.source.settings entry.2.2

/-- A task that runs leads the lookup then, or what it is given is cached. -/
theorem seeks_poll (hbegun : task.id < s.started) (hnone : ∀ entry ∈ s.finished, entry.1 ≠ task.id)
    (h : (s.context.run task.monitor task.routine).2.Meets
      (Routine.Recalled name (s.context.run task.monitor task.routine).1.source.settings)
      (Routine.Seeks name (s.context.run task.monitor task.routine).1.source.settings)) :
    (s.poll task).Seeks task.id name := by
  rw [poll]
  rcases hout : s.context.run task.monitor task.routine with ⟨context, routine | result⟩
  · rw [hout] at h
    refine ⟨hbegun, fun other hother hid => ⟨?_, hnone⟩, fun entry hentry hid =>
      absurd hid (hnone entry hentry)⟩
    obtain ⟨old, -, rfl⟩ := List.mem_map.1 hother
    split at hid
    next hsame =>
      rw [if_pos hsame]
      exact h
    next hne => exact absurd hid hne
  · rw [hout] at h
    refine ⟨hbegun, fun other hother hid => ?_, fun entry hentry hid => ?_⟩
    · have hne := (List.mem_filter.1 hother).2
      exact absurd hid (by simpa using hne)
    · rcases List.mem_append.1 hentry with hold | hnew
      · exact absurd hid (hnone entry hold)
      · obtain rfl := List.mem_singleton.1 hnew
        exact h

theorem Seeks.poll (h : s.Seeks task.id name) (hnamed : Setting.Named s.source.settings)
    (hmem : task ∈ s.tasks) : (s.poll task).Seeks task.id name := by
  obtain ⟨⟨load, hroutine, hpursues⟩, hnone⟩ := h.pends task hmem rfl
  refine seeks_poll h.begun hnone ?_
  rw [hroutine]
  exact Context.recalled_run (hpursues.secures hnamed.indexed _ _)

/-- What others do keeps what was given in the cache, and the lookup current. -/
theorem Seeks.aside (h : s.Seeks id name) (hs : s.Regular) (hother : action ≠ .poll id)
    (hextends : s.source.settings.Extends (s.act action).source.settings) :
    (s.act action).Seeks id name := by
  -- the task neither begins nor runs here, so it ends only if it had ended before
  have hold : ∀ entry ∈ (s.act action).finished, entry.1 = id → entry ∈ s.finished := by
    rintro ⟨id', label, result⟩ hentry rfl
    refine (exists_run_of_mem_finished hentry).resolve_right ?_
    rintro ⟨task, -, -, hpolls, -⟩
    exact hother hpolls
  refine ⟨Nat.lt_of_lt_of_le h.begun (s.started_le_act action), fun task htask hid => ?_,
    fun entry hentry hid ref hgiven => ?_⟩
  · cases stems_of_mem_tasks hs htask with
    | stays hstays =>
      obtain ⟨⟨load, hroutine, hpursues⟩, hnone⟩ := h.pends task hstays hid
      exact ⟨⟨load, hroutine, hpursues.extends hextends⟩, fun entry hentry hsame =>
        hnone entry (hold entry hentry hsame) hsame⟩
    | begins _ hnew => exact absurd h.begun (by omega)
    | @waits old _ hpolls _ hsame =>
      have hid' : old.id = id := by rw [← hid, hsame]
      exact absurd (hid' ▸ hpolls) hother
  · exact hextends.cachedObject? (h.given entry (hold entry hentry hid) hid ref hgiven)

theorem Seeks.act (h : s.Seeks id name) (hs : s.Faithful)
    (hspares : action = .poll id ∨
      s.source.settings.Extends (s.act action).source.settings) :
    (s.act action).Seeks id name := by
  by_cases hpoll : action = .poll id
  · subst hpoll
    rw [Session.act]
    cases htask : s.task? id with
    | none => exact h
    | some task =>
      obtain ⟨hmem, rfl⟩ := task?_eq_some htask
      exact h.poll hs.named hmem
  · exact h.aside hs.reachable.regular hpoll (hspares.resolve_left hpoll)

theorem Seeks.acts (h : s.Seeks id name) (hs : s.Faithful)
    (hactions : ∀ action ∈ actions, Action.Faithful action) (hspares : s.Spares id actions) :
    (s.acts actions).Seeks id name := by
  induction actions generalizing s with
  | nil => exact h
  | cons action rest ih =>
    obtain ⟨haction, hrest⟩ := List.forall_mem_cons.1 hactions
    obtain ⟨hfirst, hlater⟩ := hspares
    exact ih (h.act hs hfirst) (hs.acts (List.forall_mem_singleton.2 haction)) hrest hlater

/-- Whoever asks for a setting where nothing is under way is served from memory or leads the
lookup. -/
theorem Faithful.seeks_askSetting (hs : s.Faithful)
    (hpartial : s.source.settings.isFullyCached = false) (hfetch : s.source.settings.fetch = none)
    (hlookups : s.source.settings.lookups = []) (label name : String) (monitor : Option String) :
    (s.askSetting label name monitor).Seeks s.started name := by
  obtain ⟨begun, own, hsource, -, hfinished, hstarted, -, hpolls⟩ :=
    hs.reachable.regular.exists_begun label (.settings (.sought (.name name))) monitor
  have hnamed : Setting.Named begun.source.settings := hsource ▸ hs.named
  have hfinds : ∀ server, Setting.remote.FindsOnly Setting.source
      begun.source.settings.config.keyPolicy (.name name)
      (Setting.remote.lookup server (.name name)).2 := by
    rw [hnamed.config]
    exact Setting.findsOnly name
  rw [askSetting, hpolls]
  refine seeks_poll ?_ ?_ ?_
  · rw [hstarted]
    exact Nat.lt_succ_self _
  · rw [hfinished]
    exact fun entry hentry => Nat.ne_of_lt (hs.reachable.lt_of_mem_finished entry hentry)
  · rw [← hsource] at hpartial hfetch hlookups
    exact Context.recalled_run (Load.secures_sought hnamed.indexed hpartial hfetch hlookups hfinds
      begun.context.server (begun.context.isCancelled own))

/-- Whoever asks for a setting that is cached is given it without a query. -/
theorem Regular.askSetting_of_cached (h : s.Regular) {ref : Ref}
    (hcached : s.source.settings.cachedObject? (.name name) = some ref) (label : String)
    (monitor : Option String) :
    let again := s.askSetting label name monitor
    again.finished = s.finished ++ [(s.started, label, .ok (.settings (.object (some ref))))] ∧
      again.context.server = s.context.server ∧ again.source = s.source := by
  intro again
  obtain ⟨begun, own, hsource, hserver, hfinished, -, -, hpolls⟩ :=
    h.exists_begun label (.settings (.sought (.name name))) monitor
  rw [← hsource] at hcached
  obtain ⟨hasked, hkept, hends⟩ := Context.run_settings_of_cached hcached own
  simp only [again, askSetting, hpolls, Session.poll]
  rw [← hsource, ← hserver, ← hfinished]
  generalize begun.context.run own (.settings (.sought (.name name))) = out at hasked hkept hends
  obtain ⟨context, poll⟩ := out
  obtain rfl := hends
  exact ⟨rfl, hasked, hkept⟩

/-- Somebody asks for a setting by name, where the settings are not loaded and nothing is under way.
Other calls may run meanwhile, and the server may change, as long as nothing that is cached is lost.
If a setting is given, it is found in memory from then on, under the name that was asked for and
under its own, in any case of their ASCII letters, and whoever asks for it is given the same
instance without a query. -/
theorem getSetting_again (hs : s.Faithful) (hpartial : s.source.settings.isFullyCached = false)
    (hfetch : s.source.settings.fetch = none) (hlookups : s.source.settings.lookups = [])
    {monitor : Option String} (hactions : ∀ action ∈ actions, Action.Faithful action)
    (hspares : (s.askSetting label name monitor).Spares s.started actions) {ref : Ref}
    (hgiven : (s.started, label, .ok (.settings (.object (some ref)))) ∈
      ((s.askSetting label name monitor).acts actions).finished) :
    let after := (s.askSetting label name monitor).acts actions
    ∃ setting, after.source.settings.object? ref = some setting ∧
      ∀ name', name'.toLower = name.toLower ∨ name'.toLower = setting.name.toLower →
        after.source.settings.cachedObject? (.name name') = some ref ∧
        ∀ label' monitor', let again := after.askSetting label' name' monitor'
          again.finished =
              after.finished ++ [(after.started, label', .ok (.settings (.object (some ref))))] ∧
            again.context.server = after.context.server ∧ again.source = after.source := by
  intro after
  have hasked : (s.askSetting label name monitor).Faithful := by
    refine hs.acts (List.forall_mem_cons.2 ⟨⟨rfl, nofun⟩, ?_⟩)
    exact List.forall_mem_singleton.2 ⟨trivial, nofun⟩
  have hafter : after.Faithful := hasked.acts hactions
  have hseeks : after.Seeks s.started name :=
    (hs.seeks_askSetting hpartial hfetch hlookups label name monitor).acts hasked hactions hspares
  have hcached : after.source.settings.cachedObject? (.name name) = some ref :=
    hseeks.given _ hgiven rfl ref rfl
  obtain ⟨setting, hsetting, hfolded⟩ := hafter.named.exists_of_cached hcached
  refine ⟨setting, hsetting, fun name' hname => ?_⟩
  -- the server compares names more strictly than the cache does
  have hsame : Text.lowercase name' = Text.lowercase name := by
    rcases hname with hasked | hown
    · exact Text.lowercase_congr hasked
    · exact (Text.lowercase_congr hown).trans hfolded
  have hfound : after.source.settings.cachedObject? (.name name') = some ref :=
    (hafter.named.cachedObject?_congr hsame).trans hcached
  exact ⟨hfound, fun label' monitor' =>
    hafter.reachable.regular.askSetting_of_cached hfound label' monitor'⟩

/-- A server with two settings, of which one has a capital sigma in its name. It takes a second for
a query. -/
def sigmaServer (now : Nat) : Server where
  document := {
    latency := some { secs := 1, nanos := 0 }
    settings := [{ name := "AΣ" }, { name := "b" }] }
  now := now

/-- The other setting is asked for while the first one is looked up. -/
def sigmaActions : List Action :=
  [.start "other" (.settings (.sought (.name "b"))) none, .poll 1, .serve (sigmaServer 1000),
    .poll 0]

theorem getSetting_again_sigma :
    let s := opened {} (sigmaServer 0)
    let after := (s.askSetting "setting" "aΣ" none).acts sigmaActions
    let again := after.askSetting "again" "AΣ" none
    after.finished = [(0, "setting", .ok (.settings (.object (some 0))))] ∧
      again.finished = after.finished ++
        [(after.started, "again", .ok (.settings (.object (some 0))))] ∧
      after.context.server.queries = 2 ∧ again.context.server.queries = 2 := by
  intro s after again
  have hs : s.Faithful := ⟨{}, sigmaServer 0, [], by simp, rfl⟩
  have hactions : ∀ action ∈ sigmaActions, Action.Faithful action := by
    simp [sigmaActions, Action.Faithful, Action.Proper, Routine.Called, Cache.Load.Unrun,
      Cache.Load.sought]
  let asked := (s.askSetting "setting" "aΣ" none).act
    (.start "other" (.settings (.sought (.name "b"))) none)
  obtain ⟨⟨hconfig, hgeneration, hsnapshot⟩, hended, hstored, hqueries⟩ :
      ((asked.act (.poll 1)).source.settings.config = asked.source.settings.config ∧
        (asked.act (.poll 1)).source.settings.generation = asked.source.settings.generation ∧
        (asked.act (.poll 1)).source.settings.snapshot = asked.source.settings.snapshot) ∧
      after.finished = [(0, "setting", .ok (.settings (.object (some 0))))] ∧
      (after.source.settings.object? 0).map Setting.name = some "AΣ" ∧
      after.context.server.queries = 2 := by
    decide +kernel
  have hextends : asked.source.settings.Extends (asked.act (.poll 1)).source.settings :=
    Cache.extends_of_snapshot hconfig hgeneration hsnapshot
  have hspares : (s.askSetting "setting" "aΣ" none).Spares s.started sigmaActions :=
    ⟨.inr (.of_eq (settings_act _ id)), .inr hextends,
      .inr (.of_eq (settings_act _ id)), .inl rfl, trivial⟩
  have hgiven : (s.started, "setting", .ok (.settings (.object (some 0)))) ∈ after.finished :=
    hended ▸ List.mem_singleton_self _
  obtain ⟨setting, hsetting, hagain⟩ := getSetting_again hs rfl rfl rfl hactions hspares hgiven
  have hname : setting.name = "AΣ" := by
    rw [show after.source.settings.object? 0 = some setting from hsetting] at hstored
    exact Option.some.inj hstored
  have hown : "AΣ".toLower = setting.name.toLower := congrArg String.toLower hname.symm
  obtain ⟨hfinished, hserver, -⟩ := (hagain "AΣ" (.inr hown)).2 "again" none
  refine ⟨hended, hfinished, hqueries, ?_⟩
  calc again.context.server.queries = after.context.server.queries := by
        simp only [again, after, hserver]
    _ = 2 := hqueries

end Session

end CatalogBrowser
