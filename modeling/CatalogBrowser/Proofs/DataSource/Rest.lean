import CatalogBrowser.Proofs.DataSource.Action

/-!
# A data source at rest

All loads that are in flight belong to tasks. So where no task is pending, no cache of the tree is
being listed, nobody looks up an object in one, and each of them says of itself what is true: that
it is loaded, or that it is empty.

## Main definitions

* `stagesAt` - the stages of the loads of one cache.
* `Scene.Accounts` - every cache of the tree is accounted for by the loads in flight.

## Main statements

* `Scene.Accounts.step` - every move leaves it so.
* `Session.Reachable.rests` - no cache is in use when no task is pending.
-/

namespace CatalogBrowser

open Cache (Develops Edit Load Stage Upkeep Withers)

section Upkeep

/-- Dropping a schema clears its tables, and a refresh leaves them alone. -/
theorem Schema.upkeep_withers (database : String) :
    Upkeep (Schema.source database) (Schema.Follows Withers) where
  refl _ := .refl _
  trans := Withers.trans
  merge _ _ := .refl _
  evicted schema := (Cache.withers_clear Table.source schema.tables).map Table.row

theorem Database.withers_refl (database : Database) : database.Follows Withers database :=
  ⟨.refl _, Cache.develops_refl (fun _ => .refl _) _⟩

theorem Database.withers_cleared (database : Database) :
    database.Follows Withers database.cleared where
  schemas := (Cache.withers_clear (Schema.source database.name) database.schemas).map Schema.row
  below :=
    have hclear : (.clear : Edit Schema).Respects (Schema.Follows Withers) Schema.Pristine :=
      trivial
    Cache.develops_edit (Schema.upkeep_withers database.name) hclear

/-- Dropping a database clears all below it, and so does a refresh that finds another one. -/
theorem Database.upkeep_withers : Upkeep Database.source (Database.Follows Withers) where
  refl := Database.withers_refl
  trans h h' := ⟨h.schemas.trans h'.schemas, h.below.trans Withers.trans h'.below⟩
  merge existing fresh := by
    by_cases h : existing.wasRecreated fresh = true
    · have hmerged : (existing.merge fresh).schemas = existing.cleared.schemas := by
        simp only [Database.merge, if_pos h]
      exact ⟨hmerged ▸ existing.withers_cleared.schemas, hmerged ▸ existing.withers_cleared.below⟩
    · have hmerged : (existing.merge fresh).schemas = existing.schemas := by
        simp only [Database.merge, if_neg h]
      exact ⟨hmerged ▸ existing.withers_refl.schemas, hmerged ▸ existing.withers_refl.below⟩
  evicted := Database.withers_cleared

end Upkeep

section Jobs

/-- The stages of the loads of one cache. -/
def stagesAt (site : Site) (jobs : List Job) : List Stage :=
  (jobs.filter (·.branch? = site)).map Job.stage

theorem stagesAt_append (site : Site) (before behind : List Job) :
    stagesAt site (before ++ behind) = stagesAt site before ++ stagesAt site behind := by
  rw [stagesAt, List.filter_append, List.map_append]
  rfl

theorem stagesAt_self (job : Job) : stagesAt job.branch? [job] = [job.stage] := by
  simp [stagesAt]

theorem stagesAt_of_ne {site : Site} {job : Job} (h : job.branch? ≠ site) :
    stagesAt site [job] = [] := by
  simp [stagesAt, h]

theorem stagesAt_split (site : Site) (before behind : List Job) (job : Job) :
    stagesAt site (before ++ job :: behind) = stagesAt site before ++
      (if job.branch? = site then [job.stage] else []) ++ stagesAt site behind := by
  rw [← List.singleton_append, ← List.append_assoc, stagesAt_append, stagesAt_append]
  split
  next hsite => rw [← hsite, stagesAt_self]
  next hsite => rw [stagesAt_of_ne hsite]

theorem mem_stagesAt_iff {site : Site} {jobs : List Job} {stage : Stage} :
    stage ∈ stagesAt site jobs ↔ ∃ job ∈ jobs, job.branch? = site ∧ job.stage = stage := by
  simp [stagesAt, and_assoc]

variable {ds ds' : DataSource} {job : Job} {left : Option Job} {before behind : List Job}

/-- What is left of a job has its place. -/
theorem Job.Ran.stagesAt_left (h : job.Ran ds ds' left) (site : Site) :
    stagesAt site left.toList = if job.branch? = site then (left.map stage).toList else [] := by
  cases left with
  | none => simp [stagesAt]
  | some job' =>
    have hbranch := h.branch?_eq rfl
    split
    next hsite =>
      rw [Option.toList_some, ← hsite, ← hbranch, stagesAt_self]
      rfl
    next hsite => rw [Option.toList_some, stagesAt_of_ne (hbranch ▸ hsite)]

/-- A job that is left has a cache. -/
theorem Job.Ran.exists_left (h : job.Ran ds ds' left) {job' : Job} (hleft : left = some job') :
    ds'.site? job'.branch? ≠ none := by
  rw [h.branch?_eq hleft]
  cases hbranch : job.branch? with
  | none => exact Option.some_ne_none _
  | some branch =>
    rcases h.below hbranch with ⟨-, hnone⟩ | ⟨_, _, _, _, f, _, c', _, -, hcache', -⟩
    · rw [hnone] at hleft
      cases hleft
    · rw [Ne, DataSource.site?_eq_none_iff_cache?, hcache']
      exact Option.some_ne_none _

/-- The caches that a job does not load at most wither. -/
theorem Job.Ran.unfolds (h : job.Ran ds ds' left) : ds.Unfolds Withers job.branch? ds' := by
  cases h with
  | databases hload =>
    refine DataSource.unfolds_databases (hload.develops Database.upkeep_withers ?_)
    intro record database hconstruct
    obtain rfl : Database.ofRecord record = database := Option.some.inj hconstruct
    exact Database.pristine_ofRecord record
  | @schemas db load database schemas _ hdatabase hload =>
    refine DataSource.unfolds_putSchemas .refl hdatabase
      (hload.develops (Schema.upkeep_withers database.name) ?_)
    intro record schema hconstruct
    obtain rfl : Schema.ofRecord database.name record = schema := Option.some.inj hconstruct
    exact Schema.pristine_ofRecord database.name record
  | tables howner => exact DataSource.unfolds_putTables .refl howner _
  | nowhere => exact .refl .refl _ ds

/-- The cache that a job loads is left tidy. -/
theorem Job.Ran.tidy (h : job.Ran ds ds' left) {before behind : List Stage}
    (htidy : ∀ c, ds.site? job.branch? = some c → c.Tidy (before ++ [job.stage] ++ behind)) :
    ∀ c', ds'.site? job.branch? = some c' →
      c'.Tidy (before ++ (left.map stage).toList ++ behind) := by
  intro c' hc'
  cases h with
  | @databases load databases left hload =>
    have hbefore := (htidy _ rfl).of_map
    obtain rfl := Option.some.inj hc'
    rw [Option.map_map]
    exact (hbefore.ran hload).map _
  | @schemas db load database schemas left hdatabase hload =>
    have hbefore := (htidy _ (DataSource.site?_schemas hdatabase)).of_map
    have hself := DataSource.site?_putSchemas_self hdatabase schemas
    obtain rfl := Option.some.inj (hself.symm.trans hc')
    rw [Option.map_map]
    exact (hbefore.ran hload).map _
  | @tables db schema load owner tables left howner hload =>
    have hbefore := (htidy _ (DataSource.site?_tables howner)).of_map
    have hself := DataSource.site?_putTables_self howner tables
    obtain rfl := Option.some.inj (hself.symm.trans hc')
    rw [Option.map_map]
    exact (hbefore.ran hload).map _
  | @nowhere _ branch hbranch hnone =>
    rw [hbranch, DataSource.site?_eq_none_iff_cache?.2 hnone] at hc'
    cases hc'

theorem Database.findsNothing (connection : Connection) (active : String) :
    (Database.remote connection active).FindsNothing Database.source := by
  intro server query record h
  obtain rfl : none = record := Except.ok.inj (Option.some.inj h)
  rfl

theorem Schema.findsNothing (name database : String) :
    (Schema.remote name).FindsNothing (Schema.source database) := by
  intro server query record h
  obtain rfl : none = record := Except.ok.inj (Option.some.inj h)
  rfl

theorem Table.findsNothing (database schema : String) :
    (Table.remote database schema).FindsNothing Table.source := by
  intro server query record h
  obtain rfl : none = record := Except.ok.inj (Option.some.inj h)
  rfl

section Whole

variable {db schema : Ref} {database : Database} {owner : Schema}

theorem DataSource.whole_putSchemas (hdatabase : ds.database? db = some database)
    (h : ∀ c, ds.site? (some (.schemas db)) = some c → c.Whole) {schemas : Cache Schema}
    (hwhole : database.schemas.Whole → schemas.Whole) :
    ∀ c', (ds.putSchemas db schemas).site? (some (.schemas db)) = some c' → c'.Whole := by
  intro c' hc'
  obtain rfl := Option.some.inj ((site?_putSchemas_self hdatabase schemas).symm.trans hc')
  exact hwhole (h _ (site?_schemas hdatabase))

theorem DataSource.whole_putTables (howner : ds.schema? db schema = some owner)
    (h : ∀ c, ds.site? (some (.tables db schema)) = some c → c.Whole) {tables : Cache Table}
    (hwhole : owner.tables.Whole → tables.Whole) :
    ∀ c', (ds.putTables db schema tables).site? (some (.tables db schema)) = some c' →
      c'.Whole := by
  intro c' hc'
  obtain rfl := Option.some.inj ((site?_putTables_self howner tables).symm.trans hc')
  exact hwhole (h _ (site?_tables howner))

/-- A job keeps a cache whole, since single objects are never found. -/
theorem Job.whole_run (ctx : Context) (monitor : Monitor) (job : Job)
    (h : ∀ c, ctx.source.site? job.branch? = some c → c.Whole) :
    ∀ c', (job.run ctx monitor).1.source.site? job.branch? = some c' → c'.Whole := by
  cases job with
  | databases load =>
    intro c' hc'
    have hbefore : ctx.source.databases.Whole := h _ rfl
    obtain rfl := Option.some.inj hc'
    exact hbefore.run (Database.findsNothing _ _) ctx.server load (ctx.isCancelled monitor)
  | schemas db load =>
    rw [run, Context.runSchemas]
    cases hdatabase : ctx.source.database? db with
    | none => exact h
    | some database =>
      exact DataSource.whole_putSchemas hdatabase h fun hbefore =>
        hbefore.run (Schema.findsNothing _ _) ctx.server load (ctx.isCancelled monitor)
  | tables db schema load =>
    rw [run, Context.runTables]
    cases howner : ctx.source.schema? db schema with
    | none => exact h
    | some owner =>
      exact DataSource.whole_putTables howner h fun hbefore =>
        hbefore.run (Table.findsNothing _ _) ctx.server load (ctx.isCancelled monitor)

theorem Job.whole_abandon (ctx : Context) (job : Job)
    (h : ∀ c, ctx.source.site? job.branch? = some c → c.Whole) :
    ∀ c', (job.abandon ctx).source.site? job.branch? = some c' → c'.Whole := by
  cases job with
  | databases load =>
    intro c' hc'
    have hbefore : ctx.source.databases.Whole := h _ rfl
    obtain rfl := Option.some.inj hc'
    exact hbefore.abandon load.stage
  | schemas db load =>
    rw [abandon, Context.abandonSchemas]
    cases hdatabase : ctx.source.database? db with
    | none => exact h
    | some database =>
      exact DataSource.whole_putSchemas hdatabase h fun hbefore => hbefore.abandon load.stage
  | tables db schema load =>
    rw [abandon, Context.abandonTables]
    cases howner : ctx.source.schema? db schema with
    | none => exact h
    | some owner =>
      exact DataSource.whole_putTables howner h fun hbefore => hbefore.abandon load.stage

end Whole

end Jobs

namespace Scene

variable {s s' : Scene} {move : Move} {moves : List Move} {site : Site}

/-- Every cache of the tree is accounted for by the jobs, and jobs of caches that do not exist have
not begun. -/
structure Accounts (s : Scene) : Prop where
  sites : ∀ site c, s.source.site? site = some c → c.Tidy (stagesAt site s.jobs) ∧ c.Whole
  absent : ∀ job ∈ s.jobs, s.source.site? job.branch? = none → job.stage = .start

/-- One cache changes, and all others wither. -/
theorem Accounts.unfold (h : s.Accounts) (hunfolds : s.source.Unfolds Withers site s'.source)
    (hothers : ∀ other, other ≠ site → stagesAt other s'.jobs = stagesAt other s.jobs)
    (hself : ∀ c', s'.source.site? site = some c' → c'.Tidy (stagesAt site s'.jobs) ∧ c'.Whole)
    (hjobs : ∀ job ∈ s'.jobs, job ∈ s.jobs ∨ s'.source.site? job.branch? ≠ none) :
    s'.Accounts where
  sites other c' hc' := by
    by_cases hother : other = site
    · exact hother ▸ hself c' (hother ▸ hc')
    rw [hothers other hother]
    cases hc : s.source.site? other with
    | some c =>
      obtain ⟨c'', hc'', hwithers⟩ := hunfolds.old other c hother hc
      obtain rfl := Option.some.inj (hc''.symm.trans hc')
      obtain ⟨htidy, hwhole⟩ := h.sites other c hc
      exact ⟨hwithers.tidy htidy, hwithers.whole hwhole⟩
    | none =>
      -- a cache that is new has no jobs but those that have not begun
      obtain ⟨c, hpristine, hwithers⟩ := hunfolds.new other c' hc hc'
      refine ⟨hwithers.tidy (hpristine.tidy fun stage hstage => ?_),
        hwithers.whole hpristine.rests.whole⟩
      obtain ⟨job, hjob, rfl, rfl⟩ := mem_stagesAt_iff.1 hstage
      exact h.absent job hjob hc
  absent job hjob hnone := by
    rcases hjobs job hjob with hold | hexists
    · exact h.absent job hold (hunfolds.absent hnone)
    · exact absurd hnone hexists

/-- The stages of other caches stay when what is left of a job takes its place. -/
theorem stagesAt_ran {ds ds' : DataSource} {job : Job} {left : Option Job}
    (hran : job.Ran ds ds' left) (site : Site) (before behind : List Job) :
    stagesAt site (before ++ left.toList ++ behind) = stagesAt site before ++
      (if job.branch? = site then (left.map Job.stage).toList else []) ++ stagesAt site behind := by
  rw [stagesAt_append, stagesAt_append, hran.stagesAt_left site]

/-- A job runs or is dropped. -/
theorem Accounts.ran (h : s.Accounts) {job : Job} {left : Option Job} {before behind : List Job}
    (hran : job.Ran s.source s'.source left)
    (hwhole : ∀ c', s'.source.site? job.branch? = some c' → c'.Whole)
    (hjobs : s.jobs = before ++ job :: behind)
    (hjobs' : s'.jobs = before ++ left.toList ++ behind) : s'.Accounts := by
  refine h.unfold hran.unfolds (fun other hother => ?_) (fun c' hc' => ⟨?_, hwhole c' hc'⟩) ?_
  · rw [hjobs, hjobs', stagesAt_split, stagesAt_ran hran, if_neg hother.symm, if_neg hother.symm]
  · rw [hjobs', stagesAt_ran hran, if_pos rfl]
    refine hran.tidy (fun c hc => ?_) c' hc'
    have htidy := (h.sites _ c hc).1
    rwa [hjobs, stagesAt_split, if_pos rfl] at htidy
  · intro other hother
    rw [hjobs'] at hother
    rw [hjobs]
    rcases List.mem_append.1 hother with hfront | hbehind
    · rcases List.mem_append.1 hfront with hbefore | hleft
      · exact .inl (List.mem_append_left _ hbefore)
      · exact .inr (hran.exists_left (Option.mem_toList.1 hleft))
    · exact .inl (List.mem_append_right _ (List.mem_cons_of_mem _ hbehind))

theorem jobs_split {n : Nat} {job : Job} (hjob : s.jobs[n]? = some job) :
    s.jobs = s.jobs.take n ++ job :: s.jobs.drop (n + 1) := by
  have hlt := (List.getElem?_eq_some_iff.1 hjob).1
  rw [← (List.getElem?_eq_some_iff.1 hjob).2, List.getElem_cons_drop hlt, List.take_append_drop]

/-- Only the databases matter. -/
theorem Accounts.congr (h : s.Accounts) (hjobs : s'.jobs = s.jobs)
    (hsites : ∀ site, s'.source.site? site = s.source.site? site) : s'.Accounts where
  sites site c hc := by
    rw [hjobs]
    exact h.sites site c (hsites site ▸ hc)
  absent job hjob hnone := h.absent job (hjobs ▸ hjob) (hsites job.branch? ▸ hnone)

/-- A load that begins has nothing in flight. -/
theorem Accounts.begin (h : s.Accounts) {n : Nat} {job : Job} (hstart : job.stage = .start) :
    (s.step (.begin n job)).Accounts := by
  have hjobs : s.jobs = s.jobs.take n ++ s.jobs.drop n := (List.take_append_drop n s.jobs).symm
  constructor
  · intro site c hc
    obtain ⟨htidy, hwhole⟩ := h.sites site c hc
    refine ⟨htidy.of_leads ?_ ?_, hwhole⟩
    all_goals
      rw [step, stagesAt_split, hstart]
      conv_rhs => rw [hjobs, stagesAt_append]
      split
      · rw [List.append_assoc, List.singleton_append, List.filterMap_append,
          List.filterMap_cons_none rfl, List.filterMap_append]
      · rw [List.append_nil]
  · intro other hother hnone
    rcases List.mem_append.1 hother with hbefore | hbehind
    · exact h.absent other (List.mem_of_mem_take hbefore) hnone
    · rcases List.mem_cons.1 hbehind with rfl | hbehind
      · exact hstart
      · exact h.absent other (List.mem_of_mem_drop hbehind) hnone

/-- Every move leaves all caches accounted for. -/
theorem Accounts.step (h : s.Accounts) (hmove : move.Ordinary) : (s.step move).Accounts := by
  cases move with
  | begin n job => exact h.begin hmove
  | poll n monitor =>
    rw [step]
    cases hjob : s.jobs[n]? with
    | none => exact h
    | some job =>
      exact h.ran (job.ran_run s.context monitor) (job.whole_run s.context monitor fun c hc =>
        (h.sites _ c hc).2) (jobs_split hjob) rfl
  | drop n =>
    rw [step]
    cases hjob : s.jobs[n]? with
    | none => exact h
    | some job =>
      exact h.ran (job.ran_abandon s.context) (job.whole_abandon s.context fun c hc =>
        (h.sites _ c hc).2) (jobs_split hjob) rfl
  | editDatabases edit =>
    refine h.unfold (DataSource.unfolds_databases (Cache.develops_edit Database.upkeep_withers
      (hmove.respects fun _ => id))) (fun _ _ => rfl) (fun c' hc' => ?_) fun _ hjob => .inl hjob
    obtain ⟨htidy, hwhole⟩ := h.sites none _ rfl
    obtain rfl := Option.some.inj hc'
    exact ⟨(Cache.tidy_edit hmove htidy.of_map).map _,
      Cache.whole_edit (c := s.source.databases) hmove hwhole⟩
  | editSchemas db edit =>
    rw [step, Context.editSchemas]
    cases hdatabase : s.context.source.database? db with
    | none => exact h
    | some database =>
      have hplain : edit.Plain Schema.Pristine := .inl hmove
      refine h.unfold (DataSource.unfolds_putSchemas .refl hdatabase (Cache.develops_edit
        (Schema.upkeep_withers database.name) hmove.respects)) (fun _ _ => rfl) (fun c' hc' => ?_)
        fun _ hjob => .inl hjob
      obtain ⟨htidy, hwhole⟩ := h.sites _ _ (DataSource.site?_schemas hdatabase)
      have hwhole : database.schemas.Whole := hwhole
      obtain rfl := Option.some.inj ((DataSource.site?_putSchemas_self hdatabase _).symm.trans hc')
      exact ⟨(Cache.tidy_edit hplain htidy.of_map).map _, Cache.whole_edit hplain hwhole⟩
  | editTables db schema edit =>
    rw [step, Context.editTables]
    cases howner : s.context.source.schema? db schema with
    | none => exact h
    | some owner =>
      have hplain : edit.Plain fun _ : Table => False := .inl hmove
      refine h.unfold (DataSource.unfolds_putTables .refl howner _) (fun _ _ => rfl)
        (fun c' hc' => ?_) fun _ hjob => .inl hjob
      obtain ⟨htidy, hwhole⟩ := h.sites _ _ (DataSource.site?_tables howner)
      have hwhole : owner.tables.Whole := hwhole
      obtain rfl := Option.some.inj ((DataSource.site?_putTables_self howner _).symm.trans hc')
      exact ⟨(Cache.tidy_edit hplain htidy.of_map).map _, Cache.whole_edit hplain hwhole⟩
  | aside elsewhere => exact h.congr rfl fun site => DataSource.site?_congr rfl site

theorem accounts_opened (connection : Connection) (server : Server) :
    (opened connection server).Accounts where
  sites site c hc := by
    have hpristine : c.Pristine := by
      obtain _ | ⟨db⟩ | ⟨db, schema⟩ := site
      · have hempty : (opened connection server).source.databases.Pristine := rfl
        exact Option.some.inj hc ▸ hempty.map Database.row
      · obtain ⟨database, hdatabase, -⟩ := DataSource.exists_of_site?_schemas hc
        cases hdatabase
      · obtain ⟨owner, howner, -⟩ := DataSource.exists_of_site?_tables hc
        cases howner
    exact ⟨hpristine.tidy fun _ hstage => (List.not_mem_nil hstage).elim, hpristine.rests.whole⟩
  absent job hjob := (List.not_mem_nil hjob).elim

theorem Accounts.run (h : s.Accounts) (hmoves : ∀ move ∈ moves, move.Ordinary) :
    (s.run moves).Accounts := by
  induction moves generalizing s with
  | nil => exact h
  | cons move rest ih =>
    obtain ⟨hmove, hrest⟩ := List.forall_mem_cons.1 hmoves
    exact ih (h.step hmove) hrest

end Scene

namespace Session

variable {s : Session}

theorem Reachable.accounts (h : s.Reachable) : s.scene.Accounts := by
  obtain ⟨connection, server, moves, hmoves, hrun⟩ := h.scene
  exact hrun ▸ (Scene.accounts_opened connection server).run hmoves

/-- No cache is in use when no task is pending. -/
theorem Reachable.rests (h : s.Reachable) (hidle : s.tasks = []) {site : Site} {c : Cache Row}
    (hc : s.source.site? site = some c) : c.Resting := by
  obtain ⟨htidy, hwhole⟩ := h.accounts.sites site c hc
  rw [Session.scene, hidle] at htidy
  exact htidy.rests hwhole

end Session

end CatalogBrowser
