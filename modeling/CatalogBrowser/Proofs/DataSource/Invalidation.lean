import CatalogBrowser.Proofs.DataSource.Scene

/-!
# Databases that leave, come back or stay

Dropping a database clears its schemas, which drops these and clears their tables; and so does a
refresh that finds a database with another oid, if the oid was known. A listing that was in flight
on one of these caches is then of an older generation: it goes on, and nothing of it is ever seen.
A refresh leaves everything below other databases alone.

## Main definitions

* `Database.branches` - the caches below a database that it can reach.
* `Scene.Overtaken` - a listing of which nothing will be seen.
* `Scene.Invalidated` - an empty cache, with all listings in flight overtaken.

## Main statements

* `Scene.run_branches` - what one move makes of the caches below a cached database, in every run.
-/

namespace CatalogBrowser

open Cache (FetchLead Load Stage)

/-- The caches below a database: that of its schemas, and those of the tables of each schema that it
holds. -/
def Database.branches (db : Ref) (database : Database) : List Branch :=
  .schemas db :: database.schemas.snapshot.entries.map (.tables db)

/-- Only loads have something to run or drop. -/
theorem Move.proper_of_job? {s : Scene} {move : Move} {job : Job} (h : move.job? s = some job) :
    move.Proper := by
  cases move with
  | poll | drop => trivial
  | _ => cases h

/-- A merge clears the schemas of a database that it finds with another oid, and no others. -/
theorem Database.schemas_merge (database fresh : Database) :
    if database.oid ≠ 0 ∧ (database.merge fresh).oid ≠ database.oid then
      (database.merge fresh).schemas = database.cleared.schemas
    else (database.merge fresh).schemas = database.schemas := by
  have hrecreated : database.wasRecreated fresh = true ↔
      database.oid ≠ 0 ∧ (database.merge fresh).oid ≠ database.oid := by
    have hoid : (database.merge fresh).oid = fresh.oid := rfl
    simp [wasRecreated, hoid, eq_comm (a := fresh.oid)]
  simp only [← hrecreated]
  split <;> simp [merge, *]

namespace Scene

variable {s s' : Scene} {move : Move} {db : Ref} {database database' : Database} {branch : Branch}
  {lead : FetchLead}

/-- Whatever happens from here on, the listing changes nothing that is seen in the cache when it is
answered, fails or is dropped, and what it made is not cached later. -/
def Overtaken (s : Scene) (branch : Branch) (lead : FetchLead) : Prop :=
  ∀ moves : List Move, (∀ move ∈ moves, move.Proper) → let t := s.run moves
    ∀ move job, move.job? t = some job → job.listing? branch = some lead →
      ∃ c c', t.source.cache? branch = some c ∧ (t.step move).source.cache? branch = some c' ∧
        c.Unseen c' ∧ ∀ later : List Move, (∀ move ∈ later, move.Proper) →
          ∃ c'', ((t.step move).run later).source.cache? branch = some c'' ∧
            ∀ ref ∈ c''.snapshot.refs, ref < c.objects.size ∨ c'.objects.size ≤ ref

/-- A cache is empty and holds nothing, and of the listings of it that are in flight nothing will be
seen. -/
structure Invalidated (s : Scene) (branch : Branch) : Prop where
  empty : ∃ c, s.source.cache? branch = some c ∧ c.freshness = .empty ∧ c.snapshot = {}
  overtaken : ∀ lead ∈ s.listings branch, s.Overtaken branch lead

/-- A listing of an older generation than a cache that holds nothing is overtaken. -/
theorem overtaken_of_lt {c : Cache (Schema ⊕ Table)} (hcache : s.source.cache? branch = some c)
    (hempty : c.snapshot = {}) (hlt : lead.generation < c.generation) :
    s.Overtaken branch lead := by
  intro moves hmoves t move job hjob hlisting
  obtain ⟨before, hbefore, hdescends⟩ := (run_descends s hmoves).cache? hcache
  have houtdated : lead.generation ≠ before.generation :=
    Nat.ne_of_lt (Nat.lt_of_lt_of_le hlt hdescends.generation)
  have hmove := Move.proper_of_job? hjob
  have hstep : ∃ after, (t.step move).source.cache? branch = some after ∧ before.Unseen after := by
    cases stepped t hmove with
    | job concerns ran =>
      obtain rfl := Option.some.inj (hjob.symm.trans concerns)
      exact ran.unseen hlisting hbefore houtdated
    | edit _ _ concerns | below concerns =>
      rw [concerns] at hjob
      cases hjob
  obtain ⟨after, hafter, hunseen⟩ := hstep
  refine ⟨before, after, hbefore, hafter, hunseen, fun later hlater => ?_⟩
  obtain ⟨last, hlast, hdescends'⟩ := (run_descends (t.step move) hlater).cache? hafter
  refine ⟨last, hlast, fun ref href => ?_⟩
  -- what is cached in the end was made after the listing, or it was cached before and made since
  rcases hdescends'.known ref href with hold | ⟨hmade, -⟩
  · rw [hunseen.snapshot] at hold
    rcases hdescends.known ref hold with hnothing | ⟨-, hlt⟩
    · rw [hempty] at hnothing
      cases hnothing
    · exact .inl hlt
  · exact .inr hmade

section Cleared

variable {ds ds' : DataSource}

/-- Clearing a database clears everything below it. -/
theorem cleared_branches (hfounded : database.Founded) (hbefore : ds.database? db = some database)
    (hafter : ds'.database? db = some database')
    (hcleared : database'.schemas = database.cleared.schemas) :
    ∀ branch ∈ database.branches db, ∃ c c', ds.cache? branch = some c ∧
      ds'.cache? branch = some c' ∧ c'.freshness = .empty ∧ c'.snapshot = {} ∧
      c.generation < c'.generation := by
  intro branch hbranch
  rcases List.mem_cons.1 hbranch with rfl | htables
  · refine ⟨database.schemas.map .inl, database'.schemas.map .inl, ?_, ?_, ?_⟩
    · rw [DataSource.cache?, hbefore]
      rfl
    · rw [DataSource.cache?, hafter]
      rfl
    · rw [hcleared]
      exact ⟨rfl, rfl, Nat.lt_succ_self _⟩
  · obtain ⟨schema, hschema, rfl⟩ := List.mem_map.1 htables
    have hlt := hfounded schema (Cache.mem_refs_of_mem_entries hschema)
    obtain ⟨owner, howner⟩ : ∃ owner, database.schemas.object? schema = some owner :=
      ⟨_, Array.getElem?_eq_getElem hlt⟩
    -- a schema is cleared in the state that it has when its turn comes
    have hR := Schema.upkeep database.name
    obtain ⟨owner', howner', hdescends⟩ :=
      Cache.exists_evicted_of_mem hR.refl hR.trans hR.evicted hschema howner
    refine ⟨owner.tables.map .inr, owner'.cleared.tables.map .inr, ?_, ?_, rfl, rfl, ?_⟩
    · have hbelow := DataSource.schema?_eq_some_iff.2 ⟨database, hbefore, howner⟩
      rw [DataSource.cache?, hbelow]
      rfl
    · have hschema' : database'.schemas.object? schema = some owner'.cleared := by
        rw [hcleared]
        exact howner'
      have hbelow := DataSource.schema?_eq_some_iff.2 ⟨database', hafter, hschema'⟩
      rw [DataSource.cache?, hbelow]
      rfl
    · exact Nat.lt_succ_of_le hdescends.generation

end Cleared

theorem Sound.invalidated (h : s.Sound) (hbefore : s.source.database? db = some database)
    (hafter : s'.source.database? db = some database')
    (hcleared : database'.schemas = database.cleared.schemas)
    (hlistings : ∀ branch, s'.listings branch = s.listings branch) :
    ∀ branch ∈ database.branches db, s'.Invalidated branch := by
  intro branch hbranch
  obtain ⟨c, c', hcache, hcache', hfreshness, hsnapshot, hgeneration⟩ :=
    cleared_branches (h.founded db database hbefore) hbefore hafter hcleared branch hbranch
  refine ⟨⟨c', hcache', hfreshness, hsnapshot⟩, fun lead hlead => ?_⟩
  obtain ⟨other, hother, hle⟩ := h.dated branch lead (hlistings branch ▸ hlead)
  obtain rfl := Option.some.inj (hother.symm.trans hcache)
  exact overtaken_of_lt hcache' hsnapshot (Nat.lt_of_le_of_lt hle hgeneration)

/-- A move that refreshes the databases, for a load of them that it runs or drops. -/
def Refreshes (s : Scene) (move : Move) : Prop :=
  ∃ load, move.job? s = some (.databases load)

/-- A load of the databases leads no listing below them. -/
theorem listings_replaced {load : Load Database.Query} {left : Option (Load Database.Query)}
    {before behind : List Job} (hjobs : s.jobs = before ++ .databases load :: behind)
    (hjobs' : s'.jobs = before ++ (left.map Job.databases).toList ++ behind) (branch : Branch) :
    s'.listings branch = s.listings branch := by
  have hnone : ∀ load, (Job.databases load).listing? branch = none := fun _ => rfl
  rw [listings, listings, hjobs, hjobs', List.append_assoc, List.filterMap_append,
    List.filterMap_append, List.filterMap_append, List.filterMap_cons_none (hnone load)]
  cases left with
  | none => rfl
  | some rest =>
    rw [Option.map_some, Option.toList_some, List.filterMap_cons_none (hnone rest)]
    rfl

/-- A refresh runs one load of the databases, and does nothing else. -/
theorem Refreshes.ran (h : s.Refreshes move) :
    ∃ (load : Load Database.Query) (stage? : Option Stage),
      Load.Ran Database.source s.source.databases load (s.step move).source.databases stage? ∧
        ∀ branch, (s.step move).listings branch = s.listings branch := by
  obtain ⟨load, hjob⟩ := h
  cases stepped s (Move.proper_of_job? hjob) with
  | job concerns ran jobs jobs' =>
    obtain rfl := Option.some.inj (hjob.symm.trans concerns)
    generalize hsource : (s.step move).source = ds' at ran
    cases ran with
    | databases hload => exact ⟨load, _, hload, listings_replaced jobs jobs'⟩
    | nowhere hbranch => cases hbranch
  | edit _ _ concerns | below concerns =>
    rw [concerns] at hjob
    cases hjob

/-- What a refresh makes of the caches below a database that was cached. -/
theorem Refreshes.schemas (h : s.Refreshes move) (hs : s.Sound) (hdb : db ∈ s.entries)
    (hbefore : s.source.database? db = some database) :
    ∃ database', (s.step move).source.database? db = some database' ∧
      if db ∉ (s.step move).entries ∨ database.oid ≠ 0 ∧ database'.oid ≠ database.oid then
        database'.schemas = database.cleared.schemas
      else database'.schemas = database.schemas := by
  obtain ⟨load, stage?, hload, -⟩ := h.ran
  have htreats := hload.treats hs.indexed (Database.keepsKeys_merge _) fun _ => rfl
  rcases htreats db hdb database hbefore with ⟨hgone, hafter⟩ | ⟨hstays, hafter | ⟨fresh, hafter⟩⟩
  · exact ⟨database.cleared, hafter, by rw [if_pos (.inl hgone)]⟩
  · refine ⟨database, hafter, ?_⟩
    rw [if_neg]
    rintro (hgone | ⟨-, hother⟩)
    · exact hgone hstays
    · exact hother rfl
  · refine ⟨database.merge fresh, hafter, ?_⟩
    have hstays' : ¬db ∉ (s.step move).entries := not_not_intro hstays
    simp only [hstays', false_or]
    exact database.schemas_merge fresh

/-- A refresh keeps the instance of a database that is still there. -/
theorem Refreshes.instance_eq (h : s.Refreshes move) (hs : s.Sound) (hdb : db ∈ s.entries)
    (hbefore : s.source.database? db = some database) {kept : Ref}
    (hkept : kept ∈ (s.step move).entries)
    (hafter : (s.step move).source.database? kept = some database')
    (hname : database'.name = database.name) : kept = db := by
  obtain ⟨load, stage?, hload, -⟩ := h.ran
  have hmerge := Database.keepsKeys_merge s.source.databases
  have hfind := hs.indexed.find?_eq_some_iff.2 ⟨hdb, congrArg (Option.map _) hbefore⟩
  have hfind' := (hload.indexed hs.indexed hmerge).find?_eq_some_iff.2
    ⟨hkept, congrArg (Option.map _) hafter⟩
  have hkey : (s.step move).source.databases.objectKey Database.source database' =
      s.source.databases.objectKey Database.source database := by
    rw [Cache.objectKey_of_config hload.descends.config]
    exact congrArg (fun name => s.source.databases.key (.name name)) hname
  rw [hkey] at hfind'
  exact hload.agrees hs.indexed hmerge _ _ _ hfind hfind'

/-- A database that leaves without a refresh is dropped by an edit. -/
theorem dropped_of_not_refreshes (hs : s.Sound) (hmove : move.Proper) (hdb : db ∈ s.entries)
    (hbefore : s.source.database? db = some database) (hrefreshes : ¬s.Refreshes move)
    (hgone : db ∉ (s.step move).entries) :
    (s.step move).source.database? db = some database.cleared ∧
      ∀ branch, (s.step move).listings branch = s.listings branch := by
  cases stepped s hmove with
  | job concerns ran =>
    have hentries : (s.step move).entries = s.entries := by
      rw [entries]
      generalize (s.step move).source = ds' at ran
      cases ran with
      | databases => exact absurd ⟨_, concerns⟩ hrefreshes
      | tables => exact congrArg _ (s.source.snapshot_putTables _ _ _)
      | schemas | nowhere => rfl
    exact absurd (hentries ▸ hdb) hgone
  | edit edit respects _ source listings =>
    rw [entries, source] at hgone
    rw [source]
    exact ⟨Cache.dropped_edit hs.indexed (keepsIdentity_of_respects respects) (fun _ => rfl) hdb
      hgone hbefore, listings⟩
  | below _ _ _ hentries => exact absurd (hentries ▸ hdb) hgone

/-- What one move makes of the caches below a cached database, in every run. If the database leaves,
or a refresh finds it with another oid than the one that was known, then its schemas and the tables
of each schema that it held are empty, and nothing of the listings in flight will be seen. Any other
database that a refresh finds again is the same instance, and the refresh leaves everything below
alone. -/
theorem run_branches (connection : Connection) (server : Server) (moves : List Move) (move : Move)
    (hmoves : ∀ move ∈ moves, move.Proper) (hmove : move.Proper) :
    let s := (opened connection server).run moves
    let s' := s.step move
    ∀ db ∈ s.entries, ∃ database database',
      s.source.database? db = some database ∧ s'.source.database? db = some database' ∧
      (db ∉ s'.entries ∨
          s.Refreshes move ∧ database.oid ≠ 0 ∧ database'.oid ≠ database.oid →
        ∀ branch ∈ database.branches db, s'.Invalidated branch) ∧
      (s.Refreshes move → ∀ kept ∈ s'.entries, ∀ other, s'.source.database? kept = some other →
        other.name = database.name → kept = db ∧
          (¬(database.oid ≠ 0 ∧ database'.oid ≠ database.oid) →
            database'.schemas = database.schemas ∧
              ∀ branch, s'.listings branch = s.listings branch)) := by
  intro s s' db hdb
  have hs : s.Sound := (sound_opened connection server).run hmoves
  obtain ⟨database, hbefore⟩ : ∃ database, s.source.database? db = some database :=
    ⟨_, Array.getElem?_eq_getElem (hs.indexed.distinct.lt_size db hdb)⟩
  by_cases hrefreshes : s.Refreshes move
  · obtain ⟨database', hafter, hschemas⟩ := hrefreshes.schemas hs hdb hbefore
    obtain ⟨-, -, -, hlistings⟩ := hrefreshes.ran
    refine ⟨database, database', hbefore, hafter, fun hgone => ?_, fun _ kept hkept other hother
      hname => ?_⟩
    · rw [if_pos (hgone.imp_right And.right)] at hschemas
      exact hs.invalidated hbefore hafter hschemas hlistings
    · obtain rfl := hrefreshes.instance_eq hs hdb hbefore hkept hother hname
      refine ⟨rfl, fun hsame => ?_⟩
      rw [if_neg (not_or.2 ⟨not_not_intro hkept, hsame⟩)] at hschemas
      exact ⟨hschemas, hlistings⟩
  · obtain ⟨database', hafter, -⟩ := (stepped s hmove).descends.below.old db database hbefore
    refine ⟨database, database', hbefore, hafter, fun hgone => ?_, fun h => absurd h hrefreshes⟩
    have hleaves : db ∉ s'.entries := hgone.resolve_right fun h => hrefreshes h.1
    obtain ⟨hcleared, hlistings⟩ :=
      dropped_of_not_refreshes hs hmove hdb hbefore hrefreshes hleaves
    obtain rfl := Option.some.inj (hafter.symm.trans hcleared)
    exact hs.invalidated hbefore hafter rfl hlistings

/-- A server with one database, which has one schema. -/
def smallServer (oid : Nat) (latency : Option Duration) : Server where
  document := {
    latency
    databases := [{
      record := { name := "app", oid, allowConnections := true }
      schemas := [{ record := { oid := 7, name := "public" } }] }] }

def smallContext (server : Server) : Context :=
  { source := .ofConnection { readDatabaseList := true }, server }

/-- The database and its schema are read. While a slow server lists the schemas again and the tables
for the first time, the databases are refreshed, and the database has another oid by then. -/
def overtaking (oid : Nat) : List Move := [
  .begin 0 (.databases { request := .all }), .poll 0 .first,
  .begin 0 (.schemas 0 { request := .all }), .poll 0 .first,
  .aside (smallContext (smallServer 1 (some { secs := 1, nanos := 0 }))),
  .begin 0 (.schemas 0 { request := .refresh }), .poll 0 .first,
  .begin 0 (.tables 0 0 { request := .all }), .poll 0 .first,
  .aside (smallContext (smallServer oid none)),
  .begin 0 (.databases { request := .refresh })]

/-- With the oid that it had, the database keeps its schemas. -/
theorem run_branches_overtaking :
    (let s := (opened { readDatabaseList := true } (smallServer 1 none)).run (overtaking 2)
    let s' := s.step (.poll 0 .first)
    (s'.listings (.schemas 0)).length = 1 ∧ s'.Invalidated (.schemas 0) ∧
      (s'.listings (.tables 0 0)).length = 1 ∧ s'.Invalidated (.tables 0 0)) ∧
    (let s := (opened { readDatabaseList := true } (smallServer 1 none)).run (overtaking 1)
    let s' := s.step (.poll 0 .first)
    (s'.listings (.schemas 0)).length = 1 ∧ ∃ database database',
      s.source.database? 0 = some database ∧ s'.source.database? 0 = some database' ∧
        database'.schemas = database.schemas) := by
  have hproper : ∀ oid, ∀ move ∈ overtaking oid, move.Proper := by
    simp [overtaking, Move.Proper, Job.stage]
  constructor
  · intro s s'
    obtain ⟨database, database', hbefore, hafter, hinvalidated, -⟩ :=
      run_branches { readDatabaseList := true } (smallServer 1 none) (overtaking 2)
        (.poll 0 .first) (hproper 2) trivial 0 (by decide +kernel)
    have hread : (s.source.database? 0).map (fun database => (database.oid, database.branches 0)) =
        some (1, [.schemas 0, .tables 0 0]) := by decide +kernel
    have hread' : (s'.source.database? 0).map (·.oid) = some 2 := by decide +kernel
    have hrefreshes : s.Refreshes (.poll 0 .first) :=
      ⟨{ request := .refresh }, by decide +kernel⟩
    rw [hbefore] at hread
    rw [hafter] at hread'
    obtain ⟨hoid, hbranches⟩ := Prod.mk.inj (Option.some.inj hread)
    have hoid' : database'.oid = 2 := Option.some.inj hread'
    have hall := hinvalidated (.inr ⟨hrefreshes, by simp [hoid], by simp [hoid, hoid']⟩)
    rw [hbranches] at hall
    exact ⟨by decide +kernel, hall _ (by simp), by decide +kernel, hall _ (by simp)⟩
  · intro s s'
    obtain ⟨database, database', hbefore, hafter, -, hkeeps⟩ :=
      run_branches { readDatabaseList := true } (smallServer 1 none) (overtaking 1)
        (.poll 0 .first) (hproper 1) trivial 0 (by decide +kernel)
    have hsame : (s'.source.database? 0).map (fun database => (database.name, database.oid)) =
        (s.source.database? 0).map fun database => (database.name, database.oid) := by
      decide +kernel
    have hrefreshes : s.Refreshes (.poll 0 .first) :=
      ⟨{ request := .refresh }, by decide +kernel⟩
    rw [hbefore, hafter] at hsame
    obtain ⟨hname, hoid⟩ := Prod.mk.inj (Option.some.inj hsame)
    obtain ⟨-, hschemas⟩ :=
      hkeeps hrefreshes 0 (by decide +kernel) database' hafter hname
    exact ⟨by decide +kernel, database, database', hbefore, hafter,
      (hschemas fun hother => hother.2 hoid).1⟩

end Scene

end CatalogBrowser
