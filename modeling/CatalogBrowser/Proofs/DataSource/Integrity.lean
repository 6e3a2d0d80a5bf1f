import CatalogBrowser.Proofs.DataSource.Attempt
import CatalogBrowser.Proofs.DataSource.Rest

/-!
# What holds everywhere in the tree

Every object of the tree was constructed by the cache that it is in, and has been merged into,
edited and dropped by that cache since. So what these operations leave true of an object is true of
all objects at all times. A view that is published gives each object under its key, and a schema
knows the name of the database that it belongs to, which never changes.

## Main definitions

* `Cache.Every` - all instances that a cache ever made have a property.
* `Cache.Maintains` - a property that a cache gives its objects and never takes from them.
* `Schema.Belongs`, `Database.Orderly`, `DataSource.Orderly` - what is true of the tree.

## Main statements

* `Session.Reachable.orderly` - it is true in every session.
-/

namespace CatalogBrowser

open Cache (Edit Load)

namespace Cache

variable {ρ α κ : Type} {source : Source ρ α} {P : α → Prop} {c c' : Cache α}

/-- All instances that the cache ever made have a property. -/
def Every (P : α → Prop) (c : Cache α) : Prop :=
  ∀ ref object, c.object? ref = some object → P object

/-- A property that a cache gives its objects and never takes from them. -/
structure Maintains (source : Source ρ α) (P : α → Prop) : Prop where
  construct : ∀ record object, source.construct record = some object → P object
  merge : ∀ existing fresh, P existing → P (source.merge existing fresh)
  evicted : ∀ object, P object → P (source.evicted object)

theorem Maintains.upkeep (h : Maintains source P) :
    Upkeep source fun object object' => P object → P object' where
  refl _ hobject := hobject
  trans hfirst hsecond hobject := hsecond (hfirst hobject)
  merge := h.merge
  evicted := h.evicted

theorem Every.develops (h : c.Every P)
    (hdevelops : Develops (fun object object' => P object → P object') P c.objects c'.objects) :
    c'.Every P := by
  intro ref object' hobject'
  cases hobject : c.object? ref with
  | some object =>
    obtain ⟨other, hother, hkeeps⟩ := hdevelops.old ref object hobject
    obtain rfl := Option.some.inj (hother.symm.trans hobject')
    exact hkeeps (h ref object hobject)
  | none =>
    obtain ⟨object, hnew, hkeeps⟩ :=
      hdevelops.new ref object' (Array.getElem?_eq_none_iff.1 hobject) hobject'
    exact hkeeps hnew

theorem Every.ran (h : c.Every P) (hP : Maintains source P) {load : Load κ} {stage? : Option Stage}
    (hran : Load.Ran source c load c' stage?) : c'.Every P :=
  h.develops (hran.develops hP.upkeep hP.construct)

theorem Every.edit (h : c.Every P) (hP : Maintains source P) {edit : Edit α}
    (hedit : edit.Plain P) : (edit.apply source c).2.1.Every P :=
  h.develops (develops_edit hP.upkeep (hedit.respects fun _ => id))

theorem Every.modifyObject (h : c.Every P) {ref : Ref} {f : α → α}
    (hf : ∀ object, c.object? ref = some object → P (f object)) : (c.modifyObject ref f).Every P :=
  h.develops (develops_modify (fun _ => id) fun object hobject _ => hf object hobject)

/-- An edit that brings nothing in changes no key. -/
theorem Indexed.withdraw (h : c.Indexed source) {New : α → Prop} {edit : Edit α}
    (hedit : edit.Plain New) : (edit.apply source c).2.1.Indexed source := by
  have hkeeps : KeepsIdentity source { cache := c } (.edit edit) := by
    rcases hedit with hwithdraws | ⟨fresh, rfl, -⟩
    · cases edit with
      | clear | remove | sort => trivial
      | set | reconcile | insert | change => exact hwithdraws.elim
    · trivial
  exact indexed_edit h hkeeps

/-- A change of an instance that leaves its identity alone changes no key. -/
theorem Indexed.modifyObject (h : c.Indexed source) (ref : Ref) {f : α → α}
    (hf : ∀ object, source.identity (f object) = source.identity object) :
    (c.modifyObject ref f).Indexed source := by
  have hkeeps : KeepsIdentity source { cache := c } (.edit (.change ref f)) :=
    fun _ object _ => congrArg c.key (hf object)
  exact indexed_edit h hkeeps

end Cache

/-- A schema of a database of a name, whose tables are told apart by their exact names. -/
structure Schema.Belongs (database : String) (schema : Schema) : Prop where
  database : schema.database = database
  keyPolicy : schema.tables.config.keyPolicy = .exact
  indexed : schema.tables.Indexed Table.source

/-- A database whose schemas belong to it, and are found by their oids. -/
structure Database.Orderly (database : Database) : Prop where
  indexed : database.schemas.Indexed (Schema.source database.name)
  below : database.schemas.Every (Schema.Belongs database.name)

/-- A data source whose databases are orderly, and are found by their exact names. -/
structure DataSource.Orderly (ds : DataSource) : Prop where
  config : ds.databases.config = Database.cacheConfig
  indexed : ds.databases.Indexed Database.source
  below : ds.databases.Every Database.Orderly

section Maintains

theorem Table.keepsKeys_merge (tables : Cache Table) :
    Cache.KeepsKeys (tables.objectKey Table.source) Table.source.merge := fun _ _ _ => rfl

theorem Schema.keepsKeys_merge (schemas : Cache Schema) (database : String) :
    Cache.KeepsKeys (schemas.objectKey (Schema.source database)) (Schema.source database).merge :=
  fun _ _ _ => rfl

theorem Schema.maintains_belongs (database : String) :
    Cache.Maintains (Schema.source database) (Schema.Belongs database) where
  construct record schema hconstruct := by
    obtain rfl : Schema.ofRecord database record = schema := Option.some.inj hconstruct
    exact ⟨rfl, rfl, Cache.indexed_empty _ _⟩
  merge _ _ h := ⟨h.database, h.keyPolicy, h.indexed⟩
  evicted schema h :=
    have hclear : (.clear : Edit Table).Plain fun _ => False := .inl trivial
    ⟨h.database, h.keyPolicy, h.indexed.withdraw hclear⟩

theorem Database.Pristine.orderly {database : Database} (h : database.Pristine) :
    database.Orderly := by
  have hschemas : database.schemas = { config := database.schemas.config } := h
  constructor
  · rw [hschemas]
    exact Cache.indexed_empty _ _
  · intro ref schema hschema
    rw [hschemas] at hschema
    cases hschema

theorem Database.Orderly.cleared {database : Database} (h : database.Orderly) :
    database.cleared.Orderly :=
  have hclear : (.clear : Edit Schema).Plain (Schema.Belongs database.name) := .inl trivial
  ⟨h.indexed.withdraw hclear, h.below.edit (Schema.maintains_belongs database.name) hclear⟩

/-- A database is merged into another one of its name, or cleared. -/
theorem Database.maintains_orderly : Cache.Maintains Database.source Database.Orderly where
  construct record database hconstruct := by
    obtain rfl : Database.ofRecord record = database := Option.some.inj hconstruct
    exact (Database.pristine_ofRecord record).orderly
  merge existing fresh h := by
    by_cases hrecreated : existing.wasRecreated fresh = true
    · have hmerged : (existing.merge fresh).schemas = existing.cleared.schemas := by
        simp only [Database.merge, if_pos hrecreated]
      exact ⟨hmerged ▸ h.cleared.indexed, hmerged ▸ h.cleared.below⟩
    · have hmerged : (existing.merge fresh).schemas = existing.schemas := by
        simp only [Database.merge, if_neg hrecreated]
      exact ⟨hmerged ▸ h.indexed, hmerged ▸ h.below⟩
  evicted _ h := h.cleared

end Maintains

namespace DataSource

variable {ds ds' : DataSource} {db schema : Ref} {database : Database} {owner : Schema}

theorem Orderly.of_database? (h : ds.Orderly) (hdatabase : ds.database? db = some database) :
    database.Orderly :=
  h.below db database hdatabase

theorem Orderly.of_schema? (h : ds.Orderly) (hdatabase : ds.database? db = some database)
    (howner : ds.schema? db schema = some owner) : owner.Belongs database.name := by
  obtain ⟨other, hother, hschema⟩ := schema?_eq_some_iff.1 howner
  obtain rfl := Option.some.inj (hother.symm.trans hdatabase)
  exact (h.of_database? hdatabase).below schema owner hschema

/-- Only the databases matter. -/
theorem Orderly.congr (h : ds.Orderly) (hdatabases : ds'.databases = ds.databases) :
    ds'.Orderly := by
  constructor
  all_goals rw [hdatabases]
  exacts [h.config, h.indexed, h.below]

theorem Orderly.putSchemas (h : ds.Orderly) (hdatabase : ds.database? db = some database)
    {schemas : Cache Schema} (hindexed : schemas.Indexed (Schema.source database.name))
    (hbelow : schemas.Every (Schema.Belongs database.name)) :
    (ds.putSchemas db schemas).Orderly where
  config := h.config
  indexed := indexed_putSchemas h.indexed db schemas
  below := by
    refine h.below.modifyObject fun other hother => ?_
    obtain rfl : database = other := Option.some.inj (hdatabase.symm.trans hother)
    exact ⟨hindexed, hbelow⟩

theorem Orderly.putTables (h : ds.Orderly) (howner : ds.schema? db schema = some owner)
    {tables : Cache Table} (hconfig : tables.config = owner.tables.config)
    (hindexed : tables.Indexed Table.source) : (ds.putTables db schema tables).Orderly := by
  obtain ⟨database, hdatabase, hschema⟩ := schema?_eq_some_iff.1 howner
  have hbelongs := h.of_schema? hdatabase howner
  rw [putTables_eq hdatabase]
  refine h.putSchemas hdatabase
    ((h.of_database? hdatabase).indexed.modifyObject schema fun _ => rfl) ?_
  refine (h.of_database? hdatabase).below.modifyObject fun other hother => ?_
  obtain rfl : owner = other := Option.some.inj (hschema.symm.trans hother)
  exact ⟨hbelongs.database, by rw [hconfig]; exact hbelongs.keyPolicy, hindexed⟩

end DataSource

theorem Job.Ran.orderly {ds ds' : DataSource} {job : Job} {left : Option Job}
    (h : job.Ran ds ds' left) (horderly : ds.Orderly) : ds'.Orderly := by
  have hindexed := h.indexed horderly.indexed
  cases h with
  | databases hload =>
    exact ⟨hload.descends.config.trans horderly.config, hindexed,
      horderly.below.ran Database.maintains_orderly hload⟩
  | @schemas db load database schemas left hdatabase hload =>
    have hbefore := horderly.of_database? hdatabase
    exact horderly.putSchemas hdatabase
      (hload.indexed hbefore.indexed (Schema.keepsKeys_merge _ database.name))
      (hbefore.below.ran (Schema.maintains_belongs database.name) hload)
  | tables howner hload =>
    obtain ⟨database, hdatabase, -⟩ := DataSource.schema?_eq_some_iff.1 howner
    exact horderly.putTables howner hload.descends.config
      (hload.indexed (horderly.of_schema? hdatabase howner).indexed (Table.keepsKeys_merge _))
  | nowhere => exact horderly

namespace Scene

variable {s : Scene} {move : Move} {moves : List Move}

/-- Every move leaves the tree orderly. -/
theorem orderly_step (h : s.source.Orderly) (hmove : move.Ordinary) :
    (s.step move).source.Orderly := by
  cases move with
  | begin => exact h
  | poll n monitor =>
    rw [step]
    cases hjob : s.jobs[n]? with
    | none => exact h
    | some job => exact (job.ran_run s.context monitor).orderly h
  | drop n =>
    rw [step]
    cases hjob : s.jobs[n]? with
    | none => exact h
    | some job => exact (job.ran_abandon s.context).orderly h
  | editDatabases edit =>
    have hedit : edit.Plain Database.Orderly := by
      refine Or.imp_right ?_ hmove
      rintro ⟨fresh, hset, hfresh⟩
      exact ⟨fresh, hset, fun database hmem => (hfresh database hmem).orderly⟩
    exact ⟨(Cache.descends_edit Database.source _ edit).config.trans h.config,
      h.indexed.withdraw hedit, h.below.edit Database.maintains_orderly hedit⟩
  | editSchemas db edit =>
    rw [step, Context.editSchemas]
    cases hdatabase : s.context.source.database? db with
    | none => exact h
    | some database =>
      have hbefore := h.of_database? hdatabase
      have hedit : edit.Plain (Schema.Belongs database.name) := .inl hmove
      exact h.putSchemas hdatabase (hbefore.indexed.withdraw hedit)
        (hbefore.below.edit (Schema.maintains_belongs database.name) hedit)
  | editTables db schema edit =>
    rw [step, Context.editTables]
    cases howner : s.context.source.schema? db schema with
    | none => exact h
    | some owner =>
      obtain ⟨database, hdatabase, -⟩ := DataSource.schema?_eq_some_iff.1 howner
      have hedit : edit.Plain fun _ : Table => False := .inl hmove
      exact h.putTables howner (Cache.descends_edit Table.source owner.tables edit).config
        ((h.of_schema? hdatabase howner).indexed.withdraw hedit)
  | aside elsewhere => exact h.congr rfl

theorem orderly_run (h : s.source.Orderly) (hmoves : ∀ move ∈ moves, move.Ordinary) :
    (s.run moves).source.Orderly := by
  induction moves generalizing s with
  | nil => exact h
  | cons move rest ih =>
    obtain ⟨hmove, hrest⟩ := List.forall_mem_cons.1 hmoves
    exact ih (orderly_step h hmove) hrest

theorem orderly_opened (connection : Connection) (server : Server) :
    (opened connection server).source.Orderly where
  config := rfl
  indexed := Cache.indexed_empty _ _
  below _ _ hdatabase := by cases hdatabase

end Scene

/-- The tree is orderly in every session. -/
theorem Session.Reachable.orderly {s : Session} (h : s.Reachable) : s.source.Orderly := by
  obtain ⟨connection, server, moves, hmoves, hrun⟩ := h.scene
  have horderly := Scene.orderly_run (Scene.orderly_opened connection server) hmoves
  rw [hrun] at horderly
  exact horderly

end CatalogBrowser
