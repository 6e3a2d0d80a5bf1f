import CatalogBrowser.Proofs.DataSource.Recreation
import Mathlib.Logic.Relation

/-!
# Schemas that are renamed

A schema is found by its oid, and so it outlives its name. Its tables are listed under the name that
it was last seen under, and they stay when a refresh brings another name. Where a schema is renamed
before its tables are read, and the name is read again only after that, the tables are those of
whichever schema had the old name in the meantime, or there are none.

## Main definitions

* `Document.Renames` - the schemas of a database change their names, and nothing else.
* `Session.Moment`, `Session.Moment.Step` - a session with what there is to see, and what happens.
* `Session.Moment.Read` - how a schema has come to its tables.

## Main statements

* `Session.Moment.tables_of_refreshed` - which tables the schemas hold after a refresh.
-/

namespace CatalogBrowser

open Cache (Request firstOfEach)
open Relation (ReflTransGen)

namespace Document

variable {document document' document'' : Document} {database name : String}

/-- The schemas of a database. There are none if it does not exist. -/
def schemaEntries (document : Document) (database : String) : List SchemaEntry :=
  (document.database? database).toOption.elim [] (·.schemas)

/-- The oids of the schemas of a database, with what these hold. -/
def contents (document : Document) (database : String) : List (Nat × List TableRecord) :=
  (document.schemaEntries database).map fun entry => (entry.record.oid, entry.tables)

/-- The schemas of a database change their names, and nothing else. -/
def Renames (database : String) (document document' : Document) : Prop :=
  ∀ content, content ∈ document.contents database ↔ content ∈ document'.contents database

/-- The oid of the schema that has a name. -/
def holder? (document : Document) (database name : String) : Option Nat :=
  ((document.schemaEntries database).find? (·.record.name = name)).map (·.record.oid)

/-- The server has these tables for an oid, by name and of those with one name the first. -/
def HasTables (document : Document) (database : String) (oid : Nat) (rows : List TableRecord) :
    Prop :=
  ∃ tables, (oid, tables) ∈ document.contents database ∧
    rows = firstOfEach (fun row => .name row.name) (tables.mergeSort (·.name ≤ ·.name))

theorem Renames.refl (database : String) (document : Document) :
    document.Renames database document :=
  fun _ => .rfl

theorem Renames.trans (h : document.Renames database document')
    (h' : document'.Renames database document'') : document.Renames database document'' :=
  fun content => (h content).trans (h' content)

theorem Renames.hasTables {oid : Nat} {rows : List TableRecord}
    (h : document.Renames database document') (htables : document.HasTables database oid rows) :
    document'.HasTables database oid rows := by
  obtain ⟨tables, hmem, hrows⟩ := htables
  exact ⟨tables, (h _).1 hmem, hrows⟩

/-- The tables that are listed under a name are those of the schema that has it. -/
theorem tableRows_eq_ok {rows : List TableRecord}
    (h : document.tableRows database name = .ok rows) :
    (∀ oid, document.holder? database name = some oid → document.HasTables database oid rows) ∧
      (document.holder? database name = none → rows = []) := by
  rw [tableRows] at h
  rw [holder?, schemaEntries]
  cases hdatabase : document.database? database with
  | error error =>
    rw [hdatabase] at h
    cases h
  | ok entry =>
    have hentries : document.schemaEntries database = entry.schemas := by
      rw [schemaEntries, hdatabase]
      rfl
    rw [hdatabase] at h
    have hrows : rows = entry.tableRows name := (Except.ok.inj h).symm
    rw [DatabaseEntry.tableRows] at hrows
    show (∀ oid, (entry.schemas.find? _).map _ = some oid → _) ∧
      ((entry.schemas.find? _).map _ = none → _)
    cases hfound : entry.schemas.find? (·.record.name = name) with
    | none =>
      rw [hfound, Option.map_none, Option.getD_none, List.mergeSort_nil] at hrows
      exact ⟨fun _ hnone => (by cases hnone), fun _ => hrows⟩
    | some schema =>
      rw [hfound] at hrows
      refine ⟨?_, fun hnone => (by cases hnone)⟩
      rintro oid ⟨⟩
      have hmem : (schema.record.oid, schema.tables) ∈ document.contents database := by
        rw [contents, hentries]
        exact List.mem_map_of_mem (List.mem_of_find?_eq_some hfound)
      exact ⟨schema.tables, hmem, hrows⟩

end Document

namespace Cache

variable {ρ α : Type} {source : Source ρ α} {c c' : Cache α} {object : α} {P : α → Prop}

/-- An object that stands in the view of a cache. -/
def Presents (c : Cache α) (object : α) : Prop :=
  ∃ ref ∈ c.snapshot.entries, c.object? ref = some object

theorem Presents.mem_of_loaded? (h : c.Presents object) {objects : List α}
    (hloaded : c.loaded? = some objects) : object ∈ objects := by
  obtain ⟨ref, href, hobject⟩ := h
  rw [loaded?, isFullyCached] at hloaded
  by_cases hcomplete : c.snapshot.complete = true
  · rw [if_pos hcomplete, cachedObjects, if_pos hcomplete] at hloaded
    obtain rfl := Option.some.inj hloaded
    exact List.mem_filterMap.2 ⟨ref, href, hobject⟩
  · rw [if_neg hcomplete] at hloaded
    cases hloaded

theorem SameContents.presents (h : c.SameContents c') (hpresents : c'.Presents object) :
    c.Presents object := by
  obtain ⟨ref, href, hobject⟩ := hpresents
  exact ⟨ref, h.snapshot ▸ href, h.object? ▸ hobject⟩

theorem Indexed.presents_of_namesake? (h : c.Indexed source) {fresh : α}
    (hexisting : c.namesake? source fresh = some object) : c.Presents object := by
  obtain ⟨ref, hcached, hobject⟩ := Option.bind_eq_some_iff.1 hexisting
  exact ⟨ref, (h.find?_eq_some_iff.1 hcached).1, hobject⟩

/-- What is true of the objects in view stays true when the whole collection is loaded, if it is
true of new objects and merging keeps it. -/
theorem Brings.forall_presents {listed : Except ConnectionError (List ρ)} {request : Request}
    {result : Result} (h : Brings source listed request c c' result) (hindexed : c.Indexed source)
    (hconstruct : ∀ record object, source.construct record = some object → P object)
    (hmerge : ∀ existing fresh, P existing → P (source.merge existing fresh))
    (hP : ∀ object, c.Presents object → P object) (hpresents : c'.Presents object) : P object := by
  cases h with
  | recalls _ _ hsame | fails hsame => exact hP object (hsame.presents hpresents)
  | renews _ _ hrenewed =>
    obtain ⟨fresh, hfresh, rfl⟩ := List.mem_map.1 (hrenewed.stocked.mem_iff.2 hpresents)
    rw [renewal]
    cases hexisting : c.namesake? source fresh with
    | some existing => exact hmerge _ _ (hP existing (hindexed.presents_of_namesake? hexisting))
    | none =>
      obtain ⟨record, -, hrecord⟩ := List.mem_filterMap.1 ((unseen_sublist [] _).subset hfresh)
      exact hconstruct record fresh hrecord

end Cache

namespace Session

/-- A session, and what there is to see for it. -/
structure Moment where
  document : Document
  session : Session

namespace Moment

variable {db schema : Ref} {name : String} {start past now next : Moment} {seen owner : Schema}
  {rows : List TableRecord} {answer : Answer}

/-- Schemas of a database are renamed, or a call for its schemas or for the tables of one of them
is made and completed. -/
inductive Step (db : Ref) (name : String) : Moment → Moment → Prop
  | renames {document document' : Document} {s : Session} : document.Renames name document' →
      Step db name ⟨document, s⟩ ⟨document', s⟩
  | schemas {document : Document} {s s' : Session} {request : Request} {result : Routine.Result} :
      request.Bulk → s.Completes document (.schemas db { request }) result s' →
      Step db name ⟨document, s⟩ ⟨document, s'⟩
  | tables {document : Document} {s s' : Session} {schema : Ref} {owner : Schema}
      {result : Routine.Result} : s.source.schema? db schema = some owner →
      s.Completes document (.tables db schema { request := .all }) result s' →
      Step db name ⟨document, s⟩ ⟨document, s'⟩

/-- A schema has the tables that were listed in the past under the name that it was seen under. -/
structure Read (db : Ref) (name : String) (start now : Moment) (owner : Schema) (past : Moment)
    (seen : Schema) (rows : List TableRecord) : Prop where
  before : ReflTransGen (Step db name) start past
  since : ReflTransGen (Step db name) past now
  shown : ∃ database, past.session.source.database? db = some database ∧
    database.schemas.Presents seen
  oid : seen.oid = owner.oid
  unread : seen.tables.isFullyCached = false
  listed : past.document.tableRows name seen.name = .ok rows
  holds : owner.tables.Stocked Table.source (rows.map Table.ofRecord)

/-- A schema has no tables in memory, or has read them. -/
def Accounts (db : Ref) (name : String) (start now : Moment) (owner : Schema) : Prop :=
  owner.tables.snapshot = {} ∨ ∃ past seen rows, Read db name start now owner past seen rows

/-- What holds throughout: all schemas of the database account for their tables. -/
structure Kept (db : Ref) (name : String) (start now : Moment) : Prop where
  path : ReflTransGen (Step db name) start now
  reachable : now.session.Reachable
  database : ∃ database, now.session.source.database? db = some database ∧ database.name = name ∧
    ∀ owner, database.schemas.Presents owner → Accounts db name start now owner

theorem Accounts.tail (h : Accounts db name start now owner) (hstep : Step db name now next) :
    Accounts db name start next owner := by
  refine h.imp_right ?_
  rintro ⟨past, seen, rows, hread⟩
  exact ⟨past, seen, rows, { hread with since := hread.since.tail hstep }⟩

/-- Only the oid and the tables of a schema matter. -/
theorem Accounts.congr {owner' : Schema} (h : Accounts db name start now owner)
    (hoid : owner'.oid = owner.oid) (hsame : owner.tables.SameContents owner'.tables) :
    Accounts db name start now owner' := by
  rcases h with hempty | ⟨past, seen, rows, hread⟩
  · exact .inl (hsame.snapshot.trans hempty)
  · exact .inr ⟨past, seen, rows, { hread with
      oid := hread.oid.trans hoid.symm
      holds := hsame.stocked hread.holds }⟩

/-- A call for the tables of a schema lists them under the name that the schema was last seen under,
unless they are in memory. -/
theorem Kept.accounts_tables {document : Document} {s s' : Session} {result : Routine.Result}
    (h : Kept db name start ⟨document, s⟩) (howner : s.source.schema? db schema = some owner)
    {database : Database} (hdatabase : s.source.database? db = some database)
    (hname : database.name = name) (hpresents : database.schemas.Presents owner)
    (haccounts : Accounts db name start ⟨document, s⟩ owner)
    (hcall : s.Completes document (.tables db schema { request := .all }) result s')
    {tables : Cache Table} {outcome : Cache.Result}
    (hbrings : Cache.Brings Table.source (document.listTables owner.database owner.name) .all
      owner.tables tables outcome) :
    Accounts db name start ⟨document, s'⟩ { owner with tables } := by
  have hstep : Step db name ⟨document, s⟩ ⟨document, s'⟩ := .tables howner hcall
  have hbelongs := h.reachable.orderly.of_schema? hdatabase howner
  cases hbrings with
  | recalls _ _ hsame | fails hsame => exact (haccounts.tail hstep).congr rfl hsame
  | @renews records _ hlisted hmissing hrenewed =>
    have hunread := hmissing rfl
    have hempty : owner.tables.snapshot = {} :=
      (h.reachable.rests hcall.idle (DataSource.site?_tables howner)).whole.empty hunread
    rw [hbelongs.database, hname] at hlisted
    exact .inr ⟨⟨document, s⟩, owner, firstOfEach (fun row => .name row.name) records,
      h.path, .single hstep, ⟨database, hdatabase, hpresents⟩, rfl, hunread,
      Document.tableRows_of_listTables hlisted,
      Table.stocked_of_empty hbelongs.keyPolicy hempty hrenewed⟩

/-- Whatever is called, and however it ends, all schemas go on to account for their tables. -/
theorem Kept.step (h : Kept db name start now) (hstep : Step db name now next) :
    Kept db name start next := by
  have hpath := h.path.tail hstep
  obtain ⟨database, hdatabase, hname, haccounts⟩ := h.database
  cases hstep with
  | @renames document document' s hrenames =>
    refine ⟨hpath, h.reachable, database, hdatabase, hname, fun owner hpresents => ?_⟩
    exact (haccounts owner hpresents).tail (.renames hrenames)
  | @schemas document s s' request result hbulk hcall =>
    obtain ⟨-, schemas, outcome, -, hsource, hbrings⟩ := hcall.schemas h.reachable hbulk hdatabase
    refine ⟨hpath, hcall.reachable h.reachable rfl, { database with schemas }, ?_, hname, ?_⟩
    · rw [show s'.source = _ from hsource]
      exact DataSource.database?_putSchemas_self hdatabase schemas
    · intro owner hpresents
      refine hbrings.forall_presents (h.reachable.orderly.of_database? hdatabase).indexed ?_ ?_
        (fun owner hpresents => (haccounts owner hpresents).tail (.schemas hbulk hcall)) hpresents
      · rintro record owner ⟨⟩
        exact .inl rfl
      · exact fun existing fresh hexisting => hexisting.congr rfl (.refl existing.tables)
  | @tables document s s' schema owner result howner hcall =>
    obtain ⟨-, tables, outcome, -, hsource, hbrings⟩ := hcall.tables h.reachable trivial howner
    rw [DataSource.putTables_eq hdatabase] at hsource
    set schemas := database.schemas.modifyObject schema ({ · with tables })
    refine ⟨hpath, hcall.reachable h.reachable rfl, { database with schemas }, ?_, hname, ?_⟩
    · rw [show s'.source = _ from hsource]
      exact DataSource.database?_putSchemas_self hdatabase schemas
    · rintro other ⟨ref, href, hother⟩
      by_cases hsame : ref = schema
      · subst hsame
        have hobject : database.schemas.object? ref = some owner := by
          obtain ⟨database', hdatabase', hobject⟩ := DataSource.schema?_eq_some_iff.1 howner
          obtain rfl := Option.some.inj (hdatabase.symm.trans hdatabase')
          exact hobject
        obtain rfl : { owner with tables } = other := Option.some.inj
          ((Cache.object?_modifyObject_self _ hobject).symm.trans hother)
        have hpresents : database.schemas.Presents owner := ⟨ref, href, hobject⟩
        exact h.accounts_tables howner hdatabase hname hpresents (haccounts owner hpresents) hcall
          hbrings
      · have hobject : database.schemas.object? ref = some other :=
          (database.schemas.object?_modifyObject_of_ne hsame _).symm.trans hother
        exact (haccounts other ⟨ref, href, hobject⟩).tail (.tables howner hcall)

/-- A session in which no tables were read yet. -/
theorem kept_refl {database : Database} (hs : start.session.Reachable)
    (hidle : start.session.tasks = [])
    (hdatabase : start.session.source.database? db = some database)
    (hunread : ∀ ref owner, start.session.source.schema? db ref = some owner →
      owner.tables.isFullyCached = false) : Kept db database.name start start where
  path := .refl
  reachable := hs
  database := by
    refine ⟨database, hdatabase, rfl, ?_⟩
    rintro owner ⟨ref, -, hobject⟩
    have howner : start.session.source.schema? db ref = some owner :=
      DataSource.schema?_eq_some_iff.2 ⟨database, hdatabase, hobject⟩
    have hrests := hs.rests hidle (DataSource.site?_tables howner)
    exact .inl (hrests.whole.empty (hunread ref owner howner))

theorem Kept.run (h : Kept db name start past) (hrun : ReflTransGen (Step db name) past now) :
    Kept db name start now := by
  induction hrun with
  | refl => exact h
  | tail _ hstep ih => exact ih.step hstep

/-- Whatever happens to the names of schemas, the oids keep what they hold. -/
theorem renames_of_run (hrun : ReflTransGen (Step db name) past now) :
    past.document.Renames name now.document := by
  induction hrun with
  | refl => exact .refl name past.document
  | tail _ hstep ih =>
    cases hstep with
    | renames hrenames => exact ih.trans hrenames
    | schemas | tables => exact ih

/-- Once the schemas of a database are refreshed, each of them has the name that the server gives
its oid now. If its tables are in memory, then they were listed at some time in the past under the
name that the schema was last seen under then. They are what the server has for the oid that had
this name at that time, whether or not it is the oid of the schema, and none if there was no such
oid. -/
theorem tables_of_refreshed {database : Database} {s' : Session} (hs : start.session.Reachable)
    (hidle : start.session.tasks = [])
    (hdatabase : start.session.source.database? db = some database)
    (hunread : ∀ ref owner, start.session.source.schema? db ref = some owner →
      owner.tables.isFullyCached = false)
    (hrun : ReflTransGen (Step db database.name) start now)
    (hrefresh : now.session.Completes now.document (.schemas db { request := .refresh })
      (.ok answer) s') :
    ∃ refreshed listed, s'.source.database? db = some refreshed ∧
      now.document.schemaRows database.name = .ok listed ∧
      ∀ owner, refreshed.schemas.Presents owner → owner.info ∈ listed ∧
        (owner.tables.isFullyCached = true → ∃ past seen rows,
          Read db database.name start ⟨now.document, s'⟩ owner past seen rows ∧
          owner.tables.loaded? = some (rows.map Table.ofRecord) ∧
          (∀ oid, past.document.holder? database.name seen.name = some oid →
            now.document.HasTables database.name oid rows) ∧
          (past.document.holder? database.name seen.name = none → rows = [])) := by
  have hbulk : Request.Bulk .refresh := trivial
  have hstep : Step db database.name now ⟨now.document, s'⟩ := .schemas hbulk hrefresh
  have hkept := (kept_refl hs hidle hdatabase hunread).run hrun
  have hafter := hkept.step hstep
  obtain ⟨current, hcurrent, hname, -⟩ := hkept.database
  obtain ⟨refreshed, hrefreshed, -, haccounts⟩ := hafter.database
  obtain ⟨listed, shown, hlisted, hshown, hdirectory⟩ := hrefresh.directory_schemas hkept.reachable
    hcurrent hbulk fun hall => by cases hall
  obtain rfl : refreshed = shown := Option.some.inj (hrefreshed.symm.trans hshown)
  refine ⟨refreshed, listed, hrefreshed, hname ▸ hlisted, fun owner hpresents => ⟨?_, ?_⟩⟩
  · obtain ⟨schemas, hloaded, hinfo⟩ := Option.map_eq_some_iff.1 (congrArg Directory.all hdirectory)
    rw [← hinfo]
    exact List.mem_map_of_mem (hpresents.mem_of_loaded? hloaded)
  · intro hloaded
    rcases haccounts owner hpresents with hempty | ⟨past, seen, rows, hread⟩
    · rw [Cache.isFullyCached, hempty] at hloaded
      cases hloaded
    · obtain ⟨hheld, hnone⟩ := Document.tableRows_eq_ok hread.listed
      refine ⟨past, seen, rows, hread, hread.holds.loaded?_eq, fun oid hoid => ?_, hnone⟩
      exact (renames_of_run hread.since).hasTables (hheld oid hoid)

section Relation

variable {row : TableRecord}

theorem renames_relationServer (row : TableRecord) (schema schema' : String) :
    (relationServer schema row).document.Renames "app" (relationServer schema' row).document :=
  fun _ => .rfl

/-- A schema is renamed after its tables were read. -/
theorem tables_of_refreshed_kept :
    let row : TableRecord := { oid := 21, name := "t" }
    let earlier := relationServer "a" row
    let later := relationServer "b" row
    let s := schemaSession earlier
    let loaded := s.call earlier (.tables 0 0 { request := .all })
    let refreshed := loaded.call later (.schemas 0 { request := .refresh })
    ∃ owner, refreshed.source.schema? 0 0 = some owner ∧ owner.info = { oid := 11, name := "b" } ∧
      owner.tables.loaded? = some [.ofRecord row] ∧ ∃ past seen,
        Read 0 "app" ⟨earlier.document, s⟩ ⟨later.document, refreshed⟩ owner past seen [row] ∧
        ∀ oid, past.document.holder? "app" seen.name = some oid →
          later.document.HasTables "app" oid [row] := by
  intro row earlier later s loaded refreshed
  have hidle : s.tasks = [] ∧ loaded.tasks = [] := by decide +kernel
  have hload : s.Completes earlier.document (.tables 0 0 { request := .all })
      (.ok (.tables 0 0 (.objects [0]))) loaded := completes_call hidle.1 (by decide +kernel)
  have hrefresh : loaded.Completes later.document (.schemas 0 { request := .refresh })
      (.ok (.schemas 0 (.changes { updated := [0] }))) refreshed :=
    completes_call hidle.2 (by decide +kernel)
  have hseen : (s.source.database? 0).map (fun database => (database.name,
      database.schemas.objects.all fun owner => !owner.tables.isFullyCached)) = some ("app", true) ∧
      (s.source.schema? 0 0).isSome = true := by decide +kernel
  have hafter : (refreshed.source.database? 0).map (·.schemas.snapshot.entries) = some [0] ∧
      (refreshed.source.schema? 0 0).map (fun owner => (owner.info, owner.tables.loaded?)) =
        some ({ oid := 11, name := "b" }, some [Table.ofRecord row]) := by decide +kernel
  have hs : s.Reachable := reachable_schemaSession earlier
  clear_value s loaded refreshed
  obtain ⟨database, hdatabase, hfields⟩ := Option.map_eq_some_iff.1 hseen.1
  obtain ⟨hname, hunread⟩ := Prod.mk.inj hfields
  obtain ⟨owner, howner⟩ := Option.isSome_iff_exists.1 hseen.2
  have hnone : ∀ ref owner, s.source.schema? 0 ref = some owner →
      owner.tables.isFullyCached = false := by
    intro ref owner howner
    obtain ⟨other, hother, hobject⟩ := DataSource.schema?_eq_some_iff.1 howner
    obtain rfl := Option.some.inj (hother.symm.trans hdatabase)
    have hmem := Array.mem_of_getElem? hobject
    simpa using Array.all_eq_true_iff_forall_mem.1 hunread owner hmem
  have hrun : ReflTransGen (Step 0 database.name) ⟨earlier.document, s⟩
      ⟨later.document, loaded⟩ := by
    rw [hname]
    exact .tail (.single (.tables howner hload)) (.renames (renames_relationServer row "a" "b"))
  obtain ⟨shown, listed, hshown, -, hall⟩ :=
    tables_of_refreshed hs hidle.1 hdatabase hnone hrun hrefresh
  obtain ⟨renamed, hrenamed, hrenamedFields⟩ := Option.map_eq_some_iff.1 hafter.2
  obtain ⟨hinfo, hloaded⟩ := Prod.mk.inj hrenamedFields
  refine ⟨renamed, hrenamed, hinfo, hloaded, ?_⟩
  have hpresents : shown.schemas.Presents renamed := by
    obtain ⟨other, hother, hobject⟩ := DataSource.schema?_eq_some_iff.1 hrenamed
    obtain rfl := Option.some.inj (hother.symm.trans hshown)
    rw [hshown] at hafter
    exact ⟨0, by simp [Option.some.inj hafter.1], hobject⟩
  have hcached : renamed.tables.isFullyCached = true := by
    rw [Cache.loaded?] at hloaded
    by_contra hmissing
    rw [if_neg hmissing] at hloaded
    cases hloaded
  obtain ⟨past, seen, rows, hread, hrows, hheld, -⟩ := (hall renamed hpresents).2 hcached
  obtain rfl : rows = [row] := by
    have hsame := Option.some.inj (hrows.symm.trans hloaded)
    simpa [Table.info_ofRecord] using congrArg (List.map Table.info) hsame
  rw [hname] at hread hheld
  exact ⟨past, seen, hread, hheld⟩

/-- A schema is renamed, its tables are read under the old name, and the new name is read. -/
theorem tables_of_refreshed_missed :
    let row : TableRecord := { oid := 21, name := "t" }
    let earlier := relationServer "a" row
    let later := relationServer "b" row
    let s := schemaSession earlier
    let loaded := s.call later (.tables 0 0 { request := .all })
    let refreshed := loaded.call later (.schemas 0 { request := .refresh })
    ReflTransGen (Step 0 "app") ⟨earlier.document, s⟩ ⟨later.document, loaded⟩ ∧
      loaded.Completes later.document (.schemas 0 { request := .refresh })
        (.ok (.schemas 0 (.changes { updated := [0] }))) refreshed ∧
      (refreshed.source.schema? 0 0).map Schema.info = some { oid := 11, name := "b" } ∧
      refreshed.source.tableRows? 0 0 = some [] ∧
      ∀ rows, later.document.HasTables "app" 11 rows → rows = [row] := by
  intro row earlier later s loaded refreshed
  have hidle : s.tasks = [] ∧ loaded.tasks = [] := by decide +kernel
  have hload : s.Completes later.document (.tables 0 0 { request := .all })
      (.ok (.tables 0 0 (.objects []))) loaded := completes_call hidle.1 (by decide +kernel)
  have hrefresh : loaded.Completes later.document (.schemas 0 { request := .refresh })
      (.ok (.schemas 0 (.changes { updated := [0] }))) refreshed :=
    completes_call hidle.2 (by decide +kernel)
  obtain ⟨owner, howner⟩ : ∃ owner, s.source.schema? 0 0 = some owner :=
    Option.isSome_iff_exists.1 (by decide +kernel)
  have hrenamed : Step 0 "app" ⟨earlier.document, s⟩ ⟨later.document, s⟩ :=
    .renames (renames_relationServer row "a" "b")
  refine ⟨.tail (.single hrenamed) (.tables howner hload), hrefresh, by decide +kernel,
    by decide +kernel, ?_⟩
  rintro rows ⟨tables, hmem, rfl⟩
  obtain rfl : tables = [row] := by simpa [later, relationServer, Document.contents,
    Document.schemaEntries, Document.database?, Except.toOption] using hmem
  rw [List.mergeSort_singleton]
  rfl

end Relation

end Moment

end Session

end CatalogBrowser
