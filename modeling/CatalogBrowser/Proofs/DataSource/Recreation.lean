import CatalogBrowser.Proofs.DataSource.Reload

/-!
# Relations that were created again

Tables are found by their names, and of a table that is found again, a refresh takes over the row
estimate alone. So a relation that was dropped and created again under its name is shown with the
oid and the kind of the one that is gone. In all else a refresh and a new load agree.

## Main definitions

* `TableRecord.known` - a row as it is shown to who knew a relation of its name before.
* `DataSource.tableRows?` - the tables of a schema as a user sees them.

## Main statements

* `Session.refreshTables_eq_reload_iff` - when a refresh of tables and a new load show the same.
-/

namespace CatalogBrowser

open Cache (Request firstOfEach)

/-- What a user sees of a table. -/
def Table.info (table : Table) : TableRecord where
  oid := table.oid
  name := table.name
  kind := table.kind
  rows := table.rows

/-- The row of a relation as it is shown to who knew a relation of its name before: that one is
kept, with the new row estimate. -/
def TableRecord.known (former : List TableRecord) (row : TableRecord) : TableRecord :=
  (former.find? (·.name = row.name)).elim row ({ · with rows := row.rows })

/-- The tables of a schema as a user sees them, once they are loaded. -/
def DataSource.tableRows? (ds : DataSource) (db schema : Ref) : Option (List TableRecord) :=
  (ds.schema? db schema).bind fun owner => owner.tables.loaded?.map (·.map Table.info)

section Rows

variable {tables : Cache Table} {former rows : List TableRecord} {row : TableRecord}

/-- What a listing of tables makes of a cache. -/
theorem Table.stocked_of_renewed (hpolicy : tables.config.keyPolicy = .exact)
    {records : List TableRecord} {tables' : Cache Table}
    (hrenewed : tables.Renewed source records tables') :
    tables'.Stocked source
      (((firstOfEach (fun row => .name row.name) records).map ofRecord).map
        (tables.renewal source)) := by
  have hconstruct : source.construct = some ∘ ofRecord := rfl
  have hstocked := hrenewed.stocked
  rw [hconstruct, List.filterMap_eq_map, Cache.firstOfEach_map, objectKey_ofRecord hpolicy]
    at hstocked
  exact hstocked

/-- Where no tables were known, all are shown as they are listed. -/
theorem Table.stocked_of_empty (hpolicy : tables.config.keyPolicy = .exact)
    (hempty : tables.snapshot = {}) {records : List TableRecord} {tables' : Cache Table}
    (hrenewed : tables.Renewed source records tables') : tables'.Stocked source
      ((firstOfEach (fun row => .name row.name) records).map ofRecord) := by
  have hstocked := stocked_of_renewed hpolicy hrenewed
  rw [Cache.renewal_of_empty source hempty, List.map_id] at hstocked
  exact hstocked

theorem Table.info_ofRecord (record : TableRecord) : (ofRecord record).info = record := rfl

/-- A table that was merged into another one of its name keeps the oid and the kind of that. -/
theorem Table.renewal_ofRecord (hpolicy : tables.config.keyPolicy = .exact)
    (hstocked : tables.Stocked Table.source (former.map ofRecord)) (row : TableRecord) :
    tables.renewal Table.source (ofRecord row) = ofRecord (row.known former) := by
  have hkey := congrFun (Table.objectKey_ofRecord hpolicy)
  have hnamesake : tables.namesake? Table.source (ofRecord row) =
      (former.find? (·.name = row.name)).map ofRecord := by
    rw [hstocked.namesake?_eq, List.find?_map]
    refine congrArg (Option.map ofRecord) (congrArg (List.find? · former) (funext fun other => ?_))
    have hother := hkey other
    have hrow := hkey row
    rw [Function.comp_apply] at hother hrow
    simp [hother, hrow]
  rw [Cache.renewal, hnamesake, TableRecord.known]
  cases former.find? (·.name = row.name) with
  | none => rfl
  | some old => rfl

/-- A row is shown as it is unless another relation of its name was known before. -/
theorem TableRecord.known_eq_self_iff : row.known former = row ↔
    ∀ old, former.find? (·.name = row.name) = some old →
      old.oid = row.oid ∧ old.kind = row.kind := by
  rw [known]
  cases hfound : former.find? (·.name = row.name) with
  | none => simp
  | some old =>
    have hname : old.name = row.name := by simpa using List.find?_some hfound
    rw [Option.elim_some]
    constructor
    · rintro hsame _ ⟨⟩
      rw [← hsame]
      exact ⟨rfl, rfl⟩
    · intro hagree
      obtain ⟨hoid, hkind⟩ := hagree old rfl
      cases row
      simp_all

theorem TableRecord.map_known_eq_self_iff : rows.map (·.known former) = rows ↔
    ∀ row ∈ rows, ∀ old ∈ former.find? (·.name = row.name),
      old.oid = row.oid ∧ old.kind = row.kind := by
  constructor
  · intro hsame row hrow
    exact known_eq_self_iff.1 (List.map_inj_left.1 (hsame.trans (List.map_id rows).symm) row hrow)
  · intro hagree
    exact (List.map_congr_left fun row hrow => known_eq_self_iff.2 (hagree row hrow)).trans
      (List.map_id rows)

end Rows

namespace Session

variable {document : Document} {s s' : Session} {answer : Answer} {db schema : Ref}
  {owner : Schema} {former : List TableRecord}

theorem tableRows?_of_stocked {tables : Cache Table} {ds : DataSource} {rows : List TableRecord}
    (howner : ds.schema? db schema = some { owner with tables })
    (hstocked : tables.Stocked Table.source (rows.map Table.ofRecord)) :
    ds.tableRows? db schema = some rows := by
  rw [DataSource.tableRows?, howner, Option.bind_some, hstocked.loaded?_eq, Option.map_some,
    List.map_map]
  exact congrArg some (List.map_id'' Table.info_ofRecord rows)

/-- A schema whose tables were not read yet is stocked with all that the server lists. -/
theorem Completes.stocked_tables (hs : s.Reachable)
    (howner : s.source.schema? db schema = some owner)
    (hunread : owner.tables.isFullyCached = false)
    (h : s.Completes document (.tables db schema { request := .all }) (.ok answer) s') :
    ∃ rows tables, document.tableRows owner.database owner.name = .ok rows ∧
      s'.source.schema? db schema = some { owner with tables } ∧
      tables.Stocked Table.source (rows.map Table.ofRecord) := by
  obtain ⟨database, hdatabase, -⟩ := DataSource.schema?_eq_some_iff.1 howner
  have hbelongs := hs.orderly.of_schema? hdatabase howner
  have hempty : owner.tables.snapshot = {} :=
    (hs.rests h.idle (DataSource.site?_tables howner)).whole.empty hunread
  obtain ⟨-, tables, outcome, hresult, hsource, hbrings⟩ := h.tables hs trivial howner
  obtain ⟨records, hrecords, hrenewed⟩ := renewed_of_brings hbrings hresult fun _ => hunread
  refine ⟨_, tables, Document.tableRows_of_listTables hrecords, ?_,
    Table.stocked_of_empty hbelongs.keyPolicy hempty hrenewed⟩
  rw [hsource]
  exact DataSource.schema?_putTables_self howner tables

/-- A schema whose tables are refreshed is stocked with all that the server lists, as far as no
other relation was known under the name. -/
theorem Completes.stocked_refreshTables (hs : s.Reachable)
    (howner : s.source.schema? db schema = some owner)
    (hformer : owner.tables.Stocked Table.source (former.map Table.ofRecord))
    (h : s.Completes document (.tables db schema { request := .refresh }) (.ok answer) s') :
    ∃ rows tables, document.tableRows owner.database owner.name = .ok rows ∧
      s'.source.schema? db schema = some { owner with tables } ∧
      tables.Stocked Table.source ((rows.map (·.known former)).map Table.ofRecord) := by
  obtain ⟨database, hdatabase, -⟩ := DataSource.schema?_eq_some_iff.1 howner
  have hbelongs := hs.orderly.of_schema? hdatabase howner
  obtain ⟨-, tables, outcome, hresult, hsource, hbrings⟩ := h.tables hs trivial howner
  obtain ⟨records, hrecords, hrenewed⟩ :=
    renewed_of_brings hbrings hresult fun hall => by cases hall
  refine ⟨_, tables, Document.tableRows_of_listTables hrecords, ?_, ?_⟩
  · rw [hsource]
    exact DataSource.schema?_putTables_self howner tables
  · have hmerged : owner.tables.renewal Table.source ∘ Table.ofRecord =
        Table.ofRecord ∘ (·.known former) :=
      funext (Table.renewal_ofRecord hbelongs.keyPolicy hformer)
    have hstocked := Table.stocked_of_renewed hbelongs.keyPolicy hrenewed
    rw [List.map_map, hmerged, ← List.map_map] at hstocked
    exact hstocked

/-- A schema reads its tables, and later refreshes them. What it shows then is what a new load
shows, but for the oid and the kind of the tables that it knew before. -/
theorem refreshTables_eq_reload_iff {earlier later : Document} {s₁ s₂ : Session}
    {answer₁ answer₂ : Answer} (hs : s.Reachable)
    (howner : s.source.schema? db schema = some owner)
    (hunread : owner.tables.isFullyCached = false)
    (hload : s.Completes earlier (.tables db schema { request := .all }) (.ok answer₁) s₁)
    (hrefresh : s₁.Completes later (.tables db schema { request := .refresh }) (.ok answer₂) s₂) :
    ∃ former rows, earlier.tableRows owner.database owner.name = .ok former ∧
      later.tableRows owner.database owner.name = .ok rows ∧
      s₁.source.tableRows? db schema = some former ∧
      s₂.source.tableRows? db schema = some (rows.map (·.known former)) ∧
      ∀ {t t' : Session} {answer : Answer} {db' schema' : Ref} {unread : Schema}, t.Reachable →
        t.source.schema? db' schema' = some unread → unread.database = owner.database →
        unread.name = owner.name → unread.tables.isFullyCached = false →
        t.Completes later (.tables db' schema' { request := .all }) (.ok answer) t' →
        t'.source.tableRows? db' schema' = some rows ∧
          (s₂.source.tableRows? db schema = t'.source.tableRows? db' schema' ↔
            ∀ row ∈ rows, ∀ old ∈ former.find? (·.name = row.name),
              old.oid = row.oid ∧ old.kind = row.kind) := by
  obtain ⟨former, tables, hformer, howner₁, hstocked₁⟩ := hload.stocked_tables hs howner hunread
  obtain ⟨rows, tables₂, hrows, howner₂, hstocked₂⟩ :=
    hrefresh.stocked_refreshTables (hload.reachable hs rfl) howner₁ hstocked₁
  have hrefreshed : s₂.source.tableRows? db schema = some (rows.map (·.known former)) :=
    tableRows?_of_stocked howner₂ hstocked₂
  refine ⟨former, rows, hformer, hrows, tableRows?_of_stocked howner₁ hstocked₁, hrefreshed, ?_⟩
  intro t t' answer db' schema' unread ht hunread' hdatabase hname hmissing hreload
  obtain ⟨rows', tables', hrows', howner', hstocked'⟩ :=
    hreload.stocked_tables ht hunread' hmissing
  obtain rfl : rows' = rows := by
    rw [hdatabase, hname, show later.tableRows owner.database owner.name = _ from hrows] at hrows'
    exact (Except.ok.inj hrows').symm
  have hloaded := tableRows?_of_stocked howner' hstocked'
  refine ⟨hloaded, ?_⟩
  rw [hrefreshed, hloaded, Option.some_inj]
  exact TableRecord.map_known_eq_self_iff

section Relation

/-- A server with one relation, in a schema of a name. -/
def relationServer (schema : String) (row : TableRecord) : Server where
  document := { databases := [{
    record := { oid := 1, name := "app" }
    schemas := [{ record := { oid := 11, name := schema }, tables := [row] }] }] }

/-- A session in which the schema of the relation was read, and its tables were not. -/
def schemaSession (server : Server) : Session :=
  ((opened { readDatabaseList := true } server).call server (.databases { request := .all })).call
    server (.schemas 0 { request := .all })

theorem reachable_schemaSession (server : Server) : (schemaSession server).Reachable :=
  have hdatabases : (Routine.databases { request := .all }).Called := rfl
  have hschemas : (Routine.schemas 0 { request := .all }).Called := rfl
  ((reachable_opened _ server).call hdatabases server).call hschemas server

/-- The row estimate of a table is taken over. -/
theorem refreshTables_eq_reload_iff_grown :
    let earlier := relationServer "public" { oid := 21, name := "t", rows := some 5 }
    let later := relationServer "public" { oid := 21, name := "t", rows := some 7 }
    let loaded := (schemaSession earlier).call earlier (.tables 0 0 { request := .all })
    let refreshed := loaded.call later (.tables 0 0 { request := .refresh })
    let anew := (schemaSession later).call later (.tables 0 0 { request := .all })
    loaded.source.tableRows? 0 0 = some [{ oid := 21, name := "t", rows := some 5 }] ∧
      refreshed.source.tableRows? 0 0 = some [{ oid := 21, name := "t", rows := some 7 }] ∧
      refreshed.source.tableRows? 0 0 = anew.source.tableRows? 0 0 := by
  intro earlier later loaded refreshed anew
  have hidle : (schemaSession earlier).tasks = [] ∧ loaded.tasks = [] ∧
      (schemaSession later).tasks = [] := by decide +kernel
  have hload : (schemaSession earlier).Completes earlier.document (.tables 0 0 { request := .all })
      (.ok (.tables 0 0 (.objects [0]))) loaded := completes_call hidle.1 (by decide +kernel)
  have hrefresh : loaded.Completes later.document (.tables 0 0 { request := .refresh })
      (.ok (.tables 0 0 (.changes { updated := [0] }))) refreshed :=
    completes_call hidle.2.1 (by decide +kernel)
  have hreload : (schemaSession later).Completes later.document (.tables 0 0 { request := .all })
      (.ok (.tables 0 0 (.objects [0]))) anew := completes_call hidle.2.2 (by decide +kernel)
  have hseen : ∀ server ∈ [earlier, later], ((schemaSession server).source.schema? 0 0).map
      (fun owner => (owner.database, owner.name, owner.tables.isFullyCached)) =
        some ("app", "public", false) := by decide +kernel
  obtain ⟨owner, howner, hfields⟩ := Option.map_eq_some_iff.1 (hseen earlier (by simp))
  obtain ⟨unread, hunread, hfields'⟩ := Option.map_eq_some_iff.1 (hseen later (by simp))
  simp only [Prod.mk.injEq] at hfields hfields'
  obtain ⟨hdatabase, hname, hmissing⟩ := hfields
  obtain ⟨hdatabase', hname', hmissing'⟩ := hfields'
  obtain ⟨former, rows, -, -, hformer, hrefreshed, hagree⟩ := refreshTables_eq_reload_iff
    (reachable_schemaSession earlier) howner hmissing hload hrefresh
  obtain ⟨hloaded, hiff⟩ := hagree (reachable_schemaSession later) hunread
    (hdatabase'.trans hdatabase.symm) (hname'.trans hname.symm) hmissing' hreload
  have hrows : loaded.source.tableRows? 0 0 = some [{ oid := 21, name := "t", rows := some 5 }] ∧
      anew.source.tableRows? 0 0 = some [{ oid := 21, name := "t", rows := some 7 }] := by
    decide +kernel
  obtain rfl := Option.some.inj (hformer.symm.trans hrows.1)
  obtain rfl := Option.some.inj (hloaded.symm.trans hrows.2)
  exact ⟨hrows.1, hrefreshed, hiff.2 (by simp)⟩

/-- A table was dropped, and a view created under its name. -/
theorem refreshTables_recreated_missed :
    let earlier := relationServer "public" { oid := 21, name := "t" }
    let later := relationServer "public" { oid := 22, name := "t", kind := .view }
    let loaded := (schemaSession earlier).call earlier (.tables 0 0 { request := .all })
    let refreshed := loaded.call later (.tables 0 0 { request := .refresh })
    let anew := (schemaSession later).call later (.tables 0 0 { request := .all })
    (schemaSession earlier).Completes earlier.document (.tables 0 0 { request := .all })
        (.ok (.tables 0 0 (.objects [0]))) loaded ∧
      loaded.Completes later.document (.tables 0 0 { request := .refresh })
        (.ok (.tables 0 0 (.changes { updated := [0] }))) refreshed ∧
      (schemaSession later).Completes later.document (.tables 0 0 { request := .all })
        (.ok (.tables 0 0 (.objects [0]))) anew ∧
      refreshed.source.tableRows? 0 0 = some [{ oid := 21, name := "t" }] ∧
      anew.source.tableRows? 0 0 = some [{ oid := 22, name := "t", kind := .view }] := by
  intro earlier later loaded refreshed anew
  have hidle : (schemaSession earlier).tasks = [] ∧ loaded.tasks = [] ∧
      (schemaSession later).tasks = [] := by decide +kernel
  refine ⟨completes_call hidle.1 (by decide +kernel), completes_call hidle.2.1 (by decide +kernel),
    completes_call hidle.2.2 (by decide +kernel), ?_⟩
  decide +kernel

end Relation

end Session

end CatalogBrowser
