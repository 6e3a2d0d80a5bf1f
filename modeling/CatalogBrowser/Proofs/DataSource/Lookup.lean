import CatalogBrowser.Proofs.DataSource.Action
import CatalogBrowser.Proofs.DataSource.Opening
import CatalogBrowser.Proofs.Text.Ascii

/-!
# Two ways to find a setting

If no settings are in memory, the server is asked for the one that is wanted, and it compares names
up to the case of ASCII letters. Once all settings were read, the wanted one is taken from memory,
where names are compared up to the case of any letters. So whatever the server finds is also found
in memory, but not the other way round.

## Main definitions

* `Document.foldedSetting?` - the setting that is found in memory.
* `Context.Finds` - the answer to who asked for a setting.

## Main statements

* `Context.ends_lookup` - looking one object up where nothing is cached.
* `Context.getSetting_finds` - what is found in either way, and when it is there.
-/

namespace CatalogBrowser

open Cache (Load firstOfEach)

namespace Document

variable {document : Document} {name : String}

/-- The first setting in the order of names whose name is equal up to the case of any letters. -/
def foldedSetting? (document : Document) (name : String) : Option SettingRecord :=
  (document.settings.mergeSort (·.name ≤ ·.name)).find? fun row =>
    Text.lowercase row.name = Text.lowercase name

theorem isSome_setting?_iff : (document.setting? name).isSome ↔
    ∃ row ∈ document.settings, row.name.toLower = name.toLower := by
  simp [setting?, List.find?_isSome]

theorem isSome_foldedSetting?_iff : (document.foldedSetting? name).isSome ↔
    ∃ row ∈ document.settings, Text.lowercase row.name = Text.lowercase name := by
  simp [foldedSetting?, List.find?_isSome]

/-- What the server finds is also found in memory. -/
theorem isSome_foldedSetting? (h : (document.setting? name).isSome) :
    (document.foldedSetting? name).isSome := by
  obtain ⟨row, hrow, hname⟩ := isSome_setting?_iff.1 h
  exact isSome_foldedSetting?_iff.2 ⟨row, hrow, Text.lowercase_congr hname⟩

end Document

namespace Setting

theorem construct_eq : source.construct = some ∘ ofRecord := rfl

theorem keepsKeys_merge (settings : Cache Setting) :
    Cache.KeepsKeys (settings.objectKey source) source.merge := fun _ _ _ => rfl

def inquiries (name : String) :
    Context.Inquiries remote (.name name) fun document => .ok (document.setting? name) where
  query pending := .named pending name
  lookup _ := rfl
  found? _ _ := rfl

/-- What is found among the settings of a document, once the first of each name is cached. -/
theorem find?_stock {settings : Cache Setting} (hpolicy : settings.config.keyPolicy = .lowercase)
    (document : Document) (name : String) :
    (firstOfEach (settings.objectKey source) (document.listSettings.filterMap
      source.construct)).find? (settings.objectKey source · = settings.key (.name name)) =
      (document.foldedSetting? name).map ofRecord := by
  have hkey : ∀ row : SettingRecord, settings.objectKey source (ofRecord row) =
      settings.key (.name name) ↔ Text.lowercase row.name = Text.lowercase name := by
    intro row
    simp [Cache.objectKey, Cache.key, hpolicy, source, ofRecord, KeyPolicy.fold]
  have hmake : document.listSettings.filterMap source.construct =
      document.listSettings.map ofRecord := by rw [construct_eq, List.filterMap_eq_map]
  rw [Cache.find?_firstOfEach, hmake, List.find?_map, Document.foldedSetting?,
    Document.listSettings]
  simp only [Function.comp_def, hkey]

end Setting

namespace Context

variable {document : Document} {monitor : Monitor} {now : Nat} {name : String}
  {settings : Cache Setting}

section Lookup

variable {κ ρ α σ : Type} {source : Source ρ α} {remote : Cache.Remote Server κ ρ}
  {identity : Identity} {read : Document → Except ConnectionError (Option ρ)}
  {lines : Cache.Event α → List LogLine} {place : Place DataSource σ} {part : Cache α → σ}
  {cache : Cache α} {run : Context → Load κ → Context × Poll (Load κ) Cache.Result}

/-- Where nothing is cached, the server is asked for the one object. -/
theorem ends_lookup (hrun : RunsLoads monitor source remote lines place part run)
    (inquiries : Inquiries remote identity read) (hvacant : cache.Vacant)
    (hlookups : cache.lookups = []) {record : Option ρ} (hread : read document = .ok record) :
    Ends document run place (fun part' result => ∃ (c : Cache α) (found : Option Ref),
      part' = part c ∧ result = .ok (.object found) ∧
        c.Tells (record.bind source.construct) found) 2 now (part cache)
      (run · (.sought identity)) := by
  obtain ⟨found, hresult, htells⟩ :=
    Load.tells_informed source hvacant.snapshot identity record
  rw [← hread] at hresult htells
  have hfound : ∀ server : Server, remote.found? server.ask.1 (inquiries.query server.ask.2) =
      server.ask.1.answer? server.ask.2 read := fun server => inquiries.found? _ _
  have hends : Ends document run place (fun part' result' =>
      part' = part (Load.informed cache source identity (read document)).cache ∧
        result' = .ok (.object found)) 2 now (part cache) (run · (.sought identity)) := by
    refine ends_query hrun read
      (fun pending => .inquiring identity (cache.nextLookup identity) (inquiries.query pending))
      (cache.withLookup identity) ?_ ?_ ?_
    · intro server hnone
      have hturn := Load.run_one_of_vacant source hvacant hlookups (inquiries.lookup server)
      rw [hfound, hnone] at hturn
      exact hturn
    · intro server hsome
      have hturn := Load.run_one_of_vacant source hvacant hlookups (inquiries.lookup server)
      rw [hfound, hsome] at hturn
      exact ⟨hturn.1, hturn.2.1, hturn.2.2 _ hresult⟩
    · intro server pending hsome
      exact Load.run_inquiring source (by rw [inquiries.found?, hsome]) hresult
  refine hends.mono (Nat.le_refl 2) ?_
  rintro _ _ ⟨rfl, rfl⟩
  exact ⟨_, found, rfl, rfl, htells⟩

/-- A cache that holds everything tells from memory. -/
theorem ends_lookup_of_stocked (hrun : RunsLoads monitor source remote lines place part run)
    {stock : List α} (hstocked : cache.Stocked source stock) (identity : Identity) :
    Ends document run place (fun part' result => ∃ found : Option Ref,
      part' = part cache ∧ result = .ok (.object found) ∧
        cache.Tells (stock.find? (cache.objectKey source · = cache.key identity)) found) 1 now
      (part cache) (run · (.sought identity)) := by
  intro ctx hready hget
  obtain ⟨ctx', hctx', hready', hsource⟩ := hrun.exists_run hready hready hget
    (Load.run_one_of_complete source remote ctx.server hstocked.holds.complete identity false)
  exact ⟨ctx', _, _, hctx', hready', hsource, _, rfl, rfl, hstocked.tells identity⟩

end Lookup

section Follow

variable {τ σ : Type} {place : Place DataSource σ} {Q : σ → Cache.Result → Prop} {n : Nat}
  {part : σ} {load : Context → τ → Context × Poll τ Cache.Result}
  {first : Context → Context × Poll τ Cache.Result} {state : τ → Routine}
  {answer : Cache.Reply → Answer}

/-- What a call on a cache answers. -/
def answered (answer : Cache.Reply → Answer) (result : Cache.Result) : Routine.Result :=
  (result.map answer).mapError .ofCache

theorem follow_eq (out : Context × Poll τ Cache.Result) : follow out state answer =
    Poll.andThen out state fun ctx result => (ctx, .finished (answered answer result)) := by
  rcases out with ⟨ctx, _ | _ | _⟩ <;> rfl

/-- A call on a cache ends when its load does. -/
theorem Ends.follow (h : Ends document load place Q n now part first)
    (hrun : ∀ ctx task, run ctx monitor (state task) = follow (load ctx task) state answer) :
    Ends document (run · monitor) place
      (fun part' result => ∃ inner, Q part' inner ∧ result = answered answer inner) n now part
      fun ctx => Context.follow (first ctx) state answer := by
  simp only [follow_eq] at hrun ⊢
  refine Ends.bind (n := 0) hrun h ?_
  intro now part' inner hQ
  exact ends_pure ⟨inner, hQ, rfl⟩

end Follow

theorem runsLoads_settingCache (monitor : Monitor) :
    RunsLoads monitor Setting.source Setting.remote Setting.eventLines Place.settings id
      (runSettings · monitor) := by
  intro ctx settings load hget
  obtain rfl : ctx.source.settings = settings := Option.some.inj hget
  rfl

/-- Who asked for a setting is given it, or told that there is none. -/
def Finds (wanted : Option Setting) (settings : Cache Setting) (result : Routine.Result) : Prop :=
  ∃ found, result = .ok (.settings (.object found)) ∧ settings.Tells wanted found

/-- Where no settings are cached, one is looked up on the server. -/
theorem ends_getSetting_of_vacant (monitor : Monitor) (hvacant : settings.Vacant)
    (hlookups : settings.lookups = []) :
    Ends document (run · monitor) Place.settings
      (Finds ((document.setting? name).map .ofRecord)) 2 now settings
      (run · monitor (.settings (.sought (.name name)))) := by
  have hruns : ∀ ctx load, run ctx monitor (.settings load) =
      follow (ctx.runSettings monitor load) .settings .settings := fun _ _ => rfl
  have hends : Ends document (runSettings · monitor) Place.settings _ 2 now settings _ :=
    ends_lookup (runsLoads_settingCache monitor) (Setting.inquiries name) hvacant hlookups rfl
  refine (hends.follow hruns).mono (Nat.le_refl 2) ?_
  rintro _ _ ⟨_, ⟨c, found, rfl, rfl, htells⟩, rfl⟩
  rw [Setting.construct_eq, ← Option.map_eq_bind] at htells
  exact ⟨found, rfl, htells⟩

/-- Where all settings are cached, one is found in memory. -/
theorem ends_getSetting_of_stocked (monitor : Monitor)
    (hpolicy : settings.config.keyPolicy = .lowercase)
    (hstocked : settings.Stocked Setting.source (firstOfEach (settings.objectKey Setting.source)
      (document.listSettings.filterMap Setting.source.construct))) :
    Ends document (run · monitor) Place.settings
      (Finds ((document.foldedSetting? name).map .ofRecord)) 1 now settings
      (run · monitor (.settings (.sought (.name name)))) := by
  have hruns : ∀ ctx load, run ctx monitor (.settings load) =
      follow (ctx.runSettings monitor load) .settings .settings := fun _ _ => rfl
  have hends : Ends document (runSettings · monitor) Place.settings _ 1 now settings _ :=
    ends_lookup_of_stocked (runsLoads_settingCache monitor) hstocked (.name name)
  rw [Setting.find?_stock hpolicy] at hends
  refine (hends.follow hruns).mono (Nat.le_refl 1) ?_
  rintro _ _ ⟨_, ⟨found, rfl, rfl, htells⟩, rfl⟩
  exact ⟨found, rfl, htells⟩

/-- All settings are read from the server, and then any of them is found in memory. -/
theorem ends_getSetting_of_loaded (monitor : Monitor)
    (hpolicy : settings.config.keyPolicy = .lowercase) (hvacant : settings.Vacant) :
    Ends document (run · monitor) Place.settings
      (fun loaded result => (∃ reply, result = .ok (.settings reply)) ∧ ∀ later,
        Ends document (run · monitor) Place.settings
          (Finds ((document.foldedSetting? name).map .ofRecord)) 1 later loaded
          (run · monitor (.settings (.sought (.name name))))) 2 now settings
      (run · monitor (.settings .unrun)) := by
  have hruns : ∀ ctx load, run ctx monitor (.settings load) =
      follow (ctx.runSettings monitor load) .settings .settings := fun _ _ => rfl
  have hends : Ends document (runSettings · monitor) Place.settings _ 2 now settings _ :=
    ends_load (runsLoads_settingCache monitor) Setting.queries hvacant
      (hvacant.read_ok Setting.source document.listSettings).1
  refine (hends.follow hruns).mono (Nat.le_refl 2) ?_
  rintro _ _ ⟨_, ⟨rfl, rfl⟩, rfl⟩
  obtain ⟨hconfig, hstocked⟩ :=
    hvacant.stocked_read (Setting.keepsKeys_merge settings) document.listSettings
  refine ⟨⟨_, rfl⟩, fun later => ends_getSetting_of_stocked monitor ?_ ?_⟩
  · rw [id_eq, hconfig, hpolicy]
  · rw [id_eq, Cache.objectKey_of_config hconfig]
    exact hstocked

/-- A setting is looked up on the server if none are cached, and found in memory if all are. The one
way finds it up to the case of ASCII letters, the other up to the case of any letters, so the one
finds it only if the other does. -/
theorem getSetting_finds (document : Document) (monitor : Monitor) (name : String) (now : Nat)
    (hpolicy : settings.config.keyPolicy = .lowercase) (hvacant : settings.Vacant)
    (hlookups : settings.lookups = []) :
    Ends document (run · monitor) Place.settings
        (Finds ((document.setting? name).map .ofRecord)) 2 now settings
        (run · monitor (.settings (.sought (.name name)))) ∧
      Ends document (run · monitor) Place.settings
        (fun loaded result => (∃ reply, result = .ok (.settings reply)) ∧ ∀ later,
          Ends document (run · monitor) Place.settings
            (Finds ((document.foldedSetting? name).map .ofRecord)) 1 later loaded
            (run · monitor (.settings (.sought (.name name))))) 2 now settings
        (run · monitor (.settings .unrun)) ∧
      ((document.setting? name).isSome ↔
        ∃ row ∈ document.settings, row.name.toLower = name.toLower) ∧
      ((document.foldedSetting? name).isSome ↔
        ∃ row ∈ document.settings, Text.lowercase row.name = Text.lowercase name) ∧
      ((document.setting? name).isSome → (document.foldedSetting? name).isSome) :=
  ⟨ends_getSetting_of_vacant monitor hvacant hlookups,
    ends_getSetting_of_loaded monitor hpolicy hvacant, Document.isSome_setting?_iff,
    Document.isSome_foldedSetting?_iff, Document.isSome_foldedSetting?⟩

/-- A server with one setting, whose name has a letter beyond ASCII. -/
def umlautServer : Server where
  document := { settings := [{ name := "ä" }] }

theorem getSetting_finds_umlaut :
    let document := umlautServer.document
    let settings := (DataSource.ofConnection {}).settings
    let monitor : Monitor := { scope := 0, ancestors := [], counter := 0 }
    let row : SettingRecord := { name := "ä" }
    settings.config.keyPolicy = .lowercase ∧ settings.Vacant ∧ settings.lookups = [] ∧
      Ends document (run · monitor) Place.settings (Finds none) 2 0 settings
        (run · monitor (.settings (.sought (.name "Ä")))) ∧
      Ends document (run · monitor) Place.settings
        (fun loaded result => (∃ reply, result = .ok (.settings reply)) ∧ ∀ later,
          Ends document (run · monitor) Place.settings (Finds (some (.ofRecord row))) 1 later
            loaded (run · monitor (.settings (.sought (.name "Ä"))))) 2 0 settings
        (run · monitor (.settings .unrun)) := by
  intro document settings monitor row
  have hvacant : settings.Vacant := ⟨rfl, rfl⟩
  have hmissed : document.setting? "Ä" = none := by decide +kernel
  have hfound : document.foldedSetting? "Ä" = some row := by decide +kernel
  obtain ⟨hlooked, hloaded, -⟩ := getSetting_finds document monitor "Ä" 0
    (show settings.config.keyPolicy = .lowercase from rfl) hvacant rfl
  rw [hmissed] at hlooked
  rw [hfound] at hloaded
  exact ⟨rfl, hvacant, rfl, hlooked, hloaded⟩

/-- The setting is missed if it is asked for in capitals, but not once all settings were read. -/
theorem getSetting_finds_umlaut_missed :
    let loading : List Session.Action := [.start "settings" (.settings .unrun) none, .poll 0]
    let asking : Session.Action := .start "setting" (.settings (.sought (.name "Ä"))) none
    ((Session.opened {} umlautServer).acts [asking, .poll 0]).finished =
        [(0, "setting", .ok (.settings (.object none)))] ∧
      ((Session.opened {} umlautServer).acts (loading ++ [asking, .poll 1])).finished =
        [(0, "settings", .ok (.settings (.objects [0]))),
          (1, "setting", .ok (.settings (.object (some 0))))] := by
  decide +kernel

end Context

end CatalogBrowser
