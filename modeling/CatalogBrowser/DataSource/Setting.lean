import CatalogBrowser.Cache.Load
import CatalogBrowser.Catalog.Server

/-!
# Settings

The settings of a server, identified by their names without regard to case. They are read all
together or one by one. A refresh updates all of a setting but its name.
-/

namespace CatalogBrowser

/-- A server setting. -/
structure Setting where
  name : String
  setting : String
  unit : Option String
  category : Option String
  description : Option String
deriving DecidableEq, Repr

namespace Setting

def ofRecord (record : SettingRecord) : Setting where
  name := record.name
  setting := record.setting
  unit := record.unit
  category := record.category
  description := record.description

def source : Source SettingRecord Setting where
  construct record := some (ofRecord record)
  identity setting := .name setting.name
  isPersisted _ := true
  merge existing fresh := { fresh with name := existing.name }
  evicted setting := setting

/-- A query for all settings or for one. No setting has an id, so nothing is asked for one. -/
inductive Query where
  | all (pending : Pending)
  | named (pending : Pending) (name : String)
  | nothing
deriving DecidableEq

def remote : Cache.Remote Server Query SettingRecord where
  list server :=
    let (server, pending) := server.ask
    (server, .all pending)
  lookup server
    | .name name =>
      let (server, pending) := server.ask
      (server, .named pending name)
    | .id _ => (server, .nothing)
  listing? server
    | .all pending => server.answer? pending fun document => .ok document.listSettings
    | _ => some (.ok [])
  found? server
    | .named pending name => server.answer? pending fun document => .ok (document.setting? name)
    | _ => some (.ok none)

def eventLines : Cache.Event Setting → List LogLine
  | .log line => [line]
  | _ => []

end Setting

end CatalogBrowser
