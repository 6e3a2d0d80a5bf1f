import CatalogBrowser.DataSource.Basic
import CatalogBrowser.Report.Grid

/-!
# Listings

What the data source has cached, for readers: the databases, the settings, one setting in detail,
and the tree of databases, schemas and tables.
-/

namespace CatalogBrowser.Report

def databaseFlags (database : Database) : String :=
  ", ".intercalate <|
    (if database.isTemplate then ["template"] else []) ++
      (if database.allowConnections then [] else ["no connections"])

/-- The databases, of which those with the active name are marked. -/
def databaseGrid (databases : List Database) (active : String) : Grid :=
  let title := ["", "Name", "Owner", "Encoding", "Flags"]
  let row := fun (database : Database) =>
    [if database.name = active then "*" else "", database.name, database.owner.getD "-",
      database.encoding.getD "-", databaseFlags database]
  (title :: databases.map row).map fun texts => texts.map fun text => { text }

def settingGrid (settings : List Setting) : Grid :=
  let title := ["Name", "Setting", "Unit", "Category"]
  let row := fun (setting : Setting) =>
    [setting.name, setting.setting, setting.unit.getD "", setting.category.getD ""]
  (title :: settings.map row).map fun texts => texts.map fun text => { text }

def settingDetails (setting : Setting) : Grid :=
  let fields := [("Name:", some setting.name), ("Setting:", some setting.setting),
    ("Unit:", setting.unit), ("Category:", setting.category),
    ("Description:", setting.description)]
  fields.filterMap fun (label, value) =>
    value.map fun text => [{ text := label, align := .right }, { text }]

def schemaLines (schema : Schema) : List String :=
  let tables := schema.tables.cachedObjects.filterMap schema.tables.object?
  ("  " ++ schema.name) :: tables.map fun table => "    " ++ table.describe

def databaseLines (database : Database) : List String :=
  let schemas := database.schemas.cachedObjects.filterMap database.schemas.object?
  database.name :: schemas.flatMap schemaLines

/-- The cached part of the tree; levels that were not read are left out. -/
def tree (databases : List Database) : String :=
  "".intercalate ((databases.flatMap databaseLines).map (· ++ "\n"))

end CatalogBrowser.Report
