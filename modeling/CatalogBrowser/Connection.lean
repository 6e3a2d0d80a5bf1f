import CatalogBrowser.Data.Value
import CatalogBrowser.Text.Alphanumeric

/-!
# Connections

How to connect to a server. The database to use may be named outright, or as the last part of the
URL's path.

## Main definitions

* `Connection` - the settings of a connection, read from a record.
* `Connection.configuredDatabase` - the database that the settings name, if any.
-/

namespace CatalogBrowser

/-- The settings of a connection. -/
structure Connection where
  url : Option String := none
  database : Option String := none
  readDatabaseList : Bool := false
  showTemplates : Bool := false
  showUnavailable : Bool := false
deriving DecidableEq, Repr

def defaultDatabase : String := "postgres"

namespace Connection

/-- Whether a character can be part of a database name in a URL. -/
def isNameChar (c : Char) : Bool :=
  Text.isAlphanumeric c || c = '_' || c = '$' || c = '.'

/-- What follows the last slash of a text, if there is a slash. -/
def afterLastSlash? (cs : List Char) : Option (List Char) :=
  if '/' ∈ cs then some (cs.reverse.takeWhile (· ≠ '/')).reverse else none

/-- The database that a URL names: what follows its last slash, up to the first character that
cannot be part of a name. -/
def databaseOfUrl? (url : String) : Option String := do
  let path ← afterLastSlash? url.toList
  let name := path.takeWhile isNameChar
  if name.isEmpty then none else some (String.ofList name)

def namedDatabase (c : Connection) : Option String :=
  c.database.filter fun name => !name.isEmpty

/-- The database that the settings name, outright or in the URL. -/
def configuredDatabase (c : Connection) : Option String :=
  match c.namedDatabase with
  | some name => some name
  | none => c.url.bind databaseOfUrl?

def ofValue? (positional : Bool) (v : Value) : Option Connection := do
  let fields ← v.fields?
    ["url", "database", "read_database_list", "show_templates", "show_unavailable"] positional
  return {
    url := ← fields.get "url" (Value.optional? Value.text?) none
    database := ← fields.get "database" (Value.optional? Value.text?) none
    readDatabaseList := ← fields.get "read_database_list" Value.bool? false
    showTemplates := ← fields.get "show_templates" Value.bool? false
    showUnavailable := ← fields.get "show_unavailable" Value.bool? false }

theorem configuredDatabase_of_namedDatabase {c : Connection} {name : String}
    (h : c.namedDatabase = some name) : c.configuredDatabase = some name := by
  simp [configuredDatabase, h]

end Connection

end CatalogBrowser
