import CatalogBrowser.Cache.Basic
import CatalogBrowser.Data.Value

/-!
# Setting up a cache

The name of a cache and its way of comparing names, read from a record.
-/

namespace CatalogBrowser

def KeyPolicy.code : KeyPolicy → String
  | .exact => "exact"
  | .lowercase => "lowercase"
  | .uppercase => "uppercase"

def KeyPolicy.ofCode? (code : String) : Option KeyPolicy :=
  [.exact, .lowercase, .uppercase].find? (·.code = code)

theorem KeyPolicy.ofCode?_code (policy : KeyPolicy) : ofCode? policy.code = some policy := by
  cases policy <;> decide

def Cache.Config.ofValue? (positional : Bool) (v : Value) : Option Cache.Config := do
  let fields ← v.fields? ["name", "key_policy"] positional
  let policy := fun (v : Value) => (v.choice? positional).bind KeyPolicy.ofCode?
  return {
    name := ← fields.get "name" Value.text? "objects"
    keyPolicy := ← fields.get "key_policy" policy .exact }

end CatalogBrowser
