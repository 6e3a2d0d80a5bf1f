import CatalogBrowser.Text.Fold

/-!
# Identities and keys

An object is addressed by its name or by a numeric id. A cache compares objects by their key, the
identity with its name folded as the cache's policy says. Keys are ordered: names come before ids,
names by their code points and ids by their value.

## Main definitions

* `Identity`, `Key` - how an object is addressed, and what it is stored under.
* `KeyPolicy.key` - the key of an identity under a policy.
* `Key.sorted` - the distinct members of a list of keys in ascending order.
-/

namespace CatalogBrowser

/-- How a caller addresses an object, and how an object names itself. -/
inductive Identity where
  | name (text : String)
  | id (number : Nat)
deriving DecidableEq, Repr

/-- A name stands for itself, an id is marked with a number sign. -/
def Identity.display : Identity → String
  | .name text => text
  | .id number => s!"#{number}"

/-- What an object is stored under; objects with equal keys are the same object to a cache. -/
inductive Key where
  | name (text : String)
  | id (number : Nat)
deriving DecidableEq, Repr

namespace Key

/-- A name stands for itself, an id is marked with a number sign. -/
def display : Key → String
  | .name text => text
  | .id number => s!"#{number}"

/-- Names before ids, names by code point, ids by value. -/
def le : Key → Key → Bool
  | .name a, .name b => decide (a ≤ b)
  | .name _, .id _ => true
  | .id _, .name _ => false
  | .id a, .id b => decide (a ≤ b)

def sorted (keys : List Key) : List Key :=
  keys.eraseDups.mergeSort le

end Key

/-- How names are folded before they are compared. -/
inductive KeyPolicy where
  | exact
  | lowercase
  | uppercase
deriving DecidableEq, Repr

/-- The folding of names. -/
def KeyPolicy.fold : KeyPolicy → String → String
  | .exact, name => name
  | .lowercase, name => Text.lowercase name
  | .uppercase, name => Text.uppercase name

/-- The key of an identity; ids are never folded. -/
def KeyPolicy.key (policy : KeyPolicy) : Identity → Key
  | .name name => .name (policy.fold name)
  | .id id => .id id

@[simp] theorem KeyPolicy.key_id (policy : KeyPolicy) (id : Nat) :
    policy.key (.id id) = .id id := rfl

@[simp] theorem KeyPolicy.key_name (policy : KeyPolicy) (name : String) :
    policy.key (.name name) = .name (policy.fold name) := rfl

end CatalogBrowser
