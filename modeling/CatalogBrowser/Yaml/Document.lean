import CatalogBrowser.Data.Value
import CatalogBrowser.Yaml.Node

/-!
# Values of YAML texts

A reference stands for the node of its anchor. Anchors are numbered in the order of the text, each
with the number of names that are in use before it, and what counts for a number is the last node
that has it. So a name that is used again can come to share its number with the next new name.

## Main definitions

* `Node.link?` - resolves the names of anchors to numbers.
* `Value.ofYaml?` - the value of a text.
-/

namespace CatalogBrowser.Yaml

/-- What is known about anchors while a text is read. -/
structure Anchors where
  /-- The numbers of the names in use. -/
  numbers : List (String × Nat) := []
  /-- How many scalars, references, and beginnings and ends of collections were read. -/
  events : Nat := 0

namespace Anchors

def count (anchors : Anchors) (n : Nat) : Anchors :=
  { anchors with events := anchors.events + n }

def define (anchors : Anchors) (name : String) : Nat × Anchors :=
  let number := anchors.numbers.length
  let others := anchors.numbers.filter (·.1 ≠ name)
  (number, { anchors with numbers := (name, number) :: others })

end Anchors

namespace Node

/-- Numbers the anchor among some properties. -/
def number (properties : Properties String) : StateT Anchors Option (Properties Nat) :=
  match properties.anchor with
  | none => return { tag := properties.tag }
  | some name => do
    let anchor : Nat ← modifyGet (·.define name)
    return { anchor := some anchor, tag := properties.tag }

mutual

/-- Resolves the names of anchors to numbers. Fails if a reference names none. -/
def link? : Node String → StateT Anchors Option (Node Nat)
  | .scalar text isPlain properties => do
    modify (·.count 1)
    return .scalar text isPlain (← number properties)
  | .list items properties => do
    modify (·.count 2)
    let properties ← number properties
    return .list (← linkItems? items) properties
  | .table entries properties => do
    modify (·.count 2)
    let properties ← number properties
    return .table (← linkEntries? entries) properties
  | .reference name => do
    modify (·.count 1)
    match (← get).numbers.lookup name with
    | some anchor => return .reference anchor
    | none => failure

/-- Resolves the names of anchors in the items of a list. -/
def linkItems? : List (Node String) → StateT Anchors Option (List (Node Nat))
  | [] => return []
  | item :: rest => return (← link? item) :: (← linkItems? rest)

/-- Resolves the names of anchors in the entries of a table. -/
def linkEntries? :
    List (Node String × Node String) → StateT Anchors Option (List (Node Nat × Node Nat))
  | [] => return []
  | (key, value) :: rest => return (← link? key, ← link? value) :: (← linkEntries? rest)

end

/-- The anchor of some properties with its node. -/
def target (properties : Properties Nat) (node : Node Nat) : List (Nat × Node Nat) :=
  (properties.anchor.map (·, node)).toList

mutual

def targets : Node Nat → List (Nat × Node Nat)
  | .scalar text isPlain properties => target properties (.scalar text isPlain properties)
  | .list items properties => target properties (.list items properties) ++ itemTargets items
  | .table entries properties =>
    target properties (.table entries properties) ++ entryTargets entries
  | .reference _ => []

def itemTargets : List (Node Nat) → List (Nat × Node Nat)
  | [] => []
  | item :: rest => targets item ++ itemTargets rest

/-- The nodes with anchors in the entries of a table. -/
def entryTargets : List (Node Nat × Node Nat) → List (Nat × Node Nat)
  | [] => []
  | (key, value) :: rest => targets key ++ targets value ++ entryTargets rest

end

/-- Marks the value of a collection that has a tag of the document's own. -/
def label (properties : Properties Nat) (value : Value) : Value :=
  if (Value.localTag? properties.tag).isSome then .labelled value else value

section Follow

variable (follow : Nat → StateM Nat Value)

mutual

/-- The value of a node, where `follow` gives the values of references. -/
def valueWith : Node Nat → StateM Nat Value
  | .scalar text isPlain properties => return .written text isPlain properties.tag
  | .list items properties => return label properties (.list (← itemValues items))
  | .table entries properties => return label properties (.table (← entryValues entries))
  | .reference anchor => follow anchor

def itemValues : List (Node Nat) → StateM Nat (List Value)
  | [] => return []
  | item :: rest => return (← valueWith item) :: (← itemValues rest)

def entryValues : List (Node Nat × Node Nat) → StateM Nat (List (Value × Value))
  | [] => return []
  | (key, value) :: rest => return (← valueWith key, ← valueWith value) :: (← entryValues rest)

end

end Follow

/-- The value of a node. References are followed within each other up to a depth, and the state is
how many more of them may be followed at all. -/
def expand (targets : List (Nat × Node Nat)) : Nat → Node Nat → StateM Nat Value
  | 0, node => valueWith (fun _ => return .endless) node
  | depth + 1, node => valueWith (fun anchor => do
      match ← get, targets.lookup anchor with
      | left + 1, some target =>
        set left
        expand targets depth target
      | _, _ => return .endless) node

/-- The value of a document. If a reference leads to itself, that shows when references are
followed within each other more often than there are anchors. For each event of the text, a hundred
references may be followed. -/
def toValue? (root : Node String) : Option Value := do
  let (root, anchors) ← (link? root).run {}
  let targets := root.targets.reverse
  return ((expand targets targets.length root).run (100 * anchors.events)).1

end Node

end Yaml

/-- The value of a YAML text, unless it is malformed. An empty text has a value of which nothing is
written. -/
def Value.ofYaml? (text : String) : Option Value := do
  match ← Yaml.Node.ofTokens? (← Yaml.Token.ofString? text) with
  | some root => root.toValue?
  | none => return .written "" true none

end CatalogBrowser
