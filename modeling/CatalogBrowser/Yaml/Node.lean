import CatalogBrowser.Yaml.Layout

/-!
# Nodes

The structure of a YAML text: scalars, lists and tables with their anchors and tags, and references
to anchors. A text holds one document at most. A key or value of which nothing is written is an
empty plain scalar.

## Main definitions

* `Node` - a node whose anchors are named by members of a type.
* `Node.ofTokens?` - the document of a list of tokens.
-/

namespace CatalogBrowser.Yaml

/-- The properties of a node. -/
structure Properties (ν : Type) where
  anchor : Option ν := none
  tag : Option String := none

/-- A node whose anchors have names of type `ν`. -/
inductive Node (ν : Type) where
  | scalar (text : String) (isPlain : Bool) (properties : Properties ν)
  | list (items : List (Node ν)) (properties : Properties ν)
  | table (entries : List (Node ν × Node ν)) (properties : Properties ν)
  | reference (anchor : ν)

abbrev Handles := List (String × String)

namespace Handles

/-- The handles that need not be declared. -/
def standard : Handles := [("!", "!"), ("!!", "tag:yaml.org,2002:")]

def resolve? (handles : Handles) (handle suffix : String) : Option String :=
  if handle.isEmpty then some suffix else (handles.lookup handle).map (· ++ suffix)

end Handles

namespace Node

def nothing (properties : Properties String := {}) : Node String :=
  .scalar "" true properties

def properties? (handles : Handles) : List Token → Option (Properties String × List Token)
  | .anchor anchor :: .tag handle suffix :: rest
  | .tag handle suffix :: .anchor anchor :: rest => do
    return ({ anchor, tag := some (← handles.resolve? handle suffix) }, rest)
  | .anchor anchor :: rest => some ({ anchor }, rest)
  | .tag handle suffix :: rest => do
    return ({ tag := some (← handles.resolve? handle suffix) }, rest)
  | tokens => some ({}, tokens)

/-- Passes over the comma before an entry of a flow collection, which the first one has not. -/
def afterComma? (isFirst : Bool) (tokens : List Token) : Option (List Token) :=
  match isFirst, tokens with
  | true, tokens => some tokens
  | false, .flowEntry :: rest => some rest
  | false, _ => none

mutual

/-- Reads a node. Blocks are admitted outside of flow collections, and a list that is not indented
where a table has a key or value. -/
def node? (handles : Handles) :
    Nat → (isBlock isEntry : Bool) → List Token → Option (Node String × List Token)
  | 0, _, _, _ => none
  | _ + 1, _, _, .reference anchor :: rest => some (.reference anchor, rest)
  | n + 1, isBlock, isEntry, tokens => do
    let (properties, tokens) ← properties? handles tokens
    let empty :=
      if properties.anchor.isSome || properties.tag.isSome then some (nothing properties, tokens)
      else none
    match tokens with
    | .scalar text isPlain :: rest =>
      let tag := properties.tag.filter (· ≠ "!")
      some (.scalar text isPlain { properties with tag }, rest)
    | .flowListStart :: rest =>
      let (items, rest) ← flowItems? handles n true rest
      some (.list items properties, rest)
    | .flowTableStart :: rest =>
      let (entries, rest) ← flowEntries? handles n true rest
      some (.table entries properties, rest)
    | .blockListStart :: rest =>
      if isBlock then
        let (items, rest) ← blockItems? handles n rest
        some (.list items properties, rest)
      else empty
    | .blockTableStart :: rest =>
      if isBlock then
        let (entries, rest) ← blockEntries? handles n rest
        some (.table entries properties, rest)
      else empty
    | .blockEntry :: _ =>
      if isEntry then
        let (items, rest) ← entryItems? handles n tokens
        some (.list items properties, rest)
      else empty
    | _ => empty

/-- Reads a node, or nothing before one of some tokens. -/
def child? (handles : Handles) : Nat → (isBlock isEntry : Bool) → (stops : List Token) →
    List Token → Option (Node String × List Token)
  | 0, _, _, _, _ => none
  | _ + 1, _, _, _, [] => none
  | n + 1, isBlock, isEntry, stops, token :: rest =>
    if token ∈ stops then some (nothing, token :: rest)
    else node? handles n isBlock isEntry (token :: rest)

def blockItems? (handles : Handles) : Nat → List Token → Option (List (Node String) × List Token)
  | n + 1, .blockEntry :: rest => do
    let (item, rest) ← child? handles n true false [.blockEntry, .blockEnd] rest
    let (items, rest) ← blockItems? handles n rest
    return (item :: items, rest)
  | _ + 1, .blockEnd :: rest => some ([], rest)
  | _, _ => none

def entryItems? (handles : Handles) : Nat → List Token → Option (List (Node String) × List Token)
  | 0, _ => none
  | n + 1, .blockEntry :: rest => do
    let (item, rest) ← child? handles n true false [.blockEntry, .key, .value, .blockEnd] rest
    let (items, rest) ← entryItems? handles n rest
    return (item :: items, rest)
  | _ + 1, tokens => some ([], tokens)

def blockEntries? (handles : Handles) :
    Nat → List Token → Option (List (Node String × Node String) × List Token)
  | n + 1, .key :: rest => do
    let stops := [.key, .value, .blockEnd]
    let (key, rest) ← child? handles n true true stops rest
    let (value, rest) ← value? handles n true stops rest
    let (entries, rest) ← blockEntries? handles n rest
    return ((key, value) :: entries, rest)
  | _ + 1, .blockEnd :: rest => some ([], rest)
  | _, _ => none

/-- Reads the value of a table entry, which may be missing. -/
def value? (handles : Handles) :
    Nat → (isBlock : Bool) → (stops : List Token) → List Token → Option (Node String × List Token)
  | 0, _, _, _ => none
  | n + 1, isBlock, stops, .value :: rest => child? handles n isBlock isBlock stops rest
  | _ + 1, _, _, tokens => some (nothing, tokens)

/-- Reads the items of a flow list. An item with a key is a table of one entry; after a key of which
nothing is written, the next token is passed over. -/
def flowItems? (handles : Handles) :
    Nat → (isFirst : Bool) → List Token → Option (List (Node String) × List Token)
  | 0, _, _ => none
  | _ + 1, _, .flowListEnd :: rest => some ([], rest)
  | n + 1, isFirst, tokens => do
    match ← afterComma? isFirst tokens with
    | .flowListEnd :: rest => some ([], rest)
    | .key :: rest =>
      let stops := [.flowEntry, .flowListEnd]
      let (key, rest) ←
        if rest.head?.any (· ∈ .value :: stops) then some (nothing, rest.tail)
        else node? handles n false false rest
      let (value, rest) ← value? handles n false stops rest
      let (items, rest) ← flowItems? handles n false rest
      return (.table [(key, value)] {} :: items, rest)
    | tokens =>
      let (item, rest) ← node? handles n false false tokens
      let (items, rest) ← flowItems? handles n false rest
      return (item :: items, rest)

def flowEntries? (handles : Handles) :
    Nat → (isFirst : Bool) → List Token → Option (List (Node String × Node String) × List Token)
  | 0, _, _ => none
  | _ + 1, _, .flowTableEnd :: rest => some ([], rest)
  | n + 1, isFirst, tokens => do
    let stops := [.flowEntry, .flowTableEnd]
    match ← afterComma? isFirst tokens with
    | .flowTableEnd :: rest => some ([], rest)
    | .key :: rest =>
      let (key, rest) ← child? handles n false false (.value :: stops) rest
      let (value, rest) ← value? handles n false stops rest
      let (entries, rest) ← flowEntries? handles n false rest
      return ((key, value) :: entries, rest)
    | tokens =>
      let (key, rest) ← node? handles n false false tokens
      let (entries, rest) ← flowEntries? handles n false rest
      return ((key, nothing) :: entries, rest)

end

/-- Reads the root of a document. Each token is passed after three steps at most. -/
def root? (handles : Handles) (tokens : List Token) : Option (Node String × List Token) :=
  node? handles (4 * (tokens.length + 1)) true false tokens

/-- Reads the directives before a document. A version is declared once at most, and so is each
handle. -/
def directives? (hasVersion : Bool) (handles : Handles) :
    List Token → Option (Handles × List Token)
  | .version major minor :: rest =>
    if hasVersion || major ≠ 1 || (minor ≠ 1 && minor ≠ 2) then none
    else directives? true handles rest
  | .handle name expansion :: rest =>
    if (handles.lookup name).isSome then none
    else directives? hasVersion ((name, expansion) :: handles) rest
  | tokens => some (handles ++ Handles.standard, tokens)

def isOutside : Token → Bool
  | .version .. | .handle .. | .documentStart | .documentEnd => true
  | _ => false

/-- Reads the document of a text, if there is one, up to what follows it. -/
def document? (tokens : List Token) : Option (Option (Node String) × List Token) :=
  match tokens with
  | [] => some (none, [])
  | first :: _ => do
    if isOutside first && first ≠ .documentEnd then
      match ← directives? false [] tokens with
      | (_, [.documentStart]) => some (some nothing, [])
      | (handles, .documentStart :: next :: rest) =>
        if isOutside next then some (some nothing, next :: rest)
        else
          let (root, rest) ← root? handles (next :: rest)
          some (some root, rest)
      | _ => none
    else
      let (root, rest) ← root? Handles.standard tokens
      some (some root, rest)

/-- The one document that a list of tokens consists of, if it is not empty. -/
def ofTokens? (tokens : List Token) : Option (Option (Node String)) := do
  let (root, rest) ← document? tokens
  guard (rest.all (· == .documentEnd))
  return root

end Node

end CatalogBrowser.Yaml
