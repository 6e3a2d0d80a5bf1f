import CatalogBrowser.Yaml.Token

/-!
# Layout

How a text is cut into tokens. Blocks are marked by indentation: a block begins where an entry
stands further to the right than the block around it, and ends where a line begins further to the
left. A key is recognised only by the colon after it. So every token that may begin a key is kept in
mind, one for each level of flow collections, until the line ends or 1024 characters are passed; a
key that must come because its line begins a table entry has to be followed by its colon.

## Main definitions

* `Layout` - the tokens so far, the open blocks, and the possible keys.
* `Token.ofString?` - the tokens of a text.
-/

namespace CatalogBrowser.Yaml

/-- A token that may turn out to begin a key. -/
structure PossibleKey where
  /-- Whether nothing else can stand here. -/
  isRequired : Bool
  /-- How many tokens stand before it. -/
  position : Nat
  start : Cursor

/-- How far the text has been cut into tokens. -/
structure Layout where
  cursor : Cursor
  /-- The tokens so far, the last one first. -/
  tokens : List Token := []
  /-- The columns of the open blocks, the innermost first. -/
  blocks : List Nat := []
  /-- The possible keys: one outside of flow collections and one for each open flow collection, the
  innermost first. -/
  keys : List (Option PossibleKey) := [none]
  /-- Whether a key may begin here. -/
  admitsKey : Bool := true

namespace Layout

def isInFlow (s : Layout) : Bool :=
  s.keys.length > 1

def push (s : Layout) (token : Token) : Layout :=
  { s with tokens := token :: s.tokens }

def insertAt (s : Layout) (position : Nat) (token : Token) : Layout :=
  let later := s.tokens.length - position
  { s with tokens := s.tokens.take later ++ token :: s.tokens.drop later }

/-- Passes over characters. -/
def skip (s : Layout) (n : Nat := 1) : Layout :=
  { s with cursor := s.cursor.skip n }

/-- Opens a block at a column, behind a number of tokens, if the column is to the right of the block
that is open. There are no blocks in flow collections. -/
def openBlock (s : Layout) (column position : Nat) (token : Token) : Layout :=
  if s.isInFlow || s.blocks.any (column ≤ ·) then s
  else { s with blocks := column :: s.blocks }.insertAt position token

def openBlockHere (s : Layout) (token : Token) : Layout :=
  s.openBlock s.cursor.column s.tokens.length token

/-- Closes the blocks whose columns satisfy a predicate, from the innermost on. -/
def closeBlocks (s : Layout) (p : Nat → Bool) : Layout :=
  if s.isInFlow then s
  else
    let closed := s.blocks.takeWhile p
    { s with
      blocks := s.blocks.dropWhile p
      tokens := List.replicate closed.length .blockEnd ++ s.tokens }

/-- Gives up the possible key of the innermost level, unless it is required. -/
def dropKey? (s : Layout) : Option Layout :=
  if s.keys.head?.join.any (·.isRequired) then none
  else some { s with keys := none :: s.keys.tail }

/-- Notes that a key may begin here. -/
def saveKey? (s : Layout) : Option Layout :=
  if s.admitsKey then do
    let s ← s.dropKey?
    let key : PossibleKey := {
      isRequired := !s.isInFlow && s.blocks.head? == some s.cursor.column
      position := s.tokens.length
      start := s.cursor }
    return { s with keys := some key :: s.keys.tail }
  else some s

/-- Whether a possible key began on an earlier line, or too far back. -/
def isStale (s : Layout) (key : PossibleKey) : Bool :=
  key.start.line < s.cursor.line || key.start.index + 1024 < s.cursor.index

/-- Gives up the keys that can no longer be followed by their colon, unless one is required. -/
def dropStaleKeys? (s : Layout) : Option Layout :=
  let stale := fun (key : Option PossibleKey) => key.any s.isStale
  if s.keys.any fun key => stale key && key.any (·.isRequired) then none
  else some { s with keys := s.keys.map fun key => if stale key then none else key }

def allowKey (s : Layout) (admitsKey : Bool) : Layout :=
  { s with admitsKey }

/-- Passes over a byte order mark at the beginning of a line, blanks and a comment. Tabs must not
stand where they might be taken for indentation. -/
def skipBlanks (s : Layout) : Layout :=
  let c := s.cursor
  let c := if c.column = 0 && c.isAt '\ufeff' then c.skip else c
  let admitsTabs := s.isInFlow || !s.admitsKey
  let c := c.skipWhile fun char => char = ' ' || (admitsTabs && char = '\t')
  let c := if c.isAt '#' then c.skipWhile (!isBreak ·) else c
  { s with cursor := c }

/-- Passes over everything before the next token. Outside of flow collections, a key may begin on
each line. -/
def skipToToken (s : Layout) : Nat → Layout
  | 0 => s
  | n + 1 =>
    let s := s.skipBlanks
    if s.cursor.peek.any isBreak then
      let s := { s with cursor := s.cursor.skipBreak }
      (if s.isInFlow then s else s.allowKey true).skipToToken n
    else s

def pushRead (s : Layout) (token : Token) (cursor : Cursor) : Layout :=
  { s with cursor }.push token

def directive? (s : Layout) : Option Layout := do
  let s ← (s.closeBlocks fun _ => true).dropKey?
  let (token, cursor) ← s.cursor.directive?
  return (s.allowKey false).pushRead token cursor

/-- Takes a marker of the beginning or of the end of a document. -/
def documentMarker? (s : Layout) (token : Token) : Option Layout := do
  let s ← (s.closeBlocks fun _ => true).dropKey?
  return ((s.allowKey false).skip 3).push token

def flowStart? (s : Layout) (token : Token) : Option Layout := do
  let s ← s.saveKey?
  return ({ s with keys := none :: s.keys, admitsKey := true }.skip).push token

def flowEnd? (s : Layout) (token : Token) : Option Layout := do
  let s ← s.dropKey?
  let keys := if s.isInFlow then s.keys.tail else s.keys
  return ({ s with keys, admitsKey := false }.skip).push token

def flowEntry? (s : Layout) : Option Layout := do
  let s ← s.dropKey?
  return ((s.allowKey true).skip).push .flowEntry

def blockEntry? (s : Layout) : Option Layout := do
  guard (s.isInFlow || s.admitsKey)
  let s ← (s.openBlockHere .blockListStart).dropKey?
  return ((s.allowKey true).skip).push .blockEntry

def key? (s : Layout) : Option Layout := do
  guard (s.isInFlow || s.admitsKey)
  let s ← (s.openBlockHere .blockTableStart).dropKey?
  return ((s.allowKey !s.isInFlow).skip).push .key

/-- Takes a colon. If a possible key stands before it, it is a key from then on. -/
def value? (s : Layout) : Option Layout :=
  match s.keys.head?.join with
  | some key =>
    let keyed := { s with keys := none :: s.keys.tail }.insertAt key.position .key
    let opened := keyed.openBlock key.start.column key.position .blockTableStart
    some (((opened.allowKey false).skip).push .value)
  | none => do
    guard (s.isInFlow || s.admitsKey)
    return (((s.openBlockHere .blockTableStart).allowKey !s.isInFlow).skip).push .value

def property? (s : Layout) (read : Cursor → Option (Token × Cursor)) : Option Layout := do
  let s ← s.saveKey?
  let (token, cursor) ← read s.cursor
  return (s.allowKey false).pushRead token cursor

def blockScalar? (s : Layout) (isFolded : Bool) : Option Layout := do
  let s ← s.dropKey?
  let (text, cursor) ← s.cursor.block? isFolded s.blocks.head?
  return (s.allowKey true).pushRead (.scalar (String.ofList text) false) cursor

def quoted? (s : Layout) (quote : Char) : Option Layout := do
  let s ← s.saveKey?
  let (text, cursor) ← s.cursor.quoted? quote
  return (s.allowKey false).pushRead (.scalar (String.ofList text) false) cursor

def plain? (s : Layout) : Option Layout := do
  let s ← s.saveKey?
  let indent := (s.blocks.head?.map (· + 1)).getD 0
  let (text, endsLine, cursor) ← s.cursor.plain? s.isInFlow indent
  return (s.allowKey endsLine).pushRead (.scalar (String.ofList text) true) cursor

/-- Whether a plain scalar can begin with a character at the cursor. -/
def admitsPlain (s : Layout) (char : Char) : Bool :=
  let c := s.cursor
  (!isBlank char && !isBreak char && char ∉ "-?:,[]\x7b\x7d#&*!|>'\"%@`".toList) ||
    (char = '-' && !(c.peek 1).any isBlank) ||
    (!s.isInFlow && (char = '?' || char = ':') && !c.endsWord 1)

/-- Takes the token that begins with a character at the cursor. -/
def tokenAt? (s : Layout) (char : Char) : Option Layout :=
  let c := s.cursor
  let isIndicator := s.isInFlow || c.endsWord 1
  if c.column = 0 && char = '%' then s.directive?
  else if c.isAtMarker '-' then s.documentMarker? .documentStart
  else if c.isAtMarker '.' then s.documentMarker? .documentEnd
  else match char with
  | '[' => s.flowStart? .flowListStart
  | '{' => s.flowStart? .flowTableStart
  | ']' => s.flowEnd? .flowListEnd
  | '}' => s.flowEnd? .flowTableEnd
  | ',' => s.flowEntry?
  | '*' => s.property? fun c => c.anchorName?.map fun (name, c) => (.reference name, c)
  | '&' => s.property? fun c => c.anchorName?.map fun (name, c) => (.anchor name, c)
  | '!' => s.property? (·.tag? s.isInFlow)
  | '\'' | '"' => s.quoted? char
  | _ =>
    if char = '-' && c.endsWord 1 then s.blockEntry?
    else if char = '?' && isIndicator then s.key?
    else if char = ':' && isIndicator then s.value?
    else if (char = '|' || char = '>') && !s.isInFlow then s.blockScalar? (char = '>')
    else if s.admitsPlain char then s.plain?
    else none

/-- Cuts the rest of the text into tokens. -/
def run? : Nat → Layout → Option (List Token)
  | 0, _ => none
  | n + 1, s => do
    let s ← (s.skipToToken s.cursor.rest.length).dropStaleKeys?
    let s := s.closeBlocks (s.cursor.column < ·)
    match s.cursor.peek with
    | some char => run? n (← s.tokenAt? char)
    | none =>
      let s ← (s.closeBlocks fun _ => true).dropKey?
      return s.tokens.reverse

end Layout

def Token.ofString? (text : String) : Option (List Token) :=
  let chars := text.toList
  if chars.all isPrintable then Layout.run? (chars.length + 1) { cursor := { rest := chars } }
  else none

end CatalogBrowser.Yaml
