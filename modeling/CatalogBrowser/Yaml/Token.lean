import CatalogBrowser.Yaml.Scalar

/-!
# Tokens

The tokens of a YAML text, and how those with a text of their own are read: anchors, tags and
directives.
-/

namespace CatalogBrowser.Yaml

/-- A token. -/
inductive Token where
  | version (major minor : Nat)
  /-- Declares what a tag handle stands for. -/
  | handle (name expansion : String)
  | documentStart
  | documentEnd
  | blockListStart
  | blockTableStart
  | blockEnd
  | flowListStart
  | flowListEnd
  | flowTableStart
  | flowTableEnd
  | blockEntry
  | flowEntry
  | key
  | value
  | anchor (name : String)
  | reference (name : String)
  | tag (handle suffix : String)
  | scalar (text : String) (isPlain : Bool)
deriving DecidableEq, Repr

namespace Cursor

/-- Reads the name of an anchor or of a reference after its indicator. -/
def anchorName? (c : Cursor) : Option (String × Cursor) :=
  let (name, c) := c.skip.span isWordChar
  if !name.isEmpty && (c.endsWord || c.isAtAny "?:,]\x7d%@`") then some (String.ofList name, c)
  else none

/-- How many octets a character has whose first octet is given. -/
def octetCount? (octet : Nat) : Option Nat :=
  if octet < 0x80 then some 1
  else if 0xC0 ≤ octet && octet < 0xE0 then some 2
  else if 0xE0 ≤ octet && octet < 0xF0 then some 3
  else if 0xF0 ≤ octet && octet < 0xF8 then some 4
  else none

/-- Reads one octet that is written as a percent sign and two digits. -/
def octet? (c : Cursor) : Option (Nat × Cursor) := do
  let digits := (c.rest.drop 1).take 2
  guard (c.isAt '%' && digits.length = 2)
  return (← Literal.digits? 16 digits, c.skip 3)

def continuation? : Nat → Nat → Cursor → Option (Nat × Cursor)
  | 0, code, c => some (code, c)
  | n + 1, code, c => do
    let (octet, c) ← c.octet?
    guard (0x80 ≤ octet && octet < 0xC0)
    continuation? n (code * 64 + (octet - 0x80)) c

def writtenOctets? (c : Cursor) : Option (Char × Cursor) := do
  let (octet, c) ← c.octet?
  let count ← octetCount? octet
  let lead := if count = 1 then octet else octet % Nat.pow 2 (7 - count)
  let (code, c) ← continuation? (count - 1) lead c
  return (Char.ofNat code, c)

/-- Reads the characters of a tag, where `isOpen` admits those that flow collections use. -/
def tagTextFrom (isOpen : Bool) : Nat → Cursor → List Char → Option (List Char × Cursor)
  | 0, c, text => some (text, c)
  | n + 1, c, text =>
    match c.peek with
    | none => some (text, c)
    | some char =>
      if char = '%' then do
        let (char, c) ← c.writtenOctets?
        tagTextFrom isOpen n c (text ++ [char])
      else if isWordChar char || char ∈ ";/?:@&=+$.!~*'()".toList ||
          (isOpen && char ∈ ",[]".toList) then
        tagTextFrom isOpen n c.skip (text ++ [char])
      else some (text, c)

def tagText? (c : Cursor) (isOpen : Bool) : Option (List Char × Cursor) :=
  tagTextFrom isOpen c.rest.length c []

/-- Reads an exclamation mark, what may follow it in a handle, and a second mark if there is one. -/
def tagHandle (c : Cursor) : List Char × Cursor :=
  let (name, c) := c.skip.span isWordChar
  if c.isAt '!' then ('!' :: name ++ ['!'], c.skip) else ('!' :: name, c)

/-- Reads a tag that is written out between angle brackets. -/
def verbatimTag? (c : Cursor) : Option (Token × Cursor) := do
  let (text, c) ← (c.skip 2).tagText? true
  guard (!text.isEmpty && c.isAt '>')
  return (.tag "" (String.ofList text), c.skip)

/-- Reads a tag that consists of a handle and a suffix. A lone exclamation mark is a tag as well. -/
def shortTag? (c : Cursor) : Option (Token × Cursor) := do
  let (handle, c) := c.tagHandle
  let (text, c) ← c.tagText? false
  if 2 ≤ handle.length && handle.getLast? = some '!' then
    guard (!text.isEmpty)
    return (.tag (String.ofList handle) (String.ofList text), c)
  else
    let suffix := handle.tail ++ text
    if suffix.isEmpty then return (.tag "" "!", c)
    else return (.tag "!" (String.ofList suffix), c)

def tag? (c : Cursor) (inFlow : Bool) : Option (Token × Cursor) := do
  let (tag, c) ← if c.isAt '<' 1 then c.verbatimTag? else c.shortTag?
  guard (c.endsWord || (inFlow && c.isAt ','))
  return (tag, c)

/-- Reads a number of at most nine digits. -/
def versionNumber? (c : Cursor) : Option (Nat × Cursor) := do
  let (digits, c) := c.span Char.isDigit
  guard (digits.length ≤ 9)
  return (← Literal.digits? 10 digits, c)

def version? (c : Cursor) : Option (Token × Cursor) := do
  let (major, c) ← (c.skipWhile isBlank).versionNumber?
  guard (c.isAt '.')
  let (minor, c) ← c.skip.versionNumber?
  return (.version major minor, c)

/-- Reads the tag handle that a directive declares, and what it stands for. -/
def handleDeclaration? (c : Cursor) : Option (Token × Cursor) := do
  let c := c.skipWhile isBlank
  guard (c.isAt '!')
  let (handle, c) := c.tagHandle
  guard (handle.length = 1 || handle.getLast? = some '!')
  guard (c.peek.any isBlank)
  let (text, c) ← (c.skipWhile isBlank).tagText? true
  guard (!text.isEmpty && c.endsWord)
  return (.handle (String.ofList handle) (String.ofList text), c)

def directive? (c : Cursor) : Option (Token × Cursor) := do
  let (name, c) := c.skip.span isWordChar
  guard c.endsWord
  let (token, c) ←
    if name = "YAML".toList then c.version?
    else if name = "TAG".toList then c.handleDeclaration?
    else none
  return (token, ← c.restOfLine?)

end Cursor

end CatalogBrowser.Yaml
