import CatalogBrowser.Data.Literal
import CatalogBrowser.Yaml.Cursor

/-!
# Scalars

The texts of scalars in their forms: quoted, plain, and block scalars. In quoted and plain scalars
a line break is folded into a space, while further breaks after it are kept. In block scalars the
lines are kept, or folded unless they begin with a blank.

## Main definitions

* `Cursor.quoted?`, `Cursor.plain?`, `Cursor.block?` - read a scalar of each form.
-/

namespace CatalogBrowser.Yaml

/-- The blanks and line breaks between two words of a scalar. -/
structure Gap where
  /-- The blanks before the first line break. -/
  blanks : List Char := []
  /-- What each line break stands for. -/
  breaks : List (List Char) := []
  /-- Whether a tab takes the place of indentation in a line of the gap. -/
  hasTab : Bool := false

namespace Gap

/-- What the gap leaves in the scalar: its blanks if it is within a line, a space if it spans two
lines, and otherwise the further line breaks. -/
def text (gap : Gap) : List Char :=
  match gap.breaks with
  | [] => gap.blanks
  | first :: others =>
    if first = ['\n'] then if others.isEmpty then [' '] else others.flatten
    else first ++ others.flatten

def hasBreak (gap : Gap) : Bool :=
  !gap.breaks.isEmpty

end Gap

namespace Cursor

/-- Reads a gap of at most `n` characters, of which `gap` was read already. -/
def gapFrom (indent : Nat) : Nat → Cursor → Gap → Gap × Cursor
  | 0, c, gap => (gap, c)
  | n + 1, c, gap =>
    match c.peek with
    | none => (gap, c)
    | some char =>
      if isBreak char then
        gapFrom indent n c.skipBreak { gap with breaks := gap.breaks ++ [c.breakText] }
      else if isBlank char then
        let isIndentation := gap.hasBreak && char = '\t' && c.column < indent
        gapFrom indent n c.skip { gap with
          blanks := if gap.hasBreak then gap.blanks else gap.blanks ++ [char]
          hasTab := gap.hasTab || isIndentation }
      else (gap, c)

/-- Reads a gap. Lines have to be indented by a number of columns without tabs. -/
def gap (c : Cursor) (indent : Nat) (before : Gap := {}) : Gap × Cursor :=
  gapFrom indent c.rest.length c before

/-- What a character stands for after a backslash. -/
def escapes : List (Char × Char) := [
  ('0', '\x00'), ('a', '\x07'), ('b', '\x08'), ('t', '\t'), ('\t', '\t'), ('n', '\n'),
  ('v', '\x0b'), ('f', '\x0c'), ('r', '\r'), ('e', '\x1b'), (' ', ' '), ('"', '"'), ('/', '/'),
  ('\\', '\\'), ('N', '\u0085'), ('_', '\u00a0'), ('L', '\u2028'), ('P', '\u2029')]

/-- How many digits the code of a character has after a backslash and a letter. -/
def codeLengths : List (Char × Nat) := [('x', 2), ('u', 4), ('U', 8)]

/-- The character of a code point. -/
def charOfCode? (code : Nat) : Option Char :=
  if code.isValidChar then some (Char.ofNat code) else none

def escape? (c : Cursor) : Option (Char × Cursor) := do
  let kind ← c.peek 1
  match escapes.lookup kind with
  | some char => return (char, c.skip 2)
  | none =>
    let length ← codeLengths.lookup kind
    let digits := (c.rest.drop 2).take length
    guard (digits.length = length)
    return (← charOfCode? (← Literal.digits? 16 digits), c.skip (length + 2))

/-- Reads a quoted scalar whose beginning was read already, up to its closing quote. -/
def quotedFrom (quote : Char) : Nat → Cursor → List Char → Option (List Char × Cursor)
  | 0, _, _ => none
  | n + 1, c, text => do
    guard !c.isAtDocumentMarker
    let char ← c.peek
    if char = quote then
      if quote = '\'' && c.isAt '\'' 1 then quotedFrom quote n (c.skip 2) (text ++ ['\''])
      else some (text, c.skip)
    else if quote = '"' && char = '\\' then
      if (c.peek 1).any isBreak then
        let (gap, c) := c.skip.skipBreak.gap 0 { breaks := [[]] }
        quotedFrom quote n c (text ++ gap.text)
      else
        let (char, c) ← c.escape?
        quotedFrom quote n c (text ++ [char])
    else if isBlank char || isBreak char then
      let (gap, c) := c.gap 0
      quotedFrom quote n c (text ++ gap.text)
    else
      let (word, c) := c.span fun char =>
        char ≠ quote && char ≠ '\\' && !isBlank char && !isBreak char
      if word.isEmpty then quotedFrom quote n c.skip (text ++ [char])
      else quotedFrom quote n c (text ++ word)

def quoted? (c : Cursor) (quote : Char) : Option (List Char × Cursor) :=
  quotedFrom quote c.rest.length c.skip []

/-- Whether a plain scalar ends before the next character. -/
def endsPlain (c : Cursor) (inFlow : Bool) : Bool :=
  (c.isAt ':' && c.endsWord 1) || (inFlow && c.isAtAny ",[]\x7b\x7d")

/-- Whether a colon stands directly before an indicator of a flow collection. -/
def isAtStrayColon (c : Cursor) : Bool :=
  c.isAt ':' && c.isAtAny ",?[]\x7b\x7d" 1

/-- Whether a character can stand anywhere in a plain scalar. -/
def isOrdinary (c : Char) : Bool :=
  !isBlank c && !isBreak c && c ∉ ":,[]\x7b\x7d".toList

/-- Reads a plain scalar, of which `text` and, after a word, a gap were read already. Gives the
text and whether the scalar is followed by a line break. -/
def plainFrom (inFlow : Bool) (indent : Nat) :
    Nat → Cursor → List Char → Option Gap → Option (List Char × Bool × Cursor)
  | 0, _, _, _ => none
  | n + 1, c, text, before =>
    let stop := some (text, before.any Gap.hasBreak, c)
    if before.isSome && (c.isAtDocumentMarker || c.isAt '#') then stop
    else match c.peek with
    | none => stop
    | some char =>
      if isBlank char || isBreak char then
        let (gap, c) := c.gap indent
        if gap.hasTab then none
        else if !inFlow && c.column < indent then some (text, gap.hasBreak, c)
        else plainFrom inFlow indent n c text (some gap)
      else if inFlow && c.isAtStrayColon then none
      else if c.endsPlain inFlow then stop
      else
        let text := text ++ (before.map Gap.text).getD []
        let (word, after) := c.span isOrdinary
        if word.isEmpty then plainFrom inFlow indent n c.skip (text ++ [char]) none
        else plainFrom inFlow indent n after (text ++ word) none

/-- Reads a plain scalar whose lines have to be indented by a number of columns. -/
def plain? (c : Cursor) (inFlow : Bool) (indent : Nat) : Option (List Char × Bool × Cursor) :=
  plainFrom inFlow indent (c.rest.length + 1) c [] (some {})

/-- What becomes of the line breaks at the end of a block scalar: one is kept, none, or all. -/
inductive Chomping where
  | clip
  | strip
  | keep
deriving DecidableEq

def chomping (c : Cursor) : Option Chomping × Cursor :=
  if c.isAt '+' then (some .keep, c.skip)
  else if c.isAt '-' then (some .strip, c.skip)
  else (none, c)

/-- Reads an indentation indicator, or nothing as zero; a zero that is written is refused. -/
def indentation? (c : Cursor) : Option (Nat × Cursor) :=
  match c.peek with
  | some char =>
    if char = '0' then none
    else if char.isDigit then some (char.toNat - '0'.toNat, c.skip)
    else some (0, c)
  | none => some (0, c)

/-- Passes over blanks and a comment to the end of the line, and over its break. -/
def restOfLine? (c : Cursor) : Option Cursor :=
  let c := c.skipWhile isBlank
  let c := if c.isAt '#' then c.skipWhile (!isBreak ·) else c
  if c.endsLine then some c.skipBreak else none

/-- Reads the indicators of a block scalar, in either order, and the rest of their line. -/
def blockHeader? (c : Cursor) : Option (Chomping × Nat × Cursor) := do
  let (first, c) := c.chomping
  let (increment, c) ← c.indentation?
  let (second, c) := if first.isSome || increment = 0 then (none, c) else c.chomping
  return ((first.or second).getD .clip, increment, ← c.restOfLine?)

/-- Reads indentation and empty lines of a block scalar. Where the indentation is not known yet it
is zero. Gives the widest indentation and the line breaks. -/
def blockBreaksFrom (indent : Nat) :
    Nat → Cursor → Nat → List Char → Option (Nat × List Char × Cursor)
  | 0, _, _, _ => none
  | n + 1, c, widest, breaks =>
    let spaces := (c.rest.takeWhile (· = ' ')).length
    let c := c.skip (if indent = 0 then spaces else min spaces (indent - c.column))
    let widest := max widest c.column
    if (indent = 0 || c.column < indent) && c.isAt '\t' then none
    else if c.peek.any isBreak then
      blockBreaksFrom indent n c.skipBreak widest (breaks ++ c.breakText)
    else some (widest, breaks, c)

/-- Reads indentation and empty lines of a block scalar. -/
def blockBreaks? (c : Cursor) (indent : Nat) : Option (Nat × List Char × Cursor) :=
  blockBreaksFrom indent (c.rest.length + 1) c 0 []

/-- The text of a block scalar so far: all that is settled, the break of its last line, the breaks
of the empty lines after it, and whether the last line begins with a blank. -/
structure BlockText where
  settled : List Char := []
  lastBreak : List Char := []
  emptyLines : List Char := []
  isIndented : Bool := false

namespace BlockText

/-- The break before a line that begins with a blank or not. -/
def joint (text : BlockText) (isFolded startsBlank : Bool) : List Char :=
  if isFolded && text.lastBreak = ['\n'] && !text.isIndented && !startsBlank then
    if text.emptyLines.isEmpty then [' '] else []
  else text.lastBreak

def chomp (text : BlockText) : Chomping → List Char
  | .clip => text.settled ++ text.lastBreak
  | .strip => text.settled
  | .keep => text.settled ++ text.lastBreak ++ text.emptyLines

end BlockText

def blockLines (isFolded : Bool) (indent : Nat) :
    Nat → Cursor → BlockText → Option (BlockText × Cursor)
  | 0, _, _ => none
  | n + 1, c, text =>
    if c.column = indent && !c.rest.isEmpty then do
      let startsBlank := c.peek.any isBlank
      let (line, c) := c.span (!isBreak ·)
      let (_, emptyLines, after) ← c.skipBreak.blockBreaks? indent
      blockLines isFolded indent n after {
        settled := text.settled ++ text.joint isFolded startsBlank ++ text.emptyLines ++ line
        lastBreak := c.breakText
        emptyLines
        isIndented := startsBlank }
    else some (text, c)

/-- Reads a block scalar inside a block that begins at a column, or inside none. Unless it says by
how much it is indented, it is indented as its first line is. -/
def block? (c : Cursor) (isFolded : Bool) (outer : Option Nat) : Option (List Char × Cursor) := do
  let (chomping, increment, c) ← c.skip.blockHeader?
  let given := if increment = 0 then 0 else outer.getD 0 + increment
  let (widest, emptyLines, c) ← c.blockBreaks? given
  let least := (outer.map (· + 1)).getD 0
  let indent := if given = 0 then max widest (max least 1) else given
  let (text, c) ← c.blockLines isFolded indent (c.rest.length + 1) { emptyLines }
  return (text.chomp chomping, c)

end Cursor

end CatalogBrowser.Yaml
