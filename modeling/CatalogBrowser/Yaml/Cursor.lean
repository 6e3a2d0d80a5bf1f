/-!
# Reading positions

A YAML text is read from left to right. A `Cursor` is a position in it: what is still to be read,
and the line, the column and the number of characters before it.

Line breaks are line feeds, carriage returns, both together, and the next line, line separator and
paragraph separator characters. The separators stand for themselves, all others for a line feed.
-/

namespace CatalogBrowser.Yaml

def isBreak (c : Char) : Bool :=
  c = '\n' || c = '\r' || c = '\u0085' || c = '\u2028' || c = '\u2029'

/-- Whether a character is a space or a tab. -/
def isBlank (c : Char) : Bool :=
  c = ' ' || c = '\t'

/-- Whether a character can be part of an anchor or of a tag handle. -/
def isWordChar (c : Char) : Bool :=
  c.isAlphanum || c = '_' || c = '-'

/-- Whether a character can occur in a text at all: most control characters cannot. -/
def isPrintable (c : Char) : Bool :=
  let n := c.toNat
  c = '\t' || c = '\n' || c = '\r' || (0x20 ≤ n && n ≤ 0x7E) || n = 0x85 ||
    (0xA0 ≤ n && n ≤ 0xFFFD) || 0x10000 ≤ n

/-- A position in a text. -/
structure Cursor where
  rest : List Char
  index : Nat := 0
  line : Nat := 0
  column : Nat := 0

namespace Cursor

/-- The next character but `n`. -/
def peek (c : Cursor) (n : Nat := 0) : Option Char :=
  c.rest[n]?

/-- Whether the next character but `n` is a given one. -/
def isAt (c : Cursor) (char : Char) (n : Nat := 0) : Bool :=
  c.peek n == some char

/-- Whether the next character but `n` is one of some. -/
def isAtAny (c : Cursor) (chars : String) (n : Nat := 0) : Bool :=
  (c.peek n).any (· ∈ chars.toList)

/-- Whether the next character but `n` is a blank or a line break, or there is none. -/
def endsWord (c : Cursor) (n : Nat := 0) : Bool :=
  (c.peek n).all fun char => isBlank char || isBreak char

/-- Whether the line ends here. -/
def endsLine (c : Cursor) : Bool :=
  c.peek.all isBreak

/-- Passes over characters of the line. -/
def skip (c : Cursor) (n : Nat := 1) : Cursor :=
  { c with rest := c.rest.drop n, index := c.index + n, column := c.column + n }

/-- Reads characters of the line as long as they satisfy a predicate. -/
def span (p : Char → Bool) (c : Cursor) : List Char × Cursor :=
  let read := c.rest.takeWhile p
  (read, c.skip read.length)

/-- Passes over characters of the line as long as they satisfy a predicate. -/
def skipWhile (p : Char → Bool) (c : Cursor) : Cursor :=
  (c.span p).2

/-- What the line break at the cursor stands for. -/
def breakText (c : Cursor) : List Char :=
  match c.peek with
  | some char =>
    if char = '\u2028' || char = '\u2029' then [char] else if isBreak char then ['\n'] else []
  | none => []

/-- Passes over the line break at the cursor, if there is one. -/
def skipBreak (c : Cursor) : Cursor :=
  match c.rest with
  | '\r' :: '\n' :: rest => { rest, index := c.index + 2, line := c.line + 1 }
  | char :: rest => if isBreak char then { rest, index := c.index + 1, line := c.line + 1 } else c
  | [] => c

/-- Whether three equal characters stand at the beginning of a line, as a word. -/
def isAtMarker (c : Cursor) (char : Char) : Bool :=
  c.column == 0 && c.rest.take 3 == [char, char, char] && c.endsWord 3

/-- Whether a marker of the beginning or of the end of a document stands here. -/
def isAtDocumentMarker (c : Cursor) : Bool :=
  c.isAtMarker '-' || c.isAtMarker '.'

end Cursor

end CatalogBrowser.Yaml
