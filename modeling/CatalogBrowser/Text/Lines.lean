/-!
# Lines

The lines of a text. A line ends with a line feed, with or without a carriage return before it; what
follows the last line feed is a line of its own unless it is empty.
-/

namespace CatalogBrowser.Text

/-- A reversed line without the carriage return at its end. -/
def withoutReturn : List Char → List Char
  | '\r' :: rest => rest
  | line => line

/-- The lines of a text that begins with the reversal of `line`. -/
def linesFrom (line : List Char) : List Char → List (List Char)
  | [] => if line.isEmpty then [] else [line.reverse]
  | c :: rest =>
    if c = '\n' then (withoutReturn line).reverse :: linesFrom [] rest
    else linesFrom (c :: line) rest

/-- The lines of a text. -/
def lines (s : String) : List String :=
  (linesFrom [] s.toList).map String.ofList

end CatalogBrowser.Text
