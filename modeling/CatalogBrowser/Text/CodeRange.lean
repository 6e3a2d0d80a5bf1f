/-!
# Character classes given by code point ranges

A character class of the Unicode standard is kept as a list of closed ranges of code points, in
ascending order. `CodeRanges.contains` decides membership.
-/

namespace CatalogBrowser

/-- A set of characters, as closed ranges of code points. -/
abbrev CodeRanges := List (Nat × Nat)

namespace CodeRanges

/-- Whether some range holds the character. -/
def contains (ranges : CodeRanges) (c : Char) : Bool :=
  ranges.any fun range => range.1 ≤ c.toNat && c.toNat ≤ range.2

end CodeRanges

end CatalogBrowser
