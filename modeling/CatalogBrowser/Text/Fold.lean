import CatalogBrowser.Text.Casing

/-!
# Folding texts to lower and upper case

`Text.lowercase` and `Text.uppercase` are the full case mappings of the Unicode standard without
any language's tailoring. Upper case maps character by character. So does lower case, except for
the capital sigma, which becomes a final sigma at the end of a word.
-/

namespace CatalogBrowser.Text

/-- Whether the first character that is not case ignorable is cased. -/
def startsCased (cs : List Char) : Bool :=
  match cs.dropWhile caseIgnorableRanges.contains with
  | c :: _ => casedRanges.contains c
  | [] => false

/-- The lower case of a capital sigma between the characters `before`, nearest first, and
`after`. -/
def lowerSigma (before after : List Char) : Char :=
  if startsCased before && !startsCased after then 'ς' else 'σ'

/-- Lower case of a text whose preceding characters, nearest first, are `before`. -/
def lowerChars (before : List Char) : List Char → List Char
  | [] => []
  | c :: after =>
    (if c = 'Σ' then [lowerSigma before after] else lowerChar c) ++ lowerChars (c :: before) after

/-- The lower case of a text. -/
def lowercase (s : String) : String :=
  String.ofList (lowerChars [] s.toList)

/-- The upper case of a text. -/
def uppercase (s : String) : String :=
  String.ofList (s.toList.flatMap upperChar)

end CatalogBrowser.Text
