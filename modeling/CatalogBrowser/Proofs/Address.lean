import CatalogBrowser.Connection

/-!
# The database in an address

The database that a connection names by its URL is cut out behind the last slash, wherever that
stands. It is the one in the URL's path only if there is one, and if no slash comes behind it: the
authority is taken for a database if nothing follows it, and so is the last part of a query that has
slashes.

## Main definitions

* `Address` - a URL, taken apart.
* `Connection.IsLeadingName`, `Connection.Names` - the name that a text begins with.

## Main statements

* `Connection.names_behind` - the name stands behind the last slash.
* `Connection.configuredDatabase_address` - which part of an address that is.
-/

namespace CatalogBrowser

/-- A URL `scheme://authority`, with a database behind another slash or without, and with a query
behind a question mark or without. -/
structure Address where
  scheme : String
  authority : String
  database : Option String := none
  query : Option String := none
  scheme_plain : '/' ∉ scheme.toList
  authority_plain : '/' ∉ authority.toList ∧ '?' ∉ authority.toList
  database_plain : ∀ name ∈ database, '/' ∉ name.toList ∧ '?' ∉ name.toList

namespace Address

/-- The part of an address behind the last slash of its path, or behind the scheme. -/
def tail (a : Address) : String :=
  a.database.getD a.authority

def text (a : Address) : String :=
  a.scheme ++ "://" ++ a.authority ++ a.database.elim "" ("/" ++ ·) ++ a.query.elim "" ("?" ++ ·)

theorem tail_plain (a : Address) : '/' ∉ a.tail.toList ∧ '?' ∉ a.tail.toList := by
  cases hdatabase : a.database with
  | none => simpa [tail, hdatabase] using a.authority_plain
  | some name => simpa [tail, hdatabase] using a.database_plain name hdatabase

/-- Behind the slash in front of its tail, an address has only its query. -/
theorem exists_text_eq (a : Address) :
    ∃ front, a.text = front ++ "/" ++ (a.tail ++ a.query.elim "" ("?" ++ ·)) := by
  cases hdatabase : a.database with
  | none => exact ⟨a.scheme ++ ":/", by simp [text, tail, hdatabase, String.append_assoc]⟩
  | some name =>
    exact ⟨a.scheme ++ "://" ++ a.authority, by simp [text, tail, hdatabase, String.append_assoc]⟩

end Address

namespace Connection

variable {text name : String} {found : Option String}

/-- The longest prefix of a text that consists of characters that can be part of a name. -/
structure IsLeadingName (text name : String) : Prop where
  isPrefix : name.toList <+: text.toList
  isName : ∀ c ∈ name.toList, isNameChar c = true
  longest : ∀ other : List Char, other <+: text.toList → (∀ c ∈ other, isNameChar c = true) →
    other.length ≤ name.toList.length

/-- The name that a text begins with, if it begins with one. -/
inductive Names (text : String) : Option String → Prop
  | named {name : String} : name ≠ "" → IsLeadingName text name → Names text (some name)
  | nameless : IsLeadingName text "" → Names text none

theorem isLeadingName_iff :
    IsLeadingName text name ↔ name.toList = text.toList.takeWhile isNameChar := by
  constructor
  · intro h
    have hlength := h.longest _ (List.takeWhile_prefix isNameChar)
      fun c hc => List.all_eq_true.1 List.all_takeWhile c hc
    obtain ⟨rest, hrest⟩ := h.isPrefix
    rw [← hrest, List.takeWhile_append_of_pos h.isName] at hlength ⊢
    rw [List.length_append] at hlength
    rw [List.eq_nil_of_length_eq_zero (by omega : (rest.takeWhile isNameChar).length = 0),
      List.append_nil]
  · intro h
    refine ⟨h ▸ List.takeWhile_prefix isNameChar, fun c hc => ?_, fun other hother hnames => ?_⟩
    · rw [h] at hc
      exact List.all_eq_true.1 List.all_takeWhile c hc
    · obtain ⟨rest, hrest⟩ := hother
      rw [h, ← hrest, List.takeWhile_append_of_pos hnames, List.length_append]
      exact Nat.le_add_right _ _

/-- A query is no part of a name. -/
theorem isLeadingName_query (text query name : String) :
    IsLeadingName (text ++ ("?" ++ query)) name ↔ IsLeadingName text name := by
  have hmark : isNameChar '?' = false := by decide +kernel
  rw [isLeadingName_iff, isLeadingName_iff, String.toList_append, String.toList_append,
    List.takeWhile_append]
  split
  next hall =>
    have hsame : text.toList.takeWhile isNameChar = text.toList :=
      (List.takeWhile_prefix isNameChar).eq_of_length hall
    rw [hsame, show "?".toList ++ query.toList = '?' :: query.toList from rfl,
      List.takeWhile_cons_of_neg (by simp [hmark]), List.append_nil]
  next => rfl

theorem Names.of_query {query : String} (h : Names (text ++ ("?" ++ query)) found) :
    Names text found := by
  cases h with
  | named hname hleading => exact .named hname ((isLeadingName_query text query _).1 hleading)
  | nameless hleading => exact .nameless ((isLeadingName_query text query "").1 hleading)

/-- The characters behind the last slash. -/
theorem afterLastSlash?_append {behind : List Char} (front : List Char) (h : '/' ∉ behind) :
    afterLastSlash? (front ++ '/' :: behind) = some behind := by
  have hplain : ∀ c ∈ behind.reverse, decide (c ≠ '/') = true := by
    intro c hc
    exact decide_eq_true fun hslash => h (hslash ▸ List.mem_reverse.1 hc)
  have hcut : (front ++ '/' :: behind).reverse.takeWhile (· ≠ '/') = behind.reverse := by
    rw [List.reverse_append, List.reverse_cons, List.append_assoc,
      List.takeWhile_append_of_pos hplain]
    simp
  rw [afterLastSlash?, if_pos (by simp), hcut, List.reverse_reverse]

/-- A URL gives the name that stands behind its last slash. -/
theorem names_behind (front : String) {behind : String} (h : '/' ∉ behind.toList) :
    Names behind (databaseOfUrl? (front ++ "/" ++ behind)) := by
  have hchars : (front ++ "/" ++ behind).toList = front.toList ++ '/' :: behind.toList := by
    simp [String.toList_append]
  simp only [databaseOfUrl?, hchars, afterLastSlash?_append front.toList h, Option.bind_eq_bind,
    Option.bind_some]
  split
  next hempty =>
    refine .nameless (isLeadingName_iff.2 ?_)
    rw [List.isEmpty_iff.1 hempty]
    rfl
  next hname =>
    refine .named (fun hempty => hname ?_) (isLeadingName_iff.2 (String.toList_ofList))
    have hchars := congrArg String.toList hempty
    rw [String.toList_ofList] at hchars
    rw [hchars]
    rfl

/-- What a URL gives is the name that stands behind the last slash of its query, if there is a slash
in it. Otherwise it is the name that the database begins with, or the authority if there is none. -/
theorem configuredDatabase_address (a : Address) :
    let found := ({ url := some a.text } : Connection).configuredDatabase
    (∀ front behind, a.query = some (front ++ "/" ++ behind) → '/' ∉ behind.toList →
        Names behind found) ∧
      ((∀ query ∈ a.query, '/' ∉ query.toList) → Names (a.database.getD a.authority) found) := by
  intro found
  have hfound : found = databaseOfUrl? a.text := rfl
  obtain ⟨front, htext⟩ := a.exists_text_eq
  rw [hfound]
  constructor
  · intro before behind hquery hplain
    have hsplit : a.text = front ++ "/" ++ (a.tail ++ ("?" ++ before)) ++ "/" ++ behind := by
      simp [htext, hquery, String.append_assoc]
    rw [hsplit]
    exact names_behind _ hplain
  · intro hplain
    rw [htext]
    cases hquery : a.query with
    | none =>
      rw [Option.elim_none, String.append_empty]
      exact names_behind front a.tail_plain.1
    | some query =>
      refine (names_behind front ?_).of_query
      simpa [String.toList_append] using ⟨a.tail_plain.1, hplain query hquery⟩

/-- The path of a file in the query is taken for the database, and so is a host that no database
follows. -/
theorem configuredDatabase_address_strayed :
    let certified : Address := {
      scheme := "jdbc:postgresql"
      authority := "localhost"
      database := some "app"
      query := some "sslrootcert=/etc/ca.pem"
      scheme_plain := by decide
      authority_plain := by decide
      database_plain := by decide }
    let bare : Address := {
      scheme := "jdbc:postgresql"
      authority := "localhost:5432"
      scheme_plain := by decide
      authority_plain := by decide
      database_plain := by decide }
    ({ url := some certified.text } : Connection).configuredDatabase = some "ca.pem" ∧
      IsLeadingName "app" "app" ∧
      ({ url := some bare.text } : Connection).configuredDatabase = some "localhost" := by
  refine ⟨by decide +kernel, isLeadingName_iff.2 (by decide +kernel), by decide +kernel⟩

end Connection

end CatalogBrowser
