import CatalogBrowser.Data.Literal

/-!
# Structured data

The values of a data document, and how records are read from them. A value is either typed already,
or a scalar as it was written: such a scalar is typed by what is asked of it, so that `5` is a
number where a number is asked for and a text where a text is.

Records are read field by field from a table. A field that is missing takes its default, a field
that is unknown is passed over, and a field that occurs twice is an error. Where the format admits
it, a record may also be a list of its fields in order.

## Main definitions

* `Value` - lists, tables, and typed or written scalars.
* `Value.typed?` - the value with every written scalar typed by its own meaning.
* `Value.fields?`, `Fields.get` - reading a record.
-/

namespace CatalogBrowser

/-- A value of a data document. -/
inductive Value where
  /-- A typed scalar. -/
  | scalar (value : Scalar)
  /-- A scalar as it was written, with or without quotes, and its tag. -/
  | written (text : String) (isPlain : Bool) (tag : Option String)
  | list (items : List Value)
  | table (entries : List (Value × Value))
  /-- A list or table with a tag that is local to the document. -/
  | labelled (value : Value)
  /-- A value that contains itself, or too many others. -/
  | endless
deriving Inhabited

namespace Value

def coreTag (name : String) : String :=
  "tag:yaml.org,2002:" ++ name

def localTag? (tag : Option String) : Option String :=
  match tag.map String.toList with
  | some ('!' :: rest) => some (String.ofList rest)
  | _ => none

/-- The typed value of a written scalar: what its core tag says, or else its meaning if it has no
quotes, or else its text. -/
def writtenScalar? (text : String) (isPlain : Bool) (tag : Option String) : Option Scalar :=
  match tag with
  | none => some (if isPlain then Literal.meaning text else .text text)
  | some tag =>
    if tag = coreTag "bool" then (Literal.bool? text).map .bool
    else if tag = coreTag "int" then (Literal.integer? text).map .int
    else if tag = coreTag "float" then
      if Literal.isFraction text then some .fraction else none
    else if tag = coreTag "null" then if Literal.isNull text then some .null else none
    else some (.text text)

/-- Whether a typed scalar can be kept: integers have at most 64 bits. -/
def isKept : Scalar → Bool
  | .int n => -Int.ofNat (Nat.pow 2 63) ≤ n && n < Int.ofNat (Nat.pow 2 64)
  | _ => true

mutual

/-- How deep lists and tables are nested in the value. -/
def depth : Value → Nat
  | .list items => itemsDepth items + 1
  | .table entries => entriesDepth entries + 1
  | .labelled v => depth v
  | _ => 0

/-- How deep lists and tables are nested in the items of a list. -/
def itemsDepth : List Value → Nat
  | [] => 0
  | item :: rest => max (depth item) (itemsDepth rest)

/-- How deep lists and tables are nested in the entries of a table. -/
def entriesDepth : List (Value × Value) → Nat
  | [] => 0
  | (key, value) :: rest => max (max (depth key) (depth value)) (entriesDepth rest)

end

/-- How deep the lists and tables of a document may be nested. -/
def depthLimit : Nat := 128

mutual

/-- The value with every written scalar typed. Local tags and integers of more than 64 bits cannot
be typed. -/
def typed? : Value → Option Value
  | .scalar value => some (.scalar value)
  | .written text isPlain tag =>
    match localTag? tag with
    | some _ => none
    | none => ((writtenScalar? text isPlain tag).filter isKept).map .scalar
  | .list items => (typedItems? items).map .list
  | .table entries => (typedEntries? entries).map .table
  | .labelled _ => none
  | .endless => none

def typedItems? : List Value → Option (List Value)
  | [] => some []
  | item :: rest => do return (← typed? item) :: (← typedItems? rest)

def typedEntries? : List (Value × Value) → Option (List (Value × Value))
  | [] => some []
  | (key, value) :: rest => do
    return (← typed? key, ← typed? value) :: (← typedEntries? rest)

end

def text? : Value → Option String
  | .scalar (.text s) => some s
  | .written text _ _ => some text
  | _ => none

def bool? : Value → Option Bool
  | .scalar (.bool b) => some b
  | .written text true _ => Literal.bool? text
  | _ => none

/-- The value as a number from zero to below a limit. -/
def natural? (limit : Nat) : Value → Option Nat
  | .scalar (.int n) => if 0 ≤ n && n < limit then some n.toNat else none
  | .written text true _ => Literal.natural? limit text
  | _ => none

/-- An unsigned number of 64 bits. -/
def word? : Value → Option Nat :=
  natural? (Nat.pow 2 64)

/-- Whether the value stands for nothing. A scalar that is tagged as null has to spell it. -/
def isNull? : Value → Option Bool
  | .scalar value => some (value == .null)
  | .written text true none => some (text.isEmpty || Literal.isNull text)
  | .written text true (some tag) =>
    if tag = coreTag "null" then if Literal.isNull text then some true else none
    else some false
  | _ => some false

def optional? {α : Type} (read : Value → Option α) (v : Value) : Option (Option α) := do
  if ← isNull? v then return none else return some (← read v)

/-- Whether the value is a scalar of which nothing was written. -/
def isVoid : Value → Bool
  | .written "" true _ => true
  | _ => false

/-- The items of a list; nothing written is the empty list. -/
def items? : Value → Option (List Value)
  | .list items => some items
  | .labelled v => v.items?
  | v => if v.isVoid then some [] else none

def list? {α : Type} (read : Value → Option α) (v : Value) : Option (List α) := do
  (← v.items?).mapM read

/-- The entries of a table by the texts of their keys; nothing written is the empty table. -/
def entries? : Value → Option (List (String × Value))
  | .table entries => entries.mapM fun (key, value) => key.text?.map (·, value)
  | .labelled v => v.entries?
  | v => if v.isVoid then some [] else none

/-- The name that picks one of several alternatives: a text, a local tag on nothing, or the key of
a table with nothing under it, if the format admits that. -/
def choice? (admitsTable : Bool) : Value → Option String
  | .written text isPlain tag =>
    match localTag? tag with
    | some name => if isPlain && (text.isEmpty || Literal.isNull text) then some name else none
    | none => some text
  | .scalar (.text s) => some s
  | .table [(key, .scalar .null)] => if admitsTable then key.text? else none
  | _ => none

end Value

abbrev Fields := List (String × Value)

/-- The fields of a record among `names`, from a table, or from a list if those are `positional`.
Fails if a field occurs twice, or if a list is too long. -/
def Value.fields? (names : List String) (positional : Bool) (v : Value) : Option Fields :=
  match v, positional with
  | .list items, true =>
    if items.length ≤ names.length then some (names.zip items) else none
  | .list _, false => none
  | v, _ => do
    let known := (← v.entries?).filter (names.contains ·.1)
    if (known.map (·.1)).Nodup then some known else none

namespace Fields

/-- The value of a field, or its default if it is missing. -/
def get {α : Type} (fields : Fields) (name : String) (read : Value → Option α) (default : α) :
    Option α :=
  match fields.lookup name with
  | some v => read v
  | none => some default

end Fields

end CatalogBrowser
