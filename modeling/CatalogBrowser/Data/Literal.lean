/-!
# Literals

What a scalar that is written without quotes means: null, a truth value, an integer, a decimal
fraction, or simply its own text. Truth values and null have three spellings each. Integers may be
written in the bases 2, 8, 10 and 16; several digits that begin with a zero are a text.

## Main definitions

* `Scalar` - a typed scalar value.
* `Literal.meaning` - the value of an unquoted scalar.
-/

namespace CatalogBrowser

/-- A typed scalar. -/
inductive Scalar where
  | null
  | bool (value : Bool)
  | int (value : Int)
  /-- A number that is no integer; its value never matters. -/
  | fraction
  | text (value : String)
deriving DecidableEq, Repr

namespace Literal

/-- Whether a text spells null; the empty text does not. -/
def isNull (s : String) : Bool :=
  s == "null" || s == "Null" || s == "NULL" || s == "~"

def bool? (s : String) : Option Bool :=
  if s == "true" || s == "True" || s == "TRUE" then some true
  else if s == "false" || s == "False" || s == "FALSE" then some false
  else none

def digit? (c : Char) : Option Nat :=
  if c.isDigit then some (c.toNat - '0'.toNat)
  else if 'a' ≤ c && c ≤ 'f' then some (c.toNat - 'a'.toNat + 10)
  else if 'A' ≤ c && c ≤ 'F' then some (c.toNat - 'A'.toNat + 10)
  else none

/-- The number that digits of a base denote; there has to be one digit at least. -/
def digits? (base : Nat) : List Char → Option Nat
  | [] => none
  | cs => cs.foldlM (fun n c => (digit? c).bind fun d =>
      if d < base then some (n * base + d) else none) 0

def hasLeadingZero (cs : List Char) : Bool :=
  let cs := match cs with
    | '-' :: rest | '+' :: rest => rest
    | _ => cs
  match cs with
  | '0' :: d :: rest => (d :: rest).all Char.isDigit
  | _ => false

/-- The magnitude that a text without a sign denotes in one of the bases. -/
def magnitude? : List Char → Option Nat
  | '0' :: 'x' :: rest => digits? 16 rest
  | '0' :: 'o' :: rest => digits? 8 rest
  | '0' :: 'b' :: rest => digits? 2 rest
  | cs => digits? 10 cs

/-- The number without a sign, or after a plus sign, below a limit. -/
def natural? (limit : Nat) (s : String) : Option Nat :=
  let cs := s.toList
  if hasLeadingZero cs then none
  else
    let cs := match cs with
      | '+' :: rest => rest
      | _ => cs
    (magnitude? cs).filter (· < limit)

/-- The integer that a text denotes, if it has at most 128 bits. -/
def integer? (s : String) : Option Int :=
  match natural? (Nat.pow 2 128) s with
  | some n => some n
  | none =>
    match s.toList with
    | '-' :: rest =>
      if hasLeadingZero rest then none
      else ((magnitude? rest).filter (· ≤ Nat.pow 2 127)).map fun n => -(n : Int)
    | _ => none

/-- The digits and the exponent of a decimal number: `(m, k, e)` for `m · 10 ^ (e - k)`. -/
def decimal? (cs : List Char) : Option (Nat × Nat × Int) := do
  let whole := cs.takeWhile Char.isDigit
  let rest := cs.dropWhile Char.isDigit
  let (part, rest) := match rest with
    | '.' :: rest => (rest.takeWhile Char.isDigit, rest.dropWhile Char.isDigit)
    | _ => ([], rest)
  let m ← digits? 10 (whole ++ part)
  match rest with
  | [] => some (m, part.length, 0)
  | c :: rest =>
    if c ≠ 'e' && c ≠ 'E' then none
    else match rest with
      | '-' :: rest => (digits? 10 rest).map fun e => (m, part.length, -(e : Int))
      | '+' :: rest => (digits? 10 rest).map fun e => (m, part.length, (e : Int))
      | _ => (digits? 10 rest).map fun e => (m, part.length, (e : Int))

/-- Whether `m · 10 ^ e` is below half a unit above the greatest number of 64 bit floating point,
so that it does not round to infinity. -/
def isFinite (m : Nat) (e : Int) : Bool :=
  let limit := Nat.pow 2 1024 - Nat.pow 2 970
  let size : Int := (Nat.toDigits 10 m).length + e
  if m = 0 || size < 300 then true
  else if size > 400 then false
  else if 0 ≤ e then decide (m * Nat.pow 10 e.toNat < limit)
  else decide (m < limit * Nat.pow 10 (-e).toNat)

/-- Whether a text spells an infinity or the undefined number. -/
def isSpecial (s : String) : Bool :=
  [".inf", ".Inf", ".INF", "+.inf", "+.Inf", "+.INF", "-.inf", "-.Inf", "-.INF",
    ".nan", ".NaN", ".NAN"].contains s

/-- Whether a text denotes a number with a fraction or an exponent. -/
def isFraction (s : String) : Bool :=
  let cs := match s.toList with
    | '+' :: rest | '-' :: rest => rest
    | cs => cs
  isSpecial s || match decimal? cs with
    | some (m, k, e) => isFinite m (e - k)
    | none => false

/-- The value of a scalar that is written without quotes. -/
def meaning (s : String) : Scalar :=
  if s.isEmpty || isNull s then .null
  else match bool? s with
    | some b => .bool b
    | none => match integer? s with
      | some n => .int n
      | none =>
        if hasLeadingZero s.toList then .text s
        else if isFraction s then .fraction
        else .text s

example : meaning "007" = .text "007" ∧ meaning "+5" = .int 5 ∧ meaning "-0x1F" = .int (-31) := by
  decide +kernel

example : meaning "1_000" = .text "1_000" ∧ meaning "1e3" = .fraction ∧
    meaning "1e999" = .text "1e999" := by
  decide +kernel

end Literal

end CatalogBrowser
