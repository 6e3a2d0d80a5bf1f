import CatalogBrowser.Text.Blank

/-!
# Durations

A duration is written as numbers with units, such as `1h 30m` or `2.5s`. White space may stand
anywhere except within a unit, and a unit ends where the next number begins. A bare `0` needs no
unit. Seconds and fractions of a second are counted apart, each in 64 bits.

## Main definitions

* `Duration.ofText?` - reads a duration.
* `Duration.milliseconds` - the whole milliseconds that cover a duration.
-/

namespace CatalogBrowser

/-- A span of time. -/
structure Duration where
  secs : Nat
  nanos : Nat
deriving DecidableEq, Repr

namespace Duration

/-- The units, each with its seconds or its nanoseconds. -/
def units : List (List String × Duration) := [
  (["nanos", "nsec", "ns"], ⟨0, 1⟩),
  (["usec", "us", "µs"], ⟨0, 1000⟩),
  (["millis", "msec", "ms"], ⟨0, 1000000⟩),
  (["seconds", "second", "secs", "sec", "s"], ⟨1, 0⟩),
  (["minutes", "minute", "min", "mins", "m"], ⟨60, 0⟩),
  (["hours", "hour", "hr", "hrs", "h"], ⟨3600, 0⟩),
  (["days", "day", "d"], ⟨86400, 0⟩),
  (["weeks", "week", "wk", "wks", "w"], ⟨604800, 0⟩),
  (["months", "month", "M"], ⟨2630016, 0⟩),
  (["years", "year", "yr", "yrs", "y"], ⟨31557600, 0⟩)]

def unit? (name : String) : Option Duration :=
  (units.find? (·.1.contains name)).map (·.2)

/-- A number that fits into 64 bits. -/
def word? (n : Nat) : Option Nat :=
  if n < Nat.pow 2 64 then some n else none

/-- The sum of two durations. Nanoseconds carry over to seconds. -/
def add? (sum more : Duration) : Option Duration := do
  let nanos ← word? (sum.nanos + more.nanos)
  let secs ← word? (sum.secs + (← word? (more.secs + nanos / Nat.pow 10 9)))
  return { secs, nanos := nanos % Nat.pow 10 9 }

/-- A decimal number: its whole part, and the digits behind its point with the power of ten that
they are divided by. -/
structure Amount where
  whole : Nat
  numerator : Nat := 0
  denominator : Nat := 1

def Amount.wholeOf? (amount : Amount) (unit : Duration) : Option Duration :=
  return {
    secs := ← word? (amount.whole * unit.secs)
    nanos := ← word? (amount.whole * unit.nanos) }

/-- The rest of an amount of a unit, in nanoseconds for units up to the minute, and in seconds for
longer ones. What is less than that does not count. -/
def Amount.restOf? (amount : Amount) (unit : Duration) : Option Duration :=
  if unit.secs ≤ 60 then do
    let nanos ← word? (amount.numerator * (unit.secs * Nat.pow 10 9 + unit.nanos))
    return { secs := 0, nanos := nanos / amount.denominator }
  else do
    let secs ← word? (amount.numerator * unit.secs)
    return { secs := secs / amount.denominator, nanos := 0 }

def addUnits? (sum : Duration) (amount : Amount) (name : String) : Option Duration := do
  let unit ← unit? name
  (← sum.add? (← amount.wholeOf? unit)).add? (← amount.restOf? unit)

def isUnitChar (c : Char) : Bool :=
  c.isAlpha || c = 'µ'

/-- What is being read: a number before its point or behind it, a unit after its number, or the gap
behind a unit. -/
inductive Reading where
  | number (n : Nat)
  | fraction (amount : Amount)
  | unit (amount : Amount) (name : List Char)
  | gap

/-- Reads the rest of a duration whose beginning amounts to `sum`. -/
def read? (sum : Duration) : Reading → List Char → Option Duration
  | .gap, [] => some sum
  | .gap, c :: rest =>
    if c.isDigit then read? sum (.number (c.toNat - '0'.toNat)) rest
    else if Text.isBlankChar c then read? sum .gap rest
    else none
  | .number _, [] => none
  | .number n, c :: rest =>
    if c.isDigit then
      match word? (n * 10 + (c.toNat - '0'.toNat)) with
      | some n => read? sum (.number n) rest
      | none => none
    else if Text.isBlankChar c then read? sum (.number n) rest
    else if isUnitChar c then read? sum (.unit { whole := n } [c]) rest
    else if c = '.' then read? sum (.fraction { whole := n }) rest
    else none
  | .fraction _, [] => none
  | .fraction amount, c :: rest =>
    if c.isDigit then
      match word? (amount.denominator * 10) with
      | some denominator =>
        let numerator := amount.numerator * 10 + (c.toNat - '0'.toNat)
        read? sum (.fraction { amount with numerator, denominator }) rest
      | none => none
    else if Text.isBlankChar c then read? sum (.fraction amount) rest
    else if isUnitChar c && amount.denominator ≠ 1 then read? sum (.unit amount [c]) rest
    else none
  | .unit amount name, [] => addUnits? sum amount (String.ofList name)
  | .unit amount name, c :: rest =>
    if isUnitChar c then read? sum (.unit amount (name ++ [c])) rest
    else
      match addUnits? sum amount (String.ofList name) with
      | some sum =>
        if c.isDigit then read? sum (.number (c.toNat - '0'.toNat)) rest
        else if Text.isBlankChar c then read? sum .gap rest
        else none
      | none => none

def ofText? (s : String) : Option Duration :=
  if s == "0" then some ⟨0, 0⟩
  else if Text.isBlank s then none
  else read? ⟨0, 0⟩ .gap s.toList

/-- The least number of milliseconds that is not less than the duration. -/
def milliseconds (d : Duration) : Nat :=
  d.secs * 1000 + (d.nanos + 999999) / 1000000

end Duration

end CatalogBrowser
