/-!
# Log lines and metrics

What the program reports about its work: log lines with a level and named fields, and metrics in
the statsd format. Both are plain data; where they go is not decided here.
-/

namespace CatalogBrowser

/-- The level of a log line, from the gravest to the most verbose. -/
inductive LogLevel where
  | error
  | warn
  | info
  | debug
  | trace
deriving DecidableEq, Repr

namespace LogLevel

def verbosity : LogLevel → Nat
  | .error => 0
  | .warn => 1
  | .info => 2
  | .debug => 3
  | .trace => 4

def label : LogLevel → String
  | .error => "ERROR"
  | .warn => "WARN"
  | .info => "INFO"
  | .debug => "DEBUG"
  | .trace => "TRACE"

/-- Whether a line of the level is shown when everything up to `limit` is. -/
def isShown (level limit : LogLevel) : Bool :=
  level.verbosity ≤ limit.verbosity

end LogLevel

/-- A log line: its level, its message and its fields in order. -/
structure LogLine where
  level : LogLevel
  message : String
  fields : List (String × String)
deriving DecidableEq, Repr

/-- The level, the message, and each field as `name=value`. -/
def LogLine.render (line : LogLine) : String :=
  " ".intercalate ([line.level.label, line.message] ++ line.fields.map fun f => f.1 ++ "=" ++ f.2)

/-- What a metric measures. -/
inductive Measurement where
  /-- A counter goes up by a number. -/
  | count (amount : Int)
  /-- A gauge has a new value. -/
  | gauge (value : Nat)
  /-- Something took a time, which is not recorded. -/
  | duration
deriving DecidableEq, Repr

/-- One metric of a cache. -/
structure Metric where
  name : String
  cache : String
  measurement : Measurement
deriving DecidableEq, Repr

/-- The statsd line of a metric: the name below a common root, the value with its type, then the
cache's tag and the tags common to all metrics. A duration is written as `T`. -/
def Metric.line (root : String) (tags : List (String × String)) (metric : Metric) :
    String :=
  let value := match metric.measurement with
    | .count n => toString n ++ "|c"
    | .gauge n => toString n ++ "|g"
    | .duration => "T|ms"
  let tag := fun (t : String × String) => t.1 ++ ":" ++ t.2
  root ++ "." ++ metric.name ++ ":" ++ value ++ "|#" ++
    ",".intercalate ((("cache", metric.cache) :: tags).map tag)

end CatalogBrowser
