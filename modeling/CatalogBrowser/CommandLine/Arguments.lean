/-!
# Arguments

The arguments of the program: options, then a command with its own options and words. The options
for the configuration and for the catalog are admitted before and after the command; what is said
after it counts. An option is given once at most on either side.

## Main definitions

* `Command`, `Arguments` - what the program is asked to do.
* `Invocation.ofList` - reads the arguments.
-/

namespace CatalogBrowser

/-- What to show. -/
inductive Command where
  | databases
  /-- All settings, or one of them. -/
  | settings (name : Option String)
  /-- The tree down to a depth. -/
  | tree (depth : Nat)
deriving DecidableEq, Repr

/-- What the program is asked to do. -/
structure Arguments where
  config : Option String
  catalog : Option String
  command : Command
deriving DecidableEq, Repr

/-- What a list of arguments amounts to. -/
inductive Invocation where
  | run (arguments : Arguments)
  | version
  | help
  | misuse
deriving DecidableEq, Repr

namespace Arguments

/-- An option with a value. -/
inductive Setting where
  | config
  | catalog
  | depth
deriving DecidableEq, Repr

/-- A flag that asks about the program itself. -/
inductive Question where
  | version
  | help
deriving DecidableEq, Repr

/-- An option. -/
inductive Flag where
  | setting (setting : Setting)
  | question (question : Question)
deriving DecidableEq, Repr

/-- The part of the arguments that is being read. -/
inductive Scope where
  | program
  | databases
  | settings
  | tree
deriving DecidableEq, Repr

namespace Scope

def ofName? : String → Option Scope
  | "databases" => some .databases
  | "settings" => some .settings
  | "tree" => some .tree
  | _ => none

def long? (scope : Scope) : String → Option Flag
  | "config" => some (.setting .config)
  | "catalog" => some (.setting .catalog)
  | "help" => some (.question .help)
  | "depth" => if scope = .tree then some (.setting .depth) else none
  | "version" => if scope = .program then some (.question .version) else none
  | _ => none

def short? (scope : Scope) : Char → Option Flag
  | 'c' => some (.setting .config)
  | 'h' => some (.question .help)
  | 'd' => if scope = .tree then some (.setting .depth) else none
  | 'V' => if scope = .program then some (.question .version) else none
  | _ => none

def words : Scope → Nat
  | .settings => 1
  | _ => 0

end Scope

/-- Why reading ends before the last argument. -/
inductive Stop where
  | question (question : Question)
  | misuse
deriving DecidableEq, Repr

/-- What was read in one scope. -/
structure Level where
  values : List (Setting × String) := []
  words : List String := []

/-- The number that digits with or without a sign denote. -/
def signed? (text : String) : Option Int :=
  match text.toList with
  | '-' :: digits => (String.ofList digits).toNat?.map (-·)
  | '+' :: digits => (String.ofList digits).toNat?.map (·)
  | _ => text.toNat?.map (·)

/-- A depth has 32 bits. -/
def depth? (text : String) : Option Nat := do
  guard (text.toList.all fun c => c.isDigit || c = '+' || c = '-')
  let depth ← signed? text
  if 0 ≤ depth && depth < Nat.pow 2 32 then some depth.toNat else none

/-- Whether an option admits a value: paths are not empty, and a depth is a number. -/
def Setting.admits (setting : Setting) (value : String) : Bool :=
  match setting with
  | .depth => (depth? value).isSome
  | _ => !value.isEmpty

namespace Level

/-- Takes the value of an option, which must not have one yet. -/
def set (level : Level) (setting : Setting) (value : String) : Except Stop Level :=
  if (level.values.lookup setting).isSome || !setting.admits value then .error .misuse
  else .ok { level with values := (setting, value) :: level.values }

def word (level : Level) (scope : Scope) (text : String) : Except Stop Level :=
  if level.words.length < scope.words then .ok { level with words := level.words ++ [text] }
  else .error .misuse

/-- Takes the value of an option from the next argument, which must not look like an option. -/
def setNext (level : Level) (setting : Setting) : List String → Except Stop (Level × List String)
  | [] => .error .misuse
  | value :: rest =>
    if value.startsWith "-" && value ≠ "-" then .error .misuse
    else return (← level.set setting value, rest)

end Level

def splitValue (chars : List Char) : String × Option String :=
  match chars.span (· ≠ '=') with
  | (name, []) => (String.ofList name, none)
  | (name, _ :: value) => (String.ofList name, some (String.ofList value))

def takeLong (scope : Scope) (level : Level) (chars : List Char) (rest : List String) :
    Except Stop (Level × List String) :=
  match splitValue chars with
  | (name, attached) =>
    match scope.long? name, attached with
    | some (.setting setting), some value => return (← level.set setting value, rest)
    | some (.setting setting), none => level.setNext setting rest
    | some (.question question), none => .error (.question question)
    | _, _ => .error .misuse

/-- Takes an option that is given by a letter, with a value that may be attached to it. -/
def takeShort (scope : Scope) (level : Level) (letter : Char) (attached : List Char)
    (rest : List String) : Except Stop (Level × List String) :=
  match scope.short? letter, attached with
  | some (.setting setting), [] => level.setNext setting rest
  | some (.setting setting), '=' :: value =>
    return (← level.set setting (String.ofList value), rest)
  | some (.setting setting), value =>
    return (← level.set setting (String.ofList value), rest)
  | some (.question question), _ => .error (.question question)
  | none, _ => .error .misuse

/-- A command with the arguments after it. -/
structure Continuation where
  name : String
  rest : List String

/-- Reads the arguments of a scope, up to the name of a command. Each argument is passed once. -/
def readScope (scope : Scope) :
    Nat → Level → List String → Except Stop (Level × Option Continuation)
  | 0, _, _ => .error .misuse
  | _ + 1, level, [] => .ok (level, none)
  | n + 1, level, argument :: rest =>
    if scope = .program && ((Scope.ofName? argument).isSome || argument = "help") then
      .ok (level, some { name := argument, rest })
    else match argument.toList with
    | ['-', '-'] => return (← rest.foldlM (fun level text => level.word scope text) level, none)
    | '-' :: '-' :: chars => do
      let (level, rest) ← takeLong scope level chars rest
      readScope scope n level rest
    | '-' :: letter :: attached => do
      let (level, rest) ← takeShort scope level letter attached rest
      readScope scope n level rest
    | _ => do readScope scope n (← level.word scope argument) rest

def readAll (scope : Scope) (arguments : List String) :
    Except Stop (Level × Option Continuation) :=
  readScope scope (arguments.length + 1) {} arguments

/-- Answers a request for help with a command, which is given by its name. -/
def help : List String → Stop
  | [] => .question .help
  | [name] =>
    if (Scope.ofName? name).isSome || name = "help" then .question .help else .misuse
  | _ => .misuse

/-- The command of a scope, from what was read in it. -/
def Scope.command (scope : Scope) (level : Level) : Option Command :=
  match scope with
  | .program => none
  | .databases => some .databases
  | .settings => some (.settings level.words.head?)
  | .tree => some (.tree (((level.values.lookup .depth).bind depth?).getD 3))

def read (arguments : List String) : Except Stop Arguments := do
  let (outer, continuation) ← readAll .program arguments
  let some { name, rest } := continuation | .error .misuse
  let some scope := Scope.ofName? name | .error (help rest)
  let (inner, _) ← readAll scope rest
  let some command := scope.command inner | .error .misuse
  let value := fun (setting : Setting) =>
    (inner.values.lookup setting).or (outer.values.lookup setting)
  return { config := value .config, catalog := value .catalog, command }

end Arguments

def Program.version : String := "dbmeta 0.3.0"

def Invocation.ofList (arguments : List String) : Invocation :=
  match Arguments.read arguments with
  | .ok arguments => .run arguments
  | .error (.question .version) => .version
  | .error (.question .help) => .help
  | .error .misuse => .misuse

end CatalogBrowser
