import CatalogBrowser.CommandLine.Browse

/-!
# The program

Reads files, prints what a command shows, and reports errors.
-/

namespace CatalogBrowser.Program

def reason : IO.Error → String
  | .noFileOrDirectory _ code details => s!"{details} (os error {code})"
  | .permissionDenied _ code details => s!"{details} (os error {code})"
  | .inappropriateType _ code details => s!"{details} (os error {code})"
  | .invalidArgument _ code details => s!"{details} (os error {code})"
  | .otherError code details => s!"{details} (os error {code})"
  | error => toString error

/-- Whether a failure shows only after the file was opened, as it is with a directory. -/
def isLate : IO.Error → Bool
  | .inappropriateType .. => true
  | _ => false

def readFile (path : String) : IO (Except FileError ByteArray) := do
  try
    return .ok (← IO.FS.readBinFile path)
  catch error =>
    return .error (if isLate error then .notRead (reason error) else .notOpened (reason error))

def usage : String :=
  "Usage: dbmeta [OPTIONS] <COMMAND>\n\n" ++
    "Commands:\n" ++
    "  databases        Lists the databases of the server\n" ++
    "  settings [NAME]  Shows the server settings, or a single setting\n" ++
    "  tree [-d DEPTH]  Prints the tree of databases, schemas and tables\n\n" ++
    "Options:\n" ++
    "  -c, --config <FILE>   Path to your configuration file\n" ++
    "      --catalog <FILE>  The catalog snapshot to read, overrides the configured one\n" ++
    "  -h, --help            Print help\n" ++
    "  -V, --version         Print version\n"

def report : List String → String
  | [] => ""
  | [message] => message ++ "\n"
  | message :: causes =>
    message ++ "\n\nCaused by:\n" ++
      "".intercalate (causes.map fun cause => "    " ++ cause ++ "\n")

end CatalogBrowser.Program

open CatalogBrowser in
def main (arguments : List String) : IO UInt32 := do
  match Invocation.ofList arguments with
  | .run arguments =>
    match ← (arguments.run Program.readFile).run with
    | .ok text =>
      IO.print text
      return 0
    | .error error =>
      IO.eprint (Program.report error.chain)
      return 1
  | .version =>
    IO.println Program.version
    return 0
  | .help =>
    IO.print Program.usage
    return 0
  | .misuse =>
    IO.eprint Program.usage
    return 2
