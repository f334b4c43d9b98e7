import RamlExpress.CommandLine.Run

/-!
# Main — the command line program

The run itself is a function of the files it reads.  What it asks for and is not yet known is
fetched from the disk, until it asks for nothing new; then its changes are made on the disk.
-/

namespace RamlExpress.Main

/-- What the program says about itself. -/
def helpText : String :=
  "Generate Express routes and Mongoose schemas from a RAML API description\n\n"
    ++ "Usage: raml-express [OPTIONS] <SPEC_FILE>\n\n"
    ++ "Arguments:\n"
    ++ "  <SPEC_FILE>  Path to the RAML specification file\n\n"
    ++ "Options:\n"
    ++ "  -f, --format <FORMAT>  Output format: js, json or yaml [default: js]\n"
    ++ "  -o, --output <FILE>    Output file path (if not specified, outputs to stdout)\n"
    ++ "      --legacy-order     Emit schema declarations most-recently-discovered first\n"
    ++ "  -v, --verbose          Enable verbose output\n"
    ++ "  -h, --help             Print help\n"
    ++ "  -V, --version          Print version\n"

/-- The name and version of the program. -/
def versionText : String := "raml-express 0.1.0\n"

/-- What is wrong with the command line. -/
def argumentMessage : ArgumentFault → String
  | .missingSpec => "the argument <SPEC_FILE> is missing"
  | .unknownArgument => "unexpected argument"
  | .invalidValue => "a value is missing or not one that the option takes"
  | .repeatedArgument => "an argument cannot be used multiple times"
  | .unwantedValue => "unexpected value for an option that takes none"
  | .helpAsked | .versionAsked => ""

/-- The report about a fault: its wording, and what lies behind it. -/
def report : List String → String
  | [] => ""
  | [head] => "Error: " ++ head
  | [head, cause] => "Error: " ++ head ++ "\n\nCaused by:\n    " ++ cause
  | head :: causes =>
    let lines := causes.zipIdx.map fun (cause, n) => "    " ++ toString n ++ ": " ++ cause
    "Error: " ++ head ++ "\n\nCaused by:\n" ++ "\n".intercalate lines

/-- The path of a location. -/
def pathOf (location : Location) : String := "/" ++ "/".intercalate location

/-- What stands at a path on the disk. -/
def fetch (path : String) : IO (Option Entry) := do
  try
    let real ← IO.FS.realPath path
    if ← real.isDir then return some .directory
    if !(← real.pathExists) then return none
    let bytes ← IO.FS.readBinFile path
    match String.fromUTF8? bytes with
    | some text => return some (.file (.text text))
    | none => return some (.file (.octets bytes.toList))
  catch _ => return none

/-- Adds what stands at each step of a path to the files that are known. -/
def learn (files : FileSystem) (path : String) : IO FileSystem := do
  let mut files := files
  let mut location := files.start path
  for piece in Path.pieces path do
    if piece = ".." then location := location.dropLast
    else if !Path.isIdle piece then
      location := location ++ [piece]
      if let some entry ← fetch (pathOf location) then files := files.put location entry
  return files

/-- The path of a file that a run did not find. -/
def missing? : Option RunFault → Option String
  | some (.specMissing path) => some path
  | some (.loading (.unreadable path .notFound)) => some path
  | _ => none

/-- Runs until nothing new is asked for. -/
partial def settle (arguments : Arguments) (known : List String) (files : FileSystem) :
    IO (FileSystem × Outcome) := do
  let outcome := arguments.execute files
  match missing? outcome.fault with
  | some path =>
    if path ∈ known then return (files, outcome)
    settle arguments (path :: known) (← learn files path)
  | none => return (files, outcome)

/-- Makes the changes between two states of the files on the disk. -/
def apply (before after : FileSystem) : IO Unit := do
  for (location, entry) in after.entries do
    if before.entry? location ≠ some entry then
      match entry with
      | .directory => IO.FS.createDir (pathOf location)
      | .file (.text text) => IO.FS.writeFile (pathOf location) text
      | .file (.octets octets) => IO.FS.writeBinFile (pathOf location) octets.toByteArray

/-- The files that are known before a run: the current directory, and what stands at the path of the
output. -/
def initialFiles (arguments : Arguments) : IO FileSystem := do
  let current := pathPieces (← IO.currentDir).toString
  let files ← learn {} (pathOf current)
  let files := { files with current }
  match arguments.outputPath with
  | some path => learn files path
  | none => return files

/-- Writes the lines of a log that are wanted to standard error. -/
def printLog (verbose : Bool) (log : List LogLine) : IO Unit := do
  for line in log do
    if verbose || line.level ≠ .debug then
      IO.eprintln ("[" ++ line.level.name ++ "] " ++ line.text)

/-- Runs with the given arguments; the result is the exit code. -/
def start (arguments : Arguments) : IO UInt32 := do
  let (files, outcome) ← settle arguments [] (← initialFiles arguments)
  printLog arguments.verbose (⟨.info, "RAML Scaffold starting..."⟩ :: outcome.log)
  apply files outcome.files
  IO.print outcome.printed
  match outcome.fault with
  | none => return 0
  | some fault =>
    IO.eprintln (report fault.chain)
    return 1

end RamlExpress.Main

open RamlExpress in
/-- The program. -/
def main (arguments : List String) : IO UInt32 := do
  match Arguments.parse arguments with
  | .ok arguments => Main.start arguments
  | .error .helpAsked => do
    IO.print Main.helpText
    return 0
  | .error .versionAsked => do
    IO.print Main.versionText
    return 0
  | .error fault => do
    IO.eprintln ("error: " ++ Main.argumentMessage fault)
    return 2
