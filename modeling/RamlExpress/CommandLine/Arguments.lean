/-!
# CommandLine/Arguments — reading the command line

Arguments are read from the left.  A value is looked at only when the next argument that means
something is met, or at the end; so an argument that means nothing is reported before a value that
does not fit stands in front of it.

* `Arguments.parse` — the arguments as settings.
-/

namespace RamlExpress

/-- What is written. -/
inductive OutputFormat where
  | program
  | json
  | yaml
deriving Repr, DecidableEq

namespace OutputFormat

/-- The format of a name on the command line. -/
def ofName? (name : String) : Option OutputFormat :=
  [("js", program), ("json", json), ("yaml", yaml)].lookup name

/-- The name of a format in log lines. -/
def display : OutputFormat → String
  | program => "Js"
  | json => "Json"
  | yaml => "Yaml"

end OutputFormat

/-- The settings of a run. -/
structure Arguments where
  specPath : String
  format : OutputFormat := .program
  outputPath : Option String := none
  legacyOrder : Bool := false
  verbose : Bool := false
deriving Repr, DecidableEq

/-- Why a command line does not start a run. -/
inductive ArgumentFault where
  | missingSpec
  | helpAsked
  | versionAsked
  | unknownArgument
  | invalidValue
  | repeatedArgument
  | unwantedValue
deriving Repr, DecidableEq

namespace Arguments

/-- What takes a value. -/
inductive Setting where
  | spec
  | format
  | output
deriving Repr, DecidableEq

/-- An argument that takes no value. -/
inductive Switch where
  | legacyOrder
  | verbose
  | help
  | version
deriving Repr, DecidableEq

/-- An option: with a value or without. -/
inductive NamedOption where
  | setting (setting : Setting)
  | switch (switch : Switch)
deriving Repr, DecidableEq

/-- The options by their long names. -/
def long? (name : String) : Option NamedOption :=
  [("format", NamedOption.setting .format), ("output", .setting .output),
    ("legacy-order", .switch .legacyOrder), ("verbose", .switch .verbose),
    ("help", .switch .help), ("version", .switch .version)].lookup name

/-- The options by their short names. -/
def short? (name : Char) : Option NamedOption :=
  [('f', NamedOption.setting .format), ('o', .setting .output), ('v', .switch .verbose),
    ('h', .switch .help), ('V', .switch .version)].lookup name

/-- A value that has been read but not looked at. -/
structure Pending where
  setting : Setting
  /-- None while the value is still to come. -/
  value : Option String

/-- What has been read so far. -/
structure Reading where
  spec : Option String := none
  format : Option OutputFormat := none
  output : Option String := none
  legacyOrder : Bool := false
  verbose : Bool := false
  pending : Option Pending := none
  /-- A value of an option comes next. -/
  awaiting : Bool := false
  /-- The argument without a name has been read. -/
  specRead : Bool := false
  /-- Nothing but arguments without a name follow. -/
  trailing : Bool := false

namespace Reading

/-- Stores a value, which must be the first for its setting and must fit. -/
def store (reading : Reading) (setting : Setting) (value : String) :
    Except ArgumentFault Reading :=
  match setting with
  | .spec =>
    if value = "" then .error .invalidValue else .ok { reading with spec := some value }
  | .format =>
    if reading.format.isSome then .error .repeatedArgument
    else
      match OutputFormat.ofName? value with
      | some format => .ok { reading with format := some format }
      | none => .error .invalidValue
  | .output =>
    if reading.output.isSome then .error .repeatedArgument
    else if value = "" then .error .invalidValue
    else .ok { reading with output := some value }

/-- Looks at the value that was read last. -/
def settle (reading : Reading) : Except ArgumentFault Reading :=
  match reading.pending with
  | none => .ok reading
  | some { setting, value := some value } =>
    { reading with pending := none, awaiting := false }.store setting value
  | some { value := none, .. } => .error .invalidValue

/-- Turns a switch on, which must be off. -/
def turnOn (reading : Reading) (switch : Switch) : Except ArgumentFault Reading := do
  let reading ← reading.settle
  match switch with
  | .help => throw .helpAsked
  | .version => throw .versionAsked
  | .legacyOrder =>
    if reading.legacyOrder then throw .repeatedArgument
    return { reading with legacyOrder := true }
  | .verbose =>
    if reading.verbose then throw .repeatedArgument
    return { reading with verbose := true }

/-- An option that takes a value, which stands right behind its name or comes next. -/
def startSetting (reading : Reading) (setting : Setting) (value : Option String) :
    Except ArgumentFault Reading := do
  let reading ← reading.settle
  match value with
  | some value => reading.store setting value
  | none => return { reading with pending := some { setting, value := none }, awaiting := true }

/-- An argument without a name; there is only one such. -/
def positional (reading : Reading) (value : String) : Except ArgumentFault Reading :=
  if reading.specRead then .error .unknownArgument
  else do
    let reading ← reading.settle
    return { reading with
      pending := some { setting := .spec, value := some value }, specRead := true }

/-- An option by its long name, with the value behind an equals sign if there is one. -/
def longOption (reading : Reading) (name : String) (value : Option String) :
    Except ArgumentFault Reading :=
  match long? name, value with
  | none, _ => .error .unknownArgument
  | some (.setting setting), value => reading.startSetting setting value
  | some (.switch _), some _ => .error .unwantedValue
  | some (.switch switch), none => reading.turnOn switch

/-- The value that stands right behind a short name, with or without an equals sign. -/
def attached : List Char → Option String
  | [] => none
  | '=' :: rest => some (String.ofList rest)
  | rest => some (String.ofList rest)

/-- Options by their short names, one after the other; a value takes all that follows. -/
def shortOptions (reading : Reading) : List Char → Except ArgumentFault Reading
  | [] => .ok reading
  | c :: rest =>
    match short? c with
    | none => .error .unknownArgument
    | some (.setting setting) => reading.startSetting setting (attached rest)
    | some (.switch switch) => do shortOptions (← reading.turnOn switch) rest

/-- The name of a long option and the value behind its first equals sign. -/
def splitLong (text : List Char) : String × Option String :=
  let name := text.takeWhile (· ≠ '=')
  (String.ofList name, (text.drop name.length).tail?.map String.ofList)

/-- One argument. -/
def read (reading : Reading) (argument : String) : Except ArgumentFault Reading :=
  if reading.trailing then reading.positional argument
  else
    match argument.toList with
    | ['-', '-'] => .ok { reading with trailing := true }
    | '-' :: '-' :: rest =>
      let (name, value) := splitLong rest
      reading.longOption name value
    | '-' :: c :: rest => reading.shortOptions (c :: rest)
    | _ =>
      match reading.awaiting, reading.pending with
      | true, some pending =>
        .ok { reading with
          pending := some { pending with value := some argument }, awaiting := false }
      | _, _ => reading.positional argument

/-- The settings, once everything has been read. -/
def finish (reading : Reading) : Except ArgumentFault Arguments := do
  let reading ← reading.settle
  match reading.spec with
  | none => throw .missingSpec
  | some specPath =>
    return {
      specPath, format := reading.format.getD .program, outputPath := reading.output
      legacyOrder := reading.legacyOrder, verbose := reading.verbose }

end Reading

/-- **The arguments as settings.** -/
def parse (arguments : List String) : Except ArgumentFault Arguments := do
  (← arguments.foldlM Reading.read {}).finish

end Arguments

end RamlExpress
