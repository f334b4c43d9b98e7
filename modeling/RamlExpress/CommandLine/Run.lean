import RamlExpress.CommandLine.Arguments
import RamlExpress.Document.Load
import RamlExpress.FileSystem.Save
import RamlExpress.Scaffold.Dump
import RamlExpress.Scaffold.Program

/-!
# CommandLine/Run — a run of the program

A run reads the description, makes the content, and then writes it to a file or prints it.  Nothing
is written or printed before the whole content is there.
-/

namespace RamlExpress

/-- Why a run fails. -/
inductive RunFault where
  | specMissing (path : String)
  | specNotFile (path : String)
  | loading (failure : Failure)
  | generating (failure : Failure)
  | saving (fault : SaveFault)
deriving Repr, DecidableEq

/-- The wording of a run fault, and then what lies behind it. -/
def RunFault.chain : RunFault → List String
  | specMissing path => ["Spec file does not exist: " ++ path]
  | specNotFile path => ["Spec path is not a file: " ++ path]
  | loading failure =>
    "There was an error with the RAML spec" :: failure.message :: failure.cause?.toList
  | generating failure => failure.message :: failure.cause?.toList
  | saving fault => fault.chain

/-- What a run leaves behind. -/
structure Outcome where
  files : FileSystem
  fault : Option RunFault := none
  printed : String := ""
  log : List LogLine := []

namespace Arguments

/-- The arguments as a log line shows them. -/
def display (arguments : Arguments) : String :=
  let flag (value : Bool) : String := if value then "true" else "false"
  let output := match arguments.outputPath with
    | none => "None"
    | some path => "Some(" ++ Text.quotedPath path ++ ")"
  "CliArgs \x7b spec_path: " ++ Text.quotedPath arguments.specPath ++ ", output_format: "
    ++ arguments.format.display ++ ", output_path: " ++ output ++ ", legacy_order: "
    ++ flag arguments.legacyOrder ++ ", verbose: " ++ flag arguments.verbose ++ " \x7d"

/-- The order of the models. -/
def order (arguments : Arguments) : ModelOrder :=
  if arguments.legacyOrder then .legacy else .discovery

/-- Checks that the description is a file, and logs the settings. -/
def check (arguments : Arguments) (files : FileSystem) : List LogLine × Option RunFault :=
  let first : LogLine := ⟨.debug, "Parsed arguments: " ++ arguments.display⟩
  let spec := arguments.specPath
  if !files.exists? spec then ([first], some (.specMissing spec))
  else if !files.isFile spec then ([first], some (.specNotFile spec))
  else
    let output := match arguments.outputPath with
      | none => "Output: stdout"
      | some path => "Output file: " ++ path
    ([first, ⟨.info, "Spec file: " ++ spec⟩,
      ⟨.info, "Output format: " ++ arguments.format.display⟩, ⟨.info, output⟩], none)

/-- Reads the description. -/
def load (arguments : Arguments) (files : FileSystem) : Logged Api := do
  Logged.info "Loading RAML spec..."
  let api ← Api.ofFile files arguments.specPath
  Logged.info ("Loaded " ++ api.title.getD "untitled API" ++ " ("
    ++ toString api.resources.length ++ " top-level resources)")
  if api.resources.isEmpty then Logged.warn "No resources found in the spec"
  return api

/-- The content for an API. -/
def content (arguments : Arguments) (api : Api) : Logged String := do
  Logged.debug ("Compiled " ++ toString Template.all.length ++ " templates")
  match arguments.format with
  | .program => return Program.render (← api.program arguments.order)
  | .json =>
    let models := (← api.collect).models
    Logged.debug ("Serializing " ++ toString models.size ++ " schemas to JSON")
    return Registry.jsonText models
  | .yaml =>
    let models := (← api.collect).models
    Logged.debug ("Serializing " ++ toString models.size ++ " schemas to YAML")
    return Registry.yamlText models

/-- Writes or prints the content. -/
def deliver (arguments : Arguments) (files : FileSystem) (content : String) : Outcome :=
  let done : LogLine := ⟨.info, "Generation complete!"⟩
  match arguments.outputPath with
  | none => { files, printed := content, log := [done] }
  | some path =>
    let start : LogLine := ⟨.info, "Writing output to: " ++ path⟩
    let saved := files.save path content
    match saved.fault with
    | some fault =>
      { files := saved.files, fault := some (.saving fault), log := start :: saved.log }
    | none => { files := saved.files, log := start :: saved.log ++ [done] }

/-- **A run with the given arguments**, from a description that has been checked. -/
def run (arguments : Arguments) (files : FileSystem) : Outcome :=
  let loaded := arguments.load files
  match loaded.result with
  | .error failure => { files, fault := some (.loading failure), log := loaded.log }
  | .ok api =>
    let made := arguments.content api
    let log := loaded.log ++ made.log
    match made.result with
    | .error failure => { files, fault := some (.generating failure), log }
    | .ok content =>
      let outcome := arguments.deliver files content
      { outcome with log := log ++ outcome.log }

/-- Checks the description and then runs. -/
def execute (arguments : Arguments) (files : FileSystem) : Outcome :=
  match arguments.check files with
  | (log, some fault) => { files, fault := some fault, log }
  | (log, none) =>
    let outcome := arguments.run files
    { outcome with log := log ++ outcome.log }

end Arguments

end RamlExpress
