import RamlExpress.FileSystem
import RamlExpress.Log

/-!
# FileSystem/Save — writing a file and the directories it needs
-/

namespace RamlExpress

/-- Why a file was not written. -/
inductive SaveFault where
  | directory (path : String) (fault : FileFault)
  | file (path : String) (fault : FileFault)
deriving Repr, DecidableEq

/-- The wording of a save fault, and what lies behind it. -/
def SaveFault.chain : SaveFault → List String
  | directory path fault => ["Failed to create directory: " ++ path, fault.message]
  | file path fault => ["Failed to write to file: " ++ path, fault.message]

/-- What is left after an attempt to write a file. -/
structure Saved where
  files : FileSystem
  fault : Option SaveFault := none
  log : List LogLine := []

namespace FileSystem

/-- Makes the directory that a path stands in, where the path names one. -/
def makeParent (files : FileSystem) (path : String) : FileSystem × Option SaveFault :=
  match Path.parent? path with
  | none => (files, none)
  | some parent =>
    if parent = "" then (files, none)
    else
      let (files, fault) := files.makeDirectories parent
      (files, fault.map (.directory parent))

/-- **Writes a text to a file**, in place of what it held, and makes the directories it needs. -/
def save (files : FileSystem) (path text : String) : Saved :=
  let start : LogLine := ⟨.debug, "Writing content to file: " ++ path⟩
  match files.makeParent path with
  | (files, some fault) => { files, fault := some fault, log := [start] }
  | (files, none) =>
    match files.writeText path text with
    | .error fault => { files, fault := some (.file path fault), log := [start] }
    | .ok files =>
      let done : LogLine :=
        ⟨.debug, "Successfully wrote " ++ toString text.utf8ByteSize ++ " bytes to " ++ path⟩
      { files, log := [start, done] }

end FileSystem

end RamlExpress
