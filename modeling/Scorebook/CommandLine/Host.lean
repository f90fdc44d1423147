import Scorebook.Ingest.Schedule
import Scorebook.Settings.Loading

/-!
# The host of the program

What a command needs of the machine it runs on, in any monad: files, variables, the store, and the
surroundings of a run.
-/

namespace Scorebook.CommandLine

/-- Why a file could not be read. -/
inductive FileError where
  | notFound
  /-- A part of the path is a file. -/
  | notDirectory
  | isDirectory
  | notText
  | other (text : String)
deriving DecidableEq, Repr

def FileError.message : FileError → String
  | notFound => "No such file or directory (os error 2)"
  | notDirectory => "Not a directory (os error 20)"
  | isDirectory => "Is a directory (os error 21)"
  | notText => "stream did not contain valid UTF-8"
  | other text => text

/-- The machine that a command runs on. -/
structure Host (m : Type → Type) where
  environment : m Environment
  readFile : String → m (Except FileError String)
  /-- Opens a store, which is created with the directories above it when it is not there. -/
  openStore : String → m (Option Store)
  /-- Writes a store back. -/
  closeStore : String → Store → m Unit
  /-- A fresh identifier for a run. -/
  newRun : m Uuid
  surroundings : Ingest.Surroundings m

end Scorebook.CommandLine
