import Scorebook.CommandLine.Host
import Scorebook.Store.File
import Scorebook.Text.Search

/-!
# A disk in memory

Files and directories as a value, so that the program can be run as a pure function.  A path is
taken apart at its slashes; what does not start with a slash lies in the working directory.
-/

namespace Scorebook.CommandLine
open Text

/-- The parts of a path from the root. -/
abbrev Location := List String

structure Disk where
  workingDirectory : Location
  files : List (Location × String)
  directories : List Location

namespace Disk

/-- Goes one part of a path further: one dot stays, two go back. -/
def follow (place : Location) (part : String) : Location :=
  if part = "" ∨ part = "." then place
  else if part = ".." then place.dropLast
  else place ++ [part]

def locate (d : Disk) (path : String) : Location :=
  let start := if path.startsWith "/" then [] else d.workingDirectory
  ((splitAtChar '/' path.toList).map String.ofList).foldl follow start

def fileAt? (d : Disk) (l : Location) : Option String := d.files.lookup l

/-- Whether a place is a directory: the root, the working directory, one that was made, or one above
any of these or above a file. -/
def isDirectory (d : Disk) (l : Location) : Bool :=
  let below := d.workingDirectory :: d.directories ++ d.files.map fun f => f.1.dropLast
  below.any fun b => l.isPrefixOf b

/-- Whether a file stands in the way to a place. -/
def isBlocked (d : Disk) (l : Location) : Bool :=
  d.files.any fun f => f.1 != l && f.1.isPrefixOf l

def read (d : Disk) (path : String) : Except FileError String :=
  let l := d.locate path
  match d.fileAt? l with
  | some text => if path.endsWith "/" then .error .notDirectory else .ok text
  | none =>
    if d.isBlocked l then .error .notDirectory
    else if d.isDirectory l then .error .isDirectory
    else .error .notFound

def write (d : Disk) (path text : String) : Disk :=
  let l := d.locate path
  { d with files := (l, text) :: d.files.filter fun f => f.1 != l }

/-- The disk with the directory above a place; `none` when a file stands in its way. -/
def makeParent? (d : Disk) (l : Location) : Option Disk :=
  if d.isBlocked l then none else some { d with directories := l.dropLast :: d.directories }

/-- Whether the path of a store names no file: such a store is forgotten. -/
def isForgotten (path : String) : Bool := path = "" || path = ":memory:"

def openStore (d : Disk) (path : String) : Option Store × Disk :=
  if isForgotten path then (some .empty, d)
  else
    let l := d.locate path
    match d.makeParent? l with
    | none => (none, d)
    | some made =>
      match d.fileAt? l with
      | some text => (Store.ofFileText? text, made)
      | none =>
        if d.isDirectory l then (none, made)
        else (some .empty, made.write path Store.empty.fileText)

def closeStore (d : Disk) (path : String) (store : Store) : Disk :=
  if isForgotten path then d else d.write path store.fileText

/-- What the surroundings of a run decide without a network: nothing can be fetched, and time passes
as fast as it is asked to. -/
def surroundings : Ingest.Surroundings (StateM Disk) where
  draw := return 0
  openSession := fun _ => return none
  fetch := fun _ _ => return some (.error (.transport "no network"))
  failure := fun _ => return none
  now := return .epoch
  sleepUntil := fun t => return t

def host (environment : Environment) (run : Uuid) : Host (StateM Disk) where
  environment := return environment
  readFile := fun path => return (← get).read path
  openStore := fun path => modifyGet fun d => d.openStore path
  closeStore := fun path store => modify fun d => d.closeStore path store
  newRun := return run
  surroundings := surroundings

end Disk

end Scorebook.CommandLine
