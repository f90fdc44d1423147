import Scorebook.CommandLine.Actions
import Scorebook.Store.File
import Std.Time.DateTime

/-!
# The program

Connects the commands to the machine: files, variables, the clock and the terminal.  Pages cannot be
fetched without a client for the network, so every fetch fails as a broken connection does.
-/

namespace Scorebook.CommandLine.Machine

def fileError : IO.Error → FileError
  | .noFileOrDirectory .. => .notFound
  | .noSuchThing .. => .notFound
  | .inappropriateType _ code _ => if code = 21 then .isDirectory else .notDirectory
  | .illegalOperation .. => .isDirectory
  | e => .other (toString e)

def readFile (path : String) : IO (Except FileError String) := do
  try
    match String.fromUTF8? (← IO.FS.readBinFile path) with
    | some text => return .ok text
    | none => return .error .notText
  catch e => return .error (fileError e)

def environment : IO Environment := do
  match ← readFile "/proc/self/environ" with
  | .error _ => return []
  | .ok text =>
    return (Text.splitAtChar '\x00' text.toList).filterMap fun entry =>
      (Text.cutAt? ['='] entry).map fun (name, value) => (String.ofList name, String.ofList value)

/-- The directory above a path, empty when the path has no slash. -/
def parent (path : String) : String :=
  String.ofList ((path.toList.reverse.dropWhile (· != '/')).drop 1).reverse

def openStore (path : String) : IO (Option Store) := do
  try
    unless (parent path).isEmpty do
      IO.FS.createDirAll (parent path)
    match ← readFile path with
    | .ok text => return Store.ofFileText? text
    | .error .notFound =>
      IO.FS.writeFile path Store.empty.fileText
      return some .empty
    | .error _ => return none
  catch _ => return none

def closeStore (path : String) (store : Store) : IO Unit := IO.FS.writeFile path store.fileText

/-- A fresh identifier of a run: random, of version four. -/
def newRun : IO Uuid := do
  let mut digits := []
  for i in [0:32] do
    let n ← IO.rand 0 15
    digits := Nat.digitChar (if i = 12 then 4 else if i = 16 then 8 + n % 4 else n) :: digits
  return (Uuid.ofDigits? digits.reverse).getD .nil

def now : IO Instant := do
  let nanos := (← Std.Time.Timestamp.now).toNanosecondsSinceUnixEpoch.val
  let seconds := nanos / 1000000000
  let day := Std.Time.PlainDate.ofEpochDay ⟨seconds / 86400⟩
  let date := Date.ofNumbers? day.year.toInt day.month.val.toNat day.day.val.toNat
  return ⟨date.getD .epoch, (seconds % 86400).toNat, (nanos % 1000000000).toNat⟩

/-- Waits until a time of the clock, counted from a start. -/
def sleepUntil (start time : Nat) : IO Nat := do
  let elapsed := (← IO.monoMsNow) - start
  IO.sleep (UInt32.ofNat (min (time - elapsed) Text.maxU32))
  return max time ((← IO.monoMsNow) - start)

def surroundings (start : Nat) : Ingest.Surroundings IO where
  draw := IO.rand 0 3600000
  openSession := fun _ => return none
  fetch := fun _ _ => return some (.error (.transport "no network"))
  failure := fun _ => return none
  now := now
  sleepUntil := sleepUntil start

def host (start : Nat) : Host IO where
  environment := environment
  readFile := readFile
  openStore := openStore
  closeStore := closeStore
  newRun := newRun
  surroundings := surroundings start

end Scorebook.CommandLine.Machine

def main (args : List String) : IO UInt32 := do
  let start ← IO.monoMsNow
  let output ← Scorebook.CommandLine.run (Scorebook.CommandLine.Machine.host start) args
  IO.print output.out
  IO.eprint output.err
  return UInt32.ofNat output.code
