import Scorebook.CommandLine.Arguments
import Scorebook.CommandLine.Help
import Scorebook.CommandLine.Host
import Scorebook.Franchise.League
import Scorebook.Store.Reading

/-!
# Carrying out commands

A command first loads the settings and the history of franchises, whatever it is; reference data
that is wrong stops it before any work.  It then prints its result, or fails with a text and, if
there is one, its cause.
-/

namespace Scorebook.CommandLine
open Text

structure Failure where
  text : String
  cause : Option String
deriving DecidableEq, Repr

namespace Failure

def plain (text : String) : Failure := ⟨text, none⟩

def because (text cause : String) : Failure := ⟨text, some cause⟩

def indented (cause : String) : String :=
  "    " ++ String.ofList (replaceChar '\n' "\n    ".toList cause.toList)

def report (f : Failure) : String :=
  match f.cause with
  | none => "Error: " ++ f.text ++ "\n"
  | some cause => "Error: " ++ f.text ++ "\n\nCaused by:\n" ++ indented cause ++ "\n"

end Failure

/-- What a run of the program leaves. -/
structure Output where
  code : Nat
  out : String
  err : String
deriving DecidableEq, Repr

namespace Output

def success (text : String) : Output := ⟨0, text, ""⟩

def ofResult : Except Failure String → Output
  | .ok text => success text
  | .error f => ⟨1, "", f.report⟩

def ofHalt : Halt → Output
  | .help topic => success (helpText topic)
  | .version => success versionText
  | .misuse => ⟨2, "", misuseText⟩

end Output

variable {m : Type → Type} [Monad m]

/-! ### Settings and reference data -/

/-- The extension of a path: what follows the last dot of its last part, unless that part starts
with its only dot. -/
def extension? (path : String) : Option String :=
  let name := path.toList.reverse.takeWhile (· != '/')
  let ext := name.takeWhile (· != '.')
  match name.drop ext.length with
  | '.' :: _ :: _ => some (String.ofList ext.reverse)
  | _ => none

/-- The text of a layered file: the file itself if it ends in `.json`, or, when there is no such
file, the file with that ending added. -/
def layerText (h : Host m) (path : String) : m (Option String) := do
  match ← h.readFile path with
  | .ok text => return if extension? path = some "json" then some text else none
  | .error .notText => return none
  | .error _ => return (← h.readFile (path ++ ".json")).toOption

def loadSettings (h : Host m) (path : String) : m (Except Failure Settings) := do
  let text ← layerText h path
  match Settings.load text (← h.environment) with
  | some s => return .ok s
  | none =>
    return .error (.because ("failed to load configuration from " ++ quoted path)
      "configuration error")

def badReference (cause : String) : Failure := .because "invalid franchise reference data" cause

def loadReference (h : Host m) (s : Settings) : m (Except Failure Franchise.Reference) := do
  match s.referencePath with
  | none => return .ok .league
  | some path =>
    match (← layerText h path).bind Franchise.Reference.load with
    | some data => return .ok data
    | none => return .error (badReference "configuration error")

def historyOf (data : Franchise.Reference) : Except Failure Franchise.History :=
  match Franchise.History.load data with
  | .ok h => .ok h
  | .error e => .error (badReference e.message)

/-! ### Commands that only print -/

/-- A value in pretty form, as a line of its own. -/
def prettyLine (v : Json) : String := v.pretty ++ "\n"

def decodedJson (s : Settings) (h : Franchise.History) (g : GameId) : Json :=
  let teams := g.teams h
  .obj [("game_id", .str g.text), ("game_date", g.date.toJson), ("season_year", .ofInt g.season),
    ("away_segment", .str g.awaySegment), ("home_segment", .str g.homeSegment),
    ("seq", .ofNat g.sequence), ("away_team", .ofText? teams.away),
    ("home_team", .ofText? teams.home), ("review_url", .str (g.reviewUrl s.baseUrl))]

def decode (s : Settings) (h : Franchise.History) (gameId : String) : Except Failure String :=
  match GameId.decode gameId with
  | .ok g => .ok (prettyLine (decodedJson s h g))
  | .error e => .error (.plain e.message)

def resolve (h : Franchise.History) (token : String) (year : Int) : Except Failure String :=
  match h.team? token year with
  | some code => .ok (code ++ "\t" ++ (h.franchiseCode? code year).getD code ++ "\n")
  | none =>
    .error (.plain (quoted token ++ " does not resolve to a team in " ++ signedDecimal year))

/-- Extracts and validates the box score of a page. -/
def extractPage (h : Franchise.History) (file gameId : String) (date : Option Date)
    (markup : String) : Except Failure String :=
  match Page.extract h (Page.ofMarkup markup) gameId date with
  | .ok b =>
    .ok (prettyLine (.obj [("box_score", b.toJson),
      ("validation", (Validation.ofBoxScore h.canonicalCodes b).toJson)]))
  | .error e => .error (.because ("no box score extracted from " ++ file) e.message)

def readOr (h : Host m) (doing path : String) : m (Except Failure String) := do
  match ← h.readFile path with
  | .ok text => return .ok text
  | .error e => return .error (.because (doing ++ path) e.message)

/-- Extracts and validates the box score of a saved page. -/
def extract (host : Host m) (h : Franchise.History) (file gameId : String) (date : Option Date) :
    m (Except Failure String) := do
  return (← readOr host "reading " file).bind (extractPage h file gameId date)

/-! ### Commands on the store -/

def openStore (host : Host m) (path : String) : m (Except Failure Store) := do
  match ← host.openStore path with
  | some store => return .ok store
  | none =>
    return .error (.because ("failed to open store at " ++ quoted path)
      ("store error: " ++ StoreError.message .database))

def storePath (host : Host m) (s : Settings) : m String := do
  return s.storeFile ((← host.environment).lookup "HOME")

/-- The game identifiers of a text: one per line, comments and blank lines left out. -/
def listedIds (text : String) : List String :=
  ((splitAtChar '\n' text.toList).map fun line =>
    String.ofList (trim (line.takeWhile (· != '#')))).filter (· ≠ "")

def resultLine (r : Ingest.GameResult) : String :=
  "\t".intercalate [r.gameId, r.outcome.status.name, decimal r.attempts,
    "; ".intercalate r.outcome.messages] ++ "\n"

def summaryLine (s : RunSummary) : String :=
  let count := fun g => Count.text (s.withStatus g)
  "run " ++ s.run.text ++ ": " ++ Count.text s.total ++ " games, " ++ count .accepted ++
    " accepted, " ++ count .quarantined ++ " quarantined, " ++ count .noData ++ " no data, " ++
    count .failedTransient ++ " failed (transient), " ++ count .failed ++ " failed\n"

def reportText (r : Ingest.Report) : String :=
  String.join (r.results.map resultLine) ++ summaryLine r.summary

def gamesOf (host : Host m) (gameIds : List String) (fromFile : Option String) :
    m (Except Failure (List String)) := do
  let all : Except Failure (List String) ← match fromFile with
    | none => pure (.ok gameIds)
    | some path =>
      let text ← readOr host "reading game ids from " path
      pure (text.map fun t => gameIds ++ listedIds t)
  return all.bind fun ids => if ids.isEmpty then .error (.plain "no game ids given") else .ok ids

def setupOf (s : Settings) (h : Franchise.History) (store : Store) : Ingest.Setup :=
  ⟨s, h, fun q => (store.lookup q).mapError StoreError.message⟩

def ingest (host : Host m) (s : Settings) (h : Franchise.History) (gameIds : List String)
    (fromFile : Option String) : m (Except Failure String) := do
  match ← gamesOf host gameIds fromFile with
  | .error f => return .error f
  | .ok ids =>
    let path ← storePath host s
    match ← openStore host path with
    | .error f => return .error f
    | .ok store =>
      let run ← Ingest.Run.carryOut (setupOf s h store) host.surroundings (← host.newRun)
        (.initial s store) ids
      host.closeStore path run.shared.store
      return .ok (reportText run.report)

/-- Reads the entries of a roster from text. -/
def rosterEntries (text : String) : Except Failure (List RosterEntry) :=
  match (Json.read? text).bind (Json.list? RosterEntry.ofJson?) with
  | some entries => .ok entries
  | none =>
    .error (.because "roster file must be a JSON array of entries" (StoreError.message .json))

def rosterImport (host : Host m) (s : Settings) (file : String) : m (Except Failure String) := do
  match (← readOr host "reading " file).bind rosterEntries with
  | .error f => return .error f
  | .ok entries =>
    let path ← storePath host s
    match ← openStore host path with
    | .error f => return .error f
    | .ok store =>
      host.closeStore path (entries.foldl Store.addRosterEntry store)
      return .ok ""

/-! ### The program -/

def perform (host : Host m) (s : Settings) (h : Franchise.History) :
    Command → m (Except Failure String)
  | .ingest gameIds fromFile => ingest host s h gameIds fromFile
  | .decode gameId => return decode s h gameId
  | .resolve token year => return resolve h token year
  | .extract file gameId date => extract host h file gameId date
  | .rosterImport file => rosterImport host s file

def invoke (host : Host m) (i : Invocation) : m (Except Failure String) := do
  match ← loadSettings host i.config with
  | .error f => return .error f
  | .ok s =>
    match (← loadReference host s).bind historyOf with
    | .error f => return .error f
    | .ok h => perform host s h i.command

def run (host : Host m) (args : List String) : m Output := do
  match readArguments args with
  | .error halt => return .ofHalt halt
  | .ok i => return .ofResult (← invoke host i)

end Scorebook.CommandLine
