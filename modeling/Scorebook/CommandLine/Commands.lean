import Scorebook.Calendar.Reading

/-!
# Commands

The commands of the program, with the arguments and options that each takes.  Every command also
takes the option that names the file of settings.
-/

namespace Scorebook.CommandLine
open Text

inductive ValueKind where
  | text
  | path
  /-- A date without separators. -/
  | date
  | year
deriving DecidableEq, Repr

def readYear? (s : String) : Option Int := signedNumeral? (-2147483648) 2147483647 s.toList

def readDate? (s : String) : Option Date := (Calendar.readCompact s.toList).toOption

/-- Whether a text is a value of the kind.  A path is never empty. -/
def ValueKind.accepts : ValueKind → String → Bool
  | .text, _ => true
  | .path, s => !s.isEmpty
  | .date, s => (readDate? s).isSome
  | .year, s => (readYear? s).isSome

structure OptionSpec where
  name : String
  letter : Option Char
  placeholder : String
  kind : ValueKind
  isRequired : Bool
  help : String
deriving DecidableEq, Repr

structure ArgumentSpec where
  placeholder : String
  kind : ValueKind
  /-- Whether it stands for any number of values, none included. -/
  isRepeated : Bool
deriving DecidableEq, Repr

def programName : String := "dugout"

/-- The word that asks for help in place of a command. -/
def helpWord : String := "help"

def version : String := "0.1.0"

def about : String := "KBO box-score ingestion"

/-- The file of settings that is used when none is named. -/
def defaultConfig : String := "dugout.toml"

/-- The option that names the file of settings. -/
def configOption : OptionSpec :=
  { name := "config"
    letter := some 'c'
    placeholder := "CONFIG"
    kind := .path
    isRequired := false
    help := "Path to the TOML configuration file [default: " ++ defaultConfig ++ "]" }

inductive CommandName where
  | ingest
  | decode
  | resolve
  | extract
  | rosterImport
deriving DecidableEq, Repr

namespace CommandName

def all : List CommandName := [ingest, decode, resolve, extract, rosterImport]

def word : CommandName → String
  | ingest => "ingest"
  | decode => "decode"
  | resolve => "resolve"
  | extract => "extract"
  | rosterImport => "roster-import"

def ofWord? (s : String) : Option CommandName := all.find? fun c => c.word == s

def about : CommandName → String
  | ingest => "Fetch, extract, validate and store games"
  | decode => "Print a decoded game id and its resolved teams"
  | resolve => "Resolve a team name or code for a season"
  | extract => "Extract and validate a saved review page, printing JSON"
  | rosterImport => "Load roster entries from a JSON array into the store"

def arguments : CommandName → List ArgumentSpec
  | ingest => [⟨"GAME_IDS", .text, true⟩]
  | decode => [⟨"GAME_ID", .text, false⟩]
  | resolve => [⟨"TOKEN", .text, false⟩, ⟨"YEAR", .year, false⟩]
  | extract => [⟨"HTML_FILE", .path, false⟩]
  | rosterImport => [⟨"FILE", .path, false⟩]

/-- The option that names a file with further games. -/
def fromFileOption : OptionSpec :=
  { name := "from-file"
    letter := none
    placeholder := "FILE"
    kind := .path
    isRequired := false
    help := "Read further game ids from a file, one per line (\x60#\x60 starts a comment)" }

def gameIdOption : OptionSpec :=
  { name := "game-id"
    letter := none
    placeholder := "GAME_ID"
    kind := .text
    isRequired := true
    help := "" }

def dateOption : OptionSpec :=
  { name := "date"
    letter := none
    placeholder := "DATE"
    kind := .date
    isRequired := false
    help := "Game date as \x60YYYYMMDD\x60; defaults to the date in the game id" }

/-- The options of a command, the one that all commands share first. -/
def options : CommandName → List OptionSpec
  | ingest => [configOption, fromFileOption]
  | extract => [configOption, gameIdOption, dateOption]
  | _ => [configOption]

end CommandName

inductive HelpTopic where
  | program
  | command (name : CommandName)
  /-- The word that asks for help, itself. -/
  | help
deriving DecidableEq, Repr

inductive Command where
  | ingest (gameIds : List String) (fromFile : Option String)
  | decode (gameId : String)
  | resolve (token : String) (year : Int)
  | extract (file gameId : String) (date : Option Date)
  | rosterImport (file : String)

structure Invocation where
  /-- The file of settings. -/
  config : String
  command : Command

end Scorebook.CommandLine
