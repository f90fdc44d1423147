import Scorebook.Calendar.Encoding
import Scorebook.Franchise.History
import Scorebook.Side
import Scorebook.Text.Quoted

/-!
# Game identifiers

A game is identified by thirteen characters: eight of its date, two for each team, and a digit that
tells the games of a doubleheader apart (`20240323HHLG0`).  `decode` reads an identifier, `encode`
writes one.
-/

namespace Scorebook
open Text

/-- Why a text is no game identifier, with the text. -/
inductive GameIdReason where
  | wrongLength
  | badDate (error : Calendar.ReadError)
  | badSegment (segment : String)
  | notADigit
  | sequenceTooLarge
deriving DecidableEq, Repr

def GameIdReason.message : GameIdReason → String
  | .wrongLength => "expected 13 ASCII characters"
  | .badDate e => "bad date: " ++ e.message
  | .badSegment s => "bad team segment " ++ quoted s
  | .notADigit => "doubleheader sequence is not a digit"
  | .sequenceTooLarge => "doubleheader sequence must be a single digit"

structure GameIdError where
  text : String
  reason : GameIdReason
deriving DecidableEq, Repr

def GameIdError.message (e : GameIdError) : String :=
  "invalid game id " ++ quoted e.text ++ ": " ++ e.reason.message

structure GameId where
  /-- The identifier as text, its segments in upper case. -/
  text : String
  date : Date
  season : Int
  awaySegment : String
  homeSegment : String
  sequence : Nat
deriving DecidableEq

namespace GameId

def size : Nat := 13

/-- Whether a segment is two ASCII letters or digits. -/
def isSegment (s : String) : Bool :=
  s.toList.length == 2 && s.toList.all Char.isAlphanum

def refuse {α : Type} (text : String) (reason : GameIdReason) : Except GameIdError α :=
  .error ⟨text, reason⟩

def checkSegment (text segment : String) : Except GameIdError Unit :=
  if isSegment segment then .ok () else refuse text (.badSegment segment)

def isAscii (c : Char) : Bool := c.toNat < 128

/-- Reads an identifier; blanks around it are allowed.  The characters of the date are kept as
they are written. -/
def decode (text : String) : Except GameIdError GameId :=
  let cs := trim text.toList
  if cs.length ≠ size ∨ !cs.all isAscii then refuse text .wrongLength
  else
    let day := cs.take 8
    match Calendar.readCompact day with
    | .error e => refuse text (.badDate e)
    | .ok date => do
      let away := asciiUppered (String.ofList ((cs.drop 8).take 2))
      let home := asciiUppered (String.ofList ((cs.drop 10).take 2))
      checkSegment text away
      checkSegment text home
      match numeral? maxU8 (cs.drop 12) with
      | none => refuse text .notADigit
      | some n =>
        .ok ⟨String.ofList day ++ away ++ home ++ decimal n, date, date.year, away, home, n⟩

def encode (date : Date) (away home : String) (sequence : Nat) : Except GameIdError String := do
  let away := asciiUppered away
  let home := asciiUppered home
  let text := String.ofList date.compact ++ away ++ home ++ decimal sequence
  checkSegment text away
  checkSegment text home
  if sequence > 9 then refuse text .sequenceTooLarge else .ok text

def segment (g : GameId) : Side → String
  | .away => g.awaySegment
  | .home => g.homeSegment

/-- The code of a side's team in the season of the game.  A segment that stands for no team of the
season is looked up in the table of segments, and what stands there is looked up again or, if it
stands for no team either, taken as it is. -/
def team? (g : GameId) (h : Franchise.History) (side : Side) : Option String :=
  match h.team? (g.segment side) g.season with
  | some code => some code
  | none => (h.segmentCode? (g.segment side)).map fun code => (h.team? code g.season).getD code

def teams (g : GameId) (h : Franchise.History) : PerSide (Option String) := .ofFn (g.team? h)

def sectionUrl (g : GameId) (baseUrl name : String) : String :=
  baseUrl ++ "?gameId=" ++ g.text ++ "&gameDate=" ++ String.ofList g.date.compact ++
    "&section=" ++ name

/-- The address of the review page, which holds the box score. -/
def reviewUrl (g : GameId) (baseUrl : String) : String := g.sectionUrl baseUrl "REVIEW"

def lineupUrl (g : GameId) (baseUrl : String) : String := g.sectionUrl baseUrl "LINEUP"

/-! ### As JSON -/

/-- The parts of an identifier as an object. -/
def toJson (g : GameId) : Json :=
  .obj [("game_id", .str g.text), ("game_date", g.date.toJson),
    ("season_year", .ofInt g.season), ("away_segment", .str g.awaySegment),
    ("home_segment", .str g.homeSegment), ("seq", .ofNat g.sequence)]

def ofJson? : Json.Decoder GameId := fun v =>
  match Json.record?
    ["game_id", "game_date", "season_year", "away_segment", "home_segment", "seq"] v with
  | some [text, date, season, away, home, sequence] => do
    let text ← text.required Json.text?
    let date ← date.required Date.ofJson?
    let season ← season.required Json.season?
    let away ← away.required Json.text?
    let home ← home.required Json.text?
    let sequence ← sequence.required (Json.natUpTo? maxU8)
    some ⟨text, date, season, away, home, sequence⟩
  | _ => none

end GameId

end Scorebook
