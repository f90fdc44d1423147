import Scorebook.Binary64.Basic
import Scorebook.Count
import Scorebook.Json.Decoding

/-!
# Settings

What can be chosen about a run: where pages come from and records go, how many games are worked on
at a time, how requests are spaced and how failed ones are repeated.  Every setting has a default,
and the values that are used are held within safe bounds.
-/

namespace Scorebook

/-- How requests to one host are spaced, in milliseconds. -/
structure Spacing where
  least : Nat
  most : Nat
deriving DecidableEq, Repr

namespace Spacing

/-- No settings bring the delay between requests to a host below this. -/
def floor : Nat := 1000

def default : Spacing := ⟨1500, 2500⟩

/-- The bounds of the delay that are used: in order, and not below the floor. -/
def bounds (s : Spacing) : Nat × Nat :=
  (max (min s.least s.most) floor, max (max s.least s.most) floor)

def read (r : Json.Reading) : Json.Decoder Spacing := fun v =>
  match r.record ["min_delay_ms", "max_delay_ms"] v with
  | some [least, most] => do
    let least ← least.orDefault default.least (r.nat Text.maxU64)
    let most ← most.orDefault default.most (r.nat Text.maxU64)
    some ⟨least, most⟩
  | _ => none

end Spacing

/-- How often a fetch is attempted, and how long to wait before the next attempt. -/
structure RetryPolicy where
  attempts : Count
  /-- The wait after the first attempt, in milliseconds. -/
  firstWait : Nat
  /-- By how much the wait grows with each attempt. -/
  factor : Binary64
deriving DecidableEq, Repr

namespace RetryPolicy

def default : RetryPolicy := ⟨3, 1500, .ofNat 2⟩

/-- The number of attempts that are made: at least one. -/
def maxAttempts (p : RetryPolicy) : Nat := max p.attempts.toNat 1

theorem one_le_maxAttempts (p : RetryPolicy) : 1 ≤ p.maxAttempts := Nat.le_max_right ..

theorem maxAttempts_le (p : RetryPolicy) : p.maxAttempts ≤ Text.maxU32 :=
  Nat.max_le.2 ⟨Count.toNat_le p.attempts, by decide⟩

/-- The wait after a failed attempt, the first being number one, in milliseconds.  It does not
shrink, and after seventeen attempts it does not grow any more. -/
def wait (p : RetryPolicy) (attempt : Nat) : Nat :=
  (Binary64.mul (.ofNat p.firstWait) (p.factor.atLeastOne.power (min (attempt - 1) 16))).truncateTo
    Text.maxU64

def read (r : Json.Reading) : Json.Decoder RetryPolicy := fun v =>
  match r.record ["max_attempts", "initial_backoff_ms", "backoff_factor"] v with
  | some [attempts, firstWait, factor] => do
    let attempts ← attempts.orDefault default.attempts r.count
    let firstWait ← firstWait.orDefault default.firstWait (r.nat Text.maxU64)
    let factor ← factor.orDefault default.factor r.binary64
    some ⟨attempts, firstWait, factor⟩
  | _ => none

end RetryPolicy

/-- A former name of a player, and the name that rosters use now. -/
structure PlayerAlias where
  former : String
  current : String
deriving DecidableEq, Repr

def PlayerAlias.read (r : Json.Reading) : Json.Decoder PlayerAlias := fun v =>
  match r.record ["old_name", "new_name"] v with
  | some [former, current] => do
    let former ← former.required r.text
    let current ← current.required r.text
    some ⟨former, current⟩
  | _ => none

structure Settings where
  /-- The address of the pages of games. -/
  baseUrl : String
  storePath : String
  /-- How many games to work on at a time. -/
  workers : Nat
  timeoutSeconds : Nat
  userAgent : String
  spacing : Spacing
  retry : RetryPolicy
  /-- Whether the lineup page of a game is asked for its players. -/
  fetchLineup : Bool
  /-- A file that takes the place of the built-in reference data. -/
  referencePath : Option String
  aliases : List PlayerAlias
deriving DecidableEq, Repr

namespace Settings

def default : Settings :=
  { baseUrl := "https://www.koreabaseball.com/Schedule/GameCenter/Main.aspx"
    storePath := "~/.local/share/dugout/dugout.db"
    workers := 3
    timeoutSeconds := 30
    userAgent := "dugout/0.1.0"
    spacing := .default
    retry := .default
    fetchLineup := true
    referencePath := none
    aliases := [] }

/-- The most games that are worked on at a time. -/
def maxWorkers : Nat := 8

/-- The number of games that are worked on at a time: between one and the most. -/
def workerCount (s : Settings) : Nat := min (max s.workers 1) maxWorkers

/-- How long a fetch may take: at least a second, in milliseconds. -/
def timeout (s : Settings) : Nat := max s.timeoutSeconds 1 * 1000

/-- A path below a directory; an absolute path stands for itself. -/
def below (directory path : String) : String :=
  if path.startsWith "/" || directory.isEmpty then path
  else if directory.endsWith "/" then directory ++ path
  else directory ++ "/" ++ path

/-- The file of the store; a leading `~` stands for the home directory, if there is one. -/
def storeFile (s : Settings) (home : Option String) : String :=
  match s.storePath.toList, home with
  | '~' :: '/' :: rest, some h => below h (String.ofList rest)
  | _, _ => s.storePath

def aliasPairs (s : Settings) : List (String × String) :=
  s.aliases.map fun a => (a.former, a.current)

def fieldNames : List String :=
  ["base_url", "store_path", "workers", "fetch_timeout_secs", "user_agent", "throttle", "retry",
    "fetch_lineup", "reference_data", "player_aliases"]

/-- A text that may be missing, `null` included. -/
def textOrNone (r : Json.Reading) : Json.Decoder (Option String) := Json.nullable? r.text

/-- Reads settings; what is left out takes its default. -/
def read (r : Json.Reading) : Json.Decoder Settings := fun v =>
  match r.record fieldNames v with
  | some [baseUrl, storePath, workers, timeout, userAgent, spacing, retry, lineup, reference,
      aliases] => do
    let baseUrl ← baseUrl.orDefault default.baseUrl r.text
    let storePath ← storePath.orDefault default.storePath r.text
    let workers ← workers.orDefault default.workers (r.nat Text.maxU64)
    let timeoutSeconds ← timeout.orDefault default.timeoutSeconds (r.nat Text.maxU64)
    let userAgent ← userAgent.orDefault default.userAgent r.text
    let spacing ← spacing.orDefault .default (Spacing.read r)
    let retry ← retry.orDefault .default (RetryPolicy.read r)
    let fetchLineup ← lineup.orDefault default.fetchLineup r.bool
    let referencePath ← reference.orDefault none (textOrNone r)
    let aliases ← aliases.orDefault [] (Json.list? (PlayerAlias.read r))
    some ⟨baseUrl, storePath, workers, timeoutSeconds, userAgent, spacing, retry, fetchLineup,
      referencePath, aliases⟩
  | _ => none

def ofJson? : Json.Decoder Settings := read .strict

end Settings

end Scorebook
