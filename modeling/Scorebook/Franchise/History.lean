import Scorebook.Franchise.Reference
import Scorebook.Franchise.Codes
import Scorebook.Text.Blank
import Scorebook.Text.Case

/-!
# The history of the franchises

A history is reference data that has passed the checks of `History.load`: no span of seasons is
inverted, the spans of a franchise follow each other without overlap or gap, no code belongs to two
franchises in one season, and every franchise has exactly one modern code, which is a code of its
own.  A team is always looked up for a season, never by its code alone.
-/

namespace Scorebook.Franchise
open Text

/-- Why reference data are refused. -/
inductive HistoryError where
  | invertedInterval (franchise : FranchiseId) (code : String) (first last : Int)
  | overlappingInterval (franchise : FranchiseId) (code next : String) (season : Int)
  | gap (franchise : FranchiseId) (first last : Int)
  | openIntervalNotLast (franchise : FranchiseId) (code : String)
  | ambiguousCode (code : String) (franchise other : FranchiseId) (season : Int)
  | missingModernCode (franchise : FranchiseId)
  | duplicateModernCode (franchise : FranchiseId)
  | foreignModernCode (franchise : FranchiseId) (code : String)
deriving DecidableEq, Repr

def idText (f : FranchiseId) : String := decimal f.number

def HistoryError.message : HistoryError → String
  | .invertedInterval f code first last =>
    "franchise " ++ idText f ++ ": " ++ code ++ " starts in " ++ signedDecimal first ++
      " but ends in " ++ signedDecimal last
  | .overlappingInterval f code next season =>
    "franchise " ++ idText f ++ ": " ++ code ++ " and " ++ next ++ " overlap in " ++
      signedDecimal season
  | .gap f first last =>
    "franchise " ++ idText f ++ ": no code covers seasons " ++ signedDecimal first ++ "..=" ++
      signedDecimal last
  | .openIntervalNotLast f code =>
    "franchise " ++ idText f ++ ": open-ended interval for " ++ code ++ " is not the last one"
  | .ambiguousCode code f g season =>
    "code " ++ code ++ " belongs to franchises " ++ idText f ++ " and " ++ idText g ++ " in " ++
      signedDecimal season
  | .missingModernCode f => "franchise " ++ idText f ++ " has no canonical code"
  | .duplicateModernCode f => "franchise " ++ idText f ++ " has more than one canonical code"
  | .foreignModernCode f code =>
    "canonical code " ++ code ++ " is not a code of franchise " ++ idText f

/-! ### The tables by franchise and by code -/

/-- Puts a franchise at its place among ascending ones, unless it is there. -/
def putFranchise (f : FranchiseId) : List FranchiseId → List FranchiseId
  | [] => [f]
  | g :: gs =>
    if f.number < g.number then f :: g :: gs
    else if f = g then g :: gs
    else g :: putFranchise f gs

/-- The franchises that have entries, in ascending order. -/
def franchisesOf (entries : List Entry) : List FranchiseId :=
  entries.foldl (fun done e => putFranchise e.franchise done) []

/-- The entries of a franchise by their first season. -/
def timeline (entries : List Entry) (f : FranchiseId) : List Entry :=
  (entries.filter fun e => e.franchise == f).mergeSort fun a b => a.first ≤ b.first

/-- The entries whose upper-cased code is the given text, in order of declaration. -/
def entriesOfCode (entries : List Entry) (key : String) : List Entry :=
  entries.filter fun e => uppered e.code == key

/-! ### The checks -/

def invertedProblem? (e : Entry) : Option HistoryError :=
  match e.last with
  | none => none
  | some last =>
    if last < e.first then some (.invertedInterval e.franchise e.code e.first last) else none

/-- What is wrong between an entry and the next one of the same franchise. -/
def adjacentProblem? (f : FranchiseId) (a b : Entry) : Option HistoryError :=
  match a.last with
  | none => some (.openIntervalNotLast f a.code)
  | some last =>
    if b.first ≤ last then some (.overlappingInterval f a.code b.code b.first)
    else if b.first > last + 1 then some (.gap f (last + 1) (b.first - 1))
    else none

/-- The first problem between neighbours of a timeline. -/
def timelineProblem? (f : FranchiseId) : List Entry → Option HistoryError
  | a :: b :: rest =>
    match adjacentProblem? f a b with
    | some problem => some problem
    | none => timelineProblem? f (b :: rest)
  | _ => none

def Entry.intersects (a b : Entry) : Bool :=
  b.last.all (a.first ≤ ·) && a.last.all (b.first ≤ ·)

/-- Two franchises that hold one code in a season. -/
def clashProblem? (a b : Entry) : Option HistoryError :=
  if uppered a.code = uppered b.code ∧ a.franchise ≠ b.franchise ∧ a.intersects b then
    some (.ambiguousCode (uppered a.code) a.franchise b.franchise (max a.first b.first))
  else none

/-- The first clash of an entry with a later one. -/
def ambiguityProblem? : List Entry → Option HistoryError
  | [] => none
  | a :: rest =>
    match rest.findSome? (clashProblem? a) with
    | some problem => some problem
    | none => ambiguityProblem? rest

/-- The first problem of the modern codes, after those of the franchises `named`: a code that its
franchise never had, or a second one.  Franchises without entries are passed over. -/
def modernProblem? (entries : List Entry) (named : List FranchiseId) :
    List ModernCode → Option HistoryError
  | [] => none
  | m :: rest =>
    if !entries.any (fun e => e.franchise == m.franchise) then modernProblem? entries named rest
    else if !entries.any (fun e => e.franchise == m.franchise && e.code == m.code) then
      some (.foreignModernCode m.franchise m.code)
    else if named.contains m.franchise then some (.duplicateModernCode m.franchise)
    else modernProblem? entries (m.franchise :: named) rest

def missingProblem? (entries : List Entry) (modern : List ModernCode) : Option HistoryError :=
  ((franchisesOf entries).find? fun f => !modern.any fun m => m.franchise == f).map
    .missingModernCode

/-- The first problem of reference data, in the order in which they are checked. -/
def firstProblem? (r : Reference) : Option HistoryError :=
  (r.history.findSome? invertedProblem?)
    |>.or ((franchisesOf r.history).findSome? fun f => timelineProblem? f (timeline r.history f))
    |>.or (ambiguityProblem? r.history)
    |>.or (modernProblem? r.history [] r.modern)
    |>.or (missingProblem? r.history r.modern)

/-! ### Histories -/

/-- Checked reference data, ready for lookups. -/
structure History where
  entries : List Entry
  /-- The modern codes of the franchises that have entries. -/
  modern : List ModernCode
  /-- Designators in upper case. -/
  designators : CodeSet
  /-- Upper-cased codes by printed name, the last of a name counting. -/
  names : List (String × String)
  /-- Upper-cased codes by upper-cased segment, the last of a segment counting. -/
  segments : List (String × String)

/-- The value of the last pair with the given key. -/
def lastValue? (key : String) (pairs : List (String × String)) : Option String :=
  (pairs.reverse.find? fun p => p.1 == key).map Prod.snd

namespace History

def ofReference (r : Reference) : History where
  entries := r.history
  modern := r.modern.filter fun m => r.history.any fun e => e.franchise == m.franchise
  designators := .ofList (r.designators.map uppered)
  names := r.names.map fun a => (collapsed a.token, uppered a.code)
  segments := r.segments.map fun a => (uppered a.token, uppered a.code)

def load (r : Reference) : Except HistoryError History :=
  match firstProblem? r with
  | some problem => .error problem
  | none => .ok (ofReference r)

/-- The codes that a complete box score may carry: the modern ones and the designators. -/
def canonicalCodes (h : History) : CodeSet :=
  .ofList (h.modern.map (·.code) ++ h.designators.members)

/-- Whether a code is a designator, in any case. -/
def isDesignator (h : History) (code : String) : Bool := h.designators.contains (uppered code)

def designator? (h : History) (key : String) : Option String :=
  if h.designators.contains key then some key else none

/-- The upper-cased code under which a printed name or code is looked up: a code that is known
stands for itself, any other text may be a name.  A blank text is none. -/
def lookupKey? (h : History) (token : String) : Option String :=
  let name := collapsed token
  if name.isEmpty then none
  else
    let key := uppered name
    if !(entriesOfCode h.entries key).isEmpty || h.designators.contains key then some key
    else some ((lastValue? name h.names).getD key)

/-- The entries that a printed name or code stands for. -/
def entriesOf (h : History) (token : String) : List Entry :=
  match h.lookupKey? token with
  | none => []
  | some key => entriesOfCode h.entries key

/-- The code that the franchise behind a name or code used in a season.  A code that was in use
itself in that season is kept. -/
def codeInSeason? (h : History) (token : String) (season : Int) : Option String :=
  let hits := h.entriesOf token
  match hits.find? (·.covers season) with
  | some own => some own.code
  | none =>
    match hits with
    | [] => none
    | e :: _ => ((timeline h.entries e.franchise).find? (·.covers season)).map (·.code)

/-- Like `codeInSeason?`, and a designator stands for itself. -/
def team? (h : History) (token : String) (season : Int) : Option String :=
  match h.codeInSeason? token season with
  | some code => some code
  | none => (h.lookupKey? token).bind h.designator?

def modernCode? (h : History) (f : FranchiseId) : Option String :=
  (h.modern.find? fun m => m.franchise == f).map (·.code)

/-- The franchise that played under a code in a season.  The code of the season is looked up as
it is declared, among the upper-cased codes. -/
def franchise? (h : History) (token : String) (season : Int) : Option FranchiseId :=
  match h.codeInSeason? token season with
  | none => none
  | some code =>
    ((entriesOfCode h.entries code).find? (·.covers season)).map (·.franchise)

/-- The modern code of the franchise behind a code in a season; a designator stands for itself. -/
def franchiseCode? (h : History) (token : String) (season : Int) : Option String :=
  match h.franchise? token season with
  | some f => h.modernCode? f
  | none => h.designator? (uppered (trimmed token))

/-- The code in the table of segments, whatever the season. -/
def segmentCode? (h : History) (segment : String) : Option String :=
  lastValue? (uppered (trimmed segment)) h.segments

end History

end Scorebook.Franchise
