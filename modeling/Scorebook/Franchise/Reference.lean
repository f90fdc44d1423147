import Scorebook.Json.Decoding

/-!
# Reference data on franchises

The league's history as tables: which code a franchise used over which seasons, its modern code,
the codes of sides that are no franchise, and the names and game-id segments that stand for a
code.  The tables are plain lists; `Franchise.History` checks them and answers questions.
-/

namespace Scorebook

/-- The number of a franchise, the same through all of its names and codes. -/
structure FranchiseId where
  number : Nat
deriving DecidableEq, Repr, Inhabited

namespace Franchise

/-- A code that a franchise used over a span of seasons; without a last season it is still used. -/
structure Entry where
  franchise : FranchiseId
  code : String
  first : Int
  last : Option Int
deriving DecidableEq, Repr

/-- Whether the season lies in the span of the entry. -/
def Entry.covers (e : Entry) (season : Int) : Bool :=
  e.first ≤ season && e.last.all (season ≤ ·)

/-- The modern code of a franchise. -/
structure ModernCode where
  franchise : FranchiseId
  code : String
deriving DecidableEq, Repr

/-- A name or segment that stands for a code. -/
structure Alias where
  token : String
  code : String
deriving DecidableEq, Repr

structure Reference where
  history : List Entry
  modern : List ModernCode
  /-- Codes of sides that are no franchise, such as all-star teams. -/
  designators : List String
  /-- Team names as pages print them. -/
  names : List Alias
  /-- Segments of game ids that are no code of their season. -/
  segments : List Alias
deriving DecidableEq, Repr

/-! ### As JSON -/

def Entry.toJson (e : Entry) : Json :=
  .obj [("franchise_id", .ofNat e.franchise.number), ("team_code", .str e.code),
    ("start_season", .ofInt e.first), ("end_season", .ofOption .ofInt e.last)]

def ModernCode.toJson (m : ModernCode) : Json :=
  .obj [("franchise_id", .ofNat m.franchise.number), ("code", .str m.code)]

def Alias.toJson (a : Alias) : Json := .obj [("token", .str a.token), ("code", .str a.code)]

def Reference.toJson (r : Reference) : Json :=
  .obj [("history", .arr (r.history.map Entry.toJson)),
    ("canonical", .arr (r.modern.map ModernCode.toJson)),
    ("designators", .ofTexts r.designators),
    ("names", .arr (r.names.map Alias.toJson)),
    ("segments", .arr (r.segments.map Alias.toJson))]

def franchiseId (r : Json.Reading) : Json.Decoder FranchiseId := fun v =>
  (r.nat Text.maxU16 v).map FranchiseId.mk

def Entry.read (r : Json.Reading) : Json.Decoder Entry := fun v =>
  match r.record ["franchise_id", "team_code", "start_season", "end_season"] v with
  | some [franchise, code, first, last] => do
    let franchise ← franchise.required (franchiseId r)
    let code ← code.required r.text
    let first ← first.required r.season
    let last ← last.optional r.season
    some ⟨franchise, code, first, last⟩
  | _ => none

def ModernCode.read (r : Json.Reading) : Json.Decoder ModernCode := fun v =>
  match r.record ["franchise_id", "code"] v with
  | some [franchise, code] => do
    let franchise ← franchise.required (franchiseId r)
    let code ← code.required r.text
    some ⟨franchise, code⟩
  | _ => none

def Alias.read (r : Json.Reading) : Json.Decoder Alias := fun v =>
  match r.record ["token", "code"] v with
  | some [token, code] => do
    let token ← token.required r.text
    let code ← code.required r.text
    some ⟨token, code⟩
  | _ => none

/-- Reads the tables; the last three may be left out. -/
def Reference.read (r : Json.Reading) : Json.Decoder Reference := fun v =>
  match r.record ["history", "canonical", "designators", "names", "segments"] v with
  | some [history, modern, designators, names, segments] => do
    let history ← history.required (Json.list? (Entry.read r))
    let modern ← modern.required (Json.list? (ModernCode.read r))
    let designators ← designators.orDefault [] (Json.list? r.text)
    let names ← names.orDefault [] (Json.list? (Alias.read r))
    let segments ← segments.orDefault [] (Json.list? (Alias.read r))
    some ⟨history, modern, designators, names, segments⟩
  | _ => none

def Reference.ofJson? : Json.Decoder Reference := Reference.read .strict

end Franchise

end Scorebook
