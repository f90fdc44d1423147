import Scorebook.Json.Decoding

/-!
# Eras of page layout
-/

namespace Scorebook

/-- The family of page layouts from which a box score was taken. -/
inductive Era where
  /-- Player tables with known ids, and a scoreboard. -/
  | modern
  /-- No scoreboard; the hitters' names and statistics stand in separate tables. -/
  | legacy
  /-- One table of results; player tables are found by their headers. -/
  | transitional
deriving DecidableEq, Repr, Inhabited

namespace Era

def name : Era → String
  | modern => "modern"
  | legacy => "legacy"
  | transitional => "transitional"

def ofName? (s : String) : Option Era :=
  [modern, legacy, transitional].find? fun e => e.name == s

def ofJson? : Json.Decoder Era := fun v => Json.choiceName? v |>.bind ofName?

end Era

end Scorebook
