import Scorebook.Count
import Scorebook.Json.Decoding
import Scorebook.Text.Blank

/-!
# Player numbers
-/

namespace Scorebook

/-- The league's number for a player. -/
structure PlayerId where
  number : UInt32
deriving DecidableEq, Repr, Inhabited

namespace PlayerId
open Text

/-- Reads a player number; blanks around it are allowed. -/
def read (s : String) : Except NumeralError PlayerId :=
  (readNumeral maxU32 (trim s.toList)).map fun n => ⟨UInt32.ofNat n⟩

def toJson (p : PlayerId) : Json := .ofNat p.number.toNat

/-- Reads a player number from a JSON number. -/
def ofJson? : Json.Decoder PlayerId := fun v => (Json.count? v).map PlayerId.mk

/-- Puts a number among ascending ones; one that is there is not repeated. -/
def put (p : PlayerId) : List PlayerId → List PlayerId
  | [] => [p]
  | q :: qs =>
    if p.number.toNat < q.number.toNat then p :: q :: qs
    else if p = q then q :: qs
    else q :: put p qs

end PlayerId

end Scorebook
