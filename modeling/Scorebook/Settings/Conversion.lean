import Scorebook.Binary64.Decimal
import Scorebook.Json.Decoding
import Scorebook.Text.Case

/-!
# Converting scalars

Files and variables write settings loosely, so a scalar is converted to what a setting needs: a
number may be given as text, a truth value as a number, and so on.
-/

namespace Scorebook.Conversion
open Text

def word? (s : String) : Option Bool :=
  let key := foldKey s
  if ["true", "on", "yes"].contains key then some true
  else if ["false", "off", "no"].contains key then some false
  else none

def bit (b : Bool) : Nat := if b then 1 else 0

def minI64 : Int := -9223372036854775808
def maxI64 : Int := 9223372036854775807

/-- Takes a natural number of at most `bound`.  A fraction is rounded, and a number out of 64 bits
held within them. -/
def nat? (bound : Nat) (v : Json) : Option Nat :=
  let n : Option Nat := match v with
    | .num (.int (.ofNat n)) => some n
    | .num (.float x) => some (x.roundBetween 0 maxU64).toNat
    | .bool b => some (bit b)
    | .str s => ((word? s).map bit).or (numeral? maxU64 s.toList)
    | _ => none
  n.filter (· ≤ bound)

def int? (low high : Int) (v : Json) : Option Int :=
  let i : Option Int := match v with
    | .num (.int i) => some i
    | .num (.float x) => some (x.roundBetween minI64 maxI64)
    | .bool b => some (bit b)
    | .str s =>
      match word? s with
      | some b => some (bit b)
      | none => signedNumeral? minI64 maxI64 s.toList
    | _ => none
  i.filter fun i => low ≤ i ∧ i ≤ high

def binary64? : Json.Decoder Binary64
  | .num (.float x) => some x
  | .num (.int i) => some (.ofInt i)
  | .bool b => some (.ofNat (bit b))
  | .str s =>
    match word? s with
    | some b => some (.ofNat (bit b))
    | none => Binary64.read? s.toList
  | _ => none

def bool? : Json.Decoder Bool
  | .bool b => some b
  | .num (.int i) => some (i ≠ 0)
  | .num (.float x) => some (!x.isZero)
  | .str s => if s == "1" then some true else if s == "0" then some false else word? s
  | _ => none

def text? : Json.Decoder String
  | .str s => some s
  | .bool b => some (if b then "true" else "false")
  | .num (.int i) => some (signedDecimal i)
  | .num (.float x) => some (String.ofList x.plain)
  | _ => none

/-- What a value gives for the fields of a record; further items of a list do not count. -/
def record? (names : List String) : Json.Decoder (List Json.Given)
  | .arr items => Json.givenAt names (items.take names.length)
  | v => Json.record? names v

def loose : Json.Reading := ⟨nat?, int?, binary64?, bool?, text?, record?⟩

end Scorebook.Conversion
