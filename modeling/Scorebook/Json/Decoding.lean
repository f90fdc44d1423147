import Scorebook.Json.Basic
import Scorebook.Text.Numeral

/-!
# Decoding JSON into typed values

A decoder gives `none` for a value of the wrong shape.  A record is read from an object by field
name (unknown fields are skipped, a known one may be given once), or from an array by position.
An optional field may be left out of an object; only a field with a default may be left out at the
end of an array.  `Reading` collects these decoders, so that a typed value can also be read from
looser sources.
-/

namespace Scorebook.Json
open Text

abbrev Decoder (α : Type) := Json → Option α

inductive Given where
  | value (v : Json)
  /-- The object has no field of this name. -/
  | absent
  /-- The array ends before this position. -/
  | beyond

def valuesOf (name : String) (fields : List (String × Json)) : List Json :=
  (fields.filter fun f => f.1 == name).map Prod.snd

/-- What an object gives for a field; `none` when the field is repeated. -/
def givenIn (fields : List (String × Json)) (name : String) : Option Given :=
  match valuesOf name fields with
  | [] => some .absent
  | [v] => some (.value v)
  | _ => none

/-- What an array gives for as many fields. -/
def givenAt : List String → List Json → Option (List Given)
  | [], [] => some []
  | [], _ :: _ => none
  | _ :: names, [] => (givenAt names []).map (.beyond :: ·)
  | _ :: names, v :: vs => (givenAt names vs).map (.value v :: ·)

/-- What a value gives for the fields of a record, in the order of the names. -/
def record? (names : List String) : Json → Option (List Given)
  | .obj fields => names.mapM (givenIn fields)
  | .arr items => givenAt names items
  | _ => none

def Given.required {α : Type} (decode : Decoder α) : Given → Option α
  | .value v => decode v
  | _ => none

/-- A field that may be `null` or, in an object, left out. -/
def Given.optional {α : Type} (decode : Decoder α) : Given → Option (Option α)
  | .value .null => some none
  | .value v => (decode v).map some
  | .absent => some none
  | .beyond => none

/-- A field that takes a default when it is left out. -/
def Given.orDefault {α : Type} (default : α) (decode : Decoder α) : Given → Option α
  | .value v => decode v
  | _ => some default

def text? : Decoder String
  | .str s => some s
  | _ => none

def bool? : Decoder Bool
  | .bool b => some b
  | _ => none

def natUpTo? (bound : Nat) : Decoder Nat
  | .num (.int (.ofNat n)) => if n ≤ bound then some n else none
  | _ => none

def count? : Decoder UInt32 := fun v => (natUpTo? maxU32 v).map UInt32.ofNat

def intBetween? (low high : Int) : Decoder Int
  | .num (.int i) => if low ≤ i ∧ i ≤ high then some i else none
  | _ => none

def season? : Decoder Int := intBetween? (-2147483648) 2147483647

/-- A floating-point number; an integer is rounded to one. -/
def binary64? : Decoder Binary64
  | .num (.float x) => some x
  | .num (.int i) => some (Binary64.ofInt i)
  | _ => none

def nullable? {α : Type} (decode : Decoder α) : Decoder (Option α)
  | .null => some none
  | v => (decode v).map some

def list? {α : Type} (decode : Decoder α) : Decoder (List α)
  | .arr items => items.mapM decode
  | _ => none

/-- How the parts of a typed value are taken from JSON: numbers within bounds, texts, truth values,
and the fields of records.  A typed value may be read in more than one way, and the ways differ in
how they convert. -/
structure Reading where
  nat : Nat → Decoder Nat
  int : Int → Int → Decoder Int
  binary64 : Decoder Binary64
  bool : Decoder Bool
  text : Decoder String
  record : List String → Decoder (List Given)

def Reading.strict : Reading :=
  ⟨natUpTo?, intBetween?, binary64?, bool?, text?, record?⟩

def Reading.count (r : Reading) : Decoder UInt32 := fun v =>
  (r.nat maxU32 v).map UInt32.ofNat

def Reading.season (r : Reading) : Decoder Int := r.int (-2147483648) 2147483647

/-- The name of a choice without content: a text, or an object with that name and `null`. -/
def choiceName? : Decoder String
  | .str s => some s
  | .obj [(name, .null)] => some name
  | _ => none

end Scorebook.Json
