import Scorebook.Binary64.Basic

/-!
# JSON values

A number written as an integer stays an integer while it fits 64 bits, signed or unsigned; every
other number is floating point.  The fields of an object keep their order, repeated names included.
-/

namespace Scorebook

inductive JsonNumber where
  | int (i : Int)
  | float (x : Binary64)
deriving DecidableEq, Repr, Inhabited

inductive Json where
  | null
  | bool (b : Bool)
  | num (n : JsonNumber)
  | str (s : String)
  | arr (items : List Json)
  | obj (fields : List (String × Json))
deriving Inhabited

namespace Json

def ofNat (n : Nat) : Json := num (.int n)

def ofInt (i : Int) : Json := num (.int i)

/-- A floating-point number as a value; what is no number is `null`. -/
def ofBinary64 (x : Binary64) : Json := if x.isFinite then num (.float x) else null

def ofOption {α : Type} (f : α → Json) : Option α → Json
  | none => null
  | some a => f a

def ofText? (s : Option String) : Json := ofOption str s

def ofNat? (n : Option Nat) : Json := ofOption ofNat n

def ofTexts (ss : List String) : Json := arr (ss.map str)

/-- Puts a field, replacing one of the same name in its place. -/
def putField (name : String) (value : Json) : List (String × Json) → List (String × Json)
  | [] => [(name, value)]
  | (n, v) :: rest =>
    if n = name then (name, value) :: rest else (n, v) :: putField name value rest

/-- Fields with one entry per name, the value that was given last. -/
def lastGiven (fields : List (String × Json)) : List (String × Json) :=
  fields.foldl (fun done (name, value) => putField name value done) []

mutual
/-- The value with no name repeated in any object: of several the last one counts. -/
def withoutRepeats : Json → Json
  | .arr items => .arr (itemsWithoutRepeats items)
  | .obj fields => .obj (lastGiven (fieldsWithoutRepeats fields))
  | v => v
def itemsWithoutRepeats : List Json → List Json
  | [] => []
  | v :: vs => withoutRepeats v :: itemsWithoutRepeats vs
def fieldsWithoutRepeats : List (String × Json) → List (String × Json)
  | [] => []
  | (n, v) :: rest => (n, withoutRepeats v) :: fieldsWithoutRepeats rest
end

end Json

end Scorebook
