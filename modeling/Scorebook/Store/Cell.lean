import Scorebook.Binary64.Decimal

/-!
# Cells

The value of a column in a row.  A column prefers text or integers and converts what it is given
where nothing is lost: a text column holds a number as its decimal text, an integer column holds the
number that a text spells.
-/

namespace Scorebook.Store
open Text

/-- The value of a column in a row. -/
inductive Cell where
  | null
  | int (i : Int)
  | real (x : Binary64)
  | text (s : String)
deriving DecidableEq, Repr

inductive ColumnKind where
  | text
  | integer
deriving DecidableEq, Repr

namespace Cell

def ofText? : Option String → Cell
  | none => .null
  | some s => .text s

def ofCount (c : UInt32) : Cell := .int c.toNat

def ofCount? : Option UInt32 → Cell
  | none => .null
  | some c => ofCount c

/-- The blanks that may stand around a number: those of ASCII. -/
def isNumberBlank (c : Char) : Bool := c == ' ' || ('\t' ≤ c && c ≤ '\r')

/-- A text without the blanks that may stand around a number. -/
def numberChars (s : String) : List Char :=
  ((s.toList.dropWhile isNumberBlank).reverse.dropWhile isNumberBlank).reverse

def minInt : Int := -9223372036854775808
def maxInt : Int := 9223372036854775807

/-- The integer that a floating-point number is, if it is one and lies well within the range. -/
def integral? (x : Binary64) : Option Int :=
  if !x.isFinite then none
  else
    let down := twoTo (-x.exponent).toNat
    if x.significand % down ≠ 0 then none
    else
      let magnitude : Int := x.significand / down * twoTo x.exponent.toNat
      let i := if x.negative then -magnitude else magnitude
      if minInt < i ∧ i < maxInt then some i else none

/-- A floating-point number, as an integer where it is one. -/
def ofReal (x : Binary64) : Cell :=
  match integral? x with
  | some i => .int i
  | none => .real x

def numberOf? (s : String) : Option Cell :=
  let cs := numberChars s
  match signedNumeral? minInt maxInt cs with
  | some i => some (.int i)
  | none =>
    match cs with
    | '-' :: rest => (Binary64.readUnsigned? true rest).map ofReal
    | '+' :: rest => (Binary64.readUnsigned? false rest).map ofReal
    | cs => (Binary64.readUnsigned? false cs).map ofReal

end Cell

def ColumnKind.hold : ColumnKind → Cell → Cell
  | .text, .int i => .text (signedDecimal i)
  | .text, .real x => .text (String.ofList x.plain)
  | .text, c => c
  | .integer, .text s => (Cell.numberOf? s).getD (.text s)
  | .integer, .real x => .ofReal x
  | .integer, c => c

/-- A text column keeps text as it is. -/
@[simp] theorem ColumnKind.hold_text (s : String) : ColumnKind.text.hold (.text s) = .text s := rfl

/-- An integer column keeps integers as they are. -/
@[simp] theorem ColumnKind.hold_int (i : Int) : ColumnKind.integer.hold (.int i) = .int i := rfl

@[simp] theorem ColumnKind.hold_null (k : ColumnKind) : k.hold .null = .null := by
  cases k <;> rfl

end Scorebook.Store
