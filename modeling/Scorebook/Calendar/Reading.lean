import Scorebook.Calendar.Date
import Scorebook.Text.Blank

/-!
# Reading dates

Dates are read leniently: blanks before a number are skipped, the year may carry a sign (then it
may have any number of digits) or be shorter than four digits, month and day may have one digit.
The numbers must name a real day, and nothing may follow them.
-/

namespace Scorebook.Calendar
open Text

/-- Why a text is no date. -/
inductive ReadError where
  | outOfRange
  | invalid
  | tooShort
  | trailing
deriving DecidableEq, Repr

def ReadError.message : ReadError → String
  | .outOfRange => "input is out of range"
  | .invalid => "input contains invalid characters"
  | .tooShort => "premature end of input"
  | .trailing => "trailing input"

/-- The result of reading one part: its value and the rest of the text. -/
abbrev Reading (α : Type) := Except ReadError (α × List Char)

/-- The largest value a single number may have. -/
def maxNumber : Nat := 9223372036854775807

/-- Reads at most `width` digits after those already read. -/
def digitsUpTo : Nat → Nat → List Char → Reading Nat
  | 0, acc, cs => .ok (acc, cs)
  | _ + 1, acc, [] => .ok (acc, [])
  | width + 1, acc, c :: cs =>
    if c.isDigit then
      let next := acc * 10 + digitValue c
      if next > maxNumber then .error .outOfRange else digitsUpTo width next cs
    else .ok (acc, c :: cs)

def number (width : Nat) : List Char → Reading Nat
  | [] => .error .tooShort
  | c :: cs => if c.isDigit then digitsUpTo width 0 (c :: cs) else .error .invalid

def exactNumber (width : Nat) (cs : List Char) : Reading Nat :=
  if cs.length < width then .error .tooShort
  else if (cs.take width).all Char.isDigit then
    .ok (digitsValue (cs.take width), cs.drop width)
  else .error .invalid

def numberBetween (low high width : Nat) (cs : List Char) : Reading Nat :=
  match number width (trimLeft cs) with
  | .error e => .error e
  | .ok (n, rest) => if low ≤ n ∧ n ≤ high then .ok (n, rest) else .error .outOfRange

/-- Reads a year: four digits at most, or any number of them after a sign. -/
def signedYear (cs : List Char) : Reading Int :=
  let result : Reading Int :=
    match trimLeft cs with
    | '-' :: r => (number r.length r).map fun (n, rest) => (-(n : Int), rest)
    | '+' :: r => (number r.length r).map fun (n, rest) => ((n : Int), rest)
    | r => (number 4 r).map fun (n, rest) => ((n : Int), rest)
  match result with
  | .error e => .error e
  | .ok (y, rest) =>
    if -2147483648 ≤ y ∧ y ≤ 2147483647 then .ok (y, rest) else .error .outOfRange

def mark (c : Char) : List Char → Except ReadError (List Char)
  | [] => .error .tooShort
  | d :: cs => if d = c then .ok cs else .error .invalid

def realDate (year : Int) (month day : Nat) : Except ReadError Date :=
  match Date.ofNumbers? year month day with
  | some d => .ok d
  | none => .error .outOfRange

def readCompact (cs : List Char) : Except ReadError Date := do
  let (year, cs) ← signedYear cs
  let (month, cs) ← numberBetween 1 12 2 cs
  let (day, cs) ← numberBetween 1 31 2 cs
  if cs.isEmpty then realDate year month day else .error .trailing

/-- Reads the three numbers of a hyphenated date, leaving what follows. -/
def hyphenated (cs : List Char) : Except ReadError ((Int × Nat × Nat) × List Char) := do
  let (year, cs) ← signedYear cs
  let cs ← mark '-' (trimLeft cs)
  let (month, cs) ← numberBetween 1 12 2 cs
  let cs ← mark '-' (trimLeft cs)
  let (day, cs) ← numberBetween 1 31 2 cs
  .ok ((year, month, day), cs)

/-- Reads a hyphenated date; blanks may follow it. -/
def readHyphenated (cs : List Char) : Except ReadError Date := do
  let ((year, month, day), cs) ← hyphenated cs
  if (trimLeft cs).isEmpty then realDate year month day else .error .trailing

end Scorebook.Calendar
