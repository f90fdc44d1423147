import Scorebook.Powers
import Scorebook.Text.Numeral
import Scorebook.Text.Quoted
import Scorebook.Text.Search

/-!
# Numeric hosts

A host may be an address: four bytes, written with up to four numbers in decimal, octal or
hexadecimal, or eight 16-bit groups in brackets.  Addresses are shown in one standard form.
-/

namespace Scorebook.Url
open Text

/-- The value of digits to a base of at most 16; no digits are zero. -/
def valueToBase? (base : Nat) (cs : List Char) : Option Nat :=
  cs.foldlM (fun n c => ((hexValue? c).filter (· < base)).map fun d => n * base + d) 0

/-! ### Four bytes -/

/-- A number of an address of four bytes: hexadecimal after `0x`, octal after `0`, else decimal. -/
def addressNumber? : List Char → Option Nat
  | [] => none
  | '0' :: 'x' :: cs => valueToBase? 16 cs
  | '0' :: 'X' :: cs => valueToBase? 16 cs
  | '0' :: c :: cs => valueToBase? 8 (c :: cs)
  | cs => valueToBase? 10 cs

/-- The parts of a host between its dots; a dot at the end does not count. -/
def dotParts (cs : List Char) : List (List Char) :=
  match (splitAtChar '.' cs).reverse with
  | [] :: p :: ps => (p :: ps).reverse
  | ps => ps.reverse

/-- Whether a host has to be an address of four bytes: its last part is a number. -/
def endsInNumber (cs : List Char) : Bool :=
  match (dotParts cs).getLast? with
  | some p => !p.isEmpty && (p.all Char.isDigit || (addressNumber? p).isSome)
  | none => false

/-- The address of one to four numbers: the last one fills the bytes that are left. -/
def fourBytes? (numbers : List Nat) : Option Nat :=
  match numbers.reverse with
  | [] => none
  | last :: front =>
    if front.length < 4 && front.all (· < 256) && last < twoTo (8 * (4 - front.length)) then
      some (front.reverse.foldl (fun n b => n * 256 + b) 0 * twoTo (8 * (4 - front.length)) + last)
    else none

/-- An address of four bytes in decimal with dots. -/
def showFourBytes (n : Nat) : String :=
  ".".intercalate ([n / 16777216, n / 65536 % 256, n / 256 % 256, n % 256].map decimal)

/-- Reads a host that ends in a number. -/
def readFourBytes? (cs : List Char) : Option String := do
  let numbers ← (dotParts cs).mapM addressNumber?
  let n ← fourBytes? numbers
  some (showFourBytes n)

/-! ### Eight groups -/

def group? (cs : List Char) : Option Nat :=
  if 1 ≤ cs.length && cs.length ≤ 4 then valueToBase? 16 cs else none

/-- A byte in decimal without zeros in front. -/
def plainByte? : List Char → Option Nat
  | [] => none
  | ['0'] => some 0
  | '0' :: _ => none
  | cs => (valueToBase? 10 cs).filter (· < 256)

/-- The groups of a part; the last may be given as four bytes. -/
def groups? : List (List Char) → Option (List Nat)
  | [] => some []
  | [last] =>
    if last.contains '.' then do
      match ← (splitAtChar '.' last).mapM plainByte? with
      | [a, b, c, d] => some [a * 256 + b, c * 256 + d]
      | _ => none
    else (group? last).map ([·])
  | g :: gs => do
    let n ← group? g
    let ns ← groups? gs
    some (n :: ns)

/-- The groups of a text without a gap. -/
def groupsOf? (cs : List Char) : Option (List Nat) :=
  if cs.isEmpty then some [] else groups? (splitAtChar ':' cs)

/-- Reads eight groups; two colons stand for a gap of zero groups. -/
def eightGroups? (cs : List Char) : Option (List Nat) :=
  match cutAt? [':', ':'] cs with
  | none => (groups? (splitAtChar ':' cs)).filter fun gs => gs.length == 8
  | some (before, after) => do
    let front ← if before.contains '.' then none else groupsOf? before
    let back ← groupsOf? after
    let given := front.length + back.length
    if given < 8 then some (front ++ List.replicate (8 - given) 0 ++ back) else none

def zerosInFront (gs : List Nat) : Nat := (gs.takeWhile (· == 0)).length

/-- Where the longest run of zero groups begins, and its length; of equal runs the first. -/
def longestZeroRun (gs : List Nat) : Nat × Nat :=
  (List.range gs.length).foldl (fun (start, length) i =>
    let n := zerosInFront (gs.drop i)
    if length < n then (i, n) else (start, length)) (0, 0)

def joinGroups (gs : List Nat) : String :=
  ":".intercalate (gs.map fun g => String.ofList (hexDigits g))

/-- Eight groups in brackets, the longest run of two or more zero groups as a gap. -/
def showGroups (gs : List Nat) : String :=
  let (start, length) := longestZeroRun gs
  let inner :=
    if length < 2 then joinGroups gs
    else joinGroups (gs.take start) ++ "::" ++ joinGroups (gs.drop (start + length))
  "[" ++ inner ++ "]"

def readBracketed? (cs : List Char) : Option String :=
  match cs with
  | '[' :: rest =>
    if rest.getLast? == some ']' then (eightGroups? rest.dropLast).map showGroups else none
  | _ => none

end Scorebook.Url
