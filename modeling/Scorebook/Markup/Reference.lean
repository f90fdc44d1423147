import Scorebook.Markup.ReferenceTable
import Scorebook.Text.Numeral
import Scorebook.Text.Search

/-!
# Character references

`&name;`, `&#number;` and `&#xnumber;` stand for characters.  Some names may lack the semicolon,
but not in the value of an attribute where a letter, a digit or `=` follows.  What is no reference stands
for itself.
-/

namespace Scorebook.Markup
open Text

/-- The character that takes the place of one that must not occur. -/
def replacement : Char := '�'

/-- Reads an entry of the table of names. -/
def entryOf (cs : List Char) : List Char × List Char :=
  match cutAt? [':'] cs with
  | some (name, numbers) =>
    (name, (splitAtChar '+' numbers).map fun n => Char.ofNat (digitsValue n))
  | none => (cs, [])

def namedReferences : List (List Char × List Char) :=
  namedReferenceLines.flatMap fun line => (splitAtChar ' ' line.toList).map entryOf

def bareNames : List (List Char) :=
  bareNameLines.flatMap fun line => splitAtChar ' ' line.toList

/-- What the numbers from 0x80 to 0x9F stand for, where that is not the character itself. -/
def controlReplacements : List (Nat × Nat) :=
  [(0x80, 0x20AC), (0x82, 0x201A), (0x83, 0x0192), (0x84, 0x201E), (0x85, 0x2026),
    (0x86, 0x2020), (0x87, 0x2021), (0x88, 0x02C6), (0x89, 0x2030), (0x8A, 0x0160),
    (0x8B, 0x2039), (0x8C, 0x0152), (0x8E, 0x017D), (0x91, 0x2018), (0x92, 0x2019),
    (0x93, 0x201C), (0x94, 0x201D), (0x95, 0x2022), (0x96, 0x2013), (0x97, 0x2014),
    (0x98, 0x02DC), (0x99, 0x2122), (0x9A, 0x0161), (0x9B, 0x203A), (0x9C, 0x0153),
    (0x9E, 0x017E), (0x9F, 0x0178)]

def charOfNumber (n : Nat) : Char :=
  if n = 0 ∨ n > 0x10FFFF ∨ (0xD800 ≤ n ∧ n ≤ 0xDFFF) then replacement
  else Char.ofNat ((controlReplacements.lookup n).getD n)

def isHex (c : Char) : Bool := c.isDigit || ('a' ≤ c && c ≤ 'f') || ('A' ≤ c && c ≤ 'F')

def hexDigitValue (c : Char) : Nat :=
  if c.isDigit then c.toNat - 48 else if 'a' ≤ c then c.toNat - 87 else c.toNat - 55

def hexValue (cs : List Char) : Nat := cs.foldl (fun acc c => acc * 16 + hexDigitValue c) 0

/-- A reference: the characters it stands for, and the number of characters that it takes. -/
structure Reference where
  chars : List Char
  size : Nat

/-- The reference of a number written with some digits after a start of `start` characters. -/
def numberReference? (start : Nat) (ds rest : List Char) (value : Nat) : Option Reference :=
  if ds.isEmpty then none
  else
    let semicolon := if rest.head? = some ';' then 1 else 0
    some ⟨[charOfNumber value], start + ds.length + semicolon⟩

def readNumber? : List Char → Option Reference
  | c :: cs =>
    if c = 'x' ∨ c = 'X' then
      let ds := cs.takeWhile isHex
      numberReference? 2 ds (cs.dropWhile isHex) (hexValue ds)
    else
      let ds := (c :: cs).takeWhile Char.isDigit
      numberReference? 1 ds ((c :: cs).dropWhile Char.isDigit) (digitsValue ds)
  | [] => none

/-- The longest name without semicolon at the start of the text. -/
def longestBareName (cs : List Char) : List Char :=
  bareNames.foldl
    (fun best name =>
      if (afterStart? name cs).isSome && name.length > best.length then name else best)
    []

/-- Whether a reference without semicolon is not taken as one in an attribute because of the
character behind it. -/
def blocksInAttribute (next : Option Char) : Bool := next.any fun c => c == '=' || c.isAlphanum

def readName? (inAttribute : Bool) (cs : List Char) : Option Reference :=
  let run := cs.takeWhile Char.isAlphanum
  let full := if cs[run.length]? = some ';' then namedReferences.lookup run else none
  match full with
  | some chars => some ⟨chars, run.length + 1⟩
  | none =>
    let name := longestBareName run
    if name.isEmpty || (inAttribute && blocksInAttribute cs[name.length]?) then none
    else (namedReferences.lookup name).map fun chars => ⟨chars, name.length⟩

def readReference? (inAttribute : Bool) : List Char → Option Reference
  | '#' :: cs => readNumber? cs
  | cs => readName? inAttribute cs

/-- Text with its references replaced, after passing over `skip` characters. -/
def decodeFrom (inAttribute : Bool) : Nat → List Char → List Char
  | _, [] => []
  | skip + 1, _ :: cs => decodeFrom inAttribute skip cs
  | 0, c :: cs =>
    if c = '&' then
      match readReference? inAttribute cs with
      | some r => r.chars ++ decodeFrom inAttribute r.size cs
      | none => c :: decodeFrom inAttribute 0 cs
    else c :: decodeFrom inAttribute 0 cs

def decodeText (cs : List Char) : List Char := decodeFrom false 0 cs

/-- The value of an attribute with its references replaced. -/
def decodeAttribute (cs : List Char) : List Char := decodeFrom true 0 cs

end Scorebook.Markup
